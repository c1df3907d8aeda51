import Variadic.Proofs.Defects
import Variadic.Proofs.Staging

/-!
# Ceilings are nothing but ceilings

A macro looks at its own ceiling only, and a negation at that of the calls in its operand. Two runs
on the same input, the second with a ceiling that is no lower, go through the same stages, and the
check of the ceiling is the only one that can tell them apart: it lets the second run go on where it
has stopped the first (`checkCeiling_sameUnless`). Whatever does not stop there is therefore the
same for every higher ceiling.
-/

namespace Variadic

open Argument Token

/-! ## Calls in a call -/

/-- A call of `m` with `content` is evaluated for a call of another macro: it is this very call, or
evaluated for the call in the operand, if the macro is the negation. -/
inductive Evaluates : Macro → List Token → Macro → List Token → Prop
  | self (m : Macro) (input : List Token) : Evaluates m input m input
  | operand {input inner content : List Token} {a : Argument} {callee m : Macro}
      (hinput : split input = .ok [a]) (hcall : Operand.of a.peeled = .call callee inner)
      (h : Evaluates callee inner m content) : Evaluates .not input m content

/-- The innermost cause of an issue is that the macro has more arguments than its ceiling allows. -/
def Issue.TellsCeiling (e : Issue) (m : Macro) (limits : Limits) : Prop :=
  ∃ found span, m.bound limits < found
    ∧ e.chain.getLast? = some ⟨.error, .ceilingExceeded m found (m.bound limits), some span⟩

/-- An issue that tells a ceiling is the cause of one that does. -/
theorem Issue.TellsCeiling.causedBy {e : Issue} {m : Macro} {limits : Limits}
    (h : e.TellsCeiling m limits) (n : Note) : (n.causedBy e).TellsCeiling m limits := by
  obtain ⟨found, span, hfound, hlast⟩ := h
  refine ⟨found, span, hfound, ?_⟩
  rw [Issue.chain_causedBy, List.getLast?_cons, hlast]
  rfl

namespace Macro

/-- All numeric macros have the ceiling of counting, the negation included. -/
theorem bound_of_isNumeric {m : Macro} (h : m.isNumeric) (limits : Limits) :
    m.bound limits = limits.count := by
  refine if_neg ?_
  rintro rfl
  cases h

variable {m : Macro} {limits limits' : Limits}

/-! ## The check -/

/-- A ceiling that is no lower lets the same arguments through, and others only if it is higher. -/
theorem checkCeiling_sameUnless (h : m.bound limits ≤ m.bound limits') (args : List Argument) :
    SameUnless (fun e => m.bound limits < m.bound limits' ∧ e.TellsCeiling m limits)
      (m.checkCeiling args limits) (m.checkCeiling args limits') := by
  by_cases heq : m.bound limits = m.bound limits'
  · left
    unfold checkCeiling
    rw [get_ceiling_eq_bound, get_ceiling_eq_bound, heq]
  have hlt : m.bound limits < m.bound limits' := Nat.lt_of_le_of_ne h heq
  cases hcheck : m.checkCeiling args limits with
  | ok _ =>
    left
    rw [checkCeiling_eq_ok_iff, get_ceiling_eq_bound] at hcheck ⊢
    exact Nat.le_trans hcheck h
  | error e =>
    right
    refine ⟨e, rfl, hlt, ?_⟩
    obtain ⟨excess, hexcess, rfl⟩ := checkCeiling_eq_error_iff.1 hcheck
    rw [get_ceiling_eq_bound] at hexcess ⊢
    obtain ⟨hfound, -⟩ := List.getElem?_eq_some_iff.1 hexcess
    exact ⟨args.length, excess.span, hfound, rfl⟩

/-! ## Evaluation -/

/-- The negation of a call comes out the same where the call does. -/
theorem negatedValue_call_sameUnless {callee : Macro} {content : List Token} {span : Span}
    {excused excused' : Issue → Prop}
    (h : SameUnless excused (callee.value content limits) (callee.value content limits'))
    (hcause : ∀ e, excused e → excused' (Note.causedBy ⟨.error, .operand, some span⟩ e)) :
    SameUnless excused' ((Operand.call callee content).negatedValue span limits)
      ((Operand.call callee content).negatedValue span limits') := by
  rcases h with hsame | ⟨e, he, hexcused⟩
  · left
    rw [Operand.negatedValue, Operand.negatedValue, hsame]
  · right
    exact ⟨_, Operand.negatedValue_call_of_error he, hcause e hexcused⟩

/-- The induction is on the calls in the operand, which are smaller than the input. -/
theorem value_sameUnless {m : Macro} {limits limits' : Limits}
    (h : m.bound limits ≤ m.bound limits') (input : List Token) :
    SameUnless (fun e => m.bound limits < m.bound limits'
        ∧ ∃ callee content, Evaluates m input callee content ∧ e.TellsCeiling callee limits)
      (m.value input limits) (m.value input limits') := by
  by_cases hm : m = not
  · subst hm
    cases hsplit : Argument.split input with
    | error e =>
      rw [value_not_of_error limits hsplit, value_not_of_error limits' hsplit]
      exact .refl _ _
    | ok args =>
      by_cases hlen : args.length = 1
      · obtain ⟨a, rfl⟩ := List.length_eq_one_iff.1 hlen
        rw [value_not_of_split limits hsplit, value_not_of_split limits' hsplit]
        cases hof : Operand.of a.peeled with
        | literal text => exact .refl _ _
        | expression ts => exact .refl _ _
        | call callee content =>
          have hnumeric := Operand.isNumeric_of_call hof
          have hsmaller := Operand.weightAll_lt_of_split hsplit hof
          -- what is evaluated has the same ceiling as the negation
          have hbound (l : Limits) : callee.bound l = not.bound l := by
            rw [bound_of_isNumeric hnumeric, bound_of_isNumeric rfl]
          have hinner : callee.bound limits ≤ callee.bound limits' := by
            rw [hbound, hbound]
            exact h
          apply negatedValue_call_sameUnless (value_sameUnless hinner content)
          rintro e ⟨hlt, m, inner, heval, htells⟩
          rw [hbound, hbound] at hlt
          exact ⟨hlt, m, inner, .operand hsplit hof heval, htells.causedBy _⟩
      · rw [value_not_of_length limits hsplit hlen, value_not_of_length limits' hsplit hlen]
        exact .refl _ _
  · rw [value_of_ne_not hm, value_of_ne_not hm]
    refine (SameUnless.refl _ _).bind fun args => ?_
    refine ((checkCeiling_sameUnless h args).mono ?_).bind fun _ => .refl _ _
    rintro e ⟨hlt, htells⟩
    exact ⟨hlt, m, input, .self m input, htells⟩
termination_by Token.weightAll input

/-- Under a higher ceiling a macro writes the same, unless a ceiling was what it failed at. -/
theorem evaluate_sameUnless (h : m.bound limits ≤ m.bound limits') (input : List Token) :
    SameUnless (fun e => m.bound limits < m.bound limits'
        ∧ ∃ callee content, Evaluates m input callee content ∧ e.TellsCeiling callee limits)
      (m.evaluate input limits) (m.evaluate input limits') := by
  rw [evaluate_eq, evaluate_eq]
  exact (value_sameUnless h input).map _

/-! ## Iteration -/

/-- Under a higher ceiling the plan is the same, unless its ceiling was what it failed at. -/
theorem plan_sameUnless (h : m.bound limits ≤ m.bound limits') (input : List Token) :
    SameUnless (fun e => m.bound limits < m.bound limits' ∧ e.TellsCeiling m limits)
      (m.plan input limits) (m.plan input limits') := by
  unfold plan
  refine (SameUnless.refl _ _).bind fun all => (SameUnless.refl _ _).bind ?_
  rintro ⟨leading, args⟩
  cases leading with
  | nil => exact .refl _ _
  | cons template given =>
    refine (SameUnless.refl _ _).bind fun t => (SameUnless.refl _ _).bind ?_
    rintro ⟨fixed, warning⟩
    exact (checkCeiling_sameUnless h args).bind fun _ => .refl _ _

theorem iterate_sameUnless (h : m.bound limits ≤ m.bound limits') (input : List Token) :
    SameUnless (fun e => m.bound limits < m.bound limits' ∧ e.TellsCeiling m limits)
      (m.iterate input limits) (m.iterate input limits') :=
  (plan_sameUnless h input).map _

end Macro

/-! ## Two limits -/

/-- **Limits act only as ceilings.** Of two limits, a macro comes out the same if its own ceiling is
the same in both. If it is no lower in the second, then what comes out is the same there unless it
is an issue with that ceiling for its innermost cause, of the macro itself or of a call evaluated
for a negation. So raising a ceiling undoes such issues and does nothing else. -/
theorem limits_act_as_ceilings (m : Macro) (input : List Token) (limits limits' : Limits) :
    (m.bound limits = m.bound limits' →
        m.evaluate input limits' = m.evaluate input limits
          ∧ m.iterate input limits' = m.iterate input limits)
      ∧ (m.bound limits ≤ m.bound limits' →
        (m.evaluate input limits' = m.evaluate input limits
            ∨ ∃ e callee content, m.evaluate input limits = .error e
              ∧ Evaluates m input callee content ∧ e.TellsCeiling callee limits)
          ∧ (m.iterate input limits' = m.iterate input limits
            ∨ ∃ e, m.iterate input limits = .error e ∧ e.TellsCeiling m limits)) := by
  constructor
  · intro h
    have hle : m.bound limits ≤ m.bound limits' := Nat.le_of_eq h
    -- a difference is excused by a higher ceiling only
    exact ⟨(Macro.evaluate_sameUnless hle input).eq fun e he => Nat.ne_of_lt he.1 h,
      (Macro.iterate_sameUnless hle input).eq fun e he => Nat.ne_of_lt he.1 h⟩
  · intro h
    constructor
    · rcases Macro.evaluate_sameUnless h input with
        hsame | ⟨e, he, -, callee, content, heval, htells⟩
      · exact Or.inl hsame
      · exact Or.inr ⟨e, callee, content, he, heval, htells⟩
    · rcases Macro.iterate_sameUnless h input with hsame | ⟨e, he, -, htells⟩
      · exact Or.inl hsame
      · exact Or.inr ⟨e, he, htells⟩

/-- `not!(⟦va_iter::narg!(a, b)⟧)`, where `⟦ ⟧` is an invisible group, with a ceiling of one or two
for counting. The call in it fails in the first case, and whatever the other ceiling is makes no
difference. The same for `each!(a, a, b)` and its own ceiling. -/
theorem limits_act_as_ceilings_pair :
    let pair : List Token := [.ident "a" .callSite, .mark ',', .ident "b" .callSite]
    let nested : List Token := wrappedCall .narg pair
    let input : List Token := .ident "a" .callSite :: .mark ',' :: pair
    (Macro.not.bound ⟨2, 0⟩ = Macro.not.bound ⟨2, 9⟩
        ∧ Macro.not.evaluate nested ⟨2, 9⟩ = Macro.not.evaluate nested ⟨2, 0⟩)
      ∧ (Macro.not.bound ⟨1, 0⟩ ≤ Macro.not.bound ⟨2, 0⟩
        ∧ ∃ e callee content, Macro.not.evaluate nested ⟨1, 0⟩ = .error e
          ∧ Evaluates .not nested callee content ∧ e.TellsCeiling callee ⟨1, 0⟩)
      ∧ Macro.each.bound ⟨0, 1⟩ ≤ Macro.each.bound ⟨0, 2⟩
        ∧ ∃ e, Macro.each.iterate input ⟨0, 1⟩ = .error e ∧ e.TellsCeiling .each ⟨0, 1⟩ := by
  intro pair nested input
  have hnested :
      (Macro.not.evaluate nested ⟨2, 0⟩).isOk ≠ (Macro.not.evaluate nested ⟨1, 0⟩).isOk := by
    decide +kernel
  have hinput :
      (Macro.each.iterate input ⟨0, 2⟩).isOk ≠ (Macro.each.iterate input ⟨0, 1⟩).isOk := by
    decide +kernel
  have hnot : Macro.not.bound ⟨1, 0⟩ ≤ Macro.not.bound ⟨2, 0⟩ := by decide
  have heach : Macro.each.bound ⟨0, 1⟩ ≤ Macro.each.bound ⟨0, 2⟩ := by decide
  have hsame := (limits_act_as_ceilings .not nested ⟨2, 0⟩ ⟨2, 9⟩).1 rfl
  refine ⟨⟨rfl, hsame.1⟩, ⟨hnot, ?_⟩, heach, ?_⟩
  · rcases ((limits_act_as_ceilings .not nested ⟨1, 0⟩ ⟨2, 0⟩).2 hnot).1 with h | h
    · exact absurd (congrArg Except.isOk h) hnested
    · exact h
  · rcases ((limits_act_as_ceilings .each input ⟨0, 1⟩ ⟨0, 2⟩).2 heach).2 with h | h
    · exact absurd (congrArg Except.isOk h) hinput
    · exact h

end Variadic
