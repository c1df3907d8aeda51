import Mathlib.Logic.Function.Iterate
import Variadic.Expansion
import Variadic.Proofs.Numerals
import Variadic.Proofs.Operands
import Variadic.Proofs.Outcomes

/-!
# Evaluating now or expanding first

A call in the operand of a negation could also be left to expand, and the negation applied to what
it expanded to. `value_not_tokens_of_value` shows that the two agree: what a numeric macro writes is
one token tree, and a negation reads from it the value that was written. Nested negations follow by
induction on their depth (`Negations.value_eq`).
-/

namespace Variadic

open Argument Token

/-! ## Reading a value that was written -/

/-- `(if (E) == 0 { 1 } else { 0 })`, token by token. -/
def zeroTest (expression : List Token) : List Token :=
  [.group .paren
    [.ident "if" .callSite, .group .paren expression .callSite,
      .punct '=' .joint .callSite, .punct '=' .alone .callSite, .literal "0" .callSite,
      .group .brace [.literal "1" .callSite] .callSite,
      .ident "else" .callSite, .group .brace [.literal "0" .callSite] .callSite]
    .callSite]

theorem negated_deferred (ts : List Token) :
    (NumericValue.deferred ts).negated = .deferred (zeroTest ts) :=
  rfl

/-- An expression in parentheses is left as it is. -/
theorem value_not_negation (ts : List Token) (limits : Limits) :
    Macro.not.value (NumericValue.negation ts) limits
      = .ok (.deferred (NumericValue.negation (NumericValue.negation ts))) := by
  obtain ⟨span, hvalue⟩ := Macro.exists_value_not_eq limits
    (show IsRun (NumericValue.negation ts) from isRun_singleton rfl)
  have hpeel : peelAll (NumericValue.negation ts) = NumericValue.negation ts :=
    peelAll_of_isBare (isBare_group (by decide) _ _)
  rw [hvalue, hpeel]
  rfl

/-- A negation of a number that was written tests whether it is zero. -/
theorem value_not_number (n : Nat) (limits : Limits) :
    Macro.not.value [.number n] limits = .ok (.ofBool (n = 0)) := by
  have hrun : IsRun [.number n] := isRun_singleton rfl
  obtain ⟨span, hvalue⟩ := Macro.exists_value_not_eq limits hrun
  rw [hvalue]
  show Except.ok (NumericValue.ofBool (isZeroLiteral (toString n))) = _
  rw [isZeroLiteral_toString]

/-- A negation of what a numeric macro writes is the negation of the value written. -/
theorem value_not_tokens_of_value {m : Macro} {input : List Token} {limits : Limits}
    {v : NumericValue} (h : m.value input limits = .ok v) :
    Macro.not.value v.tokens limits = .ok v.negated := by
  cases v with
  | number n => exact value_not_number n limits
  | deferred expression =>
    obtain ⟨ts, rfl⟩ := Macro.exists_negation_of_value h
    exact value_not_negation ts limits

/-! ## Nested negations -/

/-- `input` is `base` with a number of qualified negations around it, and invisible groups around
each of them. -/
inductive Negations (base : List Token) : Nat → List Token → Prop
  | zero : Negations base 0 base
  | succ {k : Nat} {inner call outer : List Token} (h : Negations base k inner)
      (hcall : QualifiedCall .not inner call) (hw : Wraps call outer) : Negations base (k + 1) outer

/-- Negations around an operand negate its value one after the other. -/
theorem Negations.value_eq {base input : List Token} {k : Nat} {limits : Limits}
    {v : NumericValue} (h : Negations base k input) (hv : Macro.not.value base limits = .ok v) :
    Macro.not.value input limits = .ok (NumericValue.negated^[k] v) := by
  induction h with
  | zero => exact hv
  | succ _ hcall hw ih =>
    rw [Function.iterate_succ_apply']
    exact value_not_call rfl hcall hw ih

/-- Every negation of an expression that is left to the compiler writes one more test. -/
theorem negated_iterate_deferred (k : Nat) (ts : List Token) :
    NumericValue.negated^[k] (.deferred ts) = .deferred (zeroTest^[k] ts) := by
  induction k with
  | zero => rfl
  | succ k ih =>
    rw [Function.iterate_succ_apply', Function.iterate_succ_apply', ih, negated_deferred]

theorem negated_ofBool (b : Bool) : (NumericValue.ofBool b).negated = .ofBool !b := by
  cases b with
  | false => rfl
  | true => rfl

/-- Negating a truth value again and again switches it back and forth. -/
theorem negated_iterate_ofBool (k : Nat) (b : Bool) :
    NumericValue.negated^[k] (.ofBool b) = .ofBool (b ^^ decide (k % 2 = 1)) := by
  induction k with
  | zero => simp
  | succ k ih =>
    rw [Function.iterate_succ_apply', ih, negated_ofBool]
    rcases Nat.mod_two_eq_zero_or_one k with hk | hk
    · have hsucc : (k + 1) % 2 = 1 := by omega
      simp [hk, hsucc]
    · have hsucc : (k + 1) % 2 = 0 := by omega
      simp [hk, hsucc]

/-! ## Evaluation -/

theorem evaluate_eq (m : Macro) (input : List Token) (limits : Limits) :
    m.evaluate input limits = (fun v => ⟨v.tokens, []⟩) <$> m.value input limits := by
  rw [Macro.evaluate]
  cases m.value input limits with
  | error e => rfl
  | ok v => rfl

/-- What is written is the value of the macro. -/
theorem evaluate_eq_ok_iff {m : Macro} {input : List Token} {limits : Limits} {x : Expansion} :
    m.evaluate input limits = .ok x
      ↔ ∃ v, m.value input limits = .ok v ∧ ⟨v.tokens, []⟩ = x := by
  rw [evaluate_eq, map_eq_ok_iff]

theorem evaluate_eq_error_iff {m : Macro} {input : List Token} {limits : Limits} {e : Issue} :
    m.evaluate input limits = .error e ↔ m.value input limits = .error e := by
  rw [evaluate_eq, map_eq_error_iff]

/-- A macro that writes a number has it as its value. -/
theorem value_eq_number_of_evaluate {m : Macro} {input : List Token} {limits : Limits} {n : Nat}
    (h : m.evaluate input limits = .ok ⟨[.number n], []⟩) :
    m.value input limits = .ok (.number n) := by
  obtain ⟨v, hv, hx⟩ := evaluate_eq_ok_iff.1 h
  have htokens : v.tokens = [Token.number n] := congrArg Expansion.tokens hx
  cases v with
  | number k =>
    rw [NumericValue.tokens, List.singleton_inj] at htokens
    rw [hv, number_injective htokens]
  | deferred expression =>
    -- an expression left to the compiler is a group, no literal
    obtain ⟨ts, rfl⟩ := Macro.exists_negation_of_value hv
    cases htokens

/-- An operand that is neither a literal nor a call stays an expression. -/
theorem value_not_expression {base : List Token} (limits : Limits) (hrun : IsRun base)
    (hliteral : ∀ text s, peelAll base ≠ [.literal text s])
    (hcall : Operand.callBehind? [] (peelAll base) = none) :
    Macro.not.value base limits = .ok (.deferred (zeroTest (peelAll base))) := by
  obtain ⟨span, hvalue⟩ := Macro.exists_value_not_eq limits hrun
  have hof : Operand.of (peelAll base) = .expression (peelAll base) := by
    rw [Operand.of]
    · rw [hcall]
    · exact hliteral
  rw [hvalue, hof, Operand.negatedValue]
  rfl

/-- **Evaluating a call in a negation agrees with expanding it first.** Both succeed and write the
same. So nested negations write one `(if (E) == 0 { 1 } else { 0 })` each around an operand that the
engine cannot see through, and switch back and forth between 1 and 0 around one that it can. -/
theorem not_agrees_with_staging (limits : Limits) :
    (∀ (m : Macro) (input call outer : List Token) (x : Expansion), m.isNumeric →
        m.evaluate input limits = .ok x → QualifiedCall m input call → Wraps call outer →
        ∃ y, Macro.not.evaluate outer limits = .ok y ∧ Macro.not.evaluate x.tokens limits = .ok y)
      ∧ (∀ (k : Nat) (base input : List Token), IsRun base →
          (∀ text s, peelAll base ≠ [.literal text s]) →
          Operand.callBehind? [] (peelAll base) = none → Negations base k input →
          Macro.not.evaluate input limits = .ok ⟨zeroTest^[k + 1] (peelAll base), []⟩)
      ∧ ∀ (k : Nat) (base input : List Token) (b : Bool),
          Macro.not.evaluate base limits = .ok ⟨[.number (if b then 1 else 0)], []⟩ →
          Negations base k input →
          Macro.not.evaluate input limits
            = .ok ⟨[.number (if b ^^ decide (k % 2 = 1) then 1 else 0)], []⟩ := by
  refine ⟨?_, ?_, ?_⟩
  · intro m input call outer x hm hx hcall hw
    obtain ⟨v, hv, rfl⟩ := evaluate_eq_ok_iff.1 hx
    exact ⟨⟨v.negated.tokens, []⟩, evaluate_eq_ok_iff.2 ⟨_, value_not_call hm hcall hw hv, rfl⟩,
      evaluate_eq_ok_iff.2 ⟨_, value_not_tokens_of_value hv, rfl⟩⟩
  · intro k base input hrun hliteral hcall hnot
    have hvalue := hnot.value_eq (value_not_expression limits hrun hliteral hcall)
    rw [negated_iterate_deferred, ← Function.iterate_succ_apply] at hvalue
    exact evaluate_eq_ok_iff.2 ⟨_, hvalue, rfl⟩
  · intro k base input b hb hnot
    have hvalue := hnot.value_eq (value_eq_number_of_evaluate hb)
    rw [← NumericValue.ofBool, negated_iterate_ofBool] at hvalue
    exact evaluate_eq_ok_iff.2 ⟨_, hvalue, rfl⟩

/-- A qualified call of a macro, in an invisible group, both at a place. -/
def placedCall (s : Span) (m : Macro) (ts : List Token) : List Token :=
  [.group .invisible
    [.ident "va_iter" s, .punct ':' .joint s, .punct ':' .alone s, .ident m.name s,
      .punct '!' .alone s, .group .paren ts s] s]

/-- The call is a well-formed one, up to the group around it. -/
theorem exists_wraps_placedCall (s : Span) (m : Macro) (ts : List Token) :
    ∃ call, QualifiedCall m ts call ∧ Wraps call (placedCall s m ts) := by
  have hsep : IsSeparator [.punct ':' .joint s, .punct ':' .alone s] := ⟨s, .alone, s, rfl⟩
  exact ⟨_, .intro (Or.inl rfl) (by decide) hsep (by decide) s s s s .alone, .wrap s .refl⟩

/-- A qualified call of a macro, in an invisible group. -/
def wrappedCall (m : Macro) (ts : List Token) : List Token :=
  [.group .invisible
    [.ident "va_iter" .callSite, .punct ':' .joint .callSite, .mark ':', .ident m.name .callSite,
      .mark '!', .group .paren ts .callSite] .callSite]

theorem exists_wraps_wrappedCall (m : Macro) (ts : List Token) :
    ∃ call, QualifiedCall m ts call ∧ Wraps call (wrappedCall m ts) :=
  exists_wraps_placedCall .callSite m ts

/-- `not!(va_iter::narg!(a, b))`, `not!(va_iter::not!(x))` and `not!(va_iter::not!(0))`. -/
theorem not_agrees_with_staging_calls :
    let x : Token := .ident "x" .callSite
    let pair : List Token := [.ident "a" .callSite, .mark ',', .ident "b" .callSite]
    (Macro.narg.evaluate pair {} = .ok ⟨[.number 2], []⟩
        ∧ ∃ y, Macro.not.evaluate (wrappedCall .narg pair) {} = .ok y
          ∧ Macro.not.evaluate [.number 2] {} = .ok y)
      ∧ Macro.not.evaluate (wrappedCall .not [x]) {} = .ok ⟨zeroTest (zeroTest [x]), []⟩
      ∧ Macro.not.evaluate (wrappedCall .not [.number 0]) {} = .ok ⟨[.number 0], []⟩ := by
  intro x pair
  have hpair : Macro.narg.evaluate pair {} = .ok ⟨[.number 2], []⟩ := by
    rw [Macro.evaluate, Macro.value]
    rfl
  obtain ⟨call, hnarg, hwnarg⟩ := exists_wraps_wrappedCall .narg pair
  obtain ⟨callx, hx, hwx⟩ := exists_wraps_wrappedCall .not [x]
  obtain ⟨callz, hz, hwz⟩ := exists_wraps_wrappedCall .not [.number 0]
  have hstaging := not_agrees_with_staging {}
  refine ⟨⟨hpair, hstaging.1 .narg pair call _ _ rfl hpair hnarg hwnarg⟩, ?_, ?_⟩
  · have hrun : IsRun [x] := isRun_singleton rfl
    have hpeel : peelAll [x] = [x] := rfl
    exact hstaging.2.1 1 [x] _ hrun (by simp [hpeel, x]) rfl (.succ .zero hx hwx)
  · have hone : Macro.not.evaluate [.number 0] {} = .ok ⟨[.number 1], []⟩ :=
      evaluate_eq_ok_iff.2 ⟨_, value_not_number 0 {}, rfl⟩
    exact hstaging.2.2 1 [.number 0] _ true hone (.succ .zero hz hwz)

end Variadic
