import Variadic.Proofs.Interception

/-!
# What a negation tests

A negation counts its arguments before it takes off the invisible groups around the one it has, and
then tests what is left: its operand. `isRun_peeled_iff` says when that is still a single argument,
`Tests.value_eq_deferred` what comes of it when it is not: the compiler is left to test the tokens
as they are, the unit value if there are none, a tuple if there are commas. Negations in the operand
are no different (`Tests`).
-/

namespace Variadic

open Argument Token

/-! ## Invisible groups around no argument -/

/-- A stream that is no argument is not an invisible group either, as a group is one. -/
theorem Token.isBare_of_not_isRun {ts : List Token} (h : ¬IsRun ts) : IsBare ts := by
  rintro content s rfl
  exact h (isRun_singleton rfl)

/-- A stream stands in an invisible group, or it has none around it. -/
theorem Token.Wraps.eq_or_group {ts outer : List Token} (h : Wraps ts outer) :
    outer = ts ∨ ∃ s, Wraps [.group .invisible ts s] outer := by
  induction h with
  | refl => exact Or.inl rfl
  | wrap s _ ih =>
    right
    rcases ih with rfl | ⟨s', hgroup⟩
    · exact ⟨s, .refl⟩
    · exact ⟨s', .wrap s hgroup⟩

/-- What is left of an argument is an argument again if every invisible group around it holds one.
-/
theorem Argument.isRun_peeled_iff {a : Argument} (ha : IsRun a.tokens) :
    IsRun a.peeled
      ↔ ∀ content s, Wraps [.group .invisible content s] a.tokens → IsRun content := by
  constructor
  · intro hrun content s hw
    by_contra hcontent
    -- nothing more is taken off a content that is no argument
    have hpeel : a.peeled = content := by
      rw [peeled, hw.peelAll_eq, peelAll_invisible]
      exact peelAll_of_isBare (isBare_of_not_isRun hcontent)
    rw [hpeel] at hrun
    exact hcontent hrun
  · intro hgroups
    rcases (wraps_peelAll a.tokens).eq_or_group with hsame | ⟨s, hgroup⟩
    · rw [peeled, ← hsame]
      exact ha
    · exact hgroups a.peeled s hgroup

/-! ## Operands that are tested -/

/-- A negation with this input tests the argument `a`, the only one it has, at level 0. Where its
operand is a call of a negation, it tests what that negation tests, one level further down. -/
inductive Tests : List Token → Nat → Argument → Prop
  | own {input : List Token} {a : Argument} (hinput : split input = .ok [a]) : Tests input 0 a
  | nested {input inner : List Token} {a b : Argument} {k : Nat} (hinput : split input = .ok [b])
      (hcall : Operand.of b.peeled = .call .not inner) (h : Tests inner k a) :
      Tests input (k + 1) a

theorem Tests.isRun {input : List Token} {k : Nat} {a : Argument} (h : Tests input k a) :
    IsRun a.tokens := by
  induction h with
  | own hinput => exact isRun_of_mem_split hinput (List.mem_singleton.2 rfl)
  | nested _ _ _ ih => exact ih

/-- Literals and calls are arguments, so that anything else is left to the compiler. -/
theorem Operand.of_eq_expression {ts : List Token} (h : ¬IsRun ts) : of ts = .expression ts := by
  have hcall : callBehind? [] ts = none := by
    rw [Option.eq_none_iff_forall_ne_some]
    rintro ⟨m, input⟩ hsome
    obtain ⟨-, before, between, behind, d, hspelled⟩ := callBehind?_nil_eq_some_iff.1 hsome
    exact h hspelled.isRun
  rw [of]
  · rw [hcall]
  · rintro text s rfl
    exact h (isRun_singleton rfl)

/-- An operand that is no argument is tested all the same, in a negation for every level. -/
theorem Tests.value_eq_deferred {input : List Token} {k : Nat} {a : Argument} (limits : Limits)
    (h : Tests input k a) (ha : ¬IsRun a.peeled) :
    Macro.not.value input limits = .ok (.deferred (zeroTest^[k + 1] a.peeled)) := by
  induction h with
  | own hinput =>
    rw [Macro.value_not_of_split limits hinput, Operand.of_eq_expression ha]
    rfl
  | nested hinput hcall _ ih =>
    rw [Macro.value_not_of_split limits hinput, hcall, Function.iterate_succ_apply']
    exact Operand.negatedValue_call_of_ok (ih ha)

/-- **A negation counts its arguments before it takes off invisible groups.** It is rejected unless
it has exactly one. What it tests, and what the negations in its operand test, is an argument if and
only if every invisible group around it holds one: where a group holds no tokens, or a comma, the
negation is not rejected, but leaves a test of the unit value or of a tuple to the compiler. -/
theorem not_counts_before_peeling (limits : Limits) (input : List Token) :
    (∀ args, split input = .ok args → args.length ≠ 1 →
        Macro.not.evaluate input limits = .error (Issue.general (.notOneValue args.length)))
      ∧ (∀ x, Macro.not.evaluate input limits = .ok x → ∃ a, Tests input 0 a)
      ∧ ∀ k a, Tests input k a →
        (IsRun a.peeled ↔ ∀ content s, Wraps [.group .invisible content s] a.tokens → IsRun content)
          ∧ (¬IsRun a.peeled →
            Macro.not.evaluate input limits = .ok ⟨zeroTest^[k + 1] a.peeled, []⟩) := by
  refine ⟨?_, ?_, ?_⟩
  · intro args hsplit hlength
    exact evaluate_eq_error_iff.2 (Macro.value_not_of_length limits hsplit hlength)
  · intro x hx
    obtain ⟨v, hv, -⟩ := evaluate_eq_ok_iff.1 hx
    obtain ⟨a, hsplit, -⟩ := Macro.exists_operand_of_value_not hv
    exact ⟨a, .own hsplit⟩
  · intro k a ha
    refine ⟨isRun_peeled_iff ha.isRun, fun hrun => ?_⟩
    exact evaluate_eq_ok_iff.2 ⟨_, ha.value_eq_deferred limits hrun, rfl⟩

/-- An argument that is an invisible group. -/
def hiddenArgument (content : List Token) : Argument :=
  ⟨.group .invisible content .callSite, []⟩

theorem tests_hiddenArgument (content : List Token) :
    Tests (hiddenArgument content).tokens 0 (hiddenArgument content) :=
  .own (split_tokens (isRun_singleton rfl).2)

/-- A negation of a negation tests what that one tests. -/
theorem tests_wrappedCall {input : List Token} {k : Nat} {a : Argument} (h : Tests input k a) :
    Tests (wrappedCall .not input) (k + 1) a := by
  obtain ⟨call, hcall, hw⟩ := exists_wraps_wrappedCall .not input
  obtain ⟨b, hb⟩ := (hw.isRun hcall.isRun).exists_tokens_eq
  rw [← hb] at hw ⊢
  have hpeel : b.peeled = call := hcall.peelAll_eq hw
  refine .nested (split_tokens (hw.isRun hcall.isRun).2) ?_ h
  rw [hpeel]
  exact hcall.of_eq rfl

/-- `not!(a, b)` is rejected. With invisible groups `⟦ ⟧`, `not!(va_iter::not!(⟦a, b⟧))` leaves a
test of a tuple to the compiler. -/
theorem not_counts_before_peeling_pair :
    let pair : List Token := [.ident "a" .callSite, .mark ',', .ident "b" .callSite]
    let nested := wrappedCall .not (hiddenArgument pair).tokens
    (∃ args, split pair = .ok args ∧ args.length = 2
        ∧ Macro.not.evaluate pair {} = .error (Issue.general (.notOneValue args.length)))
      ∧ Tests nested 1 (hiddenArgument pair) ∧ ¬IsRun (hiddenArgument pair).peeled
      ∧ Macro.not.evaluate nested {} = .ok ⟨zeroTest (zeroTest pair), []⟩ := by
  intro pair nested
  have hcomma : Token.mark ',' ∈ (hiddenArgument pair).peeled :=
    List.mem_cons_of_mem _ List.mem_cons_self
  have hrun : ¬IsRun (hiddenArgument pair).peeled := fun h => h.not_isComma hcomma rfl
  have htests : Tests nested 1 (hiddenArgument pair) :=
    tests_wrappedCall (tests_hiddenArgument pair)
  have hsplit : split pair = .ok [⟨.ident "a" .callSite, []⟩, ⟨.ident "b" .callSite, []⟩] := rfl
  exact ⟨⟨_, hsplit, rfl, (not_counts_before_peeling {} pair).1 _ hsplit (by decide)⟩, htests, hrun,
    ((not_counts_before_peeling {} nested).2.2 1 _ htests).2 hrun⟩

/-- With invisible groups `⟦ ⟧`, `not!()` is rejected, but `not!(⟦⟧)` leaves a test of the unit
value to the compiler, and `not!(⟦a, b⟧)` one of a tuple. It is the same one negation further in.
-/
theorem not_tests_hidden_unit_and_tuple :
    let pair : List Token := [.ident "a" .callSite, .mark ',', .ident "b" .callSite]
    Macro.not.evaluate [] {} = .error (Issue.general (.notOneValue 0))
      ∧ ∀ content ∈ [[], pair],
        ¬IsRun (hiddenArgument content).peeled
          ∧ Macro.not.evaluate (hiddenArgument content).tokens {}
            = .ok ⟨zeroTest content, []⟩
          ∧ Macro.not.evaluate (wrappedCall .not (hiddenArgument content).tokens) {}
            = .ok ⟨zeroTest (zeroTest content), []⟩ := by
  intro pair
  have hnothing : split [] = .ok [] := rfl
  have hcomma : Token.mark ',' ∈ pair := List.mem_cons_of_mem _ List.mem_cons_self
  refine ⟨evaluate_eq_error_iff.2 (Macro.value_not_of_length {} hnothing (by decide)), ?_⟩
  intro content hcontent
  have hpeel : (hiddenArgument content).peeled = content ∧ ¬IsRun content := by
    simp only [List.mem_cons, List.not_mem_nil, or_false] at hcontent
    rcases hcontent with rfl | rfl
    · exact ⟨rfl, fun h => h.1 rfl⟩
    · exact ⟨rfl, fun h => h.not_isComma hcomma rfl⟩
  obtain ⟨hpeel, hrun⟩ := hpeel
  rw [← hpeel] at hrun
  have htests := tests_hiddenArgument content
  have hown := htests.value_eq_deferred {} hrun
  have hnested := (tests_wrappedCall htests).value_eq_deferred {} hrun
  rw [hpeel] at hown hnested
  exact ⟨hrun, evaluate_eq_ok_iff.2 ⟨_, hown, rfl⟩, evaluate_eq_ok_iff.2 ⟨_, hnested, rfl⟩⟩

end Variadic
