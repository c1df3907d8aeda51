import Variadic.Proofs.PositionalForms
import Variadic.Proofs.Staging

/-!
# Counting and testing for emptiness

`narg`, `is_empty` and `not_empty` split a stream in the same way and have the same ceiling. They
differ in what they write for the number of arguments (`Macro.tallied`), and in nothing else: they
succeed on the same streams, and fail alike (`value_eq_or_sameBut`). A negation of one of them
writes what another one writes by itself, so it makes no difference whether a test is made directly
or by negating.
-/

namespace Variadic

open Argument Token

/-! ## The macros that count -/

namespace Macro

/-- The macros that write a number which depends on the number of arguments alone. -/
def counters : List Macro := [narg, isEmpty, notEmpty]

/-- What is written for a number of arguments: the number itself, or 1 if there is none, or 1 if
there is one. -/
def tallied (m : Macro) (n : Nat) : Nat :=
  match m with
  | isEmpty => if n = 0 then 1 else 0
  | notEmpty => if n = 0 then 0 else 1
  | _ => n

/-- The macros that count, each with the one that writes its negation. -/
def complements : List (Macro × Macro) :=
  [(narg, isEmpty), (notEmpty, isEmpty), (isEmpty, notEmpty)]

section
variable {m m' : Macro} {input : List Token} {limits : Limits}

/-- The macros that count never fail behind the split and the ceiling. -/
theorem tally_counter (hm : m ∈ counters) (args : List Argument) :
    m.tally args = .ok (.number (m.tallied args.length)) := by
  simp only [counters, List.mem_cons, List.not_mem_nil, or_false] at hm
  rcases hm with rfl | rfl | rfl
  · rfl
  · cases args <;> rfl
  · cases args <;> rfl

theorem ceiling_counter (hm : m ∈ counters) : m.ceiling = .count := by
  revert m
  decide

theorem ne_not_of_counter (hm : m ∈ counters) : m ≠ not := by
  revert m
  decide

/-- A macro that counts splits its input, and fails if there are too many arguments. -/
theorem value_counter (hm : m ∈ counters) (input : List Token) (limits : Limits) :
    m.value input limits = (do
      let args ← Argument.split input
      m.checkCeiling args limits
      pure (.number (m.tallied args.length))) := by
  rw [value_of_ne_not (ne_not_of_counter hm)]
  simp only [tally_counter hm]
  rfl

/-- A macro that counts succeeds on lists up to the ceiling, and only there. -/
theorem value_counter_eq_ok_iff (hm : m ∈ counters) {v : NumericValue} :
    m.value input limits = .ok v
      ↔ ∃ args, Argument.split input = .ok args ∧ args.length ≤ limits.count
        ∧ v = .number (m.tallied args.length) := by
  have hlimit : limits.get m.ceiling = limits.count := by
    rw [ceiling_counter hm]
    rfl
  rw [value_counter hm]
  simp only [bind_eq_ok_iff]
  rw [← hlimit]
  constructor
  · rintro ⟨args, hsplit, ⟨⟩, hargs, hv⟩
    exact ⟨args, hsplit, checkCeiling_eq_ok_iff.1 hargs, (Except.ok.inj hv).symm⟩
  · rintro ⟨args, hsplit, hargs, rfl⟩
    exact ⟨args, hsplit, (), checkCeiling_eq_ok_iff.2 hargs, rfl⟩

/-- On the same input, two macros that count have their numbers for the same number of arguments, or
fail alike. -/
theorem value_eq_or_sameBut (hm : m ∈ counters) (hm' : m' ∈ counters) (input : List Token)
    (limits : Limits) :
    (∃ n, m.value input limits = .ok (.number (m.tallied n))
        ∧ m'.value input limits = .ok (.number (m'.tallied n)))
      ∨ ∃ e e', m.value input limits = .error e ∧ m'.value input limits = .error e'
        ∧ e.SameBut m m' e' := by
  have hceiling : m.ceiling = m'.ceiling := by
    rw [ceiling_counter hm, ceiling_counter hm']
  rw [value_counter hm, value_counter hm']
  cases Argument.split input with
  | error e => exact Or.inr ⟨e, e, rfl, rfl, .refl m m' e⟩
  | ok args =>
    rw [ok_bind, ok_bind]
    obtain ⟨h, h'⟩ | ⟨limit, span, h, h'⟩ := checkCeiling_eq_or_eq hceiling args limits
    · rw [h, h']
      exact Or.inl ⟨args.length, rfl, rfl⟩
    · rw [h, h']
      exact Or.inr ⟨_, _, rfl, rfl, .ceilingExceeded hceiling args.length limit span⟩

/-! ## Negated and written directly -/

theorem counters_of_complements (h : (m, m') ∈ complements) : m ∈ counters ∧ m' ∈ counters := by
  have hall : ∀ pair ∈ complements, pair.1 ∈ counters ∧ pair.2 ∈ counters := by
    decide
  exact hall _ h

theorem isNumeric_of_counter (hm : m ∈ counters) : m.isNumeric := by
  revert m
  decide

/-- The negation of what one macro writes is what its complement writes. -/
theorem negated_tallied (h : (m, m') ∈ complements) (n : Nat) :
    (NumericValue.number (m.tallied n)).negated = .number (m'.tallied n) := by
  have hofBool (k : Nat) : (NumericValue.number k).negated = .number (if k = 0 then 1 else 0) := by
    by_cases hk : k = 0 <;> simp [NumericValue.negated, NumericValue.ofBool, hk]
  rw [hofBool]
  simp only [complements, List.mem_cons, Prod.mk.injEq, List.not_mem_nil, or_false] at h
  rcases h with ⟨rfl, rfl⟩ | ⟨rfl, rfl⟩ | ⟨rfl, rfl⟩
  · rfl
  · by_cases hn : n = 0 <;> simp [tallied, hn]
  · by_cases hn : n = 0 <;> simp [tallied, hn]

/-- A negation of a call has the value of the complement, or fails with the issue of the call, which
is the complement's up to the name. -/
theorem value_not_eq_or_sameBut (h : (m, m') ∈ complements) {call ts : List Token} {t : Token}
    (hcall : QualifiedCall m input call) (hw : Wraps call (t :: ts)) (limits : Limits) :
    (∃ v, not.value (t :: ts) limits = .ok v ∧ m'.value input limits = .ok v)
      ∨ ∃ e e',
        not.value (t :: ts) limits = .error (Note.causedBy ⟨.error, .operand, some t.span⟩ e)
          ∧ m'.value input limits = .error e' ∧ e.SameBut m m' e' := by
  obtain ⟨hm, hm'⟩ := counters_of_complements h
  rw [value_not_call_eq (isNumeric_of_counter hm) hcall hw]
  obtain ⟨n, hv, hv'⟩ | ⟨e, e', he, he', hsame⟩ := value_eq_or_sameBut hm hm' input limits
  · rw [Operand.negatedValue_call_of_ok hv, negated_tallied h]
    exact Or.inl ⟨_, rfl, hv'⟩
  · rw [Operand.negatedValue_call_of_error he]
    exact Or.inr ⟨e, e', rfl, he', hsame⟩

/-! ## Expansions -/

/-- What a macro that counts writes, and when. -/
theorem evaluate_counter_eq_ok_iff (hm : m ∈ counters) {x : Expansion} :
    m.evaluate input limits = .ok x
      ↔ ∃ args, Argument.split input = .ok args ∧ args.length ≤ limits.count
        ∧ x = ⟨[.number (m.tallied args.length)], []⟩ := by
  rw [evaluate_eq_ok_iff]
  simp only [value_counter_eq_ok_iff hm]
  constructor
  · rintro ⟨_, ⟨args, hsplit, hargs, rfl⟩, rfl⟩
    exact ⟨args, hsplit, hargs, rfl⟩
  · rintro ⟨args, hsplit, hargs, rfl⟩
    exact ⟨_, ⟨args, hsplit, hargs, rfl⟩, rfl⟩

/-- If one of the macros that count fails, so do the others, with issues that differ in the name
only. -/
theorem evaluate_counter_of_error (hm : m ∈ counters) (hm' : m' ∈ counters) {e : Issue}
    (he : m.evaluate input limits = .error e) :
    ∃ e', m'.evaluate input limits = .error e' ∧ e.SameBut m m' e' := by
  rw [evaluate_eq_error_iff] at he
  obtain ⟨n, hv, -⟩ | ⟨e₁, e', he₁, he', hsame⟩ := value_eq_or_sameBut hm hm' input limits
  · rw [hv] at he
    cases he
  · rw [he₁] at he
    obtain rfl := Except.error.inj he
    exact ⟨e', evaluate_eq_error_iff.2 he', hsame⟩

section
variable (h : (m, m') ∈ complements) {call ts : List Token} {t : Token}
  (hcall : QualifiedCall m input call) (hw : Wraps call (t :: ts))

include h hcall hw

/-- A negation of a call writes what the complement writes. -/
theorem evaluate_not_eq_ok_iff {x : Expansion} :
    not.evaluate (t :: ts) limits = .ok x ↔ m'.evaluate input limits = .ok x := by
  rw [evaluate_eq_ok_iff, evaluate_eq_ok_iff]
  obtain ⟨v, hnot, hdirect⟩ | ⟨e, e', hnot, hdirect, -⟩ :=
    value_not_eq_or_sameBut h hcall hw limits
  · rw [hnot, hdirect]
  · rw [hnot, hdirect]
    simp only [reduceCtorEq, false_and]

/-- Where the complement fails, the negation of the call fails with its issue as the cause. -/
theorem evaluate_not_of_error {e' : Issue} (he' : m'.evaluate input limits = .error e') :
    ∃ e, not.evaluate (t :: ts) limits = .error (Note.causedBy ⟨.error, .operand, some t.span⟩ e)
      ∧ e.SameBut m m' e' := by
  rw [evaluate_eq_error_iff] at he'
  obtain ⟨v, -, hdirect⟩ | ⟨e, e₁, hnot, hdirect, hsame⟩ :=
    value_not_eq_or_sameBut h hcall hw limits
  · rw [hdirect] at he'
    cases he'
  · rw [hdirect] at he'
    obtain rfl := Except.error.inj he'
    exact ⟨e, evaluate_eq_error_iff.2 hnot, hsame⟩

end

end

end Macro

/-! ## Coherence -/

/-- **Counting and the tests for emptiness are coherent.** They succeed on the same streams, those
that list no more arguments than allowed, with what each writes for their number, and otherwise fail
alike. A negation of one of them writes what its complement writes, and fails if that fails, with
the issue of the call behind its own. -/
theorem counters_cohere (input : List Token) (limits : Limits) :
    (∀ m ∈ Macro.counters, ∀ x, m.evaluate input limits = .ok x
        ↔ ∃ args, split input = .ok args ∧ args.length ≤ limits.count
          ∧ x = ⟨[.number (m.tallied args.length)], []⟩)
      ∧ (∀ m ∈ Macro.counters, ∀ m' ∈ Macro.counters, ∀ e, m.evaluate input limits = .error e →
          ∃ e', m'.evaluate input limits = .error e' ∧ e.SameBut m m' e')
      ∧ ∀ (m direct : Macro) (call ts : List Token) (t : Token), (m, direct) ∈ Macro.complements →
          QualifiedCall m input call → Wraps call (t :: ts) →
          (∀ x, Macro.not.evaluate (t :: ts) limits = .ok x
              ↔ direct.evaluate input limits = .ok x)
            ∧ ∀ e', direct.evaluate input limits = .error e' →
              ∃ e, Macro.not.evaluate (t :: ts) limits
                  = .error (Note.causedBy ⟨.error, .operand, some t.span⟩ e)
                ∧ e.SameBut m direct e' := by
  refine ⟨fun m hm x => Macro.evaluate_counter_eq_ok_iff hm,
    fun m hm m' hm' e he => Macro.evaluate_counter_of_error hm hm' he, ?_⟩
  intro m direct call ts t hpair hcall hw
  exact ⟨fun x => Macro.evaluate_not_eq_ok_iff hpair hcall hw,
    fun e' he' => Macro.evaluate_not_of_error hpair hcall hw he'⟩

/-- `not!(⟦va_iter::narg!(a, b)⟧)` and `is_empty!(a, b)`, where `⟦ ⟧` is an invisible group. Both
write 0, and both fail where one argument is allowed. -/
theorem counters_cohere_pair :
    let pair : List Token := [.ident "a" .callSite, .mark ',', .ident "b" .callSite]
    (∃ call, QualifiedCall .narg pair call ∧ Wraps call (wrappedCall .narg pair))
      ∧ Macro.isEmpty.evaluate pair ⟨2, 0⟩ = .ok ⟨[.number 0], []⟩
      ∧ Macro.not.evaluate (wrappedCall .narg pair) ⟨2, 0⟩ = .ok ⟨[.number 0], []⟩
      ∧ ∃ e e' cause, Macro.narg.evaluate pair ⟨1, 0⟩ = .error e
        ∧ Macro.isEmpty.evaluate pair ⟨1, 0⟩ = .error e' ∧ e.SameBut .narg .isEmpty e'
        ∧ Macro.not.evaluate (wrappedCall .narg pair) ⟨1, 0⟩
            = .error (Note.causedBy ⟨.error, .operand, some .callSite⟩ cause)
        ∧ cause.SameBut .narg .isEmpty e' := by
  intro pair
  have hnarg : Macro.narg ∈ Macro.counters := by decide
  have hisEmpty : Macro.isEmpty ∈ Macro.counters := by decide
  have hpair : (Macro.narg, Macro.isEmpty) ∈ Macro.complements := by decide
  obtain ⟨call, hcall, hw⟩ := exists_wraps_wrappedCall .narg pair
  obtain ⟨args, hsplit⟩ : ∃ args, split pair = .ok args := ⟨_, rfl⟩
  obtain ⟨hok, -, hnot⟩ := counters_cohere pair ⟨2, 0⟩
  have hzero : Macro.isEmpty.evaluate pair ⟨2, 0⟩ = .ok ⟨[.number 0], []⟩ :=
    (hok .isEmpty hisEmpty _).2 ⟨_, rfl, by decide, rfl⟩
  obtain ⟨-, hfails, hnotFails⟩ := counters_cohere pair ⟨1, 0⟩
  obtain ⟨e, he⟩ : ∃ e, Macro.narg.evaluate pair ⟨1, 0⟩ = .error e := by
    rw [evaluate_eq, Macro.value_counter hnarg]
    exact ⟨_, rfl⟩
  obtain ⟨e', he', hsame⟩ := hfails .narg hnarg .isEmpty hisEmpty e he
  obtain ⟨cause, hcause, hcauseSame⟩ := (hnotFails _ _ _ _ _ hpair hcall hw).2 e' he'
  exact ⟨⟨call, hcall, hw⟩, hzero, ((hnot _ _ _ _ _ hpair hcall hw).1 _).2 hzero, e, e', cause, he,
    he', hsame, hcause, hcauseSame⟩

end Variadic
