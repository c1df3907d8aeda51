import Variadic.Proofs.Listing
import Variadic.Proofs.Outcomes
import Variadic.Proofs.Wrapping
import Variadic.Numeric

/-!
# Operands of a negation

`Macro.value` decides in one recursion what a negation splits, peels, classifies and evaluates.
`Operand.negatedValue` is the part behind the splitting, and `value_not_tokens` the equation that
all that follows is derived from: a negation of one argument is the negated value of its operand.
`QualifiedCall` describes the calls that are evaluated, as a caller writes them.
-/

namespace Variadic

open Argument Token

/-! ## Wrapped runs -/

/-- A run in invisible groups is a run. -/
theorem Token.Wraps.isRun {ts outer : List Token} (h : Wraps ts outer) (hts : IsRun ts) :
    IsRun outer := by
  cases h with
  | refl => exact hts
  | wrap s _ => exact isRun_singleton rfl

/-! ## Recognised calls -/

theorem Macro.isNumeric_of_numeric? {name : String} {m : Macro} (h : numeric? name = some m) :
    m.isNumeric := by
  rw [numeric?] at h
  exact (List.mem_filter.1 (List.mem_of_find?_eq_some h)).2

theorem Operand.isNumeric_of_callee? {names : List String} {m : Macro}
    (h : callee? names = some m) : m.isNumeric := by
  unfold callee? at h
  split at h
  · split at h
    · exact Macro.isNumeric_of_numeric? h
    · cases h
  · cases h

/-- Only calls of numeric macros are evaluated, which is why evaluation ends. -/
theorem Operand.isNumeric_of_callBehind? {names : List String} {ts content : List Token}
    {m : Macro} (h : callBehind? names ts = some (m, content)) : m.isNumeric := by
  fun_induction callBehind? names ts with
  | case1 names _ _ d content' s =>
    obtain ⟨callee, hcallee, heq⟩ := Option.map_eq_some_iff.1 h
    obtain ⟨rfl, -⟩ := Prod.mk.inj heq
    exact isNumeric_of_callee? hcallee
  | case2 names name s ts ih => exact ih h
  | case3 names spacing s ts ih => exact ih h
  | case4 => cases h

/-- The calls that a negation evaluates are those of numeric macros. -/
theorem Operand.isNumeric_of_call {ts content : List Token} {m : Macro}
    (h : of ts = call m content) : m.isNumeric := by
  unfold of at h
  split at h
  · cases h
  · split at h
    · next hcall =>
      obtain ⟨rfl, rfl⟩ := Operand.call.inj h
      exact isNumeric_of_callBehind? hcall
    · cases h

theorem Operand.of_eq_call {ts input : List Token} {m : Macro}
    (h : callBehind? [] ts = some (m, input)) : of ts = .call m input := by
  rw [of]
  · rw [h]
  · rintro text s rfl
    cases h

/-! ## The value of an operand -/

/-- What a negation makes of its operand. `span` is where a failure of the operand is blamed. -/
def Operand.negatedValue (span : Span) (limits : Limits) : Operand → Except Issue NumericValue
  | literal text => .ok (.ofBool (isZeroLiteral text))
  | call inner content =>
    match inner.value content limits with
    | .error cause => .error (Note.causedBy ⟨.error, .operand, some span⟩ cause)
    | .ok v => .ok v.negated
  | expression ts => .ok (.deferred (NumericValue.negation ts))

/-- A call that fails is the cause of the failure of its negation. -/
theorem Operand.negatedValue_call_of_error {inner : Macro} {content : List Token} {span : Span}
    {limits : Limits} {cause : Issue} (h : inner.value content limits = .error cause) :
    (call inner content).negatedValue span limits
      = .error (Note.causedBy ⟨.error, .operand, some span⟩ cause) := by
  rw [negatedValue, h]

/-- A call that has a value is evaluated at once. -/
theorem Operand.negatedValue_call_of_ok {inner : Macro} {content : List Token} {span : Span}
    {limits : Limits} {v : NumericValue} (h : inner.value content limits = .ok v) :
    (call inner content).negatedValue span limits = .ok v.negated := by
  rw [negatedValue, h]

namespace Macro

/-- With one argument, a negation has the value of what the argument holds, negated. -/
theorem value_not_of_split {input : List Token} {a : Argument} (limits : Limits)
    (h : Argument.split input = .ok [a]) :
    not.value input limits = (Operand.of a.peeled).negatedValue a.span limits := by
  rw [value]
  split
  · next e he =>
    rw [h] at he
    cases he
  · next args hargs =>
    rw [h] at hargs
    obtain rfl := Except.ok.inj hargs
    rw [if_pos rfl]
    dsimp only
    split
    · next text ho => rw [ho, Operand.negatedValue]
    · next inner content ho =>
      rw [ho]
      cases hinner : inner.value content limits with
      | error cause => exact (Operand.negatedValue_call_of_error hinner).symm
      | ok v => exact (Operand.negatedValue_call_of_ok hinner).symm
    · next ts ho => rw [ho, Operand.negatedValue]

/-- What is no list is no operand either. -/
theorem value_not_of_error {input : List Token} {e : Issue} (limits : Limits)
    (h : Argument.split input = .error e) : not.value input limits = .error e := by
  rw [value]
  split
  · next e' he =>
    rw [h] at he
    rw [Except.error.inj he]
  · next args hargs =>
    rw [h] at hargs
    cases hargs

/-- A negation takes one argument, and tells how many there are instead. -/
theorem value_not_of_length {input : List Token} {args : List Argument} (limits : Limits)
    (h : Argument.split input = .ok args) (hlen : args.length ≠ 1) :
    not.value input limits = .error (Issue.general (.notOneValue args.length)) := by
  rw [value]
  split
  · next e he =>
    rw [h] at he
    cases he
  · next args' hargs =>
    rw [h] at hargs
    obtain rfl := Except.ok.inj hargs
    rw [if_pos rfl]
    split
    · exact absurd rfl hlen
    · rfl

/-- A negation that has a value has one operand, and the value is the operand's, negated. -/
theorem exists_operand_of_value_not {input : List Token} {limits : Limits} {v : NumericValue}
    (h : not.value input limits = .ok v) :
    ∃ a, Argument.split input = .ok [a]
      ∧ (Operand.of a.peeled).negatedValue a.span limits = .ok v := by
  cases hs : Argument.split input with
  | error e =>
    rw [value_not_of_error limits hs] at h
    cases h
  | ok args =>
    by_cases hlen : args.length = 1
    · obtain ⟨a, rfl⟩ := List.length_eq_one_iff.1 hlen
      rw [value_not_of_split limits hs] at h
      exact ⟨a, rfl, h⟩
    · rw [value_not_of_length limits hs hlen] at h
      cases h

/-- A negation of one argument goes by the argument's operand. -/
theorem value_not_tokens {a : Argument} (limits : Limits) (h : IsRun a.tokens) :
    not.value a.tokens limits = (Operand.of a.peeled).negatedValue a.span limits :=
  value_not_of_split limits (split_tokens h.2)

/-- A stream without commas is one operand. -/
theorem exists_value_not_eq {ts : List Token} (limits : Limits) (h : IsRun ts) :
    ∃ span, not.value ts limits = (Operand.of (peelAll ts)).negatedValue span limits := by
  obtain ⟨a, rfl⟩ := h.exists_tokens_eq
  exact ⟨a.span, value_not_tokens limits h⟩

/-- A macro other than the negation splits its input, counts the arguments and evaluates them. -/
theorem value_of_ne_not {m : Macro} (hm : m ≠ .not) (input : List Token) (limits : Limits) :
    m.value input limits = (do
      let args ← Argument.split input
      m.checkCeiling args limits
      m.tally args) := by
  rw [value]
  split
  · next e he =>
    rw [he]
    rfl
  · next args hargs =>
    rw [if_neg hm, hargs, ok_bind]
    cases m.checkCeiling args limits with
    | error e => rfl
    | ok _ => rfl

/-- Every expression left to the compiler is a negation. -/
theorem exists_negation_of_value {m : Macro} {input expression : List Token} {limits : Limits}
    (h : m.value input limits = .ok (.deferred expression)) :
    ∃ ts, expression = NumericValue.negation ts := by
  by_cases hm : m = .not
  · subst hm
    obtain ⟨a, -, ha⟩ := exists_operand_of_value_not h
    cases ho : Operand.of a.peeled with
    | literal text =>
      rw [ho] at ha
      cases ha
    | expression ts =>
      rw [ho] at ha
      obtain rfl := NumericValue.deferred.inj (Except.ok.inj ha)
      exact ⟨ts, rfl⟩
    | call inner content =>
      rw [ho, Operand.negatedValue] at ha
      split at ha
      · cases ha
      · next v _ =>
        cases v with
        | number n => cases ha
        | deferred ts =>
          obtain rfl := NumericValue.deferred.inj (Except.ok.inj ha)
          exact ⟨ts, rfl⟩
  · rw [value_of_ne_not hm] at h
    simp only [bind_eq_ok_iff] at h
    obtain ⟨args, -, _, -, htally⟩ := h
    cases m <;> cases htally

end Macro

/-! ## Calls that are evaluated -/

/-- A path separator: two colons, the first joint to the second. -/
def IsSeparator (ts : List Token) : Prop :=
  ∃ s spacing s', ts = [.punct ':' .joint s, .punct ':' spacing s']

/-- `ts` is a call of the macro by a path through its crate: perhaps a leading separator, then the
qualifier, a separator, the macro's name, an exclamation mark, and a visible group that holds the
input. -/
inductive QualifiedCall (m : Macro) (input : List Token) : List Token → Prop
  | intro {root separator : List Token} {qualifier : String} {d : Delimiter}
      (hroot : root = [] ∨ IsSeparator root) (hq : qualifier ∈ Operand.qualifiers)
      (hsep : IsSeparator separator) (hd : d ≠ .invisible) (s₁ s₂ s₃ s₄ : Span)
      (spacing : Spacing) :
      QualifiedCall m input
        (root ++ .ident qualifier s₁ :: separator
          ++ [.ident m.name s₂, .punct '!' spacing s₃, .group d input s₄])

theorem IsSeparator.not_comma {separator : List Token} (h : IsSeparator separator) :
    ∀ t ∈ separator, t.isComma = false := by
  obtain ⟨s, spacing, s', rfl⟩ := h
  intro t ht
  rw [List.mem_cons, List.mem_singleton] at ht
  rcases ht with rfl | rfl
  · rfl
  · rfl

namespace QualifiedCall

variable {m : Macro} {input ts : List Token}

/-- A call stands in one argument. -/
theorem isRun (h : QualifiedCall m input ts) : IsRun ts := by
  obtain ⟨hroot, -, hsep, -, s₁, s₂, s₃, s₄, spacing⟩ := h
  refine ⟨by simp, ?_⟩
  intro t ht
  simp only [List.mem_append, List.mem_cons, List.not_mem_nil, or_false] at ht
  rcases ht with (ht | rfl | ht) | rfl | rfl | rfl
  · rcases hroot with rfl | hroot
    · cases ht
    · exact hroot.not_comma t ht
  · rfl
  · exact hsep.not_comma t ht
  · rfl
  · rfl
  · rfl

/-- A call has no invisible group around it, as it is more than one token. -/
theorem isBare (h : QualifiedCall m input ts) : IsBare ts := by
  obtain ⟨-, -, -, -, s₁, s₂, s₃, s₄, spacing⟩ := h
  intro content span heq
  have hlen := congrArg List.length heq
  simp only [List.length_append, List.length_cons, List.length_nil] at hlen
  omega

/-- A well-formed call is taken for one. -/
theorem callBehind?_eq (hm : m.isNumeric) (h : QualifiedCall m input ts) :
    Operand.callBehind? [] ts = some (m, input) := by
  obtain ⟨hroot, hq, ⟨c, spacing', c', rfl⟩, -, s₁, s₂, s₃, s₄, spacing⟩ := h
  have hcallee : ∀ qualifier ∈ Operand.qualifiers,
      Operand.callee? [qualifier, m.name] = some m := by
    intro qualifier hq
    rw [Operand.callee?, if_pos hq, Macro.numeric?_name hm]
  rcases hroot with rfl | ⟨r, spacing'', r', rfl⟩
  · simp [Operand.callBehind?, hcallee _ hq]
  · simp [Operand.callBehind?, hcallee _ hq]

/-- A negation recognises a call of a numeric macro. -/
theorem of_eq (hm : m.isNumeric) (h : QualifiedCall m input ts) :
    Operand.of ts = .call m input :=
  Operand.of_eq_call (h.callBehind?_eq hm)

/-- Peeling finds the call in the invisible groups around it. -/
theorem peelAll_eq {outer : List Token} (h : QualifiedCall m input ts) (hw : Wraps ts outer) :
    peelAll outer = ts := by
  rw [hw.peelAll_eq, peelAll_of_isBare h.isBare]

end QualifiedCall

/-- A negation of a call evaluates the call. What fails there is blamed on the operand's first
token. -/
theorem value_not_call_eq {m : Macro} {input call ts : List Token} {t : Token} (hm : m.isNumeric)
    (hcall : QualifiedCall m input call) (hw : Wraps call (t :: ts)) (limits : Limits) :
    Macro.not.value (t :: ts) limits = (Operand.call m input).negatedValue t.span limits := by
  have hvalue := Macro.value_not_tokens (a := ⟨t, ts⟩) limits (hw.isRun hcall.isRun)
  have hpeel : Argument.peeled ⟨t, ts⟩ = call := hcall.peelAll_eq hw
  rw [hpeel, hcall.of_eq hm] at hvalue
  exact hvalue

/-- A call in the operand of a negation is evaluated, and its value negated. -/
theorem value_not_call {m : Macro} {input call outer : List Token} {limits : Limits}
    {v : NumericValue} (hm : m.isNumeric) (hcall : QualifiedCall m input call)
    (hw : Wraps call outer) (hv : m.value input limits = .ok v) :
    Macro.not.value outer limits = .ok v.negated := by
  obtain ⟨t, ts, rfl⟩ := List.exists_cons_of_ne_nil (hw.isRun hcall.isRun).1
  rw [value_not_call_eq hm hcall hw, Operand.negatedValue_call_of_ok hv]

end Variadic
