import Variadic.Iteration
import Variadic.Proofs.Listing
import Variadic.Proofs.Outcomes
import Variadic.Proofs.Wrapping

/-!
# How a plan comes about

An iteration is planned in stages, each of which may fail. `Macro.Planned` names the parts of the
input and what every stage makes of them, and `plan_eq_ok_iff` shows that a plan comes about in no
other way. `GivenBy` says which fixed parameters the leading arguments stand for. Each stage also
has a lemma that says when it fails, and with which issue.
-/

namespace Variadic

namespace Macro

/-! ## Leading parameters -/

/-- As many arguments as there are leading parameters are taken off the front. -/
theorem takeLeading_eq_ok_iff {m : Macro} {all leading args : List Argument} :
    m.takeLeading all = .ok (leading, args)
      ↔ all = leading ++ args ∧ leading.length = m.leading.length := by
  rw [takeLeading]
  constructor
  · intro h
    split at h
    · next hlen =>
      rw [List.getElem?_eq_none_iff] at hlen
      rw [List.splitAt_eq] at h
      obtain ⟨rfl, rfl⟩ := Prod.mk.inj (Except.ok.inj h)
      exact ⟨(List.take_append_drop _ all).symm, by rw [List.length_take, Nat.min_eq_left hlen]⟩
    · cases h
  · rintro ⟨rfl, hlen⟩
    have hnone : m.leading[(leading ++ args).length]? = none := by
      rw [List.getElem?_eq_none_iff, List.length_append, hlen]
      exact Nat.le_add_right _ _
    rw [hnone, ← hlen]
    simp only [List.splitAt_eq, List.take_left, List.drop_left]

/-- A list that is too short is told by the first parameter that it lacks. -/
theorem takeLeading_eq_error_iff {m : Macro} {all : List Argument} {e : Issue} :
    m.takeLeading all = .error e
      ↔ ∃ name, m.leading[all.length]? = some name
        ∧ e = Issue.error (.missingParameter m name)
          ((all.getLast?.map Argument.span).getD .callSite) := by
  rw [takeLeading]
  split
  · next hnone => simp [hnone]
  · next name hsome => simp [hsome, eq_comm]

/-! ## Fixed parameters -/

/-- Which fixed parameters the arguments given for them stand for. One macro takes a parenthesized
list, which may stand in invisible groups, for its elements, and any other argument for itself. The
other macros take the arguments as they are. -/
inductive GivenBy : Macro → List Argument → List Argument → Prop
  | tuple {a : Argument} {content : List Token} {s : Span} {fixed : List Argument}
      (ha : Token.Wraps [.group .paren content s] a.tokens)
      (hc : Argument.Listing (fixed.map Argument.tokens) content) : GivenBy parEachIdx [a] fixed
  | scalar {a : Argument} (ha : ∀ content s, ¬Token.Wraps [.group .paren content s] a.tokens) :
      GivenBy parEachIdx [a] [a]
  | positional {m : Macro} {given : List Argument} (hm : m ≠ parEachIdx) : GivenBy m given given

theorem fixedParameters_of_ne {m : Macro} (hm : m ≠ parEachIdx) (given : List Argument) :
    m.fixedParameters given = .ok (FixedParameters.positional given, none) := by
  unfold fixedParameters
  split
  · exact absurd rfl hm
  · rfl

/-- A list in parentheses is a tuple of fixed parameters. -/
theorem detect_of_wraps {a : Argument} {content : List Token} {s : Span}
    {params : List Argument} (ha : Token.Wraps [.group .paren content s] a.tokens)
    (hc : Argument.split content = .ok params) :
    ∃ warning, FixedParameters.detect a = .ok (⟨.tuple, params⟩, warning) := by
  rw [FixedParameters.detect, Argument.parenthesized?_eq_some_iff.2 ha]
  dsimp only
  rw [hc]
  exact ⟨_, rfl⟩

/-- What is no list in parentheses is a single fixed parameter. -/
theorem detect_of_not_wraps {a : Argument}
    (ha : ∀ content s, ¬Token.Wraps [.group .paren content s] a.tokens) :
    FixedParameters.detect a = .ok (⟨.scalar, [a]⟩, none) := by
  rw [FixedParameters.detect, Argument.parenthesized?_eq_none_iff.2 ha]

/-- Only a list in parentheses can be wrong, at a comma in it. -/
theorem detect_eq_error_iff {a : Argument} {e : Issue} :
    FixedParameters.detect a = .error e
      ↔ ∃ content s comma, Token.Wraps [.group .paren content s] a.tokens
        ∧ Argument.FirstMisplaced content comma
        ∧ e = ⟨⟨.error, .invalidTuple, some a.span⟩,
          [⟨.error, .emptyArgument, some comma.span⟩]⟩ := by
  constructor
  · intro h
    rw [FixedParameters.detect] at h
    split at h
    · cases h
    · next content s hsome =>
      split at h
      · next cause hcause =>
        obtain ⟨comma, hcomma, rfl⟩ := Argument.split_eq_error_iff.1 hcause
        obtain rfl := Except.error.inj h
        exact ⟨content, s, comma, Argument.parenthesized?_eq_some_iff.1 hsome, hcomma, rfl⟩
      · cases h
  · rintro ⟨content, s, comma, ha, hcomma, rfl⟩
    rw [FixedParameters.detect, Argument.parenthesized?_eq_some_iff.2 ha]
    dsimp only
    rw [Argument.split_eq_error_iff.2 ⟨comma, hcomma, rfl⟩]
    rfl

/-- The fixed parameters that the leading arguments stand for are found. -/
theorem GivenBy.exists_fixedParameters {m : Macro} {given fixed : List Argument}
    (h : m.GivenBy given fixed) :
    ∃ shape warning, m.fixedParameters given = .ok (⟨shape, fixed⟩, warning) := by
  cases h with
  | tuple ha hc =>
    obtain ⟨warning, hdetect⟩ := detect_of_wraps ha hc.split_eq
    exact ⟨_, warning, hdetect⟩
  | scalar ha => exact ⟨_, none, detect_of_not_wraps ha⟩
  | positional hm => exact ⟨_, none, fixedParameters_of_ne hm given⟩

theorem fixedParameters_eq_error_iff {m : Macro} {given : List Argument} {e : Issue}
    (hlen : given.length + 1 = m.leading.length) :
    m.fixedParameters given = .error e
      ↔ ∃ a, m = parEachIdx ∧ given = [a] ∧ FixedParameters.detect a = .error e := by
  constructor
  · intro h
    by_cases hm : m = parEachIdx
    · subst hm
      obtain ⟨a, rfl⟩ : ∃ a, given = [a] := List.length_eq_one_iff.1 (Nat.succ.inj hlen)
      exact ⟨a, rfl, rfl, h⟩
    · rw [fixedParameters_of_ne hm] at h
      cases h
  · rintro ⟨a, rfl, rfl, h⟩
    exact h

/-! ## Plans -/

/-- `p` is the plan of the input: `template` and `given` are the leading arguments, and each stage
succeeds with what the plan holds. -/
structure Planned (m : Macro) (input : List Token) (limits : Limits) (p : Plan)
    (template : Argument) (given : List Argument) : Prop where
  kind : p.m = m
  split : Argument.split input = .ok (template :: given ++ p.args)
  leading : given.length + 1 = m.leading.length
  parse : Template.parse template = .ok p.template
  fixed : ∃ warning : Option Issue,
    m.fixedParameters given = .ok (p.fixed, warning) ∧ p.warnings = warning.toList
  ceiling : m.checkCeiling p.args limits = .ok ()

/-- What is planned once the input is divided. -/
theorem plan_of_split {m : Macro} {input : List Token} {limits : Limits} {template : Argument}
    {given args : List Argument} (hsplit : Argument.split input = .ok (template :: given ++ args))
    (hlen : given.length + 1 = m.leading.length) :
    m.plan input limits = (do
      let t ← Template.parse template
      let (fixed, warning) ← m.fixedParameters given
      m.checkCeiling args limits
      pure ⟨m, t, fixed, args, warning.toList⟩) := by
  have hleading : m.takeLeading (template :: given ++ args) = .ok (template :: given, args) :=
    takeLeading_eq_ok_iff.2 ⟨rfl, hlen⟩
  rw [plan, hsplit]
  change m.takeLeading (template :: given ++ args) >>= _ = _
  rw [hleading]
  rfl

/-- A plan is what the input and the stages that it passes say. -/
theorem plan_eq_ok_iff {m : Macro} {input : List Token} {limits : Limits} {p : Plan} :
    m.plan input limits = .ok p ↔ ∃ template given, m.Planned input limits p template given := by
  simp only [plan, bind_eq_ok_iff, Prod.exists, takeLeading_eq_ok_iff]
  constructor
  · rintro ⟨all, hsplit, leading, args, ⟨rfl, hlen⟩, h⟩
    -- a macro without leading parameters has no template, and fails
    cases leading with
    | nil => cases h
    | cons template given =>
      simp only [bind_eq_ok_iff, Prod.exists] at h
      obtain ⟨t, hparse, fixed, warning, hfixed, ⟨⟩, hceiling, h⟩ := h
      obtain rfl := Except.ok.inj h
      exact ⟨template, given, rfl, hsplit, hlen, hparse, ⟨warning, hfixed, rfl⟩, hceiling⟩
  · rintro ⟨template, given, hp⟩
    obtain ⟨warning, hfixed, hwarnings⟩ := hp.fixed
    refine ⟨_, hp.split, template :: given, p.args, ⟨rfl, hp.leading⟩, ?_⟩
    simp only [bind_eq_ok_iff, Prod.exists]
    refine ⟨_, hp.parse, _, _, hfixed, (), hp.ceiling, ?_⟩
    rw [← hwarnings, ← hp.kind]
    rfl

theorem iterate_eq_ok_iff {m : Macro} {input : List Token} {limits : Limits} {x : Expansion} :
    m.iterate input limits = .ok x ↔ ∃ p, m.plan input limits = .ok p ∧ p.expansion = x :=
  map_eq_ok_iff

/-- The fixed parameters of a macro are those that its leading arguments stand for. -/
theorem givenBy_of_fixedParameters {m : Macro} {given : List Argument} {fixed : FixedParameters}
    {warning : Option Issue} (hlen : given.length + 1 = m.leading.length)
    (h : m.fixedParameters given = .ok (fixed, warning)) : GivenBy m given fixed.params := by
  by_cases hm : m = parEachIdx
  · -- the one macro that looks into the argument it is given
    subst hm
    obtain ⟨a, rfl⟩ : ∃ a, given = [a] := List.length_eq_one_iff.1 (Nat.succ.inj hlen)
    rw [fixedParameters, FixedParameters.detect] at h
    split at h
    · next hnone =>
      obtain ⟨rfl, -⟩ := Prod.mk.inj (Except.ok.inj h)
      exact .scalar (Argument.parenthesized?_eq_none_iff.1 hnone)
    · next content s hsome =>
      split at h
      · cases h
      · next params hparams =>
        obtain ⟨rfl, -⟩ := Prod.mk.inj (Except.ok.inj h)
        exact .tuple (Argument.parenthesized?_eq_some_iff.1 hsome)
          (Argument.listing_of_split hparams)
  · rw [fixedParameters_of_ne hm] at h
    obtain ⟨rfl, -⟩ := Prod.mk.inj (Except.ok.inj h)
    exact .positional hm

end Macro
end Variadic
