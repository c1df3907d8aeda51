import Variadic.Proofs.Counting
import Variadic.Proofs.Tracing

/-!
# Redundant parentheses

`par_each_idx` warns of parentheses around a single fixed parameter and advises a second pair to
pass a value in parentheses. `Argument.Redundant` says of which parentheses: they stand around a run
that is not in parentheses itself. Those are the ones that every call can do without
(`redundant_iff_interchangeable`), and nothing else is warned of (`warnings_of_run`).
-/

namespace Variadic

open Argument Token

/-! ## What is warned of -/

/-- The argument is `content` in parentheses that change nothing, placed at `s`: around a single
parameter, with no comma behind it, which is not in parentheses itself. Invisible groups may stand
around the argument and around the parameter. -/
structure Argument.Redundant (a : Argument) (content : List Token) (s : Span) : Prop where
  parentheses : Wraps [.group .paren content s] a.tokens
  single : IsRun content
  notNested : ∀ inner s', ¬Wraps [.group .paren inner s'] content

/-- What is said of redundant parentheses. -/
def redundancyWarning (content : List Token) (s : Span) : Issue :=
  Note.alone ⟨.warning, .redundantParentheses content, some s⟩

theorem Token.textAll_paren (content : List Token) (s : Span) :
    textAll [.group .paren content s] = "(" ++ textAll content ++ ")" := by
  simp only [textAll, text, Delimiter.openingText, Delimiter.closingText]

theorem Fault.message_redundantParentheses (content : List Token) (s₁ s₂ : Span) :
    (redundantParentheses content).message
      = "Parentheses around a single fixed parameter are redundant, `" ++ textAll content
        ++ "` is passed as is. Use `" ++ textAll [.group .paren [.group .paren content s₁] s₂]
        ++ "` to pass a parenthesized value." := by
  have hmessage : (redundantParentheses content).message
      = "Parentheses around a single fixed parameter are redundant, `" ++ textAll content
        ++ "` is passed as is. " ++ "Use `((" ++ textAll content
        ++ "))` to pass a parenthesized value." := rfl
  have hopen : "Use `((" = "Use `" ++ ("(" ++ "(") := by simp
  have hclose : "))` to pass a parenthesized value."
      = ")" ++ (")" ++ "` to pass a parenthesized value.") := by simp
  have hmiddle : "` is passed as is. Use `" = "` is passed as is. " ++ "Use `" := by simp
  rw [hmessage, textAll_paren, textAll_paren, hopen, hclose, hmiddle]
  simp only [String.append_assoc]

/-- The warning shows the content as it is, and in two pairs of parentheses. -/
theorem message_redundancyWarning (content : List Token) (s s₁ s₂ : Span) :
    (redundancyWarning content s).message
      = "Parentheses around a single fixed parameter are redundant, `" ++ textAll content
        ++ "` is passed as is. Use `" ++ textAll [.group .paren [.group .paren content s₁] s₂]
        ++ "` to pass a parenthesized value." := by
  rw [← Fault.message_redundantParentheses, redundancyWarning, Issue.message_alone]

namespace FixedParameters

theorem endsWithComma_append {comma : Token} (hc : comma.isComma) (ts : List Token) :
    endsWithComma (ts ++ [comma]) = true := by
  rw [endsWithComma, List.getLast?_concat]
  exact hc

theorem endsWithComma_of_isRun {ts : List Token} (h : IsRun ts) : endsWithComma ts = false := by
  rw [endsWithComma, List.getLast?_eq_some_getLast h.1, Option.any_some]
  exact h.2 _ (List.getLast_mem h.1)

/-- One parameter and no comma at the end is all there is. -/
theorem tokens_eq_of_split {content : List Token} {p : Argument} (h : split content = .ok [p])
    (hend : endsWithComma content = false) : p.tokens = content := by
  have hlisting : Listing [p.tokens] content := listing_of_split h
  cases hlisting with
  | last _ => rfl
  | cons _ hc hrest =>
    cases hrest
    rw [endsWithComma_append hc] at hend
    cases hend

/-- Parentheses are redundant around one parameter without a comma behind it or parentheses of its
own. -/
theorem redundant?_eq_some_iff {content : List Token} {params : List Argument} {p : Argument} :
    redundant? content params = some p
      ↔ params = [p] ∧ endsWithComma content = false ∧ p.parenthesized? = none := by
  constructor
  · intro h
    unfold redundant? at h
    split at h
    · next q =>
      split at h
      · next hq =>
        obtain rfl := Option.some.inj h
        simpa using hq
      · cases h
    · cases h
  · rintro ⟨rfl, hend, hp⟩
    rw [redundant?, hend, hp]
    rfl

theorem detect_of_split {a : Argument} {content : List Token} {s : Span} {params : List Argument}
    (ha : Wraps [.group .paren content s] a.tokens) (hc : split content = .ok params) :
    detect a = .ok (⟨.tuple, params⟩,
      (redundant? content params).map fun p => redundancyWarning p.tokens s) := by
  rw [detect, parenthesized?_eq_some_iff.2 ha]
  dsimp only
  rw [hc]
  rfl

theorem detect_of_redundant {a p : Argument} {s : Span} (h : a.Redundant p.tokens s) :
    detect a = .ok (⟨.tuple, [p]⟩, some (redundancyWarning p.tokens s)) := by
  have hp : redundant? p.tokens [p] = some p :=
    redundant?_eq_some_iff.2
      ⟨rfl, endsWithComma_of_isRun h.single, parenthesized?_eq_none_iff.2 h.notNested⟩
  rw [detect_of_split h.parentheses (split_tokens h.single.2), hp]
  rfl

/-- Whatever is warned of is redundant. -/
theorem redundant_of_detect {a : Argument} {fixed : FixedParameters} {w : Issue}
    (h : detect a = .ok (fixed, some w)) :
    ∃ content s, a.Redundant content s ∧ w = redundancyWarning content s := by
  cases ha : a.parenthesized? with
  | none =>
    rw [detect, ha] at h
    cases h
  | some list =>
    obtain ⟨content, s⟩ := list
    have hwraps := parenthesized?_eq_some_iff.1 ha
    cases hc : split content with
    | error e =>
      rw [detect, ha] at h
      dsimp only at h
      rw [hc] at h
      cases h
    | ok params =>
      rw [detect_of_split hwraps hc] at h
      obtain ⟨-, hw⟩ := Prod.mk.inj (Except.ok.inj h)
      obtain ⟨p, hp, rfl⟩ := Option.map_eq_some_iff.1 hw
      obtain ⟨rfl, hend, hnone⟩ := redundant?_eq_some_iff.1 hp
      obtain rfl := tokens_eq_of_split hc hend
      exact ⟨p.tokens, s, ⟨hwraps, isRun_of_mem_split hc (List.mem_singleton.2 rfl),
        parenthesized?_eq_none_iff.1 hnone⟩, rfl⟩

/-- The warning is given for exactly the redundant parentheses. -/
theorem exists_detect_iff {a : Argument} {w : Issue} :
    (∃ fixed, detect a = .ok (fixed, some w))
      ↔ ∃ content s, a.Redundant content s ∧ w = redundancyWarning content s := by
  constructor
  · rintro ⟨fixed, h⟩
    exact redundant_of_detect h
  · rintro ⟨content, s, h, rfl⟩
    obtain ⟨p, rfl⟩ := h.single.exists_tokens_eq
    exact ⟨_, detect_of_redundant h⟩

/-- With a comma behind it, a single parameter may stand in parentheses. -/
theorem detect_of_comma {a p : Argument} {comma : Token} {s : Span} (hp : IsRun p.tokens)
    (hc : comma.isComma) (ha : Wraps [.group .paren (p.tokens ++ [comma]) s] a.tokens) :
    detect a = .ok (⟨.tuple, [p]⟩, none) := by
  have hlisting : Listing ([p].map tokens) (p.tokens ++ [comma]) := .cons hp hc .nil
  have hnone : redundant? (p.tokens ++ [comma]) [p] = none := by
    rw [redundant?, endsWithComma_append hc]
    rfl
  rw [detect_of_split ha hlisting.split_eq, hnone]
  rfl

/-- A parameter in parentheses may stand in parentheses. -/
theorem detect_of_nested {a p : Argument} {content : List Token} {s s' : Span}
    (hp : Wraps [.group .paren content s] p.tokens)
    (ha : Wraps [.group .paren p.tokens s'] a.tokens) :
    detect a = .ok (⟨.tuple, [p]⟩, none) := by
  have hrun : IsRun p.tokens := hp.isRun (isRun_singleton rfl)
  have hnone : redundant? p.tokens [p] = none := by
    rw [redundant?, parenthesized?_eq_some_iff.2 hp, Option.isNone_some, Bool.and_false]
    rfl
  rw [detect_of_split ha (split_tokens hrun.2), hnone]
  rfl

end FixedParameters

/-! ## What is written -/

namespace Macro

variable {rest ts : List Token} {template a : Argument}

/-- The template and the arguments that `par_each_idx` goes by, if nothing is wrong with either. -/
def checked (template : Argument) (rest : List Token) (limits : Limits) :
    Except Issue (Template × List Argument) := do
  let args ← Argument.split rest
  let t ← Template.parse template
  parEachIdx.checkCeiling args limits
  pure (t, args)

/-- What `par_each_idx` writes for a rest, given its fixed parameters. -/
def written (template : Argument) (fixed : List Argument) (rest : List Token) (limits : Limits) :
    Except Issue (List Token) :=
  (fun (t, args) => Plan.tokens ⟨parEachIdx, t, .positional fixed, args, []⟩)
    <$> checked template rest limits

/-- Of the argument for the fixed parameters, only the parameters and the warning matter. -/
theorem iterate_of_detect {shape : Shape} {fixed : List Argument} {warning : Option Issue}
    (h : Ahead rest [template.tokens, a.tokens] ts)
    (ha : FixedParameters.detect a = .ok (⟨shape, fixed⟩, warning)) (limits : Limits) :
    parEachIdx.iterate ts limits
      = (Expansion.mk · warning.toList) <$> written template fixed rest limits := by
  have hmap : Ahead rest ((template :: [a]).map Argument.tokens) ts := h
  have hfixed : parEachIdx.fixedParameters [a] = .ok (⟨shape, fixed⟩, warning) := ha
  rw [iterate_eq_of_ahead hmap rfl, hfixed, written, checked]
  cases Argument.split rest with
  | error e => rfl
  | ok args =>
    cases Template.parse template with
    | error e => rfl
    | ok t =>
      rw [ok_bind, ok_bind, ok_bind, ok_bind, ok_bind]
      cases parEachIdx.checkCeiling args limits with
      | error e => rfl
      | ok _ => rfl

/-- Whether anything is written does not depend on the fixed parameters. -/
theorem written_eq_error_iff {fixed fixed' : List Argument} {limits : Limits} {e : Issue} :
    written template fixed rest limits = .error e
      ↔ written template fixed' rest limits = .error e := by
  rw [written, written, map_eq_error_iff, map_eq_error_iff]

/-- A call that expands has found its fixed parameters, and has made one call for each argument of
the rest. -/
theorem exists_calls_of_iterate {limits : Limits} {x : Expansion}
    (h : Ahead rest [template.tokens, a.tokens] ts) (hx : parEachIdx.iterate ts limits = .ok x) :
    ∃ t args fixed, Template.parse template = .ok t ∧ Argument.split rest = .ok args
      ∧ parEachIdx.GivenBy [a] fixed
      ∧ Calls t (args.mapIdx fun i b => received parEachIdx fixed b i) x.tokens := by
  obtain ⟨q, hplan, rfl⟩ := iterate_eq_ok_iff.1 hx
  obtain ⟨template', given, hq⟩ := plan_eq_ok_iff.1 hplan
  obtain ⟨b, rfl⟩ : ∃ b, given = [b] := List.length_eq_one_iff.1 (Nat.succ.inj hq.leading)
  obtain ⟨warning, hfixed, -⟩ := hq.fixed
  have hmap : Ahead rest ([template, a].map Argument.tokens) ts := h
  have hsplit := hq.split
  rw [split_of_ahead hmap] at hsplit
  obtain ⟨args, hargs, hall⟩ := map_eq_ok_iff.1 hsplit
  obtain ⟨rfl, hbehind⟩ := List.cons.inj hall
  obtain ⟨rfl, rfl⟩ := List.cons.inj hbehind
  have hgiven := givenBy_of_fixedParameters hq.leading hfixed
  have hrun : ∀ b ∈ [a], IsRun b.tokens := by
    intro b hb
    rw [List.mem_singleton.1 hb]
    exact h.isRun a.tokens (by simp)
  have hcalls := q.calls_tokens (hgiven.isRun hrun) fun b hb => isRun_of_mem_split hargs hb
  rw [hq.kind] at hcalls
  exact ⟨q.template, q.args, q.fixed.params, hq.parse, hargs, hgiven, hcalls⟩

end Macro

/-! ## Doing without -/

/-- The call `par_each_idx!(template, fixed, rest)`. -/
def callWith (template : Argument) (fixed rest : List Token) : List Token :=
  template.tokens ++ .mark ',' :: (fixed ++ .mark ',' :: rest)

/-- In every call, `fixed'` is as good as `fixed`: the same is written, or both calls fail with the
same issue. -/
def Interchangeable (limits : Limits) (fixed fixed' : List Token) : Prop :=
  ∀ (template : Argument) (rest : List Token), IsRun template.tokens →
    Expansion.tokens <$> Macro.parEachIdx.iterate (callWith template fixed rest) limits
      = Expansion.tokens <$> Macro.parEachIdx.iterate (callWith template fixed' rest) limits

theorem ahead_callWith {template : Argument} {run : List Token} (ht : IsRun template.tokens)
    (hrun : IsRun run) (rest : List Token) :
    Ahead rest [template.tokens, run] (callWith template run rest) :=
  .cons ht rfl (.last hrun rfl)

theorem ahead_callWith_list {template a : Argument} {content : List Token} {s : Span}
    (ht : IsRun template.tokens) (ha : Wraps [.group .paren content s] a.tokens)
    (rest : List Token) :
    Ahead rest ([template, a].map Argument.tokens) (callWith template a.tokens rest) :=
  ahead_callWith ht (ha.isRun (isRun_singleton rfl)) rest

/-- No element of a list in parentheses is the list itself. -/
theorem Argument.ne_of_mem_split {a b : Argument} {content : List Token} {s : Span}
    {params : List Argument} (ha : Wraps [.group .paren content s] a.tokens)
    (hc : split content = .ok params) (hb : b ∈ params) : b ≠ a := by
  rintro rfl
  have hle := weightAll_le_of_mem_split hc hb
  have hwraps := ha.weightAll_le
  simp only [weightAll_cons, weight_group, weightAll_nil] at hwraps
  omega

/-- Behind a comma, another argument begins. -/
theorem Argument.not_listing_singleton {run ts : List Token} {comma t : Token}
    (hc : comma.isComma) (ht : t.isComma = false) : ¬Listing [run] (ts ++ [comma, t]) := by
  intro h
  generalize hall : ts ++ [comma, t] = all at h
  cases h with
  | last h =>
    refine h.not_isComma ?_ hc
    rw [← hall]
    simp
  | cons _ hc' hrest =>
    cases hrest
    -- the last token is both
    have hlast := congrArg List.getLast? hall
    obtain rfl : t = _ := by simpa using hlast
    rw [ht] at hc'
    cases hc'

theorem received_inj {m : Macro} {fixed fixed' : List Argument} {a a' : Argument} {index : ℕ}
    (h : received m fixed a index = received m fixed' a' index) : fixed = fixed' ∧ a = a' := by
  obtain ⟨hparams, -⟩ := List.append_inj' h rfl
  obtain ⟨hfixed, ha⟩ := List.append_inj' hparams rfl
  exact ⟨hfixed, List.singleton_inj.1 ha⟩

/-- A single call shows its fixed parameters and its argument. -/
theorem Calls.eq_of_singleton {t : Template} {m : Macro} {fixed fixed' args : List Argument}
    {a : Argument} {ts : List Token} (h : Calls t ([a].mapIdx fun i b => received m fixed b i) ts)
    (h' : Calls t (args.mapIdx fun i b => received m fixed' b i) ts) :
    fixed = fixed' ∧ args = [a] := by
  have hcalls := h.eq h' rfl
  cases args with
  | nil => cases hcalls
  | cons b args =>
    rw [List.mapIdx_cons, List.mapIdx_cons] at hcalls
    obtain ⟨hfirst, hrest⟩ := List.cons.inj hcalls
    obtain ⟨hfixed, rfl⟩ := received_inj hfirst
    have hnil : args = [] := by simpa using hrest.symm
    rw [hnil]
    exact ⟨hfixed, rfl⟩

theorem Note.causedBy_ne (n : Note) (i : Issue) : n.causedBy i ≠ i := by
  intro h
  have hlen := congrArg (·.causes.length) h
  exact Nat.succ_ne_self _ hlen

theorem map_tokens_map_mk (warnings : List Issue) (x : Except Issue (List Token)) :
    Expansion.tokens <$> ((Expansion.mk · warnings) <$> x) = x := by
  cases x with
  | error e => rfl
  | ok ts => rfl

section
variable {a template : Argument} {content : List Token} {s : Span} {t : Template} {limits : Limits}

/-- Redundant parentheses can be left out of every call. -/
theorem Argument.Redundant.interchangeable (h : a.Redundant content s) (limits : Limits) :
    Interchangeable limits a.tokens content := by
  intro template rest ht
  obtain ⟨p, rfl⟩ := h.single.exists_tokens_eq
  rw [Macro.iterate_of_detect (ahead_callWith_list ht h.parentheses rest)
      (FixedParameters.detect_of_redundant h),
    Macro.iterate_of_detect (ahead_callWith ht h.single rest)
      (Macro.detect_of_not_wraps h.notNested),
    map_tokens_map_mk, map_tokens_map_mk]

namespace Interchangeable

/-- A list that can do without its parentheses is well-formed. -/
theorem exists_split (h : Interchangeable limits a.tokens content)
    (ha : Wraps [.group .paren content s] a.tokens) (htemplate : IsRun template.tokens)
    (ht : Template.parse template = .ok t) {rest : List Token} {args : List Argument}
    (hargs : split rest = .ok args) : ∃ params, split content = .ok params := by
  cases hc : split content with
  | ok params => exact ⟨params, rfl⟩
  | error e =>
    have hdetect : Macro.parEachIdx.fixedParameters [a]
        = .error (Note.causedBy ⟨.error, .invalidTuple, some a.span⟩ e) := by
      rw [Macro.fixedParameters, FixedParameters.detect, parenthesized?_eq_some_iff.2 ha]
      dsimp only
      rw [hc]
    have hwith : Macro.parEachIdx.iterate (callWith template a.tokens rest) limits
        = .error (Note.causedBy ⟨.error, .invalidTuple, some a.span⟩ e) := by
      rw [Macro.iterate_eq_of_ahead (ahead_callWith_list htemplate ha rest) rfl, hdetect, hargs, ht]
      rfl
    have hsplit : split (callWith template content rest) = .error e := by
      rw [callWith, split_tokens_cons htemplate.2 rfl, split_append_of_error hc]
      rfl
    have hwithout : Macro.parEachIdx.iterate (callWith template content rest) limits
        = .error e := by
      rw [Macro.iterate, Macro.plan, hsplit]
      rfl
    have heq := h template rest htemplate
    rw [hwith, hwithout] at heq
    exact absurd (Except.error.inj heq) (Note.causedBy_ne _ e)

/-- The call without the parentheses makes the call that is made with them. -/
theorem exists_calls (h : Interchangeable limits a.tokens content) (hlimits : 0 < limits.count)
    (ha : Wraps [.group .paren content s] a.tokens) {params : List Argument}
    (hc : split content = .ok params) (htemplate : IsRun template.tokens)
    (ht : Template.parse template = .ok t) {x : Argument} (hx : IsRun x.tokens) :
    ∃ z, Macro.parEachIdx.iterate (callWith template content x.tokens) limits = .ok z
      ∧ Calls t ([x].mapIdx fun i b => received .parEachIdx params b i) z.tokens := by
  have hargs : Macro.parEachIdx.checkCeiling [x] limits = .ok () :=
    Macro.checkCeiling_eq_ok_iff.2 hlimits
  obtain ⟨y, hy, hcalls⟩ := exists_calls_of_ahead ht rfl (.tuple ha (listing_of_split hc))
    (ahead_callWith_list htemplate ha x.tokens) (split_tokens hx.2) hargs
  have heq := h template x.tokens htemplate
  rw [hy] at heq
  obtain ⟨z, hz, htokens⟩ := map_eq_ok_iff.1 heq.symm
  rw [← htokens] at hcalls
  exact ⟨z, hz, hcalls⟩

/-- Parentheses that can be left out of every call are redundant. -/
theorem redundant (h : Interchangeable limits a.tokens content) (hlimits : 0 < limits.count)
    (ha : Wraps [.group .paren content s] a.tokens) : a.Redundant content s := by
  let f : Argument := ⟨.ident "f" .callSite, []⟩
  let x : Argument := ⟨.ident "x" .callSite, []⟩
  have hf : IsRun f.tokens := isRun_singleton rfl
  have hx : IsRun x.tokens := isRun_singleton rfl
  have ht : Template.parse f = .ok ⟨⟨false, [⟨f.first, .none⟩]⟩⟩ := by rfl
  obtain ⟨params, hc⟩ := h.exists_split ha hf ht (split_tokens hx.2)
  obtain ⟨z, hz, hcalls⟩ := h.exists_calls hlimits ha hc hf ht hx
  -- the call without parentheses has the same fixed parameters, and `x` is all there is behind
  have hgiven {rest : List Token} {b : Argument}
      (hus : Ahead rest [f.tokens, b.tokens] (callWith f content x.tokens)) :
      split rest = .ok [x] ∧ Macro.parEachIdx.GivenBy [b] params := by
    obtain ⟨t, args, fixed, ht', hrest, hfixed, hcalls'⟩ := Macro.exists_calls_of_iterate hus hz
    rw [ht] at ht'
    obtain rfl := Except.ok.inj ht'
    obtain ⟨rfl, rfl⟩ := hcalls.eq_of_singleton hcalls'
    exact ⟨hrest, hfixed⟩
  have hlisting : Listing (params.map Argument.tokens) content := listing_of_split hc
  generalize hruns : params.map Argument.tokens = runs at hlisting
  cases hlisting with
  | nil =>
    -- nothing is left between two commas
    have hsplit : split (callWith f [] x.tokens) = .error (Issue.error .emptyArgument .callSite) :=
      rfl
    rw [Macro.iterate, Macro.plan, hsplit] at hz
    cases hz
  | last hrun =>
    obtain ⟨p, rfl, rfl⟩ := List.map_eq_singleton_iff.1 hruns
    obtain ⟨-, hp⟩ := hgiven (ahead_callWith hf hrun x.tokens)
    refine ⟨ha, hrun, fun inner s' hinner => ?_⟩
    -- in parentheses, it would have been passed as what is in them
    cases hp with
    | tuple hp hlist => exact ne_of_mem_split hp hlist.split_eq (List.mem_singleton.2 rfl) rfl
    | scalar hp => exact hp inner s' hinner
    | positional hm => exact hm rfl
  | @cons run ts comma runs hrun hcomma hnext =>
    obtain ⟨b, rfl⟩ := hrun.exists_tokens_eq
    have hus : Ahead (ts ++ .mark ',' :: x.tokens) [f.tokens, b.tokens]
        (callWith f (b.tokens ++ comma :: ts) x.tokens) := by
      rw [callWith, List.append_assoc, List.cons_append]
      exact .cons hf rfl (.last hrun hcomma)
    -- what stands behind the comma is an argument in front of `x`
    obtain ⟨hrest, -⟩ := hgiven hus
    exact absurd (listing_of_split hrest) (not_listing_singleton rfl rfl)

end Interchangeable

/-- The parentheses that can be left out of every call are the redundant ones. -/
theorem redundant_iff_interchangeable (ha : Wraps [.group .paren content s] a.tokens)
    (hlimits : 0 < limits.count) :
    a.Redundant content s ↔ Interchangeable limits a.tokens content :=
  ⟨fun h => h.interchangeable limits, fun h => h.redundant hlimits ha⟩

end

/-! ## Advice -/

section
variable {a template : Argument} {content rest ts : List Token} {s : Span}

/-- Redundant parentheses can be left out, and a comma makes them fit. What is written is the same
all three times, and only the first time comes with a warning. -/
theorem Argument.Redundant.exists_tokens (h : a.Redundant content s)
    (hts : Ahead rest [template.tokens, a.tokens] ts) (limits : Limits) :
    ∃ tokens : Except Issue (List Token),
      Macro.parEachIdx.iterate ts limits = (Expansion.mk · [redundancyWarning content s]) <$> tokens
        ∧ (∀ us, Ahead rest [template.tokens, content] us →
          Macro.parEachIdx.iterate us limits = (Expansion.mk · []) <$> tokens)
        ∧ ∀ (list : Argument) (comma : Token) (s' : Span) (us : List Token), comma.isComma →
          Wraps [.group .paren (content ++ [comma]) s'] list.tokens →
          Ahead rest [template.tokens, list.tokens] us →
          Macro.parEachIdx.iterate us limits = (Expansion.mk · []) <$> tokens := by
  obtain ⟨p, rfl⟩ := h.single.exists_tokens_eq
  refine ⟨Macro.written template [p] rest limits,
    Macro.iterate_of_detect hts (FixedParameters.detect_of_redundant h) limits, ?_, ?_⟩
  · intro us hus
    exact Macro.iterate_of_detect hus (Macro.detect_of_not_wraps h.notNested) limits
  · intro list comma s' us hc hlist hus
    exact Macro.iterate_of_detect hus (FixedParameters.detect_of_comma h.single hc hlist) limits

/-- With a second pair of parentheses, the first pair is passed. The call fails where the one with
redundant parentheses does. -/
theorem Argument.Redundant.iterate_nested (h : a.Redundant content s) {value tuple : Argument}
    {us : List Token} {s₁ s₂ : Span} (hvalue : Wraps [.group .paren content s₁] value.tokens)
    (htuple : Wraps [.group .paren value.tokens s₂] tuple.tokens)
    (hts : Ahead rest [template.tokens, a.tokens] ts)
    (hus : Ahead rest [template.tokens, tuple.tokens] us) (limits : Limits) :
    (∀ e, Macro.parEachIdx.iterate us limits = .error e
        ↔ Macro.parEachIdx.iterate ts limits = .error e)
      ∧ ∀ x, Macro.parEachIdx.iterate us limits = .ok x → x.warnings = []
        ∧ ∃ t args, Template.parse template = .ok t ∧ split rest = .ok args
          ∧ Calls t (args.mapIdx fun i b => received .parEachIdx [value] b i) x.tokens := by
  have hdetect := FixedParameters.detect_of_nested hvalue htuple
  have hnested := Macro.iterate_of_detect hus hdetect limits
  constructor
  · intro e
    obtain ⟨p, rfl⟩ := h.single.exists_tokens_eq
    rw [hnested, Macro.iterate_of_detect hts (FixedParameters.detect_of_redundant h),
      map_eq_error_iff, map_eq_error_iff]
    exact Macro.written_eq_error_iff
  · intro x hx
    obtain ⟨t, args, fixed, ht, hargs, hfixed, hcalls⟩ := Macro.exists_calls_of_iterate hus hx
    obtain ⟨shape, warning, hgiven⟩ := hfixed.exists_fixedParameters
    rw [Macro.fixedParameters, hdetect] at hgiven
    obtain ⟨hparams, -⟩ := Prod.mk.inj (Except.ok.inj hgiven)
    obtain ⟨-, rfl⟩ := FixedParameters.mk.inj hparams
    rw [hnested] at hx
    obtain ⟨tokens, -, rfl⟩ := map_eq_ok_iff.1 hx
    exact ⟨rfl, t, args, ht, hargs, hcalls⟩

end

/-! ## Nothing else is warned of -/

namespace Macro

/-- What the macro warns of: redundant parentheses in place of its fixed parameters. -/
def Warns (m : Macro) (input : List Token) (w : Issue) : Prop :=
  m = parEachIdx ∧ ∃ template a args content s,
    Argument.split input = .ok (template :: a :: args) ∧ a.Redundant content s
      ∧ w = redundancyWarning content s

theorem warns_iff_detect {input : List Token} {template a : Argument} {args : List Argument}
    {w : Issue} (h : Argument.split input = .ok (template :: a :: args)) :
    parEachIdx.Warns input w ↔ ∃ fixed, FixedParameters.detect a = .ok (fixed, some w) := by
  rw [FixedParameters.exists_detect_iff]
  constructor
  · rintro ⟨-, template', a', args', content, s, hsplit, hw⟩
    rw [h] at hsplit
    obtain ⟨-, hbehind⟩ := List.cons.inj (Except.ok.inj hsplit)
    obtain ⟨rfl, -⟩ := List.cons.inj hbehind
    exact ⟨content, s, hw⟩
  · rintro ⟨content, s, hw⟩
    exact ⟨rfl, template, a, args, content, s, h, hw⟩

/-- A plan comes with one warning if the parentheses are redundant, and with none if not. -/
theorem warnings_of_plan {m : Macro} {input : List Token} {limits : Limits} {p : Plan}
    (h : m.plan input limits = .ok p) :
    (p.warnings = [] ∧ ∀ w, ¬m.Warns input w) ∨ ∃ w, p.warnings = [w] ∧ m.Warns input w := by
  obtain ⟨template, given, hp⟩ := plan_eq_ok_iff.1 h
  obtain ⟨warning, hfixed, hwarnings⟩ := hp.fixed
  rw [hwarnings]
  by_cases hm : m = parEachIdx
  · subst hm
    obtain ⟨a, rfl⟩ : ∃ a, given = [a] := List.length_eq_one_iff.1 (Nat.succ.inj hp.leading)
    have hdetect : FixedParameters.detect a = .ok (p.fixed, warning) := hfixed
    have hwarns (w : Issue) : parEachIdx.Warns input w ↔ warning = some w := by
      rw [warns_iff_detect hp.split, hdetect]
      simp
    cases warning with
    | none => exact Or.inl ⟨rfl, fun w hw => absurd ((hwarns w).1 hw) (by simp)⟩
    | some w => exact Or.inr ⟨w, rfl, (hwarns w).2 rfl⟩
  · rw [fixedParameters_of_ne hm] at hfixed
    obtain ⟨-, rfl⟩ := Prod.mk.inj (Except.ok.inj hfixed)
    exact Or.inl ⟨rfl, fun w hw => hm hw.1⟩

/-- Whatever expands comes with the warning of its plan. Without a plan there is nothing to warn of.
-/
theorem warnings_of_run {m : Macro} {input : List Token} {limits : Limits} {plan : Option Plan}
    {x : Expansion} (h : m.run input limits = .ok (plan, x)) :
    (x.warnings = [] ∧ ∀ w, ¬m.Warns input w) ∨ ∃ w, x.warnings = [w] ∧ m.Warns input w := by
  unfold run at h
  split at h
  · next hnumeric =>
    split at h
    · cases h
    · next hevaluate =>
      obtain ⟨-, rfl⟩ := Prod.mk.inj (Except.ok.inj h)
      refine Or.inl ⟨warnings_of_evaluate hevaluate, fun w hw => ?_⟩
      rw [hw.1] at hnumeric
      cases hnumeric
  · split at h
    · cases h
    · next hplan =>
      obtain ⟨-, rfl⟩ := Prod.mk.inj (Except.ok.inj h)
      exact warnings_of_plan hplan

end Macro

/-! ## All of it -/

/-- **The warning about redundant parentheses is exact, and its advice is sound.** It is given for
the parentheses around a single parameter that is not in parentheses itself, which are those that
can be left out of every call. Without them, or with a comma in them, the call writes the same
tokens and is not warned of. With the second pair that the warning shows, the first pair is passed,
and there is no warning either. A call that expands comes with no other warning, whatever the macro.
-/
theorem redundant_parentheses_change_nothing :
    (∀ (a : Argument) (w : Issue), (∃ fixed, FixedParameters.detect a = .ok (fixed, some w))
        ↔ ∃ content s, a.Redundant content s ∧ w = redundancyWarning content s)
      ∧ (∀ (a : Argument) content s (limits : Limits),
          Wraps [.group .paren content s] a.tokens → 0 < limits.count →
          (a.Redundant content s ↔ Interchangeable limits a.tokens content))
      ∧ (∀ (a template : Argument) content s rest ts (limits : Limits), a.Redundant content s →
          Ahead rest [template.tokens, a.tokens] ts →
          (∃ tokens : Except Issue (List Token),
            Macro.parEachIdx.iterate ts limits
                = (Expansion.mk · [redundancyWarning content s]) <$> tokens
              ∧ (∀ us, Ahead rest [template.tokens, content] us →
                Macro.parEachIdx.iterate us limits = (Expansion.mk · []) <$> tokens)
              ∧ ∀ (list : Argument) (comma : Token) s' us, comma.isComma →
                Wraps [.group .paren (content ++ [comma]) s'] list.tokens →
                Ahead rest [template.tokens, list.tokens] us →
                Macro.parEachIdx.iterate us limits = (Expansion.mk · []) <$> tokens)
          ∧ ∀ (value tuple : Argument) s₁ s₂ us, Wraps [.group .paren content s₁] value.tokens →
            Wraps [.group .paren value.tokens s₂] tuple.tokens →
            Ahead rest [template.tokens, tuple.tokens] us →
            (∀ e, Macro.parEachIdx.iterate us limits = .error e
                ↔ Macro.parEachIdx.iterate ts limits = .error e)
              ∧ ∀ x, Macro.parEachIdx.iterate us limits = .ok x → x.warnings = []
                ∧ ∃ t args, Template.parse template = .ok t ∧ split rest = .ok args
                  ∧ Calls t (args.mapIdx fun i b => received .parEachIdx [value] b i) x.tokens)
      ∧ (∀ content s s₁ s₂, (redundancyWarning content s).message
          = "Parentheses around a single fixed parameter are redundant, `" ++ textAll content
            ++ "` is passed as is. Use `" ++ textAll [.group .paren [.group .paren content s₁] s₂]
            ++ "` to pass a parenthesized value.")
      ∧ ∀ (m : Macro) input limits plan x, m.run input limits = .ok (plan, x) →
          (x.warnings = [] ∧ ∀ w, ¬m.Warns input w)
            ∨ ∃ w, x.warnings = [w] ∧ m.Warns input w := by
  refine ⟨fun a w => FixedParameters.exists_detect_iff, ?_, ?_, message_redundancyWarning, ?_⟩
  · intro a content s limits ha hlimits
    exact redundant_iff_interchangeable ha hlimits
  · intro a template content s rest ts limits h hts
    refine ⟨h.exists_tokens hts limits, ?_⟩
    intro value tuple s₁ s₂ us hvalue htuple hus
    exact h.iterate_nested hvalue htuple hts hus limits
  · intro m input limits plan x h
    exact Macro.warnings_of_run h

/-- `par_each_idx!(f, (p), x)` is warned of, and writes what it writes with `p` and with `(p,)`.
With `((p))` it passes `(p)`; these parentheses cannot be left out, and are not warned of. -/
theorem redundant_parentheses_change_nothing_single :
    let comma : Token := .mark ','
    let f : Argument := ⟨.ident "f" .callSite, []⟩
    let p : Token := .ident "p" .callSite
    let rest : List Token := [.ident "x" .callSite]
    let single : Argument := ⟨.group .paren [p] .callSite, []⟩
    let list : Argument := ⟨.group .paren [p, comma] .callSite, []⟩
    let tuple : Argument := ⟨.group .paren single.tokens .callSite, []⟩
    let call (run : List Token) : List Token := f.tokens ++ comma :: (run ++ comma :: rest)
    let w : Issue := redundancyWarning [p] .callSite
    single.Redundant [p] .callSite ∧ ¬tuple.Redundant single.tokens .callSite
      ∧ (∃ fixed, FixedParameters.detect single = .ok (fixed, some w))
      ∧ Interchangeable {} single.tokens [p] ∧ ¬Interchangeable {} tuple.tokens single.tokens
      ∧ (∀ run ∈ [single.tokens, [p], list.tokens, tuple.tokens],
        Ahead rest [f.tokens, run] (call run) ∧ (Macro.parEachIdx.iterate (call run) {}).isOk)
      ∧ (∃ tokens : Except Issue (List Token),
        Macro.parEachIdx.iterate (call single.tokens) {} = (Expansion.mk · [w]) <$> tokens
          ∧ Macro.parEachIdx.iterate (call [p]) {} = (Expansion.mk · []) <$> tokens
          ∧ Macro.parEachIdx.iterate (call list.tokens) {} = (Expansion.mk · []) <$> tokens)
      ∧ (∃ x, Macro.parEachIdx.iterate (call tuple.tokens) {} = .ok x ∧ x.warnings = []
        ∧ ∃ t args, Template.parse f = .ok t ∧ split rest = .ok args
          ∧ Calls t (args.mapIdx fun i b => received .parEachIdx [single] b i) x.tokens)
      ∧ (∃ plan x, Macro.parEachIdx.run (call single.tokens) {} = .ok (plan, x)
        ∧ ∃ w, x.warnings = [w] ∧ Macro.parEachIdx.Warns (call single.tokens) w)
      ∧ ∃ plan x, Macro.eachIdx.run (call single.tokens) {} = .ok (plan, x) ∧ x.warnings = [] := by
  intro comma f p rest single list tuple call w
  obtain ⟨exact, superfluous, advice, -, warnings⟩ := redundant_parentheses_change_nothing
  have hp : ∀ content s, ¬Wraps [.group .paren content s] [.ident "p" .callSite] := by
    intro content s h
    cases h
  have hsingle : single.Redundant [p] .callSite := ⟨.refl, isRun_singleton rfl, hp⟩
  have htuple : ¬tuple.Redundant single.tokens .callSite := fun h => h.notNested [p] .callSite .refl
  have hahead (t : Token) (ht : t.isComma = false) : Ahead rest [f.tokens, [t]] (call [t]) :=
    .cons (isRun_singleton rfl) rfl (.last (isRun_singleton ht) rfl)
  have hcalls : ∀ run ∈ [single.tokens, [p], list.tokens, tuple.tokens],
      Ahead rest [f.tokens, run] (call run) ∧ (Macro.parEachIdx.iterate (call run) {}).isOk := by
    simp only [List.forall_mem_cons]
    exact ⟨⟨hahead _ rfl, by rfl⟩, ⟨hahead _ rfl, by rfl⟩, ⟨hahead _ rfl, by rfl⟩,
      ⟨hahead _ rfl, by rfl⟩, List.forall_mem_nil _⟩
  obtain ⟨⟨tokens, hparens, hbare, hcomma⟩, nested⟩ :=
    advice single f [p] .callSite rest _ {} hsingle (hahead _ rfl)
  obtain ⟨-, hnested⟩ := nested single tuple .callSite .callSite _ .refl .refl (hahead _ rfl)
  have hinvoke : ∃ x, Macro.parEachIdx.iterate (call tuple.tokens) {} = .ok x := ⟨_, rfl⟩
  obtain ⟨x, hx⟩ := hinvoke
  refine ⟨hsingle, htuple, (exact single w).2 ⟨[p], .callSite, hsingle, rfl⟩,
    (superfluous single [p] .callSite {} .refl (by decide)).1 hsingle,
    fun h => htuple ((superfluous tuple _ .callSite {} .refl (by decide)).2 h), hcalls,
    ⟨tokens, hparens, hbare _ (hahead _ rfl),
      hcomma list comma .callSite _ rfl .refl (hahead _ rfl)⟩,
    ⟨x, hx, hnested x hx⟩, ?_, ?_⟩
  · refine ⟨_, _, rfl, (warnings .parEachIdx (call single.tokens) {} _ _ rfl).resolve_left ?_⟩
    rintro ⟨hnone, -⟩
    cases hnone
  · refine ⟨_, _, rfl, ?_⟩
    obtain ⟨hnone, -⟩ | ⟨w, -, hw⟩ := warnings .eachIdx (call single.tokens) {} _ _ rfl
    · exact hnone
    · cases hw.1

end Variadic
