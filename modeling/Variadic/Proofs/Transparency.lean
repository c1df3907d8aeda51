import Variadic.Proofs.Defects
import Variadic.Proofs.Leading
import Variadic.Proofs.Staging
import Variadic.Proofs.TemplatePaths

/-!
# Invisible groups and exclamation marks go unnoticed

A template may be written with an exclamation mark, and whatever is handed on by a macro comes in
invisible groups. Neither changes what a call expands to. `Marked` tells the spellings of a template
apart by the number of their exclamation marks, wherever the groups stand: up to one, all of them
name the same template, and beyond, none does (`Marked.parse_eq_ok_iff`). Groups around a fixed
parameter or around the operand of a negation are looked through as well.

What can change is the place that a fault is blamed on, where that is the place of the argument that
stands in the groups (`UpToPlace`).
-/

namespace Variadic

open Argument Token

/-! ## Outcomes up to a place -/

/-- The same outcome, except that a fault of some kind may be told of two places: one call blames
`s`, the other `s'`, for the same causes. -/
inductive UpToPlace {α : Type} (kind : Fault → Prop) (s s' : Span) :
    Except Issue α → Except Issue α → Prop
  | same (x : Except Issue α) : UpToPlace kind s s' x x
  | moved {fault : Fault} (h : kind fault) (causes : List Note) :
      UpToPlace kind s s' (.error ⟨⟨.error, fault, some s⟩, causes⟩)
        (.error ⟨⟨.error, fault, some s'⟩, causes⟩)

theorem UpToPlace.map {α β : Type} {kind : Fault → Prop} {s s' : Span} {x y : Except Issue α}
    (h : UpToPlace kind s s' x y) (f : α → β) : UpToPlace kind s s' (f <$> x) (f <$> y) := by
  cases h with
  | same => exact .same _
  | moved h causes => exact .moved h causes

/-! ## Spellings of a template -/

/-- `ts` is `stem` with so many exclamation marks behind it. Invisible groups may stand around the
stem, around all of it, and around what one of the marks stands behind. -/
inductive Marked (stem : List Token) : ℕ → List Token → Prop
  | stem : Marked stem 0 stem
  | group {count : ℕ} {ts : List Token} (s : Span) (h : Marked stem count ts) :
      Marked stem count [.group .invisible ts s]
  | bang {count : ℕ} {ts : List Token} {bang : Token} (hbang : bang.isPunct '!')
      (h : Marked stem count ts) : Marked stem (count + 1) (ts ++ [bang])

theorem Token.isBare_append_bang (ts : List Token) {bang : Token} (hbang : bang.isPunct '!') :
    IsBare (ts ++ [bang]) := by
  intro content s h
  have happend : ts ++ [bang] = [] ++ [.group .invisible content s] := h
  obtain ⟨-, hlast⟩ := List.append_inj' happend rfl
  rw [List.singleton_inj.1 hlast] at hbang
  cases hbang

theorem Template.dropBang_append (ts : List Token) {bang : Token} (hbang : bang.isPunct '!') :
    dropBang (ts ++ [bang]) = ts :=
  isStem_iff_dropBang_eq.1 (.bang hbang)

/-- A path is its own stem. -/
theorem Template.dropBang_of_parse {ts : List Token} {path : Path}
    (h : Path.parse ts = .ok path) : dropBang ts = ts := by
  refine isStem_iff_dropBang_eq.1 (.bare fun t ht hbang => ?_)
  obtain ⟨front, rfl⟩ := List.getLast?_eq_some_iff.1 ht
  exact Path.parse_append_bang_ne_ok front hbang path h

namespace Marked

variable {stem ts : List Token} {count : ℕ} {path : Path}

/-- Invisible groups around a spelling of a template make another one. -/
theorem of_wraps {outer : List Token} (h : Marked stem count ts) (hw : Wraps ts outer) :
    Marked stem count outer := by
  induction hw with
  | refl => exact h
  | wrap s _ ih => exact .group s ih

/-- A marked path is a path if there are no marks. -/
theorem path_parse_eq_ok_iff (h : Marked stem count ts) (hstem : Path.parse stem = .ok path)
    (q : Path) : Path.parse ts = .ok q ↔ count = 0 ∧ q = path := by
  induction h with
  | stem =>
    rw [hstem]
    constructor
    · rintro ⟨⟩
      exact ⟨rfl, rfl⟩
    · rintro ⟨-, rfl⟩
      rfl
  | group s _ ih => rw [Path.parse_group, ih]
  | @bang count ts bang hbang _ _ =>
    constructor
    · intro hq
      exact absurd hq (Path.parse_append_bang_ne_ok ts hbang q)
    · rintro ⟨hcount, -⟩
      exact absurd hcount (Nat.succ_ne_zero count)

/-- What is left of a marked path without the groups around it, and without one mark, is a path if
there was at most one. -/
theorem path_parse_dropBang_eq_ok_iff (h : Marked stem count ts)
    (hstem : Path.parse stem = .ok path) (q : Path) :
    Path.parse (Template.dropBang (peelAll ts)) = .ok q ↔ count ≤ 1 ∧ q = path := by
  induction h with
  | stem =>
    have hpeeled := (Path.parse_of_wraps (wraps_peelAll stem) path).1 hstem
    rw [Template.dropBang_of_parse hpeeled, hpeeled]
    constructor
    · rintro ⟨⟩
      exact ⟨Nat.zero_le 1, rfl⟩
    · rintro ⟨-, rfl⟩
      rfl
  | group s _ ih => rw [peelAll_invisible, ih]
  | @bang count ts bang hbang h _ =>
    rw [peelAll_of_isBare (isBare_append_bang ts hbang), Template.dropBang_append ts hbang,
      h.path_parse_eq_ok_iff hstem]
    have hcount : count = 0 ↔ count + 1 ≤ 1 := by omega
    rw [hcount]

/-- An argument that is a marked path names a template if there is at most one mark, and then that
of the path. -/
theorem parse_eq_ok_iff {a : Argument} (h : Marked stem count a.tokens)
    (hstem : Path.parse stem = .ok path) (t : Template) :
    Template.parse a = .ok t ↔ count ≤ 1 ∧ t = ⟨path⟩ := by
  have hpath := h.path_parse_dropBang_eq_ok_iff hstem t.path
  have ht : t = ⟨path⟩ ↔ t.path = path := by
    constructor
    · rintro rfl
      rfl
    · rintro rfl
      rfl
  rw [Template.parse_eq_ok_iff, ht, ← hpath]
  simp only [Argument.hasStem_iff, exists_eq_left', Argument.peeled]

/-- Every argument that names a template is a marked path. -/
theorem exists_of_parse {a : Argument} {t : Template} (h : Template.parse a = .ok t) :
    ∃ stem count, count ≤ 1 ∧ Path.parse stem = .ok t.path ∧ Marked stem count a.tokens := by
  obtain ⟨stem, ⟨inner, hwraps, -, hstem⟩, hpath⟩ := Template.parse_eq_ok_iff.1 h
  cases hstem with
  | bare => exact ⟨stem, 0, Nat.zero_le 1, hpath, of_wraps .stem hwraps⟩
  | bang hbang => exact ⟨stem, 1, Nat.le_refl 1, hpath, of_wraps (.bang hbang .stem) hwraps⟩

/-- Two exclamation marks behind a path are one too many. -/
theorem exists_parse_eq_error {a : Argument} (h : Marked stem count a.tokens)
    (hstem : Path.parse stem = .ok path) (hcount : 2 ≤ count) :
    ∃ e, Template.parse a = .error e := by
  cases hparse : Template.parse a with
  | error e => exact ⟨e, rfl⟩
  | ok t =>
    have hle := ((h.parse_eq_ok_iff hstem t).1 hparse).1
    omega

end Marked

/-! ## Iterations -/

namespace Macro

variable {m : Macro} {limits : Limits} {rest ts us : List Token} {a b : Argument}

theorem split_of_ahead_singleton (h : Ahead rest [a.tokens] ts) :
    Argument.split ts = (a :: ·) <$> Argument.split rest := by
  have hmap : Ahead rest ([a].map Argument.tokens) ts := h
  exact split_of_ahead hmap

/-- The fault of a call in which nothing stands behind the template, if the macro takes a fixed
parameter. -/
def LacksParameter (m : Macro) (rest : List Token) (fault : Fault) : Prop :=
  Argument.split rest = .ok []
    ∧ ∃ name, m.leading[1]? = some name ∧ fault = .missingParameter m name

/-- Calls whose templates are the same, however they are written, have the same plan. Only where the
template is all there is, the parameter that is missing behind it is told of another place. -/
theorem plan_upToPlace (hm : m.isNumeric = false) (hts : Ahead rest [a.tokens] ts)
    (hus : Ahead rest [b.tokens] us) (hparse : Template.parse a = Template.parse b) :
    UpToPlace (m.LacksParameter rest) a.span b.span (m.plan ts limits) (m.plan us limits) := by
  have hsplit := split_of_ahead_singleton hts
  have hsplit' := split_of_ahead_singleton hus
  cases hrest : Argument.split rest with
  | error e =>
    rw [hrest] at hsplit hsplit'
    rw [plan, hsplit, plan, hsplit']
    exact .same _
  | ok args =>
    rw [hrest] at hsplit hsplit'
    by_cases hlen : m.leading.length ≤ args.length + 1
    · have hpos := leading_length_pos hm
      have hgiven : (args.take (m.leading.length - 1)).length + 1 = m.leading.length := by
        rw [List.length_take]
        omega
      have hargs := (List.take_append_drop (m.leading.length - 1) args).symm
      rw [hargs] at hsplit hsplit'
      rw [plan_of_split hsplit hgiven, plan_of_split hsplit' hgiven, hparse]
      exact .same _
    · have hlt : args.length + 1 < m.leading.length := Nat.lt_of_not_le hlen
      have hname : m.leading[args.length + 1]? = some m.leading[args.length + 1] :=
        List.getElem?_eq_getElem hlt
      have hfails {c : Argument} {vs : List Token} (hvs : Argument.split vs = .ok (c :: args)) :
          m.plan vs limits = .error (Issue.error (.missingParameter m m.leading[args.length + 1])
            (((c :: args).getLast?.map Argument.span).getD .callSite)) := by
        rw [plan, hvs]
        change m.takeLeading (c :: args) >>= _ = _
        rw [takeLeading_eq_error_iff.2 ⟨_, hname, rfl⟩]
        rfl
      rw [hfails hsplit, hfails hsplit']
      cases args with
      | nil => exact .moved ⟨hrest, _, hname, rfl⟩ []
      | cons c args =>
        rw [List.getLast?_cons_cons, List.getLast?_cons_cons]
        exact .same _

theorem not_isOk_iterate_of_parse_error (hts : Ahead rest [a.tokens] ts) {e : Issue}
    (hparse : Template.parse a = .error e) (limits : Limits) : ¬(m.iterate ts limits).isOk := by
  intro hok
  cases hiterate : m.iterate ts limits with
  | error e =>
    rw [hiterate] at hok
    cases hok
  | ok x =>
    obtain ⟨p, hplan, -⟩ := iterate_eq_ok_iff.1 hiterate
    obtain ⟨template, given, hp⟩ := plan_eq_ok_iff.1 hplan
    have hsplit := hp.split
    rw [split_of_ahead_singleton hts] at hsplit
    obtain ⟨args, -, hargs⟩ := map_eq_ok_iff.1 hsplit
    obtain ⟨rfl, -⟩ := List.cons.inj hargs
    rw [hp.parse] at hparse
    cases hparse

end Macro

/-! ## Fixed parameters -/

/-- A list of parameters is the same in however many groups. -/
theorem detect_upToPlace {a b : Argument} (h : Wraps a.tokens b.tokens) {content : List Token}
    {s : Span} (ha : Wraps [.group .paren content s] a.tokens) :
    UpToPlace (· = .invalidTuple) a.span b.span (FixedParameters.detect a)
      (FixedParameters.detect b) := by
  have hpeeled : b.parenthesized? = a.parenthesized? := by
    rw [Argument.parenthesized?, Argument.parenthesized?, Argument.peeled, h.peelAll_eq]
    rfl
  rw [FixedParameters.detect, FixedParameters.detect, hpeeled,
    Argument.parenthesized?_eq_some_iff.2 ha]
  dsimp only
  cases Argument.split content with
  | error e =>
    refine .moved ?_ e.chain
    rfl
  | ok params => exact .same _

/-! ## Operands -/

theorem evaluate_not_upToPlace {a b : Argument} (ha : IsRun a.tokens)
    (h : Wraps a.tokens b.tokens) (limits : Limits) :
    UpToPlace (· = .operand) a.span b.span (Macro.not.evaluate a.tokens limits)
      (Macro.not.evaluate b.tokens limits) := by
  have hpeeled : b.peeled = a.peeled := h.peelAll_eq
  rw [evaluate_eq, evaluate_eq, Macro.value_not_tokens limits ha,
    Macro.value_not_tokens limits (h.isRun ha), hpeeled]
  refine UpToPlace.map ?_ _
  cases Operand.of a.peeled with
  | literal text => exact .same _
  | expression ts => exact .same _
  | call inner content =>
    rw [Operand.negatedValue, Operand.negatedValue]
    cases inner.value content limits with
    | ok v => exact .same _
    | error cause =>
      refine .moved ?_ cause.chain
      rfl

/-! ## All of them -/

/-- **Invisible groups and an exclamation mark never change an expansion.** An argument names a
template if it is a path with at most one exclamation mark, wherever invisible groups stand around
it, and all iterations take it for the path alone: they write the same tokens with the same warnings,
or fail with the same issue, unless the template is all there is. With more marks they fail. A list
of fixed parameters is the same in invisible groups, and any other fixed parameter is handed on with
them. The operand of a negation is the same in invisible groups. -/
theorem invisible_groups_go_unnoticed :
    (∀ a t, Template.parse a = .ok t ↔
        ∃ p count, count ≤ 1 ∧ Path.parse p = .ok t.path ∧ Marked p count a.tokens)
      ∧ (∀ (m : Macro) (limits : Limits) (p : List Token) (path : Path), m.isNumeric = false →
          Path.parse p = .ok path →
          (∀ count count' (a b : Argument) rest ts us, count ≤ 1 → count' ≤ 1 →
            Marked p count a.tokens → Marked p count' b.tokens →
            Ahead rest [a.tokens] ts → Ahead rest [b.tokens] us →
            UpToPlace (m.LacksParameter rest) a.span b.span (m.iterate ts limits)
              (m.iterate us limits))
          ∧ ∀ count (a : Argument) rest ts, 2 ≤ count → Marked p count a.tokens →
            Ahead rest [a.tokens] ts →
            (∃ e, Template.parse a = .error e) ∧ ¬(m.iterate ts limits).isOk)
      ∧ (∀ a b : Argument, Wraps a.tokens b.tokens →
          (∀ content s, Wraps [.group .paren content s] a.tokens →
            UpToPlace (· = .invalidTuple) a.span b.span (FixedParameters.detect a)
              (FixedParameters.detect b))
          ∧ ((∀ content s, ¬Wraps [.group .paren content s] a.tokens) →
            FixedParameters.detect a = .ok (⟨.scalar, [a]⟩, none)
              ∧ FixedParameters.detect b = .ok (⟨.scalar, [b]⟩, none)))
      ∧ ∀ (a b : Argument) (limits : Limits), IsRun a.tokens → Wraps a.tokens b.tokens →
          UpToPlace (· = .operand) a.span b.span (Macro.not.evaluate a.tokens limits)
            (Macro.not.evaluate b.tokens limits) := by
  refine ⟨?_, ?_, ?_, fun a b limits ha h => evaluate_not_upToPlace ha h limits⟩
  · intro a t
    constructor
    · exact Marked.exists_of_parse
    · rintro ⟨p, count, hcount, hpath, hmarked⟩
      exact (hmarked.parse_eq_ok_iff hpath t).2 ⟨hcount, rfl⟩
  · intro m limits p path hm hpath
    constructor
    · intro count count' a b rest ts us hcount hcount' ha hb hts hus
      have hparse : Template.parse a = Template.parse b := by
        rw [(ha.parse_eq_ok_iff hpath ⟨path⟩).2 ⟨hcount, rfl⟩,
          (hb.parse_eq_ok_iff hpath ⟨path⟩).2 ⟨hcount', rfl⟩]
      exact (Macro.plan_upToPlace hm hts hus hparse).map Plan.expansion
    · intro count a rest ts hcount ha hts
      obtain ⟨e, he⟩ := ha.exists_parse_eq_error hpath hcount
      exact ⟨⟨e, he⟩, Macro.not_isOk_iterate_of_parse_error hts he limits⟩
  · intro a b h
    refine ⟨fun content s ha => detect_upToPlace h ha, fun ha => ?_⟩
    have hb : ∀ content s, ¬Wraps [.group .paren content s] b.tokens := by
      intro content s hw
      refine ha content s ?_
      rw [wraps_iff_peelAll_eq (isBare_group (by decide) content s)] at hw ⊢
      rw [← hw, h.peelAll_eq]
    exact ⟨Macro.detect_of_not_wraps ha, Macro.detect_of_not_wraps hb⟩

/-- `each!(f, x)` and `each!(⟦⟦f⟧ !⟧, x)` expand alike, where `⟦ ⟧` are invisible groups, and
`each!(⟦f !⟧ !, x)` fails. As fixed parameters, `(f)` and `⟦(f)⟧` are the same list, and `f` and `⟦f⟧`
are handed on as they stand. A negation of `⟦f⟧` is one of `f`. -/
theorem invisible_groups_go_unnoticed_each :
    let comma : Token := .mark ','
    let bang : Token := .mark '!'
    let f : Token := .ident "f" .callSite
    let hidden (ts : List Token) : Token := .group .invisible ts .callSite
    let list : Token := .group .paren [f] .callSite
    let rest : List Token := [.ident "x" .callSite]
    let path : Path := ⟨false, [⟨f, .none⟩]⟩
    let plain : Argument := ⟨f, []⟩
    let marked : Argument := ⟨hidden [hidden [f], bang], []⟩
    let twice : Argument := ⟨hidden [f, bang], [bang]⟩
    Macro.each.isNumeric = false ∧ Path.parse [f] = .ok path
      ∧ Marked [f] 0 plain.tokens ∧ Marked [f] 1 marked.tokens ∧ Marked [f] 2 twice.tokens
      ∧ Ahead rest [plain.tokens] (plain.tokens ++ comma :: rest)
      ∧ Ahead rest [marked.tokens] (marked.tokens ++ comma :: rest)
      ∧ Ahead rest [twice.tokens] (twice.tokens ++ comma :: rest)
      ∧ (Macro.each.iterate (plain.tokens ++ comma :: rest) {}).isOk
      ∧ UpToPlace (Macro.each.LacksParameter rest) plain.span marked.span
          (Macro.each.iterate (plain.tokens ++ comma :: rest) {})
          (Macro.each.iterate (marked.tokens ++ comma :: rest) {})
      ∧ ¬(Macro.each.iterate (twice.tokens ++ comma :: rest) {}).isOk
      ∧ Wraps [list] [hidden [list]]
      ∧ UpToPlace (· = .invalidTuple) .callSite .callSite (FixedParameters.detect ⟨list, []⟩)
          (FixedParameters.detect ⟨hidden [list], []⟩)
      ∧ Wraps [f] [hidden [f]] ∧ (∀ content s, ¬Wraps [.group .paren content s] [f])
      ∧ FixedParameters.detect ⟨hidden [f], []⟩ = .ok (⟨.scalar, [⟨hidden [f], []⟩]⟩, none)
      ∧ IsRun [f]
      ∧ UpToPlace (· = .operand) .callSite .callSite (Macro.not.evaluate [f] {})
          (Macro.not.evaluate [hidden [f]] {}) := by
  intro comma bang f hidden list rest path plain marked twice
  obtain ⟨-, templates, parameters, operands⟩ := invisible_groups_go_unnoticed
  have hpath : Path.parse [f] = .ok path := by rfl
  have hmarked : Marked [f] 1 marked.tokens := .group _ (.bang rfl (.group _ .stem))
  have htwice : Marked [f] 2 twice.tokens := .bang rfl (.group _ (.bang rfl .stem))
  have hahead : ∀ a : Argument, IsRun a.tokens → Ahead rest [a.tokens] (a.tokens ++ comma :: rest) :=
    fun a ha => .last ha rfl
  have hplain := hahead plain (isRun_singleton rfl)
  have hmarkedAhead := hahead marked (isRun_singleton rfl)
  have htwiceAhead := hahead twice (by simp [IsRun, twice, hidden, bang, Argument.tokens]; rfl)
  have hf : ∀ content s, ¬Wraps [.group .paren content s] [.ident "f" .callSite] := by
    intro content s h
    cases h
  have hlist : Wraps [list] [hidden [list]] := .wrap _ .refl
  have hhidden : Wraps [f] [hidden [f]] := .wrap _ .refl
  obtain ⟨same, fails⟩ := templates .each {} [f] path rfl hpath
  refine ⟨rfl, hpath, .stem, hmarked, htwice, hplain, hmarkedAhead, htwiceAhead, by rfl,
    same 0 1 plain marked _ _ _ (by decide) (by decide) .stem hmarked hplain hmarkedAhead,
    (fails 2 twice _ _ (by decide) htwice htwiceAhead).2, hlist,
    (parameters ⟨list, []⟩ ⟨hidden [list], []⟩ hlist).1 [f] _ .refl, hhidden, hf,
    ((parameters ⟨f, []⟩ ⟨hidden [f], []⟩ hhidden).2 hf).2, isRun_singleton rfl,
    operands ⟨f, []⟩ ⟨hidden [f], []⟩ {} (isRun_singleton rfl) hhidden⟩

end Variadic
