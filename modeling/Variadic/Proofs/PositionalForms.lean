import Mathlib.Data.List.Forall2
import Variadic.Proofs.Leading

/-!
# Parameters in a list and parameters one by one

The fixed parameters of `par_each_idx` stand in one argument, those of `par1_each_idx` and
`par2_each_idx` are arguments of their own, and `each_idx` has none. The module shows that the
spelling makes no difference: with the same parameters and the same arguments behind them,
well-formed or not, the two calls expand to the same tokens or fail alike (`Agree`).
-/

namespace Variadic

open Argument

/-! ## Agreement -/

/-- The same note, up to the name of the macro at the beginning of its message. -/
structure Note.SameBut (m m' : Macro) (n n' : Note) : Prop where
  level : n.level = n'.level
  span : n.span = n'.span
  fault : n.fault = n'.fault
    ∨ ∃ text, n.fault.message = m.title ++ text ∧ n'.fault.message = m'.title ++ text

/-- Issues that differ in the names of two macros only. -/
def Issue.SameBut (m m' : Macro) (e e' : Issue) : Prop :=
  List.Forall₂ (Note.SameBut m m') e.chain e'.chain

/-- Two calls expand to the same tokens, or fail with issues that differ in the macros' names
only. -/
inductive Agree (m m' : Macro) : Except Issue Expansion → Except Issue Expansion → Prop
  | ok {x x' : Expansion} (h : x.tokens = x'.tokens) : Agree m m' (.ok x) (.ok x')
  | error {e e' : Issue} (h : e.SameBut m m' e') : Agree m m' (.error e) (.error e')

theorem Note.SameBut.refl (m m' : Macro) (n : Note) : Note.SameBut m m' n n :=
  ⟨rfl, rfl, Or.inl rfl⟩

theorem Issue.SameBut.refl (m m' : Macro) (e : Issue) : SameBut m m' e e :=
  List.forall₂_same.2 fun n _ => Note.SameBut.refl m m' n

theorem Agree.error_refl (m m' : Macro) (e : Issue) : Agree m m' (.error e) (.error e) :=
  .error (Issue.SameBut.refl m m' e)

/-- Below the same ceiling, two macros complain about it in the same words. -/
theorem Fault.exists_message_ceilingExceeded {m m' : Macro} (hm : m.ceiling = m'.ceiling)
    (found limit : Nat) :
    ∃ text, (ceilingExceeded m found limit).message = m.title ++ text
      ∧ (ceilingExceeded m' found limit).message = m'.title ++ text := by
  have regroup (title a b c d e f g : String) :
      title ++ a ++ b ++ c ++ d ++ e ++ f ++ g = title ++ (a ++ b ++ c ++ d ++ e ++ f ++ g) := by
    simp only [String.append_assoc]
  refine ⟨_, regroup m.title _ _ _ _ _ _ _, ?_⟩
  rw [hm]
  exact regroup m'.title _ _ _ _ _ _ _

/-- Macros below the same ceiling fail at it alike. -/
theorem Issue.SameBut.ceilingExceeded {m m' : Macro} (hm : m.ceiling = m'.ceiling)
    (found limit : Nat) (span : Span) :
    SameBut m m' (Issue.error (.ceilingExceeded m found limit) span)
      (Issue.error (.ceilingExceeded m' found limit) span) := by
  have hmessage := Fault.exists_message_ceilingExceeded hm found limit
  exact .cons ⟨rfl, rfl, Or.inr hmessage⟩ .nil

/-- The tokens of a plan depend on the macro only in whether it hands indices on, and not on the
shape of the parameters. -/
theorem Plan.tokens_congr {m m' : Macro} (hm : m.isIndexed = m'.isIndexed) (t : Template)
    {fixed fixed' : FixedParameters} (hfixed : fixed.params = fixed'.params)
    (args : List Argument) (warnings warnings' : List Issue) :
    Plan.tokens ⟨m, t, fixed, args, warnings⟩ = Plan.tokens ⟨m', t, fixed', args, warnings'⟩ := by
  simp only [tokens, invocation, params, hm, hfixed]

namespace Macro

variable {m m' : Macro} {limits : Limits}

theorem agree_of_checkCeiling (hm : m.ceiling = m'.ceiling) {args : List Argument}
    {x x' : Expansion} (hx : x.tokens = x'.tokens) :
    Agree m m' (m.checkCeiling args limits >>= fun _ => pure x)
      (m'.checkCeiling args limits >>= fun _ => pure x') := by
  obtain ⟨h, h'⟩ | ⟨limit, span, h, h'⟩ := checkCeiling_eq_or_eq hm args limits
  · rw [h, h']
    exact .ok hx
  · rw [h, h']
    exact .error (Issue.SameBut.ceilingExceeded hm args.length limit span)

/-- Leading arguments that stand for the same template and the same fixed parameters. -/
theorem agree_of_ahead {rest ts us : List Token} {template : Argument}
    {given given' fixed : List Argument} (hfixed : m.GivenBy given fixed)
    (hfixed' : m'.GivenBy given' fixed) (hlen : given.length + 1 = m.leading.length)
    (hlen' : given'.length + 1 = m'.leading.length)
    (hts : Ahead rest ((template :: given).map tokens) ts)
    (hus : Ahead rest ((template :: given').map tokens) us)
    (hindexed : m.isIndexed = m'.isIndexed) (hceiling : m.ceiling = m'.ceiling) :
    Agree m m' (m.iterate ts limits) (m'.iterate us limits) := by
  obtain ⟨shape, warnings, hiterate⟩ := iterate_of_ahead hts hlen hfixed limits
  obtain ⟨shape', warnings', hiterate'⟩ := iterate_of_ahead hus hlen' hfixed' limits
  rw [hiterate, hiterate']
  cases Argument.split rest with
  | error e => exact .error_refl m m' e
  | ok args =>
    cases Template.parse template with
    | error e => exact .error_refl m m' e
    | ok t =>
      exact agree_of_checkCeiling hceiling
        (Plan.tokens_congr hindexed t rfl args warnings warnings')

/-- Parameters in parentheses, one after the other, are as good as the same parameters in the place
of the parentheses. -/
theorem agree_of_listing (hm : m ≠ parEachIdx) {rest ts us f list content : List Token}
    {params : List (List Token)} {s : Span} (hlen : params.length + 1 = m.leading.length)
    (hindexed : m.isIndexed) (hlist : Token.Wraps [.group .paren content s] list)
    (hcontent : Listing params content) (hts : Ahead rest [f, list] ts)
    (hus : Ahead rest (f :: params) us) :
    Agree parEachIdx m (parEachIdx.iterate ts limits) (m.iterate us limits) := by
  obtain ⟨template, rfl⟩ := (hts.isRun f (by simp)).exists_tokens_eq
  obtain ⟨a, rfl⟩ := (hts.isRun list (by simp)).exists_tokens_eq
  obtain ⟨fixed, -, rfl⟩ := hcontent.exists_split
  rw [List.length_map] at hlen
  have hceiling : parEachIdx.ceiling = m.ceiling := by
    revert hindexed
    cases m <;> decide
  have hfixed : parEachIdx.GivenBy [a] fixed := .tuple hlist hcontent
  exact agree_of_ahead hfixed (.positional hm) rfl hlen hts hus hindexed.symm hceiling

end Macro

/-! ## Spellings of a list -/

/-- The tokens, and perhaps a comma behind them. -/
def PerhapsComma (ts content : List Token) : Prop :=
  content = ts ∨ ∃ comma : Token, comma.isComma ∧ content = ts ++ [comma]

/-- A comma behind the last run of a listing changes nothing. -/
theorem Argument.Listing.of_perhapsComma {runs : List (List Token)} {ts content : List Token}
    (h : Listing runs ts) (hcontent : PerhapsComma ts content) (hne : ts ≠ [])
    (hend : ∀ t, ts.getLast? = some t → t.isComma = false) : Listing runs content := by
  rcases hcontent with rfl | ⟨comma, hc, rfl⟩
  · exact h
  · exact h.append_comma hc hne hend

theorem Argument.listing_singleton_of_perhapsComma {p content : List Token} (hp : IsRun p)
    (hcontent : PerhapsComma p content) : Listing [p] content :=
  (Listing.last hp).of_perhapsComma hcontent hp.1
    fun t ht => hp.2 t (List.mem_of_getLast? ht)

theorem Argument.listing_pair_of_perhapsComma {p q content : List Token} {comma : Token}
    (hp : IsRun p) (hq : IsRun q) (hc : comma.isComma)
    (hcontent : PerhapsComma (p ++ comma :: q) content) : Listing [p, q] content := by
  refine (Listing.cons hp hc (.last hq)).of_perhapsComma hcontent (by simp) ?_
  intro t ht
  -- the last token is one of the second run
  rw [List.getLast?_append, List.getLast?_cons, List.getLast?_eq_some_getLast hq.1] at ht
  obtain rfl : q.getLast hq.1 = t := by simpa using ht
  exact hq.2 _ (List.getLast_mem hq.1)

/-! ## The forms agree -/

/-- **A list of parameters is as good as the parameters one by one.** Of the fixed parameters in
parentheses, which may stand in invisible groups, `par_each_idx` makes what `each_idx` makes without
any, `par1_each_idx` of one and `par2_each_idx` of two, with or without a comma at the end of the
list; and what is no list in parentheses is a single parameter. -/
theorem parEachIdx_agrees_with_positional (f rest : List Token) (limits : Limits) :
    (∀ list s ts us, Token.Wraps [.group .paren [] s] list →
        Ahead rest [f, list] ts → Ahead rest [f] us →
        Agree .parEachIdx .eachIdx (Macro.parEachIdx.iterate ts limits)
          (Macro.eachIdx.iterate us limits))
      ∧ (∀ list p content s ts us, PerhapsComma p content →
        Token.Wraps [.group .paren content s] list →
        Ahead rest [f, list] ts → Ahead rest [f, p] us →
        Agree .parEachIdx .par1EachIdx (Macro.parEachIdx.iterate ts limits)
          (Macro.par1EachIdx.iterate us limits))
      ∧ (∀ list p q (comma : Token) content s ts us, comma.isComma →
        PerhapsComma (p ++ comma :: q) content → Token.Wraps [.group .paren content s] list →
        Ahead rest [f, list] ts → Ahead rest [f, p, q] us →
        Agree .parEachIdx .par2EachIdx (Macro.parEachIdx.iterate ts limits)
          (Macro.par2EachIdx.iterate us limits))
      ∧ ∀ p ts us, (∀ content s, ¬Token.Wraps [.group .paren content s] p) →
        Ahead rest [f, p] ts → Ahead rest [f, p] us →
        Agree .parEachIdx .par1EachIdx (Macro.parEachIdx.iterate ts limits)
          (Macro.par1EachIdx.iterate us limits) := by
  refine ⟨?_, ?_, ?_, ?_⟩
  · intro list s ts us hlist hts hus
    exact Macro.agree_of_listing (by decide) rfl rfl hlist .nil hts hus
  · intro list p content s ts us hcontent hlist hts hus
    have hparams := listing_singleton_of_perhapsComma (hus.isRun p (by simp)) hcontent
    exact Macro.agree_of_listing (by decide) rfl rfl hlist hparams hts hus
  · intro list p q comma content s ts us hc hcontent hlist hts hus
    have hparams := listing_pair_of_perhapsComma (hus.isRun p (by simp)) (hus.isRun q (by simp)) hc
      hcontent
    exact Macro.agree_of_listing (by decide) rfl rfl hlist hparams hts hus
  · intro p ts us hp hts hus
    obtain ⟨template, rfl⟩ := (hts.isRun f (by simp)).exists_tokens_eq
    obtain ⟨a, rfl⟩ := (hts.isRun p (by simp)).exists_tokens_eq
    have hfixed : Macro.parEachIdx.GivenBy [a] [a] := .scalar hp
    have hfixed' : Macro.par1EachIdx.GivenBy [a] [a] := .positional (by decide)
    exact Macro.agree_of_ahead hfixed hfixed' rfl rfl hts hus rfl rfl

/-- `par_each_idx!(f, ⟦(p, q,)⟧, a)` and `par2_each_idx!(f, p, q, a)`, where `⟦ ⟧` is an invisible
group, and `par_each_idx!(f, p, a)` and `par1_each_idx!(f, p, a)`. Each two expand alike, and fail
alike where no argument is allowed. -/
theorem parEachIdx_agrees_with_positional_pair :
    let comma : Token := .mark ','
    let f : Token := .ident "f" .callSite
    let p : Token := .ident "p" .callSite
    let q : Token := .ident "q" .callSite
    let a : Token := .ident "a" .callSite
    let params : Token := .group .paren [p, comma, q, comma] .callSite
    let list : Token := .group .invisible [params] .callSite
    let ts : List Token := [f, comma, list, comma, a]
    let us : List Token := [f, comma, p, comma, q, comma, a]
    let vs : List Token := [f, comma, p, comma, a]
    comma.isComma ∧ PerhapsComma [p, comma, q] [p, comma, q, comma] ∧ Token.Wraps [params] [list]
      ∧ (∀ content s, ¬Token.Wraps [.group .paren content s] [p])
      ∧ Ahead [a] [[f], [list]] ts ∧ Ahead [a] [[f], [p], [q]] us ∧ Ahead [a] [[f], [p]] vs
      ∧ (Macro.parEachIdx.iterate ts ⟨1, 1⟩).isOk
      ∧ ¬(Macro.parEachIdx.iterate ts ⟨0, 1⟩).isOk
      ∧ ∀ limits,
        Agree .parEachIdx .par2EachIdx (Macro.parEachIdx.iterate ts limits)
            (Macro.par2EachIdx.iterate us limits)
          ∧ Agree .parEachIdx .par1EachIdx (Macro.parEachIdx.iterate vs limits)
            (Macro.par1EachIdx.iterate vs limits) := by
  intro comma f p q a params list ts us vs
  have hc : comma.isComma := rfl
  have hcontent : PerhapsComma [p, comma, q] [p, comma, q, comma] := Or.inr ⟨comma, hc, rfl⟩
  have hlist : Token.Wraps [params] [list] := .wrap _ .refl
  have hp : ∀ content s, ¬Token.Wraps [.group .paren content s] [.ident "p" .callSite] := by
    intro content s h
    cases h
  have hts : Ahead [a] [[f], [list]] ts :=
    .cons (isRun_singleton rfl) hc (.last (isRun_singleton rfl) hc)
  have hvs : Ahead [a] [[f], [p]] vs :=
    .cons (isRun_singleton rfl) hc (.last (isRun_singleton rfl) hc)
  have hus : Ahead [a] [[f], [p], [q]] us :=
    .cons (isRun_singleton rfl) hc (.cons (isRun_singleton rfl) hc (.last (isRun_singleton rfl) hc))
  refine ⟨hc, hcontent, hlist, hp, hts, hus, hvs, by rfl, by decide, ?_⟩
  intro limits
  obtain ⟨-, -, pair, single⟩ := parEachIdx_agrees_with_positional [f] [a] limits
  exact ⟨pair _ _ _ comma _ _ _ _ hc hcontent hlist hts hus, single _ _ _ hp hvs hvs⟩

end Variadic
