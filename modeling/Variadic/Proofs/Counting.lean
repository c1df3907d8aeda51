import Variadic.Proofs.Invocations
import Variadic.Proofs.Leading
import Variadic.Proofs.Staging

/-!
# Counting and iterating

`narg` counts the arguments of a stream, and an iteration makes calls for the same arguments with
its leading ones in front of them. `narg_counts_calls` shows that the number written is the number
of calls made, and that both refuse the same streams for the same reason. So what is sized by the
number is filled by the calls.
-/

namespace Variadic

open Argument

/-! ## Sequences of calls -/

/-- The tokens are calls of the template with nothing in between. What the braces of each split into
is listed. -/
inductive Calls (t : Template) : List (List Argument) → List Token → Prop
  | nil : Calls t [] []
  | cons {as : List Argument} {calls : List (List Argument)} {block ts : List Token}
      (h : Invokes t as block) (next : Calls t calls ts) : Calls t (as :: calls) (block ++ ts)

section
variable {t : Template} {as as' : List Argument} {block : List Token}

/-- A call is its path, an exclamation mark and a group. -/
theorem Invokes.length_eq (h : Invokes t as block) : block.length = t.path.tokens.length + 2 := by
  obtain ⟨content, rfl, -⟩ := h
  rw [List.length_append]
  rfl

/-- An invocation is never empty, so that calls can be counted. -/
theorem Invokes.append_ne_nil (h : Invokes t as block) (ts : List Token) : block ++ ts ≠ [] := by
  intro hnil
  have hlen := congrArg List.length hnil
  rw [List.length_append, h.length_eq, List.length_nil] at hlen
  omega

/-- An invocation is read in one way only. -/
theorem Invokes.eq (h : Invokes t as block) (h' : Invokes t as' block) : as = as' := by
  obtain ⟨content, rfl, hsplit⟩ := h
  obtain ⟨content', hblock, hsplit'⟩ := h'
  obtain ⟨-, hgroup⟩ := List.append_inj hblock rfl
  obtain rfl : content = content' := by simpa using hgroup
  rw [hsplit] at hsplit'
  exact Except.ok.inj hsplit'

end

/-- A sequence of calls can be read in one way only, as all calls of a template are equally long. -/
theorem Calls.eq {t : Template} {calls calls' : List (List Argument)} {ts ts' : List Token}
    (h : Calls t calls ts) (h' : Calls t calls' ts') (hts : ts = ts') : calls = calls' := by
  induction h generalizing calls' ts' with
  | nil =>
    cases h' with
    | nil => rfl
    | cons hblock _ => exact absurd hts.symm (hblock.append_ne_nil _)
  | cons hblock _ ih =>
    cases h' with
    | nil => exact absurd hts (hblock.append_ne_nil _)
    | cons hblock' hnext' =>
      -- both first calls end at the same place
      obtain ⟨rfl, hnext⟩ := List.append_inj hts (hblock.length_eq.trans hblock'.length_eq.symm)
      rw [hblock.eq hblock', ih hnext' hnext]

/-- Blocks written one after the other are read as that many calls. -/
theorem calls_mapIdx {t : Template} {content : ℕ → Argument → List Argument}
    {block : ℕ → Argument → List Token} {args : List Argument}
    (h : ∀ i, ∀ a ∈ args, Invokes t (content i a) (block i a)) :
    Calls t (args.mapIdx content) (args.mapIdx block).flatten := by
  induction args generalizing content block with
  | nil => exact .nil
  | cons a args ih =>
    rw [List.mapIdx_cons, List.mapIdx_cons, List.flatten_cons]
    exact .cons (h 0 a List.mem_cons_self)
      (ih fun i b hb => h (i + 1) b (List.mem_cons_of_mem a hb))

theorem Plan.calls_tokens (p : Plan) (hfixed : ∀ b ∈ p.fixed.params, IsRun b.tokens)
    (hargs : ∀ a ∈ p.args, IsRun a.tokens) :
    Calls p.template (p.args.mapIdx fun i a => received p.m p.fixed.params a i) p.tokens :=
  calls_mapIdx fun i a ha => invokes_invocation hfixed (hargs a ha) i

/-- Every macro but `each` hands the index on last. -/
theorem getLast?_received {m : Macro} (hm : m ≠ .each) (fixed : List Argument) (a : Argument)
    (index : Nat) : (received m fixed a index).getLast? = some ⟨.number index, []⟩ := by
  rw [received, if_neg hm, List.getLast?_concat]

/-! ## One stream, counted and iterated over -/

/-- Counting splits, compares with the ceiling, and writes the number. -/
theorem evaluate_narg (input : List Token) (limits : Limits) :
    Macro.narg.evaluate input limits = (do
      let args ← split input
      Macro.narg.checkCeiling args limits
      pure ⟨[.number args.length], []⟩) := by
  rw [evaluate_eq, Macro.value_of_ne_not (by decide)]
  cases split input with
  | error e => rfl
  | ok args =>
    rw [ok_bind, ok_bind]
    cases Macro.narg.checkCeiling args limits with
    | error e => rfl
    | ok _ => rfl

/-- An issue of counting, and the issue of the macro for the same reason and at the same place. -/
inductive SameCause (m : Macro) : Issue → Issue → Prop
  | misplacedComma (span : Span) :
      SameCause m (Issue.error .emptyArgument span) (Issue.error .emptyArgument span)
  | ceilingExceeded (found limit : Nat) (span : Span) :
      SameCause m (Issue.error (.ceilingExceeded .narg found limit) span)
        (Issue.error (.ceilingExceeded m found limit) span)

/-- What becomes of a stream that is counted, and of the same stream iterated over: as many calls as
the number says, each ending with its index, or the same failure. -/
inductive Counts (m : Macro) (t : Template) : Except Issue Expansion → Except Issue Expansion → Prop
  | ok {n : Nat} {calls : List (List Argument)} {x : Expansion} (h : Calls t calls x.tokens)
      (hlen : calls.length = n)
      (hindex : ∀ i (hi : i < calls.length), calls[i].getLast? = some ⟨.number i, []⟩) :
      Counts m t (.ok ⟨[.number n], []⟩) (.ok x)
  | error {e e' : Issue} (h : SameCause m e e') : Counts m t (.error e) (.error e')

namespace Counts

variable {m : Macro} {t : Template} {counted iterated : Except Issue Expansion}

/-- The number written is the number of calls. -/
theorem eq_ok_iff (h : Counts m t counted iterated) (n : Nat) :
    counted = .ok ⟨[.number n], []⟩
      ↔ ∃ x calls, iterated = .ok x ∧ Calls t calls x.tokens ∧ calls.length = n := by
  cases h with
  | @ok k calls x hcalls hk _ =>
    constructor
    · intro hn
      have htokens := congrArg Expansion.tokens (Except.ok.inj hn)
      obtain rfl := number_injective (List.singleton_inj.1 htokens)
      exact ⟨x, calls, rfl, hcalls, hk⟩
    · rintro ⟨_, calls', ⟨⟩, hcalls', rfl⟩
      rw [← hk, hcalls.eq hcalls' rfl]
  | error _ =>
    constructor
    · intro hn
      cases hn
    · rintro ⟨x, calls, hx, -⟩
      cases hx

/-- The calls are given the indices from 0 on, in order. -/
theorem getLast?_getElem (h : Counts m t counted iterated) {x : Expansion}
    {calls : List (List Argument)} (hx : iterated = .ok x) (hcalls : Calls t calls x.tokens)
    (i : Nat) (hi : i < calls.length) : calls[i].getLast? = some ⟨.number i, []⟩ := by
  cases h with
  | ok hcalls' _ hindex =>
    obtain rfl := Except.ok.inj hx
    obtain rfl := hcalls.eq hcalls' rfl
    exact hindex i hi
  | error _ => cases hx

/-- Where counting fails, the iteration fails for the same cause. -/
theorem exists_error (h : Counts m t counted iterated) {e : Issue} (he : counted = .error e) :
    ∃ e', iterated = .error e' ∧ SameCause m e e' := by
  cases h with
  | ok _ _ _ => cases he
  | error hcause =>
    obtain rfl := Except.error.inj he
    exact ⟨_, rfl, hcause⟩

end Counts

section
variable {m : Macro} {t : Template} {rest input : List Token} {first : Argument}
  {given fixed args : List Argument} {limits : Limits}

/-- An iteration over arguments below its ceiling makes one call for each of them. -/
theorem exists_calls_of_ahead (ht : Template.parse first = .ok t)
    (hlen : given.length + 1 = m.leading.length) (hfixed : m.GivenBy given fixed)
    (hinput : Ahead rest ((first :: given).map tokens) input) (hsplit : split rest = .ok args)
    (hargs : m.checkCeiling args limits = .ok ()) :
    ∃ x, m.iterate input limits = .ok x
      ∧ Calls t (args.mapIdx fun i a => received m fixed a i) x.tokens := by
  obtain ⟨shape, warnings, hiterate⟩ := Macro.iterate_of_ahead hinput hlen hfixed limits
  rw [hsplit, ht, ok_bind, ok_bind, hargs] at hiterate
  let p : Plan := ⟨m, t, ⟨shape, fixed⟩, args, warnings⟩
  refine ⟨p.expansion, hiterate, p.calls_tokens ?_ fun a ha => isRun_of_mem_split hsplit ha⟩
  refine hfixed.isRun fun a ha => hinput.isRun a.tokens ?_
  exact List.mem_map_of_mem (List.mem_cons_of_mem first ha)

/-- Counting and iterating split the same stream and have the same ceiling. -/
theorem counts_of_ahead (ht : Template.parse first = .ok t) (hm : m ≠ .each)
    (hlen : given.length + 1 = m.leading.length) (hfixed : m.GivenBy given fixed)
    (hinput : Ahead rest ((first :: given).map tokens) input) (limits : Limits) :
    Counts m t (Macro.narg.evaluate rest limits) (m.iterate input limits) := by
  have hceiling : m.ceiling = Macro.narg.ceiling := by
    revert hm
    cases m <;> decide
  obtain ⟨shape, warnings, hiterate⟩ := Macro.iterate_of_ahead hinput hlen hfixed limits
  rw [evaluate_narg]
  cases hsplit : split rest with
  | error e =>
    rw [hiterate, hsplit]
    obtain ⟨comma, -, rfl⟩ := split_eq_error_iff.1 hsplit
    exact .error (.misplacedComma comma.span)
  | ok args =>
    rw [ok_bind]
    obtain ⟨hargs, hargs'⟩ | ⟨limit, span, hargs, hargs'⟩ :=
      Macro.checkCeiling_eq_or_eq hceiling args limits
    · obtain ⟨x, hx, hcalls⟩ := exists_calls_of_ahead ht hlen hfixed hinput hsplit hargs
      rw [hx, hargs']
      refine .ok hcalls List.length_mapIdx fun i hi => ?_
      rw [List.getElem_mapIdx]
      exact getLast?_received hm fixed _ i
    · rw [hiterate, hsplit, ht, ok_bind, ok_bind, hargs, hargs']
      exact .error (.ceilingExceeded _ limit span)

end

/-- **What is counted is what is iterated over.** Of the arguments of a stream, `narg` writes the
number, and an iteration with indices makes that number of calls, the last parameters of which count
from 0. One that `narg` refuses the iteration refuses too, for the same reason. Plain iteration
makes as many calls if its own ceiling allows it. -/
theorem narg_counts_calls {first : Argument} {t : Template} (ht : Template.parse first = .ok t)
    (rest : List Token) (limits : Limits) :
    (∀ (m : Macro) (given fixed : List Argument) (input : List Token), m ≠ .each →
        given.length + 1 = m.leading.length → m.GivenBy given fixed →
        Ahead rest ((first :: given).map tokens) input →
        (∀ n, Macro.narg.evaluate rest limits = .ok ⟨[.number n], []⟩
            ↔ ∃ x calls, m.iterate input limits = .ok x ∧ Calls t calls x.tokens
              ∧ calls.length = n)
          ∧ (∀ x calls, m.iterate input limits = .ok x → Calls t calls x.tokens →
            ∀ i (hi : i < calls.length), calls[i].getLast? = some ⟨.number i, []⟩)
          ∧ ∀ e, Macro.narg.evaluate rest limits = .error e →
            ∃ e', m.iterate input limits = .error e' ∧ SameCause m e e')
      ∧ ∀ (n : Nat) (input : List Token), n ≤ limits.each →
        Macro.narg.evaluate rest limits = .ok ⟨[.number n], []⟩ →
        Ahead rest [first.tokens] input →
        ∃ x calls, Macro.each.iterate input limits = .ok x ∧ Calls t calls x.tokens
          ∧ calls.length = n := by
  constructor
  · intro m given fixed input hm hlen hfixed hinput
    have hcounts := counts_of_ahead ht hm hlen hfixed hinput limits
    exact ⟨hcounts.eq_ok_iff, fun x calls hx => hcounts.getLast?_getElem hx,
      fun e => hcounts.exists_error⟩
  · intro n input hn hcounted hinput
    simp only [evaluate_narg, bind_eq_ok_iff] at hcounted
    obtain ⟨args, hsplit, _, -, hnumber⟩ := hcounted
    have htokens := congrArg Expansion.tokens (Except.ok.inj hnumber)
    obtain rfl := number_injective (List.singleton_inj.1 htokens)
    have hargs : Macro.each.checkCeiling args limits = .ok () := Macro.checkCeiling_eq_ok_iff.2 hn
    have hfixed : Macro.each.GivenBy [] [] := .positional (by decide)
    obtain ⟨x, hx, hcalls⟩ := exists_calls_of_ahead ht rfl hfixed hinput hsplit hargs
    exact ⟨x, _, hx, hcalls, List.length_mapIdx⟩

/-- `par_each_idx!(f !, (p, q), ⟦a⟧, b,)`, where `⟦ ⟧` is an invisible group. Two arguments are
counted and two calls made, and where one is allowed both fail alike. -/
theorem narg_counts_calls_tuple :
    let comma : Token := .mark ','
    let a : Token := .group .invisible [.ident "a" .callSite] .callSite
    let b : Token := .ident "b" .callSite
    let first : Argument := ⟨.ident "f" .callSite, [.mark '!']⟩
    let list : Argument :=
      ⟨.group .paren [.ident "p" .callSite, comma, .ident "q" .callSite] .callSite, []⟩
    let rest : List Token := [a, comma, b, comma]
    let input : List Token := first.tokens ++ comma :: (list.tokens ++ comma :: rest)
    ∃ t fixed, Template.parse first = .ok t ∧ Macro.parEachIdx.GivenBy [list] fixed
      ∧ Ahead rest ([first, list].map tokens) input
      ∧ Macro.narg.evaluate rest ⟨2, 2⟩ = .ok ⟨[.number 2], []⟩
      ∧ (∃ x calls, Macro.parEachIdx.iterate input ⟨2, 2⟩ = .ok x ∧ Calls t calls x.tokens
        ∧ calls.length = 2
        ∧ ∀ i (hi : i < calls.length), calls[i].getLast? = some ⟨.number i, []⟩)
      ∧ (∃ e e', Macro.narg.evaluate rest ⟨1, 2⟩ = .error e
        ∧ Macro.parEachIdx.iterate input ⟨1, 2⟩ = .error e' ∧ SameCause .parEachIdx e e')
      ∧ ∃ x calls, Macro.each.iterate (first.tokens ++ comma :: rest) ⟨2, 2⟩ = .ok x
        ∧ Calls t calls x.tokens ∧ calls.length = 2 := by
  intro comma a b first list rest input
  obtain ⟨t, ht⟩ : ∃ t, Template.parse first = .ok t := ⟨_, rfl⟩
  obtain ⟨params, hparams⟩ :
      ∃ params, split [.ident "p" .callSite, comma, .ident "q" .callSite] = .ok params := ⟨_, rfl⟩
  have hlist : Macro.parEachIdx.GivenBy [list] params :=
    .tuple .refl (listing_of_split hparams)
  have hfirst : IsRun first.tokens := by
    refine ⟨first.tokens_ne_nil, ?_⟩
    decide
  have hinput : Ahead rest ([first, list].map tokens) input :=
    .cons hfirst rfl (.last (isRun_singleton rfl) rfl)
  have htwo : Macro.narg.evaluate rest ⟨2, 2⟩ = .ok ⟨[.number 2], []⟩ := by
    rw [evaluate_narg]
    rfl
  obtain ⟨e, hone⟩ : ∃ e, Macro.narg.evaluate rest ⟨1, 2⟩ = .error e := by
    rw [evaluate_narg]
    exact ⟨_, rfl⟩
  obtain ⟨hiterates, heach⟩ := narg_counts_calls ht rest ⟨2, 2⟩
  obtain ⟨hcount, hindex, -⟩ :=
    hiterates .parEachIdx [list] params input (by decide) rfl hlist hinput
  obtain ⟨x, calls, hx, hcalls, hlen⟩ := (hcount 2).1 htwo
  obtain ⟨hrefuses, -⟩ := narg_counts_calls ht rest ⟨1, 2⟩
  obtain ⟨-, -, hfails⟩ :=
    hrefuses .parEachIdx [list] params input (by decide) rfl hlist hinput
  obtain ⟨e', he', hcause⟩ := hfails e hone
  exact ⟨t, params, ht, hlist, hinput, htwo, ⟨x, calls, hx, hcalls, hlen, hindex x calls hx hcalls⟩,
    ⟨e, e', hone, he', hcause⟩, heach 2 _ (by decide) htwo (.last hfirst rfl)⟩

end Variadic
