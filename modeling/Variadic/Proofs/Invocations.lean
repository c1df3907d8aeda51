import Variadic.Proofs.Planning

/-!
# What an iteration writes

An invocation writes its parameters in braces with commas between them, and the template reads them
back by the same rule by which the macro read its input. So the parameters have to survive a second
split. They do because every one of them comes out of a first split, or is a number, and is a run of
its own (`GivenBy.isRun`); `iterate_lossless` says what follows for the whole output.
-/

namespace Variadic

open Argument

/-- What the template is given for one argument: the fixed parameters, the argument itself, and its
index, which only plain iteration leaves out. -/
def received (m : Macro) (fixed : List Argument) (a : Argument) (index : Nat) : List Argument :=
  fixed ++ [a] ++ if m = .each then [] else [⟨.number index, []⟩]

/-- `block` is one call of the template: its path, an exclamation mark, and braces whose content
splits into the arguments `as`. -/
def Invokes (t : Template) (as : List Argument) (block : List Token) : Prop :=
  ∃ content, block = t.path.tokens ++ [.mark '!', .group .brace content .callSite]
    ∧ split content = .ok as

/-- Fixed parameters are runs, as they come from a list of their own or from the input. -/
theorem Macro.GivenBy.isRun {m : Macro} {given fixed : List Argument} (h : m.GivenBy given fixed)
    (hgiven : ∀ a ∈ given, IsRun a.tokens) : ∀ a ∈ fixed, IsRun a.tokens := by
  cases h with
  | tuple _ hc => exact fun a ha => hc.isRun _ (List.mem_map_of_mem ha)
  | scalar => exact hgiven
  | positional => exact hgiven

/-- What an invocation receives are arguments without commas, so that its content can be split
again. -/
theorem isRun_of_mem_received {m : Macro} {fixed : List Argument} {a : Argument} {index : Nat}
    (hfixed : ∀ b ∈ fixed, IsRun b.tokens) (ha : IsRun a.tokens) :
    ∀ b ∈ received m fixed a index, IsRun b.tokens := by
  intro b hb
  rw [received, List.mem_append, List.mem_append, List.mem_singleton] at hb
  rcases hb with (hb | rfl) | hb
  · exact hfixed b hb
  · exact ha
  · split at hb
    · cases hb
    · rw [List.mem_singleton.1 hb]
      exact isRun_singleton rfl

namespace Plan

/-- The parameters of an invocation are the tokens of what it receives. -/
theorem params_eq (p : Plan) (a : Argument) (index : Nat) :
    p.params a index = (received p.m p.fixed.params a index).map Argument.tokens := by
  rw [params, received, List.map_append, List.map_append]
  cases p.m <;> rfl

theorem invokes_invocation {p : Plan} {a : Argument} (hfixed : ∀ b ∈ p.fixed.params, IsRun b.tokens)
    (ha : IsRun a.tokens) (index : Nat) :
    Invokes p.template (received p.m p.fixed.params a index) (p.invocation a index) := by
  refine ⟨joinTokens (p.params a index), rfl, ?_⟩
  rw [params_eq]
  exact split_joinTokens (isRun_of_mem_received hfixed ha)

end Plan

/-- **Iteration is lossless.** Its output is one call of the template for each argument behind the
leading ones, in order and with nothing in between. What the braces of the call number `i` split
into are the fixed parameters, the argument number `i`, token for token, and `i` itself. -/
theorem iterate_lossless {m : Macro} {input : List Token} {limits : Limits} {x : Expansion}
    (h : m.iterate input limits = .ok x) :
    ∃ (template : Argument) (given args fixed : List Argument) (t : Template)
      (blocks : List (List Token)),
      split input = .ok (template :: given ++ args)
        ∧ given.length + 1 = m.leading.length
        ∧ Template.parse template = .ok t
        ∧ m.GivenBy given fixed
        ∧ x.tokens = blocks.flatten
        ∧ blocks.length = args.length
        ∧ ∀ i (hi : i < args.length), ∃ block, blocks[i]? = some block
            ∧ Invokes t (received m fixed args[i] i) block := by
  obtain ⟨p, hplan, rfl⟩ := Macro.iterate_eq_ok_iff.1 h
  obtain ⟨template, given, hp⟩ := Macro.plan_eq_ok_iff.1 hplan
  obtain ⟨warning, hfixed, -⟩ := hp.fixed
  have hgiven := Macro.givenBy_of_fixedParameters hp.leading hfixed
  -- whatever is written comes out of the split of the input, or out of an argument's own split
  have hrun : ∀ a ∈ template :: given ++ p.args, IsRun a.tokens :=
    fun a ha => isRun_of_mem_split hp.split ha
  have hparams : ∀ b ∈ p.fixed.params, IsRun b.tokens := by
    refine hgiven.isRun fun a ha => hrun a ?_
    exact List.mem_append_left _ (List.mem_cons_of_mem _ ha)
  refine ⟨template, given, p.args, p.fixed.params, p.template,
    p.args.mapIdx fun index a => p.invocation a index, hp.split, hp.leading, hp.parse, hgiven, rfl,
    List.length_mapIdx, ?_⟩
  intro i hi
  refine ⟨p.invocation p.args[i] i, ?_, ?_⟩
  · rw [List.getElem?_mapIdx, List.getElem?_eq_getElem hi, Option.map_some]
  · rw [← hp.kind]
    exact Plan.invokes_invocation hparams
      (hrun _ (List.mem_append_right _ (List.getElem_mem hi))) i

/-- `par_each_idx!(f, ⟦(p, q)⟧, ⟦a⟧, b,)`, where `⟦ ⟧` are invisible groups. -/
theorem iterate_lossless_tuple :
    let a : Token := .group .invisible [.ident "a" .callSite] .callSite
    let b : Token := .ident "b" .callSite
    let p : Token := .ident "p" .callSite
    let q : Token := .ident "q" .callSite
    let f : Token := .ident "f" .callSite
    let input : List Token :=
      [f, .mark ',', .group .invisible [.group .paren [p, .mark ',', q] .callSite] .callSite,
        .mark ',', a, .mark ',', b, .mark ',']
    let x : Expansion :=
      ⟨[f, .mark '!',
          .group .brace [p, .mark ',', q, .mark ',', a, .mark ',', .number 0] .callSite,
        f, .mark '!',
          .group .brace [p, .mark ',', q, .mark ',', b, .mark ',', .number 1] .callSite], []⟩
    Macro.parEachIdx.iterate input {} = .ok x
      ∧ ∃ (template : Argument) (given args fixed : List Argument) (t : Template)
        (blocks : List (List Token)),
        split input = .ok (template :: given ++ args)
          ∧ given.length + 1 = Macro.parEachIdx.leading.length
          ∧ Template.parse template = .ok t
          ∧ Macro.parEachIdx.GivenBy given fixed
          ∧ x.tokens = blocks.flatten
          ∧ blocks.length = args.length
          ∧ ∀ i (hi : i < args.length), ∃ block, blocks[i]? = some block
              ∧ Invokes t (received .parEachIdx fixed args[i] i) block := by
  intro a b p q f input x
  have h : Macro.parEachIdx.iterate input {} = .ok x := by rfl
  exact ⟨h, iterate_lossless h⟩

end Variadic
