import Variadic.Proofs.Planning

/-!
# Leading arguments in front of a rest

Two calls can have different leading arguments and the same rest to iterate over, well-formed or
not. `Ahead` puts leading arguments in front of an arbitrary rest. Only the rest is left to split
then (`split_of_ahead`), and an iteration is what it makes of the arguments of the rest
(`iterate_of_ahead`). Macros below the same ceiling then succeed together and fail together
(`checkCeiling_eq_or_eq`).
-/

namespace Variadic

namespace Argument

/-- `ts` consists of the runs and of `rest`, with a comma between each two. The last comma can be
missing where nothing follows. -/
inductive Ahead (rest : List Token) : List (List Token) → List Token → Prop
  | alone {run : List Token} (h : IsRun run) (hrest : rest = []) : Ahead rest [run] run
  | last {run : List Token} {comma : Token} (h : IsRun run) (hc : comma.isComma) :
      Ahead rest [run] (run ++ comma :: rest)
  | cons {run ts : List Token} {comma : Token} {runs : List (List Token)} (h : IsRun run)
      (hc : comma.isComma) (next : Ahead rest runs ts) :
      Ahead rest (run :: runs) (run ++ comma :: ts)

theorem Ahead.isRun {rest ts : List Token} {runs : List (List Token)} (h : Ahead rest runs ts) :
    ∀ run ∈ runs, IsRun run := by
  induction h with
  | alone h _ =>
    intro run hr
    rw [List.mem_singleton.1 hr]
    exact h
  | last h _ =>
    intro run hr
    rw [List.mem_singleton.1 hr]
    exact h
  | cons h _ _ ih =>
    intro run hr
    rcases List.mem_cons.1 hr with rfl | hr
    · exact h
    · exact ih run hr

/-- Arguments in front of a stream are split off it, whether or not the rest is a list. -/
theorem split_of_ahead {rest ts : List Token} {as : List Argument}
    (h : Ahead rest (as.map tokens) ts) : split ts = (as ++ ·) <$> split rest := by
  induction as generalizing ts with
  | nil => cases h
  | cons a as ih =>
    rw [List.map_cons] at h
    -- the constructors have variables where the arguments' tokens stand
    generalize hrun : a.tokens = run at h
    generalize hruns : as.map tokens = runs at h
    cases h with
    | alone hr hrest =>
      subst hrun hrest
      obtain rfl : as = [] := List.map_eq_nil_iff.1 hruns
      rw [split_tokens hr.2]
      rfl
    | last hr hc =>
      subst hrun
      obtain rfl : as = [] := List.map_eq_nil_iff.1 hruns
      exact split_tokens_cons hr.2 hc rest
    | cons hr hc hnext =>
      subst hrun
      rw [← hruns] at hnext
      rw [split_tokens_cons hr.2 hc, ih hnext]
      cases split rest with
      | error e => rfl
      | ok args => rfl

end Argument

namespace Macro

/-- Two macros below the same ceiling let the same arguments through, and else blame the same one.
-/
theorem checkCeiling_eq_or_eq {m m' : Macro} (h : m.ceiling = m'.ceiling) (args : List Argument)
    (limits : Limits) :
    (m.checkCeiling args limits = .ok () ∧ m'.checkCeiling args limits = .ok ())
      ∨ ∃ limit span,
        m.checkCeiling args limits
            = .error (Issue.error (.ceilingExceeded m args.length limit) span)
          ∧ m'.checkCeiling args limits
            = .error (Issue.error (.ceilingExceeded m' args.length limit) span) := by
  cases hm : m.checkCeiling args limits with
  | ok _ =>
    left
    refine ⟨rfl, ?_⟩
    rw [checkCeiling_eq_ok_iff, ← h]
    exact checkCeiling_eq_ok_iff.1 hm
  | error e =>
    right
    obtain ⟨excess, hexcess, rfl⟩ := checkCeiling_eq_error_iff.1 hm
    refine ⟨limits.get m.ceiling, excess.span, rfl, ?_⟩
    rw [h] at hexcess ⊢
    exact checkCeiling_eq_error_iff.2 ⟨excess, hexcess, rfl⟩

/-- What an iteration makes of a rest behind its leading arguments: the rest is split first, and its
arguments are counted last. -/
theorem iterate_eq_of_ahead {m : Macro} {rest ts : List Token} {template : Argument}
    {given : List Argument} (h : Argument.Ahead rest ((template :: given).map Argument.tokens) ts)
    (hlen : given.length + 1 = m.leading.length) (limits : Limits) :
    m.iterate ts limits = (do
      let args ← Argument.split rest
      let t ← Template.parse template
      let (fixed, warning) ← m.fixedParameters given
      m.checkCeiling args limits
      pure (Plan.expansion ⟨m, t, fixed, args, warning.toList⟩)) := by
  have hsplit := Argument.split_of_ahead h
  rw [iterate]
  cases hrest : Argument.split rest with
  | error e =>
    rw [hrest] at hsplit
    rw [plan, hsplit]
    rfl
  | ok args =>
    rw [hrest] at hsplit
    rw [plan_of_split hsplit hlen, ok_bind]
    cases Template.parse template with
    | error e => rfl
    | ok t =>
      rw [ok_bind, ok_bind]
      cases m.fixedParameters given with
      | error e => rfl
      | ok fixed =>
        rw [ok_bind, ok_bind]
        dsimp only
        cases m.checkCeiling args limits with
        | error e => rfl
        | ok _ => rfl

/-- What an iteration makes of a rest, given its fixed parameters. -/
theorem iterate_of_ahead {m : Macro} {rest ts : List Token} {template : Argument}
    {given fixed : List Argument}
    (h : Argument.Ahead rest ((template :: given).map Argument.tokens) ts)
    (hlen : given.length + 1 = m.leading.length) (hfixed : m.GivenBy given fixed)
    (limits : Limits) :
    ∃ shape warnings, m.iterate ts limits = (do
      let args ← Argument.split rest
      let t ← Template.parse template
      m.checkCeiling args limits
      pure (Plan.expansion ⟨m, t, ⟨shape, fixed⟩, args, warnings⟩)) := by
  obtain ⟨shape, warning, hgiven⟩ := hfixed.exists_fixedParameters
  refine ⟨shape, warning.toList, ?_⟩
  rw [iterate_eq_of_ahead h hlen, hgiven]
  rfl

end Macro
end Variadic
