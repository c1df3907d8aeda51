import Variadic.Proofs.Settings
import Variadic.Proofs.Tracing

/-!
# The root of a workspace

The walk up from a directory ends at the first manifest that declares a workspace. So what stands
above this root makes no difference, neither for the limits nor for what macros expand to: it is
enough that two trees agree on the directories up to it (`Limits.load_eq_of_agreesOn`). All texts
below the root are read, and one that is no manifest is at fault whatever the manifests nearer to
the directory say (`Limits.load_of_isMalformed`).
-/

namespace Variadic

open FileTree

variable {explain : String → String}

theorem Toml.exists_parse?_of_declaresWorkspace {text : String}
    (h : declaresWorkspace text = true) : ∃ v, parse? text = some v := by
  obtain ⟨v, hv, -⟩ := (Option.any_eq_true _ _).mp h
  exact ⟨v, hv⟩

namespace FileTree

/-! ## What stands in a directory -/

/-- The directory has a manifest that declares a workspace. -/
def IsWorkspaceRoot (t : FileTree) (dir : String) : Prop :=
  ∃ text, t.text? (inDirectory dir manifestName) = some text
    ∧ Toml.declaresWorkspace text = true

/-- The directory has a text in the place of its manifest that is none. -/
def IsMalformed (t : FileTree) (dir : String) : Prop :=
  ∃ text, t.text? (inDirectory dir manifestName) = some text ∧ Toml.parse? text = none

/-- The trees hold the same texts in the place of the manifests of the directories. Whether a
manifest that holds no text is missing or cannot be read makes no difference. -/
def AgreesOn (t t' : FileTree) (dirs : List String) : Prop :=
  ∀ dir ∈ dirs, t.text? (inDirectory dir manifestName) = t'.text? (inDirectory dir manifestName)

theorem AgreesOn.tail {t t' : FileTree} {dir : String} {dirs : List String}
    (h : t.AgreesOn t' (dir :: dirs)) : t.AgreesOn t' dirs :=
  fun path hpath => h path (List.mem_cons_of_mem _ hpath)

end FileTree

namespace Manifest

/-! ## Reading manifests up to the root -/

/-- Nothing is read behind a workspace root, so it may be anything in either tree. -/
theorem collect_eq_of_agreesOn {t t' : FileTree} {below above above' : List String}
    {place : String} (hroot : t.IsWorkspaceRoot place) (h : t.AgreesOn t' (below ++ [place])) :
    collect explain (t.texts (below ++ place :: above))
      = collect explain (t'.texts (below ++ place :: above')) := by
  -- on the directories below the root, each of which either tree reads alike
  induction below with
  | nil =>
    obtain ⟨text, htext, hdeclares⟩ := hroot
    have htext' : t'.text? (inDirectory place manifestName) = some text := by
      rw [← h place List.mem_cons_self, htext]
    rw [List.nil_append, List.nil_append, texts_cons_of_some htext, texts_cons_of_some htext']
    obtain ⟨v, hv⟩ := Toml.exists_parse?_of_declaresWorkspace hdeclares
    have hm : declaresWorkspace ⟨inDirectory place manifestName, v⟩ = true := by
      rw [declaresWorkspace_eq hv, hdeclares]
    rw [collect_cons_of_some hv, collect_cons_of_some hv, if_pos hm, if_pos hm]
  | cons dir below ih =>
    have hdir := h dir List.mem_cons_self
    have hrest := ih h.tail
    rw [List.cons_append, List.cons_append]
    cases htext : t.text? (inDirectory dir manifestName) with
    | none =>
      rw [htext] at hdir
      rw [texts_cons_of_none htext, texts_cons_of_none hdir.symm, hrest]
    | some text =>
      rw [htext] at hdir
      rw [texts_cons_of_some htext, texts_cons_of_some hdir.symm]
      cases hparse : Toml.parse? text with
      | none => rw [collect_cons_of_none hparse, collect_cons_of_none hparse]
      | some v => rw [collect_cons_of_some hparse, collect_cons_of_some hparse, hrest]

/-- A text that is no manifest is reached unless the walk ends before it, and reading fails at the
first such text. -/
theorem collect_of_isMalformed {t : FileTree} {below : List String} {place : String}
    (above : List String) (hplace : t.IsMalformed place)
    (hbelow : ∀ path ∈ below, ¬ t.IsWorkspaceRoot path) :
    ∃ path ∈ below ++ [place], ∃ text,
      t.text? (inDirectory path manifestName) = some text ∧ Toml.parse? text = none
      ∧ collect explain (t.texts (below ++ place :: above))
        = .error (.malformed (inDirectory path manifestName) (explain text)) := by
  induction below with
  | nil =>
    obtain ⟨text, htext, hnone⟩ := hplace
    refine ⟨place, List.mem_cons_self, text, htext, hnone, ?_⟩
    rw [List.nil_append, texts_cons_of_some htext, collect_cons_of_none hnone]
  | cons dir below ih =>
    obtain ⟨path, hpath, malformed, hmalformed, hnone, hcollect⟩ :=
      ih fun other hother => hbelow other (List.mem_cons_of_mem _ hother)
    rw [List.cons_append, List.cons_append]
    cases htext : t.text? (inDirectory dir manifestName) with
    | none =>
      refine ⟨path, List.mem_cons_of_mem _ hpath, malformed, hmalformed, hnone, ?_⟩
      rw [texts_cons_of_none htext, hcollect]
    | some text =>
      rw [texts_cons_of_some htext]
      cases hparse : Toml.parse? text with
      | none =>
        -- this text is at fault before the one in question
        exact ⟨dir, List.mem_cons_self, text, htext, hparse, collect_cons_of_none hparse⟩
      | some v =>
        -- no workspace, so that reading goes on
        have hm : ¬ declaresWorkspace ⟨inDirectory dir manifestName, v⟩ = true := by
          rw [declaresWorkspace_eq hparse]
          exact fun hdeclares => hbelow dir List.mem_cons_self ⟨text, htext, hdeclares⟩
        refine ⟨path, List.mem_cons_of_mem _ hpath, malformed, hmalformed, hnone, ?_⟩
        rw [collect_cons_of_some hparse, if_neg hm, hcollect]
        rfl

end Manifest

namespace Limits

/-! ## Limits -/

section

variable {t t' : FileTree} {dir place : String} {below above : List String}
  (hdir : ancestors dir = below ++ place :: above)

include hdir

/-- The limits in a workspace are decided below its root and at it. -/
theorem load_eq_of_agreesOn (hroot : t.IsWorkspaceRoot place)
    (h : t.AgreesOn t' (below ++ [place])) :
    Limits.load explain t (some dir) = Limits.load explain t' (some dir) := by
  rw [load_eq_mapError, load_eq_mapError, hdir, Manifest.collect_eq_of_agreesOn hroot h]

/-- A malformed manifest that the walk reaches is at fault, if none nearer is. -/
theorem load_of_isMalformed (hplace : t.IsMalformed place)
    (hbelow : ∀ path ∈ below, ¬ t.IsWorkspaceRoot path) :
    ∃ path ∈ below ++ [place], ∃ text,
      t.text? (inDirectory path manifestName) = some text ∧ Toml.parse? text = none
      ∧ Limits.load explain t (some dir) = .error (Issue.general
        (.configuration (.malformed (inDirectory path manifestName) (explain text)))) := by
  obtain ⟨path, hpath, text, htext, hnone, hcollect⟩ :=
    Manifest.collect_of_isMalformed above hplace hbelow
  refine ⟨path, hpath, text, htext, hnone, ?_⟩
  rw [load_eq_mapError, hdir, hcollect]
  rfl

end

end Limits

/-- The configuration is all that an expansion takes from the files. -/
theorem Macro.expand_congr {t t' : FileTree} {dir : Option String}
    (h : Limits.load explain t dir = Limits.load explain t' dir) (m : Macro) (input : List Token)
    (trace : Bool) :
    m.expand input ⟨explain, t, dir, trace⟩ = m.expand input ⟨explain, t', dir, trace⟩ := by
  unfold expand
  rw [h]

/-- **Nothing above the root of a workspace matters, and all below it does.** Let `place` be a
directory on the walk up from `dir`. If it is the root of a workspace, trees that agree up to it
have the same limits, and all calls expand to the same there, whatever stands above. If its manifest
is malformed and there is no root below it, the configuration is at fault, and so every call fails,
whatever the other manifests set. -/
theorem load_ends_at_workspace_root (explain : String → String) {dir place : String}
    {below above : List String} (hdir : ancestors dir = below ++ place :: above) :
    (∀ t t' : FileTree, t.IsWorkspaceRoot place → t.AgreesOn t' (below ++ [place]) →
        Limits.load explain t (some dir) = Limits.load explain t' (some dir)
          ∧ ∀ (m : Macro) input trace,
            m.expand input ⟨explain, t, some dir, trace⟩
              = m.expand input ⟨explain, t', some dir, trace⟩)
      ∧ ∀ t : FileTree, t.IsMalformed place → (∀ path ∈ below, ¬ t.IsWorkspaceRoot path) →
          ∃ path ∈ below ++ [place], ∃ text,
            t.text? (inDirectory path manifestName) = some text ∧ Toml.parse? text = none
              ∧ ∃ e, e = Issue.general (.configuration
                  (.malformed (inDirectory path manifestName) (explain text)))
                ∧ Limits.load explain t (some dir) = .error e
                ∧ ∀ (m : Macro) input trace,
                  (m.expand input ⟨explain, t, some dir, trace⟩).outcome = .error e := by
  constructor
  · intro t t' hroot h
    have hload : Limits.load explain t (some dir) = Limits.load explain t' (some dir) :=
      Limits.load_eq_of_agreesOn hdir hroot h
    exact ⟨hload, fun m input trace => Macro.expand_congr hload m input trace⟩
  · intro t hplace hbelow
    obtain ⟨path, hpath, text, htext, hnone, hload⟩ :=
      Limits.load_of_isMalformed hdir hplace hbelow
    exact ⟨path, hpath, text, htext, hnone, _, rfl, hload,
      fun m input trace => Macro.outcome_expand_of_load_error hload m input⟩

/-- A directory `ws/app` in a workspace `ws`, below whatever stands at the top. The ceilings are set
in the directory itself. -/
def insideWorkspace (top : List (String × FileTree)) (workspace : String) : FileTree :=
  directory (top ++ [("ws", directory [(manifestName, file (.text workspace)),
    ("app", directory [(manifestName, file (.text
      "[package.metadata.va-iter]\ncount-limit = 16\neach-limit = 8\n"))])])])

/-- Above a workspace, declared by a value that is no table, a manifest that is none makes no
difference. In the place of the workspace's manifest it makes all calls fail, although the ceilings
are set already. -/
theorem load_ends_at_workspace_root_app :
    let explain := explainLoneKey
    let workspace := "workspace = 1\n"
    let broken := insideWorkspace [(manifestName, file (.text loneKey))] workspace
    let unreadable := insideWorkspace [(manifestName, directory [])] workspace
    let malformed := insideWorkspace [] loneKey
    (Limits.load explain broken (some "ws/app") = Limits.load explain unreadable (some "ws/app")
        ∧ Limits.load explain broken (some "ws/app") = .ok ⟨16, 8⟩
        ∧ ∀ (m : Macro) input trace, m.expand input ⟨explain, broken, some "ws/app", trace⟩
          = m.expand input ⟨explain, unreadable, some "ws/app", trace⟩)
      ∧ ∃ e, Limits.load explain malformed (some "ws/app") = .error e
        ∧ ∀ (m : Macro) input trace,
          (m.expand input ⟨explain, malformed, some "ws/app", trace⟩).outcome = .error e := by
  intro explain workspace broken unreadable malformed
  have hdir : ancestors "ws/app" = ["ws/app"] ++ "ws" :: [""] := by
    decide +kernel
  -- what the first part asks for
  have hroot : broken.IsWorkspaceRoot "ws" :=
    ⟨workspace, by decide +kernel, by decide +kernel⟩
  have hagree : broken.AgreesOn unreadable (["ws/app"] ++ ["ws"]) := by
    unfold AgreesOn
    decide +kernel
  have hload : Limits.load explain broken (some "ws/app") = .ok ⟨16, 8⟩ :=
    eq_ok_of_toOption (by decide +kernel)
  -- what the second part asks for
  have hmalformed : malformed.IsMalformed "ws" :=
    ⟨loneKey, by decide +kernel, Option.isNone_iff_eq_none.mp (by decide +kernel)⟩
  have hbelow : ∀ path ∈ ["ws/app"], ¬ malformed.IsWorkspaceRoot path := by
    intro path hpath
    obtain rfl := List.mem_singleton.mp hpath
    rintro ⟨text, htext, hdeclares⟩
    have hnot : (malformed.text? (inDirectory "ws/app" manifestName)).any
        Toml.declaresWorkspace = false := by
      decide +kernel
    rw [htext, Option.any_some, hdeclares] at hnot
    cases hnot
  obtain ⟨heq, hexpand⟩ :=
    (load_ends_at_workspace_root explain hdir).1 broken unreadable hroot hagree
  obtain ⟨-, -, -, -, -, e, -, hfails, houtcome⟩ :=
    (load_ends_at_workspace_root explain hdir).2 _ hmalformed hbelow
  refine ⟨⟨heq, hload, hexpand⟩, ?_⟩
  exact ⟨e, hfails, houtcome⟩

end Variadic
