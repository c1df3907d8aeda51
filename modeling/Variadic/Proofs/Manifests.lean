import Variadic.Limits.Load
import Variadic.Proofs.Outcomes
import Variadic.Proofs.Paths

/-!
# Reading manifests

Which manifests count for a directory depends on the tree only through the texts found on the walk
up. A directory without a manifest of its own is therefore as good as the one above it. How the
parser explains what it rejects matters only where it rejects something
(`Limits.load_eq_ok_of_explain`).
-/

namespace Variadic

namespace FileTree

/-! ## Following paths to manifests -/

/-- An empty piece or a point stays in the directory. -/
theorem follow?_cons_of_stays {piece : String} (h : piece = "" ∨ piece = ".")
    (above : List FileTree) (entries : List (String × FileTree)) (pieces : List String) :
    follow? above (directory entries) (piece :: pieces) =
      follow? above (directory entries) pieces := by
  rw [follow?.eq_def]
  exact if_pos h

/-- In front of a name, pieces that stay in the directory make no difference. -/
theorem follow?_append_of_stays {front : List String}
    (h : ∀ piece ∈ front, piece = "" ∨ piece = ".") (above : List FileTree) (place : FileTree)
    (name : String) :
    follow? above place (front ++ [name]) = follow? above place [name] := by
  induction front with
  | nil => rfl
  | cons piece front ih =>
    cases place with
    | file content => rfl
    | directory entries =>
      rw [List.cons_append, follow?_cons_of_stays (h piece List.mem_cons_self)]
      exact ih fun other hother => h other (List.mem_cons_of_mem _ hother)

/-- The pieces that lead to the manifest of a directory. -/
theorem exists_pieces_manifest (dir : String) :
    ∃ front, pieces (inDirectory dir manifestName) = front ++ [manifestName] ∧
      (IsHere dir ↔ ∀ piece ∈ front, piece = "" ∨ piece = ".") := by
  obtain ⟨front, hpieces, hfront⟩ := exists_pieces_inDirectory dir manifestName (by decide)
  refine ⟨front, hpieces, fun h piece hpiece => ?_, fun h piece hpiece => ?_⟩
  · by_cases hempty : piece = ""
    · exact Or.inl hempty
    · exact h piece ((hfront piece hempty).mp hpiece)
  · by_cases hempty : piece = ""
    · exact Or.inl hempty
    · exact h piece ((hfront piece hempty).mpr hpiece)

/-- A directory whose path leads nowhere else has the manifest of the root. -/
theorem file?_manifest_of_isHere (t : FileTree) {dir : String} (h : IsHere dir) :
    t.file? (inDirectory dir manifestName) = t.file? manifestName := by
  obtain ⟨front, hpieces, hfront⟩ := exists_pieces_manifest dir
  have hname : pieces manifestName = [manifestName] := pieces_of_notMem (by decide)
  unfold file?
  rw [hpieces, hname, follow?_append_of_stays (hfront.mp h)]

/-! ## The texts on the walk up -/

/-- The manifests of directories, as far as they hold a text. -/
def texts (t : FileTree) (dirs : List String) : List (String × String) :=
  dirs.filterMap fun dir =>
    (t.text? (inDirectory dir manifestName)).map (inDirectory dir manifestName, ·)

/-- A directory whose manifest holds no text is passed over. -/
theorem texts_cons_of_none {t : FileTree} {dir : String} {dirs : List String}
    (h : t.text? (inDirectory dir manifestName) = none) : t.texts (dir :: dirs) = t.texts dirs := by
  unfold texts
  rw [List.filterMap_cons, h]
  rfl

theorem texts_cons_of_some {t : FileTree} {dir : String} {dirs : List String} {text : String}
    (h : t.text? (inDirectory dir manifestName) = some text) :
    t.texts (dir :: dirs) = (inDirectory dir manifestName, text) :: t.texts dirs := by
  unfold texts
  rw [List.filterMap_cons, h]
  rfl

theorem isFile_of_text? {t : FileTree} {path text : String} (h : t.text? path = some text) :
    t.isFile path = true := by
  unfold text? at h
  obtain ⟨content, hcontent, -⟩ := Option.bind_eq_some_iff.mp h
  unfold isFile
  rw [hcontent]
  rfl

end FileTree

open FileTree

variable {explain : String → String}

/-- What is read for a directory is a function of the texts on the walk up. -/
theorem Manifest.load_eq (explain : String → String) (t : FileTree) (dir : String) :
    Manifest.load explain t dir = Manifest.collect explain (t.texts (ancestors dir)) := by
  unfold Manifest.load FileTree.manifests FileTree.texts
  rw [List.filterMap_filter, List.filterMap_map]
  congr 1
  apply List.filterMap_congr
  intro above _
  show (if t.isFile (inDirectory above manifestName) = true then _ else none) = _
  cases htext : t.text? (inDirectory above manifestName) with
  | none => simp
  | some text => rw [if_pos (isFile_of_text? htext)]

/-- A text that is no manifest is at fault, whatever stands behind it. -/
theorem Manifest.collect_cons_of_none {path text : String} {texts : List (String × String)}
    (h : Toml.parse? text = none) :
    collect explain ((path, text) :: texts) = .error (.malformed path (explain text)) := by
  rw [collect, h]

/-- A manifest ends the walk if it declares a workspace, and otherwise stands in front of those
above it. -/
theorem Manifest.collect_cons_of_some {path text : String} {texts : List (String × String)}
    {v : Toml.Value} (h : Toml.parse? text = some v) :
    collect explain ((path, text) :: texts) =
      if declaresWorkspace ⟨path, v⟩ then .ok [⟨path, v⟩]
      else collect explain texts >>= fun ms => .ok (⟨path, v⟩ :: ms) := by
  rw [collect, h]
  cases collect explain texts <;> rfl

/-- Where nothing has to be explained, explanations make no difference. -/
theorem Manifest.collect_eq_ok_of_explain {explain' : String → String}
    {texts : List (String × String)} {ms : List Manifest} (h : collect explain texts = .ok ms) :
    collect explain' texts = .ok ms := by
  induction texts generalizing ms with
  | nil => exact h
  | cons nearest texts ih =>
    obtain ⟨path, text⟩ := nearest
    cases hparse : Toml.parse? text with
    | none =>
      rw [collect_cons_of_none hparse] at h
      cases h
    | some v =>
      rw [collect_cons_of_some hparse] at h ⊢
      split at h
      · next hworkspace => rw [if_pos hworkspace, h]
      · next hworkspace =>
        rw [if_neg hworkspace]
        cases hrest : collect explain texts with
        | error fault =>
          rw [hrest] at h
          cases h
        | ok others =>
          rw [hrest] at h
          rw [ih hrest]
          exact h

/-- The limits are what the texts on the walk up resolve to, or the fault of the configuration. -/
theorem Limits.load_eq_mapError (explain : String → String) (t : FileTree) (dir : String) :
    Limits.load explain t (some dir) =
      (Manifest.collect explain (t.texts (ancestors dir)) >>= resolve).mapError
        fun fault => Issue.general (.configuration fault) := by
  rw [← Manifest.load_eq, Limits.load]
  generalize Manifest.load explain t dir >>= resolve = outcome
  cases outcome with
  | ok limits => rfl
  | error fault => rfl

/-- The limits for a directory are a function of the texts on the walk up. -/
theorem Limits.load_eq_of_texts_eq {t t' : FileTree} {dir dir' : String}
    (h : t.texts (ancestors dir) = t'.texts (ancestors dir')) :
    Limits.load explain t (some dir) = Limits.load explain t' (some dir') := by
  rw [load_eq_mapError, load_eq_mapError, h]

/-- Limits that are found do not depend on what the parser would say about other texts. -/
theorem Limits.load_eq_ok_of_explain {explain' : String → String} {t : FileTree} {dir : String}
    {limits : Limits} (h : Limits.load explain t (some dir) = .ok limits) :
    Limits.load explain' t (some dir) = .ok limits := by
  rw [load_eq_mapError, mapError_eq_ok_iff, bind_eq_ok_iff] at h ⊢
  obtain ⟨ms, hms, hlimits⟩ := h
  exact ⟨ms, Manifest.collect_eq_ok_of_explain hms, hlimits⟩

/-- A directory whose manifest holds no text has the limits of the directory above it. -/
theorem Limits.load_eq_load_parent {t : FileTree} {dir parent : String} {above : List String}
    (hdir : ancestors dir = dir :: parent :: above)
    (hnone : t.text? (inDirectory dir manifestName) = none) :
    Limits.load explain t (some dir) = Limits.load explain t (some parent) := by
  apply load_eq_of_texts_eq
  rw [ancestors_of_ancestors_eq_cons hdir, hdir, texts_cons_of_none hnone]

/-! ## A text that is no manifest -/

/-- A key without a value. -/
def loneKey : String := "count-limit"

/-- What the parser of manifests says about it. -/
def explainLoneKey (_ : String) : String :=
  "TOML parse error at line 1, column 12\n  |\n1 | count-limit\n  |            ^\n"
    ++ "expected `.`, `=`\n"

end Variadic
