import Mathlib.Data.List.Forall2
import Variadic.Proofs.Manifests
import Variadic.Proofs.Outcomes

/-!
# Whose package metadata counts

Package metadata is taken from the nearest manifest that holds a text. As long as this is the
manifest of the directory itself, nothing under `package` in the manifests above it matters. A
directory whose own manifest is missing, a directory or no text hands the question to the directory
above it, and the package metadata of a crate further up decides.
-/

namespace Variadic

open FileTree

variable {explain : String → String}

/-! ## Manifests that differ under `package` -/

/-- Two values that hold the same under every key but `package`. -/
def SameOutsidePackage (v w : Toml.Value) : Prop :=
  ∀ key, key ≠ "package" → v.get? key = w.get? key

/-- Two texts that are the same, or manifests that hold the same outside `package`. -/
def SimilarTexts (text text' : String) : Prop :=
  text = text' ∨
    ∃ v w, Toml.parse? text = some v ∧ Toml.parse? text' = some w ∧ SameOutsidePackage v w

/-- What two trees may hold at one path: the same, or similar manifests. -/
def SimilarFiles (file file' : Option File) : Prop :=
  file = file' ∨
    ∃ text text', file = some (.text text) ∧ file' = some (.text text') ∧ SimilarTexts text text'

/-- Two trees that differ at most in what stands under `package` in well-formed manifests of the
directories above a directory. -/
structure AgreeAbove (dir : String) (t t' : FileTree) : Prop where
  own : t.file? (inDirectory dir manifestName) = t'.file? (inDirectory dir manifestName)
  above : ∀ path ∈ (ancestors dir).tail,
    SimilarFiles (t.file? (inDirectory path manifestName))
      (t'.file? (inDirectory path manifestName))

/-- Two manifests at one path that hold the same outside `package`. -/
structure Manifest.Similar (m m' : Manifest) : Prop where
  path : m.path = m'.path
  content : SameOutsidePackage m.content m'.content

/-- Similar texts are no manifest only if they are the same, and are otherwise manifests that hold
the same outside `package`. -/
theorem SimilarTexts.parse? {text text' : String} (h : SimilarTexts text text') :
    (text = text' ∧ Toml.parse? text = none) ∨
      ∃ v w, Toml.parse? text = some v ∧ Toml.parse? text' = some w ∧ SameOutsidePackage v w := by
  rcases h with rfl | h
  · cases hparse : Toml.parse? text with
    | none => exact Or.inl ⟨rfl, rfl⟩
    | some v => exact Or.inr ⟨v, v, rfl, rfl, fun _ _ => rfl⟩
  · exact Or.inr h

/-- What declares a workspace does not stand under `package`. -/
theorem Manifest.Similar.declaresWorkspace_eq {m m' : Manifest} (h : m.Similar m') :
    m.declaresWorkspace = m'.declaresWorkspace := by
  unfold declaresWorkspace
  rw [h.content "workspace" (by decide)]

/-- Similar manifests have the same settings under any key but `package`. -/
theorem Manifest.Similar.settings?_eq {m m' : Manifest} (h : m.Similar m') {area : String}
    (harea : area ≠ "package") : m.settings? area = m'.settings? area := by
  unfold settings?
  rw [h.content area harea]

/-! ## Reading similar texts -/

/-- Reading similar texts fails at the same manifest or gives similar manifests. -/
theorem Manifest.collect_similar {texts texts' : List (String × String)}
    (h : List.Forall₂ (fun a b => a.1 = b.1 ∧ SimilarTexts a.2 b.2) texts texts') :
    SameOutcome (List.Forall₂ Similar) (collect explain texts) (collect explain texts') := by
  induction h with
  | nil => exact .ok .nil
  | @cons a b texts texts' hab _ ih =>
    obtain ⟨path, text⟩ := a
    obtain ⟨path', text'⟩ := b
    obtain ⟨rfl, htext⟩ : path = path' ∧ SimilarTexts text text' := hab
    rcases htext.parse? with ⟨rfl, hnone⟩ | ⟨v, w, hv, hw, hsame⟩
    · rw [collect_cons_of_none hnone, collect_cons_of_none hnone]
      exact .error _
    · have hm : Similar ⟨path, v⟩ ⟨path, w⟩ := ⟨rfl, hsame⟩
      rw [collect_cons_of_some hv, collect_cons_of_some hw, hm.declaresWorkspace_eq]
      by_cases hworkspace : declaresWorkspace ⟨path, w⟩ = true
      · rw [if_pos hworkspace, if_pos hworkspace]
        exact .ok (.cons hm .nil)
      · rw [if_neg hworkspace, if_neg hworkspace]
        exact ih.bind fun ms ms' hms => .ok (.cons hm hms)

/-- The manifests behind the first are looked at for their workspace settings only. -/
theorem Limits.resolve_cons_similar {m : Manifest} {ms ms' : List Manifest}
    (h : List.Forall₂ Manifest.Similar ms ms') : resolve (m :: ms) = resolve (m :: ms') := by
  have hworkspaces :
      ms.filterMap (fun m => (m.settings? "workspace").map (m.path, ·)) =
        ms'.filterMap fun m => (m.settings? "workspace").map (m.path, ·) := by
    induction h with
    | nil => rfl
    | cons hm _ ih =>
      rw [List.filterMap_cons, List.filterMap_cons, hm.settings?_eq (by decide), hm.path, ih]
  have htables : tables (m :: ms) = tables (m :: ms') := by
    unfold tables
    rw [List.filterMap_cons, List.filterMap_cons, hworkspaces]
    rfl
  unfold resolve
  rw [htables]

/-! ## Trees that agree -/

theorem SimilarFiles.text? {file file' : Option File} (h : SimilarFiles file file') :
    (file.bind File.text? = none ∧ file'.bind File.text? = none) ∨
      ∃ text text', file.bind File.text? = some text ∧ file'.bind File.text? = some text' ∧
        SimilarTexts text text' := by
  rcases h with rfl | ⟨text, text', rfl, rfl, h⟩
  · cases htext : file.bind File.text? with
    | none => exact Or.inl ⟨rfl, rfl⟩
    | some text => exact Or.inr ⟨text, text, rfl, rfl, Or.inl rfl⟩
  · exact Or.inr ⟨text, text', rfl, rfl, h⟩

/-- Trees that hold similar files on the walk up have similar texts there. -/
theorem texts_similar {t t' : FileTree} {dirs : List String}
    (h : ∀ path ∈ dirs, SimilarFiles (t.file? (inDirectory path manifestName))
      (t'.file? (inDirectory path manifestName))) :
    List.Forall₂ (fun a b => a.1 = b.1 ∧ SimilarTexts a.2 b.2) (t.texts dirs) (t'.texts dirs) := by
  induction dirs with
  | nil => exact .nil
  | cons dir dirs ih =>
    have hrest := ih fun path hpath => h path (List.mem_cons_of_mem _ hpath)
    rcases (h dir List.mem_cons_self).text? with ⟨hnone, hnone'⟩ | ⟨text, text', hs, hs', hsimilar⟩
    · rw [texts_cons_of_none hnone, texts_cons_of_none hnone']
      exact hrest
    · rw [texts_cons_of_some hs, texts_cons_of_some hs']
      exact .cons ⟨rfl, hsimilar⟩ hrest

/-- With a manifest of its own, a directory has the same limits in trees that agree. -/
theorem Limits.load_eq_of_agreeAbove {dir : String} {t t' : FileTree} (h : AgreeAbove dir t t')
    (hown : (t.text? (inDirectory dir manifestName)).isSome) :
    Limits.load explain t (some dir) = Limits.load explain t' (some dir) := by
  obtain ⟨text, htext⟩ := Option.isSome_iff_exists.mp hown
  have htext' : t'.text? (inDirectory dir manifestName) = some text := by
    rw [← htext]
    unfold FileTree.text?
    rw [h.own]
  -- the walk starts at the directory's own manifest, which is the same in both trees
  obtain ⟨above, habove⟩ := exists_ancestors_eq_cons dir
  have hrest := h.above
  rw [habove] at hrest
  rw [load_eq_mapError, load_eq_mapError, habove, texts_cons_of_some htext,
    texts_cons_of_some htext']
  congr 1
  cases hparse : Toml.parse? text with
  | none => rw [Manifest.collect_cons_of_none hparse, Manifest.collect_cons_of_none hparse]
  | some v =>
    rw [Manifest.collect_cons_of_some hparse, Manifest.collect_cons_of_some hparse]
    split
    · rfl
    · -- what differs stands behind the head of the list, where only workspaces are looked at
      rw [bind_assoc, bind_assoc]
      apply (Manifest.collect_similar (texts_similar hrest)).bind_eq
      intro ms ms' hms
      exact resolve_cons_similar hms

/-! ## A manifest at the root alone -/

/-- The tree of a manifest and nothing else. -/
def rootManifest (text : String) : FileTree :=
  directory [(manifestName, file (.text text))]

/-- The manifest at the root is found from every path that leads nowhere else. -/
theorem file?_rootManifest_of_isHere (text : String) {dir : String} (h : IsHere dir) :
    (rootManifest text).file? (inDirectory dir manifestName) = some (.text text) := by
  rw [file?_manifest_of_isHere _ h]
  rfl

/-- No name leads through a tree that has no directories in it. -/
theorem follow?_rootManifest {text : String} {front : List String}
    (h : ¬ ∀ piece ∈ front, piece = "" ∨ piece = ".") :
    follow? [] (rootManifest text) (front ++ [manifestName]) = none := by
  induction front with
  | nil => simp at h
  | cons piece front ih =>
    by_cases hstays : piece = "" ∨ piece = "."
    · rw [List.cons_append, rootManifest, follow?_cons_of_stays hstays]
      apply ih
      intro hfront
      apply h
      intro other hother
      rcases List.mem_cons.mp hother with rfl | hother
      · exact hstays
      · exact hfront other hother
    · rw [List.cons_append, follow?.eq_def]
      show (if _ then _ else _) = _
      rw [if_neg hstays]
      by_cases hup : piece = ".."
      · rw [if_pos hup]
      · rw [if_neg hup]
        by_cases hname : piece = manifestName
        · -- the manifest itself is no directory, and there is a piece left to follow
          rw [hname]
          cases front <;> rfl
        · have hlookup : List.lookup piece [(manifestName, file (.text text))] = none := by
            rw [List.lookup_eq_none_iff]
            simpa using hname
          rw [hlookup]

/-- The manifest at the root is found from no other path. -/
theorem file?_rootManifest_of_not_isHere (text : String) {dir : String} (h : ¬ IsHere dir) :
    (rootManifest text).file? (inDirectory dir manifestName) = none := by
  obtain ⟨front, hpieces, hfront⟩ := exists_pieces_manifest dir
  rw [hfront] at h
  unfold FileTree.file?
  rw [hpieces, follow?_rootManifest h]

/-- A manifest with a package ceiling. -/
def loweringManifest : String :=
  "[package]\nname = \"root\"\n[package.metadata.va-iter]\neach-limit = 8\n"

/-- The same manifest without it. -/
def plainManifest : String :=
  "[package]\nname = \"root\"\n"

/-- The keys of a document. -/
def Toml.keys? (text : String) : Option (List String) :=
  (parse? text).bind fun v => v.asTable?.map fun table => table.map (·.1)

theorem Toml.get?_eq_none_of_keys? {text : String} {keys : List String}
    (h : keys? text = some keys) :
    ∃ v, parse? text = some v ∧ ∀ key, key ∉ keys → v.get? key = none := by
  obtain ⟨v, hv, hkeys⟩ := Option.bind_eq_some_iff.mp h
  obtain ⟨table, htable, rfl⟩ := Option.map_eq_some_iff.mp hkeys
  refine ⟨v, hv, fun key hkey => ?_⟩
  unfold Toml.Value.get? Toml.Table.get?
  rw [htable, Option.bind_some, List.lookup_eq_none_iff]
  intro entry hentry
  rw [bne_iff_ne]
  rintro rfl
  exact hkey (List.mem_map_of_mem hentry)

/-- Documents of package settings differ nowhere else. -/
theorem similarTexts_of_keys? {text text' : String} (h : Toml.keys? text = some ["package"])
    (h' : Toml.keys? text' = some ["package"]) : SimilarTexts text text' := by
  obtain ⟨v, hv, hnone⟩ := Toml.get?_eq_none_of_keys? h
  obtain ⟨w, hw, hnone'⟩ := Toml.get?_eq_none_of_keys? h'
  refine Or.inr ⟨v, w, hv, hw, fun key hkey => ?_⟩
  rw [hnone key (by simpa using hkey), hnone' key (by simpa using hkey)]

/-- The two manifests differ under `package` only. -/
theorem similarTexts_lowering_plain : SimilarTexts loweringManifest plainManifest :=
  similarTexts_of_keys? (by decide +kernel) (by decide +kernel)

/-- What a manifest at the root sets there, however the root is spelled and whatever the parser would
say about other texts. -/
theorem load_rootManifest_eq_ok {text : String} {limits : Limits}
    (h : ∀ root ∈ ["", ".", "/"],
      (Limits.load id (rootManifest text) (some root)).toOption = some limits) :
    ∀ root ∈ ["", ".", "/"], Limits.load explain (rootManifest text) (some root) = .ok limits := by
  intro root hroot
  exact Limits.load_eq_ok_of_explain (eq_ok_of_toOption (h root hroot))

theorem load_lowering : ∀ root ∈ ["", ".", "/"],
    Limits.load explain (rootManifest loweringManifest) (some root) = .ok ⟨64, 8⟩ :=
  load_rootManifest_eq_ok (by decide +kernel)

theorem load_plain : ∀ root ∈ ["", ".", "/"],
    Limits.load explain (rootManifest plainManifest) (some root) = .ok ⟨64, 256⟩ :=
  load_rootManifest_eq_ok (by decide +kernel)

/-- With a manifest at the root alone, the limits of any directory are those at the root. -/
theorem Limits.load_rootManifest {dir : String} (h : ¬ IsHere dir) :
    ∃ root ∈ ["", ".", "/"], ∀ text,
      Limits.load explain (rootManifest text) (some dir) =
        Limits.load explain (rootManifest text) (some root) := by
  obtain ⟨above, habove⟩ := exists_ancestors_eq_cons dir
  -- on the paths above, each of which has the rest of them above it
  induction above generalizing dir with
  | nil =>
    obtain ⟨parent, above, hparent⟩ := exists_parent_of_not_isHere h
    rw [habove] at hparent
    simp at hparent
  | cons parent above ih =>
    have hstep : ∀ text, Limits.load explain (rootManifest text) (some dir) =
        Limits.load explain (rootManifest text) (some parent) := by
      intro text
      apply load_eq_load_parent habove
      unfold FileTree.text?
      rw [file?_rootManifest_of_not_isHere text h]
      rfl
    by_cases hparent : IsHere parent
    · refine ⟨parent, ?_, hstep⟩
      have hmem : parent ∈ ancestors dir := by
        rw [habove]
        simp
      rcases mem_ancestors hmem with rfl | rfl | hstart
      · exact absurd hparent h
      · rcases top_eq_or dir with htop | htop <;> simp [htop]
      · rw [eq_point_of_mem_starts hstart hparent]
        simp
    · obtain ⟨root, hroot, hload⟩ := ih hparent (ancestors_of_ancestors_eq_cons habove)
      exact ⟨root, hroot, fun text => (hstep text).trans (hload text)⟩

/-- Seen from below the root, trees with similar manifests at the root agree. -/
theorem agreeAbove_rootManifest {dir : String} (h : ¬ IsHere dir) {text text' : String}
    (htexts : SimilarTexts text text') :
    AgreeAbove dir (rootManifest text) (rootManifest text') where
  own := by
    rw [file?_rootManifest_of_not_isHere text h, file?_rootManifest_of_not_isHere text' h]
  above := by
    intro path _
    by_cases hpath : IsHere path
    · rw [file?_rootManifest_of_isHere text hpath, file?_rootManifest_of_isHere text' hpath]
      exact Or.inr ⟨text, text', rfl, rfl, htexts⟩
    · rw [file?_rootManifest_of_not_isHere text hpath, file?_rootManifest_of_not_isHere text' hpath]
      exact Or.inl rfl

/-! ## The manifest that decides -/

/-- A path that leads nowhere else has the manifest of the root at every step of the walk up. -/
theorem Limits.load_eq_of_isHere {dir : String} {t t' : FileTree} (hdir : IsHere dir)
    (h : AgreeAbove dir t t') :
    Limits.load explain t (some dir) = Limits.load explain t' (some dir) := by
  have hfile : ∀ path ∈ ancestors dir,
      t.file? (inDirectory path manifestName) = t'.file? (inDirectory path manifestName) := by
    intro path hpath
    have hown := h.own
    rw [file?_manifest_of_isHere t hdir, file?_manifest_of_isHere t' hdir] at hown
    have hhere := hdir.of_mem_ancestors hpath
    rw [file?_manifest_of_isHere t hhere, file?_manifest_of_isHere t' hhere, hown]
  apply load_eq_of_texts_eq
  unfold texts FileTree.text?
  apply List.filterMap_congr
  intro path hpath
  rw [hfile path hpath]

/-- **The nearest package metadata decides.** With a manifest of its own that holds a text, a
directory has the same limits whatever stands under `package` in the manifests above it. Without
one, it has the limits of the directory above it, package metadata included. So what stands there
never matters, whether or not there is such a manifest, only if the path leads nowhere else. -/
theorem Limits.load_heeds_nearest_package (explain : String → String) (dir : String) :
    (∀ t t', AgreeAbove dir t t' → (t.text? (inDirectory dir manifestName)).isSome →
      Limits.load explain t (some dir) = Limits.load explain t' (some dir)) ∧
    (∀ t parent above, ancestors dir = dir :: parent :: above →
      t.text? (inDirectory dir manifestName) = none →
      Limits.load explain t (some dir) = Limits.load explain t (some parent)) ∧
    (IsHere dir ↔
      ∀ t t', AgreeAbove dir t t' →
        Limits.load explain t (some dir) = Limits.load explain t' (some dir)) := by
  refine ⟨fun t t' h hown => load_eq_of_agreeAbove h hown,
    fun t parent above hdir hnone => load_eq_load_parent hdir hnone, ?_, ?_⟩
  · intro hdir t t' h
    exact load_eq_of_isHere hdir h
  · intro hall
    by_contra hdir
    -- a manifest at the root alone lowers the ceiling of every directory below
    obtain ⟨root, hroot, hload⟩ := load_rootManifest hdir
    have heq := hall _ _ (agreeAbove_rootManifest hdir similarTexts_lowering_plain)
    rw [hload, hload, load_lowering root hroot, load_plain root hroot] at heq
    simp at heq

/-- A crate in `app`, with whatever it holds, below a manifest. -/
def crateBelow (text : String) (crate : List (String × FileTree)) : FileTree :=
  directory [(manifestName, file (.text text)), ("app", directory crate)]

theorem file?_crateBelow (text : String) (crate : List (String × FileTree)) :
    (crateBelow text crate).file? (inDirectory "app" manifestName) =
      (directory crate).file? manifestName := by
  have hstep : ∀ above, follow? above (directory crate) [manifestName] =
      crate.lookup manifestName := by
    intro above
    rw [follow?.eq_def]
    show (if _ then _ else _) = _
    rw [if_neg (by decide)]
    show (if _ then _ else _) = _
    rw [if_neg (by decide)]
    cases crate.lookup manifestName <;> rfl
  have happ : follow? [] (crateBelow text crate) ["app", manifestName] =
      follow? [crateBelow text crate] (directory crate) [manifestName] := rfl
  unfold FileTree.file?
  rw [show pieces (inDirectory "app" manifestName) = ["app", manifestName] from rfl,
    show pieces manifestName = [manifestName] from rfl, happ, hstep, hstep]

/-- What the crate above holds under `package` is all that the two trees differ in. -/
theorem agreeAbove_crateBelow (crate : List (String × FileTree)) :
    AgreeAbove "app" (crateBelow loweringManifest crate) (crateBelow plainManifest crate) where
  own := by
    rw [file?_crateBelow, file?_crateBelow]
  above := by
    intro path hpath
    rw [show (ancestors "app").tail = [""] from rfl, List.mem_singleton] at hpath
    rw [hpath]
    exact Or.inr ⟨loweringManifest, plainManifest, rfl, rfl, similarTexts_lowering_plain⟩

/-- The nearest package metadata decides, for a crate that has a manifest and for one that has
none. -/
theorem Limits.load_heeds_nearest_package_app :
    let load := Limits.load explainLoneKey
    let crate := [(manifestName, file (.text plainManifest))]
    load (crateBelow loweringManifest crate) (some "app") =
        load (crateBelow plainManifest crate) (some "app") ∧
      load (crateBelow loweringManifest []) (some "app") =
        load (crateBelow loweringManifest []) (some "") :=
  ⟨(load_heeds_nearest_package _ "app").1 _ _ (agreeAbove_crateBelow _) (by decide +kernel),
    (load_heeds_nearest_package _ "app").2.1 _ "" [] (by decide +kernel) (by decide +kernel)⟩

/-- Crates without a readable manifest: it is missing, a directory, or no text. -/
def unreadableCrates : List (List (String × FileTree)) :=
  [[], [(manifestName, directory [])], [(manifestName, file (.binary ⟨#[0xff]⟩))]]

/-- A crate without a readable manifest has the limits of the manifest above it. -/
theorem Limits.load_crateBelow (text : String) {crate : List (String × FileTree)}
    (h : crate ∈ unreadableCrates) :
    Limits.load explain (crateBelow text crate) (some "app") =
      Limits.load explain (rootManifest text) (some "") := by
  have htexts : (crateBelow text crate).texts (ancestors "app") = [(manifestName, text)] := by
    simp only [unreadableCrates, List.mem_cons, List.not_mem_nil, or_false] at h
    rcases h with rfl | rfl | rfl <;> rfl
  apply load_eq_of_texts_eq
  rw [htexts]
  rfl

/-- Package metadata of the crate above counts for a crate without a readable manifest. -/
theorem Limits.load_package_of_crate_above :
    let load := Limits.load explainLoneKey
    (∀ crate ∈ unreadableCrates,
      AgreeAbove "app" (crateBelow loweringManifest crate) (crateBelow plainManifest crate)) ∧
    (∀ crate ∈ unreadableCrates,
      load (crateBelow loweringManifest crate) (some "app") = .ok ⟨64, 8⟩) ∧
    (∀ crate ∈ unreadableCrates,
      load (crateBelow plainManifest crate) (some "app") = .ok ⟨64, 256⟩) := by
  refine ⟨fun crate _ => agreeAbove_crateBelow crate, fun crate hcrate => ?_,
    fun crate hcrate => ?_⟩
  · exact (load_crateBelow loweringManifest hcrate).trans (load_lowering "" (by simp))
  · exact (load_crateBelow plainManifest hcrate).trans (load_plain "" (by simp))

end Variadic
