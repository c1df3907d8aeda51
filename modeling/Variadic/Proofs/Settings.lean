import Mathlib.Data.List.Basic
import Mathlib.Data.List.Forall2
import Variadic.Proofs.Manifests
import Variadic.Proofs.Outcomes

/-!
# Which setting decides a ceiling

The manifests in scope of a directory are the texts found on the walk up, cut behind the first that
declares a workspace. `Limits.load` fails at the first of them that is no manifest. Otherwise every
ceiling goes by one setting, found in at most two places: among the package metadata of the first
manifest, and, if these do not have the key, among the workspace metadata of the last
(`Limits.Decides`). What `Limits.load` makes of these two settings is said by `Limits.Sets`, and what
it says about a fault by `Limits.message_malformed` and `Limits.message_unusable`.
-/

namespace Variadic

open FileTree

variable {explain : String → String}

/-! ## Manifests in scope -/

/-- Whether a text is a manifest with the top-level key of a workspace. -/
def Toml.declaresWorkspace (text : String) : Bool :=
  (parse? text).any fun v => (v.get? "workspace").isSome

/-- The texts up to the first that declares a workspace, with this one. -/
def upToWorkspace : List (String × String) → List (String × String)
  | [] => []
  | (path, text) :: texts =>
    if Toml.declaresWorkspace text then [(path, text)] else (path, text) :: upToWorkspace texts

/-- The manifests that count for a directory, nearest first: each with its path and its text. -/
def FileTree.scope (t : FileTree) (dir : String) : List (String × String) :=
  upToWorkspace (t.texts (ancestors dir))

namespace Manifest

/-- The texts read as manifests, one by one. -/
def Reads (texts : List (String × String)) (ms : List Manifest) : Prop :=
  List.Forall₂ (fun text m => m.path = text.1 ∧ Toml.parse? text.2 = some m.content) texts ms

/-- Texts that all parse are read as manifests. -/
theorem exists_reads {texts : List (String × String)}
    (h : ∀ text ∈ texts, (Toml.parse? text.2).isSome) : ∃ ms, Reads texts ms := by
  induction texts with
  | nil => exact ⟨[], .nil⟩
  | cons text texts ih =>
    obtain ⟨v, hv⟩ := Option.isSome_iff_exists.mp (h text List.mem_cons_self)
    obtain ⟨ms, hms⟩ := ih fun other hother => h other (List.mem_cons_of_mem _ hother)
    exact ⟨⟨text.1, v⟩ :: ms, .cons ⟨rfl, hv⟩ hms⟩

theorem declaresWorkspace_eq {m : Manifest} {text : String}
    (h : Toml.parse? text = some m.content) :
    m.declaresWorkspace = Toml.declaresWorkspace text := by
  unfold declaresWorkspace Toml.declaresWorkspace
  rw [h, Option.any_some]

/-- Reading fails at the first text in scope that is no manifest. -/
theorem collect_of_malformed {texts front back : List (String × String)} {path text : String}
    (h : upToWorkspace texts = front ++ (path, text) :: back)
    (hfront : ∀ other ∈ front, (Toml.parse? other.2).isSome) (hnone : Toml.parse? text = none) :
    collect explain texts = .error (.malformed path (explain text)) := by
  induction texts generalizing front with
  | nil => simp [upToWorkspace] at h
  | cons nearest texts ih =>
    obtain ⟨path', text'⟩ := nearest
    rw [upToWorkspace] at h
    cases front with
    | nil =>
      have hfirst : (path', text') = (path, text) := by
        split at h
        · exact (List.cons.inj h).1
        · exact (List.cons.inj h).1
      obtain ⟨rfl, rfl⟩ := Prod.mk.inj hfirst
      exact collect_cons_of_none hnone
    | cons other front =>
      have hnot : ¬ Toml.declaresWorkspace text' = true := by
        intro hdeclares
        -- nothing would be in scope behind it
        rw [if_pos hdeclares] at h
        exact List.append_ne_nil_of_right_ne_nil front (List.cons_ne_nil _ back)
          (List.cons.inj h).2.symm
      rw [if_neg hnot] at h
      obtain ⟨rfl, hrest⟩ := List.cons.inj h
      obtain ⟨v, hv⟩ := Option.isSome_iff_exists.mp (hfront _ List.mem_cons_self)
      have hm : ¬ declaresWorkspace ⟨path', v⟩ = true := by
        rw [declaresWorkspace_eq (m := ⟨path', v⟩) hv]
        exact hnot
      rw [collect_cons_of_some hv, if_neg hm,
        ih hrest fun text htext => hfront text (List.mem_cons_of_mem _ htext)]
      rfl

/-- If all texts in scope are manifests, these are read, and only the last can declare a
workspace. -/
theorem collect_of_reads {texts : List (String × String)} {ms : List Manifest}
    (h : Reads (upToWorkspace texts) ms) :
    collect explain texts = .ok ms ∧ ∀ m ∈ ms.dropLast, m.declaresWorkspace = false := by
  induction texts generalizing ms with
  | nil =>
    obtain rfl : ms = [] := List.forall₂_nil_left_iff.mp h
    exact ⟨rfl, fun m hm => by cases hm⟩
  | cons nearest texts ih =>
    obtain ⟨path, text⟩ := nearest
    rw [upToWorkspace] at h
    by_cases hdeclares : Toml.declaresWorkspace text = true
    · rw [if_pos hdeclares] at h
      obtain ⟨m, others, ⟨rfl, hv⟩, hothers, rfl⟩ := List.forall₂_cons_left_iff.mp h
      obtain rfl : others = [] := List.forall₂_nil_left_iff.mp hothers
      refine ⟨?_, fun m hm => by cases hm⟩
      rw [collect_cons_of_some hv]
      exact if_pos (by rw [declaresWorkspace_eq hv]; exact hdeclares)
    · rw [if_neg hdeclares] at h
      obtain ⟨m, others, ⟨rfl, hv⟩, hothers, rfl⟩ := List.forall₂_cons_left_iff.mp h
      obtain ⟨hcollect, hlast⟩ := ih hothers
      have hm : ¬ m.declaresWorkspace = true := by
        rw [declaresWorkspace_eq hv]
        exact hdeclares
      refine ⟨?_, fun other hother => ?_⟩
      · rw [collect_cons_of_some hv, hcollect]
        exact if_neg hm
      · cases others with
        | nil => cases hother
        | cons next others =>
          rcases List.mem_cons.mp hother with rfl | hother
          · exact Bool.eq_false_iff.mpr hm
          · exact hlast other hother

/-! ## Settings -/

/-- The manifest has the key, with the value, in the table of these settings under `area`. -/
def HasSetting (m : Manifest) (area key : String) (v : Toml.Value) : Prop :=
  ∃ (top metadata : Toml.Value) (table : Toml.Table), m.content.get? area = some top ∧
    top.get? "metadata" = some metadata ∧ metadata.get? "va-iter" = some (.table table) ∧
      table.get? key = some v

/-- The settings under a key are a table, two keys further in. -/
theorem settings?_eq_some_iff {m : Manifest} {area : String} {table : Toml.Table} :
    m.settings? area = some table ↔
      ∃ top metadata : Toml.Value, m.content.get? area = some top ∧
        top.get? "metadata" = some metadata ∧ metadata.get? "va-iter" = some (.table table) := by
  unfold settings?
  simp only [Option.bind_eq_bind, Option.bind_eq_some_iff]
  constructor
  · rintro ⟨top, htop, metadata, hmetadata, value, hvalue, htable⟩
    cases value <;> cases htable
    exact ⟨top, metadata, htop, hmetadata, hvalue⟩
  · rintro ⟨top, metadata, htop, hmetadata, hvalue⟩
    exact ⟨top, htop, metadata, hmetadata, .table table, hvalue, rfl⟩

/-- A manifest that declares no workspace has no settings for one. -/
theorem settings?_eq_none_of_not_declaresWorkspace {m : Manifest}
    (h : m.declaresWorkspace = false) : m.settings? "workspace" = none := by
  have hnone : m.content.get? "workspace" = none := by
    unfold declaresWorkspace at h
    exact Option.isNone_iff_eq_none.mp (Option.isSome_eq_false_iff.mp h)
  unfold settings?
  rw [hnone]
  rfl

/-- The value of a key among the settings under `area`, with the path of the manifest. -/
def setting? (m : Manifest) (area key : String) : Option (String × Toml.Value) :=
  ((m.settings? area).bind (·.get? key)).map (m.path, ·)

theorem setting?_eq_some_iff {m : Manifest} {area key path : String} {v : Toml.Value} :
    m.setting? area key = some (path, v) ↔ m.path = path ∧ m.HasSetting area key v := by
  unfold setting? HasSetting
  simp only [Option.map_eq_some_iff, Option.bind_eq_some_iff, settings?_eq_some_iff,
    Prod.mk.injEq]
  constructor
  · rintro ⟨_, ⟨table, ⟨top, metadata, htop, hmetadata, htable⟩, hv⟩, rfl, rfl⟩
    exact ⟨rfl, top, metadata, table, htop, hmetadata, htable, hv⟩
  · rintro ⟨rfl, top, metadata, table, htop, hmetadata, htable, hv⟩
    exact ⟨v, ⟨table, ⟨top, metadata, htop, hmetadata, htable⟩, hv⟩, rfl, rfl⟩

end Manifest

namespace Limits

open Manifest

/-! ## The setting that decides -/

/-- The setting of `key` that counts, and the path of the manifest it stands in. -/
inductive Decides (ms : List Manifest) (key : String) : String → Toml.Value → Prop
  | package {m : Manifest} {v : Toml.Value} (hm : ms.head? = some m)
      (hv : m.HasSetting "package" key v) : Decides ms key m.path v
  | workspace {m : Manifest} {v : Toml.Value}
      (hpackage : ∀ first w, ms.head? = some first → ¬ first.HasSetting "package" key w)
      (hm : ms.getLast? = some m) (hv : m.HasSetting "workspace" key v) : Decides ms key m.path v

/-- What a ceiling is set to, or why it cannot be set. -/
inductive Sets (ms : List Manifest) (c : Ceiling) : Except ConfigurationFault Nat → Prop
  | default (h : ∀ path v, ¬ Decides ms c.key path v) :
      Sets ms c (.ok (get ⟨64, 256⟩ c))
  | value {path : String} {n : Nat} (h : Decides ms c.key path (.integer n))
      (hn : 1 ≤ n ∧ n ≤ 4096) : Sets ms c (.ok n)
  | unusable {path : String} {v : Toml.Value} (h : Decides ms c.key path v)
      (hv : ∀ n : Nat, v = .integer n → ¬ (1 ≤ n ∧ n ≤ 4096)) :
      Sets ms c (.error (.unusable c.key path v))

theorem lookup?_append (ts us : List (String × Toml.Table)) (key : String) :
    lookup? (ts ++ us) key = (lookup? ts key).or (lookup? us key) :=
  List.findSome?_append

theorem lookup?_settings (m : Option Manifest) (area key : String) :
    lookup? (m.bind fun m => (m.settings? area).map (m.path, ·)).toList key =
      m.bind (·.setting? area key) := by
  cases m with
  | none => rfl
  | some m =>
    show lookup? ((m.settings? area).map (m.path, ·)).toList key = m.setting? area key
    unfold setting? lookup?
    cases m.settings? area with
    | none => rfl
    | some table =>
      rw [Option.map_some, Option.toList_some, List.findSome?_singleton]
      rfl

/-- If no manifest but the last declares a workspace, its are the only workspace settings. -/
theorem tables_eq {ms : List Manifest} (h : ∀ m ∈ ms.dropLast, m.declaresWorkspace = false) :
    tables ms =
      (ms.head?.bind fun m => (m.settings? "package").map (m.path, ·)).toList ++
        (ms.getLast?.bind fun m => (m.settings? "workspace").map (m.path, ·)).toList := by
  unfold tables
  rcases List.eq_nil_or_concat' ms with rfl | ⟨front, last, rfl⟩
  · rfl
  · rw [List.dropLast_concat] at h
    -- the settings of a workspace are under the key that declares it
    have hfront : front.filterMap (fun m => (m.settings? "workspace").map (m.path, ·)) = [] := by
      rw [List.filterMap_eq_nil_iff]
      intro m hm
      rw [settings?_eq_none_of_not_declaresWorkspace (h m hm)]
      rfl
    rw [List.filterMap_append, hfront, List.getLast?_concat, Option.bind_some, List.nil_append,
      List.filterMap_cons]
    cases (last.settings? "workspace").map (last.path, ·) <;> rfl

/-- The first value that is found is that of the deciding setting. -/
theorem lookup?_tables_eq_some_iff {ms : List Manifest}
    (h : ∀ m ∈ ms.dropLast, m.declaresWorkspace = false) {key path : String} {v : Toml.Value} :
    lookup? (tables ms) key = some (path, v) ↔ Decides ms key path v := by
  rw [tables_eq h, lookup?_append, lookup?_settings, lookup?_settings, Option.or_eq_some_iff]
  constructor
  · rintro (hpackage | ⟨hpackage, hworkspace⟩)
    · obtain ⟨m, hm, hsetting⟩ := Option.bind_eq_some_iff.mp hpackage
      obtain ⟨rfl, hv⟩ := setting?_eq_some_iff.mp hsetting
      exact .package hm hv
    · obtain ⟨m, hm, hsetting⟩ := Option.bind_eq_some_iff.mp hworkspace
      obtain ⟨rfl, hv⟩ := setting?_eq_some_iff.mp hsetting
      -- a package setting would have been found first
      refine .workspace (fun first w hfirst hw => ?_) hm hv
      rw [hfirst, Option.bind_some, setting?_eq_some_iff.mpr ⟨rfl, hw⟩] at hpackage
      cases hpackage
  · rintro (⟨hm, hv⟩ | ⟨hpackage, hm, hv⟩)
    · left
      rw [hm]
      exact setting?_eq_some_iff.mpr ⟨rfl, hv⟩
    · right
      refine ⟨?_, by rw [hm]; exact setting?_eq_some_iff.mpr ⟨rfl, hv⟩⟩
      rw [Option.bind_eq_none_iff]
      intro first hfirst
      rw [Option.eq_none_iff_forall_ne_some]
      rintro ⟨path, w⟩ hw
      exact hpackage first w hfirst (setting?_eq_some_iff.mp hw).2

/-! ## From the setting to the ceiling -/

/-- A ceiling can be set to the integers from 1 to 4096. -/
theorem ofValue?_eq_some_iff {v : Toml.Value} {n : Nat} :
    ofValue? v = some n ↔ v = .integer n ∧ 1 ≤ n ∧ n ≤ 4096 := by
  unfold ofValue?
  split
  · next k hk =>
    -- an integer that is no negative one
    obtain rfl : v = .integer k := by
      cases v <;> cases hk
      rfl
    simp only [Bool.and_eq_true, decide_eq_true_eq]
    constructor
    · intro h
      split at h
      · next hrange =>
        obtain rfl := Option.some.inj h
        exact ⟨rfl, hrange⟩
      · cases h
    · rintro ⟨hv, hrange⟩
      obtain rfl : k = n := Int.ofNat.inj (Toml.Value.integer.inj hv)
      exact if_pos hrange
  · next hnot =>
    constructor
    · intro h
      cases h
    · rintro ⟨rfl, -⟩
      exact absurd rfl (hnot n)

/-- The first setting of a key is turned into the ceiling, or refused. -/
theorem resolveCeiling_tables_eq_iff {ms : List Manifest}
    (h : ∀ m ∈ ms.dropLast, m.declaresWorkspace = false) {c : Ceiling}
    {r : Except ConfigurationFault Nat} :
    resolveCeiling (tables ms) c (get ⟨64, 256⟩ c) = r ↔ Sets ms c r := by
  unfold resolveCeiling
  constructor
  · rintro rfl
    split
    · next hnone =>
      refine .default fun path v hv => ?_
      rw [(lookup?_tables_eq_some_iff h).mpr hv] at hnone
      cases hnone
    · next path v hsome =>
      have hdecides := (lookup?_tables_eq_some_iff h).mp hsome
      split
      · next n hn =>
        obtain ⟨rfl, hrange⟩ := ofValue?_eq_some_iff.mp hn
        exact .value hdecides hrange
      · next hnone =>
        refine .unusable hdecides fun n hv hrange => ?_
        rw [ofValue?_eq_some_iff.mpr ⟨hv, hrange⟩] at hnone
        cases hnone
  · rintro (hnone | ⟨hdecides, hrange⟩ | ⟨hdecides, hv⟩)
    · have hlookup : lookup? (tables ms) c.key = none := by
        rw [Option.eq_none_iff_forall_ne_some]
        rintro ⟨path, v⟩ hsome
        exact hnone path v ((lookup?_tables_eq_some_iff h).mp hsome)
      rw [hlookup]
    · rw [(lookup?_tables_eq_some_iff h).mpr hdecides]
      dsimp only
      rw [ofValue?_eq_some_iff.mpr ⟨rfl, hrange⟩]
    · rw [(lookup?_tables_eq_some_iff h).mpr hdecides]
      dsimp only
      split
      · next n hn =>
        obtain ⟨hvn, hrange⟩ := ofValue?_eq_some_iff.mp hn
        exact absurd hrange (hv n hvn)
      · rfl

section Resolve

variable {ms : List Manifest} (h : ∀ m ∈ ms.dropLast, m.declaresWorkspace = false)

include h

/-- There are limits if both ceilings can be set. -/
theorem resolve_eq_ok_iff {limits : Limits} :
    resolve ms = .ok limits ↔
      Sets ms .count (.ok limits.count) ∧ Sets ms .each (.ok limits.each) := by
  rw [← resolveCeiling_tables_eq_iff h, ← resolveCeiling_tables_eq_iff h]
  unfold resolve
  simp only [bind_eq_ok_iff]
  constructor
  · rintro ⟨count, hcount, each, heach, hlimits⟩
    obtain rfl := Except.ok.inj hlimits
    exact ⟨hcount, heach⟩
  · rintro ⟨hcount, heach⟩
    exact ⟨_, hcount, _, heach, rfl⟩

/-- The counting ceiling is resolved first, so its fault is the one reported. -/
theorem resolve_eq_error_iff {fault : ConfigurationFault} :
    resolve ms = .error fault ↔
      Sets ms .count (.error fault) ∨
        (∃ n, Sets ms .count (.ok n)) ∧ Sets ms .each (.error fault) := by
  simp only [← resolveCeiling_tables_eq_iff h]
  unfold resolve
  simp only [bind_eq_error_iff]
  constructor
  · rintro (hcount | ⟨n, hcount, heach | ⟨_, _, hpure⟩⟩)
    · exact Or.inl hcount
    · exact Or.inr ⟨⟨n, hcount⟩, heach⟩
    · cases hpure
  · rintro (hcount | ⟨⟨n, hcount⟩, heach⟩)
    · exact Or.inl hcount
    · exact Or.inr ⟨n, hcount, Or.inl heach⟩

/-- What cannot be resolved is the value of a deciding setting. -/
theorem exists_decides_of_resolve_eq_error {fault : ConfigurationFault}
    (hfault : resolve ms = .error fault) :
    ∃ (c : Ceiling) (path : String) (v : Toml.Value),
      fault = .unusable c.key path v ∧ Decides ms c.key path v := by
  rcases (resolve_eq_error_iff h).mp hfault with hcount | ⟨-, heach⟩
  · cases hcount with
    | unusable hdecides => exact ⟨_, _, _, rfl, hdecides⟩
  · cases heach with
    | unusable hdecides => exact ⟨_, _, _, rfl, hdecides⟩

end Resolve

/-! ## Loading -/

/-- The message about a malformed manifest names it. -/
theorem message_malformed (path explanation : String) :
    (Issue.general (.configuration (.malformed path explanation))).message =
      "Invalid va-iter configuration: Failed to parse '" ++ path ++ "'.: " ++ explanation := by
  have hmessage : (Issue.general (.configuration (.malformed path explanation))).message =
      "Invalid va-iter configuration: " ++ ("Failed to parse '" ++ path ++ "'.: " ++ explanation) :=
    Issue.message_alone _
  have hfront : "Invalid va-iter configuration: Failed to parse '" =
      "Invalid va-iter configuration: " ++ "Failed to parse '" := by
    simp
  rw [hmessage, hfront]
  simp only [String.append_assoc]

/-- The message about an unusable value names its key, its manifest and the value. -/
theorem message_unusable (key path : String) (v : Toml.Value) :
    (Issue.general (.configuration (.unusable key path v))).message =
      "Invalid va-iter configuration: '" ++ key ++ "' in '" ++ path ++
        "' must be an integer in 1..=4096, got '" ++ v.standaloneText ++ "'." := by
  have hmessage : (Issue.general (.configuration (.unusable key path v))).message =
      "Invalid va-iter configuration: " ++ ("'" ++ key ++ "' in '" ++ path
        ++ "' must be an integer in 1..=" ++ "4096" ++ ", got '" ++ v.standaloneText ++ "'.") :=
    Issue.message_alone _
  have hfront : "Invalid va-iter configuration: '" = "Invalid va-iter configuration: " ++ "'" := by
    simp
  have hrange : "' must be an integer in 1..=4096, got '" =
      "' must be an integer in 1..=" ++ ("4096" ++ ", got '") := by
    simp
  rw [hmessage, hfront, hrange]
  simp only [String.append_assoc]

/-- **Every ceiling goes by the setting that decides it.** If a text in scope is no manifest, the
first such one is at fault. Otherwise at most the last manifest in scope declares a workspace, and
each ceiling is what the deciding setting sets it to; a deciding setting that is no integer in range
makes the configuration fail, the one of the counting ceiling first. The message names the manifest
at fault, and for an unusable setting also its key and its value. -/
theorem load_by_deciding_settings (explain : String → String) (t : FileTree) (dir : String) :
    (∀ front path text back, t.scope dir = front ++ (path, text) :: back →
        (∀ other ∈ front, (Toml.parse? other.2).isSome) → Toml.parse? text = none →
        ∃ issue, Limits.load explain t (some dir) = .error issue ∧
          issue = Issue.general (.configuration (.malformed path (explain text))) ∧
          issue.message = "Invalid va-iter configuration: Failed to parse '" ++ path ++ "'.: " ++
            explain text) ∧
      ((∀ text ∈ t.scope dir, (Toml.parse? text.2).isSome) →
        ∃ ms, Reads (t.scope dir) ms ∧ (∀ m ∈ ms.dropLast, m.declaresWorkspace = false) ∧
          (∀ limits, Limits.load explain t (some dir) = .ok limits ↔
            Sets ms .count (.ok limits.count) ∧ Sets ms .each (.ok limits.each)) ∧
          (∀ issue, Limits.load explain t (some dir) = .error issue ↔
            ∃ fault, issue = Issue.general (.configuration fault) ∧
              (Sets ms .count (.error fault) ∨
                (∃ n, Sets ms .count (.ok n)) ∧ Sets ms .each (.error fault))) ∧
          ∀ issue, Limits.load explain t (some dir) = .error issue →
            ∃ (c : Ceiling) (path : String) (v : Toml.Value), Decides ms c.key path v ∧
              issue = Issue.general (.configuration (.unusable c.key path v)) ∧
              issue.message = "Invalid va-iter configuration: '" ++ c.key ++ "' in '" ++ path ++
                "' must be an integer in 1..=4096, got '" ++ v.standaloneText ++ "'.") := by
  rw [load_eq_mapError]
  refine ⟨fun front path text back hscope hfront hnone => ?_, fun hscope => ?_⟩
  · rw [collect_of_malformed hscope hfront hnone]
    exact ⟨_, rfl, rfl, message_malformed path (explain text)⟩
  · obtain ⟨ms, hreads⟩ := exists_reads hscope
    obtain ⟨hcollect, hlast⟩ := collect_of_reads hreads
    have hresolve : collect explain (t.texts (ancestors dir)) >>= resolve = resolve ms := by
      rw [hcollect]
      rfl
    rw [hresolve]
    refine ⟨ms, hreads, hlast, fun limits => ?_, fun issue => ?_, fun issue hissue => ?_⟩
    · rw [mapError_eq_ok_iff, resolve_eq_ok_iff hlast]
    · simp only [mapError_eq_error_iff, resolve_eq_error_iff hlast]
    · obtain ⟨fault, rfl, hfault⟩ := mapError_eq_error_iff.mp hissue
      obtain ⟨c, path, v, rfl, hdecides⟩ := exists_decides_of_resolve_eq_error hlast hfault
      exact ⟨c, path, v, hdecides, rfl, message_unusable c.key path v⟩

/-- A member of a workspace: each manifest in a directory `app`, and the one above it. -/
def member (own above : String) : FileTree :=
  directory [(manifestName, file (.text above)),
    ("app", directory [(manifestName, file (.text own))])]

/-- The count is set by the member, so that the unusable one of the workspace does not matter; the
other ceiling is left to the workspace. A workspace that is no manifest is at fault, and so is an
unusable count of the member, whatever the workspace sets. -/
theorem load_by_deciding_settings_member :
    let load := Limits.load explainLoneKey
    let own := "[package.metadata.va-iter]\ncount-limit = 16\n"
    let unusable := "[package.metadata.va-iter]\ncount-limit = [16, 'x', \x7b y = 0.50 \x7d]\n"
    let above := "[workspace.metadata.va-iter]\ncount-limit = 0\neach-limit = 512\n"
    ((∀ text ∈ (member own above).scope "app", (Toml.parse? text.2).isSome) ∧
        ∃ ms, Reads ((member own above).scope "app") ms ∧ Sets ms .count (.ok 16) ∧
          Sets ms .each (.ok 512)) ∧
      ((member own loneKey).scope "app" =
          [("app/Cargo.toml", own)] ++ [("Cargo.toml", loneKey)] ∧
        Toml.parse? loneKey = none ∧
          ∃ issue, load (member own loneKey) (some "app") = .error issue ∧
            issue.message = "Invalid va-iter configuration: Failed to parse 'Cargo.toml'.: " ++
              explainLoneKey loneKey) ∧
      ∃ issue, load (member unusable above) (some "app") = .error issue ∧
        issue.message = "Invalid va-iter configuration: 'count-limit' in 'app/Cargo.toml' must " ++
          "be an integer in 1..=4096, got '[16, \"x\", \x7b y = 0.5 \x7d]'." := by
  intro load own unusable above
  have hscope : ∀ text ∈ (member own above).scope "app", (Toml.parse? text.2).isSome := by
    decide +kernel
  have hload : load (member own above) (some "app") = .ok ⟨16, 512⟩ :=
    eq_ok_of_toOption (by decide +kernel)
  obtain ⟨ms, hreads, -, hok, -⟩ := (load_by_deciding_settings explainLoneKey _ _).2 hscope
  obtain ⟨hcount, heach⟩ := (hok ⟨16, 512⟩).mp hload
  -- the workspace is no manifest
  have hbroken : (member own loneKey).scope "app" =
      [("app/Cargo.toml", own)] ++ [("Cargo.toml", loneKey)] := by
    decide +kernel
  have hnone : Toml.parse? loneKey = none :=
    Option.isNone_iff_eq_none.mp (by decide +kernel)
  obtain ⟨malformed, hmalformed, -, hmessage⟩ :=
    (load_by_deciding_settings explainLoneKey _ _).1 _ _ _ _ hbroken (by decide +kernel) hnone
  -- the member's count is unusable
  have hunusable : (load (member unusable above) (some "app")).mapError Issue.message = .error
      ("Invalid va-iter configuration: 'count-limit' in 'app/Cargo.toml' must " ++
        "be an integer in 1..=4096, got '[16, \"x\", \x7b y = 0.5 \x7d]'.") := by
    decide +kernel
  obtain ⟨issue, htext, hissue⟩ := mapError_eq_error_iff.mp hunusable
  exact ⟨⟨hscope, ms, hreads, hcount, heach⟩, ⟨hbroken, hnone, malformed, hmalformed, hmessage⟩,
    issue, hissue, htext.symm⟩

end Limits
end Variadic
