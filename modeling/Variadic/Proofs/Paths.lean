import Mathlib.Data.List.Basic
import Variadic.FileTree.Path

/-!
# Walking up a path

Splitting a path at its slashes undoes joining pieces by slashes, so a start of a path has the
pieces it was made of. The paths above a path are then closed under walking up: the walk from the
nearest of them goes on where the walk from the path itself does.
-/

namespace Variadic.FileTree

/-! ## Pieces -/

/-- Even the empty text has a piece, an empty one. -/
theorem splitAtSlashes_ne_nil (cs : List Char) : splitAtSlashes cs ≠ [] := by
  fun_induction splitAtSlashes cs <;> simp

theorem splitAtSlashes_cons_of_ne {c : Char} (hc : c ≠ '/') {cs piece : List Char}
    {rest : List (List Char)} (h : splitAtSlashes cs = piece :: rest) :
    splitAtSlashes (c :: cs) = (c :: piece) :: rest := by
  rw [splitAtSlashes]
  · rw [h]
  · exact hc

/-- A slash ends a piece, whatever stands in front of it. -/
theorem splitAtSlashes_append_slash (cs ds : List Char) :
    splitAtSlashes (cs ++ '/' :: ds) = splitAtSlashes cs ++ splitAtSlashes ds := by
  induction cs with
  | nil => rfl
  | cons c cs ih =>
    obtain ⟨piece, rest, hcs⟩ := List.exists_cons_of_ne_nil (splitAtSlashes_ne_nil cs)
    rw [hcs] at ih
    by_cases hc : c = '/'
    · subst hc
      show [] :: splitAtSlashes (cs ++ '/' :: ds) = ([] :: splitAtSlashes cs) ++ splitAtSlashes ds
      rw [ih, hcs]
      rfl
    · rw [List.cons_append, splitAtSlashes_cons_of_ne hc ih, splitAtSlashes_cons_of_ne hc hcs]
      rfl

/-- A text without slashes is one piece. -/
theorem splitAtSlashes_of_notMem {cs : List Char} (h : '/' ∉ cs) : splitAtSlashes cs = [cs] := by
  induction cs with
  | nil => rfl
  | cons c cs ih =>
    rw [List.mem_cons, not_or] at h
    exact splitAtSlashes_cons_of_ne (Ne.symm h.1) (ih h.2)

/-- No piece has a slash in it. -/
theorem notMem_of_mem_splitAtSlashes {cs piece : List Char} (h : piece ∈ splitAtSlashes cs) :
    '/' ∉ piece := by
  induction cs generalizing piece with
  | nil =>
    rw [show splitAtSlashes [] = [[]] from rfl, List.mem_singleton] at h
    rw [h]
    exact List.not_mem_nil
  | cons c cs ih =>
    obtain ⟨first, rest, hcs⟩ := List.exists_cons_of_ne_nil (splitAtSlashes_ne_nil cs)
    by_cases hc : c = '/'
    · subst hc
      rcases List.mem_cons.mp h with rfl | h
      · exact List.not_mem_nil
      · exact ih h
    · rw [splitAtSlashes_cons_of_ne hc hcs] at h
      rcases List.mem_cons.mp h with rfl | h
      · have hfirst : '/' ∉ first := ih (by rw [hcs]; exact List.mem_cons_self)
        rw [List.mem_cons, not_or]
        exact ⟨Ne.symm hc, hfirst⟩
      · exact ih (by rw [hcs]; exact List.mem_cons_of_mem _ h)

/-- A slash between two paths separates their pieces. -/
theorem pieces_append_slash (path rest : String) :
    pieces (path ++ "/" ++ rest) = pieces path ++ pieces rest := by
  unfold pieces
  have hchars : (path ++ "/" ++ rest).toList = path.toList ++ '/' :: rest.toList := by
    simp
  rw [hchars, splitAtSlashes_append_slash, List.map_append]

theorem pieces_of_notMem {piece : String} (h : '/' ∉ piece.toList) : pieces piece = [piece] := by
  unfold pieces
  rw [splitAtSlashes_of_notMem h]
  simp

theorem notMem_of_mem_pieces {path piece : String} (h : piece ∈ pieces path) :
    '/' ∉ piece.toList := by
  unfold pieces at h
  obtain ⟨cs, hcs, rfl⟩ := List.mem_map.mp h
  rw [String.toList_ofList]
  exact notMem_of_mem_splitAtSlashes hcs

/-- Splitting at slashes undoes joining by slashes. -/
theorem pieces_joinPieces {ps : List String} (hps : ps ≠ [])
    (hnone : ∀ piece ∈ ps, '/' ∉ piece.toList) : pieces (joinPieces ps) = ps := by
  induction ps with
  | nil => exact absurd rfl hps
  | cons p ps ih =>
    have hp : pieces p = [p] := pieces_of_notMem (hnone p List.mem_cons_self)
    unfold joinPieces at ih ⊢
    by_cases hnil : ps = []
    · rw [hnil, String.intercalate_singleton]
      exact hp
    · rw [String.intercalate_cons_of_ne_nil hnil, pieces_append_slash, hp,
        ih hnil fun piece hpiece => hnone piece (List.mem_cons_of_mem _ hpiece)]
      rfl

/-- The path of a file in a directory has the directory's pieces in front of the file's name, up to
pieces that are empty. -/
theorem exists_pieces_inDirectory (dir file : String) (hfile : '/' ∉ file.toList) :
    ∃ front, pieces (inDirectory dir file) = front ++ [file] ∧
      ∀ piece, piece ≠ "" → (piece ∈ front ↔ piece ∈ pieces dir) := by
  have hlast : pieces file = [file] := pieces_of_notMem hfile
  unfold inDirectory
  by_cases hdir : dir = ""
  · refine ⟨[], ?_, fun piece hpiece => ?_⟩
    · rw [if_pos hdir]
      exact hlast
    · rw [hdir, show pieces "" = [""] from rfl]
      simp [hpiece]
  rw [if_neg hdir]
  by_cases hslash : dir.toList.getLast? = some '/'
  · -- the last piece of the directory is empty, and the file's name takes its place
    rw [if_pos hslash]
    obtain ⟨cs, hcs⟩ := List.getLast?_eq_some_iff.mp hslash
    have hsplit : dir = String.ofList cs ++ "/" := by
      rw [← String.toList_inj, hcs]
      simp
    refine ⟨pieces (String.ofList cs), ?_, fun piece hpiece => ?_⟩
    · rw [hsplit, pieces_append_slash, hlast]
    · have hdirPieces : pieces dir = pieces (String.ofList cs) ++ [""] := by
        rw [hsplit, ← String.append_empty (s := String.ofList cs ++ "/"), pieces_append_slash]
        rfl
      rw [hdirPieces, List.mem_append, List.mem_singleton]
      simp [hpiece]
  · rw [if_neg hslash]
    refine ⟨pieces dir, ?_, fun _ _ => Iff.rfl⟩
    rw [pieces_append_slash, hlast]

/-! ## The paths above -/

theorem starts_eq (path : String) :
    starts path =
      ((pieces path).zipIdx.filter fun (piece, position) => isName piece position).map
        fun (_, position) => joinPieces ((pieces path).take (position + 1)) :=
  rfl

/-- A start of a path ends with a name of the path, and the shorter starts end with the names in
front of it. -/
theorem exists_pieces_of_starts {path start : String} {shorter longer : List String}
    (h : starts path = shorter ++ start :: longer) :
    ∃ front name back, pieces path = front ++ name :: back ∧ isName name front.length = true ∧
      start = joinPieces (front ++ [name]) ∧ pieces start = front ++ [name] ∧
      shorter = (front.zipIdx.filter fun (piece, position) => isName piece position).map
        fun (_, position) => joinPieces ((pieces path).take (position + 1)) := by
  rw [starts_eq] at h
  obtain ⟨before, after, hnames, hshorter, hstart⟩ := List.map_eq_append_iff.mp h
  obtain ⟨⟨name, position⟩, others, hafter, hname, -⟩ := List.map_eq_cons_iff.mp hstart
  rw [hafter] at hnames
  obtain ⟨passed, remaining, hsplit, hpassed, hremaining⟩ := List.filter_eq_append_iff.mp hnames
  obtain ⟨skipped, rest, hrest, hskipped, hisName, -⟩ := List.filter_eq_cons_iff.mp hremaining
  -- the name stands behind as many pieces as its position says
  rw [hrest, ← List.append_assoc, List.zipIdx_eq_append_iff] at hsplit
  obtain ⟨front, named, hpieces, hfront, hnamed⟩ := hsplit
  obtain ⟨piece, back, hback, hpair, -⟩ := List.zipIdx_eq_cons_iff.mp hnamed.symm
  obtain ⟨rfl, rfl⟩ := Prod.mk.inj hpair
  rw [hback] at hpieces
  have htake : (front ++ name :: back).take (front.length + 1) = front ++ [name] := by
    rw [List.take_length_add_append]
    rfl
  have hjoin : start = joinPieces (front ++ [name]) := by
    rw [← hname, hpieces]
    simpa using congrArg joinPieces htake
  refine ⟨front, name, back, hpieces, by simpa using hisName, hjoin, ?_, ?_⟩
  · rw [hjoin]
    apply pieces_joinPieces
    · simp
    · intro piece hpiece
      refine notMem_of_mem_pieces (?_ : piece ∈ pieces path)
      rw [hpieces, List.append_cons]
      exact List.mem_append_left _ hpiece
  · rw [← hshorter, ← hfront, List.filter_append, hpassed, List.filter_eq_nil_iff.mpr hskipped,
      List.append_nil]

/-- A start of a path is a path whose own starts are the shorter ones and itself. -/
theorem starts_of_mem {path start : String} {shorter longer : List String}
    (h : starts path = shorter ++ start :: longer) : starts start = shorter ++ [start] := by
  obtain ⟨front, name, back, hpieces, hisName, hjoin, hown, hshorter⟩ := exists_pieces_of_starts h
  rw [starts_eq, hown, List.zipIdx_append, List.filter_append, List.map_append]
  congr 1
  -- in front of the last name, both paths have the same names at the same positions
  · rw [hshorter]
    apply List.map_congr_left
    rintro ⟨piece, position⟩ hentry
    have hlt : position < front.length :=
      List.snd_lt_of_mem_zipIdx (List.mem_filter.mp hentry).1
    show joinPieces ((front ++ [name]).take (position + 1)) =
      joinPieces ((pieces path).take (position + 1))
    rw [hpieces, List.take_append_of_le_length (by omega),
      List.take_append_of_le_length (by omega)]
  · have hkept : [name].zipIdx (0 + front.length) = [(name, front.length)] := by simp
    rw [hkept, List.filter_cons_of_pos (by exact hisName), hjoin]
    show [joinPieces ((front ++ [name]).take (front.length + 1))] = [joinPieces (front ++ [name])]
    rw [List.take_of_length_le (by simp)]

/-- The walk up ends at the root or at the empty path. -/
theorem top_eq_or (path : String) : top path = "" ∨ top path = "/" := by
  unfold top
  split
  · exact Or.inr rfl
  · exact Or.inl rfl

theorem starts_top (path : String) : starts (top path) = [] := by
  rcases top_eq_or path with h | h <;> rw [h] <;> rfl

/-- A path is absolute if an empty piece stands in front of another. -/
theorem top_of_pieces {path piece : String} {rest : List String} (h : pieces path = piece :: rest) :
    top path = if piece = "" ∧ rest ≠ [] then "/" else "" := by
  unfold pieces at h
  unfold top
  cases hchars : path.toList with
  | nil =>
    rw [hchars] at h
    obtain ⟨rfl, rfl⟩ := List.cons.inj h
    rfl
  | cons c cs =>
    obtain ⟨first, others, hcs⟩ := List.exists_cons_of_ne_nil (splitAtSlashes_ne_nil cs)
    rw [hchars] at h
    by_cases hc : c = '/'
    · rw [hc, show splitAtSlashes ('/' :: cs) = [] :: splitAtSlashes cs from rfl, hcs] at h
      obtain ⟨rfl, rfl⟩ := List.cons.inj h
      simp [hc]
    · rw [splitAtSlashes_cons_of_ne hc hcs] at h
      obtain ⟨rfl, rfl⟩ := List.cons.inj h
      simp [hc]

/-- The walk from a start of a path ends where the walk from the path does. -/
theorem top_of_mem_starts {path start : String} (h : start ∈ starts path) :
    top start = top path := by
  obtain ⟨shorter, longer, hsplit⟩ := List.append_of_mem h
  obtain ⟨front, name, back, hpieces, hisName, -, hown, -⟩ := exists_pieces_of_starts hsplit
  cases front with
  | nil =>
    -- the name is the first piece of either path
    have hname : name ≠ "" := by
      rintro rfl
      simp [isName] at hisName
    rw [top_of_pieces hpieces, top_of_pieces hown, if_neg (fun hempty => hname hempty.1),
      if_neg (fun hempty => hname hempty.1)]
  | cons piece front =>
    rw [top_of_pieces hpieces, top_of_pieces hown]
    simp

/-- Above a path are its shorter starts, the longest first, and where the walk ends. -/
theorem ancestors_eq_of_starts {path last : String} {shorter : List String}
    (h : starts path = shorter ++ [last]) :
    ancestors path = path :: shorter.reverse ++ [top path] := by
  unfold ancestors
  rw [h, List.reverse_append]
  rfl

/-- A path that names nothing has nothing above it. -/
theorem ancestors_eq_of_starts_eq_nil {path : String} (h : starts path = []) :
    ancestors path = [path] := by
  unfold ancestors
  rw [h]
  rfl

/-- The walk up starts with the path itself. -/
theorem exists_ancestors_eq_cons (path : String) : ∃ above, ancestors path = path :: above := by
  rcases List.eq_nil_or_concat' (starts path) with h | ⟨shorter, last, h⟩
  · exact ⟨[], ancestors_eq_of_starts_eq_nil h⟩
  · exact ⟨shorter.reverse ++ [top path], ancestors_eq_of_starts h⟩

/-- What is above a path is one of its starts, or where the walk ends. -/
theorem mem_ancestors {path above : String} (h : above ∈ ancestors path) :
    above = path ∨ above = top path ∨ above ∈ starts path := by
  rcases List.eq_nil_or_concat' (starts path) with hnil | ⟨shorter, last, hstarts⟩
  · rw [ancestors_eq_of_starts_eq_nil hnil, List.mem_singleton] at h
    exact Or.inl h
  · rw [ancestors_eq_of_starts hstarts] at h
    rw [hstarts]
    simp only [List.cons_append, List.mem_cons, List.mem_append, List.mem_reverse] at h ⊢
    tauto

/-- **Walking up in two steps.** The walk from the first path above a path is the rest of the walk
from the path. -/
theorem ancestors_of_ancestors_eq_cons {path parent : String} {above : List String}
    (h : ancestors path = path :: parent :: above) : ancestors parent = parent :: above := by
  rcases List.eq_nil_or_concat' (starts path) with hnil | ⟨shorter, last, hstarts⟩
  · rw [ancestors_eq_of_starts_eq_nil hnil] at h
    simp at h
  rw [ancestors_eq_of_starts hstarts, List.cons_append, List.cons.injEq] at h
  rcases List.eq_nil_or_concat' shorter with rfl | ⟨shortest, nearest, rfl⟩
  · obtain ⟨rfl, rfl⟩ : top path = parent ∧ [] = above := by simpa using h.2
    exact ancestors_eq_of_starts_eq_nil (starts_top path)
  · rw [List.reverse_append] at h
    obtain ⟨rfl, rfl⟩ : nearest = parent ∧ shortest.reverse ++ [top path] = above := by
      simpa using h.2
    have hsplit : starts path = shortest ++ nearest :: [last] := by
      rw [hstarts]
      simp
    have htop : top nearest = top path := top_of_mem_starts (by rw [hsplit]; simp)
    rw [← htop]
    exact ancestors_eq_of_starts (starts_of_mem hsplit)

example : ancestors "/a//b/" = ["/a//b/", "/a", "/"] := by decide +kernel

/-! ## Paths that lead nowhere else -/

/-- A path of empty pieces and points, which leads to the place it is followed from. -/
def IsHere (path : String) : Prop :=
  ∀ piece ∈ pieces path, piece = "" ∨ piece = "."

instance (path : String) : Decidable (IsHere path) :=
  inferInstanceAs (Decidable (∀ piece ∈ pieces path, piece = "" ∨ piece = "."))

/-- The end of the walk leads nowhere else. -/
theorem isHere_top (path : String) : IsHere (top path) := by
  rcases top_eq_or path with h | h <;> rw [h] <;> decide

/-- Walking up from a path that leads nowhere else ends nowhere else. -/
theorem IsHere.of_mem_ancestors {path above : String} (h : IsHere path)
    (habove : above ∈ ancestors path) : IsHere above := by
  rcases mem_ancestors habove with rfl | rfl | hstart
  · exact h
  · exact isHere_top path
  · obtain ⟨shorter, longer, hsplit⟩ := List.append_of_mem hstart
    obtain ⟨front, name, back, hpieces, -, -, hown, -⟩ := exists_pieces_of_starts hsplit
    intro piece hpiece
    apply h
    rw [hpieces, List.append_cons, ← hown]
    exact List.mem_append_left _ hpiece

/-- A point in front is the only start of a path that leads nowhere else. -/
theorem eq_point_of_mem_starts {path start : String} (hstart : start ∈ starts path)
    (h : IsHere start) : start = "." := by
  obtain ⟨shorter, longer, hsplit⟩ := List.append_of_mem hstart
  obtain ⟨front, name, -, -, hisName, hjoin, hown, -⟩ := exists_pieces_of_starts hsplit
  have hname : name = "" ∨ name = "." := by
    apply h
    rw [hown]
    simp
  rcases hname with rfl | rfl
  · simp [isName] at hisName
  · have hfront : front = [] := by simpa [isName] using hisName
    rw [hjoin, hfront]
    rfl

/-- A path with a name in it has paths above it. -/
theorem exists_parent_of_not_isHere {path : String} (h : ¬ IsHere path) :
    ∃ parent above, ancestors path = path :: parent :: above := by
  have hstarts : starts path ≠ [] := by
    intro hnil
    apply h
    intro piece hpiece
    obtain ⟨position, hposition, hget⟩ := List.getElem_of_mem hpiece
    have hentry : (piece, position) ∈ (pieces path).zipIdx := by
      rw [List.mem_zipIdx_iff_getElem?, ← hget]
      exact List.getElem?_eq_getElem hposition
    rw [starts_eq, List.map_eq_nil_iff, List.filter_eq_nil_iff] at hnil
    have hnot : ¬ isName piece position = true := hnil _ hentry
    by_cases hempty : piece = ""
    · exact Or.inl hempty
    · by_cases hpoint : piece = "."
      · exact Or.inr hpoint
      · exact absurd (by simp [isName, hempty, hpoint]) hnot
  obtain ⟨shorter, last, hlast⟩ := (List.eq_nil_or_concat' (starts path)).resolve_left hstarts
  rw [ancestors_eq_of_starts hlast]
  rcases List.eq_nil_or_concat' shorter with rfl | ⟨shortest, nearest, rfl⟩
  · exact ⟨top path, [], rfl⟩
  · exact ⟨nearest, shortest.reverse ++ [top path], by simp⟩

end Variadic.FileTree
