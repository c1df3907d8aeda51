import Variadic.Argument

/-!
# The grammar of argument lists

`Argument.split` reads a stream with an accumulator; `Listing` says what it reads: runs of tokens
with a comma between each two, and perhaps one more comma behind the last. Two things are shown:

* a stream splits into exactly the runs of which it is a listing (`map_split_eq_ok_iff`), and what
  `joinTokens` joins is a listing of what was joined;
* a stream that is no listing is blamed at its first misplaced comma (`split_eq_error_iff`): one
  that has nothing in front of it, or nothing but another comma.
-/

namespace Variadic
namespace Argument

/-- Tokens that make up an argument: at least one, and no comma at their own level. Commas in a
group, visible or not, are not at that level. -/
def IsRun (ts : List Token) : Prop :=
  ts ≠ [] ∧ ∀ t ∈ ts, t.isComma = false

/-- The stream lists the runs in order. The comma behind a run may be the last token. -/
inductive Listing : List (List Token) → List Token → Prop
  | nil : Listing [] []
  | last {run : List Token} (h : IsRun run) : Listing [run] run
  | cons {run ts : List Token} {comma : Token} {runs : List (List Token)} (h : IsRun run)
      (hc : comma.isComma) (rest : Listing runs ts) : Listing (run :: runs) (run ++ comma :: ts)

/-- `comma` stands in `ts` right behind `front`, where an argument has to begin. -/
structure MisplacedAt (ts front : List Token) (comma : Token) : Prop where
  stands : ∃ back, ts = front ++ comma :: back
  isComma : comma.isComma
  opens : ∀ t, front.getLast? = some t → t.isComma

/-- The misplaced comma with the fewest tokens in front of it. -/
def FirstMisplaced (ts : List Token) (comma : Token) : Prop :=
  ∃ front, MisplacedAt ts front comma
    ∧ ∀ front' comma', MisplacedAt ts front' comma' → front.length ≤ front'.length

/-! ## The loop invariant

`pending` are the tokens that the loop has already taken in for the argument being read. With them
put back in front, what is left of the stream is read as a stream of its own. -/

/-- The tokens of an argument that is still being read. -/
def pending (current : Option Argument) : List Token :=
  current.elim [] tokens

@[simp] theorem pending_none : pending none = [] := rfl

@[simp] theorem pending_some (a : Argument) : pending (some a) = a.tokens := rfl

theorem tokens_ne_nil (a : Argument) : a.tokens ≠ [] := by
  rw [tokens]
  exact List.cons_ne_nil _ _

/-- An argument is known by its tokens. -/
theorem tokens_injective : Function.Injective tokens := by
  rintro ⟨t, ts⟩ ⟨u, us⟩ h
  obtain ⟨rfl, rfl⟩ := List.cons.inj h
  rfl

theorem isRun_singleton {t : Token} (h : t.isComma = false) : IsRun [t] := by
  refine ⟨List.cons_ne_nil _ _, ?_⟩
  intro u hu
  rw [List.mem_singleton.1 hu]
  exact h

/-- A run is the tokens of an argument. -/
theorem IsRun.exists_tokens_eq {run : List Token} (h : IsRun run) :
    ∃ a : Argument, a.tokens = run := by
  obtain ⟨t, ts, rfl⟩ := List.exists_cons_of_ne_nil h.1
  exact ⟨⟨t, ts⟩, rfl⟩

theorem tokens_extend (current : Option Argument) (t : Token) :
    (extend current t).tokens = pending current ++ [t] := by
  cases current with
  | none => rfl
  | some a => rfl

/-- An argument that is extended by what is no comma has none. -/
theorem isComma_of_mem_extend {current : Option Argument} {t : Token}
    (h : ∀ u ∈ pending current, u.isComma = false) (ht : t.isComma = false) :
    ∀ u ∈ (extend current t).tokens, u.isComma = false := by
  intro u hu
  rw [tokens_extend, List.mem_append, List.mem_singleton] at hu
  rcases hu with hu | rfl
  · exact h u hu
  · exact ht

/-! ## Soundness -/

/-- What is split behind an argument that was begun lists that argument and those behind it. -/
theorem listing_of_splitBehind {current : Option Argument} {ts : List Token} {as : List Argument}
    (hcur : ∀ t ∈ pending current, t.isComma = false) (h : splitBehind current ts = .ok as) :
    Listing (as.map tokens) (pending current ++ ts) := by
  fun_induction splitBehind current ts generalizing as with
  | case1 current =>
    cases current with
    | none =>
      obtain rfl : [] = as := by simpa using h
      exact .nil
    | some a =>
      obtain rfl : [a] = as := by simpa using h
      rw [List.append_nil]
      exact .last ⟨tokens_ne_nil a, hcur⟩
  | case2 => simp at h
  | case3 => simp at h
  | case4 t ts ht a bs hbs ih =>
    obtain rfl : a :: bs = as := by simpa using h
    have hrest : Listing (bs.map tokens) ts := ih (by simp) hbs
    exact .cons ⟨tokens_ne_nil a, hcur⟩ ht hrest
  | case5 current t ts ht ih =>
    have hext := isComma_of_mem_extend hcur (by simpa using ht)
    have hrest := ih hext h
    rw [pending_some, tokens_extend, List.append_assoc] at hrest
    exact hrest

/-- What a stream is split into is listed in it. -/
theorem listing_of_split {ts : List Token} {as : List Argument} (h : split ts = .ok as) :
    Listing (as.map tokens) ts :=
  listing_of_splitBehind (by simp) h

/-- Every entry of a list is an argument. -/
theorem Listing.isRun {runs : List (List Token)} {ts : List Token} (h : Listing runs ts) :
    ∀ run ∈ runs, IsRun run := by
  induction h with
  | nil => intro run hr; cases hr
  | last h =>
    intro run hr
    rw [List.mem_singleton.1 hr]
    exact h
  | cons h _ _ ih =>
    intro run hr
    rcases List.mem_cons.1 hr with rfl | hr
    · exact h
    · exact ih run hr

/-- Every argument of a stream is a run. -/
theorem isRun_of_mem_split {ts : List Token} {as : List Argument} (h : split ts = .ok as)
    {a : Argument} (ha : a ∈ as) : IsRun a.tokens :=
  (listing_of_split h).isRun _ (List.mem_map_of_mem ha)

/-! ## Completeness -/

/-- Up to the next comma, everything belongs to the argument that was begun. -/
theorem splitBehind_some_append {a : Argument} {ts : List Token}
    (h : ∀ t ∈ ts, t.isComma = false) (rest : List Token) :
    splitBehind (some a) (ts ++ rest) = splitBehind (some ⟨a.first, a.more ++ ts⟩) rest := by
  induction ts generalizing a with
  | nil => rw [List.nil_append, List.append_nil]
  | cons t ts ih =>
    have ht : t.isComma = false := h t List.mem_cons_self
    have hts : ∀ u ∈ ts, u.isComma = false := fun u hu => h u (List.mem_cons_of_mem _ hu)
    rw [List.cons_append, splitBehind, if_neg (by rw [ht]; exact Bool.false_ne_true), extend,
      ih hts, List.append_assoc, List.singleton_append]

/-- A run at the start of a stream is read as a whole. -/
theorem split_tokens_append {a : Argument} (h : ∀ t ∈ a.tokens, t.isComma = false)
    (rest : List Token) : split (a.tokens ++ rest) = splitBehind (some a) rest := by
  have ht : a.first.isComma = false := h _ List.mem_cons_self
  have hts : ∀ u ∈ a.more, u.isComma = false := fun u hu => h u (List.mem_cons_of_mem _ hu)
  rw [split, tokens, List.cons_append, splitBehind, if_neg (by rw [ht]; exact Bool.false_ne_true),
    extend, splitBehind_some_append hts, List.nil_append]

/-- An argument alone is split into itself. -/
theorem split_tokens {a : Argument} (h : ∀ t ∈ a.tokens, t.isComma = false) :
    split a.tokens = .ok [a] := by
  have happ := split_tokens_append h []
  rw [List.append_nil] at happ
  rw [happ, splitBehind, Option.toList_some]

/-- A comma ends an argument. -/
theorem split_tokens_cons {a : Argument} (h : ∀ t ∈ a.tokens, t.isComma = false) {comma : Token}
    (hc : comma.isComma) (ts : List Token) :
    split (a.tokens ++ comma :: ts) = (a :: ·) <$> split ts := by
  rw [split_tokens_append h, splitBehind, if_pos hc, split]
  cases splitBehind none ts with
  | error e => rfl
  | ok as => rfl

/-- Every list is split into its entries. -/
theorem Listing.exists_split {runs : List (List Token)} {ts : List Token} (h : Listing runs ts) :
    ∃ as, split ts = .ok as ∧ as.map tokens = runs := by
  induction h with
  | nil => exact ⟨[], rfl, rfl⟩
  | last h =>
    obtain ⟨a, rfl⟩ := h.exists_tokens_eq
    exact ⟨[a], split_tokens h.2, rfl⟩
  | cons h hc _ ih =>
    obtain ⟨a, rfl⟩ := h.exists_tokens_eq
    obtain ⟨as, hsplit, rfl⟩ := ih
    refine ⟨a :: as, ?_, rfl⟩
    rw [split_tokens_cons h.2 hc, hsplit]
    rfl

/-- A stream splits into exactly the runs that it lists. -/
theorem map_split_eq_ok_iff {ts : List Token} {runs : List (List Token)} :
    (split ts).map (List.map tokens) = .ok runs ↔ Listing runs ts := by
  constructor
  · intro h
    cases hs : split ts with
    | error e => rw [hs] at h; cases h
    | ok as =>
      rw [hs] at h
      obtain rfl : as.map tokens = runs := by simpa [Except.map] using h
      exact listing_of_split hs
  · intro h
    obtain ⟨as, hs, rfl⟩ := h.exists_split
    rw [hs]
    rfl

/-! ## Misplaced commas -/

theorem IsRun.not_isComma {run : List Token} (h : IsRun run) {t : Token} (ht : t ∈ run) :
    ¬t.isComma := by
  rw [h.2 t ht]
  exact Bool.false_ne_true

/-- No argument begins right behind a run. -/
theorem IsRun.not_opens {run : List Token} (h : IsRun run) :
    ¬∀ t, run.getLast? = some t → t.isComma := by
  intro hopen
  exact h.not_isComma (List.getLast_mem h.1) (hopen _ (List.getLast?_eq_some_getLast h.1))

/-- No comma of a listing is misplaced. -/
theorem Listing.not_misplacedAt {runs : List (List Token)} {ts : List Token}
    (h : Listing runs ts) (front : List Token) (comma : Token) : ¬MisplacedAt ts front comma := by
  induction h generalizing front with
  | nil =>
    rintro ⟨⟨back, hb⟩, -, -⟩
    exact List.append_ne_nil_of_right_ne_nil front (List.cons_ne_nil comma back) hb.symm
  | last h =>
    rintro ⟨⟨back, rfl⟩, hc, -⟩
    exact h.not_isComma (List.mem_append_right _ List.mem_cons_self) hc
  | @cons run ts c runs h hc' _ ih =>
    rintro ⟨⟨back, hb⟩, hc, hopen⟩
    rcases List.append_eq_append_iff.1 hb with ⟨mid, hfront, hmid⟩ | ⟨mid, hrun, hmid⟩
    · cases mid with
      | nil =>
        rw [hfront, List.append_nil] at hopen
        exact h.not_opens hopen
      | cons d mid =>
        -- behind the first run and its comma, so in the rest
        obtain ⟨-, hts⟩ := List.cons.inj hmid
        refine ih mid ⟨⟨back, hts⟩, hc, fun t ht => hopen t ?_⟩
        rw [hfront, List.getLast?_append, List.getLast?_cons, ht]
        rfl
    · cases mid with
      | nil =>
        rw [List.append_nil] at hrun
        rw [← hrun] at hopen
        exact h.not_opens hopen
      | cons d mid =>
        -- inside the first run
        obtain ⟨rfl, -⟩ := List.cons.inj hmid
        refine h.not_isComma ?_ hc
        rw [hrun]
        exact List.mem_append_right _ List.mem_cons_self

/-- The loop fails at a misplaced comma, and what stands in front of it is a listing. -/
theorem misplacedAt_of_splitBehind {current : Option Argument} {ts : List Token} {e : Issue}
    (hcur : ∀ t ∈ pending current, t.isComma = false) (h : splitBehind current ts = .error e) :
    ∃ runs front comma, Listing runs front ∧ MisplacedAt (pending current ++ ts) front comma
      ∧ e = Issue.error .emptyArgument comma.span := by
  fun_induction splitBehind current ts with
  | case1 => simp at h
  | case2 t ts ht =>
    refine ⟨[], [], t, .nil, ⟨⟨ts, rfl⟩, ht, by simp⟩, ?_⟩
    simpa using h.symm
  | case3 t ts ht a e' hs ih =>
    obtain rfl : e' = e := by simpa using h
    obtain ⟨runs, front, comma, hfront, ⟨⟨back, hback⟩, hc, hopen⟩, he⟩ := ih (by simp) hs
    rw [pending_none, List.nil_append] at hback
    refine ⟨_, a.tokens ++ t :: front, comma, .cons ⟨tokens_ne_nil a, hcur⟩ ht hfront,
      ⟨⟨back, ?_⟩, hc, ?_⟩, he⟩
    · rw [pending_some, hback, List.append_assoc, List.cons_append]
    · intro u hu
      rw [List.getLast?_append, List.getLast?_cons] at hu
      cases hl : front.getLast? with
      | none =>
        obtain rfl : t = u := by simpa [hl] using hu
        exact ht
      | some v =>
        obtain rfl : v = u := by simpa [hl] using hu
        exact hopen v hl
  | case4 => simp at h
  | case5 current t ts ht ih =>
    have hext := isComma_of_mem_extend hcur (by simpa using ht)
    obtain ⟨runs, front, comma, hfront, hmis, he⟩ := ih hext h
    rw [pending_some, tokens_extend, List.append_assoc] at hmis
    exact ⟨runs, front, comma, hfront, hmis, he⟩

/-- A misplaced comma behind a listing is the first one. -/
theorem Listing.length_le {runs : List (List Token)} {ts front front' : List Token}
    {comma comma' : Token} (h : Listing runs front) (hc : MisplacedAt ts front comma)
    (hc' : MisplacedAt ts front' comma') : front.length ≤ front'.length := by
  obtain ⟨back, rfl⟩ := hc.stands
  obtain ⟨back', hback⟩ := hc'.stands
  refine Nat.le_of_not_lt fun hlt => ?_
  -- the other comma would be misplaced in the listing itself
  rcases List.append_eq_append_iff.1 hback with ⟨mid, hfront, -⟩ | ⟨mid, hfront, hmid⟩
  · rw [hfront, List.length_append] at hlt
    omega
  · cases mid with
    | nil =>
      rw [hfront, List.append_nil] at hlt
      omega
    | cons d mid =>
      obtain ⟨rfl, -⟩ := List.cons.inj hmid
      exact h.not_misplacedAt front' comma' ⟨⟨mid, hfront⟩, hc'.isComma, hc'.opens⟩

/-- There is one first misplaced comma. -/
theorem FirstMisplaced.eq {ts : List Token} {comma comma' : Token} (h : FirstMisplaced ts comma)
    (h' : FirstMisplaced ts comma') : comma = comma' := by
  obtain ⟨front, hmis, hmin⟩ := h
  obtain ⟨front', hmis', hmin'⟩ := h'
  obtain ⟨back, hback⟩ := hmis.stands
  obtain ⟨back', hback'⟩ := hmis'.stands
  have hlen : front.length = front'.length := Nat.le_antisymm (hmin _ _ hmis') (hmin' _ _ hmis)
  rw [hback] at hback'
  exact (List.cons.inj (List.append_inj hback' hlen).2).1

/-- Splitting fails exactly where a comma is misplaced, and blames the first such comma. -/
theorem split_eq_error_iff {ts : List Token} {e : Issue} :
    split ts = .error e
      ↔ ∃ comma, FirstMisplaced ts comma ∧ e = Issue.error .emptyArgument comma.span := by
  constructor
  · intro h
    obtain ⟨runs, front, comma, hfront, hmis, he⟩ := misplacedAt_of_splitBehind (by simp) h
    exact ⟨comma, ⟨front, hmis, fun _ _ => hfront.length_le hmis⟩, he⟩
  · rintro ⟨comma, hfirst, rfl⟩
    cases hs : split ts with
    | ok as =>
      obtain ⟨front, hmis, -⟩ := hfirst
      exact absurd hmis ((listing_of_split hs).not_misplacedAt front comma)
    | error e =>
      obtain ⟨runs, front, comma', hfront, hmis, rfl⟩ := misplacedAt_of_splitBehind (by simp) hs
      have hfirst' : FirstMisplaced ts comma' := ⟨front, hmis, fun _ _ => hfront.length_le hmis⟩
      rw [hfirst.eq hfirst']

/-- A stream that goes on behind a listing with a misplaced comma fails there. -/
theorem Listing.split_eq_error {runs : List (List Token)} {ts front : List Token} {comma : Token}
    (h : Listing runs front) (hmis : MisplacedAt ts front comma) :
    split ts = .error (Issue.error .emptyArgument comma.span) :=
  split_eq_error_iff.2 ⟨comma, ⟨front, hmis, fun _ _ => h.length_le hmis⟩, rfl⟩

/-- What stands behind a misplaced comma is not looked at. -/
theorem splitBehind_append_of_error {current : Option Argument} {ts : List Token} {e : Issue}
    (h : splitBehind current ts = .error e) (rest : List Token) :
    splitBehind current (ts ++ rest) = .error e := by
  fun_induction splitBehind current ts with
  | case1 => cases h
  | case2 t ts ht =>
    rw [List.cons_append, splitBehind, if_pos ht]
    exact h
  | case3 t ts ht a e' hs ih =>
    obtain rfl := Except.error.inj h
    rw [List.cons_append, splitBehind, if_pos ht, ih hs]
  | case4 => cases h
  | case5 current t ts ht ih =>
    rw [List.cons_append]
    unfold splitBehind
    rw [if_neg ht]
    exact ih h

/-- A misplaced comma is blamed whatever stands behind it. -/
theorem split_append_of_error {ts : List Token} {e : Issue} (h : split ts = .error e)
    (rest : List Token) : split (ts ++ rest) = .error e :=
  splitBehind_append_of_error h rest

/-! ## Joining -/

@[simp] theorem joinTokens_singleton (ts : List Token) : joinTokens [ts] = ts :=
  List.append_nil ts

theorem joinTokens_cons_cons (ts us : List Token) (tss : List (List Token)) :
    joinTokens (ts :: us :: tss) = ts ++ .mark ',' :: joinTokens (us :: tss) := by
  rw [joinTokens, joinTokens, List.intercalate_cons_cons, List.append_assoc,
    List.singleton_append]

/-- What may stand behind a single run may stand behind joined runs. -/
theorem listing_joinTokens_append {rest : List Token}
    (hrest : ∀ run, IsRun run → Listing [run] (run ++ rest)) {runs : List (List Token)}
    (h : ∀ run ∈ runs, IsRun run) (hne : runs ≠ []) : Listing runs (joinTokens runs ++ rest) := by
  induction runs with
  | nil => exact absurd rfl hne
  | cons run runs ih =>
    have hrun : IsRun run := h run List.mem_cons_self
    cases runs with
    | nil =>
      rw [joinTokens_singleton]
      exact hrest run hrun
    | cons next runs =>
      rw [joinTokens_cons_cons, List.append_assoc, List.cons_append]
      exact .cons hrun rfl (ih (fun r hr => h r (List.mem_cons_of_mem _ hr)) (List.cons_ne_nil _ _))

/-- Arguments joined by commas are a list of them. -/
theorem listing_joinTokens {runs : List (List Token)} (h : ∀ run ∈ runs, IsRun run) :
    Listing runs (joinTokens runs) := by
  by_cases hne : runs = []
  · rw [hne]
    exact .nil
  · have hsingle : ∀ run, IsRun run → Listing [run] (run ++ []) := by
      intro run hrun
      rw [List.append_nil]
      exact .last hrun
    have hjoin := listing_joinTokens_append hsingle h hne
    rwa [List.append_nil] at hjoin

/-- A listing that does not end with a comma stays one when a comma is put behind it. -/
theorem Listing.append_comma {runs : List (List Token)} {ts : List Token} (h : Listing runs ts)
    {comma : Token} (hc : comma.isComma) (hne : ts ≠ [])
    (hend : ∀ t, ts.getLast? = some t → t.isComma = false) : Listing runs (ts ++ [comma]) := by
  induction h with
  | nil => exact absurd rfl hne
  | last h => exact .cons h hc .nil
  | @cons run ts c runs h hc' _ ih =>
    rw [List.append_assoc, List.cons_append]
    refine .cons h hc' (ih ?_ fun t ht => hend t ?_)
    · rintro rfl
      have hfalse := hend c (by rw [List.getLast?_append, List.getLast?_singleton]; rfl)
      rw [hc'] at hfalse
      exact Bool.false_ne_true hfalse.symm
    · rw [List.getLast?_append, List.getLast?_cons, ht]
      rfl

/-- A list is split into the arguments that it is a list of. -/
theorem Listing.split_eq {as : List Argument} {ts : List Token}
    (h : Listing (as.map tokens) ts) : split ts = .ok as := by
  obtain ⟨bs, hs, hbs⟩ := h.exists_split
  rw [hs, (List.map_inj_right tokens_injective).1 hbs]

/-- Splitting gives back the arguments that were joined. -/
theorem split_joinTokens {as : List Argument} (h : ∀ a ∈ as, IsRun a.tokens) :
    split (joinTokens (as.map tokens)) = .ok as := by
  refine (listing_joinTokens ?_).split_eq
  intro run hr
  obtain ⟨a, ha, rfl⟩ := List.mem_map.1 hr
  exact h a ha

/-- A comma behind the last argument changes nothing. -/
theorem split_append_comma {ts : List Token} {comma : Token} (hc : comma.isComma) (hne : ts ≠ [])
    (hend : ∀ t, ts.getLast? = some t → t.isComma = false) : split (ts ++ [comma]) = split ts := by
  cases hs : split ts with
  | ok as => exact ((listing_of_split hs).append_comma hc hne hend).split_eq
  | error e =>
    obtain ⟨runs, front, c, hfront, hmis, rfl⟩ := misplacedAt_of_splitBehind (by simp) hs
    obtain ⟨back, hback⟩ := hmis.stands
    rw [pending_none, List.nil_append] at hback
    refine hfront.split_eq_error ⟨⟨back ++ [comma], ?_⟩, hmis.isComma, hmis.opens⟩
    rw [hback, List.append_assoc, List.cons_append]

/-! ## Exactness -/

/-- **Splitting is exact.** It succeeds on listings only and gives their runs, each with the place
of its first token; on any other stream it blames the first misplaced comma. What was joined is
given back, with or without a comma at the end, and a comma put behind a stream that does not end
with one is never noticed. -/
theorem split_exact :
    (∀ ts runs, (split ts).map (List.map tokens) = .ok runs ↔ Listing runs ts)
      ∧ (∀ ts as, split ts = .ok as → ∀ a ∈ as, a.tokens.head?.map Token.span = some a.span)
      ∧ (∀ ts e, split ts = .error e
          ↔ ∃ comma, FirstMisplaced ts comma ∧ e = Issue.error .emptyArgument comma.span)
      ∧ (∀ runs, (∀ run ∈ runs, IsRun run) →
          (split (joinTokens runs)).map (List.map tokens) = .ok runs
            ∧ ∀ comma : Token, comma.isComma → runs ≠ [] →
              (split (joinTokens runs ++ [comma])).map (List.map tokens) = .ok runs)
      ∧ ∀ (ts : List Token) (comma : Token), comma.isComma → ts ≠ [] →
          (∀ t, ts.getLast? = some t → t.isComma = false) →
          split (ts ++ [comma]) = split ts := by
  refine ⟨fun ts runs => map_split_eq_ok_iff, fun ts as _ a _ => rfl,
    fun ts e => split_eq_error_iff, ?_, fun ts comma => split_append_comma⟩
  intro runs hruns
  refine ⟨map_split_eq_ok_iff.2 (listing_joinTokens hruns), fun comma hc hne => ?_⟩
  exact map_split_eq_ok_iff.2
    (listing_joinTokens_append (fun run hrun => .cons hrun hc .nil) hruns hne)

/-- `a, (a, a),`: the commas in the group and at the end separate nothing. -/
theorem split_exact_nested :
    let a : Token := .ident "a" .callSite
    let pair : Token := .group .paren [a, .mark ',', a] .callSite
    (∀ run ∈ [[a], [pair]], IsRun run)
      ∧ (split [a, .mark ',', pair, .mark ',']).map (List.map tokens) = .ok [[a], [pair]] := by
  intro a pair
  have hruns : ∀ run ∈ [[a], [pair]], IsRun run := by simp [IsRun, a, pair]
  exact ⟨hruns, (split_exact.2.2.2.1 [[a], [pair]] hruns).2 (.mark ',') rfl (by simp)⟩

end Argument
end Variadic
