import Mathlib.Data.Nat.Digits.Defs
import Variadic.Proofs.Numerals

/-!
# How integer literals are spelled

`Numeral.ofText?` takes the text of a literal apart from left to right. `Numeral.SpelledBy` says
what it accepts: the mark of a base or none, digits of the base with underscores among them, and a
suffix, which in a decimal must not read as an exponent. The two agree on every text
(`ofText?_eq_some_iff`), and the value is that of the digits in their base (`value_eq_ofDigits`).
-/

namespace Variadic
namespace Numeral

open Text

/-! ## Spelling -/

/-- Where digits of a base end: neither an underscore nor another digit comes next. -/
def EndsDigits (base : Nat) (rest : List Char) : Prop :=
  ∀ c, rest.head? = some c → c ≠ '_' ∧ ∀ d, hexDigit? c = some d → base ≤ d

/-- The text is made of digits of a base, the most significant first, with underscores anywhere
among them, and of what comes behind them. -/
inductive DigitRun (base : Nat) : List Char → List Nat → List Char → Prop
  | done {rest : List Char} (h : EndsDigits base rest) : DigitRun base rest [] rest
  | gap {cs rest : List Char} {ds : List Nat} (h : DigitRun base cs ds rest) :
      DigitRun base ('_' :: cs) ds rest
  | digit {c : Char} {cs rest : List Char} {d : Nat} {ds : List Nat} (hc : hexDigit? c = some d)
      (hd : d < base) (h : DigitRun base cs ds rest) : DigitRun base (c :: cs) (d :: ds) rest

/-- Nothing, or a word. -/
def IsWordOrNil (cs : List Char) : Prop :=
  cs = [] ∨ isWord cs

/-- An `e` and decimal digits, and perhaps a word behind them: behind decimal digits, the exponent
of a float. -/
def ReadsAsExponent (suffix : List Char) : Prop :=
  ∃ mark power ds word, suffix = mark :: power ∧ (mark = 'e' ∨ mark = 'E')
    ∧ DigitRun 10 power ds word ∧ ds ≠ [] ∧ IsWordOrNil word

/-- What may stand behind the digits of an integer. -/
structure IsSuffix (base : Nat) (suffix : List Char) : Prop where
  word : IsWordOrNil suffix
  noExponent : base = 10 → ¬ReadsAsExponent suffix

/-- The marks in front of digits, and the bases that they stand for. -/
def marks : List (List Char × Nat) :=
  [(['0', 'x'], 16), (['0', 'o'], 8), (['0', 'b'], 2)]

/-- No mark stands in front of the text. -/
def IsUnmarked (text : List Char) : Prop :=
  ∀ mark base, (mark, base) ∈ marks → ¬mark <+: text

/-- The text is that of an integer literal: marked digits of another base, or decimal ones, which do
not begin with an underscore. -/
inductive SpelledBy (n : Numeral) : List Char → Prop
  | marked {mark body : List Char} (hmark : (mark, n.base) ∈ marks)
      (hbody : DigitRun n.base body n.digits n.suffix) (hdigits : n.digits ≠ [])
      (hsuffix : IsSuffix n.base n.suffix) : SpelledBy n (mark ++ body)
  | decimal {c : Char} {cs : List Char} (hbase : n.base = 10) (hc : c.isDigit)
      (hunmarked : IsUnmarked (c :: cs)) (hbody : DigitRun 10 (c :: cs) n.digits n.suffix)
      (hsuffix : IsSuffix 10 n.suffix) : SpelledBy n (c :: cs)

/-! ## Characters -/

/-- The values of the digits: those below ten are of the decimal ones. -/
theorem hexDigit?_bounds {c : Char} {d : Nat} (h : hexDigit? c = some d) :
    d < 16 ∧ (d < 10 → c.isDigit) := by
  simp only [hexDigit?, Char.le_def, UInt32.le_iff_toNat_le, Char.toNat_val] at h
  have h9 : '9'.toNat = 57 := rfl
  have h0 : '0'.toNat = 48 := rfl
  have hf : 'f'.toNat = 102 := rfl
  have ha : 'a'.toNat = 97 := rfl
  have hF : 'F'.toNat = 70 := rfl
  have hA : 'A'.toNat = 65 := rfl
  split at h
  · next hdigit =>
    have hd := Option.some.inj h
    refine ⟨by omega, fun _ => ?_⟩
    simp only [Char.isDigit, Bool.and_eq_true, decide_eq_true_eq, UInt32.le_iff_toNat_le,
      Char.toNat_val, ge_iff_le]
    exact hdigit
  · split at h
    · have hd := Option.some.inj h
      omega
    · split at h
      · have hd := Option.some.inj h
        omega
      · cases h

theorem hexDigit?_gap : hexDigit? '_' = none := rfl

theorem isDigit_bounds {c : Char} (h : c.isDigit) : 48 ≤ c.toNat ∧ c.toNat ≤ 57 := by
  simp only [Char.isDigit, Bool.and_eq_true, decide_eq_true_eq, UInt32.le_iff_toNat_le,
    Char.toNat_val, ge_iff_le] at h
  exact h

/-- All letters come behind the digits. -/
theorem not_isAlpha_of_isDigit {c : Char} (h : c.isDigit) : c.isAlpha = false := by
  have hbelow : ∀ d : Char, 57 < d.toNat → ¬c.val ≥ d.val := by
    intro d hd
    have hc := isDigit_bounds h
    rw [ge_iff_le, UInt32.le_iff_toNat_le, Char.toNat_val, Char.toNat_val]
    omega
  have hupper : c.isUpper = false := by
    apply decide_eq_false
    exact fun hc => hbelow 'A' (by decide) hc.1
  have hlower : c.isLower = false := by
    show (decide (c.val ≥ 'a'.val) && _) = false
    rw [decide_eq_false (hbelow 'a' (by decide)), Bool.false_and]
  show (c.isUpper || c.isLower) = false
  rw [hupper, hlower, Bool.false_or]

theorem not_isIdentStart_of_isDigit {c : Char} (h : c.isDigit) : isIdentStart c = false := by
  have hascii : isAscii c := by
    have hc := isDigit_bounds h
    rw [isAscii, decide_eq_true_eq]
    omega
  have hgap : c ≠ '_' := ne_of_isDigit h rfl
  rw [isIdentStart, if_pos hascii, not_isAlpha_of_isDigit h, Bool.false_or, decide_eq_false hgap]

/-- A character of a word is none of the characters that end one. -/
theorem ne_of_isIdentContinue {c d : Char} (hc : isIdentContinue c)
    (hd : isIdentContinue d = false) : c ≠ d := by
  rintro rfl
  rw [hc] at hd
  cases hd

/-! ## Digits and their end -/

theorem endsDigits_nil (base : Nat) : EndsDigits base [] :=
  fun c hc => by cases hc

/-- Digits end at a character that is neither a gap nor a digit of the base. -/
theorem endsDigits_cons {base : Nat} {c : Char} {cs : List Char} :
    EndsDigits base (c :: cs) ↔ c ≠ '_' ∧ ∀ d, hexDigit? c = some d → base ≤ d := by
  constructor
  · intro h
    exact h c rfl
  · intro h c' hc'
    rw [← Option.some.inj hc']
    exact h

theorem endsDigits_of_none {base : Nat} {c : Char} (hgap : c ≠ '_') (h : hexDigit? c = none)
    (cs : List Char) : EndsDigits base (c :: cs) :=
  endsDigits_cons.2 ⟨hgap, fun d hd => by cases h.symm.trans hd⟩

theorem endsDigits_of_le {base : Nat} {c : Char} {d : Nat} (hgap : c ≠ '_')
    (h : hexDigit? c = some d) (hle : base ≤ d) (cs : List Char) : EndsDigits base (c :: cs) := by
  refine endsDigits_cons.2 ⟨hgap, fun d' hd' => ?_⟩
  rw [← Option.some.inj (h.symm.trans hd')]
  exact hle

/-- Digits of a base up to ten end at a character that is no decimal digit. -/
theorem endsDigits_of_not_isDigit {base : Nat} {c : Char} (hbase : base ≤ 10) (hgap : c ≠ '_')
    (hdigit : c.isDigit = false) (cs : List Char) : EndsDigits base (c :: cs) := by
  refine endsDigits_cons.2 ⟨hgap, fun d hd => ?_⟩
  by_contra hlt
  have htrue : c.isDigit := (hexDigit?_bounds hd).2 (by omega)
  rw [hdigit] at htrue
  cases htrue

/-- Where digits end, a run of them is empty. -/
theorem digitRun_of_endsDigits {base : Nat} {cs rest : List Char} {ds : List Nat}
    (h : EndsDigits base cs) : DigitRun base cs ds rest ↔ ds = [] ∧ rest = cs := by
  constructor
  · intro hrun
    cases hrun with
    | done => exact ⟨rfl, rfl⟩
    | gap => exact absurd rfl (endsDigits_cons.1 h).1
    | digit hc hd =>
      have hle := (endsDigits_cons.1 h).2 _ hc
      omega
  · rintro ⟨rfl, rfl⟩
    exact .done h

/-- Gaps between digits do not count. -/
theorem digitRun_gap {base : Nat} {cs rest : List Char} {ds : List Nat} :
    DigitRun base ('_' :: cs) ds rest ↔ DigitRun base cs ds rest := by
  constructor
  · intro hrun
    cases hrun with
    | done h => exact absurd rfl (endsDigits_cons.1 h).1
    | gap h => exact h
    | digit hc => cases hexDigit?_gap.symm.trans hc
  · exact .gap

/-- A digit of the base stands in front of the digits behind it. -/
theorem digitRun_digit {base : Nat} {c : Char} {cs rest : List Char} {d : Nat} {ds : List Nat}
    (hc : hexDigit? c = some d) (hd : d < base) :
    DigitRun base (c :: cs) ds rest ↔ ∃ ds', ds = d :: ds' ∧ DigitRun base cs ds' rest := by
  constructor
  · intro hrun
    cases hrun with
    | done h =>
      have hle := (endsDigits_cons.1 h).2 d hc
      omega
    | gap => cases hexDigit?_gap.symm.trans hc
    | digit hc' _ h =>
      rw [hc] at hc'
      rw [← Option.some.inj hc']
      exact ⟨_, rfl, h⟩
  · rintro ⟨ds', rfl, h⟩
    exact .digit hc hd h

/-- Digits are read in one way. -/
theorem DigitRun.unique {base : Nat} {cs rest rest' : List Char} {ds ds' : List Nat}
    (h : DigitRun base cs ds rest) (h' : DigitRun base cs ds' rest') :
    ds' = ds ∧ rest' = rest := by
  induction h generalizing ds' with
  | done hends => exact (digitRun_of_endsDigits hends).1 h'
  | gap _ ih => exact ih (digitRun_gap.1 h')
  | digit hc hd _ ih =>
    obtain ⟨ds'', rfl, h''⟩ := (digitRun_digit hc hd).1 h'
    obtain ⟨rfl, hrest⟩ := ih h''
    exact ⟨rfl, hrest⟩

/-! ## Suffixes -/

theorem isWordOrNil_cons {c : Char} {cs : List Char} :
    IsWordOrNil (c :: cs) ↔ isIdentStart c ∧ cs.all isIdentContinue := by
  rw [IsWordOrNil, or_iff_right (List.cons_ne_nil c cs), isWord, Bool.and_eq_true]

theorem IsWordOrNil.continues {cs : List Char} (h : IsWordOrNil cs) :
    ∀ c ∈ cs, isIdentContinue c := by
  cases cs with
  | nil => exact fun c hc => absurd hc List.not_mem_nil
  | cons c cs =>
    obtain ⟨hstart, hbehind⟩ := isWordOrNil_cons.1 h
    rw [List.all_eq_true] at hbehind
    exact List.forall_mem_cons.2 ⟨isIdentContinue_of_isIdentStart hstart, hbehind⟩

/-- An exponent has a digit, and nothing but a word follows its digits. The texts asked about are
those behind an `e` in a word, where there is no sign. -/
theorem isExponent_iff {cs : List Char} (hcs : ∀ c ∈ cs, isIdentContinue c) (seen : Bool) :
    isExponent seen cs
      ↔ ∃ ds word, DigitRun 10 cs ds word ∧ (seen ∨ ds ≠ []) ∧ IsWordOrNil word := by
  fun_induction isExponent seen cs with
  | case1 seen =>
    simp only [digitRun_of_endsDigits (endsDigits_nil 10)]
    constructor
    · intro hseen
      exact ⟨[], [], ⟨rfl, rfl⟩, Or.inl hseen, Or.inl rfl⟩
    · rintro ⟨ds, word, ⟨rfl, rfl⟩, hseen, -⟩
      exact hseen.resolve_right fun hne => hne rfl
  | case2 seen cs ih =>
    simp only [digitRun_gap]
    exact ih (List.forall_mem_cons.1 hcs).2
  | case3 seen c cs hgap hsign =>
    have hplus : c ≠ '+' := ne_of_isIdentContinue (List.forall_mem_cons.1 hcs).1 rfl
    have hminus : c ≠ '-' := ne_of_isIdentContinue (List.forall_mem_cons.1 hcs).1 rfl
    simp [hplus, hminus] at hsign
  | case4 seen c cs hgap hsign hdigit ih =>
    have hten := hexDigit?_of_isDigit hdigit
    simp only [digitRun_digit hten (digit_lt_ten hdigit)]
    rw [ih (List.forall_mem_cons.1 hcs).2]
    constructor
    · rintro ⟨ds, word, hrun, -, hword⟩
      exact ⟨_, word, ⟨ds, rfl, hrun⟩, Or.inr (List.cons_ne_nil _ _), hword⟩
    · rintro ⟨-, word, ⟨ds, rfl, hrun⟩, -, hword⟩
      exact ⟨ds, word, hrun, Or.inl rfl, hword⟩
  | case5 seen c cs hgap hsign hdigit =>
    have hends : EndsDigits 10 (c :: cs) :=
      endsDigits_of_not_isDigit (Nat.le_refl 10) hgap (Bool.eq_false_of_not_eq_true hdigit) cs
    simp only [digitRun_of_endsDigits hends]
    constructor
    · intro h
      rw [Bool.and_eq_true] at h
      exact ⟨[], c :: cs, ⟨rfl, rfl⟩, Or.inl h.1, Or.inr h.2⟩
    · rintro ⟨ds, word, ⟨rfl, rfl⟩, hseen, hword⟩
      rw [hseen.resolve_right fun hne => hne rfl, hword.resolve_left (List.cons_ne_nil c cs)]
      rfl

/-- A mark is read as that of an exponent if digits and then at most a word stand behind it. -/
theorem readsAsExponent_of_digitRun {mark : Char} {power word : List Char} {ds : List Nat}
    (hmark : mark = 'e' ∨ mark = 'E') (hrun : DigitRun 10 power ds word) :
    ReadsAsExponent (mark :: power) ↔ ds ≠ [] ∧ IsWordOrNil word := by
  constructor
  · rintro ⟨mark', power', ds', word', heq, -, hrun', hne, hword⟩
    obtain ⟨rfl, rfl⟩ := List.cons.inj heq
    obtain ⟨rfl, rfl⟩ := hrun.unique hrun'
    exact ⟨hne, hword⟩
  · rintro ⟨hne, hword⟩
    exact ⟨mark, power, ds, word, rfl, hmark, hrun, hne, hword⟩

theorem endsDigits_of_mark {c : Char} (hc : c = 'e' ∨ c = 'E') (cs : List Char) :
    EndsDigits 10 (c :: cs) := by
  rcases hc with rfl | rfl
  · exact endsDigits_of_not_isDigit (Nat.le_refl 10) (by decide) rfl cs
  · exact endsDigits_of_not_isDigit (Nat.le_refl 10) (by decide) rfl cs

/-- Of the words behind digits, exponents are those with a mark and what an exponent can be behind
it. -/
theorem readsAsExponent_cons {c : Char} {cs : List Char} (h : IsWordOrNil (c :: cs)) :
    ReadsAsExponent (c :: cs) ↔ (c = 'e' ∨ c = 'E') ∧ isExponent false cs := by
  have hcs : ∀ d ∈ cs, isIdentContinue d := (List.forall_mem_cons.1 h.continues).2
  rw [isExponent_iff hcs]
  constructor
  · rintro ⟨mark, power, ds, word, heq, hmark, hrun, hne, hword⟩
    obtain ⟨rfl, rfl⟩ := List.cons.inj heq
    exact ⟨hmark, ds, word, hrun, Or.inr hne, hword⟩
  · rintro ⟨hmark, ds, word, hrun, hseen, hword⟩
    have hne : ds ≠ [] := hseen.resolve_left Bool.false_ne_true
    exact ⟨c, cs, ds, word, rfl, hmark, hrun, hne, hword⟩

/-! ## Reading -/

section
variable {base : Nat} {rest suffix : List Char} {ds : List Nat}

/-- Digits that end are split off, if what follows is a suffix whenever it is a word. -/
theorem splits_of_endsDigits (hends : EndsDigits base rest)
    (hword : IsWordOrNil rest → base = 10 → ¬ReadsAsExponent rest) :
    some ([], rest) = some (ds, suffix) ∧ IsWordOrNil suffix
      ↔ DigitRun base rest ds suffix ∧ IsSuffix base suffix := by
  rw [digitRun_of_endsDigits hends]
  constructor
  · rintro ⟨heq, hsuffix⟩
    obtain ⟨rfl, rfl⟩ := Prod.mk.inj (Option.some.inj heq)
    exact ⟨⟨rfl, rfl⟩, hsuffix, hword hsuffix⟩
  · rintro ⟨⟨rfl, rfl⟩, hsuffix⟩
    exact ⟨rfl, hsuffix.word⟩

/-- Digits that end with anything but a suffix are refused. -/
theorem refuses_of_endsDigits (hends : EndsDigits base rest) (hsuffix : ¬IsSuffix base rest) :
    none = some (ds, suffix) ∧ IsWordOrNil suffix
      ↔ DigitRun base rest ds suffix ∧ IsSuffix base suffix := by
  rw [digitRun_of_endsDigits hends]
  constructor
  · rintro ⟨heq, -⟩
    cases heq
  · rintro ⟨⟨rfl, rfl⟩, h⟩
    exact absurd h hsuffix

end

/-- A text is split where its digits end, unless what follows reads as an exponent. -/
theorem split?_eq_some_iff {base : Nat} (hbase : base = 16 ∨ base ≤ 10) {cs suffix : List Char}
    {ds : List Nat} :
    split? base cs = some (ds, suffix) ∧ IsWordOrNil suffix
      ↔ DigitRun base cs ds suffix ∧ IsSuffix base suffix := by
  -- a digit and an underscore go on; in all other cases the digits end where the reader is
  fun_induction split? base cs generalizing ds with
  | case1 =>
    refine splits_of_endsDigits (endsDigits_nil base) fun _ _ h => ?_
    obtain ⟨mark, power, ds, word, heq, -⟩ := h
    cases heq
  | case2 cs ih =>
    rw [digitRun_gap]
    exact ih
  | case3 c cs hgap hpoint =>
    simp only [Bool.and_eq_true, decide_eq_true_eq] at hpoint
    obtain ⟨rfl, rfl⟩ := hpoint
    refine refuses_of_endsDigits (endsDigits_of_none hgap rfl cs) fun h => ?_
    cases (isWordOrNil_cons.1 h.word).1
  | case4 c cs hgap hpoint he hexp =>
    simp only [Bool.and_eq_true, Bool.or_eq_true, decide_eq_true_eq] at he
    obtain ⟨rfl, he⟩ := he
    refine refuses_of_endsDigits (endsDigits_of_mark he cs) fun h => ?_
    exact h.noExponent rfl ((readsAsExponent_cons h.word).2 ⟨he, hexp⟩)
  | case5 c cs hgap hpoint he hexp =>
    simp only [Bool.and_eq_true, Bool.or_eq_true, decide_eq_true_eq] at he
    obtain ⟨rfl, he⟩ := he
    refine splits_of_endsDigits (endsDigits_of_mark he cs) fun hword _ h => ?_
    exact hexp ((readsAsExponent_cons hword).1 h).2
  | case6 c cs hgap hpoint he hdigit =>
    simp only [Bool.and_eq_true, Bool.or_eq_true, decide_eq_true_eq, not_and,
      Bool.not_eq_true'] at he hdigit
    have hends := endsDigits_of_not_isDigit hdigit.1 hgap hdigit.2 cs
    refine splits_of_endsDigits hends fun hword hten h => ?_
    exact he hten ((readsAsExponent_cons hword).1 h).1
  | case7 c cs hgap hpoint he hdigit hnone =>
    simp only [Bool.and_eq_true, Bool.or_eq_true, decide_eq_true_eq, not_and] at he
    refine splits_of_endsDigits (endsDigits_of_none hgap hnone cs) fun hword hten h => ?_
    exact he hten ((readsAsExponent_cons hword).1 h).1
  | case8 c cs hgap hpoint he hdigit d hd hlt ih =>
    simp only [digitRun_digit hd hlt, Option.map_eq_some_iff, Prod.exists, Prod.map_apply, id_eq,
      Prod.mk.injEq]
    constructor
    · rintro ⟨⟨ds', suffix', hsplit, rfl, rfl⟩, hword⟩
      obtain ⟨hrun, hsuffix⟩ := ih.1 ⟨hsplit, hword⟩
      exact ⟨⟨ds', rfl, hrun⟩, hsuffix⟩
    · rintro ⟨⟨ds', rfl, hrun⟩, hsuffix⟩
      obtain ⟨hsplit, hword⟩ := ih.2 ⟨hrun, hsuffix⟩
      exact ⟨⟨ds', suffix, hsplit, rfl, rfl⟩, hword⟩
  | case9 c cs hgap hpoint he hdigit d hd hlt =>
    have hends := endsDigits_of_le hgap hd (Nat.le_of_not_lt hlt) cs
    refine refuses_of_endsDigits hends fun h => ?_
    -- a hexadecimal digit is of base 16, so the base is at most ten and `c` a decimal digit
    have hdecimal : base ≤ 10 := hbase.resolve_left fun h16 => hlt (h16 ▸ (hexDigit?_bounds hd).1)
    have hc : c.isDigit := by
      simpa [hdecimal] using hdigit
    cases (not_isIdentStart_of_isDigit hc).symm.trans (isWordOrNil_cons.1 h.word).1

/-- Digits are read to the end of their run, and what is behind has to be a suffix. -/
theorem ofDigits?_eq_some_iff {base : Nat} (hbase : base = 16 ∨ base ≤ 10) {text : List Char}
    {n : Numeral} :
    ofDigits? base text = some n
      ↔ n.base = base ∧ DigitRun base text n.digits n.suffix ∧ n.digits ≠ []
        ∧ IsSuffix base n.suffix := by
  rw [ofDigits?]
  constructor
  · intro h
    split at h
    · cases h
    · next digits suffix hsplit =>
      split at h
      · next hcond =>
        simp only [Bool.and_eq_true, Bool.or_eq_true, Bool.not_eq_true', List.isEmpty_eq_false_iff,
          List.isEmpty_iff] at hcond
        rw [← Option.some.inj h]
        obtain ⟨hrun, hsuffix⟩ := (split?_eq_some_iff hbase).1 ⟨hsplit, hcond.2⟩
        exact ⟨rfl, hrun, hcond.1, hsuffix⟩
      · cases h
  · rintro ⟨rfl, hrun, hdigits, hsuffix⟩
    obtain ⟨hsplit, hword⟩ := (split?_eq_some_iff hbase).2 ⟨hrun, hsuffix⟩
    rw [hsplit]
    refine if_pos ?_
    simp only [Bool.and_eq_true, Bool.or_eq_true, Bool.not_eq_true', List.isEmpty_eq_false_iff,
      List.isEmpty_iff]
    exact ⟨hdigits, hword⟩

/-! ## Marks -/

/-- There are three marks. -/
@[elab_as_elim]
theorem forall_mem_marks {motive : List Char → Nat → Prop} (hexadecimal : motive ['0', 'x'] 16)
    (octal : motive ['0', 'o'] 8) (binary : motive ['0', 'b'] 2) {mark : List Char} {base : Nat}
    (h : (mark, base) ∈ marks) : motive mark base := by
  simp only [marks, List.mem_cons, Prod.mk.injEq, List.not_mem_nil, or_false] at h
  rcases h with ⟨rfl, rfl⟩ | ⟨rfl, rfl⟩ | ⟨rfl, rfl⟩
  · exact hexadecimal
  · exact octal
  · exact binary

theorem length_of_mem_marks {mark : List Char} {base : Nat} (h : (mark, base) ∈ marks) :
    mark.length = 2 :=
  forall_mem_marks rfl rfl rfl h

/-- Marks stand for the other bases, not for ten. -/
theorem base_of_mem_marks {mark : List Char} {base : Nat} (h : (mark, base) ∈ marks) :
    (base = 16 ∨ base ≤ 10) ∧ base ≠ 10 :=
  forall_mem_marks (by decide) (by decide) (by decide) h

/-- A text has one of the marks in front or none. -/
theorem exists_mark_or_isUnmarked (text : List Char) :
    (∃ mark base body, (mark, base) ∈ marks ∧ text = mark ++ body) ∨ IsUnmarked text := by
  by_cases h : IsUnmarked text
  · exact Or.inr h
  · left
    simp only [IsUnmarked, not_forall, not_not] at h
    obtain ⟨mark, base, hmark, body, hbody⟩ := h
    exact ⟨mark, base, body, hmark, hbody.symm⟩

/-- Behind a mark, digits of its base are read. -/
theorem ofText?_of_mark {mark : List Char} {base : Nat} (h : (mark, base) ∈ marks)
    (body : List Char) : ofText? (mark ++ body) = ofDigits? base body :=
  forall_mem_marks rfl rfl rfl h

/-- Without a mark, a literal has to begin with a decimal digit. -/
theorem ofText?_of_isUnmarked {c : Char} {cs : List Char} (h : IsUnmarked (c :: cs)) :
    ofText? (c :: cs) = if c.isDigit then ofDigits? 10 (c :: cs) else none := by
  rw [ofText?]
  · rintro body rfl rfl
    exact h ['0', 'x'] 16 (by decide) ⟨body, rfl⟩
  · rintro body rfl rfl
    exact h ['0', 'o'] 8 (by decide) ⟨body, rfl⟩
  · rintro body rfl rfl
    exact h ['0', 'b'] 2 (by decide) ⟨body, rfl⟩

/-- What is read from a text is what the text spells. -/
theorem ofText?_eq_some_iff {text : List Char} {n : Numeral} :
    ofText? text = some n ↔ n.SpelledBy text := by
  constructor
  · intro h
    rcases exists_mark_or_isUnmarked text with ⟨mark, base, body, hmark, rfl⟩ | hunmarked
    · rw [ofText?_of_mark hmark, ofDigits?_eq_some_iff (base_of_mem_marks hmark).1] at h
      obtain ⟨rfl, hbody, hdigits, hsuffix⟩ := h
      exact .marked hmark hbody hdigits hsuffix
    · cases text with
      | nil => cases h
      | cons c cs =>
        rw [ofText?_of_isUnmarked hunmarked] at h
        split at h
        · next hc =>
          obtain ⟨hbase, hbody, -, hsuffix⟩ := (ofDigits?_eq_some_iff (Or.inr (by decide))).1 h
          exact .decimal hbase hc hunmarked hbody hsuffix
        · cases h
  · intro h
    cases h with
    | marked hmark hbody hdigits hsuffix =>
      rw [ofText?_of_mark hmark, ofDigits?_eq_some_iff (base_of_mem_marks hmark).1]
      exact ⟨rfl, hbody, hdigits, hsuffix⟩
    | decimal hbase hc hunmarked hbody hsuffix =>
      obtain ⟨ds, hds, -⟩ := (digitRun_digit (hexDigit?_of_isDigit hc) (digit_lt_ten hc)).1 hbody
      have hdigits : n.digits ≠ [] := by
        rw [hds]
        exact List.cons_ne_nil _ ds
      rw [ofText?_of_isUnmarked hunmarked, if_pos hc, ofDigits?_eq_some_iff (Or.inr (by decide))]
      exact ⟨hbase, hbody, hdigits, hsuffix⟩

/-- An integer begins with a digit. -/
theorem SpelledBy.isDigit_head {n : Numeral} {text : List Char} (h : n.SpelledBy text) :
    text.head?.any Char.isDigit := by
  cases h with
  | @marked mark body hmark =>
    show (mark ++ body).head?.any Char.isDigit
    exact forall_mem_marks rfl rfl rfl hmark
  | decimal _ hc => exact hc

/-! ## Value -/

/-- The value is that of the digits in the base, the first one counting most. -/
theorem value_eq_ofDigits (n : Numeral) : n.value = Nat.ofDigits n.base n.digits.reverse := by
  rw [Nat.ofDigits_eq_foldr, List.foldr_reverse, value]
  congr
  funext v d
  exact Nat.add_comm _ _

end Numeral

/-- A literal that spells an integer is zero if its value is. -/
theorem isZeroLiteral_of_spelledBy {text : String} {n : Numeral} (h : n.SpelledBy text.toList) :
    isZeroLiteral text = decide (Nat.ofDigits n.base n.digits.reverse = 0) := by
  rw [isZeroLiteral, Numeral.ofText?_eq_some_iff.2 h, Option.any_some, Numeral.value_eq_ofDigits]

/-- A literal that spells no integer is not taken for zero. -/
theorem isZeroLiteral_of_not_spelledBy {text : String}
    (h : ∀ n : Numeral, ¬n.SpelledBy text.toList) : isZeroLiteral text = false := by
  have hnone : Numeral.ofText? text.toList = none := by
    rw [Option.eq_none_iff_forall_ne_some]
    intro n hn
    exact h n (Numeral.ofText?_eq_some_iff.1 hn)
  rw [isZeroLiteral, hnone, Option.any_none]

end Variadic
