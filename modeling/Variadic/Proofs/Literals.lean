import Mathlib.Data.List.TakeWhile
import Variadic.Lexeme.Number
import Variadic.Lexeme.Quoted
import Variadic.Proofs.IntegerLiterals
import Variadic.Proofs.Interception

/-!
# Negations of literals

The scanner measures literals without reading them, and tries floats before integers. Its decisions
fit those of the reader of literals: a number spells an integer or it is a float, never both
(`exists_spelledBy_iff_not_isFloat`), and a quoted literal spells none. A negation decides all of
them (`not_decides_literals`).
-/

namespace Variadic
namespace Lexeme

open Text Numeral

/-- The text as a whole is a float. -/
def IsFloat (cs : List Char) : Prop :=
  (unsuffixedFloat? cs).bind (withSuffix? cs) = some cs.length

instance (cs : List Char) : Decidable (IsFloat cs) :=
  inferInstanceAs (Decidable ((unsuffixedFloat? cs).bind (withSuffix? cs) = some cs.length))

/-! ## Digits -/

theorem countWhile_cons_of_pos {p : Char → Bool} {c : Char} (h : p c) (cs : List Char) :
    countWhile p (c :: cs) = countWhile p cs + 1 := by
  rw [countWhile, List.takeWhile_cons_of_pos h]
  rfl

theorem countWhile_cons_of_neg {p : Char → Bool} {c : Char} (h : p c = false) (cs : List Char) :
    countWhile p (c :: cs) = 0 := by
  rw [countWhile, List.takeWhile_cons_of_neg (by simp [h])]
  rfl

theorem isDigitOrGap_of_isDigit {c : Char} (h : c.isDigit) : isDigitOrGap c := by
  rw [isDigitOrGap, h]
  rfl

/-- Digits end where no decimal digit goes on. -/
theorem not_isDigit_of_endsDigits {c : Char} {cs : List Char} (h : EndsDigits 10 (c :: cs)) :
    c.isDigit = false := by
  by_contra hc
  have hdigit : c.isDigit := Bool.eq_true_of_not_eq_false hc
  have hle := (endsDigits_cons.1 h).2 _ (hexDigit?_of_isDigit hdigit)
  have hlt := digit_lt_ten hdigit
  omega

theorem not_isDigitOrGap_of_endsDigits {c : Char} {cs : List Char} (h : EndsDigits 10 (c :: cs)) :
    isDigitOrGap c = false := by
  rw [isDigitOrGap, not_isDigit_of_endsDigits h, decide_eq_false (endsDigits_cons.1 h).1]
  rfl

/-- Decimal digits and underscores among them are counted up to their end. -/
theorem drop_of_digitRun {cs rest : List Char} {ds : List Nat} (h : DigitRun 10 cs ds rest) :
    cs.drop (countWhile isDigitOrGap cs) = rest := by
  induction h with
  | @done rest h =>
    cases rest with
    | nil => rfl
    | cons c cs => rw [countWhile_cons_of_neg (not_isDigitOrGap_of_endsDigits h), List.drop_zero]
  | gap _ ih =>
    rw [countWhile_cons_of_pos rfl, List.drop_succ_cons]
    exact ih
  | digit hc hd _ ih =>
    have hdigit := isDigitOrGap_of_isDigit ((hexDigit?_bounds hc).2 hd)
    rw [countWhile_cons_of_pos hdigit, List.drop_succ_cons]
    exact ih

/-- Every text begins with a run of digits, perhaps an empty one. -/
theorem exists_digitRun (cs : List Char) : ∃ ds rest, DigitRun 10 cs ds rest := by
  induction cs with
  | nil => exact ⟨[], [], .done (endsDigits_nil 10)⟩
  | cons c cs ih =>
    obtain ⟨ds, rest, hrun⟩ := ih
    by_cases hgap : c = '_'
    · rw [hgap]
      exact ⟨ds, rest, .gap hrun⟩
    · by_cases hdigit : c.isDigit
      · exact ⟨_, rest, .digit (hexDigit?_of_isDigit hdigit) (digit_lt_ten hdigit) hrun⟩
      · have hc : c.isDigit = false := Bool.eq_false_of_not_eq_true hdigit
        exact ⟨[], _, .done (endsDigits_of_not_isDigit (Nat.le_refl 10) hgap hc cs)⟩

/-! ## Exponents -/

/-- Gaps in front of an exponent belong to it. -/
theorem exponent?_gap (cs : List Char) : exponent? ('_' :: cs) = (exponent? cs).map (1 + ·) := by
  unfold exponent?
  rw [countWhile_cons_of_pos (by rfl)]
  simp only [List.drop_succ_cons, Nat.add_right_comm _ 1]
  split
  · split
    · rw [Option.map_some, Nat.zero_add, Nat.add_comm]
    · rfl
  · rfl

/-- An exponent without a sign begins with a digit. -/
theorem exponent?_cons {c : Char} (hgap : c ≠ '_') (hplus : c ≠ '+') (hminus : c ≠ '-')
    (cs : List Char) : exponent? (c :: cs)
      = if c.isDigit then some (countWhile isDigitOrGap (c :: cs)) else none := by
  have hcount : countWhile (· = '_') (c :: cs) = 0 :=
    countWhile_cons_of_neg (decide_eq_false hgap) cs
  simp [exponent?, hcount, hplus, hminus]

/-- Without a sign, an exponent is measured to the end of its digits, and there has to be one. -/
theorem exponent?_of_digitRun {cs rest : List Char} {ds : List Nat} (h : DigitRun 10 cs ds rest)
    (hcs : ∀ c ∈ cs, isIdentContinue c) :
    exponent? cs = if ds = [] then none else some (countWhile isDigitOrGap cs) := by
  induction h with
  | @done rest h =>
    cases rest with
    | nil => rfl
    | cons c cs =>
      have hc : isIdentContinue c := (List.forall_mem_cons.1 hcs).1
      have hgap : c ≠ '_' := (endsDigits_cons.1 h).1
      rw [exponent?_cons hgap (ne_of_isIdentContinue hc rfl) (ne_of_isIdentContinue hc rfl),
        not_isDigit_of_endsDigits h]
      rfl
  | gap _ ih =>
    rw [exponent?_gap, ih (List.forall_mem_cons.1 hcs).2, countWhile_cons_of_pos rfl]
    split
    · rfl
    · rw [Option.map_some, Nat.add_comm]
  | digit hc hd =>
    have hdigit := (hexDigit?_bounds hc).2 hd
    rw [if_neg (List.cons_ne_nil _ _), exponent?_cons (ne_of_isDigit hdigit rfl)
      (ne_of_isDigit hdigit rfl) (ne_of_isDigit hdigit rfl), if_pos hdigit]

/-! ## Suffixes -/

theorem countWhile_le_length (p : Char → Bool) (cs : List Char) : countWhile p cs ≤ cs.length :=
  (List.takeWhile_sublist p).length_le

/-- A run goes to the end of a text if every character belongs to it. -/
theorem countWhile_eq_length_iff {p : Char → Bool} {cs : List Char} :
    countWhile p cs = cs.length ↔ cs.all p := by
  rw [List.all_eq_true, ← List.takeWhile_eq_self_iff]
  constructor
  · exact (List.takeWhile_prefix p).eq_of_length
  · exact congrArg List.length

/-- A suffix takes up a text if this is a word or nothing. -/
theorem suffixLength_eq_length_iff {cs : List Char} :
    suffixLength cs = cs.length ↔ IsWordOrNil cs := by
  cases cs with
  | nil => exact iff_of_true rfl (Or.inl rfl)
  | cons c cs =>
    rw [isWordOrNil_cons, ← countWhile_eq_length_iff, suffixLength, plainWord?, List.length_cons]
    by_cases hstart : isIdentStart c
    · rw [if_pos hstart, Option.getD_some, and_iff_right hstart]
      omega
    · rw [if_neg hstart, Option.getD_none]
      exact iff_of_false (by omega) fun h => hstart h.1

/-- A number and its suffix are the whole text if a word or nothing follows the number. -/
theorem withSuffix?_eq_length_iff {cs : List Char} {n : Nat} (hn : n ≤ cs.length) :
    withSuffix? cs n = some cs.length ↔ IsWordOrNil (cs.drop n) := by
  rw [← suffixLength_eq_length_iff, List.length_drop, withSuffix?]
  constructor
  · intro h
    split at h
    · have := Option.some.inj h
      omega
    · cases h
  · intro h
    have hlength : n + suffixLength (cs.drop n) = cs.length := by omega
    rw [hlength, List.drop_length]
    rfl

/-! ## Floats -/

/-- Digits with a mark behind them are a float if an exponent follows. -/
theorem unsuffixedFloat?_of_mark {cs power : List Char} {mark : Char}
    (hhead : cs.head?.any Char.isDigit) (hmark : mark = 'e' ∨ mark = 'E')
    (hrest : cs.drop (countWhile isDigitOrGap cs) = mark :: power) :
    unsuffixedFloat? cs = (exponent? power).map (countWhile isDigitOrGap cs + 1 + ·) := by
  rw [unsuffixedFloat?, hhead]
  simp only [hrest]
  rcases hmark with rfl | rfl
  · rfl
  · rfl

/-- Digits with neither a point nor a mark behind them are no float. -/
theorem unsuffixedFloat?_eq_none {cs rest : List Char}
    (hrest : cs.drop (countWhile isDigitOrGap cs) = rest)
    (h : ∀ c, rest.head? = some c → c ≠ '.' ∧ ¬(c = 'e' ∨ c = 'E')) :
    unsuffixedFloat? cs = none := by
  unfold unsuffixedFloat?
  split
  · rfl
  · simp only [hrest]
    split
    · exact absurd rfl (h '.' rfl).1
    · exact absurd (Or.inl rfl) (h 'e' rfl).2
    · exact absurd (Or.inr rfl) (h 'E' rfl).2
    · rfl

theorem not_isFloat_of_unsuffixed {cs : List Char} (h : unsuffixedFloat? cs = none) :
    ¬IsFloat cs := by
  rw [IsFloat, h, Option.bind_none]
  intro hnone
  cases hnone

/-- An `e` behind decimal digits makes them a float if it reads as an exponent. -/
theorem isFloat_iff_of_mark {cs power : List Char} {mark : Char}
    (hhead : cs.head?.any Char.isDigit) (hmark : mark = 'e' ∨ mark = 'E')
    (hrest : cs.drop (countWhile isDigitOrGap cs) = mark :: power)
    (hpower : ∀ c ∈ power, isIdentContinue c) : IsFloat cs ↔ ReadsAsExponent (mark :: power) := by
  obtain ⟨ds, word, hrun⟩ := exists_digitRun power
  have hfloat := unsuffixedFloat?_of_mark hhead hmark hrest
  rw [exponent?_of_digitRun hrun hpower] at hfloat
  rw [readsAsExponent_of_digitRun hmark hrun]
  by_cases hdigits : ds = []
  · rw [if_pos hdigits] at hfloat
    exact iff_of_false (not_isFloat_of_unsuffixed hfloat) fun h => h.1 hdigits
  · -- the float goes to the end of the exponent's digits, and the word is its suffix
    have hlength : countWhile isDigitOrGap cs + 1 + countWhile isDigitOrGap power ≤ cs.length := by
      have hpowerLength := countWhile_le_length isDigitOrGap power
      have hdrop := congrArg List.length hrest
      rw [List.length_drop, List.length_cons] at hdrop
      omega
    have hbehind : cs.drop (countWhile isDigitOrGap cs + 1 + countWhile isDigitOrGap power)
        = word := by
      rw [Nat.add_assoc, ← List.drop_drop, hrest, Nat.add_comm, List.drop_succ_cons]
      exact drop_of_digitRun hrun
    rw [if_neg hdigits, Option.map_some] at hfloat
    rw [IsFloat, hfloat, Option.bind_some, withSuffix?_eq_length_iff hlength, hbehind,
      and_iff_right hdigits]

/-- Decimal digits with a word behind them are a float if the word reads as an exponent. -/
theorem isFloat_iff_readsAsExponent {cs suffix : List Char} {ds : List Nat}
    (hhead : cs.head?.any Char.isDigit) (hrun : DigitRun 10 cs ds suffix)
    (hword : IsWordOrNil suffix) : IsFloat cs ↔ ReadsAsExponent suffix := by
  have hrest := drop_of_digitRun hrun
  by_cases hmark : ∃ mark power, suffix = mark :: power ∧ (mark = 'e' ∨ mark = 'E')
  · obtain ⟨mark, power, rfl, hmark⟩ := hmark
    have hpower := (List.forall_mem_cons.1 hword.continues).2
    exact isFloat_iff_of_mark hhead hmark hrest hpower
  · -- a word does not begin with a point, so that nothing makes the digits a float
    have hnone : unsuffixedFloat? cs = none := by
      refine unsuffixedFloat?_eq_none hrest fun c hc => ?_
      obtain ⟨power, rfl⟩ := List.head?_eq_some_iff.1 hc
      have hpoint : c ≠ '.' := ne_of_isIdentContinue (hword.continues c List.mem_cons_self) rfl
      exact ⟨hpoint, fun h => hmark ⟨c, power, rfl, h⟩⟩
    refine iff_of_false (not_isFloat_of_unsuffixed hnone) fun h => ?_
    obtain ⟨mark, power, ds, word, heq, he, -⟩ := h
    exact hmark ⟨mark, power, heq, he⟩

/-! ## Integers -/

/-- What the scanner measures are digits up to their end. -/
theorem exists_digitRun_of_digits? {base n : Nat} {seen : Bool} {cs : List Char}
    (h : digits? base seen cs = some n) :
    n ≤ cs.length ∧ ∃ ds, DigitRun base cs ds (cs.drop n) ∧ (seen ∨ ds ≠ []) := by
  fun_induction digits? base seen cs generalizing n with
  | case1 =>
    cases h
    exact ⟨Nat.le_refl 0, [], .done (endsDigits_nil base), Or.inl rfl⟩
  | case2 seen hseen => cases h
  | case3 seen cs hfirst => cases h
  | case4 seen cs hfirst ih =>
    obtain ⟨m, hm, rfl⟩ := Option.map_eq_some_iff.1 h
    obtain ⟨hle, ds, hrun, hseen⟩ := ih hm
    exact ⟨Nat.succ_le_succ hle, ds, .gap hrun, hseen⟩
  | case5 c cs hgap hnone =>
    cases h
    exact ⟨Nat.zero_le _, [], .done (endsDigits_of_none hgap hnone cs), Or.inl rfl⟩
  | case6 => cases h
  | case7 seen c cs hgap d hd hlt ih =>
    obtain ⟨m, hm, rfl⟩ := Option.map_eq_some_iff.1 h
    obtain ⟨hle, ds, hrun, -⟩ := ih hm
    exact ⟨Nat.succ_le_succ hle, d :: ds, .digit hd hlt hrun, Or.inr (List.cons_ne_nil d ds)⟩
  | case8 => cases h
  | case9 c cs hgap d hd hlt hdigit =>
    cases h
    have hends := endsDigits_of_le hgap hd (Nat.le_of_not_lt hlt) cs
    exact ⟨Nat.zero_le _, [], .done hends, Or.inl rfl⟩
  | case10 => cases h

/-- A decimal does not begin with an underscore. -/
theorem isDigit_of_digits? {n : Nat} {cs : List Char} (h : digits? 10 false cs = some n) :
    cs.head?.any Char.isDigit := by
  cases cs with
  | nil => cases h
  | cons c cs =>
    by_cases hgap : c = '_'
    · rw [digits?, if_pos hgap] at h
      cases h
    · rw [digits?, if_neg hgap] at h
      split at h
      · cases h
      · next d hd =>
        split at h
        · next hlt => exact (hexDigit?_bounds hd).2 hlt
        · split at h
          · cases h
          · cases h

/-- Behind its mark, the scanner reads digits of the base. -/
theorem unsuffixedInt?_of_mark {mark : List Char} {base : Nat} (h : (mark, base) ∈ marks)
    (body : List Char) :
    unsuffixedInt? (mark ++ body) = (digits? base false body).map (2 + ·) :=
  forall_mem_marks rfl rfl rfl h

/-- Without a mark, the scanner reads decimal digits. -/
theorem unsuffixedInt?_of_isUnmarked {cs : List Char} (h : IsUnmarked cs) :
    unsuffixedInt? cs = digits? 10 false cs := by
  have hmarks : ∀ mark base, (mark.toList, base) ∈ marks → ¬begins mark cs := by
    intro mark base hmark hbegins
    exact h mark.toList base hmark (List.isPrefixOf_iff_prefix.1 hbegins)
  rw [unsuffixedInt?, if_neg (hmarks "0x" 16 (by decide)), if_neg (hmarks "0o" 8 (by decide)),
    if_neg (hmarks "0b" 2 (by decide))]

/-- A literal with the mark of a base is no float. -/
theorem not_isFloat_of_mark {mark : List Char} {base : Nat} (h : (mark, base) ∈ marks)
    (body : List Char) : ¬IsFloat (mark ++ body) := by
  apply not_isFloat_of_unsuffixed
  exact forall_mem_marks rfl rfl rfl h

section
variable {cs : List Char}

/-- A marked literal that the scanner takes for an integer as a whole spells one. -/
theorem exists_spelledBy_of_mark {mark body : List Char} {base : Nat}
    (hmark : (mark, base) ∈ marks) (hcs : cs = mark ++ body)
    (h : (unsuffixedInt? cs).bind (withSuffix? cs) = some cs.length) :
    ∃ n : Numeral, n.SpelledBy cs := by
  obtain ⟨k, hk, hsuffix⟩ := Option.bind_eq_some_iff.1 h
  rw [hcs, unsuffixedInt?_of_mark hmark] at hk
  obtain ⟨m, hm, rfl⟩ := Option.map_eq_some_iff.1 hk
  obtain ⟨hle, ds, hrun, hseen⟩ := exists_digitRun_of_digits? hm
  have hdigits : ds ≠ [] := hseen.resolve_left Bool.false_ne_true
  have hword : IsWordOrNil (body.drop m) := by
    have hlength := length_of_mem_marks hmark
    have hmeasured : 2 + m ≤ cs.length := by
      rw [hcs, List.length_append]
      omega
    rw [withSuffix?_eq_length_iff hmeasured, hcs, ← hlength, List.drop_length_add_append] at hsuffix
    exact hsuffix
  -- only decimals have exponents
  have hdecimal : base = 10 → ¬ReadsAsExponent (body.drop m) :=
    fun hten => absurd hten (base_of_mem_marks hmark).2
  rw [hcs]
  exact ⟨⟨base, ds, body.drop m⟩, .marked hmark hrun hdigits ⟨hword, hdecimal⟩⟩

/-- A literal without a mark that the scanner takes for an integer as a whole, and for no float,
spells one. -/
theorem exists_spelledBy_of_isUnmarked (hunmarked : IsUnmarked cs) (hfloat : ¬IsFloat cs)
    (h : (unsuffixedInt? cs).bind (withSuffix? cs) = some cs.length) :
    ∃ n : Numeral, n.SpelledBy cs := by
  obtain ⟨k, hk, hsuffix⟩ := Option.bind_eq_some_iff.1 h
  rw [unsuffixedInt?_of_isUnmarked hunmarked] at hk
  obtain ⟨hle, ds, hrun, -⟩ := exists_digitRun_of_digits? hk
  have hhead := isDigit_of_digits? hk
  have hword := (withSuffix?_eq_length_iff hle).1 hsuffix
  have hexponent : ¬ReadsAsExponent (cs.drop k) := by
    rw [← isFloat_iff_readsAsExponent hhead hrun hword]
    exact hfloat
  cases cs with
  | nil => cases hhead
  | cons c cs =>
    exact ⟨⟨10, ds, (c :: cs).drop k⟩,
      .decimal rfl hhead hunmarked hrun ⟨hword, fun _ => hexponent⟩⟩

/-- A number spells an integer if it is no float. -/
theorem exists_spelledBy_iff_not_isFloat (h : number? cs = some cs.length) :
    (∃ n : Numeral, n.SpelledBy cs) ↔ ¬IsFloat cs := by
  constructor
  · rintro ⟨n, hn⟩ hfloat
    cases hn with
    | marked hmark => exact not_isFloat_of_mark hmark _ hfloat
    | @decimal c cs _ hc _ hbody hsuffix =>
      have hhead : (c :: cs).head?.any Char.isDigit := hc
      exact hsuffix.noExponent rfl ((isFloat_iff_readsAsExponent hhead hbody hsuffix.word).1 hfloat)
  · intro hfloat
    -- the scanner took the text for an integer, having found no float
    have hint : (unsuffixedInt? cs).bind (withSuffix? cs) = some cs.length :=
      ((Option.or_eq_some_iff.1 h).resolve_left hfloat).2
    rcases exists_mark_or_isUnmarked cs with ⟨mark, base, body, hmark, hcs⟩ | hunmarked
    · exact exists_spelledBy_of_mark hmark hcs hint
    · exact exists_spelledBy_of_isUnmarked hunmarked hfloat hint

end

/-- A quoted literal spells no integer. -/
theorem not_spelledBy_of_quoted? {cs : List Char} {k : Nat} (h : quoted? cs = some k)
    (n : Numeral) : ¬n.SpelledBy cs := by
  intro hn
  have hhead := hn.isDigit_head
  obtain ⟨m, hm, -⟩ := Option.map_eq_some_iff.1 h
  -- quotes and the letters of their marks are no digits
  unfold unsuffixedQuote? at hm
  split at hm
  · cases hhead
  · cases hhead
  · cases hhead
  · cases hhead
  · cases hhead
  · cases hhead
  · cases hhead
  · cases hhead
  · cases hm

end Lexeme

/-! ## Evaluation -/

open Argument Token

/-- The operand of a negation is seen through invisible groups. -/
theorem evaluate_not_literal {text : String} {s : Span} {outer : List Token}
    (hw : Wraps [.literal text s] outer) (limits : Limits) :
    Macro.not.evaluate outer limits
      = .ok ⟨[.number (if isZeroLiteral text then 1 else 0)], []⟩ := by
  have hrun : IsRun outer := hw.isRun (isRun_singleton rfl)
  obtain ⟨span, hvalue⟩ := Macro.exists_value_not_eq limits hrun
  rw [(wraps_iff_peelAll_eq (isBare_literal text s)).1 hw] at hvalue
  exact evaluate_eq_ok_iff.2 ⟨_, hvalue, rfl⟩

/-- **A negation decides every literal.** One that spells an integer, in any base and of any length,
is 1 if the value of its digits in their base is zero, and else 0. Any other literal is 0: numbers
are the others if they are floats, and quoted literals always. A number that the engine itself wrote
is 1 if it is zero. -/
theorem not_decides_literals (limits : Limits) :
    (∀ text s outer, Wraps [.literal text s] outer →
        (∀ n : Numeral, n.SpelledBy text.toList → Macro.not.evaluate outer limits
            = .ok ⟨[.number (if Nat.ofDigits n.base n.digits.reverse = 0 then 1 else 0)], []⟩)
          ∧ ((∀ n : Numeral, ¬n.SpelledBy text.toList) →
            Macro.not.evaluate outer limits = .ok ⟨[.number 0], []⟩))
      ∧ (∀ cs, Lexeme.number? cs = some cs.length →
        ((∃ n : Numeral, n.SpelledBy cs) ↔ ¬Lexeme.IsFloat cs))
      ∧ (∀ cs k, Lexeme.quoted? cs = some k → ∀ n : Numeral, ¬n.SpelledBy cs)
      ∧ ∀ k outer, Wraps [.number k] outer →
        Macro.not.evaluate outer limits = .ok ⟨[.number (if k = 0 then 1 else 0)], []⟩ := by
  refine ⟨?_, fun cs => Lexeme.exists_spelledBy_iff_not_isFloat,
    fun cs k => Lexeme.not_spelledBy_of_quoted?, ?_⟩
  · intro text s outer hw
    rw [evaluate_not_literal hw limits]
    constructor
    · intro n hn
      rw [isZeroLiteral_of_spelledBy hn]
      simp only [decide_eq_true_eq]
    · intro hnone
      rw [isZeroLiteral_of_not_spelledBy hnone]
      rfl
  · intro k outer hw
    rw [evaluate_not_literal hw limits, isZeroLiteral_toString]
    simp only [decide_eq_true_eq]

/-- With invisible groups `⟦ ⟧`, `not!(⟦0x0_0u8⟧)` and `not!(0)` are 1, `not!(0e0)` and
`not!('0')` are 0. -/
theorem not_decides_literals_zero :
    let integer : List Token := [.group .invisible [.literal "0x0_0u8" .callSite] .callSite]
    let float : List Token := [.literal "0e0" .callSite]
    let quoted : List Token := [.literal "'0'" .callSite]
    ((⟨16, [0, 0], ['u', '8']⟩ : Numeral).SpelledBy "0x0_0u8".toList
        ∧ Macro.not.evaluate integer {} = .ok ⟨[.number 1], []⟩)
      ∧ (Lexeme.number? "0e0".toList = some "0e0".toList.length ∧ Lexeme.IsFloat "0e0".toList
        ∧ Macro.not.evaluate float {} = .ok ⟨[.number 0], []⟩)
      ∧ (Lexeme.quoted? "'0'".toList = some "'0'".toList.length
        ∧ Macro.not.evaluate quoted {} = .ok ⟨[.number 0], []⟩)
      ∧ Macro.not.evaluate [.number 0] {} = .ok ⟨[.number 1], []⟩ := by
  intro integer float quoted
  obtain ⟨hliteral, hnumber, hquoted, hwritten⟩ := not_decides_literals {}
  have hinteger : (⟨16, [0, 0], ['u', '8']⟩ : Numeral).SpelledBy "0x0_0u8".toList :=
    Numeral.ofText?_eq_some_iff.1 (by decide)
  have hmeasured : Lexeme.number? "0e0".toList = some "0e0".toList.length := by decide
  have hfloat : Lexeme.IsFloat "0e0".toList := by decide
  have hnone : ∀ n : Numeral, ¬n.SpelledBy "0e0".toList := fun n hn =>
    (hnumber _ hmeasured).1 ⟨n, hn⟩ hfloat
  have hquote : Lexeme.quoted? "'0'".toList = some "'0'".toList.length := by decide
  exact ⟨⟨hinteger, (hliteral _ _ _ (.wrap .callSite .refl)).1 _ hinteger⟩,
    ⟨hmeasured, hfloat, (hliteral _ _ _ .refl).2 hnone⟩,
    ⟨hquote, (hliteral _ _ _ .refl).2 (hquoted _ _ hquote)⟩, hwritten 0 _ .refl⟩

end Variadic
