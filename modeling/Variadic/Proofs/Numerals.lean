import Variadic.Numeric

/-!
# Numbers as literals

A number that the engine writes (`Token.number`) is read again where the output of one macro is the
operand of a negation. `ofText?_toDigits` says what the reader of literals makes of it.
-/

namespace Variadic
namespace Numeral

theorem hexDigit?_of_isDigit {c : Char} (h : c.isDigit) :
    Text.hexDigit? c = some (c.toNat - '0'.toNat) := by
  rw [Char.isDigit, Bool.and_eq_true, decide_eq_true_eq, decide_eq_true_eq] at h
  rw [Text.hexDigit?]
  exact if_pos h

theorem digit_lt_ten {c : Char} (h : c.isDigit) : c.toNat - '0'.toNat < 10 := by
  rw [Char.isDigit, Bool.and_eq_true, decide_eq_true_eq, decide_eq_true_eq] at h
  have hle : c.toNat ≤ '9'.toNat := UInt32.le_iff_toNat_le.1 h.2
  have h9 : '9'.toNat = 57 := rfl
  have h0 : '0'.toNat = 48 := rfl
  omega

theorem ne_of_isDigit {c d : Char} (hc : c.isDigit) (hd : d.isDigit = false) : c ≠ d := by
  rintro rfl
  rw [hc] at hd
  exact Bool.noConfusion hd

/-- Decimal digits are read to their end. -/
theorem split?_of_isDigit {cs : List Char} (h : ∀ c ∈ cs, c.isDigit) :
    split? 10 cs = some (cs.map fun c => c.toNat - '0'.toNat, []) := by
  induction cs with
  | nil => rfl
  | cons c cs ih =>
    have hc : c.isDigit := h c List.mem_cons_self
    have hne : ∀ d : Char, d.isDigit = false → c ≠ d := fun d => ne_of_isDigit hc
    rw [split?, if_neg (hne '_' rfl), if_neg (by simp [hne '.' rfl]),
      if_neg (by simp [hne 'e' rfl, hne 'E' rfl]), if_neg (by simp [hc]), hexDigit?_of_isDigit hc]
    simp only [digit_lt_ten hc, if_true]
    rw [ih fun d hd => h d (List.mem_cons_of_mem _ hd), List.map_cons]
    rfl

/-- A number that is written out in decimal digits is read back digit by digit. -/
theorem ofText?_toDigits (n : Nat) :
    ofText? (Nat.toDigits 10 n)
      = some ⟨10, (Nat.toDigits 10 n).map fun c => c.toNat - '0'.toNat, []⟩ := by
  have hdigits : ∀ c ∈ Nat.toDigits 10 n, c.isDigit :=
    fun c hc => Nat.isDigit_of_mem_toDigits (by decide) (by decide) hc
  have hne : Nat.toDigits 10 n ≠ [] := Nat.toDigits_ne_nil
  generalize Nat.toDigits 10 n = cs at hdigits hne
  have hread : ofDigits? 10 cs = some ⟨10, cs.map fun c => c.toNat - '0'.toNat, []⟩ := by
    rw [ofDigits?, split?_of_isDigit hdigits]
    simp [hne]
  unfold ofText?
  split
  · exact absurd (hdigits 'x' (by simp)) (by decide)
  · exact absurd (hdigits 'o' (by simp)) (by decide)
  · exact absurd (hdigits 'b' (by simp)) (by decide)
  · next c cs _ _ _ =>
    rw [if_pos (hdigits c List.mem_cons_self)]
    exact hread
  · exact absurd rfl hne

end Numeral

/-- The literal of a number is zero if the number is. -/
theorem isZeroLiteral_toString (n : Nat) : isZeroLiteral (toString n) = decide (n = 0) := by
  have hvalue : (⟨10, (Nat.toDigits 10 n).map fun c => c.toNat - '0'.toNat, []⟩ : Numeral).value
      = n := by
    rw [Numeral.value, List.foldl_map, ← Nat.ofDigitChars_eq_foldl]
    exact Nat.ofDigitChars_ten_toDigits
  rw [isZeroLiteral, Nat.toString_eq_repr, Nat.toList_repr, Numeral.ofText?_toDigits,
    Option.any_some, hvalue]

/-- Different numbers are written differently. -/
theorem number_injective {m n : Nat} (h : Token.number m = Token.number n) : m = n := by
  have htext : toString m = toString n := (Token.literal.inj h).1
  rw [Nat.toString_eq_repr, Nat.toString_eq_repr] at htext
  have hdigits : Nat.toDigits 10 m = Nat.toDigits 10 n := by
    rw [← Nat.toList_repr, ← Nat.toList_repr, htext]
  rw [← Nat.ofDigitChars_ten_toDigits (n := m), hdigits, Nat.ofDigitChars_ten_toDigits]

end Variadic
