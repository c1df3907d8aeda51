import Variadic.Lexeme.Quoted
import Variadic.Text.Quoted

/-!
# Reading a quoted text back

`Text.quote` writes a text as a string literal; `Text.unquote?` says what text a string literal
stands for. It takes the literal apart as tokens are read, one character or escape after the other
(`Lexeme.stringElement?`). `unquote?_quote` shows that a quoted text stands for itself: no character
of it ends the literal early, and every escape names the character that it was written for.
-/

namespace Variadic.Text

open Lexeme

/-! ## What a literal stands for -/

/-- The character that an escape stands for. -/
def escapeValue? : List Char → Option Char
  | '\\' :: 'x' :: h :: l :: _ => do
    let high ← hexDigit? h
    let low ← hexDigit? l
    charOfNumber? (16 * high + low)
  | '\\' :: 'u' :: '\x7b' :: cs => (bracedNumber? 0 0 cs).bind (charOfNumber? ·.2)
  | '\\' :: 'n' :: _ => some '\n'
  | '\\' :: 'r' :: _ => some '\r'
  | '\\' :: 't' :: _ => some '\t'
  | '\\' :: '0' :: _ => some '\x00'
  | '\\' :: c :: _ => some c
  | _ => none

/-- The text that one element of a string stands for. A backslash at the end of a line stands for
nothing. -/
def elementValue? : List Char → Option (List Char)
  | '\r' :: '\n' :: _ => some ['\n']
  | '\\' :: '\n' :: _ | '\\' :: '\r' :: '\n' :: _ => some []
  | '\\' :: cs => (escapeValue? ('\\' :: cs)).map ([·])
  | c :: _ => some [c]
  | [] => none

/-- The text that a string stands for, read behind its opening quote. The next quote closes the
string and ends the literal. -/
def stringValue? : List Char → Option (List Char)
  | [] => none
  | c :: cs =>
    match stringElement? .text (c :: cs) with
    | none => if c = '"' ∧ cs = [] then some [] else none
    | some n => do
      let value ← elementValue? (c :: cs)
      let rest ← stringValue? (cs.drop (n - 1))
      return value ++ rest
termination_by cs => cs.length

/-- The text that a string literal stands for. -/
def unquote? (literal : String) : Option String :=
  match literal.toList with
  | '"' :: cs => (stringValue? cs).map String.ofList
  | _ => none

/-! ## Numbers in braces -/

theorem hexDigit?_digitChar : ∀ d < 16, hexDigit? d.digitChar = some d := by
  decide

theorem bracedNumber?_digitChar {d digits : Nat} (hd : d < 16) (hdigits : digits < 6)
    (value : Nat) (cs : List Char) :
    bracedNumber? digits value (d.digitChar :: cs)
      = (bracedNumber? (digits + 1) (16 * value + d) cs).map (Prod.map (· + 1) id) := by
  have hbrace : ∀ d < 16, d.digitChar ≠ '\x7d' := by decide
  have hgap : ∀ d < 16, d.digitChar ≠ '_' := by decide
  have hsix : digits ≠ 6 := Nat.ne_of_lt hdigits
  rw [bracedNumber?]
  · rw [hexDigit?_digitChar d hd]
    simp only [hsix, if_false]
  · exact fun h => hbrace d hd h
  · exact fun h => hgap d hd h

/-- Up to six digits are read in braces, as the number that they were written for. -/
theorem bracedNumber?_toDigits {n : Nat} (h : (Nat.toDigits 16 n).length ≤ 6) (cs : List Char) :
    bracedNumber? 0 0 (Nat.toDigits 16 n ++ cs)
      = (bracedNumber? (Nat.toDigits 16 n).length n cs).map
        (Prod.map (· + (Nat.toDigits 16 n).length) id) := by
  induction n using Nat.strongRecOn generalizing cs with
  | ind n ih =>
    by_cases hlt : n < 16
    · rw [Nat.toDigits_of_lt_base hlt]
      have hdigit := bracedNumber?_digitChar hlt (Nat.zero_lt_succ 5) 0 cs
      rwa [Nat.mul_zero, Nat.zero_add, Nat.zero_add] at hdigit
    · -- the last digit is read behind those of the quotient
      have hle : 16 ≤ n := Nat.le_of_not_lt hlt
      have hdiv : n / 16 < n := Nat.div_lt_self (by omega) (by decide)
      have hmod : n % 16 < 16 := Nat.mod_lt n (by decide)
      have hvalue : 16 * (n / 16) + n % 16 = n := Nat.div_add_mod n 16
      rw [Nat.toDigits_of_base_le (by decide) hle] at h ⊢
      rw [List.length_append, List.length_singleton] at h ⊢
      rw [List.append_assoc, List.singleton_append, ih (n / 16) hdiv (by omega),
        bracedNumber?_digitChar hmod (by omega), hvalue, Option.map_map]
      congr 1
      funext p
      show (p.1 + 1 + (Nat.toDigits 16 (n / 16)).length, p.2) = _
      rw [Nat.add_right_comm]
      rfl

theorem length_toDigits_toNat_le (c : Char) : (Nat.toDigits 16 c.toNat).length ≤ 6 := by
  rw [Nat.length_toDigits_le_iff (by decide) (by decide)]
  have hvalid : c.toNat < 0x110000 := by
    have := c.valid
    unfold UInt32.isValidChar Nat.isValidChar at this
    show c.val.toNat < 0x110000
    omega
  exact Nat.lt_of_lt_of_le hvalid (by decide)

/-- A character is known by its number. -/
theorem charOfNumber?_toNat (c : Char) : charOfNumber? c.toNat = some c := by
  have hvalid : c.toNat.isValidChar := c.valid
  rw [charOfNumber?, dif_pos hvalid]
  rfl

/-! ## One character -/

/-- A string goes on behind one element of it. -/
theorem stringValue?_append {written value : List Char} (hne : written ≠ []) (rest : List Char)
    (hlength : stringElement? .text (written ++ rest) = some written.length)
    (hvalue : elementValue? (written ++ rest) = some value) :
    stringValue? (written ++ rest) = (stringValue? rest).map (value ++ ·) := by
  obtain ⟨c, cs, rfl⟩ := List.exists_cons_of_ne_nil hne
  rw [List.cons_append] at hlength hvalue ⊢
  have hdrop : (cs ++ rest).drop ((c :: cs).length - 1) = rest := by
    rw [List.length_cons, Nat.add_sub_cancel, List.drop_left]
  rw [stringValue?, hlength]
  simp only [hvalue, hdrop]
  cases stringValue? rest with
  | none => rfl
  | some value' => rfl

theorem escape?_number {k : Content} {cs : List Char} {n value : Nat}
    (h : bracedNumber? 0 0 cs = some (n, value)) (hallowed : k.allowsNumber value) :
    escape? k ('\\' :: 'u' :: '\x7b' :: cs) = some (3 + n) := by
  rw [escape?, h]
  exact if_pos hallowed

/-- A character that is written by its number is read by it. -/
theorem stringValue?_numbered (c : Char) (rest : List Char) :
    stringValue? (['\\', 'u', '\x7b'] ++ Nat.toDigits 16 c.toNat ++ ['\x7d'] ++ rest)
      = (stringValue? rest).map ([c] ++ ·) := by
  have hnumber : bracedNumber? 0 0 (Nat.toDigits 16 c.toNat ++ '\x7d' :: rest)
      = some ((Nat.toDigits 16 c.toNat).length + 1, c.toNat) := by
    rw [bracedNumber?_toDigits (length_toDigits_toNat_le c), bracedNumber?,
      if_pos Nat.length_toDigits_pos]
    show some (1 + _, c.toNat) = _
    rw [Nat.add_comm]
  have hnamed : Content.text.allowsNumber c.toNat := by
    show (charOfNumber? c.toNat).isSome
    rw [charOfNumber?_toNat]
    rfl
  have happ : ['\\', 'u', '\x7b'] ++ Nat.toDigits 16 c.toNat ++ ['\x7d'] ++ rest
      = '\\' :: 'u' :: '\x7b' :: (Nat.toDigits 16 c.toNat ++ '\x7d' :: rest) := by
    simp
  apply stringValue?_append
  · exact List.cons_ne_nil _ _
  · rw [happ]
    show escape? .text ('\\' :: 'u' :: '\x7b' :: _) = _
    rw [escape?_number hnumber hnamed]
    simp only [List.length_append, List.length_cons, List.length_nil, Option.some.injEq]
    omega
  · rw [happ]
    show ((bracedNumber? 0 0 (Nat.toDigits 16 c.toNat ++ '\x7d' :: rest)).bind
      (charOfNumber? ·.2)).map ([·]) = _
    rw [hnumber, Option.bind_some, charOfNumber?_toNat]
    rfl

/-- A character that needs no escape is read as it stands. -/
theorem stringValue?_plain {c : Char} (hquote : c ≠ '"') (hbackslash : c ≠ '\\')
    (hreturn : c ≠ '\r') (rest : List Char) :
    stringValue? ([c] ++ rest) = (stringValue? rest).map ([c] ++ ·) := by
  apply stringValue?_append (List.cons_ne_nil c [])
  · rw [List.singleton_append, stringElement?]
    · rfl
    · exact hquote
    · exact fun _ h => absurd h hreturn
    · exact hreturn
    · exact fun _ h => absurd h hbackslash
    · exact fun _ h => absurd h hbackslash
    · exact hbackslash
  · rw [List.singleton_append, elementValue?]
    · exact fun _ h => absurd h hreturn
    · exact fun _ h => absurd h hbackslash
    · exact fun _ h => absurd h hbackslash
    · exact hbackslash

/-- An escaped character is read as itself, whatever stands behind it. -/
theorem stringValue?_escapeChar (c : Char) (behind rest : List Char) :
    stringValue? (escapeChar c behind ++ rest) = (stringValue? rest).map ([c] ++ ·) := by
  unfold escapeChar
  split
  · split
    · exact stringValue?_append (by simp) rest rfl rfl
    · exact stringValue?_append (by simp) rest rfl rfl
  · exact stringValue?_append (by simp) rest rfl rfl
  · exact stringValue?_append (by simp) rest rfl rfl
  · exact stringValue?_append (by simp) rest rfl rfl
  · exact stringValue?_append (by simp) rest rfl rfl
  · exact stringValue?_append (by simp) rest rfl rfl
  · next _ _ _ hreturn hquote hbackslash =>
    split
    · exact stringValue?_numbered c rest
    · exact stringValue?_plain hquote hbackslash hreturn rest

/-- A text that is escaped character by character is read back. -/
theorem stringValue?_escapeAll (cs : List Char) :
    stringValue? (escapeAll cs ++ ['"']) = some cs := by
  induction cs with
  | nil =>
    rw [escapeAll, List.nil_append, stringValue?]
    rfl
  | cons c cs ih =>
    rw [escapeAll, List.append_assoc, stringValue?_escapeChar, ih]
    rfl

/-- A quoted text stands for itself. -/
theorem unquote?_quote (text : String) : unquote? (quote text) = some text := by
  unfold unquote? quote
  rw [String.toList_ofList]
  show (stringValue? (escapeAll text.toList ++ ['"'])).map String.ofList = some text
  rw [stringValue?_escapeAll, Option.map_some, String.ofList_toList]

end Variadic.Text
