import Variadic.Text.Char

/-!
# The value of an integer literal

A literal is an integer if it is made of digits of one base, underscores and a suffix, which may be
any identifier. Where a suffix could also be read as an exponent, the literal is no integer.
-/

namespace Variadic

open Text

/-- An integer literal taken apart: its digits, most significant first, and what follows them. -/
structure Numeral where
  base : Nat
  digits : List Nat
  suffix : List Char
deriving DecidableEq, Repr

namespace Numeral

def value (n : Numeral) : Nat :=
  n.digits.foldl (fun v d => n.base * v + d) 0

/-- Whether a text is an identifier as a whole. -/
def isWord : List Char → Bool
  | [] => false
  | c :: cs => isIdentStart c && cs.all isIdentContinue

/-- Whether the text behind an `e` makes it the mark of an exponent. `seen` tells whether the
exponent has a digit so far. -/
def isExponent (seen : Bool) : List Char → Bool
  | [] => seen
  | c :: cs =>
    if c = '_' then isExponent seen cs
    else if c = '+' || c = '-' then true
    else if c.isDigit then isExponent true cs
    else seen && isWord (c :: cs)

/-- Reads digits up to the suffix. None if a digit is beyond the base, or if a decimal goes on as a
float. -/
def split? (base : Nat) : List Char → Option (List Nat × List Char)
  | [] => some ([], [])
  | c :: cs =>
    if c = '_' then split? base cs
    else if base = 10 && c = '.' then none
    else if base = 10 && (c = 'e' || c = 'E') then
      if isExponent false cs then none else some ([], c :: cs)
    else if base ≤ 10 && !c.isDigit then some ([], c :: cs)
    else
      match hexDigit? c with
      | none => some ([], c :: cs)
      | some d => if d < base then (split? base cs).map (Prod.map (d :: ·) id) else none

def ofDigits? (base : Nat) (text : List Char) : Option Numeral :=
  match split? base text with
  | none => none
  | some (digits, suffix) =>
    if !digits.isEmpty && (suffix.isEmpty || isWord suffix) then some ⟨base, digits, suffix⟩
    else none

/-- The integer that a literal's text spells, if it is an integer literal. -/
def ofText? (text : List Char) : Option Numeral :=
  match text with
  | '0' :: 'x' :: cs => ofDigits? 16 cs
  | '0' :: 'o' :: cs => ofDigits? 8 cs
  | '0' :: 'b' :: cs => ofDigits? 2 cs
  | c :: _ => if c.isDigit then ofDigits? 10 text else none
  | [] => none

end Numeral

end Variadic
