import Variadic.Text.IdentifierRanges
import Variadic.Text.HiddenRanges

/-!
# Character classes

The classes of characters that tokens, quoted texts and configuration files are made of. The
identifier and blank classes cover all of Unicode.
-/

namespace Variadic.Text

def isAscii (c : Char) : Bool := c.toNat < 0x80

/-- Whether an identifier can begin with `c`. -/
def isIdentStart (c : Char) : Bool :=
  if isAscii c then c.isAlpha || c = '_' else identifierStartRanges.contains c

/-- Whether `c` can stand in an identifier behind its first character. -/
def isIdentContinue (c : Char) : Bool :=
  if isAscii c then c.isAlphanum || c = '_'
  else identifierStartRanges.contains c || identifierExtraRanges.contains c

/-- An identifier can go on with every character that it can begin with. -/
theorem isIdentContinue_of_isIdentStart {c : Char} (h : isIdentStart c) : isIdentContinue c := by
  unfold isIdentStart at h
  unfold isIdentContinue Char.isAlphanum
  split at h <;> grind

/-- The Unicode property `White_Space`, and the two direction marks. -/
def isBlank (c : Char) : Bool :=
  let n := c.toNat
  (0x09 ≤ n && n ≤ 0x0D) || n = 0x20 || n = 0x85 || n = 0xA0 || n = 0x1680
    || (0x2000 ≤ n && n ≤ 0x200A) || n = 0x200E || n = 0x200F || n = 0x2028 || n = 0x2029
    || n = 0x202F || n = 0x205F || n = 0x3000

/-- Whether `c` is named by number in a quoted text, being invisible or bound to its neighbour. -/
def isHidden (c : Char) : Bool :=
  if isAscii c then c.toNat < 0x20 || c.toNat = 0x7F else hiddenRanges.contains c

/-- The value of a hexadecimal digit in either case. -/
def hexDigit? (c : Char) : Option Nat :=
  if '0' ≤ c ∧ c ≤ '9' then some (c.toNat - '0'.toNat)
  else if 'a' ≤ c ∧ c ≤ 'f' then some (c.toNat - 'a'.toNat + 10)
  else if 'A' ≤ c ∧ c ≤ 'F' then some (c.toNat - 'A'.toNat + 10)
  else none

def isHexDigit (c : Char) : Bool := (hexDigit? c).isSome

/-- The character with the given number, unless it is a surrogate or beyond the last one. -/
def charOfNumber? (n : Nat) : Option Char :=
  if h : n.isValidChar then some (Char.ofNatAux n h) else none

end Variadic.Text
