import Variadic.Lexeme.Word

/-!
# Quoted literals in a text

Strings, byte strings, C strings, bytes and characters. They differ in what may stand between the
quotes and in the escapes they know.
-/

namespace Variadic.Lexeme

open Text

/-- What a quoted literal holds: any text, bytes (ASCII alone), or a text without NUL. -/
inductive Content where
  | text
  | bytes
  | nonzero
deriving DecidableEq, Repr

namespace Content

def allows : Content → Char → Bool
  | text, _ => true
  | bytes, c => isAscii c
  | nonzero, c => c ≠ '\x00'

/-- Whether `\x` may be followed by these two characters. A text takes ASCII characters by number,
the others any byte, C strings all but zero. -/
def allowsHex : Content → Char → Char → Bool
  | text, h, l => '0' ≤ h && h ≤ '7' && isHexDigit l
  | bytes, h, l => isHexDigit h && isHexDigit l
  | nonzero, h, l => isHexDigit h && isHexDigit l && !(h = '0' && l = '0')

/-- Whether a backslash may be followed by this character alone. -/
def allowsShort (k : Content) (c : Char) : Bool :=
  c ∈ ['n', 'r', 't', '\\', '\'', '"'] || (c = '0' && k ≠ nonzero)

/-- Whether the character of this number may be named in braces. -/
def allowsNumber : Content → Nat → Bool
  | text, n => (charOfNumber? n).isSome
  | bytes, _ => false
  | nonzero, n => n ≠ 0 && (charOfNumber? n).isSome

end Content

/-- Reads a number in braces behind its opening brace: one to six hexadecimal digits, with
underscores anywhere behind the first. Gives the length, brace included, and the number. -/
def bracedNumber? (digits value : Nat) : List Char → Option (Nat × Nat)
  | [] => none
  | '\x7d' :: _ => if 0 < digits then some (1, value) else none
  | '_' :: cs =>
    if 0 < digits then (bracedNumber? digits value cs).map (Prod.map (· + 1) id) else none
  | c :: cs =>
    match hexDigit? c with
    | some d =>
      if digits = 6 then none
      else (bracedNumber? (digits + 1) (16 * value + d) cs).map (Prod.map (· + 1) id)
    | none => none

/-- The length of the escape that a text begins with. -/
def escape? (k : Content) : List Char → Option Nat
  | '\\' :: 'x' :: h :: l :: _ => if k.allowsHex h l then some 4 else none
  | '\\' :: 'u' :: '\x7b' :: cs =>
    match bracedNumber? 0 0 cs with
    | some (n, value) => if k.allowsNumber value then some (3 + n) else none
    | none => none
  | '\\' :: c :: _ => if k.allowsShort c then some 2 else none
  | _ => none

/-- The length of a line end or a blank at the start of a line. -/
private def indentation? : List Char → Option Nat
  | ' ' :: _ | '\t' :: _ | '\n' :: _ => some 1
  | '\r' :: '\n' :: _ => some 2
  | _ => none

/-- The length of what a string may hold at one place. A backslash at the end of a line stands for
nothing, together with all indentation and line ends behind it. -/
def stringElement? (k : Content) : List Char → Option Nat
  | '"' :: _ => none
  | '\r' :: '\n' :: _ => some 2
  | '\r' :: _ => none
  | '\\' :: '\n' :: cs => some (2 + runLength indentation? cs)
  | '\\' :: '\r' :: '\n' :: cs => some (3 + runLength indentation? cs)
  | '\\' :: cs => escape? k ('\\' :: cs)
  | c :: _ => if k.allows c then some 1 else none
  | [] => none

/-- The length of a string behind its opening quote. -/
def stringRest? (k : Content) (cs : List Char) : Option Nat :=
  let n := runLength (stringElement? k) cs
  if begins "\"" (cs.drop n) then some (n + 1) else none

/-- The length of a raw string behind its opening quote; as many `#` close it as opened it. -/
def rawRest? (k : Content) (hashes : List Char) : List Char → Option Nat
  | '"' :: cs =>
    if hashes.isPrefixOf cs then some (1 + hashes.length)
    else (rawRest? k hashes cs).map (· + 1)
  | '\r' :: '\n' :: cs => (rawRest? k hashes cs).map (· + 2)
  | '\r' :: _ => none
  | c :: cs => if k.allows c then (rawRest? k hashes cs).map (· + 1) else none
  | [] => none

/-- A raw string is opened by at most this many `#`. -/
def maxHashes : Nat := 255

/-- The length of a raw string behind the letters that mark it. -/
def rawString? (k : Content) (cs : List Char) : Option Nat :=
  let hashes := cs.takeWhile (· = '#')
  if hashes.length ≤ maxHashes && begins "\"" (cs.drop hashes.length) then
    (rawRest? k hashes (cs.drop (hashes.length + 1))).map (hashes.length + 1 + ·)
  else none

/-- The length of a single character or byte behind its opening quote. Every character may stand
there unescaped, the quote and the line end too. -/
def charRest? (k : Content) (cs : List Char) : Option Nat :=
  let element := match cs with
    | '\\' :: _ => escape? k cs
    | c :: _ => if k.allows c then some 1 else none
    | [] => none
  match element with
  | some n => if begins "'" (cs.drop n) then some (n + 1) else none
  | none => none

/-- The length of a quoted literal without its suffix. -/
def unsuffixedQuote? : List Char → Option Nat
  | '"' :: cs => (stringRest? .text cs).map (1 + ·)
  | '\'' :: cs => (charRest? .text cs).map (1 + ·)
  | 'r' :: cs => (rawString? .text cs).map (1 + ·)
  | 'b' :: '"' :: cs => (stringRest? .bytes cs).map (2 + ·)
  | 'b' :: '\'' :: cs => (charRest? .bytes cs).map (2 + ·)
  | 'b' :: 'r' :: cs => (rawString? .bytes cs).map (2 + ·)
  | 'c' :: '"' :: cs => (stringRest? .nonzero cs).map (2 + ·)
  | 'c' :: 'r' :: cs => (rawString? .nonzero cs).map (2 + ·)
  | _ => none

/-- The length of the quoted literal that a text begins with. -/
def quoted? (cs : List Char) : Option Nat :=
  (unsuffixedQuote? cs).map fun n => n + suffixLength (cs.drop n)

end Variadic.Lexeme
