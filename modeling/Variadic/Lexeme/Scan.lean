import Variadic.Lexeme.Comment
import Variadic.Lexeme.Quoted
import Variadic.Lexeme.Number

/-!
# From text to lexemes
-/

namespace Variadic.Lexeme

open Text

def punctChars : List Char := "~!@#$%^&*-=+|;:,<.>/?'".toList

/-- The punctuation character that a text begins with, unless it opens a comment. -/
def punctChar? : List Char → Option Char
  | [] => none
  | c :: cs =>
    if begins "//" (c :: cs) || begins "/*" (c :: cs) then none
    else if c ∈ punctChars then some c else none

/-- Whether an apostrophe in front of this text begins a lifetime: an identifier follows which is
not closed by another apostrophe, nor, unless it is raw, by `#`. -/
def isLifetimeName (cs : List Char) : Bool :=
  match word? cs with
  | none => false
  | some n => !(begins "'" (cs.drop n)) && !(begins "#" (cs.drop n) && !begins "r#" cs)

/-- The punctuation that a text begins with. An apostrophe belongs to the name behind it. -/
def punct? (cs : List Char) : Option Lexeme :=
  match punctChar? cs with
  | none => none
  | some '\'' => if isLifetimeName cs.tail then some (.punct '\'' .joint) else none
  | some c => some (.punct c (if (punctChar? cs.tail).isSome then .joint else .alone))

def delimiter? : Char → Option Lexeme
  | '(' => some (.opening .paren)
  | '[' => some (.opening .bracket)
  | '\x7b' => some (.opening .brace)
  | ')' => some (.closing .paren)
  | ']' => some (.closing .bracket)
  | '\x7d' => some (.closing .brace)
  | _ => none

/-- How a literal that could not be read is written in a stream that is read nonetheless. It is a
token of its own, not a group. -/
def errorLiteral : String := "(/*ERROR*/)"

/-- The lexeme that a text begins with, and its length. -/
def first? (cs : List Char) : Option (Lexeme × Nat) :=
  match cs with
  | [] => none
  | c :: _ =>
    let lexeme (n : Nat) := String.ofList (cs.take n)
    if isBlank c then some (.blank, 1)
    else if begins errorLiteral cs then some (.literal errorLiteral, errorLiteral.length)
    else (comment? cs)
      |>.or ((delimiter? c).map (·, 1))
      |>.or ((quoted? cs).map fun n => (.literal (lexeme n), n))
      |>.or ((number? cs).map fun n => (.literal (lexeme n), n))
      |>.or ((punct? cs).map (·, 1))
      |>.or ((ident? cs).map fun n => (.ident (lexeme n), n))

/-- All lexemes of a text that begins at the given place; none if some stretch of it is no lexeme.
-/
def scan? (start : Position) : List Char → Option (List PlacedLexeme)
  | [] => some []
  | c :: cs =>
    match first? (c :: cs) with
    | none => none
    | some (lexeme, n) =>
      let stop := (start.next c).advance (cs.take (n - 1))
      (scan? stop (cs.drop (n - 1))).map (⟨lexeme, start, stop⟩ :: ·)
termination_by cs => cs.length

end Variadic.Lexeme
