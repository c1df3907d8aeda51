import Variadic.Lexeme.Basic
import Variadic.Text.Run

/-!
# Comments in a text

Comments are blank, except that those marked as documentation become attributes. A marker that is
doubled once more (`////`, `/***`) is an ornament and marks no documentation.
-/

namespace Variadic.Lexeme

open Text

/-- The number of characters in front of the end of the line. -/
def lineLength : List Char → Nat
  | [] => 0
  | '\n' :: _ => 0
  | '\r' :: '\n' :: _ => 0
  | _ :: cs => lineLength cs + 1

/-- The length of the rest of a block comment inside which `depth` comments are open. -/
def blockRest? (depth : Nat) : List Char → Option Nat
  | '/' :: '*' :: cs => (blockRest? (depth + 1) cs).map (· + 2)
  | '*' :: '/' :: cs => if depth ≤ 1 then some 2 else (blockRest? (depth - 1) cs).map (· + 2)
  | _ :: cs => (blockRest? depth cs).map (· + 1)
  | [] => none

/-- Whether there is a carriage return that no line feed follows. -/
def hasLoneReturn : List Char → Bool
  | [] => false
  | '\r' :: '\n' :: cs => hasLoneReturn cs
  | '\r' :: _ => true
  | _ :: cs => hasLoneReturn cs

private def doc? (inner : Bool) (text : List Char) (length : Nat) : Option (Lexeme × Nat) :=
  if hasLoneReturn text then none else some (.doc inner (String.ofList text), length)

/-- A documentation comment to the end of the line, which covers a carriage return at that end. -/
private def lineDoc? (inner : Bool) (cs : List Char) : Option (Lexeme × Nat) :=
  let text := cs.drop 3
  let n := lineLength text
  doc? inner (text.take n) (3 + n + if begins "\r" (text.drop n) then 1 else 0)

private def blockDoc? (inner : Bool) (cs : List Char) : Option (Lexeme × Nat) :=
  match blockRest? 0 cs with
  | none => none
  | some n => doc? inner ((cs.take (n - 2)).drop 3) n

/-- The comment that a text begins with, and its length. -/
def comment? (cs : List Char) : Option (Lexeme × Nat) :=
  if begins "//!" cs then lineDoc? true cs
  else if begins "///" cs && !begins "////" cs then lineDoc? false cs
  else if begins "//" cs then some (.blank, lineLength cs)
  else if begins "/**/" cs then some (.blank, 4)
  else if begins "/*!" cs then blockDoc? true cs
  else if begins "/**" cs && !begins "/***" cs then blockDoc? false cs
  else if begins "/*" cs then (blockRest? 0 cs).map (.blank, ·)
  else none

end Variadic.Lexeme
