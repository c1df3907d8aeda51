import Variadic.Text.Char
import Variadic.Text.Run

/-!
# Identifiers in a text
-/

namespace Variadic.Lexeme

open Text

/-- The length of the identifier that a text begins with, not counting raw ones. -/
def plainWord? : List Char → Option Nat
  | [] => none
  | c :: cs => if isIdentStart c then some (1 + countWhile isIdentContinue cs) else none

/-- Words that cannot be made identifiers by writing `r#` in front of them. -/
def neverRaw : List String := ["_", "super", "self", "Self", "crate"]

/-- The length of the identifier that a text begins with, the mark `r#` of a raw one included. -/
def word? (cs : List Char) : Option Nat :=
  if begins "r#" cs then
    let name := cs.drop 2
    match plainWord? name with
    | none => none
    | some n => if String.ofList (name.take n) ∈ neverRaw then none else some (2 + n)
  else plainWord? cs

/-- Openings of quoted literals. No identifier begins with one, even if the literal is malformed. -/
def literalOpenings : List String :=
  ["r\"", "r#\"", "r##", "b\"", "b'", "br\"", "br#", "c\"", "cr\"", "cr#"]

/-- The length of the identifier token that a text begins with. -/
def ident? (cs : List Char) : Option Nat :=
  if literalOpenings.any (begins · cs) then none else word? cs

/-- The length of a literal's suffix, zero if it has none. -/
def suffixLength (cs : List Char) : Nat :=
  (plainWord? cs).getD 0

/-- Whether a word ends here, as it has to behind a number. -/
def endsWord : List Char → Bool
  | [] => true
  | c :: _ => !isIdentContinue c

end Variadic.Lexeme
