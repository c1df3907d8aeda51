/-!
# Stretches at the start of a text

Readers say how many characters at the start of a text belong to what they read. A reader applied
over and over, as long as it succeeds, measures a run.
-/

namespace Variadic.Text

/-- Whether `text` begins with the characters of `mark`. -/
def begins (mark : String) (text : List Char) : Bool :=
  mark.toList.isPrefixOf text

/-- How many characters at the start of the text satisfy `p`. -/
def countWhile (p : Char → Bool) (text : List Char) : Nat :=
  (text.takeWhile p).length

/-- The length of the run of elements that a text begins with. `element` gives the length of one
element, which is at least one character long. -/
def runLength (element : List Char → Option Nat) : List Char → Nat
  | [] => 0
  | c :: cs =>
    match element (c :: cs) with
    | none => 0
    | some n => (n - 1 + 1) + runLength element (cs.drop (n - 1))
termination_by cs => cs.length

end Variadic.Text
