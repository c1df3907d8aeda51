import Variadic.Text.Char
import Variadic.Text.Run

/-!
# Readers of configuration text

A reader takes a value off the front of a text. Where it fails the text stays as it was, so that
another reader can be tried.
-/

namespace Variadic.Toml

abbrev Reader := StateT (List Char) Option

namespace Reader

open Text

def char (p : Char → Bool) : Reader Char
  | c :: cs => if p c then some (c, cs) else none
  | [] => none

/-- Reads exactly this text. -/
def exactly (mark : String) : Reader Unit := fun cs =>
  if begins mark cs then some ((), cs.drop mark.length) else none

/-- Reads nothing, at the end of the text. -/
def atEnd : Reader Unit := fun cs =>
  if cs.isEmpty then some ((), cs) else none

/-- Reads items as long as there are any and each shortens the text. -/
def manyFrom {α : Type} (item : Reader α) (cs : List Char) : List α × List Char :=
  match item cs with
  | none => ([], cs)
  | some (a, rest) =>
    if rest.length < cs.length then
      let (as, last) := manyFrom item rest
      (a :: as, last)
    else ([], cs)
termination_by cs.length

def many {α : Type} (item : Reader α) : Reader (List α) := fun cs =>
  some (manyFrom item cs)

def many1 {α : Type} (item : Reader α) : Reader (List α) := do
  let a ← item
  let as ← many item
  pure (a :: as)

/-- Reads items with separators between them, none in front or behind. -/
def separatedBy1 {α : Type} (separator : Reader Unit) (item : Reader α) : Reader (List α) := do
  let a ← item
  let as ← many (do separator; item)
  pure (a :: as)

def separatedBy {α : Type} (separator : Reader Unit) (item : Reader α) : Reader (List α) :=
  separatedBy1 separator item <|> pure []

/-! ## Blanks and comments -/

def isInlineBlank (c : Char) : Bool := c = ' ' || c = '\t'

def inlineBlanks : Reader Unit := do
  let _ ← many (char isInlineBlank)

def newline : Reader Unit :=
  exactly "\n" <|> exactly "\r\n"

/-- Whether a character may stand in a comment, or unescaped in a string. -/
def isText (c : Char) : Bool :=
  c = '\t' || (0x20 ≤ c.toNat && c.toNat ≠ 0x7F)

def comment : Reader Unit := do
  exactly "#"
  let _ ← many (char isText)

/-- The end of a line, behind blanks and a comment. The last line may end with the text. -/
def lineEnd : Reader Unit := do
  inlineBlanks
  let _ ← optional comment
  newline <|> atEnd

/-- Blanks, comments and line ends. -/
def blankLines : Reader Unit := do
  let _ ← many ((do let _ ← char isInlineBlank) <|> newline <|> comment)

end Reader

end Variadic.Toml
