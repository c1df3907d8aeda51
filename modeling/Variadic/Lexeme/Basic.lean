import Variadic.Token.Basic

/-!
# Lexemes

The pieces a text falls into before groups are formed.
-/

namespace Variadic

inductive Lexeme where
  /-- White space or a comment that says nothing to the compiler. -/
  | blank
  /-- A documentation comment, on what follows it or (`inner`) on what it stands in. -/
  | doc (inner : Bool) (text : String)
  | opening (delimiter : Delimiter)
  | closing (delimiter : Delimiter)
  | ident (text : String)
  | punct (char : Char) (spacing : Spacing)
  | literal (text : String)
deriving DecidableEq, Repr

/-- A lexeme with the stretch of text that it covers. -/
structure PlacedLexeme where
  lexeme : Lexeme
  start : Position
  stop : Position
deriving DecidableEq, Repr

namespace PlacedLexeme

def span (l : PlacedLexeme) : Span :=
  .range l.start l.stop

end PlacedLexeme

end Variadic
