import Variadic.Lexeme.Scan
import Variadic.Text.Quoted

/-!
# From text to token trees

Groups are formed over the lexemes with a stack of the groups still open. A text is a stream if all
of it is lexemes and its delimiters are balanced.
-/

namespace Variadic

/-- A group whose end has not been seen: its delimiter, where it began, and the tokens in front of
it, last one first. -/
structure OpenGroup where
  delimiter : Delimiter
  start : Position
  before : List Token
deriving Repr

namespace Token

/-- A documentation comment as the attribute it stands for. All its tokens lie where the comment
does. -/
def docAttribute (inner : Bool) (text : String) (span : Span) : List Token :=
  let body := [ident "doc" span, punct '=' .alone span, literal (Text.quote text) span]
  let bang := if inner then [punct '!' .alone span] else []
  punct '#' .alone span :: bang ++ [group .bracket body span]

/-- Forms the token trees of a sequence of lexemes. `before` holds the finished tokens of the
innermost open group, last one first. -/
def assemble? (stack : List OpenGroup) (before : List Token) :
    List PlacedLexeme → Option (List Token)
  | [] => if stack.isEmpty then some before.reverse else none
  | l :: ls =>
    match l.lexeme with
    | .blank => assemble? stack before ls
    | .doc inner text => assemble? stack ((docAttribute inner text l.span).reverse ++ before) ls
    | .ident text => assemble? stack (ident text l.span :: before) ls
    | .punct c spacing => assemble? stack (punct c spacing l.span :: before) ls
    | .literal text => assemble? stack (literal text l.span :: before) ls
    | .opening d => assemble? (⟨d, l.start, before⟩ :: stack) [] ls
    | .closing d =>
      match stack with
      | [] => none
      | g :: stack =>
        if g.delimiter = d then
          assemble? stack (group d before.reverse (.range g.start l.stop) :: g.before) ls
        else none

/-- Skips a byte order mark at the start of a text, which still takes up a column. -/
def skipByteOrderMark (start : Position) : List Char → Position × List Char
  | '\ufeff' :: cs => (start.next '\ufeff', cs)
  | cs => (start, cs)

/-- The stream that a text spells. `number` tells the text from others. -/
def ofText? (number : Nat) (text : String) : Option (List Token) :=
  let (start, cs) := skipByteOrderMark (.start number) text.toList
  (Lexeme.scan? start cs).bind (assemble? [] [])

end Token

end Variadic
