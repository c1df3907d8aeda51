import Variadic.Token.Basic

/-!
# The text of a stream

Tokens are written with one space between them, except that nothing follows a joint punctuation.
Invisible groups leave no trace but the spaces around them.
-/

namespace Variadic

namespace Delimiter

/-- What stands in front of a group's content. -/
def openingText : Delimiter → String
  | paren => "("
  | bracket => "["
  | brace => "\x7b "
  | invisible => ""

/-- What stands behind a group's content. Only braces are set off by spaces, an empty pair by a
single one. -/
def closingText (d : Delimiter) (empty : Bool) : String :=
  match d with
  | paren => ")"
  | bracket => "]"
  | brace => if empty then "\x7d" else " \x7d"
  | invisible => ""

end Delimiter

namespace Token

def isJoint : Token → Bool
  | punct _ .joint _ => true
  | _ => false

mutual

def text : Token → String
  | group d content _ => d.openingText ++ textAll content ++ d.closingText content.isEmpty
  | ident text _ => text
  | punct c _ _ => c.toString
  | literal text _ => text

def textAll : List Token → String
  | [] => ""
  | [t] => t.text
  | t :: ts => t.text ++ (if t.isJoint then "" else " ") ++ textAll ts

end

end Token

end Variadic
