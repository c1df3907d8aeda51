import Variadic.Grammar.Phrase

/-!
# Attributes

An attribute is a path in brackets, perhaps with a value or with a group behind it. A value that is
a literal alone is taken as such; any other one is an expression.
-/

namespace Variadic.Grammar

open Lookahead Reader

/-! ## Paths of names alone -/

/-- Whether a word stands at the front that can name a segment. -/
def isPlainName (ts : List Token) : Bool :=
  isName ts || isOneOf ["super", "self", "Self", "crate"] ts

/-- Reads a path without generic arguments. -/
def plainPath : Reader (List Token) := do
  let root ← optionalSign "::"
  if ← next isPlainName then
    let names ← chain do
      let w ← anyWord
      let separator ← optionalSign "::"
      if separator.isEmpty then return ([w], false)
      else if ← next isPlainName then return (w :: separator, true)
      else fail .noSegment
    return root ++ names.flatten
  else name

/-! ## Attributes -/

/-- Reads the value of an attribute. -/
def attributeValue (n : Nested) : Reader (List Token) := do
  let ts ← ahead
  if (literal? ts).any fun (_, rest) => rest.1.isEmpty then literal
  else if isSign "#" ts && isGroup .bracket (behindOne ts) then fail .nestedAttribute
  else n.expressionTokens

/-- Reads what an attribute says. -/
def attributeContent (n : Nested) : Reader (List Token) := do
  let path ← if ← next (isWord "unsafe") then word "unsafe" else plainPath
  let ts ← ahead
  if isGroup .paren ts || isGroup .bracket ts || isGroup .brace ts then
    return path ++ (← anyGroup)
  else if isSign "=" ts && !isAnySign ["==", "=>"] ts then
    return path ++ (← inOrder [sign "=", attributeValue n])
  else return path

/-- Reads the attributes in front of something. -/
def attributes (n : Nested) : Reader (List Token) :=
  whileNext (isSign "#") (inOrder [sign "#", group .bracket (attributeContent n)])

/-- Reads the attributes of an expression. Those of one that was forwarded are its own. -/
def expressionAttributes (n : Nested) : Reader (List Token) :=
  whileNext (fun ts => !isForwarded ts && isSign "#" ts)
    (inOrder [sign "#", group .bracket (attributeContent n)])

/-- Reads the attributes that stand inside of what they are about. -/
def innerAttributes (n : Nested) : Reader (List Token) :=
  whileNext (fun ts => isSign "#" ts && isSign "!" (behindOne ts))
    (inOrder [sign "#", sign "!", group .bracket (attributeContent n)])

/-- Reads a block that attributes may stand in. -/
def attributedBlock (n : Nested) : Reader (List Token) :=
  group .brace (inOrder [innerAttributes n, n.statements])

end Variadic.Grammar
