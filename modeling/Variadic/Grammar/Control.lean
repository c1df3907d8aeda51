import Variadic.Grammar.Pattern

/-!
# Choices and loops

Phrases that are put together from conditions and blocks. Each ends in a block, so nothing has to
stand between it and what follows.
-/

namespace Variadic.Grammar

open Lookahead Reader

/-! ## Blocks, and phrases with a block in them -/

/-- Reads a loop's or a block's name. -/
def label : Reader (List Token) :=
  inOrder [lifetime, sign ":"]

/-- Reads the condition and the branches of a choice. -/
def choice (n : Nested) : Reader (List Token) :=
  List.flatten <$> chain do
    let branch ← inOrder [word "if", n.head, n.block]
    if ← next (isWord "else") then
      let otherwise ← word "else"
      let ts ← ahead
      if isWord "if" ts then return (branch ++ otherwise, true)
      else if isGroup .brace ts then return (branch ++ otherwise ++ (← n.block), false)
      else missing ["`if`", "curly braces"]
    else return (branch, false)

def whileLoop (n : Nested) : Reader (List Token) :=
  inOrder [word "while", n.head, attributedBlock n]

def forLoop (n : Nested) : Reader (List Token) :=
  inOrder [word "for", fullPatternTokens n, word "in", n.head, attributedBlock n]

def endlessLoop (n : Nested) : Reader (List Token) :=
  inOrder [word "loop", attributedBlock n]

/-- Reads one case of a match. Where it ends in no block, a comma has to follow, unless it is the
last one. -/
def matchArm (n : Nested) : Reader (List Token) := do
  let front ← inOrder [attributes n, fullPatternTokens n,
    ifNext (isWord "if") (inOrder [word "if", n.expressionTokens]), sign "=>"]
  let body ← n.early
  let comma ← if body.isBlock || (← atEnd) then optionalSign "," else sign ","
  return front ++ body.tokens ++ comma

def matching (n : Nested) : Reader (List Token) :=
  inOrder [word "match", n.head,
    group .brace (inOrder [innerAttributes n, whileNext (!·.isEmpty) (matchArm n)])]

/-- Reads what a label stands in front of. -/
def labelled (n : Nested) : Reader (List Token) := do
  let front ← label
  let ts ← ahead
  if isWord "while" ts then return front ++ (← whileLoop n)
  else if isWord "for" ts then return front ++ (← forLoop n)
  else if isWord "loop" ts then return front ++ (← endlessLoop n)
  else if isGroup .brace ts then return front ++ (← attributedBlock n)
  else missing ["loop or block expression"]

end Variadic.Grammar
