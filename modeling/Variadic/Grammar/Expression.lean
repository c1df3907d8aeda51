import Variadic.Grammar.Atom

/-!
# Expressions

An expression is an atom with calls, fields and elements behind it, operators in front of it, and
binary operators between such.
-/

namespace Variadic.Grammar

open Lookahead Reader

/-! ## Calls, fields and elements -/

/-- Reads the arguments of a call. -/
def callArguments (n : Nested) : Reader (List Token) :=
  group .paren (separated "," n.expressionTokens)

/-- The fields that a number with a point in it stands for: `x.0.1` names a field of a field. The
point at the end of a number is given apart. -/
def fieldIndices (text : String) (span : Span) : Reader (List Token × Bool) := do
  let parts := text.splitOn "."
  let isOpen := parts.getLast? = some ""
  let indices ← (if isOpen then parts.dropLast else parts).mapM (fieldIndex · span)
  return ([Token.mark '.'].intercalate indices, isOpen)

/-- Reads a field, or the call of a method, behind its point. -/
def access (n : Nested) : Reader (List Token) := do
  if ← next (isWord "await") then word "await"
  else
    let (field, isNamed) ← member
    if isNamed then
      let generics ← ifNext (isSign "::") (SegmentArguments.tokens <$> genericArguments n)
      if generics.isEmpty then return field ++ (← ifNext (isGroup .paren) (callArguments n))
      else return field ++ generics ++ (← callArguments n)
    else return field

/-- Reads what follows a point. -/
def accesses (n : Nested) : Reader (List Token) := do
  if ← next isFloat then
    match ← literal with
    | [.literal text span] =>
      let (indices, isOpen) ← fieldIndices text span
      if isOpen then return indices ++ [Token.mark '.'] ++ (← access n) else return indices
    | tokens => return tokens
  else access n

/-- Reads calls, fields and elements behind an expression; at most `bound` of them. -/
def trailersWithin (n : Nested) : Nat → Expression → Reader Expression
  | 0, e => pure e
  | bound + 1, e => do
    let ts ← ahead
    let goOn (trailer : List Token) : Reader Expression :=
      trailersWithin n bound { tokens := e.tightOperand ++ trailer }
    if isGroup .paren ts then goOn (← callArguments n)
    else if isSign "." ts && !isSign ".." ts && !e.isRange then
      goOn (← inOrder [sign ".", accesses n])
    else if isGroup .bracket ts then goOn (← group .bracket n.expressionTokens)
    else if isSign "?" ts && !e.isRange then goOn (← sign "?")
    else return e

/-- Reads calls, fields and elements behind an expression. -/
def trailers (n : Nested) (e : Expression) : Reader Expression := do
  trailersWithin n (Token.weightAll (← ahead) + 1) e

/-- Reads an atom with what follows it. `attrs` are the attributes read in front of it, and `start`
is the stream that begins with them. -/
def trailedAtom (n : Nested) (braces : Bool) (start attrs : List Token) : Reader Expression := do
  let ts ← ahead
  let e ← trailers n (← atom n braces)
  let rest ← ahead
  match e.form with
  | .verbatim => return { e with tokens := between start rest }
  | .range =>
    if attrs.isEmpty then return e
    else
      let length := if isSign "..=" ts then 3 else 2
      failAt ((signSpan? length ts).getD .callSite) .attributeOnRange
  | _ => return e.attributed attrs

/-! ## Prefix operators -/

/-- Reads how a reference is taken. -/
def referenceFront : Reader (List Token) := do
  let front ← sign "&"
  let ts ← ahead
  if isWord "raw" ts && isOneOf ["mut", "const"] (behindOne ts) then
    return front ++ [← anyWord] ++ [← anyWord]
  else return front ++ (← optionalWord "mut")

/-- Reads an expression without a binary operator. -/
def unary (n : Nested) (braces : Bool) : Reader Expression := do
  let start ← ahead
  let attrs ← expressionAttributes n
  let ts ← ahead
  let behind (front : List Token) : Reader Expression := do
    let e ← n.unary braces
    return ⟨attrs ++ front ++ e.operand (·.rank < Strength.unary.rank), .unary, .other⟩
  if isForwarded ts then trailedAtom n braces start attrs
  else if isSign "&" ts then behind (← referenceFront)
  else if isSign "*" ts then behind (← sign "*")
  else if isSign "!" ts then behind (← sign "!")
  else if isSign "-" ts then behind (← sign "-")
  else trailedAtom n braces start attrs

/-- Reads an expression. `braces` tells whether braces behind a path are its fields. -/
def expression (n : Nested) (braces : Bool) : Reader Expression := do
  operators n (← unary n braces) braces .jump

/-! ## Expressions as statements -/

/-- Whether a phrase begins here that ends the statement with its block. -/
def startsBlock (ts : List Token) : Bool :=
  let isBlockNext := isGroup .brace (behindOne ts)
  isOneOf ["if", "while", "loop", "match", "unsafe"] ts || isWord "for" ts && !declaresLifetimes ts
    || (isWord "try" ts || isWord "const" ts) && isBlockNext || isGroup .brace ts || isLifetime ts

/-- Reads the first operand of a statement. -/
def earlyOperand (n : Nested) : Reader Expression := do
  let ts ← ahead
  if isForwarded ts then
    let e ← forwardedExpression n true
    if e.isBlockWithin then return e else trailers n e
  else if startsBlock ts then atom n true
  else unary n true

/-- Reads an expression that ends where a statement does: directly behind a block, unless a field or
a method of its value is asked for. -/
def earlyExpression (n : Nested) : Reader Expression := do
  let attrs ← expressionAttributes n
  let e ← earlyOperand n
  if !e.isBlockWithin then operators n (e.attributed attrs) true .jump
  else
    let ts ← ahead
    if isSign "." ts && !isSign ".." ts || isSign "?" ts then
      let e ← trailers n e
      operators n (e.attributed attrs) true .jump
    else return e.attributed attrs

end Variadic.Grammar
