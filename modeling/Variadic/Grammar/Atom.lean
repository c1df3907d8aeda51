import Variadic.Grammar.Control
import Variadic.Grammar.Operator

/-!
# Expressions without operators

The first token, or the first two, tell the kind of an atom.
-/

namespace Variadic.Grammar

open Lookahead Reader

/-! ## Closures -/

/-- Reads a parameter of a closure. -/
def closureParameter (n : Nested) : Reader (List Token) :=
  inOrder [attributes n, n.patternTokens, ifNext (isSign ":") (inOrder [sign ":", n.typeTokens])]

/-- Whether lifetimes are declared behind the keyword at the front. -/
def declaresLifetimes (ts : List Token) : Bool :=
  let opening := behindOne ts
  let first := behindOne opening
  let second := behindOne first
  isSign "<" opening
    && (isAnySign [">", "#"] first
      || (isLifetime first || isName first)
        && (isAnySign [">", ",", "="] second || isSign ":" second && !isSign "::" second)
      || isWord "const" first)

def closure (n : Nested) (braces : Bool) : Reader Expression := do
  let front ← inOrder [optionalBinder n, optionalWord "const", optionalWord "static",
    optionalWord "async", optionalWord "move", sign "|",
    Listed.tokensOf "," id <$> listed "," (isSign "|") (closureParameter n), sign "|"]
  if ← next (isSign "->") then
    return { tokens := front ++ (← inOrder [sign "->", n.typeTokens, n.block]) }
  else
    let body ← n.expression braces
    return { tokens := front ++ body.tokens, strength := .jump }

/-! ## Paths, and phrases that begin with one -/

/-- Reads the fields of a structure. Behind two points stands what gives the other fields. -/
def structureFields (n : Nested) : Reader (List Token) :=
  List.flatten <$> chain do
    if ← atEnd then return ([], false)
    if ← next (isSign "..") then
      let points ← sign ".."
      if ← atEnd then return (points, false)
      return (points ++ (← n.expressionTokens), false)
    let attrs ← attributes n
    let (field, isNamed) ← member
    let value ←
      if !isNamed || (← next (isSign ":")) then inOrder [sign ":", n.expressionTokens] else pure []
    if ← atEnd then return (attrs ++ field ++ value, false)
    return (attrs ++ field ++ value ++ (← sign ","), true)

/-- Whether the last of some tokens is a group in braces. -/
def isBraced (ts : List Token) : Bool :=
  ts.getLast? matches some (.group .brace _ _)

/-- Reads what follows a path: the rest of a macro's call, fields, or nothing. -/
def pathRest (n : Nested) (q : QualifiedPath) (braces : Bool) : Reader Expression := do
  let ts ← ahead
  if !q.isQualified && isCall ts && q.path.isPlain then
    let call ← callRest
    return { tokens := q.tokens ++ call, form := .call (isBraced call) }
  else if braces && isGroup .brace ts then
    return { tokens := q.tokens ++ (← group .brace (structureFields n)) }
  else return .ofPath q

/-- Reads a whole expression that was forwarded. As the front of a path it is dissolved. -/
def forwardedExpression (n : Nested) (braces : Bool) : Reader Expression := do
  let (e, span) ← groupOf .invisible (n.expression true)
  let whole : Expression := ⟨[.group .invisible e.tokens span], e.strength, .forwarded e.form⟩
  match e.form with
  | .path q =>
    let q' := q.extend (← moreSegments n .expression)
    let extended ← pathRest n q' braces
    match extended.form with
    | .path _ => return if q'.path.segments.length = q.path.segments.length then whole else extended
    | _ => return extended
  | _ => return whole

/-! ## Parentheses and brackets -/

/-- Reads a tuple, or an expression in parentheses. -/
def tuple (n : Nested) : Reader (List Token) :=
  group .paren (separated "," n.expressionTokens)

/-- Reads an array: its elements, or one of them and their number. -/
def array (n : Nested) : Reader (List Token) :=
  group .bracket do
    if ← atEnd then return []
    let first ← n.expressionTokens
    let ts ← ahead
    if ts.isEmpty then return first
    else if isSign "," ts then
      return first ++ (← inOrder [sign ",", separated "," n.expressionTokens])
    else if isSign ";" ts then return first ++ (← inOrder [sign ";", n.expressionTokens])
    else missing ["`,`", "`;`"]

/-! ## Jumps -/

/-- Whether an expression begins here. -/
def startsExpression (ts : List Token) : Bool :=
  isAnyWord ts || isGroup .paren ts || isGroup .bracket ts || isGroup .brace ts || isLiteral ts
    || isSign "!" ts && !isSign "!=" ts || isSign "-" ts && !isAnySign ["-=", "->"] ts
    || isSign "*" ts && !isSign "*=" ts || isSign "|" ts && !isSign "|=" ts
    || isSign "&" ts && !isSign "&=" ts || isSign ".." ts
    || isSign "<" ts && !isAnySign ["<=", "<<="] ts || isSign "::" ts || isLifetime ts
    || isSign "#" ts

/-- Makes a jump of its tokens and those of the value that it takes along. -/
def jump (front value : List Token) : Expression :=
  ⟨front ++ value, if value.isEmpty then .tight else .jump, .other⟩

/-- Reads the value that a jump takes along. -/
def jumpValue (n : Nested) : Reader (List Token) :=
  ifNext startsExpression n.expressionTokens

/-- Reads the end of a loop or a block, with its value. A label belongs to the loop that is left,
unless a colon makes it one of the value's own. -/
def breaking (n : Nested) (braces : Bool) : Reader Expression := do
  let front ← word "break"
  let ts ← ahead
  if isLifetime ts && isSign ":" (behindOne ts) then
    let start ← ahead
    let _ ← n.expressionTokens
    let value := between start (← ahead)
    match value.head?, value.getLast? with
    | some a, some b => failAt (a.span.join b.span) .labelWithoutParentheses
    | _, _ => fail .labelWithoutParentheses
  else
    let front := front ++ (← optionalLifetime)
    let ts ← ahead
    if startsExpression ts && (braces || !isGroup .brace ts) then
      return jump front (← n.expression braces).tokens
    else return jump front []

/-! ## Atoms -/

/-- Reads a condition that binds names. -/
def bindingCondition (n : Nested) (braces : Bool) : Reader Expression := do
  let front ← inOrder [word "let", fullPatternTokens n, sign "="]
  let value ← operators n (← n.unary braces) braces .comparison
  return ⟨front ++ value.operand (·.rank < Strength.condition.rank), .condition, .other⟩

/-- Reads tokens that are left as they stand. -/
def leftAsIs (r : Reader (List Token)) : Reader Expression := do
  let start ← ahead
  let _ ← r
  return ⟨between start (← ahead), .tight, .verbatim⟩

/-- Whether a closure begins here. -/
def startsClosure (ts : List Token) : Bool :=
  isSign "|" ts || isWord "move" ts || isWord "for" ts && declaresLifetimes ts
    || isWord "const" ts && !isGroup .brace (behindOne ts) || isWord "static" ts
    || isWord "async" ts && (isSign "|" (behindOne ts) || isWord "move" (behindOne ts))

/-- Whether a path begins here. -/
def startsPath (ts : List Token) : Bool :=
  isPlainName ts || isAnySign ["::", "<"] ts
    || isWord "try" ts && (isAnySign ["!", "::"] (behindOne ts))

def blockLike (tokens : List Token) : Expression :=
  ⟨tokens, .tight, .block⟩

/-- Reads a phrase that begins with a keyword. -/
def keywordAtom (n : Nested) (braces : Bool) : Reader Expression := do
  let ts ← ahead
  match word? ts with
  | some "break" => breaking n braces
  | some "continue" => return { tokens := ← inOrder [word "continue", optionalLifetime] }
  | some "return" => return jump (← word "return") (← jumpValue n)
  | some "yield" => return jump (← word "yield") (← jumpValue n)
  | some "become" => leftAsIs (inOrder [word "become", n.expressionTokens])
  | some "let" => bindingCondition n braces
  | some "if" => blockLike <$> choice n
  | some "while" => blockLike <$> whileLoop n
  | some "for" => blockLike <$> forLoop n
  | some "loop" => blockLike <$> endlessLoop n
  | some "match" => blockLike <$> matching n
  | some "unsafe" => blockLike <$> inOrder [word "unsafe", attributedBlock n]
  | some "const" => blockLike <$> attributedConstant n
  | some "_" => return { tokens := ← word "_" }
  | _ => missing ["an expression"]

/-- Reads an expression without operators in front or behind. -/
def atom (n : Nested) (braces : Bool) : Reader Expression := do
  let ts ← ahead
  let rest := behindOne ts
  if isForwarded ts then forwardedExpression n braces
  else if isLiteral ts then return { tokens := ← literal }
  else if isWord "async" ts
      && (isGroup .brace rest || isWord "move" rest && isGroup .brace (behindOne rest)) then
    return { tokens := ← inOrder [word "async", optionalWord "move", n.block] }
  else if isWord "try" ts && isGroup .brace rest then
    blockLike <$> inOrder [word "try", n.block]
  else if startsClosure ts then closure n braces
  else if isWord "builtin" ts && isSign "#" rest then
    leftAsIs (inOrder [word "builtin", sign "#", name, groupAsIs .paren])
  else if startsPath ts then pathRest n (← qualifiedPath n .expression) braces
  else if isGroup .paren ts then return { tokens := ← tuple n }
  else if isGroup .bracket ts then return { tokens := ← array n }
  else if isGroup .brace ts then blockLike <$> attributedBlock n
  else if isSign ".." ts then prefixRange n braces
  else if isLifetime ts then blockLike <$> labelled n
  else keywordAtom n braces

end Variadic.Grammar
