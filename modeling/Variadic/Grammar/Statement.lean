import Variadic.Grammar.Expression

/-!
# Statements

A statement is a declaration, an item, the call of a macro or an expression. An item is taken as it
stands, up to the semicolon or the braces that it ends in.
-/

namespace Variadic.Grammar

open Lookahead Reader

/-! ## Items -/

/-- Whether a constant block or a closure, and no item, begins here. -/
def isConstantExpression (ts : List Token) : Bool :=
  let rest := behindOne ts
  isGroup .brace rest || isOneOf ["static", "move"] rest || isSign "|" rest
    || isWord "async" rest && !isOneOf ["unsafe", "extern", "fn"] (behindOne rest)

/-- Whether an item begins here. -/
def startsItem (ts : List Token) : Bool :=
  let rest := behindOne ts
  isOneOf ["pub", "extern", "use", "fn", "mod", "type", "struct", "enum", "trait", "impl"] ts
    || isWord "macro" ts
    || isWord "crate" ts && !isSign "::" rest
    || isWord "static" ts && (isWord "mut" rest || isName rest)
    || isWord "const" ts && !isConstantExpression ts
    || isWord "unsafe" ts && !isGroup .brace rest
    || isWord "async" ts && isOneOf ["unsafe", "extern", "fn"] rest
    || isWord "union" ts && isName rest
    || isWord "auto" ts && isWord "trait" rest
    || isWord "default" ts && isOneOf ["unsafe", "impl"] rest

/-- Whether the item that begins here ends in a semicolon, whatever braces are in it. -/
def endsInSemicolon (ts : List Token) : Bool :=
  isOneOf ["use", "type", "static"] ts
    || isWord "const" ts && !isOneOf ["unsafe", "extern", "fn", "async"] (behindOne ts)

/-- The token at the front as it stands, an invisible group too. -/
private def token? : (ts : List Token) → Option (Token × Token.Rest ts)
  | t :: rest => some (t, ⟨rest, .cons _ _⟩)
  | [] => none

/-- Reads an item as it stands, up to its end: a semicolon, or the braces around its body. -/
def item : Reader (List Token) := do
  let goesOn ← next endsInSemicolon
  chain do
    match ← take? token? with
    | some (.punct ';' spacing span) => return (.punct ';' spacing span, false)
    | some (.group .brace inner span) => return (.group .brace inner span, goesOn)
    | some t => return (t, true)
    | none => missing ["`;`"]

/-! ## Macros -/

/-- What the call of a macro at the beginning of a statement is. -/
private inductive CallKind where
  | item
  /-- Braces make it a statement of its own, unless its value is used. -/
  | statement
  | expression

private def callKind : Reader CallKind := do
  let _ ← plainPath
  let ts ← ahead
  let rest := behindOne ts
  let behind := behindTwo ts
  if !isSign "!" ts then return .expression
  else if isName rest || isWord "try" rest then return .item
  else if isSign "." behind && !isSign ".." behind || isSign "?" behind then return .expression
  else if isGroup .brace rest then return .statement
  else return .expression

/-! ## Declarations -/

/-- Reads a declaration of names. -/
def declaration (n : Nested) : Reader (List Token) := do
  let front ← inOrder [word "let", n.patternTokens,
    ifNext (isSign ":") (inOrder [sign ":", n.typeTokens])]
  let value ←
    if ← next (isSign "=") then
      let equals ← sign "="
      let e ← n.expression true
      let otherwise ←
        if e.endsInBrace then pure [] else ifNext (isWord "else") (inOrder [word "else", n.block])
      pure (equals ++ e.tokens ++ otherwise)
    else pure []
  return front ++ value ++ (← sign ";")

/-! ## Statements -/

/-- Reads a statement; whether a semicolon has to follow if another statement does. -/
def statement (n : Nested) : Reader (List Token × Bool) := do
  let attrs ← attributes n
  let ts ← ahead
  let kind := (← peek callKind).getD .expression
  match kind with
  | .statement =>
    return (attrs ++ (← inOrder [plainPath, sign "!", anyGroup, optionalSign ";"]), false)
  | .item => return (attrs ++ (← item), false)
  | .expression =>
    if isWord "let" ts && !isForwarded ts then return (attrs ++ (← declaration n), false)
    else if startsItem ts then return (attrs ++ (← item), false)
    else
      let e ← earlyExpression n
      let semicolon ← optionalSign ";"
      let needsSemicolon := !e.isBlock && !(e.form matches .call true)
      return (attrs ++ e.tokens ++ semicolon, semicolon.isEmpty && needsSemicolon)

/-- Reads the statements of a block. -/
def statements (n : Nested) : Reader (List Token) := do
  let more ← many do
    let separators ← whileNext (isSign ";") (sign ";")
    if ← atEnd then
      return if separators.isEmpty then none else some separators
    let (tokens, needsSemicolon) ← statement n
    if needsSemicolon && !(← atEnd) then fail .unseparatedStatement
    else return some (separators ++ tokens)
  return more.flatten

end Variadic.Grammar
