import Variadic.Grammar.Path

/-!
# Bounds

A bound is a lifetime or a trait. The lifetimes that a bound or a type is general in are declared in
front of it (`binder`).
-/

namespace Variadic.Grammar

open Lookahead Reader

/-! ## Declarations of lifetimes -/

/-- Reads the bounds of a lifetime. -/
def lifetimeBounds : Reader (List Token) :=
  List.flatten <$> chain do
    if ← next fun ts => ts.isEmpty || isAnySign [",", ">"] ts then return ([], false)
    let bound ← lifetime
    let plus ← optionalSign "+"
    return (bound ++ plus, !plus.isEmpty)

/-- Reads the bounds of a type that is declared. -/
def parameterBounds (n : Nested) : Reader (List Token) :=
  List.flatten <$> chain do
    if ← next fun ts => ts.isEmpty || isAnySign [",", ">", "="] ts then return ([], false)
    let bound ← n.bound false true
    let plus ← optionalSign "+"
    return (bound.tokens ++ plus, !plus.isEmpty)

/-- Reads a colon and what is behind it. Without bounds the colon is not written. -/
def bounded (bounds : Reader (List Token)) : Reader (List Token) := do
  if ← next (isSign ":") then
    let colon ← sign ":"
    let tokens ← bounds
    return if tokens.isEmpty then [] else colon ++ tokens
  else return []

/-- Reads a lifetime, a type or a constant that is declared. -/
def genericParameter (n : Nested) : Reader (List Token) := do
  let attrs ← attributes n
  let ts ← ahead
  if isName ts then
    return attrs ++ (← inOrder [name, bounded (parameterBounds n),
      ifNext (isSign "=") (inOrder [sign "=", n.typeTokens])])
  else if isLifetime ts then return attrs ++ (← inOrder [lifetime, bounded lifetimeBounds])
  else if isWord "const" ts then
    return attrs ++ (← inOrder [word "const", name, sign ":", n.typeTokens,
      ifNext (isSign "=") (inOrder [sign "=", constant n])])
  else missing ["identifier", "lifetime", quoted "const"]

/-- Reads the lifetimes that what follows is general in. -/
def binder (n : Nested) : Reader (List Token) :=
  inOrder [word "for", sign "<",
    Listed.tokensOf "," id <$> listed "," (isSign ">") (genericParameter n), sign ">"]

def optionalBinder (n : Nested) : Reader (List Token) :=
  ifNext (isWord "for") (binder n)

/-! ## Functions as traits -/

/-- Reads the type of a result, which is no sum. -/
def resultType (n : Nested) : Reader (Option TypePhrase) := do
  if ← next (isSign "->") then
    let _ ← sign "->"
    return some (← n.type false true)
  else return none

def resultTokens : Option TypePhrase → List Token
  | some t => signTokens "->" ++ t.tokens
  | none => []

/-- Reads the parameters and the result of a function trait; gives the type of the result too. -/
def functionArguments (n : Nested) : Reader (SegmentArguments × Option TypePhrase) := do
  let parameters ← group .paren (separated "," n.typeTokens)
  let result ← resultType n
  return (.parenthesized (parameters ++ resultTokens result), result)

/-! ## Bounds -/

/-- Reads the names that an opaque type may capture, lifetimes being written first. -/
def capture : Reader Bound := do
  let front ← inOrder [word "use", sign "<"]
  let names ← chain do
    let ts ← ahead
    if isSign ">" ts then return (none, false)
    let arg ←
      if isLifetime ts then pure ⟨true, ← lifetime⟩
      else if isName ts || isWord "Self" ts then pure ⟨false, [← anyWord]⟩
      else missing ["lifetime", "identifier", quoted ">"]
    let ts ← ahead
    if isSign "," ts then
      let _ ← sign ","
      return (some ⟨arg, true⟩, true)
    else if isSign ">" ts then return (some ⟨arg, false⟩, false)
    else missing [quoted ",", quoted ">"]
  let last := (signSpan? 1 (← ahead)).getD (← place)
  let closing ← sign ">"
  return .capture (front ++ arrange (names.filterMap id) ++ closing) last

/-- Reads that a trait has to be constant; whether it has. -/
def constancy (allowed : Bool) : Reader Bool := do
  let ts ← ahead
  match group? .bracket ts with
  | some (_, span, _) =>
    let _ ← group .bracket (word "const")
    if allowed then return true else failAt span (.notAllowed "`[const]`")
  | none =>
    if isWord "const" ts then
      let w ← anyWord
      if allowed then return true else failAt w.span (.notAllowed "`const`")
    else return false

/-- Reads the path of a trait, with the parameters of a function trait. -/
def traitPath (n : Nested) : Reader Path := do
  let p ← path n .type
  let ts ← ahead
  if p.endsBare && (isGroup .paren ts || isSign "::" ts && isGroup .paren (behindTwo ts)) then
    let _ ← optionalSign "::"
    let (arguments, _) ← functionArguments n
    return p.withArguments arguments
  else return p

/-- Reads a bound that is a trait; none if it has to be constant. -/
def traitTokens (n : Nested) (constant : Bool) : Reader (Option (List Token)) := do
  let lifetimes ← optionalBinder n
  let isConstant ← constancy constant
  let modifier ← optionalSign "?"
  let lifetimes ←
    if lifetimes.isEmpty && !modifier.isEmpty then optionalBinder n else pure lifetimes
  let p ← traitPath n
  return if isConstant then none else some (modifier ++ lifetimes ++ p.tokens)

/-- Reads a trait that may be in parentheses. -/
def traitBound (n : Nested) (constant : Bool) : Reader Bound := do
  let start ← ahead
  let (tokens, span) ←
    if ← next (isGroup .paren) then
      let (tokens, span) ← groupOf .paren (traitTokens n constant)
      pure (tokens, some span)
    else pure (← traitTokens n constant, none)
  match tokens with
  | some ts => return .trait ts span
  | none => return .verbatim (between start (← ahead))

def bound (n : Nested) (captures constant : Bool) : Reader Bound := do
  let ts ← ahead
  if isLifetime ts then
    let tokens ← lifetime
    return .lifetime tokens ((tokens.getLast?.map Token.span).getD .callSite)
  else if isWord "use" ts then
    let start ← place
    let b ← capture
    if captures then return b
    else
      failAt (b.last?.elim start start.join) (.notAllowed "`use<...>` precise capturing syntax")
  else traitBound n constant

/-! ## Sums -/

/-- Whether a bound follows a plus, where the plus may also be the last one. -/
def startsBound (constant : Bool) (ts : List Token) : Bool :=
  isAnyWord ts || isAnySign ["::", "?"] ts || isLifetime ts || isGroup .paren ts
    || constant && isGroup .bracket ts

/-- Reads bounds with a plus between them. `goesOn` tells whether another one follows a plus. -/
def sumWhile (n : Nested) (plus captures constant : Bool) (goesOn : List Token → Bool) :
    Reader Bounds :=
  chain do
    let b ← n.bound captures constant
    if plus && (← next (isSign "+")) then
      let _ ← sign "+"
      return (⟨b, true⟩, ← next goesOn)
    else return (⟨b, false⟩, false)

/-- Reads bounds, perhaps with a plus behind the last one. -/
def sum (n : Nested) (plus captures constant : Bool) : Reader Bounds :=
  sumWhile n plus captures constant (startsBound constant)

/-- Reads the bounds behind a first one. -/
def sumFrom (n : Nested) (first : Bound) (goesOn : List Token → Bool) : Reader Bounds := do
  if ← next (isSign "+") then
    let _ ← sign "+"
    if ← next goesOn then return ⟨first, true⟩ :: (← sumWhile n true false false goesOn)
    else return [⟨first, true⟩]
  else return [⟨first, false⟩]

/-- Reads the bounds of an object. One at least has to be a trait; if none is, the stretch from
`start` to the last one is blamed. -/
def objectBounds (n : Nested) (start : Span) (plus : Bool) : Reader Bounds := do
  let bounds ← sum n plus false false
  if bounds.any (·.item.isTrait) then return bounds
  else
    let last? := bounds.getLast?.bind (·.item.last?)
    failAt (last?.elim start start.join) .objectWithoutTrait

end Variadic.Grammar
