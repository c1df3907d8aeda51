import Variadic.Grammar.Bound

/-!
# Types

The first token tells the kind of a type. A path may turn out to be the call of a macro or the first
bound of a sum only by what follows it.
-/

namespace Variadic.Grammar

open Lookahead Reader

/-! ## What was forwarded -/

/-- Reads a whole type that was forwarded. As the front of a path it is dissolved. -/
def forwardedType (n : Nested) (generics : Bool) : Reader TypePhrase := do
  let (t, span) ← groupOf .invisible (n.type true true)
  let ts ← ahead
  if isSign "::" ts && isAnyWord (behindTwo ts) then
    match t with
    | .path q => return .path (q.extend (← moreSegments n .type))
    | t => return .path ⟨[.mark '<'] ++ t.tokens ++ [.mark '>'], ← path n .type⟩
  else
    match t with
    | .path ⟨front, p⟩ =>
      let getsArguments := generics && isSign "<" ts || isSign "::" ts && isSign "<" (behindTwo ts)
      if getsArguments && p.segments.getLast?.any (·.arguments matches .none) then
        let p := p.withArguments (← genericArguments n)
        return .path (QualifiedPath.extend ⟨front, p⟩ (← moreSegments n .type))
      else return .other [.group .invisible t.tokens span]
    | t => return .other [.group .invisible t.tokens span]

/-! ## Parentheses -/

/-- What stands in parentheses where a type has to be. -/
private inductive Enclosed where
  | tuple (tokens : List Token)
  | object (tokens : List Token)
  | optional (bound : List Token)
  | one (t : TypePhrase)

/-- Reads what stands in parentheses where a type has to be. -/
private def enclosed (n : Nested) : Reader Enclosed := do
  let ts ← ahead
  if ts.isEmpty then return .tuple []
  else if isLifetime ts then return .object (← objectBounds n (← place) true).tokens
  else if isSign "?" ts then return .optional ((← traitTokens n false).getD [])
  else
    let t ← n.type true true
    if ← next (isSign ",") then
      return .tuple (t.tokens ++ (← inOrder [sign ",", separated "," n.typeTokens]))
    else return .one t

/-- The bound that a type in parentheses is, if a plus follows. -/
private def boundOfEnclosed? (span : Span) : TypePhrase → Option Bound
  | .path ⟨[], p⟩ => some (.trait p.tokens (some span))
  | .sum [⟨.trait tokens _, false⟩] => some (.trait tokens (some span))
  | .sum [⟨b, false⟩] => some b
  | _ => none

/-- Reads a type that begins with parentheses. -/
def parenthesizedType (n : Nested) (plus : Bool) : Reader TypePhrase := do
  let (inner, span) ← groupOf .paren (enclosed n)
  let around (tokens : List Token) : List Token := [.group .paren tokens span]
  match inner with
  | .tuple tokens => return .other (around tokens)
  | .object tokens => return .parenthesized (around tokens)
  | .optional tokens => return .sum (← sumFrom n (.trait tokens (some span)) fun _ => true)
  | .one t =>
    match boundOfEnclosed? span t, plus && isSign "+" (← ahead) with
    | some b, true => return .sum (← sumFrom n b fun _ => true)
    | _, _ => return .parenthesized (around t.tokens)

/-! ## Functions -/

/-- Reads which conventions a function is called by. -/
def convention : Reader (List Token) :=
  ifNext (isWord "extern") (inOrder [word "extern", ifNext isText literal])

/-- Whether a name, or the sign for none, stands at the front. -/
def isBinding (ts : List Token) : Bool :=
  isName ts || isWord "_" ts

/-- Reads the points that stand for any further parameters. -/
def variadicTail : Reader (List Token) :=
  inOrder [ifNext isBinding (inOrder [List.singleton <$> anyWord, sign ":"]), sign "...",
    optionalSign ","]

def isVariadicTail (ts : List Token) : Bool :=
  isSign "..." ts
    || isBinding ts && isSign ":" (behindOne ts) && isSign "..." (behindTwo ts)

/-- Reads a parameter in the type of a function. Only the first one may be the receiver. -/
def functionParameter (n : Nested) (isFirst : Bool) : Reader (List Token) := do
  let start ← ahead
  let isMutable := isFirst && isWord "mut" start && isWord "self" (behindOne start)
  if isMutable then let _ ← word "mut"
  let ts ← ahead
  let isReceiver := isFirst && isWord "self" ts
  if (isBinding ts || isReceiver) && isSign ":" (behindOne ts) && !isSign "::" (behindOne ts) then
    let named ← inOrder [List.singleton <$> anyWord, sign ":", n.typeTokens]
    if isMutable then return between start (← ahead) else return named
  else if isMutable then
    let _ ← word "self"
    return between start (← ahead)
  else n.typeTokens

/-- Reads a parameter with the comma behind it; whether another one follows. -/
def listedParameter (n : Nested) (isFirst : Bool) : Reader (List Token × Bool) := do
  if ← atEnd then return ([], false)
  let attrs ← attributes n
  if ← next isVariadicTail then return (attrs ++ (← variadicTail), false)
  let parameter ← functionParameter n isFirst
  if ← atEnd then return (attrs ++ parameter, false)
  return (attrs ++ parameter ++ (← sign ","), true)

/-- Reads the parameters in the type of a function. -/
def functionParameters (n : Nested) : Reader (List Token) := do
  let (first, goesOn) ← listedParameter n true
  if goesOn then return first ++ (← chain (listedParameter n false)).flatten else return first

/-- Reads the type of a function. -/
def functionType (n : Nested) (lifetimes : List Token) : Reader TypePhrase := do
  let front ← inOrder [optionalWord "unsafe", convention, word "fn",
    group .paren (functionParameters n)]
  return .other (lifetimes ++ front ++ resultTokens (← resultType n))

/-! ## Paths -/

/-- Reads the parameters of function traits behind a path, and the segments that go on behind
those; at most `bound` of them. -/
def functionTraits (n : Nested) : Nat → QualifiedPath → Reader QualifiedPath
  | 0, q => pure q
  | bound + 1, q => do
    if q.path.endsBare && (← next (isGroup .paren)) then
      let (arguments, result) ← functionArguments n
      let q := { q with path := q.path.withArguments arguments }
      match result with
      | none | some (.parenthesized _) => functionTraits n bound (q.extend (← moreSegments n .type))
      | some _ => functionTraits n bound q
    else return q

def typePath (n : Nested) : Reader QualifiedPath := do
  let q ← qualifiedPath n .type
  functionTraits n (Token.weightAll (← ahead) + 1) q

/-- Reads a type that begins with a path: the path itself, the call of a macro, or a sum. -/
def pathType (n : Nested) (lifetimes : List Token) (plus : Bool) : Reader TypePhrase := do
  let q ← typePath n
  let ts ← ahead
  if q.isQualified then return .path q
  else if isSign "!" ts && !isSign "!=" ts && q.path.isPlain then
    return .other (q.tokens ++ (← inOrder [sign "!", anyGroup]))
  else
    let first := Bound.trait (lifetimes ++ q.tokens) none
    if plus && isSign "+" ts then return .sum (← sumFrom n first (startsBound false))
    else if lifetimes.isEmpty then return .path q
    else return .sum [⟨first, false⟩]

/-! ## Types made of types -/

/-- Reads an object type. -/
def objectType (n : Nested) (plus : Bool) : Reader TypePhrase := do
  let start ← ahead
  let span ← place
  let keyword ← word "dyn"
  let star ← optionalSign "*"
  let bounds ← objectBounds n span plus
  let rest ← ahead
  return .other (if star.isEmpty then keyword ++ bounds.tokens else between start rest)

/-- Reads an opaque type. One of its bounds at least has to be a trait. -/
def opaqueType (n : Nested) (plus : Bool) : Reader TypePhrase := do
  let span ← place
  let keyword ← word "impl"
  let bounds ← sum n plus true true
  if bounds.any (·.item.isTrait) then return .other (keyword ++ bounds.tokens)
  else
    let last? := bounds.getLast?.bind (·.item.last?)
    failAt (last?.elim span span.join) .noTrait

/-- Reads a slice or an array. -/
def sliceType (n : Nested) : Reader TypePhrase :=
  .other <$> group .bracket
    (inOrder [n.typeTokens, ifNext (isSign ";") (inOrder [sign ";", n.expressionTokens])])

def pointerType (n : Nested) : Reader TypePhrase := do
  let star ← sign "*"
  let ts ← ahead
  if isWord "const" ts || isWord "mut" ts then
    return .other (star ++ [← anyWord] ++ (← n.narrowType))
  else missing [quoted "const", quoted "mut"]

def referenceType (n : Nested) : Reader TypePhrase :=
  .other <$> inOrder [sign "&", optionalLifetime, optionalWord "mut", n.narrowType]

/-! ## Types -/

/-- What a type can begin with. -/
def typeStarts : List String :=
  ["`for`", "parentheses", "`fn`", "`unsafe`", "`extern`", "identifier", "`::`", "`<`", "`dyn`",
    "square brackets", "`*`", "`&`", "`!`", "`impl`", "`_`", "lifetime"]

/-- What a type that is general in some lifetimes can go on with. -/
def generalTypeStarts : List String :=
  ["identifier", "`fn`", "`unsafe`", "`extern`", "`super`", "`self`", "`Self`", "`crate`"]

def isFunctionStart (ts : List Token) : Bool :=
  isOneOf ["fn", "unsafe", "extern"] ts

/-- Reads a type. `plus` tells whether it may be a sum, `generics` whether what was forwarded may
get generic arguments. -/
def type (n : Nested) (plus generics : Bool) : Reader TypePhrase := do
  let ts ← ahead
  if isForwarded ts then forwardedType n generics
  else if isWord "for" ts then
    let lifetimes ← binder n
    let ts ← ahead
    if isFunctionStart ts then functionType n lifetimes
    else if isPlainName ts then pathType n lifetimes plus
    else missing generalTypeStarts
  else if isGroup .paren ts then parenthesizedType n plus
  else if isFunctionStart ts then functionType n []
  else if isPlainName ts || isAnySign ["::", "<"] ts then pathType n [] plus
  else if isWord "dyn" ts then objectType n plus
  else if isGroup .bracket ts then sliceType n
  else if isSign "*" ts then pointerType n
  else if isSign "&" ts then referenceType n
  else if isSign "!" ts then .other <$> sign "!"
  else if isWord "impl" ts then opaqueType n plus
  else if isWord "_" ts then .other <$> word "_"
  else if isLifetime ts then .sum <$> objectBounds n (← place) true
  else missing typeStarts

end Variadic.Grammar
