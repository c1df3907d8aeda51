import Variadic.Grammar.Attribute

/-!
# Paths and their generic arguments

A path is a sequence of names with separators between them, perhaps one in front, and perhaps
generic arguments behind a name. An argument is a lifetime, a constant, a type, or a name that is
bound to one of the latter two or bounded. Lifetimes are written in front of the other arguments.
-/

namespace Variadic.Grammar

open Lookahead Reader

/-- Reads a constant that stands where a type could. -/
def constant (n : Nested) : Reader (List Token) := do
  let ts ← ahead
  if isLiteral ts then literal
  else if isName ts then name
  else if isGroup .brace ts then attributedBlock n
  else missing []

/-! ## Generic arguments -/

/-- A generic argument, written out. -/
structure GenericArgument where
  isLifetime : Bool
  tokens : List Token
deriving Repr

/-- Writes generic arguments, lifetimes first. If the last lifetime had no comma of its own, one is
put between it and what follows. -/
def arrange (args : List (Listed GenericArgument)) : List Token :=
  let lifetimes := args.filter (·.item.isLifetime)
  let others := args.filter (!·.item.isLifetime)
  let needsComma := lifetimes.getLast?.any (!·.isFollowed) && !others.isEmpty
  let gap := if needsComma then [.mark ','] else []
  Listed.tokensOf "," GenericArgument.tokens lifetimes ++ gap
    ++ Listed.tokensOf "," GenericArgument.tokens others

/-- Reads the bounds of an associated type, up to the end of the generic argument. -/
def argumentBounds (n : Nested) : Reader (List Token) :=
  Bounds.tokens <$> listed "+" (isAnySign [",", ">"]) (n.bound false true)

/-- Reads what follows a type in a generic argument. Only a single name can be bound or bounded. -/
def argumentRest (n : Nested) (t : TypePhrase) : Reader (List Token) := do
  match t with
  | .path ⟨[], ⟨false, [⟨_, .none⟩]⟩⟩ | .path ⟨[], ⟨false, [⟨_, .generic _ _⟩]⟩⟩ =>
    let ts ← ahead
    if isSign "=" ts then
      let equals ← sign "="
      let ts ← ahead
      if isLiteral ts || isGroup .brace ts then return equals ++ (← constant n)
      else return equals ++ (← n.typeTokens)
    else if isSign ":" ts then inOrder [sign ":", argumentBounds n]
    else return []
  | _ => return []

def genericArgument (n : Nested) : Reader GenericArgument := do
  let ts ← ahead
  if isLifetime ts && !isSign "+" (behindOne ts) then return ⟨true, ← lifetime⟩
  else if isLiteral ts || isGroup .brace ts then return ⟨false, ← constant n⟩
  else
    let t ← n.type true true
    return ⟨false, t.tokens ++ (← argumentRest n t)⟩

/-- Reads generic arguments with the signs around them. -/
def genericArguments (n : Nested) : Reader SegmentArguments := do
  let opening ← inOrder [optionalSign "::", sign "<"]
  let args ← listed "," (isSign ">") (genericArgument n)
  let closing ← sign ">"
  return .generic (opening ++ arrange args ++ closing) args.isEmpty

/-! ## Segments -/

/-- Names that are segments of their own and take no generic arguments. -/
def bareNames : List String := ["super", "self", "crate", "try"]

/-- Where a path stands. -/
inductive PathStyle where
  /-- Where a type could: a `<` behind a name opens generic arguments. -/
  | type
  /-- Where an expression could: it does so only behind a separator. -/
  | expression
deriving DecidableEq, Repr

def opensGenerics (style : PathStyle) (ts : List Token) : Bool :=
  style = .type && isSign "<" ts && !isAnySign ["<=", "<<="] ts
    || isSign "::" ts && isSign "<" (behindTwo ts)

def segment (n : Nested) (style : PathStyle) : Reader Segment := do
  let ts ← ahead
  if isOneOf bareNames ts then return ⟨← anyWord, .none⟩
  let name ← if isWord "Self" ts then anyWord else identifier
  if ← next (opensGenerics style) then return ⟨name, ← genericArguments n⟩
  else return ⟨name, .none⟩

/-- Reads the segments behind the first one. A path stops in front of a separator with parentheses
behind it. -/
def moreSegments (n : Nested) (style : PathStyle) : Reader (List Segment) :=
  many do
    let ts ← ahead
    if isSign "::" ts && !isGroup .paren (behindTwo ts) then
      let _ ← sign "::"
      return some (← segment n style)
    else return none

/-! ## Paths -/

def path (n : Nested) (style : PathStyle) : Reader Path := do
  let root ← optionalSign "::"
  let first ← segment n style
  return ⟨!root.isEmpty, first :: (← moreSegments n style)⟩

/-- Reads a path that may go out from a type. -/
def qualifiedPath (n : Nested) (style : PathStyle) : Reader QualifiedPath := do
  if ← next (isSign "<") then
    let front ← inOrder [sign "<", n.typeTokens,
      ifNext (isWord "as") (inOrder [word "as", Path.tokens <$> path n .type]), sign ">"]
    let _ ← sign "::"
    let segments ← chain do
      let s ← segment n style
      let separator ← optionalSign "::"
      return (s, !separator.isEmpty)
    return ⟨front, ⟨true, segments⟩⟩
  else return ⟨[], ← path n style⟩

end Variadic.Grammar
