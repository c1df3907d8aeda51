import Variadic.Grammar.Reader
import Variadic.Path.Basic

/-!
# Phrases

What readers give for types, bounds, expressions and patterns. A phrase is kept as its tokens, with
no more of its structure than what decides how to go on behind it.
-/

namespace Variadic.Grammar

/-! ## Bounds -/

/-- One bound of a type. `last` is the place of its last name or sign. -/
inductive Bound where
  | lifetime (tokens : List Token) (last : Span)
  /-- The names that an opaque type may capture. -/
  | capture (tokens : List Token) (last : Span)
  /-- A trait; `parentheses` is the span of those around it. -/
  | trait (tokens : List Token) (parentheses : Option Span)
  | verbatim (tokens : List Token)
deriving Repr

namespace Bound

def tokens : Bound → List Token
  | lifetime ts _ | capture ts _ | verbatim ts | trait ts none => ts
  | trait ts (some span) => [.group .paren ts span]

/-- Whether the bound names a trait. -/
def isTrait : Bound → Bool
  | lifetime .. | capture .. => false
  | trait .. | verbatim _ => true

/-- Where a bound that is no trait ends. -/
def last? : Bound → Option Span
  | lifetime _ s | capture _ s => some s
  | trait .. | verbatim _ => none

end Bound

/-- A sum of bounds. -/
abbrev Bounds := List (Reader.Listed Bound)

def Bounds.tokens (bounds : Bounds) : List Token :=
  Reader.Listed.tokensOf "+" Bound.tokens bounds

/-! ## Types -/

inductive TypePhrase where
  | path (q : QualifiedPath)
  /-- Bounds without a keyword in front. -/
  | sum (bounds : Bounds)
  | parenthesized (tokens : List Token)
  | other (tokens : List Token)
deriving Repr

def TypePhrase.tokens : TypePhrase → List Token
  | path q => q.tokens
  | sum bounds => bounds.tokens
  | parenthesized ts | other ts => ts

/-! ## Expressions -/

/-- How tightly an expression is held together, the loosest first. -/
inductive Strength where
  | jump
  | assignment
  | range
  | disjunction
  | conjunction
  | condition
  | comparison
  | bitOr
  | bitXor
  | bitAnd
  | shift
  | sum
  | product
  | cast
  | unary
  | tight
deriving DecidableEq, Repr

/-- The position among the strengths. -/
def Strength.rank (s : Strength) : Nat :=
  s.ctorIdx

/-- What an expression is, as far as it matters to what may follow. -/
inductive ExpressionForm where
  | path (q : QualifiedPath)
  | comparison
  | range
  /-- A block, or a phrase that ends in one; it needs no separator behind it. -/
  | block
  /-- A call of a macro; `braced` tells whether it ends in braces. -/
  | call (braced : Bool)
  /-- A whole expression that was forwarded. -/
  | forwarded (form : ExpressionForm)
  /-- Tokens that are left as they stand. -/
  | verbatim
  | other
deriving Repr

structure Expression where
  tokens : List Token
  strength : Strength := .tight
  form : ExpressionForm := .other
deriving Repr

namespace Expression

def ofPath (q : QualifiedPath) : Expression :=
  ⟨q.tokens, .tight, .path q⟩

def isRange (e : Expression) : Bool :=
  e.form matches .range

def isBlock (e : Expression) : Bool :=
  e.form matches .block

def isForwarded (e : Expression) : Bool :=
  e.form matches .forwarded _

/-- Whether the expression is a block, forwarded or not. -/
def isBlockWithin (e : Expression) : Bool :=
  go e.form
where
  go : ExpressionForm → Bool
    | .block => true
    | .forwarded form => go form
    | _ => false

/-- The expression as an operand. One that was forwarded is put in parentheses where it would fall
apart; in all others they stand already. -/
def operand (e : Expression) (falls : Strength → Bool) : List Token :=
  if e.isForwarded && falls e.strength then [.group .paren e.tokens .callSite] else e.tokens

/-- The expression as an operand of an operator that holds more tightly than all others. -/
def tightOperand (e : Expression) : List Token :=
  e.operand (· ≠ .tight)

/-- Puts attributes in front. -/
def attributed (e : Expression) (attributes : List Token) : Expression :=
  if attributes.isEmpty then e
  else
    { tokens := attributes ++ e.tokens
      strength := if e.strength = .tight then .unary else e.strength
      form := match e.form with
        | .path _ => .other
        | form => form }

/-- Whether the expression ends in a closing brace. -/
def endsInBrace (e : Expression) : Bool :=
  (Token.seeThroughAll e.tokens).getLast? matches some (.group .brace _ _)

end Expression

/-! ## Patterns -/

inductive PatternForm where
  /-- Two points, which stand for all that is left. -/
  | rest
  /-- A range without one of its ends. `sign` is the place of its points. -/
  | openRange (sign : Span)
  | other
deriving Repr

structure Pattern where
  tokens : List Token
  form : PatternForm := .other
deriving Repr

/-! ## Phrases in phrases -/

/-- The readers of what can stand inside of a phrase. They are one level shallower than the readers
that call for them. -/
structure Nested where
  /-- Reads a type. `plus` tells whether it may be a sum, `generics` whether what was forwarded may
  get generic arguments. -/
  type (plus generics : Bool) : Reader TypePhrase
  /-- Reads a bound; whether it may be a capture, or be constant. -/
  bound (capture constant : Bool) : Reader Bound
  /-- Reads an expression. `braces` tells whether braces behind a path are its fields. -/
  expression (braces : Bool) : Reader Expression
  /-- Reads an expression without a binary operator. -/
  unary (braces : Bool) : Reader Expression
  /-- Reads the binary operators behind an expression that hold no less tightly than `least`. -/
  operators (e : Expression) (braces : Bool) (least : Strength) : Reader Expression
  /-- Reads an expression that ends where a statement does. -/
  early : Reader Expression
  /-- Reads a pattern without alternatives. -/
  pattern : Reader Pattern
  /-- Reads the statements of a block. -/
  statements : Reader (List Token)

namespace Nested

/-- The written form of a type, in its widest sense. -/
def typeTokens (n : Nested) : Reader (List Token) :=
  TypePhrase.tokens <$> n.type true true

/-- The written form of a type that is no sum. -/
def narrowType (n : Nested) : Reader (List Token) :=
  TypePhrase.tokens <$> n.type false true

/-- The written form of an expression. -/
def expressionTokens (n : Nested) : Reader (List Token) :=
  Expression.tokens <$> n.expression true

/-- The written form of an expression that stands in front of a block. -/
def head (n : Nested) : Reader (List Token) :=
  Expression.tokens <$> n.expression false

/-- The written form of a pattern. -/
def patternTokens (n : Nested) : Reader (List Token) :=
  Pattern.tokens <$> n.pattern

def block (n : Nested) : Reader (List Token) :=
  Reader.group .brace n.statements

end Nested

end Variadic.Grammar
