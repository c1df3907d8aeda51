import Variadic.Grammar.Pattern
import Variadic.Grammar.Type

/-!
# Binary operators

The operators are read by their strength. An operand that was forwarded is put in parentheses where
an operator would take only a part of it.
-/

namespace Variadic.Grammar

open Lookahead Reader

/-! ## Ranges -/

/-- Whether a range has no end here. -/
def endsOpenRange (braces : Bool) (ts : List Token) : Bool :=
  ts.isEmpty || isSign "." ts && !isSign ".." ts || !braces && isGroup .brace ts || isWord "as" ts
    || isAnySign [",", ";", "?", "=>", "=", "+", "/", "%", "^", ">", "<=", "!=", "-=", "*=", "&=",
      "|=", "<<="] ts

/-! ## Binary operators -/

/-- The binary operators, each behind those that it begins. -/
def binaryOperators : List (String × Strength) :=
  [("+=", .assignment), ("-=", .assignment), ("*=", .assignment), ("/=", .assignment),
    ("%=", .assignment), ("^=", .assignment), ("&=", .assignment), ("|=", .assignment),
    ("<<=", .assignment), (">>=", .assignment), ("&&", .conjunction), ("||", .disjunction),
    ("<<", .shift), (">>", .shift), ("==", .comparison), ("<=", .comparison), ("!=", .comparison),
    (">=", .comparison), ("+", .sum), ("-", .sum), ("*", .product), ("/", .product),
    ("%", .product), ("^", .bitXor), ("&", .bitAnd), ("|", .bitOr), ("<", .comparison),
    (">", .comparison)]

def binaryOperator? (ts : List Token) : Option (String × Strength) :=
  binaryOperators.find? fun (s, _) => isSign s ts

/-- How tightly the operator at the front holds; what is none holds least. -/
def operatorStrength (ts : List Token) : Strength :=
  match binaryOperator? ts with
  | some (_, strength) => strength
  | none =>
    if isSign "=" ts && !isSign "=>" ts then .assignment
    else if isSign ".." ts then .range
    else if isWord "as" ts then .cast
    else .jump

/-- Reads the operators that belong to a right operand; at most `bound` times. -/
def rightOperandWithin (n : Nested) (braces : Bool) (strength : Strength) :
    Nat → Expression → Reader Expression
  | 0, e => pure e
  | bound + 1, e => do
    let ts ← ahead
    let next := operatorStrength ts
    if next.rank > strength.rank || next = strength && strength = .assignment then
      let e ← n.operators e braces next
      if Token.weightAll (← ahead) < Token.weightAll ts then
        rightOperandWithin n braces strength bound e
      else return e
    else return e

/-- Reads the right operand of an operator. -/
def rightOperand (n : Nested) (braces : Bool) (strength : Strength) : Reader Expression := do
  let e ← n.unary braces
  rightOperandWithin n braces strength (Token.weightAll (← ahead) + 1) e

/-- Reads the end of a range; no tokens if there is none. -/
def rangeEnd (n : Nested) (braces isClosed : Bool) : Reader (List Token) := do
  if !isClosed && (← next (endsOpenRange braces)) then return []
  else return (← rightOperand n braces .range).operand (·.rank ≤ Strength.range.rank)

/-- Reads a range without a start. -/
def prefixRange (n : Nested) (braces : Bool) : Reader Expression := do
  let (points, isClosed) ← rangeSign false
  return ⟨points ++ (← rangeEnd n braces isClosed), .range, .range⟩

/-- Refuses what may not stand directly behind a cast. -/
def checkBehindCast : Reader Unit := do
  let ts ← ahead
  let rest := behindOne ts
  if isSign "." ts && !isSign ".." ts then
    if isWord "await" rest then fail (.behindCast "`.await`")
    else if isName rest && (isGroup .paren (behindTwo ts) || isSign "::" (behindTwo ts)) then
      fail (.behindCast "a method call")
    else fail (.behindCast "a field access")
  else if isSign "?" ts then fail (.behindCast "`?`")
  else if isGroup .bracket ts then fail (.behindCast "indexing")
  else if isGroup .paren ts then fail (.behindCast "a function call")

/-- Reads a binary operator and its right operand, if it holds no less tightly than `least`. -/
def operatorStep? (n : Nested) (e : Expression) (braces : Bool) (least : Strength) :
    Reader (Option Expression) := do
  let ts ← ahead
  if e.isRange then return none
  match binaryOperator? ts with
  | some (s, strength) =>
    if strength.rank < least.rank then return none
    else if strength = .comparison && e.form matches .comparison then fail .chainedComparison
    else
      let operator ← sign s
      let right ← rightOperand n braces strength
      let left := e.operand fun inner =>
        match strength with
        | .assignment => inner.rank ≤ Strength.range.rank
        | .comparison => inner.rank ≤ strength.rank
        | _ => inner.rank < strength.rank
      let right := right.operand fun inner => strength ≠ .assignment && inner.rank ≤ strength.rank
      return some ⟨left ++ operator ++ right, strength,
        if strength = .comparison then .comparison else .other⟩
  | none =>
    if least.rank ≤ Strength.assignment.rank && isSign "=" ts && !isSign "=>" ts then
      let left := e.operand (·.rank ≤ Strength.range.rank)
      let right ← inOrder [sign "=", Expression.tokens <$> rightOperand n braces .assignment]
      return some ⟨left ++ right, .assignment, .other⟩
    else if least.rank ≤ Strength.range.rank && isSign ".." ts then
      let (points, isClosed) ← rangeSign false
      let left := e.operand (·.rank ≤ Strength.range.rank)
      return some ⟨left ++ points ++ (← rangeEnd n braces isClosed), .range, .range⟩
    else if least.rank ≤ Strength.cast.rank && isWord "as" ts then
      let keyword ← word "as"
      let t ← n.type false false
      checkBehindCast
      return some ⟨e.operand (·.rank < Strength.cast.rank) ++ keyword ++ t.tokens, .cast, .other⟩
    else return none

/-- Reads binary operators as long as there are any; at most `bound` of them. -/
def operatorsWithin (n : Nested) (braces : Bool) (least : Strength) :
    Nat → Expression → Reader Expression
  | 0, e => pure e
  | bound + 1, e => do
    match ← operatorStep? n e braces least with
    | some e => operatorsWithin n braces least bound e
    | none => return e

/-- Reads the binary operators behind an expression that hold no less tightly than `least`. -/
def operators (n : Nested) (e : Expression) (braces : Bool) (least : Strength) :
    Reader Expression := do
  operatorsWithin n braces least (Token.weightAll (← ahead) + 1) e

end Variadic.Grammar
