import Variadic.Argument

/-!
# Fixed parameters

Parameters that every invocation of the template is given in front of its argument. They are listed
one by one, or found by the shape of a single argument: a parenthesized list is always the tuple of
the parameters, and anything else is one parameter. So `(x)` is the same as `x`, `((a, b))` passes
the tuple `(a, b)` as one parameter, and `()` passes none.
-/

namespace Variadic

inductive Shape where
  | positional
  | scalar
  | tuple
deriving DecidableEq, Repr

def Shape.name : Shape → String
  | positional => "Positional"
  | scalar => "Scalar"
  | tuple => "Tuple"

structure FixedParameters where
  shape : Shape
  params : List Argument
deriving Repr

namespace FixedParameters

def positional (params : List Argument) : FixedParameters :=
  ⟨.positional, params⟩

/-- Whether a stream ends with a comma. -/
def endsWithComma (ts : List Token) : Bool :=
  ts.getLast?.any Token.isComma

/-- The parameter whose parentheses change nothing: the only one, without a comma behind it and not
itself in parentheses. -/
def redundant? (content : List Token) : List Argument → Option Argument
  | [p] => if !endsWithComma content && p.parenthesized?.isNone then some p else none
  | _ => none

/-- The parameters that an argument's shape tells, and a warning about parentheses without effect.
-/
def detect (a : Argument) : Except Issue (FixedParameters × Option Issue) :=
  match a.parenthesized? with
  | none => .ok (⟨.scalar, [a]⟩, none)
  | some (content, s) =>
    match Argument.split content with
    | .error e => .error (Note.causedBy ⟨.error, .invalidTuple, some a.span⟩ e)
    | .ok params =>
      let warning := (redundant? content params).map fun p =>
        Note.alone ⟨.warning, .redundantParentheses p.tokens, some s⟩
      .ok (⟨.tuple, params⟩, warning)

end FixedParameters

end Variadic
