/-!
# Ceilings on the number of arguments

Two independent ceilings: one for counting, the emptiness tests and the indexed iterations, the
other for plain iteration.
-/

namespace Variadic

inductive Ceiling where
  | count
  | each
deriving DecidableEq, Repr

/-- The highest number of arguments that either ceiling lets through. -/
structure Limits where
  count : Nat := 64
  each : Nat := 256
deriving DecidableEq, Repr

/-- The key under which a configuration sets the ceiling. -/
def Ceiling.key : Ceiling → String
  | count => "count-limit"
  | each => "each-limit"

def Limits.get (l : Limits) : Ceiling → Nat
  | .count => l.count
  | .each => l.each

end Variadic
