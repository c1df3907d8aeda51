import Variadic.Binary64.Basic
import Variadic.Decimal

/-!
# The shortest decimal of a floating-point number

Of all decimals that round to the number, one with the fewest digits, and of these the nearest. It
is found on the coarsest grid of multiples of a power of ten that has a point in the interval of
values rounding to the number: if any multiple lies there, one of the number's two neighbours on the
grid does.
-/

namespace Variadic

namespace Binary64

/-- The decimal nearest to `m * 2 ^ exponent` among the multiples of `10 ^ k` that round to
it. Lengths are measured in quarters of the last binary place, the distance to the neighbour below
being halved at a power of two. -/
def onGrid? (m : Nat) (exponent k : Int) : Option Decimal :=
  let (tens, tenths) := power 10 k
  let (twos, halves) := power 2 (exponent - 2)
  let unit := tens * halves
  let scale := tenths * twos
  let value := 4 * m * scale
  let high := (4 * m + 2) * scale
  let low :=
    (4 * m - if m = Nat.pow 2 (precision - 1) && minExponent < exponent then 1 else 2) * scale
  let rounds (n : Nat) : Bool :=
    if m % 2 = 0 then low ≤ n * unit && n * unit ≤ high else low < n * unit && n * unit < high
  let below := value / unit
  let above := below + 1
  -- At equal distances the larger one is taken.
  let preferred := if value - below * unit < above * unit - value then below else above
  let other := if preferred = below then above else below
  if rounds preferred then some ⟨preferred, k⟩
  else if rounds other then some ⟨other, k⟩
  else none

/-- The exponents of ten in question, coarsest first. -/
def grids : List Int :=
  (List.range 640).map fun (i : Nat) => 310 - (i : Int)

/-- The shortest decimal of a positive number. -/
def shortest (mantissa : Nat) (exponent : Int) : Decimal :=
  (grids.findSome? (onGrid? mantissa exponent)).getD ⟨0, 0⟩

end Binary64

end Variadic
