/-!
# Binary floating-point numbers of 64 bits

A finite number is `mantissa * 2 ^ exponent` with a mantissa of at most 53 bits. Decimals are
rounded to the nearest such number in exact arithmetic, halves to the even neighbour.
-/

namespace Variadic

inductive Binary64 where
  | finite (negative : Bool) (mantissa : Nat) (exponent : Int)
  | infinite (negative : Bool)
  | nan
deriving DecidableEq, Repr

namespace Binary64

/-- Bits of a full mantissa. -/
def precision : Nat := 53

/-- The least exponent, that of the subnormal numbers. -/
def minExponent : Int := -1074

def maxExponent : Int := 971

/-- Past this many digits in front of the point every number is infinite, and with this many zeros
behind it every number is zero. -/
def decimalRange : Int := 400

def zero (negative : Bool) : Binary64 := finite negative 0 minExponent

/-- The quotient rounded to the nearest integer, a half to the even one. -/
def roundDiv (num den : Nat) : Nat :=
  let q := num / den
  let r := num % den
  if 2 * r < den then q else if den < 2 * r then q + 1 else q + q % 2

/-- The power `b ^ e` as a fraction. -/
def power (b : Nat) (e : Int) : Nat × Nat :=
  (b.pow e.toNat, b.pow (-e).toNat)

/-- `num / den` in units of `2 ^ e`, as a fraction. -/
def scaled (num den : Nat) (e : Int) : Nat × Nat :=
  let (up, down) := power 2 e
  (num * down, den * up)

/-- The number nearest to the positive fraction `num / den`. -/
def ofRatio (negative : Bool) (num den : Nat) : Binary64 :=
  let size : Int := (num.log2 : Int) - den.log2 - precision
  let (n, d) := scaled num den (max size minExponent)
  -- The estimate of the size may be one too small.
  let e := max (if n / d < Nat.pow 2 precision then size else size + 1) minExponent
  let (n, d) := scaled num den e
  let m := roundDiv n d
  let (m, e) := if m = Nat.pow 2 precision then (Nat.pow 2 (precision - 1), e + 1) else (m, e)
  if maxExponent < e then infinite negative else finite negative m e

/-- The number nearest to `digits * 10 ^ exponent`. -/
def ofDecimal (negative : Bool) (digits : Nat) (exponent : Int) : Binary64 :=
  let places : Int := (Nat.toDigits 10 digits).length
  if digits = 0 || places + exponent < -decimalRange then zero negative
  else if decimalRange < places + exponent then infinite negative
  else
    let (up, down) := power 10 exponent
    ofRatio negative (digits * up) down

end Binary64

end Variadic
