import Variadic.Toml.Quoted
import Variadic.Toml.Value

/-!
# Numbers, dates and times
-/

namespace Variadic.Toml

open Text Reader

/-- A sign, if there is one; whether it is a minus. -/
def sign : Reader Bool :=
  (do exactly "-"; pure true) <|> (do exactly "+"; pure false) <|> pure false

/-- Digits, between which underscores may stand one by one. -/
def digitsBehind (isDigit : Char → Bool) : Reader (List Char) :=
  many ((do exactly "_"; char isDigit) <|> char isDigit)

def digitRun (isDigit : Char → Bool) : Reader (List Char) := do
  let first ← char isDigit
  let others ← digitsBehind isDigit
  pure (first :: others)

/-- The value of digits in a base up to sixteen. -/
def valueOf (base : Nat) (digits : List Char) : Nat :=
  digits.foldl (fun v c => base * v + (hexDigit? c).getD 0) 0

/-- The digits of a decimal integer, which has no leading zeros, and whether it is negative. -/
def decimalInteger : Reader (Bool × List Char) := do
  let negative ← sign
  match ← char Char.isDigit with
  | '0' => pure (negative, ['0'])
  | first =>
    let others ← digitsBehind Char.isDigit
    pure (negative, first :: others)

/-- Integers have 64 bits, one of them for the sign. -/
def isInRange (n : Int) : Bool := -Nat.pow 2 63 ≤ n && n < Nat.pow 2 63

def unsignedInBase (mark : String) (base : Nat) : Reader Int := do
  exactly mark
  let digits ← digitRun fun c => (hexDigit? c).any (· < base)
  pure (valueOf base digits)

def signedDecimal : Reader Int := do
  let (negative, digits) ← decimalInteger
  let n : Int := valueOf 10 digits
  pure (if negative then -n else n)

def integer : Reader Int := do
  let n ← unsignedInBase "0x" 16 <|> unsignedInBase "0o" 8 <|> unsignedInBase "0b" 2
    <|> signedDecimal
  if isInRange n then pure n else failure

def exponent : Reader Int := do
  let _ ← char fun c => c = 'e' || c = 'E'
  let negative ← sign
  let digits ← digitRun Char.isDigit
  let n : Int := valueOf 10 digits
  pure (if negative then -n else n)

/-- A decimal with a fraction, an exponent, or both. One too large is no float, unless it is
negative. -/
def decimalFloat : Reader Binary64 := do
  let (negative, whole) ← decimalInteger
  let fraction ← optional do exactly "."; digitRun Char.isDigit
  let power ← match fraction with
    | some _ => optional exponent
    | none => some <$> exponent
  let places := fraction.getD []
  let x := Binary64.ofDecimal negative (valueOf 10 (whole ++ places))
    (power.getD 0 - places.length)
  if x = .infinite false then failure else pure x

def specialFloat : Reader Binary64 := do
  let negative ← sign
  (do exactly "inf"; pure (.infinite negative)) <|> (do exactly "nan"; pure .nan)

def float : Reader Binary64 :=
  decimalFloat <|> specialFloat

/-! ## Dates and times -/

/-- A number of exactly `width` digits. -/
def fixedWidth : Nat → Reader Nat
  | 0 => pure 0
  | width + 1 => do
    let n ← fixedWidth width
    let d ← char Char.isDigit
    pure (10 * n + valueOf 10 [d])

def date : Reader Date := do
  let year ← fixedWidth 4
  exactly "-"
  let month ← fixedWidth 2
  exactly "-"
  let day ← fixedWidth 2
  let d : Date := ⟨year, month, day⟩
  if d.isValid then pure d else failure

/-- A fraction of a second in nanoseconds, digits beyond the ninth being dropped. -/
def nanoseconds : Reader Nat := do
  exactly "."
  let digits ← many1 (char Char.isDigit)
  pure (valueOf 10 ((digits ++ List.replicate 9 '0').take 9))

def time : Reader Time := do
  let hour ← fixedWidth 2
  exactly ":"
  let minute ← fixedWidth 2
  exactly ":"
  let second ← fixedWidth 2
  let fraction ← optional nanoseconds
  let t : Time := ⟨hour, minute, second, fraction.getD 0⟩
  if t.isValid then pure t else failure

def numericOffset : Reader Offset := do
  let ahead ← (do exactly "+"; pure true) <|> (do exactly "-"; pure false)
  let hour ← fixedWidth 2
  exactly ":"
  let minute ← fixedWidth 2
  let n : Int := 60 * hour + minute
  if hour ≤ 23 && minute ≤ 59 then pure (.minutes (if ahead then n else -n)) else failure

def offset : Reader Offset :=
  (do let _ ← char fun c => c = 'Z' || c = 'z'; pure .universal) <|> numericOffset

/-- The time behind a date, set off by a letter or a space. -/
def timeOfDay : Reader (Time × Option Offset) := do
  let _ ← char fun c => c = 'T' || c = 't' || c = ' '
  let t ← time
  let o ← optional offset
  pure (t, o)

def datetime : Reader Datetime :=
  (do
    let d ← date
    match ← optional timeOfDay with
    | some (t, o) => pure (.moment d t o)
    | none => pure (.date d))
  <|> (.time <$> time)

end Variadic.Toml
