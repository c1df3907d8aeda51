import Variadic.Lexeme.Word

/-!
# Numbers in a text

A number is a float if it has a fraction or an exponent, else an integer. Either takes any
identifier behind it as its suffix.
-/

namespace Variadic.Lexeme

open Text

def isDigitOrGap (c : Char) : Bool := c.isDigit || c = '_'

/-- The length of an exponent behind its letter: at least one digit, in front of which there may be
one sign, and underscores anywhere. -/
def exponent? (cs : List Char) : Option Nat :=
  let gap := countWhile (· = '_') cs
  let sign := match cs.drop gap with
    | '+' :: _ | '-' :: _ => 1
    | _ => 0
  let lead := gap + sign + countWhile (· = '_') (cs.drop (gap + sign))
  match cs.drop lead with
  | d :: _ => if d.isDigit then some (lead + countWhile isDigitOrGap (cs.drop lead)) else none
  | [] => none

/-- The length of the float that a text begins with, without a suffix. A point that another point or
an identifier follows belongs to no number. -/
def unsuffixedFloat? (cs : List Char) : Option Nat :=
  if !(cs.head?.any Char.isDigit) then none else
  let whole := countWhile isDigitOrGap cs
  match cs.drop whole with
  | '.' :: behind =>
    if behind.head?.any fun c => c = '.' || isIdentStart c then none else
    let n := whole + 1 + countWhile isDigitOrGap behind
    match cs.drop n with
    | 'e' :: power | 'E' :: power => some (((exponent? power).map (n + 1 + ·)).getD n)
    | _ => some n
  | 'e' :: power | 'E' :: power => (exponent? power).map (whole + 1 + ·)
  | _ => none

/-- The length of a sequence of digits in a base up to sixteen. `seen` tells whether a digit came
before. A decimal digit beyond the base is a mistake, and a letter beyond it ends the sequence; the
sequence has a digit, and a decimal one does not begin with an underscore. -/
def digits? (base : Nat) (seen : Bool) : List Char → Option Nat
  | [] => if seen then some 0 else none
  | c :: cs =>
    if c = '_' then
      if !seen && base = 10 then none else (digits? base seen cs).map (· + 1)
    else
      match hexDigit? c with
      | none => if seen then some 0 else none
      | some d =>
        if d < base then (digits? base true cs).map (· + 1)
        else if c.isDigit then none
        else if seen then some 0 else none

/-- The length of the integer that a text begins with, without a suffix. -/
def unsuffixedInt? (cs : List Char) : Option Nat :=
  if begins "0x" cs then (digits? 16 false (cs.drop 2)).map (2 + ·)
  else if begins "0o" cs then (digits? 8 false (cs.drop 2)).map (2 + ·)
  else if begins "0b" cs then (digits? 2 false (cs.drop 2)).map (2 + ·)
  else digits? 10 false cs

/-- The length of a number with its suffix, given that without one. -/
def withSuffix? (cs : List Char) (n : Nat) : Option Nat :=
  let m := n + suffixLength (cs.drop n)
  if endsWord (cs.drop m) then some m else none

/-- The length of the number that a text begins with. -/
def number? (cs : List Char) : Option Nat :=
  ((unsuffixedFloat? cs).bind (withSuffix? cs)).or ((unsuffixedInt? cs).bind (withSuffix? cs))

end Variadic.Lexeme
