import Variadic.Toml.Value
import Variadic.Toml.Quoted

/-!
# The text of a configuration value

Values are written on one line, as far as their strings allow. A string takes the first style in
which it needs no escape: basic, literal, basic on several lines, literal on several lines.
-/

namespace Variadic.Toml

/-! ## Strings -/

/-- The length of the longest run of a character. -/
def longestRun (c : Char) (text : List Char) : Nat :=
  go 0 0 text
where
  go (longest current : Nat) : List Char → Nat
    | [] => max longest current
    | d :: ds => if d = c then go longest (current + 1) ds else go (max longest current) 0 ds

/-- Whether a character has to be escaped in every style. -/
def isControl (c : Char) : Bool :=
  (c.toNat < 0x20 || c.toNat = 0x7F) && c ≠ '\t' && c ≠ '\n'

private def escapeCode (c : Char) : List Char :=
  let digits := (Nat.toDigits 16 c.toNat).map Char.toUpper
  ['\\', 'u'] ++ List.replicate (4 - digits.length) '0' ++ digits

/-- Writes the inside of a basic string. In a string of several lines, line feeds stay and up to two
quotes may stand together; `quotes` counts those in front. -/
def escapeBasic (multiline : Bool) (quotes : Nat) : List Char → List Char
  | [] => []
  | c :: cs =>
    let go := escapeBasic multiline 0 cs
    match c with
    | '"' =>
      if quotes < (if multiline then 2 else 0) then '"' :: escapeBasic multiline (quotes + 1) cs
      else '\\' :: '"' :: go
    | '\x08' => '\\' :: 'b' :: go
    | '\t' => '\\' :: 't' :: go
    | '\n' => if multiline then '\n' :: go else '\\' :: 'n' :: go
    | '\x0c' => '\\' :: 'f' :: go
    | '\r' => '\\' :: 'r' :: go
    | '\\' => '\\' :: '\\' :: go
    | c => if isControl c then escapeCode c ++ go else c :: go

def basicText (text : List Char) : List Char :=
  '"' :: escapeBasic false 0 text ++ ['"']

private def delimited (delimiter : String) (text body : List Char) : List Char :=
  let gap := if '\n' ∈ text then ['\n'] else []
  delimiter.toList ++ gap ++ body ++ delimiter.toList

def stringText (text : List Char) : List Char :=
  let control := text.any isControl
  let backslash := '\\' ∈ text
  let newline := '\n' ∈ text
  let doubles := longestRun '"' text
  let singles := longestRun '\'' text
  if !control && !backslash && doubles = 0 && !newline then basicText text
  else if !control && singles = 0 && !newline then '\'' :: text ++ ['\'']
  else if !control && !backslash && doubles ≤ 2 then
    delimited "\"\"\"" text (escapeBasic true 0 text)
  else if !control && singles ≤ 2 then delimited "'''" text text
  else if newline then delimited "\"\"\"" text (escapeBasic true 0 text)
  else basicText text

/-! ## Keys -/

/-- A key without quotes, if it can do without, or else a string on one line. -/
def keyText (key : String) : String :=
  let text := key.toList
  if !key.isEmpty && text.all isBareKeyChar then key
  else
    let control := text.any isControl || '\n' ∈ text
    let escapes := control || '\\' ∈ text || '"' ∈ text
    if escapes && !control && !text.contains '\'' then String.ofList ('\'' :: text ++ ['\''])
    else String.ofList (basicText text)

/-! ## Values -/

/-- A float shows that it is one: an integral number is written with a fraction of `.0`. -/
def floatText : Binary64 → String
  | .finite negative m e =>
    let text := if m = 0 then "0" else (Binary64.shortest m e).positional
    (if negative then "-" else "") ++ text ++ if '.' ∈ text.toList then "" else ".0"
  | .infinite negative => if negative then "-inf" else "inf"
  | .nan => "nan"

mutual

def Value.text : Value → String
  | .string text => String.ofList (stringText text.toList)
  | .integer n => toString n
  | .float x => floatText x
  | .boolean b => if b then "true" else "false"
  | .datetime d => d.text
  | .array items => "[" ++ itemsText items ++ "]"
  | .table entries =>
    if entries.isEmpty then "\x7b\x7d" else "\x7b " ++ entriesText entries ++ " \x7d"

def itemsText : List Value → String
  | [] => ""
  | [v] => v.text
  | v :: vs => v.text ++ ", " ++ itemsText vs

def entriesText : List (String × Value) → String
  | [] => ""
  | [(key, v)] => keyText key ++ " = " ++ v.text
  | (key, v) :: es => keyText key ++ " = " ++ v.text ++ ", " ++ entriesText es

end

/-- The text of a value that stands by itself. A date or time is then written as a table. -/
def Value.standaloneText : Value → String
  | .datetime d => Value.text (.table [(datetimeKey, .string d.text)])
  | v => v.text

end Variadic.Toml
