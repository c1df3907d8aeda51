import Variadic.Toml.Reader

/-!
# Strings and keys

Basic strings know escapes, literal strings none. Either may run over several lines between triple
quotes; a line end right behind the opening ones is dropped, and every line end counts as a line
feed.
-/

namespace Variadic.Toml

open Text Reader

/-- The character with the number that `digits` hexadecimal digits spell. -/
def numberedChar (digits : Nat) : Reader Char := fun cs => do
  let number ← (cs.take digits).foldlM (fun n c => (hexDigit? c).map (16 * n + ·)) 0
  let c ← charOfNumber? number
  if digits ≤ cs.length then some (c, cs.drop digits) else none

def escaped : Reader Char := do
  exactly "\\"
  match ← char fun _ => true with
  | 'b' => pure '\x08'
  | 't' => pure '\t'
  | 'n' => pure '\n'
  | 'f' => pure '\x0c'
  | 'r' => pure '\r'
  | '"' => pure '"'
  | '\\' => pure '\\'
  | 'u' => numberedChar 4
  | 'U' => numberedChar 8
  | _ => failure

/-- A backslash at the end of a line, which drops all blanks and line ends behind it. -/
def lineContinuation : Reader Unit := do
  exactly "\\"
  inlineBlanks
  newline
  let _ ← many ((do let _ ← char isInlineBlank) <|> newline)

def basicString : Reader (List Char) := do
  exactly "\""
  let text ← many (escaped <|> char fun c => isText c && c ≠ '"' && c ≠ '\\')
  exactly "\""
  pure text

def literalString : Reader (List Char) := do
  exactly "'"
  let text ← many (char fun c => isText c && c ≠ '\'')
  exactly "'"
  pure text

/-- One or two quotes inside a string that three of them end. -/
def innerQuotes (quote : Char) : Reader (List Char) := fun cs =>
  let n := countWhile (· = quote) cs
  if n = 1 || n = 2 then some (List.replicate n quote, cs.drop n) else none

/-- The three quotes that end a string, behind up to two that still belong to it. -/
def closingQuotes (quote : Char) : Reader (List Char) := fun cs =>
  let n := min (countWhile (· = quote) cs) 5
  if 3 ≤ n then some (List.replicate (n - 3) quote, cs.drop n) else none

def multilineString (quote : Char) (element : Reader (List Char)) : Reader (List Char) := do
  exactly (String.ofList [quote, quote, quote])
  let _ ← optional newline
  let body ← many ((do newline; pure ['\n']) <|> innerQuotes quote <|> element)
  let last ← closingQuotes quote
  pure (body.flatten ++ last)

def multilineBasicString : Reader (List Char) :=
  multilineString '"' <|
    (do lineContinuation; pure [])
      <|> ((· :: []) <$> escaped)
      <|> ((· :: []) <$> char fun c => isText c && c ≠ '"' && c ≠ '\\')

def multilineLiteralString : Reader (List Char) :=
  multilineString '\'' ((· :: []) <$> char fun c => isText c && c ≠ '\'')

def stringValue : Reader String :=
  String.ofList <$>
    (multilineBasicString <|> basicString <|> multilineLiteralString <|> literalString)

/-! ## Keys -/

def isBareKeyChar (c : Char) : Bool :=
  c.isAlphanum || c = '_' || c = '-'

def simpleKey : Reader String :=
  String.ofList <$> (basicString <|> literalString <|> many1 (char isBareKeyChar))

/-- A dotted key has at most this many parts. -/
def maxKeyParts : Nat := 79

/-- A key of one or more parts with points between them. -/
def dottedKey : Reader (List String) := do
  let parts ← separatedBy1 (exactly ".") do
    inlineBlanks
    let part ← simpleKey
    inlineBlanks
    pure part
  if parts.length ≤ maxKeyParts then pure parts else failure

end Variadic.Toml
