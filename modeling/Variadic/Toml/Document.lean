import Variadic.Toml.Section

/-!
# Configuration documents

A document is a sequence of lines, each of which adds to the table that the last header opened.
-/

namespace Variadic.Toml

open Reader

/-! ## Values -/

/-- Arrays and inline tables nest at most this deep. -/
def maxNesting : Nat := 79

def scalar : Reader Value :=
  (.string <$> stringValue)
    <|> (do exactly "true"; pure (.boolean true))
    <|> (do exactly "false"; pure (.boolean false))
    <|> (.datetime <$> datetime)
    <|> (.float <$> float)
    <|> (.integer <$> integer)

/-- An array of items, over any number of lines. A comma may follow the last item. -/
def arrayOf (item : Reader Node) : Reader Node := do
  exactly "["
  let items ← separatedBy (exactly ",") do
    blankLines
    let n ← item
    blankLines
    pure n
  if !items.isEmpty then
    let _ ← optional (exactly ",")
  blankLines
  exactly "]"
  pure (.array items)

/-- The parts of an entry's key in front of the last, the last one, and the value. -/
abbrev Entry := List String × String × Node

def entryOf (item : Reader Node) : Reader Entry := do
  let key ← dottedKey
  exactly "="
  inlineBlanks
  let n ← item
  match key.getLast? with
  | some last => pure (key.dropLast, last, n)
  | none => failure

/-- A table on one line. -/
def inlineTableOf (item : Reader Node) : Reader Node := do
  exactly "\x7b"
  let entries ← separatedBy (exactly ",") do
    let entry ← entryOf item
    inlineBlanks
    pure entry
  inlineBlanks
  exactly "\x7d"
  let es ← entries.foldlM (fun es (path, key, n) => Node.addEntry path key n .header es) []
  pure (.table .inline es)

/-- A value in which arrays and inline tables nest at most `depth` deep. -/
def valueWithin : Nat → Reader Node
  | 0 => .value <$> scalar
  | depth + 1 =>
    arrayOf (valueWithin depth) <|> inlineTableOf (valueWithin depth) <|> .value <$> scalar

/-! ## Lines -/

inductive Line where
  | blank
  | header (path : List String)
  | elementHeader (path : List String)
  | entry (entry : Entry)

def line : Reader Line := do
  inlineBlanks
  (do
      exactly "[["
      let path ← dottedKey
      exactly "]]"
      lineEnd
      pure (.elementHeader path))
    <|> (do
      exactly "["
      let path ← dottedKey
      exactly "]"
      lineEnd
      pure (.header path))
    <|> (do
      let entry ← entryOf (valueWithin maxNesting)
      lineEnd
      pure (.entry entry))
    <|> (do
      let _ ← optional comment
      newline <|> atEnd
      pure .blank)

/-! ## Documents -/

/-- A document so far, and the path of the table that entries go to. -/
structure Draft where
  root : Node.Entries
  current : List String

namespace Draft

/-- Opens what a header names, in the table that holds it. -/
def openWith (opening : String → Origin → Node.Entries → Option Node.Entries)
    (path : List String) (d : Draft) : Option Draft := do
  let last ← path.getLast?
  let root ← Node.within .implied path.dropLast (opening last) .header d.root
  some ⟨root, path⟩

def add (d : Draft) : Line → Option Draft
  | .blank => some d
  | .header path => d.openWith Node.openTable path
  | .elementHeader path => d.openWith Node.openElement path
  | .entry (path, key, n) => do
    let root ← Node.within .implied d.current (Node.addEntry path key n) .header d.root
    some ⟨root, d.current⟩

end Draft

def skipByteOrderMark : List Char → List Char
  | '\ufeff' :: cs => cs
  | cs => cs

/-- The value that a text describes, if it is a valid document: a table, or a date in the form of
one. -/
def parse? (text : String) : Option Value := do
  let (lines, rest) := manyFrom line (skipByteOrderMark text.toList)
  let (_, rest) ← inlineBlanks rest
  if !rest.isEmpty then none
  let draft ← lines.foldlM Draft.add ⟨[], []⟩
  Node.ofEntries? draft.root

end Variadic.Toml
