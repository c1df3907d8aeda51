import Variadic.Toml.Number

/-!
# Tables in the making

While a document is read its tables differ in how they came about, which decides what may still be
added to them: a table is written once, in one form, and never extended in another. Their entries
keep the order in which they were written. Only when all is read do they become values.
-/

namespace Variadic.Toml

inductive Origin where
  /-- Written by a header of its own, or the table of the document. -/
  | header
  /-- Named on the way by the header of a table inside it. -/
  | implied
  /-- Named on the way by a dotted key. -/
  | dotted
  /-- Written between braces, complete. -/
  | inline
deriving DecidableEq, Repr

inductive Node where
  | value (v : Value)
  | array (items : List Node)
  | table (origin : Origin) (entries : List (String × Node))
  /-- An array of tables, last one first. -/
  | tables (elements : List (List (String × Node)))

namespace Node

abbrev Entries := List (String × Node)

def append (key : String) (node : Node) (es : Entries) : Entries :=
  es ++ [(key, node)]

def replace (key : String) (node : Node) : Entries → Entries
  | [] => []
  | (k, n) :: es => if k = key then (k, node) :: es else (k, n) :: replace key node es

def remove (key : String) (es : Entries) : Entries :=
  es.filter (·.1 ≠ key)

/-- Edits the table at the end of a path. Tables missing on the way are made, with origin `made`. An
array of tables stands for its last element. A dotted key does not enter a table that has a header,
and nothing enters a value or a table between braces. -/
def within (made : Origin) (path : List String) (edit : Origin → Entries → Option Entries)
    (origin : Origin) (es : Entries) : Option Entries :=
  match path with
  | [] => edit origin es
  | key :: path =>
    match es.lookup key with
    | none => do
      let inner ← within made path edit made []
      some (append key (table made inner) es)
    | some (value _) | some (array _) | some (tables []) => none
    | some (tables (last :: before)) => do
      let inner ← within made path edit .header last
      some (replace key (tables (inner :: before)) es)
    | some (table origin inner) =>
      if origin = .inline || (made = .dotted && origin = .header) then none
      else do
        let inner ← within made path edit origin inner
        some (replace key (table origin inner) es)

/-- Adds an entry at a dotted key. The last part of the key stands in a dotted table exactly if
there are parts in front of it. -/
def addEntry (path : List String) (key : String) (n : Node) (origin : Origin) (es : Entries) :
    Option Entries :=
  within .dotted path (fun origin es =>
    if (origin == .dotted) == !path.isEmpty && (es.lookup key).isNone then some (append key n es)
    else none) origin es

/-- Opens the table `key` with a header, which an implied table may get later. It counts as written
there. -/
def openTable (key : String) (_ : Origin) (es : Entries) : Option Entries :=
  match es.lookup key with
  | none => some (append key (table .header []) es)
  | some (table .implied inner) => some (append key (table .header inner) (remove key es))
  | some _ => none

/-- Opens another element of the array of tables `key`. -/
def openElement (key : String) (_ : Origin) (es : Entries) : Option Entries :=
  match es.lookup key with
  | none => some (append key (tables [[]]) es)
  | some (tables elements) => some (replace key (tables ([] :: elements)) es)
  | some _ => none

/-! ## Values -/

/-- The date or time that a whole text spells. -/
def datetimeOf? (text : String) : Option Datetime :=
  match datetime text.toList with
  | some (d, []) => some d
  | _ => none

mutual

/-- The value that was read. A table that begins with the key for dates is the date that this entry
spells, whatever else it holds, and is no value at all if the entry spells none. -/
def toValue? : Node → Option Value
  | value v => some v
  | array items => .array <$> toItems? items
  | table _ entries => ofEntries? entries
  | tables elements => (fun vs => .array vs.reverse) <$> toElements? elements

def ofEntries? : List (String × Node) → Option Value
  | [] => some (.table [])
  | (key, n) :: es =>
    if key = datetimeKey then
      match n with
      | value (.string text) => .datetime <$> datetimeOf? text
      | _ => none
    else do
      let v ← toValue? n
      let t ← toTable? es
      some (.table (insertSorted key v t))

def toTable? : List (String × Node) → Option Table
  | [] => some []
  | (key, n) :: es => do
    let v ← toValue? n
    let t ← toTable? es
    some (insertSorted key v t)

def toItems? : List Node → Option (List Value)
  | [] => some []
  | n :: ns => do
    let v ← toValue? n
    let vs ← toItems? ns
    some (v :: vs)

def toElements? : List (List (String × Node)) → Option (List Value)
  | [] => some []
  | es :: ess => do
    let v ← ofEntries? es
    let vs ← toElements? ess
    some (v :: vs)

end

end Node

end Variadic.Toml
