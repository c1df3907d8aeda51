import Variadic.Binary64.Shortest
import Variadic.Toml.Datetime

/-!
# Configuration values

The values of a TOML document. The entries of a table are in ascending order of their keys, each key
once.
-/

namespace Variadic.Toml

inductive Value where
  | string (text : String)
  | integer (n : Int)
  | float (x : Binary64)
  | boolean (b : Bool)
  | datetime (d : Datetime)
  | array (items : List Value)
  | table (entries : List (String × Value))
deriving Repr

/-- The entries of a table. -/
abbrev Table := List (String × Value)

/-- The value of a key in a table that is kept in ascending order. -/
def Table.get? (t : Table) (key : String) : Option Value :=
  t.lookup key

namespace Value

def asTable? : Value → Option Table
  | table entries => some entries
  | _ => none

def asInteger? : Value → Option Int
  | integer n => some n
  | _ => none

/-- The value of a key, if this is a table that has it. -/
def get? (v : Value) (key : String) : Option Value :=
  v.asTable?.bind (·.get? key)

end Value

/-- The only key of the table as which a date or time may be written. -/
def datetimeKey : String := "$__toml_private_datetime"

/-- Puts an entry in its place, in front of any other with the same key. -/
def insertSorted {α : Type} (key : String) (a : α) : List (String × α) → List (String × α)
  | [] => [(key, a)]
  | (k, b) :: es => if k < key then (k, b) :: insertSorted key a es else (key, a) :: (k, b) :: es

end Variadic.Toml
