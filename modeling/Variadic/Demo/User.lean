import Variadic.Text.Quoted

/-!
# A demonstration: comparing users field by field

The fields of a user are listed once. Their number, their accessors and the comparison all follow
that list.
-/

namespace Variadic.Demo

structure User where
  name : String
  lastName : String
  birthdate : String
deriving DecidableEq, Repr

namespace User

/-- The names of the fields and how each is read. -/
def fields : List (String × (User → String)) :=
  [("name", User.name), ("last_name", User.lastName), ("birthdate", User.birthdate)]

def fieldCount : Nat := fields.length

def values (u : User) : List String :=
  fields.map fun (_, field) => field u

/-- The names of the fields in which two users differ. -/
def differences (u v : User) : List String :=
  (fields.filter fun (_, field) => field u ≠ field v).map (·.1)

end User

/-- Texts as a list of quoted texts. -/
def quoteList (texts : List String) : String :=
  "[" ++ String.intercalate ", " (texts.map Text.quote) ++ "]"

/-- The lines that the demonstration prints. -/
def lines : List String :=
  let user : User := ⟨"Ada", "Lovelace", "1815-12-10"⟩
  let other : User := ⟨"Ada", "Byron", "1815-12-10"⟩
  [user.name ++ " " ++ user.lastName ++ " (" ++ user.birthdate ++ ") has "
      ++ toString User.fieldCount ++ " fields.",
    "Differences: " ++ quoteList (user.differences other)]

end Variadic.Demo
