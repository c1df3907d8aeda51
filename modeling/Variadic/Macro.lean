import Variadic.Limits.Basic

/-!
# The macros

Four macros produce a number from their arguments, five invoke a template once for each of them.
-/

namespace Variadic

inductive Macro where
  | narg
  | not
  | isEmpty
  | notEmpty
  | each
  | eachIdx
  | parEachIdx
  | par1EachIdx
  | par2EachIdx
deriving DecidableEq, Repr

namespace Macro

def all : List Macro :=
  [narg, not, isEmpty, notEmpty, each, eachIdx, parEachIdx, par1EachIdx, par2EachIdx]

def name : Macro → String
  | narg => "narg"
  | not => "not"
  | isEmpty => "is_empty"
  | notEmpty => "not_empty"
  | each => "each"
  | eachIdx => "each_idx"
  | parEachIdx => "par_each_idx"
  | par1EachIdx => "par1_each_idx"
  | par2EachIdx => "par2_each_idx"

/-- The macro as messages call it. -/
def title (m : Macro) : String :=
  m.name ++ "!"

/-- Whether the macro produces a number. -/
def isNumeric : Macro → Bool
  | narg | not | isEmpty | notEmpty => true
  | each | eachIdx | parEachIdx | par1EachIdx | par2EachIdx => false

/-- The macro with the given name, if it produces a number. -/
def numeric? (name : String) : Option Macro :=
  (all.filter isNumeric).find? (·.name = name)

/-- The ceiling that bounds the macro. Indices are counted, so only iteration without them has a
ceiling of its own. -/
def ceiling : Macro → Ceiling
  | each => .each
  | _ => .count

/-- The names of the parameters in front of the argument list. -/
def leading : Macro → List String
  | each | eachIdx => ["template"]
  | parEachIdx => ["template", "fixed parameters"]
  | par1EachIdx => ["template", "fixed parameter"]
  | par2EachIdx => ["template", "first fixed parameter", "second fixed parameter"]
  | narg | not | isEmpty | notEmpty => []

/-- Whether each invocation is given the index of its argument. -/
def isIndexed : Macro → Bool
  | each => false
  | _ => true

theorem numeric?_name {m : Macro} (h : m.isNumeric) : numeric? m.name = some m := by
  revert h
  cases m <;> decide

end Macro

end Variadic
