import Variadic.FixedParameters
import Variadic.Template

/-!
# Iteration

A template is invoked once for each argument, in order and with nothing between the invocations. All
that can go wrong is decided before the first invocation is written, in a `Plan`.
-/

namespace Variadic

/-- A stream made by a macro, and the warnings to report with it. -/
structure Expansion where
  tokens : List Token
  warnings : List Issue
deriving Repr

/-- Everything that an iteration needs to be written. -/
structure Plan where
  m : Macro
  template : Template
  fixed : FixedParameters
  args : List Argument
  warnings : List Issue
deriving Repr

namespace Plan

/-- What one invocation is given: the fixed parameters, the argument, and its index if the macro
counts. -/
def params (p : Plan) (a : Argument) (index : Nat) : List (List Token) :=
  p.fixed.params.map Argument.tokens ++ [a.tokens]
    ++ if p.m.isIndexed then [[Token.number index]] else []

def invocation (p : Plan) (a : Argument) (index : Nat) : List Token :=
  p.template.invoke (p.params a index)

def tokens (p : Plan) : List Token :=
  (p.args.mapIdx fun index a => p.invocation a index).flatten

def expansion (p : Plan) : Expansion :=
  ⟨p.tokens, p.warnings⟩

/-- How the plan is shown in a trace. -/
def summary (p : Plan) : String :=
  p.m.title ++ ": template `" ++ p.template.name ++ "`, " ++ toString p.fixed.params.length
    ++ " fixed parameter(s) (" ++ p.fixed.shape.name ++ "), " ++ toString p.args.length
    ++ " argument(s)"

end Plan

namespace Macro

/-- Takes the leading parameters off the arguments. A missing one is blamed on the last argument. -/
def takeLeading (m : Macro) (args : List Argument) :
    Except Issue (List Argument × List Argument) :=
  match m.leading[args.length]? with
  | none => .ok (args.splitAt m.leading.length)
  | some name =>
    let span := (args.getLast?.map Argument.span).getD .callSite
    .error (Issue.error (.missingParameter m name) span)

/-- The fixed parameters among the leading ones, the template taken off. Only `par_each_idx` goes by
their shape. -/
def fixedParameters (m : Macro) (given : List Argument) :
    Except Issue (FixedParameters × Option Issue) :=
  match m, given with
  | parEachIdx, [a] => FixedParameters.detect a
  | _, given => .ok (FixedParameters.positional given, none)

/-- Plans an iteration. The arguments are split first, then the leading parameters are taken off,
the template is read, the fixed parameters are, and the remaining arguments are counted. -/
def plan (m : Macro) (input : List Token) (limits : Limits) : Except Issue Plan := do
  let (leading, args) ← m.takeLeading (← Argument.split input)
  match leading with
  | [] => .error (Issue.general (.missingTemplate m))
  | first :: given =>
    let template ← Template.parse first
    let (fixed, warning) ← m.fixedParameters given
    m.checkCeiling args limits
    pure ⟨m, template, fixed, args, warning.toList⟩

/-- Expands an iteration. -/
def iterate (m : Macro) (input : List Token) (limits : Limits) : Except Issue Expansion :=
  Plan.expansion <$> m.plan input limits

end Macro

end Variadic
