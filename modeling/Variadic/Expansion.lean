import Variadic.Iteration
import Variadic.Limits.Load
import Variadic.Numeric

/-!
# Expansion

The expansion of a macro call under the limits of the directory being compiled, and what is printed
on the way: warnings, and a trace if it is asked for.
-/

namespace Variadic

/-- What an expansion depends on besides the call. -/
structure Environment where
  /-- What the parser of manifests says about a text that it rejects. -/
  explain : String → String
  files : FileTree := .empty
  /-- The directory being compiled. -/
  dir : Option String := none
  trace : Bool := false

/-- Something to print. -/
inductive Event where
  | call (m : Macro) (input : List Token)
  | planned (p : Plan)
  | warning (i : Issue)
  | result (m : Macro) (tokens : List Token)
deriving Repr

namespace Event

def text : Event → String
  | call m input => m.title ++ "(" ++ Token.textAll input ++ ")"
  | planned p => p.summary
  | warning i => i.report
  | result m tokens => m.title ++ " => " ++ Token.textAll tokens

/-- Whether the event belongs to the trace. -/
def isTrace : Event → Bool
  | warning _ => false
  | _ => true

end Event

/-- The outcome of an expansion, and what is printed, in order. -/
structure Report where
  events : List Event
  outcome : Except Issue (List Token)

namespace Macro

/-- Evaluates a numeric macro. -/
def evaluate (m : Macro) (input : List Token) (limits : Limits) : Except Issue Expansion :=
  match m.value input limits with
  | .error e => .error e
  | .ok v => .ok ⟨v.tokens, []⟩

/-- What the macro makes of its input under given limits, and the plan, if it is an iteration. -/
def run (m : Macro) (input : List Token) (limits : Limits) :
    Except Issue (Option Plan × Expansion) :=
  if m.isNumeric then
    match m.evaluate input limits with
    | .error e => .error e
    | .ok x => .ok (none, x)
  else
    match m.plan input limits with
    | .error e => .error e
    | .ok p => .ok (some p, p.expansion)

/-- All that an expansion prints, trace included. -/
def fullReport (m : Macro) (input : List Token) (limits : Except Issue Limits) : Report :=
  match limits with
  | .error e => ⟨[.call m input], .error e⟩
  | .ok limits =>
    match m.run input limits with
    | .error e => ⟨[.call m input], .error e⟩
    | .ok (plan, x) =>
      ⟨.call m input :: plan.toList.map Event.planned ++ x.warnings.map Event.warning
        ++ [.result m x.tokens], .ok x.tokens⟩

/-- Expands a call. The configuration is read before anything is checked. -/
def expand (m : Macro) (input : List Token) (env : Environment) : Report :=
  let report := m.fullReport input (Limits.load env.explain env.files env.dir)
  if env.trace then report else ⟨report.events.filter (!·.isTrace), report.outcome⟩

end Macro

/-- What the compiler is given in place of the call: an issue becomes a call that fails with it. -/
def Report.output (r : Report) : List Token :=
  match r.outcome with
  | .ok tokens => tokens
  | .error e => e.compileError

end Variadic
