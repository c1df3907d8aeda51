import Variadic.Grammar.Fault
import Variadic.Macro
import Variadic.Token.Printer
import Variadic.Text.Quoted
import Variadic.Toml.Printer

/-!
# Issues

What is wrong with a call, or with the configuration: a fault, the place it points to, and the chain
of causes behind it. The wording of every fault is in `Fault.message`.
-/

namespace Variadic

inductive Level where
  | warning
  | error
deriving DecidableEq, Repr

/-- How a reported issue begins. -/
def Level.label : Level → String
  | warning => "[WARNING]"
  | error => "[ERROR]"

def Level.reportText (level : Level) (message : String) : String :=
  level.label ++ " " ++ message

/-- The messages of a chain of causes as one text. -/
def joinMessages (messages : List String) : String :=
  String.intercalate "\nCaused by: " messages

/-- A call that makes the compiler fail with a message. Its braces make it valid as an item, a
statement and an expression. -/
def compileErrorCall (message : String) (span : Span) : List Token :=
  [.ident "compile_error" span, .punct '!' .alone span,
    .group .brace [.literal (Text.quote message) span] span]

/-- Why a configuration cannot be used. -/
inductive ConfigurationFault where
  /-- The parser rejects the text of a manifest, for the reason given. -/
  | malformed (path explanation : String)
  /-- The value of a ceiling is no integer in the accepted range. -/
  | unusable (key path : String) (value : Toml.Value)
deriving Repr

inductive Fault where
  | emptyArgument
  | ceilingExceeded (m : Macro) (found limit : Nat)
  | noNumber (m : Macro)
  | notOneValue (found : Nat)
  /-- The call inside a negation failed. -/
  | operand
  | missingTemplate (m : Macro)
  | missingParameter (m : Macro) (name : String)
  | notATemplate
  | path (fault : SyntaxFault)
  | invalidTuple
  /-- The parentheses around this one fixed parameter change nothing. -/
  | redundantParentheses (parameter : List Token)
  | configuration (fault : ConfigurationFault)
deriving Repr

namespace ConfigurationFault

/-- The highest value that a ceiling can be set to. -/
def maxLimit : Nat := 4096

def message : ConfigurationFault → String
  | malformed path explanation => "Failed to parse '" ++ path ++ "'.: " ++ explanation
  | unusable key path value =>
    "'" ++ key ++ "' in '" ++ path ++ "' must be an integer in 1..=" ++ toString maxLimit
      ++ ", got '" ++ value.standaloneText ++ "'."

end ConfigurationFault

namespace Fault

def message : Fault → String
  | emptyArgument => "Expected an argument before ','."
  | ceilingExceeded m found limit =>
    m.title ++ ": " ++ toString found ++ " arguments exceed the ceiling of " ++ toString limit
      ++ ". The ceiling is set by '" ++ m.ceiling.key ++ "' in [package.metadata.va-iter]."
  | noNumber m => m.title ++ " does not produce a number."
  | notOneValue found => "not!: expected exactly one value, found " ++ toString found ++ "."
  | operand => "not!: failed to evaluate the operand."
  | missingTemplate m => m.title ++ ": missing the template."
  | missingParameter m name =>
    m.title ++ ": missing the " ++ name ++ ". Usage: " ++ m.title ++ "("
      ++ String.intercalate ", " m.leading ++ ", args..)."
  | notATemplate => "Expected the path of a macro to use as the template."
  | path fault => fault.message
  | invalidTuple => "Invalid fixed parameter tuple."
  | redundantParentheses parameter =>
    let text := Token.textAll parameter
    "Parentheses around a single fixed parameter are redundant, `" ++ text ++ "` is passed as is. "
      ++ "Use `((" ++ text ++ "))` to pass a parenthesized value."
  | configuration fault => "Invalid va-iter configuration: " ++ fault.message

end Fault

/-- One link of a chain of causes. An issue without a span concerns the call as a whole. -/
structure Note where
  level : Level
  fault : Fault
  span : Option Span
deriving Repr

/-- A note with its causes, the nearest first. -/
structure Issue where
  top : Note
  causes : List Note
deriving Repr

namespace Note

def alone (n : Note) : Issue :=
  ⟨n, []⟩

/-- Puts a note in front of an issue that it is the consequence of. -/
def causedBy (n : Note) (cause : Issue) : Issue :=
  ⟨n, cause.top :: cause.causes⟩

end Note

namespace Issue

/-- An error at a place. -/
def error (fault : Fault) (span : Span) : Issue :=
  Note.alone ⟨.error, fault, some span⟩

/-- An error of the call as a whole. -/
def general (fault : Fault) : Issue :=
  Note.alone ⟨.error, fault, none⟩

/-- All notes, the outermost first. -/
def chain (i : Issue) : List Note :=
  i.top :: i.causes

@[simp] theorem chain_causedBy (n : Note) (i : Issue) : (n.causedBy i).chain = n :: i.chain := rfl

/-- The messages of the whole chain. -/
def message (i : Issue) : String :=
  joinMessages (i.chain.map (·.fault.message))

/-- Without causes there is one message. -/
theorem message_alone (n : Note) : n.alone.message = n.fault.message := by
  rw [message, joinMessages, chain, Note.alone, List.map_singleton, String.intercalate_singleton]

/-- An issue reads as its own message, and behind it that of its cause. -/
theorem message_causedBy (n : Note) (i : Issue) :
    (n.causedBy i).message = n.fault.message ++ "\nCaused by: " ++ i.message := by
  rw [message, joinMessages, chain_causedBy, chain, List.map_cons, List.map_cons,
    String.intercalate_cons_cons]
  rfl

theorem message_pair (n cause : Note) :
    message ⟨n, [cause]⟩ = n.fault.message ++ "\nCaused by: " ++ cause.fault.message := by
  rw [← message_alone cause]
  exact message_causedBy n cause.alone

/-- The text with which an issue is reported. -/
def report (i : Issue) : String :=
  i.top.level.reportText i.message

def compileError (i : Issue) : List Token :=
  compileErrorCall i.message (i.top.span.getD .callSite)

end Issue

end Variadic
