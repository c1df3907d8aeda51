import Variadic.Argument
import Variadic.Path.Reader

/-!
# Templates

The macro that an iteration invokes once for each argument. Its own arity is not checked here, a
mismatch shows where the compiler expands the invocation.
-/

namespace Variadic

structure Template where
  path : Path
deriving Repr

namespace Template

/-- Drops one exclamation mark at the end. -/
def dropBang (ts : List Token) : List Token :=
  if ts.getLast?.any (·.isPunct '!') then ts.dropLast else ts

/-- The template that an argument names: a path, with or without an exclamation mark behind it. -/
def parse (a : Argument) : Except Issue Template :=
  match Path.parse (dropBang a.peeled) with
  | .ok p => .ok ⟨p⟩
  | .error e =>
    .error (Note.causedBy ⟨.error, .notATemplate, some a.span⟩ (Issue.error (.path e.fault) e.span))

def name (t : Template) : String :=
  Token.textAll t.path.tokens

/-- One invocation. In braces it needs no semicolon behind it. -/
def invoke (t : Template) (params : List (List Token)) : List Token :=
  t.path.tokens ++ [.mark '!', .group .brace (Argument.joinTokens params) .callSite]

end Template

end Variadic
