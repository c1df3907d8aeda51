import Variadic.Grammar.Nesting

/-!
# Reading paths

A stream spells a path if nothing is left over behind it. Where its generic arguments hold groups,
nothing may be left over in those either (`Input.unread?`).
-/

namespace Variadic.Path

open Grammar

/-- The path that a stream spells as a whole. -/
def parse (ts : List Token) : Except SyntaxError Path :=
  match path (.deepEnough ts) .type ⟨ts, .callSite, none⟩ with
  | .error e => .error e
  | .ok (p, ⟨rest, _⟩) =>
    match rest.unread? .invisible with
    | some e => .error e
    | none => .ok p

end Variadic.Path
