import Variadic.Grammar.Statement

/-!
# Phrases within phrases

The readers of phrases call for each other. They are tied together level by level: a reader that may
nest so many levels deep calls for those that may nest one level less (`Nested.within`). A level is
left only for a phrase inside of another one, so a stream is never deeper than some multiple of the
number of its tokens.
-/

namespace Variadic.Grammar

namespace Nested

/-- Readers that may not read anything. -/
def exhausted : Nested where
  type _ _ := Reader.missing []
  bound _ _ := Reader.missing []
  expression _ := Reader.missing []
  unary _ := Reader.missing []
  operators _ _ _ := Reader.missing []
  early := Reader.missing []
  pattern := Reader.missing []
  statements := Reader.missing []

/-- Readers of phrases that nest at most so many levels deep. -/
def within : Nat → Nested
  | 0 => exhausted
  | depth + 1 =>
    { type := fun plus generics => Grammar.type (within depth) plus generics
      bound := fun captures constant => Grammar.bound (within depth) captures constant
      expression := fun braces => Grammar.expression (within depth) braces
      unary := fun braces => Grammar.unary (within depth) braces
      operators := fun e braces least => Grammar.operators (within depth) e braces least
      early := fun i => earlyExpression (within depth) i
      pattern := fun i => Grammar.pattern (within depth) i
      statements := fun i => Grammar.statements (within depth) i }

/-- More levels than are ever entered between one token and the next. -/
def levelsPerToken : Nat := 16

/-- Readers that nest as deep as a stream can. Invisible groups around the whole stream do not
deepen it. -/
def deepEnough (ts : List Token) : Nested :=
  within (levelsPerToken * (Token.weightAll (Token.peelAll ts) + 1))

end Nested

end Variadic.Grammar
