import Variadic.Token.Basic

/-!
# What is wrong with a phrase

The faults that the readers of phrases run into, and their wording.
-/

namespace Variadic

inductive SyntaxFault where
  /-- None of these stands here. -/
  | expected (wanted : List String)
  /-- A keyword stands where an identifier has to be. -/
  | keyword (word : String)
  /-- A token is left over behind the phrase, in a group of this kind. -/
  | leftOver (scope : Delimiter)
  /-- This has no place here. -/
  | notAllowed (what : String)
  /-- The bounds after `dyn`, or of a type that is a sum, are lifetimes. -/
  | objectWithoutTrait
  /-- No bound after `impl` is a trait. -/
  | noTrait
  | noSegment
  | nestedAttribute
  | attributeOnRange
  | chainedComparison
  /-- This stands directly behind a cast. -/
  | behindCast (what : String)
  | labelWithoutParentheses
  | openRangeInSlice
  | noRangeEnd
  | unseparatedStatement
  | suffixedIndex
  | hugeIndex
  /-- The stream, or the group, ends where there is this fault. -/
  | atEnd (fault : SyntaxFault)
deriving DecidableEq, Repr

namespace SyntaxFault

/-- Two alternatives are joined by a word, more are listed. -/
def expectedMessage : List String → String
  | [] => "unexpected token"
  | [a] => "expected " ++ a
  | [a, b] => "expected " ++ a ++ " or " ++ b
  | wanted => "expected one of: " ++ String.intercalate ", " wanted

def leftOverMessage : Delimiter → String
  | .paren => "unexpected token, expected `)`"
  | .bracket => "unexpected token, expected `]`"
  | .brace => "unexpected token, expected `\x7d`"
  | .invisible => "unexpected token"

def message : SyntaxFault → String
  | expected wanted => expectedMessage wanted
  | keyword word => "expected identifier, found keyword `" ++ word ++ "`"
  | leftOver scope => leftOverMessage scope
  | notAllowed what => what ++ " is not allowed here"
  | objectWithoutTrait => "at least one trait is required for an object type"
  | noTrait => "at least one trait must be specified"
  | noSegment => "expected path segment after `::`"
  | nestedAttribute => "unexpected attribute inside of attribute"
  | attributeOnRange => "attributes are not allowed on range expressions starting with `..`"
  | chainedComparison => "comparison operators cannot be chained"
  | behindCast what => "casts cannot be followed by " ++ what
  | labelWithoutParentheses => "parentheses required"
  | openRangeInSlice => "range pattern is not allowed unparenthesized inside slice pattern"
  | noRangeEnd => "expected range upper bound"
  | unseparatedStatement => "unexpected token, expected `;`"
  | suffixedIndex => "expected unsuffixed integer"
  | hugeIndex => "number too large to fit in target type"
  | atEnd (.expected []) => "unexpected end of input"
  | atEnd fault => "unexpected end of input, " ++ fault.message

end SyntaxFault

/-- A fault and the place that it is blamed on. -/
structure SyntaxError where
  fault : SyntaxFault
  span : Span
deriving DecidableEq, Repr

end Variadic
