import Variadic.Grammar.Bound

/-!
# Patterns

A name alone is bound. With a separator, an exclamation mark, a group or the points of a range
behind it, it is a path that is matched.
-/

namespace Variadic.Grammar

open Lookahead Reader

/-! ## Alternatives -/

/-- Whether another alternative follows. -/
def isAlternative (ts : List Token) : Bool :=
  isSign "|" ts && !isAnySign ["||", "|="] ts

/-- Reads the alternatives behind a first one. -/
def alternatives (n : Nested) : Reader (List Token) :=
  whileNext isAlternative (inOrder [sign "|", n.patternTokens])

/-- Reads a pattern that may have alternatives, and a bar in front of the first. -/
def fullPattern (n : Nested) : Reader Pattern := do
  let bar ← optionalSign "|"
  let first ← n.pattern
  let more ← alternatives n
  if bar.isEmpty && more.isEmpty then return first
  else return { tokens := bar ++ first.tokens ++ more }

/-- The written form of a pattern that may have alternatives. -/
def fullPatternTokens (n : Nested) : Reader (List Token) :=
  Pattern.tokens <$> fullPattern n

/-! ## Macros -/

/-- Whether the exclamation mark of a call follows. -/
def isCall (ts : List Token) : Bool :=
  isSign "!" ts && !isSign "!=" ts

/-- Reads what follows the path of a macro. -/
def callRest : Reader (List Token) :=
  inOrder [sign "!", anyGroup]

/-! ## Ranges -/

/-- Reads the sign of a range, in its newer spelling; `dots` tells whether three points are an older
spelling of a closed one. Whether the range is closed. -/
def rangeSign (dots : Bool) : Reader (List Token × Bool) := do
  let ts ← ahead
  if isSign "..=" ts then return (← sign "..=", true)
  else if isSign "..." ts then
    if dots then
      let _ ← sign "..."
      return (signTokens "..=", true)
    else missing ["`..`", "`..=`"]
  else if isSign ".." ts then return (← sign "..", false)
  else missing ["`..`"]

def attributedConstant (n : Nested) : Reader (List Token) :=
  inOrder [word "const", attributedBlock n]

/-- Whether a range has no end here. -/
def endsRange (ts : List Token) : Bool :=
  ts.isEmpty || isAnySign ["|", "=", ",", ";"] ts || isSign ":" ts && !isSign "::" ts
    || isWord "if" ts

/-- Reads the end of a range; no tokens if there is none. -/
def rangeBound (n : Nested) : Reader (List Token) := do
  let ts ← ahead
  if endsRange ts then return []
  else if isLiteral ts then literal
  else if isPlainName ts || isAnySign ["::", "<"] ts then
    QualifiedPath.tokens <$> qualifiedPath n .expression
  else if isWord "const" ts then attributedConstant n
  else
    missing ["literal", "identifier", "`::`", "`<`", "`self`", "`Self`", "`super`", "`crate`",
      "`const`"]

/-- Reads the sign and the end of a range whose start was read. -/
def rangePattern (n : Nested) (start : List Token) : Reader Pattern := do
  let ts ← ahead
  let (points, isClosed) ← rangeSign true
  let stop ← rangeBound n
  if isClosed && stop.isEmpty then fail .noRangeEnd
  else
    let span := (signSpan? 2 ts).getD .callSite
    return ⟨start ++ points ++ stop, if stop.isEmpty then .openRange span else .other⟩

/-- Reads a range without a start, or the points that stand for all that is left. -/
def halfOpenPattern (n : Nested) : Reader Pattern := do
  let ts ← ahead
  let (points, isClosed) ← rangeSign false
  let stop ← rangeBound n
  if !stop.isEmpty then
    let span := (signSpan? (if isClosed then 3 else 2) ts).getD .callSite
    return ⟨points ++ stop, .openRange span⟩
  else if isClosed then fail .noRangeEnd
  else return ⟨points, .rest⟩

/-- Reads a literal, a constant, or a range that begins with one. -/
def literalPattern (n : Nested) : Reader Pattern := do
  let start ← rangeBound n
  if ← next (isSign "..") then rangePattern n start else return { tokens := start }

/-! ## Fields -/

/-- The position of a field that an integer spells. -/
def fieldIndex (text : String) (span : Span) : Reader (List Token) :=
  match Numeral.ofText? text.toList with
  | none => failAt span (.expected ["integer literal"])
  | some numeral =>
    if !numeral.suffix.isEmpty then failAt span .suffixedIndex
    else if numeral.value < Nat.pow 2 32 then pure [Token.number numeral.value]
    else failAt span .hugeIndex

/-- Reads the name or the position of a field; whether it is a name. -/
def member : Reader (List Token × Bool) := do
  let ts ← ahead
  if isName ts then return (← name, true)
  else if isInteger ts then
    match ← literal with
    | [.literal text span] => return (← fieldIndex text span, false)
    | tokens => return (tokens, false)
  else missing ["identifier", "integer"]

/-- Reads the pattern of a field. -/
def fieldPattern (n : Nested) : Reader (List Token) := do
  let start ← ahead
  let box ← optionalWord "box"
  let binding ← inOrder [optionalWord "ref", optionalWord "mut"]
  if box.isEmpty && binding.isEmpty then
    let (field, isNamed) ← member
    if !isNamed || (← next (isSign ":")) then
      return field ++ (← inOrder [sign ":", fullPatternTokens n])
    else return field
  else
    let field ← name
    let rest ← ahead
    return if box.isEmpty then binding ++ field else between start rest

/-- Reads the patterns of fields. -/
def fieldPatterns (n : Nested) : Reader (List Token) :=
  List.flatten <$> chain do
    if ← atEnd then return ([], false)
    let attrs ← attributes n
    if ← next (isSign "..") then return (attrs ++ (← sign ".."), false)
    let field ← fieldPattern n
    if ← atEnd then return (attrs ++ field, false)
    return (attrs ++ field ++ (← sign ","), true)

/-! ## Patterns that begin with a name -/

/-- Reads a pattern that begins with a path. -/
def pathPattern (n : Nested) : Reader Pattern := do
  let q ← qualifiedPath n .expression
  let ts ← ahead
  if !q.isQualified && isCall ts && q.path.isPlain then
    return { tokens := q.tokens ++ (← callRest) }
  else if isGroup .brace ts then
    return { tokens := q.tokens ++ (← group .brace (fieldPatterns n)) }
  else if isGroup .paren ts then
    return { tokens := q.tokens ++ (← group .paren (separated "," (fullPatternTokens n))) }
  else if isSign ".." ts then rangePattern n q.tokens
  else return { tokens := q.tokens }

/-- Reads a name that is bound, perhaps to what matches a pattern of its own. -/
def bindingPattern (n : Nested) : Reader Pattern := do
  let front ← inOrder [optionalWord "ref", optionalWord "mut"]
  let bound ← if ← next (isWord "self") then word "self" else name
  let inner ← ifNext (isSign "@") (inOrder [sign "@", n.patternTokens])
  return { tokens := front ++ bound ++ inner }

/-! ## Groups -/

/-- Reads patterns in parentheses. -/
def tuplePattern (n : Nested) : Reader Pattern :=
  (⟨·, .other⟩) <$> group .paren (separated "," (fullPatternTokens n))

/-- Reads a pattern of a slice, where a range needs both ends. -/
def elementPattern (n : Nested) : Reader (List Token) := do
  let p ← fullPattern n
  match p.form with
  | .openRange span => failAt span .openRangeInSlice
  | _ => return p.tokens

/-! ## Patterns -/

/-- What a pattern can begin with. -/
def patternStarts : List String :=
  ["identifier", "`::`", "`<`", "`_`", "literal", "`const`", "`ref`", "`mut`", "`&`", "parentheses",
    "square brackets", "`..`", "`const`"]

/-- Whether a path begins here, not a name that is bound. -/
def startsPathPattern (ts : List Token) : Bool :=
  let rest := behindOne ts
  isName ts && (isAnySign ["::", "!", ".."] rest || isGroup .brace rest || isGroup .paren rest)
    || isWord "self" ts && isSign "::" rest || isAnySign ["::", "<"] ts
    || isOneOf ["Self", "super", "crate"] ts

/-- Reads a pattern without alternatives. -/
def pattern (n : Nested) : Reader Pattern := do
  let ts ← ahead
  if startsPathPattern ts then pathPattern n
  else if isWord "_" ts then return { tokens := ← word "_" }
  else if isWord "box" ts then
    let _ ← inOrder [word "box", n.patternTokens]
    return { tokens := between ts (← ahead) }
  else if isSign "-" ts || isLiteral ts || isWord "const" ts then literalPattern n
  else if isName ts || isOneOf ["ref", "mut", "self"] ts then bindingPattern n
  else if isSign "&" ts then
    return { tokens := ← inOrder [sign "&", optionalWord "mut", n.patternTokens] }
  else if isGroup .paren ts then tuplePattern n
  else if isGroup .bracket ts then
    return { tokens := ← group .bracket (separated "," (elementPattern n)) }
  else if isSign ".." ts && !isSign "..." ts then halfOpenPattern n
  else missing patternStarts

end Variadic.Grammar
