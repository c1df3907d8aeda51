import Variadic.Token.Basic

/-!
# Paths

The path of an item, as it names a template. A path keeps the tokens of its segments; separators and
the signs around arguments are made anew when it is written, in one spelling.
-/

namespace Variadic

/-- What stands behind the name of a segment, written out. -/
inductive SegmentArguments where
  | none
  /-- Generic arguments between angle brackets, perhaps no single one. -/
  | generic (tokens : List Token) (isEmpty : Bool)
  /-- The parameters and the result of a function trait. -/
  | parenthesized (tokens : List Token)
deriving Repr

namespace SegmentArguments

def tokens : SegmentArguments → List Token
  | none => []
  | generic ts _ | parenthesized ts => ts

/-- Whether there is no argument, nor parentheses for any. -/
def isEmpty : SegmentArguments → Bool
  | none => true
  | generic _ isEmpty => isEmpty
  | parenthesized _ => false

end SegmentArguments

/-- One name of a path, with its arguments. -/
structure Segment where
  name : Token
  arguments : SegmentArguments
deriving Repr

/-- `rooted` tells whether the path begins with a separator. -/
structure Path where
  rooted : Bool
  segments : List Segment
deriving Repr

def Segment.tokens (s : Segment) : List Token :=
  s.name :: s.arguments.tokens

namespace Path

/-- The separator of a path: a colon joint to another one. -/
def separator : List Token :=
  [.punct ':' .joint .callSite, .mark ':']

def tokens (p : Path) : List Token :=
  (if p.rooted then separator else []) ++ separator.intercalate (p.segments.map Segment.tokens)

/-- Whether no segment has arguments, nor signs for any. -/
def isPlain (p : Path) : Bool :=
  p.segments.all fun s => s.arguments matches .none

/-- Puts other arguments behind the last segment. -/
def withArguments (p : Path) (arguments : SegmentArguments) : Path :=
  match p.segments.getLast? with
  | some last => { p with segments := p.segments.dropLast ++ [{ last with arguments }] }
  | none => p

/-- Whether the last segment has no argument. -/
def endsBare (p : Path) : Bool :=
  p.segments.getLast?.any (·.arguments.isEmpty)

end Path

/-- A path that may go out from a type in angle brackets, `front`. -/
structure QualifiedPath where
  front : List Token
  path : Path
deriving Repr

namespace QualifiedPath

def tokens (q : QualifiedPath) : List Token :=
  q.front ++ q.path.tokens

def isQualified (q : QualifiedPath) : Bool :=
  !q.front.isEmpty

/-- Adds segments at the end. -/
def extend (q : QualifiedPath) (more : List Segment) : QualifiedPath :=
  { q with path := { q.path with segments := q.path.segments ++ more } }

end QualifiedPath

end Variadic
