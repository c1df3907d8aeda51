/-!
# Token trees

The streams the engine reads and writes: identifiers, single punctuation characters and literals,
nested in delimited groups. A stream is a `List Token`; a group holds its own stream, so commas in
it are not commas of the stream around it.

Every token remembers where it was written, or that it was written nowhere (`Span.callSite`).
-/

namespace Variadic

/-- A place in one of the texts that a stream is put together from. Lines count from 1 and end at a
line feed, columns count characters from 0. -/
structure Position where
  text : Nat
  line : Nat
  column : Nat
deriving DecidableEq, Repr

namespace Position

def start (text : Nat) : Position := ⟨text, 1, 0⟩

/-- The place after one character. -/
def next (p : Position) (c : Char) : Position :=
  if c = '\n' then ⟨p.text, p.line + 1, 0⟩ else ⟨p.text, p.line, p.column + 1⟩

/-- Whether a place comes before another one of the same text. -/
def isBefore (p q : Position) : Bool :=
  p.line < q.line || (p.line = q.line && p.column < q.column)

/-- The place after a text. -/
def advance (p : Position) (text : List Char) : Position :=
  text.foldl next p

end Position

/-- Where a token comes from: a stretch of text, its end exclusive, or the call as a whole for a
token that stands in no text. -/
inductive Span where
  | callSite
  | range (start stop : Position)
deriving DecidableEq, Repr

namespace Span

/-- The first character of a span: the opening delimiter, if the span is a group's. -/
def opening : Span → Span
  | callSite => callSite
  | range start _ => range start ⟨start.text, start.line, start.column + 1⟩

/-- The last character of a span: the closing delimiter, if the span is a group's. -/
def closing : Span → Span
  | callSite => callSite
  | range _ stop => range ⟨stop.text, stop.line, stop.column - 1⟩ stop

/-- The stretch from one span to another. Where they share no text it is the first alone. -/
def join : Span → Span → Span
  | range a b, range c d =>
    if a.text = c.text then
      range (if c.isBefore a then c else a) (if b.isBefore d then d else b)
    else range a b
  | s, _ => s

end Span

/-- Whether a punctuation is immediately followed by another one. -/
inductive Spacing where
  | alone
  | joint
deriving DecidableEq, Repr

/-- How a group is delimited. An `invisible` group has no characters of its own: it wraps a fragment
that was forwarded from one expansion to the next. -/
inductive Delimiter where
  | paren
  | bracket
  | brace
  | invisible
deriving DecidableEq, Repr

inductive Token where
  | group (delimiter : Delimiter) (content : List Token) (span : Span)
  | ident (text : String) (span : Span)
  | punct (char : Char) (spacing : Spacing) (span : Span)
  | literal (text : String) (span : Span)
deriving Repr

namespace Token

def span : Token → Span
  | group _ _ s | ident _ s | punct _ _ s | literal _ s => s

/-- The place an error about this token points to when only its start matters: a group is blamed at
its opening delimiter. -/
def startSpan : Token → Span
  | group _ _ s => s.opening
  | t => t.span

def isPunct (c : Char) : Token → Bool
  | punct d _ _ => d = c
  | _ => false

/-- Whether the token separates arguments. -/
def isComma (t : Token) : Bool :=
  t.isPunct ','

@[simp] theorem isComma_group (d : Delimiter) (ts : List Token) (s : Span) :
    (group d ts s).isComma = false := rfl

@[simp] theorem isComma_ident (text : String) (s : Span) : (ident text s).isComma = false := rfl

@[simp] theorem isComma_literal (text : String) (s : Span) : (literal text s).isComma = false := rfl

/-! ## Tokens made by the engine -/

/-- A punctuation made by the engine, not joined to what follows. -/
def mark (c : Char) : Token :=
  punct c .alone .callSite

/-- An unsuffixed decimal literal, fit for any integer type and as a field index. -/
def number (n : Nat) : Token :=
  literal (toString n) .callSite

/-! ## Size -/

mutual

/-- How many tokens a token holds, itself included. -/
def weight : Token → Nat
  | group _ content _ => weightAll content + 1
  | _ => 1

/-- How many tokens a stream holds, at all levels. -/
def weightAll : List Token → Nat
  | [] => 0
  | t :: ts => t.weight + weightAll ts

end

@[simp] theorem weightAll_nil : weightAll [] = 0 := by simp [weightAll]

@[simp] theorem weightAll_cons (t : Token) (ts : List Token) :
    weightAll (t :: ts) = t.weight + weightAll ts := by simp [weightAll]

@[simp] theorem weight_group (d : Delimiter) (ts : List Token) (s : Span) :
    (group d ts s).weight = weightAll ts + 1 := by simp [weight]

theorem weight_pos (t : Token) : 0 < t.weight := by
  cases t <;> simp [weight]

@[simp] theorem weightAll_append (as bs : List Token) :
    weightAll (as ++ bs) = weightAll as + weightAll bs := by
  induction as with
  | nil => simp
  | cons a as ih => simp [ih, Nat.add_assoc]

/-! ## Invisible groups around a stream -/

mutual

/-- What a token standing alone in a stream amounts to: an invisible group gives way to its content,
again and again. -/
def peel : Token → List Token
  | group .invisible content _ => peelAll content
  | t => [t]

/-- A stream without the invisible groups wrapped around the whole of it. -/
def peelAll : List Token → List Token
  | [t] => t.peel
  | ts => ts

end

mutual

theorem weightAll_peel_le : ∀ t : Token, weightAll t.peel ≤ t.weight
  | group .invisible content _ => by
    have := weightAll_peelAll_le content
    simp only [peel, weight_group]
    omega
  | group .paren _ _ | group .bracket _ _ | group .brace _ _ | ident _ _ | punct _ _ _
  | literal _ _ => by simp [peel]

theorem weightAll_peelAll_le : ∀ ts : List Token, weightAll (peelAll ts) ≤ weightAll ts
  | [] => by simp [peelAll]
  | [t] => by simpa [peelAll] using weightAll_peel_le t
  | _ :: _ :: _ => by simp [peelAll]

end

end Token

end Variadic
