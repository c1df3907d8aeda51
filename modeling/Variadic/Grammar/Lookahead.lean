import Variadic.Numeral
import Variadic.Token.Seen

/-!
# What a stream begins with

The readers of phrases look at up to three tokens before they decide. They see through invisible
groups; only where a whole type or expression was forwarded does the group itself matter
(`forwarded?`).
-/

namespace Variadic.Lookahead

open Token

/-! ## Words -/

/-- Words that name no item. -/
def keywords : List String :=
  ["_", "abstract", "as", "async", "await", "become", "box", "break", "const", "continue", "crate",
    "do", "dyn", "else", "enum", "extern", "false", "final", "fn", "for", "if", "impl", "in", "let",
    "loop", "macro", "match", "mod", "move", "mut", "override", "priv", "pub", "ref", "return",
    "Self", "self", "static", "struct", "super", "trait", "true", "try", "type", "typeof", "unsafe",
    "unsized", "use", "virtual", "where", "while", "yield"]

/-- The word at the front, a keyword or not. -/
def word? (ts : List Token) : Option String :=
  match front? ts with
  | some (.ident w _, _) => some w
  | _ => none

def isAnyWord (ts : List Token) : Bool :=
  (word? ts).isSome

def isWord (w : String) (ts : List Token) : Bool :=
  word? ts == some w

def isOneOf (ws : List String) (ts : List Token) : Bool :=
  (word? ts).any (· ∈ ws)

/-- Whether an identifier stands at the front, which is no keyword. -/
def isName (ts : List Token) : Bool :=
  (word? ts).any (· ∉ keywords)

/-! ## Signs -/

/-- The punctuation at the front. An apostrophe is none, being part of a lifetime. -/
def punct? (ts : List Token) : Option (Char × Spacing × Span × Rest ts) :=
  match front? ts with
  | some (.punct c spacing s, rest) => if c = '\'' then none else some (c, spacing, s, rest)
  | _ => none

/-- The stream behind a sign, whose characters are joint to each other. -/
def behindSign? : List Char → (ts : List Token) → Option (Rest ts)
  | [], _ => none
  | [c], ts =>
    match punct? ts with
    | some (d, _, _, rest) => if d = c then some rest else none
    | none => none
  | c :: cs, ts =>
    match punct? ts with
    | some (d, .joint, _, rest) =>
      if d = c then (behindSign? cs rest.1).map rest.further else none
    | _ => none

def isSign (sign : String) (ts : List Token) : Bool :=
  (behindSign? sign.toList ts).isSome

/-- Whether one of some signs stands at the front. -/
def isAnySign (signs : List String) (ts : List Token) : Bool :=
  signs.any (isSign · ts)

/-- The place of a sign of so many characters. -/
def signSpan? : Nat → List Token → Option Span
  | 0, _ => none
  | length + 1, ts =>
    match punct? ts with
    | some (_, _, s, rest) => some ((signSpan? length rest.1).elim s s.join)
    | none => none

/-! ## Lifetimes and literals -/

/-- The lifetime at the front: its apostrophe and its name. -/
def lifetime? (ts : List Token) : Option (List Token × Rest ts) :=
  match front? ts with
  | some (.punct '\'' .joint s, rest) =>
    match front? rest.1 with
    | some (.ident name s', rest') =>
      some ([.punct '\'' .joint s, .ident name s'], rest.further rest')
    | _ => none
  | _ => none

def isLifetime (ts : List Token) : Bool :=
  (lifetime? ts).isSome

/-- Whether a literal is a number. -/
def isNumber (text : String) : Bool :=
  text.toList.head?.any Char.isDigit

/-- The literal at the front. A truth value is one, and a number with a minus in front. -/
def literal? (ts : List Token) : Option (List Token × Rest ts) :=
  match front? ts with
  | some (.literal text s, rest) => some ([.literal text s], rest)
  | some (.ident w s, rest) =>
    if w = "true" ∨ w = "false" then some ([.ident w s], rest) else none
  | some (.punct '-' _ _, rest) =>
    match front? rest.1 with
    | some (.literal text s, rest') =>
      if isNumber text then some ([.mark '-', .literal text s], rest.further rest') else none
    | _ => none
  | _ => none

def isLiteral (ts : List Token) : Bool :=
  (literal? ts).isSome

/-- The text of the literal at the front that is a single token. -/
def literalText? (ts : List Token) : Option String :=
  match front? ts with
  | some (.literal text _, _) => some text
  | _ => none

/-- Whether a string of characters stands at the front. -/
def isText (ts : List Token) : Bool :=
  (literalText? ts).any fun text => text.toList.head?.any fun c => c = '"' || c = 'r'

def isInteger (ts : List Token) : Bool :=
  (literalText? ts).any fun text => (Numeral.ofText? text.toList).isSome

/-- Whether a number with a point or an exponent stands at the front. -/
def isFloat (ts : List Token) : Bool :=
  (literalText? ts).any fun text => isNumber text && (Numeral.ofText? text.toList).isNone

/-! ## Groups -/

/-- The group at the front. -/
def group? (d : Delimiter) (ts : List Token) : Option (List Token × Span × Rest ts) :=
  match front? ts with
  | some (.group d' content s, rest) => if d' = d then some (content, s, rest) else none
  | _ => none

def isGroup (d : Delimiter) (ts : List Token) : Bool :=
  (group? d ts).isSome

/-- The invisible group at the front. -/
def forwarded? : (ts : List Token) → Option (List Token × Span × Rest ts)
  | .group .invisible content s :: rest => some (content, s, ⟨rest, .cons _ _⟩)
  | _ => none

def isForwarded (ts : List Token) : Bool :=
  (forwarded? ts).isSome

/-! ## Further on -/

/-- The stream behind its first token, a lifetime counting as one. -/
def behindOne (ts : List Token) : List Token :=
  match front? ts with
  | some (.punct '\'' .joint _, rest) =>
    match rest.1 with
    | .ident _ _ :: rest => rest
    | rest => rest
  | some (_, rest) => rest.1
  | none => []

def behindTwo (ts : List Token) : List Token :=
  behindOne (behindOne ts)

end Variadic.Lookahead
