import Variadic.Grammar.Fault
import Variadic.Grammar.Lookahead

/-!
# Readers of phrases

A reader takes a phrase off the front of a stream and gives it back in its written form: signs are
made anew with one spacing, so a phrase is written alike however it was spaced. A reader only goes
forward, as its type says. What follows a phrase inside a group is an error too, but one that yields
to all others: it is kept aside until the end (`Input.leftOver`).
-/

namespace Variadic.Grammar

open Lookahead

/-- What is left to read. -/
structure Input where
  tokens : List Token
  /-- Where an error behind the last token points to. -/
  ending : Span
  /-- The first error about a token left over in a group. -/
  leftOver : Option SyntaxError
deriving Repr

namespace Input

/-- An input further on. -/
abbrev Rest (i : Input) := { j : Input // Token.Follows j.tokens i.tokens }

/-- The place of what comes next. A group is blamed at its opening delimiter. -/
def place (i : Input) : Span :=
  match i.tokens with
  | [] => i.ending
  | t :: _ => t.startSpan

mutual

/-- The error about a token that is left over, or about the first one in it that is seen. -/
def unreadOf? (scope : Delimiter) : Token → Option SyntaxError
  | .group .invisible content _ => firstUnread? .invisible content
  | t => some ⟨.leftOver scope, t.span⟩

/-- The error about the first token that is left over in a group of the given kind. -/
def firstUnread? (scope : Delimiter) : List Token → Option SyntaxError
  | [] => none
  | t :: ts => (unreadOf? scope t).or (firstUnread? scope ts)

end

/-- What is wrong when nothing more will be read in a group of the given kind. -/
def unread? (scope : Delimiter) (i : Input) : Option SyntaxError :=
  i.leftOver.or (firstUnread? scope i.tokens)

end Input

def Reader (α : Type) : Type :=
  (i : Input) → Except SyntaxError (α × i.Rest)

namespace Reader

instance : Monad Reader where
  pure a := fun i => .ok (a, ⟨i, .refl _⟩)
  bind r f := fun i =>
    match r i with
    | .error e => .error e
    | .ok (a, ⟨j, h⟩) =>
      match f a j with
      | .error e => .error e
      | .ok (b, ⟨k, h'⟩) => .ok (b, ⟨k, h'.trans h⟩)

/-! ## Errors -/

/-- Fails at a place. -/
def failAt {α : Type} (span : Span) (fault : SyntaxFault) : Reader α :=
  fun _ => .error ⟨fault, span⟩

/-- Fails at what comes next. -/
def fail {α : Type} (fault : SyntaxFault) : Reader α :=
  fun i => .error ⟨if i.tokens.isEmpty then .atEnd fault else fault, i.place⟩

/-- Fails because none of these comes next. -/
def missing {α : Type} (wanted : List String) : Reader α :=
  fail (.expected wanted)

def quoted (text : String) : String :=
  "`" ++ text ++ "`"

/-! ## Looking ahead -/

/-- The tokens to come. -/
def ahead : Reader (List Token) :=
  fun i => .ok (i.tokens, ⟨i, .refl _⟩)

def place : Reader Span :=
  fun i => .ok (i.place, ⟨i, .refl _⟩)

def atEnd : Reader Bool := do
  return (← ahead).isEmpty

def next (p : List Token → Bool) : Reader Bool := do
  return p (← ahead)

/-- Reads something without taking it off the stream; none if it is not there. -/
def peek {α : Type} (r : Reader α) : Reader (Option α) :=
  fun i =>
    match r i with
    | .ok (a, _) => .ok (some a, ⟨i, .refl _⟩)
    | .error _ => .ok (none, ⟨i, .refl _⟩)

/-- Takes off the stream what is found at its front. -/
def take? {α : Type} (find : (ts : List Token) → Option (α × Token.Rest ts)) : Reader (Option α) :=
  fun i =>
    match find i.tokens with
    | some (a, ⟨rest, h⟩) => .ok (some a, ⟨{ i with tokens := rest }, h⟩)
    | none => .ok (none, ⟨i, .refl _⟩)

/-! ## Sequences and choices -/

/-- Reads one phrase after the other. -/
def inOrder : List (Reader (List Token)) → Reader (List Token)
  | [] => pure []
  | r :: rs => do return (← r) ++ (← inOrder rs)

/-- Reads a phrase if the stream begins as it does. -/
def ifNext (p : List Token → Bool) (r : Reader (List Token)) : Reader (List Token) := do
  if ← next p then r else pure []

/-! ## Signs and words -/

/-- A sign as it is written: its characters joint to each other, and to nothing behind. -/
def signTokens (sign : String) : List Token :=
  sign.toList.dropLast.map (.punct · .joint .callSite)
    ++ (sign.toList.getLast?.map Token.mark).toList

/-- Reads a sign. Where another one stands, it is blamed itself. -/
def sign (s : String) : Reader (List Token) := do
  let ts ← ahead
  match ← take? fun ts => (behindSign? s.toList ts).map ((), ·) with
  | some _ => return signTokens s
  | none => failAt ((signSpan? 1 ts).getD (← place)) (.expected [quoted s])

/-- Reads a sign if it is there. -/
def optionalSign (s : String) : Reader (List Token) :=
  ifNext (isSign s) (sign s)

/-- Reads any word. -/
def anyWord : Reader Token := do
  if ← next isAnyWord then
    match ← take? Token.front? with
    | some w => return w
    | none => missing ["identifier"]
  else missing ["identifier"]

/-- Reads one particular word. -/
def word (w : String) : Reader (List Token) := do
  if ← next (isWord w) then return [← anyWord] else missing [quoted w]

/-- Reads a word if it is there. -/
def optionalWord (w : String) : Reader (List Token) :=
  ifNext (isWord w) (word w)

/-- Reads an identifier, which is no keyword. -/
def identifier : Reader Token := do
  match word? (← ahead) with
  | some w => if w ∈ keywords then fail (.keyword w) else anyWord
  | none => missing ["identifier"]

def name : Reader (List Token) :=
  ([·]) <$> identifier

/-! ## Lifetimes and literals -/

def lifetime : Reader (List Token) := do
  match ← take? lifetime? with
  | some tokens => return tokens
  | none => missing ["lifetime"]

/-- Reads a lifetime if it is there. -/
def optionalLifetime : Reader (List Token) :=
  ifNext isLifetime lifetime

def literal : Reader (List Token) := do
  match ← take? literal? with
  | some tokens => return tokens
  | none => missing ["literal"]

/-! ## Groups -/

def delimiterName : Delimiter → String
  | .paren => "parentheses"
  | .bracket => "square brackets"
  | .brace => "curly braces"
  | .invisible => "invisible group"

/-- Reads the content of a group, taking note of what is left over in it. -/
def content {α : Type} (d : Delimiter) (inner : List Token) (span : Span) (body : Reader α) :
    Reader α :=
  fun i =>
    match body ⟨inner, span.closing, i.leftOver⟩ with
    | .error e => .error e
    | .ok (a, ⟨j, _⟩) => .ok (a, ⟨{ i with leftOver := j.unread? d }, .refl _⟩)

/-- Reads a group and its content; gives its span too. -/
def groupOf {α : Type} (d : Delimiter) (body : Reader α) : Reader (α × Span) := do
  let find (ts : List Token) := (if d = .invisible then forwarded? ts else group? d ts).map
    fun (inner, span, rest) => ((inner, span), rest)
  match ← take? find with
  | some (inner, span) => return (← content d inner span body, span)
  | none => missing [delimiterName d]

/-- Reads a group, whose content is a phrase. -/
def group (d : Delimiter) (body : Reader (List Token)) : Reader (List Token) := do
  let (tokens, span) ← groupOf d body
  return [.group d tokens span]

/-- Reads a group of one kind that may hold anything. -/
def groupAsIs (d : Delimiter) : Reader (List Token) := do
  match ← take? fun ts => (group? d ts).map fun (inner, span, rest) => ((inner, span), rest) with
  | some (inner, span) => return [.group d inner span]
  | none => missing [delimiterName d]

/-- The group at the front, which is no invisible one. -/
private def delimited? : (ts : List Token) → Option (Token × Token.Rest ts)
  | .group d inner span :: rest =>
    if d = .invisible then none else some (.group d inner span, ⟨rest, .cons _ _⟩)
  | _ => none

/-- Reads a group that may hold anything, as behind the name of a macro. -/
def anyGroup : Reader (List Token) := do
  match ← take? delimited? with
  | some t => return [t]
  | none => missing ["delimiter"]

/-! ## Repetition -/

/-- Reads items as long as there are any; at most `bound` of them. -/
def manyWithin {α : Type} (item : Reader (Option α)) : Nat → Reader (List α)
  | 0 => pure []
  | bound + 1 => do
    match ← item with
    | none => pure []
    | some a => (a :: ·) <$> manyWithin item bound

/-- Reads items, each of which takes up a token at least, as long as there are any. -/
def many {α : Type} (item : Reader (Option α)) : Reader (List α) := do
  manyWithin item (Token.weightAll (← ahead) + 1)

/-- Reads items as long as the last one tells that another follows; at most `bound` of them. -/
def chainWithin {α : Type} (item : Reader (α × Bool)) : Nat → Reader (List α)
  | 0 => pure []
  | bound + 1 => do
    let (a, goesOn) ← item
    if goesOn then (a :: ·) <$> chainWithin item bound else return [a]

/-- Reads items, each of which takes up a token at least, as long as the last one tells that another
follows. -/
def chain {α : Type} (item : Reader (α × Bool)) : Reader (List α) := do
  chainWithin item (Token.weightAll (← ahead) + 1)

/-- Reads one phrase after the other as long as the stream begins as they do. -/
def whileNext (p : List Token → Bool) (r : Reader (List Token)) : Reader (List Token) :=
  List.flatten <$> many do
    if ← next p then some <$> r else return none

/-- An item of a list, and whether a separator follows it. -/
structure Listed (α : Type) where
  item : α
  isFollowed : Bool
deriving Repr

/-- Writes a list. -/
def Listed.tokensOf {α : Type} (separator : String) (write : α → List Token)
    (items : List (Listed α)) : List Token :=
  items.flatMap fun l => write l.item ++ if l.isFollowed then signTokens separator else []

/-- Reads a list up to something that may close it. -/
def listed {α : Type} (separator : String) (closes : List Token → Bool) (item : Reader α) :
    Reader (List (Listed α)) :=
  many do
    if ← next closes then return none
    let a ← item
    if ← next closes then return some ⟨a, false⟩
    let _ ← sign separator
    return some ⟨a, true⟩

/-- Reads phrases up to the end, with separators between them and perhaps one behind the last. -/
def separated (separator : String) (item : Reader (List Token)) : Reader (List Token) :=
  Listed.tokensOf separator id <$> listed separator List.isEmpty item

/-! ## Tokens as they stand -/

/-- The tokens of a stream in front of one of its rests, spaced as they were. A group that the rest
begins in must be an invisible one, and is dropped. -/
def between (ts rest : List Token) : List Token :=
  if Token.weightAll ts ≤ Token.weightAll rest then []
  else
    match ts with
    | [] => []
    | .group .invisible content s :: tail =>
      if Token.weightAll tail < Token.weightAll rest then between (content ++ tail) rest
      else .group .invisible content s :: between tail rest
    | t :: tail => t :: between tail rest
termination_by Token.weightAll ts
decreasing_by all_goals simp [Token.weight_pos]

end Reader

end Variadic.Grammar
