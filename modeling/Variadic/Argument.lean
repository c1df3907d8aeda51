import Variadic.Issue

/-!
# Arguments

An argument is what stands between two commas of a stream. Arguments are never empty: no tokens at
all are no arguments, a comma at the end is allowed, and a comma with nothing in front is an error.
-/

namespace Variadic

structure Argument where
  first : Token
  more : List Token
deriving Repr

namespace Argument

def tokens (a : Argument) : List Token :=
  a.first :: a.more

/-- An error about an argument points to its first token. -/
def span (a : Argument) : Span :=
  a.first.span

/-- The tokens without the invisible groups that forwarding wrapped around them. Only for looking at
what the argument is: it is passed on as it stands. -/
def peeled (a : Argument) : List Token :=
  Token.peelAll a.tokens

/-- The content and the place of the parentheses, if the argument is one parenthesized group. -/
def parenthesized? (a : Argument) : Option (List Token × Span) :=
  match a.peeled with
  | [.group .paren content s] => some (content, s)
  | _ => none

/-! ## Splitting -/

/-- Adds a token to an argument that is still being read. -/
def extend : Option Argument → Token → Argument
  | none, t => ⟨t, []⟩
  | some a, t => ⟨a.first, a.more ++ [t]⟩

/-- Splits what follows an argument that is still being read. -/
def splitBehind (current : Option Argument) : List Token → Except Issue (List Argument)
  | [] => .ok current.toList
  | t :: ts =>
    if t.isComma then
      match current with
      | none => .error (Issue.error .emptyArgument t.span)
      | some a =>
        match splitBehind none ts with
        | .error e => .error e
        | .ok as => .ok (a :: as)
    else splitBehind (some (extend current t)) ts

/-- The arguments of a stream. -/
def split (ts : List Token) : Except Issue (List Argument) :=
  splitBehind none ts

/-- Streams with a comma between each two. -/
def joinTokens (tss : List (List Token)) : List Token :=
  [Token.mark ','].intercalate tss

def currentWeight (current : Option Argument) : Nat :=
  (current.map fun a => Token.weightAll a.tokens).getD 0

theorem weightAll_extend (current : Option Argument) (t : Token) :
    Token.weightAll (extend current t).tokens = currentWeight current + t.weight := by
  cases current <;> simp [extend, tokens, currentWeight, Nat.add_assoc]

theorem weightAll_le_of_mem_splitBehind {current : Option Argument} {ts : List Token}
    {as : List Argument} {a : Argument} (h : splitBehind current ts = .ok as) (ha : a ∈ as) :
    Token.weightAll a.tokens ≤ currentWeight current + Token.weightAll ts := by
  fun_induction splitBehind current ts generalizing as with
  | case1 current =>
    cases current with
    | none => simp_all
    | some b =>
      obtain rfl : [b] = as := by simpa using h
      obtain rfl := List.mem_singleton.1 ha
      simp [currentWeight]
  | case2 => simp at h
  | case3 => simp at h
  | case4 t ts _ b bs hbs ih =>
    obtain rfl : b :: bs = as := by simpa using h
    rcases List.mem_cons.1 ha with rfl | ha
    · simp only [currentWeight, Option.map_some, Option.getD_some]
      omega
    · have := ih hbs ha
      simp only [currentWeight, Option.map_none, Option.getD_none, Token.weightAll_cons] at *
      omega
  | case5 current t ts _ ih =>
    have := ih h ha
    simp only [currentWeight, Option.map_some, Option.getD_some, weightAll_extend] at this
    simp only [currentWeight, Token.weightAll_cons]
    omega

/-- No argument of a stream holds more tokens than the stream. -/
theorem weightAll_le_of_mem_split {ts : List Token} {as : List Argument} {a : Argument}
    (h : split ts = .ok as) (ha : a ∈ as) : Token.weightAll a.tokens ≤ Token.weightAll ts := by
  simpa [currentWeight] using weightAll_le_of_mem_splitBehind h ha

end Argument

/-- Fails when a macro has more arguments than its ceiling allows, pointing to the first one beyond
it. -/
def Macro.checkCeiling (m : Macro) (args : List Argument) (limits : Limits) : Except Issue Unit :=
  let limit := limits.get m.ceiling
  match args.drop limit with
  | [] => .ok ()
  | excess :: _ => .error (Issue.error (.ceilingExceeded m args.length limit) excess.span)

theorem Macro.checkCeiling_eq_ok_iff {m : Macro} {args : List Argument} {limits : Limits} :
    m.checkCeiling args limits = .ok () ↔ args.length ≤ limits.get m.ceiling := by
  rw [← List.drop_eq_nil_iff, checkCeiling]
  cases args.drop (limits.get m.ceiling) <;> simp

/-- The argument blamed is the one that stands where the ceiling is. -/
theorem Macro.checkCeiling_eq_error_iff {m : Macro} {args : List Argument} {limits : Limits}
    {e : Issue} :
    m.checkCeiling args limits = .error e
      ↔ ∃ excess, args[limits.get m.ceiling]? = some excess
        ∧ e = Issue.error (.ceilingExceeded m args.length (limits.get m.ceiling)) excess.span := by
  rw [← List.head?_drop, checkCeiling]
  cases args.drop (limits.get m.ceiling) <;> simp [eq_comm]

end Variadic
