import Variadic.Argument
import Variadic.Numeral

/-!
# Numbers from arguments

Counting, the emptiness tests, and negation. A negation sees through literals and through calls of
the numeric macros that name their crate; any other operand may mean anything to the compiler, which
is left to test it.
-/

namespace Variadic

/-- A number, or an expression that the compiler evaluates to one. -/
inductive NumericValue where
  | number (n : Nat)
  | deferred (expression : List Token)
deriving Repr

namespace NumericValue

def ofBool (b : Bool) : NumericValue :=
  number (if b then 1 else 0)

def tokens : NumericValue → List Token
  | number n => [Token.number n]
  | deferred expression => expression

/-- An expression which is 1 if another one is 0, and else 0. -/
def negation (expression : List Token) : List Token :=
  [.group .paren
    [.ident "if" .callSite, .group .paren expression .callSite,
      .punct '=' .joint .callSite, .mark '=', .number 0,
      .group .brace [.number 1] .callSite,
      .ident "else" .callSite, .group .brace [.number 0] .callSite]
    .callSite]

/-- 1 for zero, 0 for any other number. -/
def negated : NumericValue → NumericValue
  | number n => ofBool (n = 0)
  | deferred expression => deferred (negation expression)

end NumericValue

/-! ## Operands -/

/-- What a negation is applied to. -/
inductive Operand where
  | literal (text : String)
  | call (m : Macro) (input : List Token)
  | expression (tokens : List Token)
deriving Repr

namespace Operand

/-- The qualifiers under which the numeric macros are known. Without one, a name may stand for any
macro where the call is made. -/
def qualifiers : List String := ["va_iter", "va_iter_internal"]

/-- The macro that the names in a call stand for: a qualifier, and the name of a numeric macro. -/
def callee? : List String → Option Macro
  | [qualifier, name] => if qualifier ∈ qualifiers then Macro.numeric? name else none
  | _ => none

/-- Reads a call of a numeric macro, given the names in front: names and colons, an exclamation mark
and a group. -/
def callBehind? (names : List String) : List Token → Option (Macro × List Token)
  | [.punct '!' _ _, .group _ content _] => (callee? names).map (·, content)
  | .ident name _ :: ts => callBehind? (names ++ [name]) ts
  | .punct ':' _ _ :: ts => callBehind? names ts
  | _ => none

def of (ts : List Token) : Operand :=
  match ts with
  | [.literal text _] => literal text
  | ts =>
    match callBehind? [] ts with
    | some (m, input) => call m input
    | none => expression ts

theorem weightAll_lt_of_callBehind? {names : List String} {ts : List Token} {m : Macro}
    {content : List Token} (h : callBehind? names ts = some (m, content)) :
    Token.weightAll content < Token.weightAll ts := by
  fun_induction callBehind? names ts with
  | case1 names _ _ d content' s =>
    obtain ⟨_, _, he⟩ := Option.map_eq_some_iff.1 h
    simp only [Prod.mk.injEq] at he
    simp only [Token.weightAll_cons, Token.weight_group, he.2]
    omega
  | case2 names name s ts ih =>
    have := ih h
    simp only [Token.weightAll_cons]
    omega
  | case3 names spacing s ts ih =>
    have := ih h
    simp only [Token.weightAll_cons]
    omega
  | case4 => simp at h

theorem weightAll_lt_of_call {ts : List Token} {m : Macro} {input : List Token}
    (h : of ts = call m input) : Token.weightAll input < Token.weightAll ts := by
  unfold of at h
  split at h
  · simp at h
  · split at h
    · next hc =>
      simp only [call.injEq] at h
      obtain ⟨rfl, rfl⟩ := h
      exact weightAll_lt_of_callBehind? hc
    · simp at h

/-- A call in the operand of a negation is smaller than the negation's input. -/
theorem weightAll_lt_of_split {input : List Token} {a : Argument} {m : Macro} {content : List Token}
    (hs : Argument.split input = .ok [a]) (ho : of a.peeled = call m content) :
    Token.weightAll content < Token.weightAll input := by
  have h1 := Argument.weightAll_le_of_mem_split hs (List.mem_singleton.2 rfl)
  have h2 := Token.weightAll_peelAll_le a.tokens
  have h3 := weightAll_lt_of_call ho
  simp only [Argument.peeled] at h3
  omega

end Operand

/-- Whether a literal is an integer of value 0. -/
def isZeroLiteral (text : String) : Bool :=
  (Numeral.ofText? text.toList).any (·.value = 0)

/-! ## Evaluation -/

namespace Macro

/-- What a macro other than the negation makes of its arguments. -/
def tally (m : Macro) (args : List Argument) : Except Issue NumericValue :=
  match m with
  | narg => .ok (.number args.length)
  | isEmpty => .ok (.ofBool args.isEmpty)
  | notEmpty => .ok (.ofBool !args.isEmpty)
  | m => .error (Issue.general (.noNumber m))

/-- The value of a numeric macro. A negation takes exactly one argument, and the calls in its
operand are evaluated first. -/
def value (m : Macro) (input : List Token) (limits : Limits) : Except Issue NumericValue :=
  match hs : Argument.split input with
  | .error e => .error e
  | .ok args =>
    if m = .not then
      match args with
      | [a] =>
        match ho : Operand.of a.peeled with
        | .literal text => .ok (.ofBool (isZeroLiteral text))
        | .call inner content =>
          have := Operand.weightAll_lt_of_split hs ho
          match inner.value content limits with
          | .error cause => .error (Note.causedBy ⟨.error, .operand, some a.span⟩ cause)
          | .ok v => .ok v.negated
        | .expression ts => .ok (.deferred (NumericValue.negation ts))
      | args => .error (Issue.general (.notOneValue args.length))
    else
      match m.checkCeiling args limits with
      | .error e => .error e
      | .ok () => m.tally args
termination_by Token.weightAll input

end Macro

end Variadic
