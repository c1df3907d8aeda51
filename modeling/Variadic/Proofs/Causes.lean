import Variadic.Proofs.Quotation
import Variadic.Proofs.Staging
import Variadic.Proofs.Tracing

/-!
# The causes of a failed negation

What fails in the operand of a negation is the cause of the negation's own failure. In negations
around each other every level adds a note of its own in front (`NestsCall.value_eq_error`), and the
message names all of them in this order (`Issue.message_of_chain`). The call with which the compiler
is made to fail holds this message as a string literal.
-/

namespace Variadic

open Argument Token

/-! ## Chains and their messages -/

/-- What a negation notes about an operand that failed, at the operand's first token. -/
def operandNote (s : Span) : Note :=
  ⟨.error, .operand, some s⟩

/-- The notes of negations differ in their places only. -/
theorem map_fault_operandNote {α : Type} (f : Fault → α) (spans : List Span) :
    (spans.map operandNote).map (fun n => f n.fault)
      = List.replicate spans.length (f .operand) := by
  rw [List.map_map]
  show spans.map (fun _ => f .operand) = _
  exact List.map_const'

/-- An issue with a longer chain is the consequence of the issue behind its first note. -/
theorem Issue.exists_causedBy {i : Issue} {n : Note} {chain : List Note}
    (h : i.chain = n :: chain) (hne : chain ≠ []) :
    ∃ cause : Issue, cause.chain = chain ∧ i = n.causedBy cause := by
  obtain ⟨top, causes, rfl⟩ := List.exists_cons_of_ne_nil hne
  obtain ⟨htop, hcauses⟩ := List.cons.inj h
  refine ⟨⟨top, causes⟩, rfl, ?_⟩
  rw [← htop, Note.causedBy, ← hcauses]

/-- Notes in front of a chain of causes are read in front of its message. -/
theorem Issue.message_of_chain {i e : Issue} {notes : List Note} (h : i.chain = notes ++ e.chain) :
    i.message
      = String.join (notes.map fun n => n.fault.message ++ "\nCaused by: ") ++ e.message := by
  induction notes generalizing i with
  | nil =>
    rw [List.nil_append] at h
    rw [message, h]
    exact String.empty_append.symm
  | cons n notes ih =>
    obtain ⟨cause, hcause, rfl⟩ := exists_causedBy h
      (List.append_ne_nil_of_right_ne_nil notes (List.cons_ne_nil _ _))
    rw [message_causedBy, ih hcause, List.map_cons, String.join_cons]
    simp only [String.append_assoc]

/-! ## Negations around a call -/

/-- `outer` is the input of a negation of a qualified call of a negation, and so on, down to a
qualified call of `m` with `input`. `spans` are the places of the operands, the outermost first: an
operand is where its first token is. There may be invisible groups around an operand, and a comma
behind it. -/
inductive NestsCall (m : Macro) (input : List Token) : List Span → List Token → Prop
  | call {call outer ts : List Token} {t : Token} (hcall : QualifiedCall m input call)
      (hw : Wraps call (t :: ts)) (houter : Listing [t :: ts] outer) :
      NestsCall m input [t.span] outer
  | negation {spans : List Span} {inner call outer ts : List Token} {t : Token}
      (h : NestsCall m input spans inner) (hcall : QualifiedCall .not inner call)
      (hw : Wraps call (t :: ts)) (houter : Listing [t :: ts] outer) :
      NestsCall m input (t.span :: spans) outer

/-- A negation whose only argument is a qualified call comes out as the call's value, negated. -/
theorem value_not_of_listing {m : Macro} {input call outer ts : List Token} {t : Token}
    (hm : m.isNumeric) (hcall : QualifiedCall m input call) (hw : Wraps call (t :: ts))
    (houter : Listing [t :: ts] outer) (limits : Limits) :
    Macro.not.value outer limits = (Operand.call m input).negatedValue t.span limits := by
  have hsplit : Argument.split outer = .ok [⟨t, ts⟩] := Listing.split_eq houter
  have hpeel : Argument.peeled ⟨t, ts⟩ = call := hcall.peelAll_eq hw
  rw [Macro.value_not_of_split limits hsplit, hpeel, hcall.of_eq hm]
  rfl

namespace NestsCall

variable {m : Macro} {input outer : List Token} {spans : List Span} {limits : Limits}

/-- A failure of the innermost call goes through every negation, and each of them adds its note. -/
theorem value_eq_error (hm : m.isNumeric) (h : NestsCall m input spans outer) {e : Issue}
    (he : m.value input limits = .error e) :
    ∃ i, Macro.not.value outer limits = .error i
      ∧ i.chain = spans.map operandNote ++ e.chain := by
  induction h with
  | @call call outer ts t hcall hw houter =>
    refine ⟨(operandNote t.span).causedBy e, ?_, rfl⟩
    rw [value_not_of_listing hm hcall hw houter]
    exact Operand.negatedValue_call_of_error he
  | @negation spans inner call outer ts t _ hcall hw houter ih =>
    obtain ⟨i, hi, hchain⟩ := ih
    refine ⟨(operandNote t.span).causedBy i, ?_, ?_⟩
    · rw [value_not_of_listing rfl hcall hw houter]
      exact Operand.negatedValue_call_of_error hi
    · rw [Issue.chain_causedBy, hchain]
      rfl

/-- A value of the innermost call is negated once for every level. -/
theorem value_eq_ok (hm : m.isNumeric) (h : NestsCall m input spans outer) {v : NumericValue}
    (hv : m.value input limits = .ok v) :
    Macro.not.value outer limits = .ok (NumericValue.negated^[spans.length] v) := by
  induction h with
  | call hcall hw houter =>
    rw [value_not_of_listing hm hcall hw houter]
    exact Operand.negatedValue_call_of_ok hv
  | negation _ hcall hw houter ih =>
    rw [value_not_of_listing rfl hcall hw houter, List.length_cons, Function.iterate_succ_apply']
    exact Operand.negatedValue_call_of_ok ih

theorem exists_spans_eq_cons (h : NestsCall m input spans outer) :
    ∃ s rest, spans = s :: rest := by
  cases h with
  | call => exact ⟨_, _, rfl⟩
  | negation => exact ⟨_, _, rfl⟩

end NestsCall

/-! ## The call that fails with an issue -/

/-- A negation that fails is replaced by a call that fails with the same message. -/
theorem output_of_evaluate_error {m : Macro} {outer : List Token} {env : Environment}
    {limits : Limits} {i : Issue} (hm : m.isNumeric)
    (hlimits : Limits.load env.explain env.files env.dir = .ok limits)
    (h : m.evaluate outer limits = .error i) : (m.expand outer env).output = i.compileError := by
  have houtcome : (m.expand outer env).outcome = .error i := by
    rw [Macro.outcome_expand, hlimits, Macro.fullReport_of_evaluate_error hm h]
  rw [Report.output, houtcome]

/-- **What fails in nested negations is told with all its causes.** Negations around a call fail if
the call does. The chain then has one note for every negation, the outermost first, each at the
first token of its operand, and behind them the chain of the call itself. The message names all of
them in this order, and the compiler is given a single call that fails with this message. -/
theorem nested_negations_keep_causes {m : Macro} {input outer : List Token} {spans : List Span}
    (limits : Limits) (hm : m.isNumeric) (h : NestsCall m input spans outer) :
    ((∃ i, Macro.not.evaluate outer limits = .error i) ↔ ∃ e, m.evaluate input limits = .error e)
      ∧ ∀ e, m.evaluate input limits = .error e →
        ∃ i, Macro.not.evaluate outer limits = .error i
          ∧ i.chain = spans.map (fun s => ⟨.error, .operand, some s⟩) ++ e.chain
          ∧ i.message = "\nCaused by: ".intercalate
            (List.replicate spans.length "not!: failed to evaluate the operand."
              ++ e.chain.map fun note => note.fault.message)
          ∧ i.message = String.join
            (List.replicate spans.length "not!: failed to evaluate the operand.\nCaused by: ")
              ++ e.message
          ∧ ∀ env, Limits.load env.explain env.files env.dir = .ok limits →
            ∃ span text, spans.head? = some span ∧ Text.unquote? text = some i.message
              ∧ (Macro.not.expand outer env).output
                = [.ident "compile_error" span, .punct '!' .alone span,
                  .group .brace [.literal text span] span] := by
  constructor
  · constructor
    · rintro ⟨i, hi⟩
      cases hvalue : m.value input limits with
      | error e => exact ⟨e, evaluate_eq_error_iff.2 hvalue⟩
      | ok v =>
        -- the value would go through all negations
        rw [evaluate_eq_error_iff, h.value_eq_ok hm hvalue] at hi
        cases hi
    · rintro ⟨e, he⟩
      obtain ⟨i, hi, -⟩ := h.value_eq_error hm (evaluate_eq_error_iff.1 he)
      exact ⟨i, evaluate_eq_error_iff.2 hi⟩
  · intro e he
    obtain ⟨i, hi, hchain⟩ := h.value_eq_error hm (evaluate_eq_error_iff.1 he)
    have hmessages : (spans.map operandNote).map (fun n => n.fault.message)
        = List.replicate spans.length "not!: failed to evaluate the operand." :=
      map_fault_operandNote Fault.message spans
    have hfronts : (spans.map operandNote).map (fun n => n.fault.message ++ "\nCaused by: ")
        = List.replicate spans.length "not!: failed to evaluate the operand.\nCaused by: " := by
      have hfront : Fault.operand.message ++ "\nCaused by: "
          = "not!: failed to evaluate the operand.\nCaused by: " := by
        decide
      rw [← hfront]
      exact map_fault_operandNote (fun fault => fault.message ++ "\nCaused by: ") spans
    have hnot : Macro.not.evaluate outer limits = .error i := evaluate_eq_error_iff.2 hi
    refine ⟨i, hnot, hchain, ?_, ?_, ?_⟩
    · rw [Issue.message, joinMessages, hchain, List.map_append, hmessages]
    · rw [Issue.message_of_chain hchain, hfronts]
    · intro env hlimits
      obtain ⟨s, rest, rfl⟩ := h.exists_spans_eq_cons
      have htop : i.top = operandNote s := (List.cons.inj hchain).1
      refine ⟨s, Text.quote i.message, rfl, Text.unquote?_quote i.message, ?_⟩
      rw [output_of_evaluate_error rfl hlimits hnot, Issue.compileError, htop]
      rfl

/-- `not!(va_iter::not!(va_iter::narg!(,)))`: the comma has nothing in front of it. -/
theorem nested_negations_keep_causes_comma :
    let column (n : Nat) : Span := .range ⟨0, 1, n⟩ ⟨0, 1, n + 1⟩
    let input : List Token := [.punct ',' .alone (column 30)]
    let outer := placedCall (column 5) .not (placedCall (column 18) .narg input)
    let env : Environment := { explain := explainLoneKey }
    NestsCall .narg input [column 5, column 18] outer
      ∧ Macro.narg.evaluate input {} = .error (Issue.error .emptyArgument (column 30))
      ∧ ∃ i, Macro.not.evaluate outer {} = .error i
        ∧ i.chain = [operandNote (column 5), operandNote (column 18),
          ⟨.error, .emptyArgument, some (column 30)⟩]
        ∧ i.message = "not!: failed to evaluate the operand.\nCaused by: not!: failed to evaluate "
          ++ "the operand.\nCaused by: Expected an argument before ','."
        ∧ ∃ text, Text.unquote? text = some i.message
          ∧ (Macro.not.expand outer env).output
            = [.ident "compile_error" (column 5), .punct '!' .alone (column 5),
              .group .brace [.literal text (column 5)] (column 5)] := by
  intro column input outer env
  have hnests : NestsCall .narg input [column 5, column 18] outer := by
    obtain ⟨narg, hnarg, hwnarg⟩ := exists_wraps_placedCall (column 18) .narg input
    obtain ⟨not, hnot, hwnot⟩ := exists_wraps_placedCall (column 5) .not
      (placedCall (column 18) .narg input)
    exact .negation (.call hnarg hwnarg (.last (isRun_singleton rfl))) hnot hwnot
      (.last (isRun_singleton rfl))
  have hfails : Macro.narg.evaluate input {}
      = .error (Issue.error .emptyArgument (column 30)) := by
    rw [Macro.evaluate, Macro.value]
    rfl
  obtain ⟨i, hi, hchain, hmessage, -, houtput⟩ :=
    (nested_negations_keep_causes {} rfl hnests).2 _ hfails
  obtain ⟨span, text, hspan, htext, hcall⟩ := houtput env rfl
  obtain rfl : column 5 = span := Option.some.inj hspan
  refine ⟨hnests, hfails, i, hi, hchain, ?_, text, htext, hcall⟩
  rw [hmessage]
  decide

end Variadic
