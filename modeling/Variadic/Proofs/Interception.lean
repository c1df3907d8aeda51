import Variadic.Proofs.Staging

/-!
# Operands that are taken for calls

A negation evaluates its operand if it takes it for a call of a numeric macro. What it takes for one
is more than what the compiler does: `Names` collects the names in front of the exclamation mark and
passes over colons wherever they stand, so that a call needs its qualifier and its name, but no
separator between them (`SpelledCall`). `callBehind?_nil_eq_some_iff` says that this is all that is
asked for; the calls among these that are calls to the compiler are those whose colons and group are
in order (`InOrder`).
-/

namespace Variadic

open Argument Token

/-! ## Names among colons -/

/-- Colons, any number of them, in any spacing. -/
def IsColons (ts : List Token) : Prop :=
  ∀ t ∈ ts, ∃ spacing s, t = .punct ':' spacing s

/-- The stream holds these names in this order, and besides them nothing but colons. -/
inductive Names : List String → List Token → Prop
  | nil : Names [] []
  | colon {names : List String} {ts : List Token} (spacing : Spacing) (s : Span)
      (h : Names names ts) : Names names (.punct ':' spacing s :: ts)
  | name {names : List String} {ts : List Token} (name : String) (s : Span) (h : Names names ts) :
      Names (name :: names) (.ident name s :: ts)

theorem isColons_nil : IsColons [] := by
  intro t ht
  exact absurd ht List.not_mem_nil

theorem IsColons.cons {ts : List Token} (h : IsColons ts) (spacing : Spacing) (s : Span) :
    IsColons (.punct ':' spacing s :: ts) := by
  intro t ht
  rcases List.mem_cons.1 ht with heq | ht
  · exact ⟨spacing, s, heq⟩
  · exact h t ht

/-- A separator consists of colons, so that a well-formed call is spelled like one. -/
theorem IsSeparator.isColons {ts : List Token} (h : IsSeparator ts) : IsColons ts := by
  obtain ⟨s, spacing, s', rfl⟩ := h
  exact (isColons_nil.cons spacing s').cons .joint s

theorem IsColons.not_comma {ts : List Token} (h : IsColons ts) : ∀ t ∈ ts, t.isComma = false := by
  intro t ht
  obtain ⟨spacing, s, rfl⟩ := h t ht
  rfl

theorem IsColons.of_cons {t : Token} {ts : List Token} (h : IsColons (t :: ts)) : IsColons ts :=
  fun u hu => h u (List.mem_cons_of_mem _ hu)

/-- Colons can be told apart from names, which is what makes a spelling unique. -/
theorem IsColons.head_ne_ident {t : Token} {ts : List Token} (h : IsColons (t :: ts))
    (name : String) (s : Span) : t ≠ .ident name s := by
  obtain ⟨spacing, s', rfl⟩ := h t List.mem_cons_self
  exact Token.noConfusion

/-- The first name ends the colons in front of it. -/
theorem IsColons.append_ident_inj {as bs xs ys : List Token} {name name' : String} {s s' : Span}
    (ha : IsColons as) (hb : IsColons bs)
    (h : as ++ .ident name s :: xs = bs ++ .ident name' s' :: ys) : as = bs ∧ xs = ys := by
  induction as generalizing bs with
  | nil =>
    cases bs with
    | nil => exact ⟨rfl, (List.cons.inj h).2⟩
    | cons b bs => exact absurd (List.cons.inj h).1.symm (hb.head_ne_ident name s)
  | cons a as ih =>
    cases bs with
    | nil => exact absurd (List.cons.inj h).1 (ha.head_ne_ident name' s')
    | cons b bs =>
      obtain ⟨hab, hrest⟩ := List.cons.inj h
      obtain ⟨has, hxs⟩ := ih ha.of_cons hb.of_cons hrest
      exact ⟨by rw [hab, has], hxs⟩

/-- Colons in front of a stream add no names to it. -/
theorem IsColons.names_append {colons ts : List Token} {names : List String}
    (hcolons : IsColons colons) (h : Names names ts) : Names names (colons ++ ts) := by
  induction colons with
  | nil => exact h
  | cons t colons ih =>
    obtain ⟨spacing, s, rfl⟩ := hcolons t List.mem_cons_self
    exact .colon spacing s (ih hcolons.of_cons)

/-- Without names there are colons only. -/
theorem names_nil_iff {ts : List Token} : Names [] ts ↔ IsColons ts := by
  constructor
  · intro h
    generalize hnames : ([] : List String) = names at h
    induction h with
    | nil => exact isColons_nil
    | colon spacing s _ ih => exact (ih hnames).cons spacing s
    | name => exact absurd hnames.symm (List.cons_ne_nil _ _)
  · intro h
    have happ := h.names_append .nil
    rwa [List.append_nil] at happ

/-- The first name of a stream stands behind colons. -/
theorem names_cons_iff {name : String} {names : List String} {ts : List Token} :
    Names (name :: names) ts
      ↔ ∃ colons s rest, IsColons colons ∧ Names names rest
        ∧ ts = colons ++ .ident name s :: rest := by
  constructor
  · intro h
    generalize hall : name :: names = all at h
    induction h with
    | nil => exact absurd hall (List.cons_ne_nil _ _)
    | colon spacing s _ ih =>
      obtain ⟨colons, s', rest, hcolons, hrest, rfl⟩ := ih hall
      exact ⟨_, s', rest, hcolons.cons spacing s, hrest, rfl⟩
    | name _ s hrest =>
      obtain ⟨rfl, rfl⟩ := List.cons.inj hall
      exact ⟨[], s, _, isColons_nil, hrest, rfl⟩
  · rintro ⟨colons, s, rest, hcolons, hrest, rfl⟩
    exact hcolons.names_append (.name name s hrest)

/-! ## Calls by their spelling -/

/-- `ts` is spelled like a call of `m`: colons, a qualifier, colons, the macro's name, colons, an
exclamation mark, and a group of any kind that holds the input. There may be any number of colons at
each of the three places, and none too. -/
inductive SpelledCall (m : Macro) (input before between behind : List Token) (d : Delimiter) :
    List Token → Prop
  | intro (qualifier : String) (hbefore : IsColons before) (hq : qualifier ∈ Operand.qualifiers)
      (hbetween : IsColons between) (hbehind : IsColons behind) (s₁ s₂ s₃ s₄ : Span)
      (spacing : Spacing) :
      SpelledCall m input before between behind d
        (before ++ .ident qualifier s₁ :: (between ++ .ident m.name s₂
          :: (behind ++ [.punct '!' spacing s₃, .group d input s₄])))

/-- The colons of a call are in order: separators, one between its names and perhaps one in front.
-/
structure InOrder (before between behind : List Token) (d : Delimiter) : Prop where
  before : before = [] ∨ IsSeparator before
  between : IsSeparator between
  behind : behind = []
  visible : d ≠ .invisible

/-- The numeric macros are known by their names. -/
theorem Macro.numeric?_eq_some_iff {name : String} {m : Macro} :
    numeric? name = some m ↔ m.isNumeric ∧ name = m.name := by
  constructor
  · intro h
    have hname := List.find?_some h
    exact ⟨isNumeric_of_numeric? h, (of_decide_eq_true hname).symm⟩
  · rintro ⟨hm, rfl⟩
    exact numeric?_name hm

namespace Operand

/-- The names in a call are a qualifier and the name of a numeric macro. -/
theorem callee?_eq_some_iff {names : List String} {m : Macro} :
    callee? names = some m
      ↔ m.isNumeric ∧ ∃ qualifier ∈ qualifiers, names = [qualifier, m.name] := by
  constructor
  · intro h
    unfold callee? at h
    split at h
    · next qualifier name =>
      split at h
      · next hq =>
        obtain ⟨hm, rfl⟩ := Macro.numeric?_eq_some_iff.1 h
        exact ⟨hm, qualifier, hq, rfl⟩
      · cases h
    · cases h
  · rintro ⟨hm, qualifier, hq, rfl⟩
    rw [callee?, if_pos hq, Macro.numeric?_name hm]

/-- What may follow the names read so far: more names, and then the mark and the group. -/
theorem callBehind?_eq_some_iff {names : List String} {ts input : List Token} {m : Macro} :
    callBehind? names ts = some (m, input)
      ↔ ∃ more front spacing s d s', Names more front ∧ callee? (names ++ more) = some m
        ∧ ts = front ++ [.punct '!' spacing s, .group d input s'] := by
  constructor
  · intro h
    fun_induction callBehind? names ts with
    | case1 names spacing s d content s' =>
      obtain ⟨callee, hcallee, heq⟩ := Option.map_eq_some_iff.1 h
      obtain ⟨rfl, rfl⟩ := Prod.mk.inj heq
      refine ⟨[], [], spacing, s, d, s', .nil, ?_, rfl⟩
      rwa [List.append_nil]
    | case2 names name s ts ih =>
      obtain ⟨more, front, spacing, s₁, d, s₂, hnames, hcallee, rfl⟩ := ih h
      refine ⟨name :: more, .ident name s :: front, spacing, s₁, d, s₂, hnames.name name s, ?_, rfl⟩
      rwa [List.append_assoc, List.singleton_append] at hcallee
    | case3 names spacing' s ts ih =>
      obtain ⟨more, front, spacing, s₁, d, s₂, hnames, hcallee, rfl⟩ := ih h
      exact ⟨more, .punct ':' spacing' s :: front, spacing, s₁, d, s₂, hnames.colon spacing' s,
        hcallee, rfl⟩
    | case4 => cases h
  · rintro ⟨more, front, spacing, s, d, s', hnames, hcallee, rfl⟩
    induction hnames generalizing names with
    | nil =>
      rw [List.append_nil] at hcallee
      rw [List.nil_append, callBehind?, hcallee]
      rfl
    | colon spacing' s₁ _ ih =>
      rw [List.cons_append, callBehind?]
      exact ih hcallee
    | name name s₁ _ ih =>
      rw [List.cons_append, callBehind?]
      apply ih
      rwa [List.append_assoc, List.singleton_append]

/-- An operand is taken for a call if it is spelled like one. -/
theorem callBehind?_nil_eq_some_iff {ts input : List Token} {m : Macro} :
    callBehind? [] ts = some (m, input)
      ↔ m.isNumeric
        ∧ ∃ before between behind d, SpelledCall m input before between behind d ts := by
  rw [callBehind?_eq_some_iff]
  constructor
  · rintro ⟨more, front, spacing, s₃, d, s₄, hnames, hcallee, rfl⟩
    obtain ⟨hm, qualifier, hq, hmore⟩ := callee?_eq_some_iff.1 hcallee
    rw [List.nil_append] at hmore
    rw [hmore, names_cons_iff] at hnames
    obtain ⟨before, s₁, rest, hbefore, hname, rfl⟩ := hnames
    obtain ⟨between, s₂, behind, hbetween, hnone, rfl⟩ := names_cons_iff.1 hname
    have hbehind : IsColons behind := names_nil_iff.1 hnone
    refine ⟨hm, before, between, behind, d, ?_⟩
    simp only [List.append_assoc, List.cons_append]
    exact .intro qualifier hbefore hq hbetween hbehind s₁ s₂ s₃ s₄ spacing
  · rintro ⟨hm, before, between, behind, d, qualifier, hbefore, hq, hbetween, hbehind, s₁, s₂, s₃,
      s₄, spacing⟩
    have hname : Names [m.name] (between ++ .ident m.name s₂ :: behind) :=
      names_cons_iff.2 ⟨between, s₂, behind, hbetween, names_nil_iff.2 hbehind, rfl⟩
    have hnames : Names [qualifier, m.name]
        (before ++ .ident qualifier s₁ :: (between ++ .ident m.name s₂ :: behind)) :=
      names_cons_iff.2 ⟨before, s₁, _, hbefore, hname, rfl⟩
    refine ⟨_, _, spacing, s₃, d, s₄, hnames, callee?_eq_some_iff.2 ⟨hm, qualifier, hq, rfl⟩, ?_⟩
    simp only [List.append_assoc, List.cons_append]

end Operand

namespace SpelledCall

variable {m m' : Macro} {input input' before between behind ts : List Token} {d : Delimiter}

/-- A call has no invisible group around it, as it is more than one token. -/
theorem isBare (h : SpelledCall m input before between behind d ts) : IsBare ts := by
  obtain ⟨qualifier, -, -, -, -, s₁, s₂, s₃, s₄, spacing⟩ := h
  intro content span heq
  have hlen := congrArg List.length heq
  simp only [List.length_append, List.length_cons, List.length_nil] at hlen
  omega

theorem isRun (h : SpelledCall m input before between behind d ts) : IsRun ts := by
  obtain ⟨qualifier, hbefore, -, hbetween, hbehind, s₁, s₂, s₃, s₄, spacing⟩ := h
  refine ⟨by simp, ?_⟩
  intro t ht
  simp only [List.mem_append, List.mem_cons, List.not_mem_nil, or_false] at ht
  rcases ht with ht | rfl | ht | rfl | ht | rfl | rfl
  · exact hbefore.not_comma t ht
  · rfl
  · exact hbetween.not_comma t ht
  · rfl
  · exact hbehind.not_comma t ht
  · rfl
  · rfl

/-- The names are where the colons are not, so there is one way only to divide a call. -/
theorem inOrder_of_qualifiedCall (h : SpelledCall m input before between behind d ts)
    (hcall : QualifiedCall m' input' ts) : InOrder before between behind d := by
  obtain ⟨qualifier, hbefore, -, hbetween, -, s₁, s₂, s₃, s₄, spacing⟩ := h
  generalize hts : before ++ _ = ts at hcall
  obtain ⟨hroot, -, hsep, hd, r₁, r₂, r₃, r₄, spacing'⟩ := hcall
  have hcolons : IsColons _ := hroot.elim (fun h => h ▸ isColons_nil) (·.isColons)
  simp only [List.append_assoc, List.cons_append] at hts
  obtain ⟨rfl, hrest⟩ := hbefore.append_ident_inj hcolons hts
  obtain ⟨rfl, hend⟩ := hbetween.append_ident_inj hsep.isColons hrest
  -- the mark and the group are all that is left on the other side
  have hlen := congrArg List.length hend
  simp only [List.length_append, List.length_cons, List.length_nil] at hlen
  have hbehind : behind = [] := List.eq_nil_of_length_eq_zero (by omega)
  rw [hbehind, List.nil_append] at hend
  simp only [List.cons.injEq, Token.group.injEq] at hend
  have hvisible : d ≠ .invisible := by
    rw [hend.2.1.1]
    exact hd
  exact ⟨hroot, hsep, hbehind, hvisible⟩

/-- A call is well-formed if its colons and its group are in order. -/
theorem qualifiedCall_of_inOrder (h : SpelledCall m input before between behind d ts)
    (horder : InOrder before between behind d) : QualifiedCall m input ts := by
  obtain ⟨qualifier, -, hq, -, -, s₁, s₂, s₃, s₄, spacing⟩ := h
  have hcall : QualifiedCall m input (before ++ .ident qualifier s₁ :: between
      ++ [.ident m.name s₂, .punct '!' spacing s₃, .group d input s₄]) :=
    .intro horder.before hq horder.between horder.visible s₁ s₂ s₃ s₄ spacing
  rw [horder.behind, List.nil_append]
  rwa [List.append_assoc, List.cons_append] at hcall

end SpelledCall

/-! ## Operands in invisible groups -/

/-- The operand is spelled like a call, perhaps in invisible groups. -/
def SpellsCall (m : Macro) (input outer : List Token) : Prop :=
  ∃ before between behind d call,
    SpelledCall m input before between behind d call ∧ Wraps call outer

/-- What is taken for a call is what is spelled like one, with any invisible groups around it. -/
theorem callBehind?_peelAll_eq_some_iff {m : Macro} {input outer : List Token} :
    Operand.callBehind? [] (peelAll outer) = some (m, input)
      ↔ m.isNumeric ∧ SpellsCall m input outer := by
  rw [Operand.callBehind?_nil_eq_some_iff]
  constructor
  · rintro ⟨hm, before, between, behind, d, hcall⟩
    exact ⟨hm, before, between, behind, d, _, hcall, wraps_peelAll outer⟩
  · rintro ⟨hm, before, between, behind, d, call, hcall, hw⟩
    have hpeel : peelAll outer = call := (wraps_iff_peelAll_eq hcall.isBare).1 hw
    rw [hpeel]
    exact ⟨hm, before, between, behind, d, hcall⟩

/-- Peeling finds the call that an operand is, so that all its spellings are the same. -/
theorem SpelledCall.eq_of_wraps {m : Macro} {d : Delimiter}
    {input before between behind call call' outer : List Token}
    (h : SpelledCall m input before between behind d call) (hw : Wraps call outer)
    (hbare : IsBare call') (hw' : Wraps call' outer) : call' = call := by
  rw [← (wraps_iff_peelAll_eq hbare).1 hw', (wraps_iff_peelAll_eq h.isBare).1 hw]

/-- What is taken for a call is evaluated, and its value negated. -/
theorem value_not_of_callBehind? {m : Macro} {input outer : List Token} {limits : Limits}
    {v : NumericValue} (hrun : IsRun outer)
    (h : Operand.callBehind? [] (peelAll outer) = some (m, input))
    (hv : m.value input limits = .ok v) : Macro.not.value outer limits = .ok v.negated := by
  obtain ⟨span, hvalue⟩ := Macro.exists_value_not_eq limits hrun
  rw [hvalue, Operand.of_eq_call h, Operand.negatedValue_call_of_ok hv]

/-- **A negation evaluates whatever is spelled like a call.** It takes an operand for a call of a
numeric macro if the qualifier and the macro's name stand in it with any colons around them, in
front of an exclamation mark and a group of any kind. These are the calls that the compiler takes
for calls as well if and only if the colons and the group of every operand so spelled are in order.
Every other operand `E` but a single literal is left to the compiler, without the invisible groups
around it, in `(if (E) == 0 { 1 } else { 0 })`. -/
theorem not_takes_spelled_calls (limits : Limits) (outer : List Token) :
    (∀ m input, Operand.callBehind? [] (peelAll outer) = some (m, input)
        ↔ m.isNumeric ∧ SpellsCall m input outer)
      ∧ ((∀ m input, Operand.callBehind? [] (peelAll outer) = some (m, input)
          ↔ m.isNumeric ∧ ∃ call, QualifiedCall m input call ∧ Wraps call outer)
        ↔ ∀ m input before between behind d call, m.isNumeric →
          SpelledCall m input before between behind d call → Wraps call outer →
          InOrder before between behind d)
      ∧ (IsRun outer → (∀ text s, ¬Wraps [.literal text s] outer) →
        (∀ m input, m.isNumeric → ¬SpellsCall m input outer) →
        Macro.not.evaluate outer limits = .ok ⟨zeroTest (peelAll outer), []⟩) := by
  refine ⟨fun m input => callBehind?_peelAll_eq_some_iff, ⟨?_, ?_⟩, ?_⟩
  · intro hexact m input before between behind d call hm hcall hw
    have htaken := callBehind?_peelAll_eq_some_iff.2
      ⟨hm, before, between, behind, d, call, hcall, hw⟩
    obtain ⟨-, call', hcall', hw'⟩ := (hexact m input).1 htaken
    rw [hcall.eq_of_wraps hw hcall'.isBare hw'] at hcall'
    exact hcall.inOrder_of_qualifiedCall hcall'
  · intro horder m input
    rw [callBehind?_peelAll_eq_some_iff]
    constructor
    · rintro ⟨hm, before, between, behind, d, call, hcall, hw⟩
      have hcolons := horder m input before between behind d call hm hcall hw
      exact ⟨hm, call, hcall.qualifiedCall_of_inOrder hcolons, hw⟩
    · rintro ⟨hm, call, hcall, hw⟩
      obtain ⟨-, before, between, behind, d, hspelled⟩ :=
        Operand.callBehind?_nil_eq_some_iff.1 (hcall.callBehind?_eq hm)
      exact ⟨hm, before, between, behind, d, call, hspelled, hw⟩
  · intro hrun hliteral hcall
    have hnone : Operand.callBehind? [] (peelAll outer) = none := by
      rw [Option.eq_none_iff_forall_ne_some]
      rintro ⟨m, input⟩ hsome
      obtain ⟨hm, hspells⟩ := callBehind?_peelAll_eq_some_iff.1 hsome
      exact hcall m input hm hspells
    have hother : ∀ text s, peelAll outer ≠ [.literal text s] := by
      intro text s hpeel
      exact hliteral text s ((wraps_iff_peelAll_eq (isBare_literal text s)).2 hpeel)
    exact evaluate_eq_ok_iff.2 ⟨_, value_not_expression limits hrun hother hnone, rfl⟩

/-! ## Calls out of order -/

/-- A call that counts no arguments, with these colons and this kind of group. -/
def emptyCount (before between behind : List Token) (d : Delimiter) : List Token :=
  before ++ .ident "va_iter" .callSite :: (between ++ .ident "narg" .callSite
    :: (behind ++ [.mark '!', .group d [] .callSite]))

section

variable {before between behind : List Token} (d : Delimiter)

theorem spelledCall_emptyCount (hbefore : IsColons before) (hbetween : IsColons between)
    (hbehind : IsColons behind) :
    SpelledCall .narg [] before between behind d (emptyCount before between behind d) :=
  .intro "va_iter" hbefore (by decide) hbetween hbehind .callSite .callSite .callSite .callSite
    .alone

/-- A count of nothing is evaluated with any colons in it. -/
theorem callBehind?_emptyCount (hbefore : IsColons before) (hbetween : IsColons between)
    (hbehind : IsColons behind) :
    Operand.callBehind? [] (peelAll (emptyCount before between behind d)) = some (.narg, []) :=
  callBehind?_peelAll_eq_some_iff.2 ⟨rfl, _, _, _, _, _,
    spelledCall_emptyCount d hbefore hbetween hbehind, .refl⟩

end

/-- `va_iter narg!()` in an invisible group is taken for the call that it is not, and `x` is left to
the compiler. -/
theorem not_takes_spelled_calls_count :
    let x : List Token := [.ident "x" .callSite]
    Operand.callBehind? [] (peelAll [.group .invisible (emptyCount [] [] [] .paren) .callSite])
        = some (.narg, [])
      ∧ IsRun x ∧ (∀ text s, ¬Wraps [.literal text s] x)
      ∧ (∀ m input, m.isNumeric → ¬SpellsCall m input x)
      ∧ Macro.not.evaluate x {} = .ok ⟨zeroTest x, []⟩ := by
  intro x
  have hspells : SpellsCall .narg [] [.group .invisible (emptyCount [] [] [] .paren) .callSite] :=
    ⟨_, _, _, _, _, spelledCall_emptyCount .paren isColons_nil isColons_nil isColons_nil,
      .wrap .callSite .refl⟩
  have hrun : IsRun x := isRun_singleton rfl
  have hliteral : ∀ text s, ¬Wraps [.literal text s] x := by
    intro text s hw
    have hpeel := (wraps_iff_peelAll_eq (isBare_literal text s)).1 hw
    exact Token.noConfusion (List.cons.inj hpeel).1
  have hcall : ∀ m input, m.isNumeric → ¬SpellsCall m input x := by
    intro m input hm h
    have htaken := callBehind?_peelAll_eq_some_iff.2 ⟨hm, h⟩
    cases htaken
  exact ⟨((not_takes_spelled_calls {} _).1 .narg []).2 ⟨rfl, hspells⟩, hrun, hliteral, hcall,
    (not_takes_spelled_calls {} x).2.2 hrun hliteral hcall⟩

/-- `va_iter narg!()`, `:va_iter narg:!()`, and `va_iter::narg!` with an invisible group are no
calls to the compiler. They are evaluated nonetheless, to 1. -/
theorem not_takes_calls_out_of_order :
    let colon : List Token := [.mark ':']
    let separator : List Token := [.punct ':' .joint .callSite, .mark ':']
    ∀ operand ∈ [emptyCount [] [] [] .paren, emptyCount colon [] colon .paren,
        emptyCount [] separator [] .invisible],
      (∀ m input call, QualifiedCall m input call → ¬Wraps call operand)
        ∧ Operand.callBehind? [] (peelAll operand) = some (.narg, [])
        ∧ Macro.not.evaluate operand {} = .ok ⟨[.number 1], []⟩ := by
  intro colon separator operand hmem
  have hcolon : IsColons colon := isColons_nil.cons .alone .callSite
  have hseparator : IsColons separator := hcolon.cons .joint .callSite
  have hnone : ¬IsSeparator [] := by
    rintro ⟨s, spacing, s', h⟩
    cases h
  -- each of the three calls is spelled like one, and out of order
  have hparts : ∃ before between behind d, IsColons before ∧ IsColons between ∧ IsColons behind
      ∧ ¬InOrder before between behind d ∧ operand = emptyCount before between behind d := by
    simp only [List.mem_cons, List.not_mem_nil, or_false] at hmem
    rcases hmem with rfl | rfl | rfl
    · exact ⟨_, _, _, _, isColons_nil, isColons_nil, isColons_nil, fun h => hnone h.between, rfl⟩
    · exact ⟨_, _, _, _, hcolon, isColons_nil, hcolon, fun h => hnone h.between, rfl⟩
    · exact ⟨_, _, _, _, isColons_nil, hseparator, isColons_nil, fun h => h.visible rfl, rfl⟩
  obtain ⟨before, between, behind, d, hbefore, hbetween, hbehind, hdisorder, rfl⟩ := hparts
  have hspelled := spelledCall_emptyCount d hbefore hbetween hbehind
  have htaken := callBehind?_emptyCount d hbefore hbetween hbehind
  refine ⟨?_, htaken, ?_⟩
  · intro m input call hcall hw
    rw [hspelled.eq_of_wraps .refl hcall.isBare hw] at hcall
    exact hdisorder (hspelled.inOrder_of_qualifiedCall hcall)
  · have hcount : Macro.narg.value [] {} = .ok (.number 0) := by
      rw [Macro.value]
      rfl
    exact evaluate_eq_ok_iff.2 ⟨_, value_not_of_callBehind? hspelled.isRun htaken hcount, rfl⟩

end Variadic
