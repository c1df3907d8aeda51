import Variadic.Argument

/-!
# Streams in invisible groups

`Token.peelAll` takes off the invisible groups around a stream; `Wraps` says that there are any
number of them. The two are inverse to each other: `peelAll` finds the one stream without invisible
groups around it that a given stream wraps (`wraps_iff_peelAll_eq`).
-/

namespace Variadic
namespace Token

/-- `outer` is `ts` with any number of invisible groups around it. -/
inductive Wraps (ts : List Token) : List Token → Prop
  | refl : Wraps ts ts
  | wrap {outer : List Token} (s : Span) (h : Wraps ts outer) : Wraps ts [.group .invisible outer s]

/-- No invisible group stands around the whole stream. -/
def IsBare (ts : List Token) : Prop :=
  ∀ content s, ts ≠ [.group .invisible content s]

/-- Peeling takes off an invisible group and goes on with its content. -/
@[simp] theorem peelAll_invisible (content : List Token) (s : Span) :
    peelAll [.group .invisible content s] = peelAll content := by
  rw [peelAll, peel]

/-- A stream with nothing around it is left as it is. -/
theorem peelAll_of_isBare {ts : List Token} (h : IsBare ts) : peelAll ts = ts := by
  rcases ts with _ | ⟨t, _ | ⟨u, us⟩⟩
  · rfl
  · rw [peelAll]
    cases t with
    | group d content s =>
      cases d with
      | invisible => exact absurd rfl (h content s)
      | paren => rfl
      | bracket => rfl
      | brace => rfl
    | ident => rfl
    | punct => rfl
    | literal => rfl
  · rfl

/-- Invisible groups around a stream make no difference to what is peeled out of it. -/
theorem Wraps.peelAll_eq {ts outer : List Token} (h : Wraps ts outer) :
    peelAll outer = peelAll ts := by
  induction h with
  | refl => rfl
  | wrap s _ ih => rw [peelAll_invisible, ih]

/-- What stands in invisible groups is no heavier than the whole, which recursion on operands goes
by. -/
theorem Wraps.weightAll_le {ts outer : List Token} (h : Wraps ts outer) :
    weightAll ts ≤ weightAll outer := by
  induction h with
  | refl => exact Nat.le_refl _
  | wrap s _ ih =>
    simp only [weightAll_cons, weight_group, weightAll_nil]
    omega

mutual

theorem wraps_peel_isBare : ∀ t : Token, Wraps t.peel [t] ∧ IsBare t.peel
  | .group .invisible content s => by
    obtain ⟨hwraps, hbare⟩ := wraps_peelAll_isBare content
    rw [peel]
    exact ⟨.wrap s hwraps, hbare⟩
  | .group .paren _ _ | .group .bracket _ _ | .group .brace _ _ | .ident _ _ | .punct _ _ _
  | .literal _ _ => ⟨.refl, fun content s h => by cases h⟩

/-- Peeling takes off all invisible groups around a stream, and nothing else. -/
theorem wraps_peelAll_isBare : ∀ ts : List Token, Wraps (peelAll ts) ts ∧ IsBare (peelAll ts)
  | [] => ⟨.refl, fun content s h => by cases h⟩
  | [t] => by
    rw [peelAll]
    exact wraps_peel_isBare t
  | _ :: _ :: _ => ⟨.refl, fun content s h => by cases h⟩

end

/-- What was taken off are invisible groups. -/
theorem wraps_peelAll (ts : List Token) : Wraps (peelAll ts) ts :=
  (wraps_peelAll_isBare ts).1

theorem isBare_peelAll (ts : List Token) : IsBare (peelAll ts) :=
  (wraps_peelAll_isBare ts).2

/-- Peeling finds what a stream wraps, if that has no invisible group around it itself. -/
theorem wraps_iff_peelAll_eq {ts outer : List Token} (h : IsBare ts) :
    Wraps ts outer ↔ peelAll outer = ts := by
  constructor
  · intro hwraps
    rw [hwraps.peelAll_eq, peelAll_of_isBare h]
  · rintro rfl
    exact wraps_peelAll outer

/-- Only invisible groups are looked through. -/
theorem isBare_group {d : Delimiter} (hd : d ≠ .invisible) (content : List Token) (s : Span) :
    IsBare [.group d content s] := by
  intro content' s' h
  obtain ⟨rfl, -⟩ := Token.group.inj (List.cons.inj h).1
  exact hd rfl

theorem isBare_literal (text : String) (s : Span) : IsBare [.literal text s] := by
  intro content s' h
  exact Token.noConfusion (List.cons.inj h).1

end Token

/-! ## Wrapped arguments -/

namespace Argument

/-- An argument is in parentheses if these are all that it is, up to invisible groups around them.
-/
theorem parenthesized?_eq_some_iff {a : Argument} {content : List Token} {s : Span} :
    a.parenthesized? = some (content, s) ↔ Token.Wraps [.group .paren content s] a.tokens := by
  rw [Token.wraps_iff_peelAll_eq (Token.isBare_group (by decide) content s), parenthesized?, peeled]
  constructor
  · intro h
    split at h
    · next hpeel =>
      obtain ⟨rfl, rfl⟩ := Prod.mk.inj (Option.some.inj h)
      exact hpeel
    · cases h
  · intro h
    rw [h]

theorem parenthesized?_eq_none_iff {a : Argument} :
    a.parenthesized? = none
      ↔ ∀ content s, ¬Token.Wraps [.group .paren content s] a.tokens := by
  simp only [← parenthesized?_eq_some_iff]
  rw [Option.eq_none_iff_forall_ne_some, Prod.forall]

end Argument
end Variadic
