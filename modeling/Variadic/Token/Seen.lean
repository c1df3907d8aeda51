import Variadic.Token.Basic

/-!
# Streams seen through invisible groups

A reader of phrases takes no notice of invisible groups: what stands in one counts as standing in
its place, and an empty one as nothing. `seeThroughAll` is the stream that is seen, `front?` takes
the first token off it, and `Follows` says that nothing but what stood in front was taken off.
-/

namespace Variadic.Token

mutual

def seeThrough : Token → List Token
  | group .invisible content _ => seeThroughAll content
  | t => [t]

/-- A stream with its invisible groups replaced by what they hold. -/
def seeThroughAll : List Token → List Token
  | [] => []
  | t :: ts => t.seeThrough ++ seeThroughAll ts

end

@[simp] theorem seeThroughAll_nil : seeThroughAll [] = [] := by simp [seeThroughAll]

@[simp] theorem seeThroughAll_cons (t : Token) (ts : List Token) :
    seeThroughAll (t :: ts) = t.seeThrough ++ seeThroughAll ts := by simp [seeThroughAll]

@[simp] theorem seeThrough_invisible (content : List Token) (s : Span) :
    (group .invisible content s).seeThrough = seeThroughAll content := by simp [seeThrough]

@[simp] theorem seeThroughAll_append (as bs : List Token) :
    seeThroughAll (as ++ bs) = seeThroughAll as ++ seeThroughAll bs := by
  induction as with
  | nil => simp
  | cons a as ih => simp [ih]

/-! ## What is left of a stream -/

/-- What is seen of `rest` is the last part of what is seen of `ts`. -/
def Follows (rest ts : List Token) : Prop :=
  seeThroughAll rest <:+ seeThroughAll ts

namespace Follows

theorem refl (ts : List Token) : Follows ts ts :=
  List.suffix_refl _

theorem trans {as bs cs : List Token} (h : Follows as bs) (h' : Follows bs cs) : Follows as cs :=
  List.IsSuffix.trans h h'

theorem cons (t : Token) (ts : List Token) : Follows ts (t :: ts) := by
  simp [Follows]

theorem nil (ts : List Token) : Follows [] ts := by
  simp [Follows]

theorem skip {as bs : List Token} (t : Token) (h : Follows as bs) : Follows as (t :: bs) :=
  h.trans (cons t bs)

theorem append {as bs : List Token} (rest : List Token) (h : Follows as bs) :
    Follows (as ++ rest) (bs ++ rest) := by
  obtain ⟨front, h⟩ := h
  exact ⟨front, by simp [← h]⟩

theorem enter {as content : List Token} (s : Span) (h : Follows as content) :
    Follows as [group .invisible content s] := by
  simpa [Follows] using h

end Follows

/-- What is left of a stream when something was taken off its front. -/
abbrev Rest (ts : List Token) := { rest : List Token // Follows rest ts }

/-- What is left of what is left of a stream. -/
def Rest.further {ts : List Token} (r : Rest ts) (r' : Rest r.1) : Rest ts :=
  ⟨r'.1, r'.2.trans r.2⟩

mutual

/-- The first token that is seen of a token, and what is left behind it. -/
def frontOf? : (t : Token) → Option (Token × Rest [t])
  | group .invisible content s =>
    match front? content with
    | some (a, r) => some (a, ⟨r.1, .enter s r.2⟩)
    | none => none
  | t => some (t, ⟨[], .nil [t]⟩)

/-- The first token that is seen of a stream, and what is left behind it. -/
def front? : (ts : List Token) → Option (Token × Rest ts)
  | [] => none
  | t :: ts =>
    match frontOf? t with
    | some (a, r) => some (a, ⟨r.1 ++ ts, .append ts r.2⟩)
    | none =>
      match front? ts with
      | some (a, r) => some (a, ⟨r.1, .skip t r.2⟩)
      | none => none

end

end Variadic.Token
