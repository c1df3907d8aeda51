import Variadic.Proofs.Wrapping
import Variadic.Template

/-!
# How the path of a template is read

Two things about the reading of paths decide how a template may be spelled. An invisible group
around a path goes unnoticed (`parse_group`): before its first token is taken, a path is only looked
at through the groups it stands in, and once the token is taken, they are gone. And a path ends with
a name or with the sign behind its generic arguments (`exists_last_of_parse`), so that an exclamation
mark behind it is never a part of it.

Both are about readings that succeed. `Reader.run?` is what is left of a reader when its errors are
forgotten, and `Input.ReadTo` says what was read last between two inputs.
-/

namespace Variadic

/-! ## The front of a stream -/

namespace Token

mutual

/-- A token seen through is the first token in it, and the rest of it seen through. -/
theorem seeThrough_eq_frontOf? : ∀ t : Token,
    t.seeThrough = (frontOf? t).elim [] fun (a, rest) => a :: seeThroughAll rest.1
  | .group .invisible content s => by
    rw [seeThrough_invisible, seeThroughAll_eq_front? content, frontOf?]
    cases front? content with
    | none => rfl
    | some p => rfl
  | .group .paren _ _ | .group .bracket _ _ | .group .brace _ _ | .ident _ _ | .punct _ _ _
  | .literal _ _ => by simp [seeThrough, frontOf?]

/-- What is seen of a stream is its front, and what is seen of the rest. -/
theorem seeThroughAll_eq_front? : ∀ ts : List Token,
    seeThroughAll ts = (front? ts).elim [] fun (a, rest) => a :: seeThroughAll rest.1
  | [] => by simp [front?]
  | t :: ts => by
    have ht := seeThrough_eq_frontOf? t
    have hts := seeThroughAll_eq_front? ts
    rw [seeThroughAll_cons, ht, front?]
    cases frontOf? t with
    | some p => simp
    | none =>
      rw [hts]
      cases front? ts with
      | some p => rfl
      | none => rfl

end

/-- The first token seen stands in front of the rest of what is seen. -/
theorem seeThroughAll_of_front? {ts : List Token} {t : Token} {rest : Rest ts}
    (h : front? ts = some (t, rest)) : seeThroughAll ts = t :: seeThroughAll rest.1 := by
  rw [seeThroughAll_eq_front?, h]
  rfl

/-- An invisible group has the front of what it holds. -/
theorem front?_group (content : List Token) (s : Span) :
    front? [.group .invisible content s]
      = (front? content).map fun (a, rest) => (a, ⟨rest.1, .enter s rest.2⟩) := by
  rw [front?, frontOf?]
  cases front? content with
  | none => rfl
  | some p => simp

/-- A token that a path can end with: a name, or the sign that closes generic arguments. -/
inductive EndsPath : Token → Prop
  | name (text : String) (s : Span) : EndsPath (.ident text s)
  | closing (spacing : Spacing) (s : Span) : EndsPath (.punct '>' spacing s)

/-- No path ends with an exclamation mark, so a mark behind it can be told apart. -/
theorem EndsPath.not_bang {t : Token} (h : EndsPath t) : ¬t.isPunct '!' := by
  cases h with
  | name => exact Bool.false_ne_true
  | closing => exact Bool.false_ne_true

end Token

namespace Lookahead

/-- A punctuation that is read is the first token seen. -/
theorem seeThroughAll_of_punct? {ts : List Token} {c : Char} {spacing : Spacing} {s : Span}
    {rest : Token.Rest ts} (h : punct? ts = some (c, spacing, s, rest)) :
    Token.seeThroughAll ts = .punct c spacing s :: Token.seeThroughAll rest.1 := by
  unfold punct? at h
  split at h
  · next hfront =>
    split at h
    · cases h
    · cases h
      exact Token.seeThroughAll_of_front? hfront
  · cases h

section
variable (content : List Token) (s : Span)

/-- A word is found in an invisible group as it is without the group. -/
theorem word?_group : word? [.group .invisible content s] = word? content := by
  rw [word?, word?, Token.front?_group]
  cases Token.front? content with
  | none => rfl
  | some p =>
    obtain ⟨t, rest⟩ := p
    cases t <;> rfl

/-- A punctuation is found in an invisible group as it is without the group. -/
theorem punct?_group :
    punct? [.group .invisible content s]
      = (punct? content).map fun (c, spacing, place, rest) =>
          (c, spacing, place, ⟨rest.1, .enter s rest.2⟩) := by
  rw [punct?, punct?, Token.front?_group]
  cases Token.front? content with
  | none => rfl
  | some p =>
    obtain ⟨t, rest⟩ := p
    cases t with
    | punct c spacing place =>
      dsimp only [Option.map_some]
      split
      · rfl
      · rfl
    | group => rfl
    | ident => rfl
    | literal => rfl

/-- A sign of several punctuations is found in an invisible group as it is without the group. -/
theorem behindSign?_group {sign : List Char} (hsign : sign ≠ []) :
    behindSign? sign [.group .invisible content s]
      = (behindSign? sign content).map fun rest => ⟨rest.1, .enter s rest.2⟩ := by
  rcases sign with _ | ⟨c, _ | ⟨d, cs⟩⟩
  · exact absurd rfl hsign
  · rw [behindSign?, behindSign?, punct?_group]
    cases punct? content with
    | none => rfl
    | some p =>
      dsimp only [Option.map_some]
      split
      · rfl
      · rfl
  · rw [behindSign?, behindSign?, punct?_group]
    · cases punct? content with
      | none => rfl
      | some p =>
        obtain ⟨b, spacing, place, rest⟩ := p
        cases spacing with
        | alone => rfl
        | joint =>
          dsimp only [Option.map_some]
          split
          · cases behindSign? (d :: cs) rest.1 with
            | none => rfl
            | some r => rfl
          · rfl
    · simp
    · simp

theorem isSign_group {sign : String} (hsign : sign.toList ≠ []) :
    isSign sign [.group .invisible content s] = isSign sign content := by
  rw [isSign, isSign, behindSign?_group content s hsign, Option.isSome_map]

end

end Lookahead

namespace Grammar

open Lookahead

/-! ## Successful runs -/

namespace Reader

variable {α β : Type} {r : Reader α} {f : α → Reader β} {i i' j k : Input} {a : α} {b : β}

/-- What a reader gives and what it leaves, if it succeeds. -/
def run? (r : Reader α) (i : Input) : Option (α × Input) :=
  match r i with
  | .ok (a, j) => some (a, j.1)
  | .error _ => none

/-- What is left is the last part of what there was. -/
theorem follows_of_run? (h : run? r i = some (a, j)) : Token.Follows j.tokens i.tokens := by
  unfold run? at h
  split at h
  · next k _ =>
    obtain ⟨-, rfl⟩ := Prod.mk.inj (Option.some.inj h)
    exact k.2
  · cases h

/-- Two readers in a row: the second reads what the first has left. -/
theorem run?_bind (r : Reader α) (f : α → Reader β) (i : Input) :
    run? (r >>= f) i = (run? r i).bind fun p => run? (f p.1) p.2 := by
  simp only [run?, bind]
  cases r i with
  | error e => rfl
  | ok p =>
    obtain ⟨a, j, hj⟩ := p
    dsimp only [Option.bind]
    cases f a j with
    | error e => rfl
    | ok p => rfl

theorem run?_bind_eq_some_iff :
    run? (r >>= f) i = some (b, k) ↔ ∃ a j, run? r i = some (a, j) ∧ run? (f a) j = some (b, k) := by
  rw [run?_bind, Option.bind_eq_some_iff, Prod.exists]

theorem run?_bind_of_some (h : run? r i = some (a, j)) : run? (r >>= f) i = run? (f a) j := by
  rw [run?_bind, h, Option.bind_some]

/-- Inputs that are alike to the first reader are alike. -/
theorem run?_bind_congr (h : run? r i = run? r i') : run? (r >>= f) i = run? (r >>= f) i' := by
  rw [run?_bind, run?_bind, h]

/-- A reader that gives something without reading leaves its input as it is. -/
theorem eq_of_run?_pure {a' : α} (h : run? (pure a : Reader α) i = some (a', j)) : j = i :=
  (Prod.mk.inj (Option.some.inj h)).2.symm

/-- A result that is only rewritten was read before. -/
theorem exists_run?_of_bind_pure {g : α → β}
    (h : run? (r >>= fun a => pure (g a)) i = some (b, j)) : ∃ a, run? r i = some (a, j) := by
  obtain ⟨a, k, hr, h⟩ := run?_bind_eq_some_iff.1 h
  obtain rfl := eq_of_run?_pure h
  exact ⟨a, hr⟩

theorem run?_ahead_bind (f : List Token → Reader β) (i : Input) :
    run? (ahead >>= f) i = run? (f i.tokens) i :=
  run?_bind_of_some rfl

theorem run?_next_bind (p : List Token → Bool) (f : Bool → Reader β) (i : Input) :
    run? (next p >>= f) i = run? (f (p i.tokens)) i :=
  run?_bind_of_some rfl

theorem run?_ite (c : Prop) [Decidable c] (r r' : Reader α) (i : Input) :
    run? (if c then r else r') i = if c then run? r i else run? r' i :=
  apply_ite (run? · i) c r r'

section
variable {find : (ts : List Token) → Option (α × Token.Rest ts)}

/-- What is found is taken, and reading goes on behind it. -/
theorem run?_take?_of_some {rest : Token.Rest i.tokens} (h : find i.tokens = some (a, rest)) :
    run? (take? find) i = some (some a, { i with tokens := rest.1 }) := by
  rw [run?, take?, h]

/-- Where nothing is found, nothing is taken. -/
theorem run?_take?_of_none (h : find i.tokens = none) :
    run? (take? find) i = some (none, i) := by
  rw [run?, take?, h]

end

/-! ## Words and signs -/

/-- A sign is read if it stands in front. -/
theorem run?_sign (s : String) (i : Input) :
    run? (sign s) i = (behindSign? s.toList i.tokens).map fun rest =>
      (signTokens s, { i with tokens := rest.1 }) := by
  rw [sign, run?_ahead_bind]
  cases h : behindSign? s.toList i.tokens with
  | none =>
    rw [run?_bind_of_some (run?_take?_of_none (by rw [h]; rfl))]
    rfl
  | some rest =>
    rw [run?_bind_of_some (run?_take?_of_some (by rw [h]; rfl))]
    rfl

/-- A sign that may be missing is read only where it stands in front. -/
theorem run?_optionalSign (s : String) (i : Input) :
    run? (optionalSign s) i = if isSign s i.tokens then run? (sign s) i else some ([], i) := by
  rw [optionalSign, ifNext, run?_next_bind, run?_ite]
  rfl

/-- A word is read if one stands in front, keyword or not. -/
theorem run?_anyWord (i : Input) :
    run? anyWord i
      = if isAnyWord i.tokens then
          (Token.front? i.tokens).map fun p => (p.1, { i with tokens := p.2.1 })
        else none := by
  rw [anyWord, run?_next_bind, run?_ite]
  cases h : Token.front? i.tokens with
  | none =>
    rw [run?_bind_of_some (run?_take?_of_none h)]
    rfl
  | some p =>
    rw [run?_bind_of_some (run?_take?_of_some h)]
    rfl

/-- An identifier is a word that is no keyword. -/
theorem run?_identifier (i : Input) :
    run? identifier i
      = (word? i.tokens).bind fun w => if w ∈ keywords then none else run? anyWord i := by
  rw [identifier, run?_ahead_bind]
  cases word? i.tokens with
  | none => rfl
  | some w => exact run?_ite _ _ _ _

end Reader

open Reader

/-! ## A group around the input -/

/-- The same input with its tokens in an invisible group. -/
def Input.inGroup (i : Input) (s : Span) : Input :=
  { i with tokens := [.group .invisible i.tokens s] }

section
variable (i : Input) (s : Span)

theorem run?_sign_inGroup {sign : String} (hsign : sign.toList ≠ []) :
    run? (Reader.sign sign) (i.inGroup s) = run? (Reader.sign sign) i := by
  rw [run?_sign, run?_sign, Input.inGroup, behindSign?_group _ _ hsign, Option.map_map]
  rfl

theorem run?_anyWord_inGroup : run? anyWord (i.inGroup s) = run? anyWord i := by
  rw [run?_anyWord, run?_anyWord, Input.inGroup, isAnyWord, word?_group, Token.front?_group,
    Option.map_map]
  rfl

theorem run?_identifier_inGroup : run? identifier (i.inGroup s) = run? identifier i := by
  rw [run?_identifier, run?_identifier, run?_anyWord_inGroup, Input.inGroup, word?_group]

/-- A segment is read from an invisible group as it is without the group. -/
theorem run?_segment_inGroup (n : Nested) (style : PathStyle) :
    run? (segment n style) (i.inGroup s) = run? (segment n style) i := by
  have hword : word? (i.inGroup s).tokens = word? i.tokens := word?_group i.tokens s
  have hbare : isOneOf bareNames (i.inGroup s).tokens = isOneOf bareNames i.tokens := by
    rw [isOneOf, isOneOf, hword]
  have hself : isWord "Self" (i.inGroup s).tokens = isWord "Self" i.tokens := by
    rw [isWord, isWord, hword]
  rw [segment, run?_ahead_bind, run?_ahead_bind, hbare, hself]
  -- whatever the name is, it is read first, and nothing is left of the group
  cases isOneOf bareNames i.tokens with
  | true => exact run?_bind_congr (run?_anyWord_inGroup i s)
  | false =>
    cases isWord "Self" i.tokens with
    | true => exact run?_bind_congr (run?_anyWord_inGroup i s)
    | false => exact run?_bind_congr (run?_identifier_inGroup i s)

/-- A path begins with a separator or with its first segment, and neither notices the group. -/
theorem run?_path_inGroup (n : Nested) (style : PathStyle) :
    run? (path n style) (i.inGroup s) = run? (path n style) i := by
  have hsign : isSign "::" (i.inGroup s).tokens = isSign "::" i.tokens :=
    isSign_group i.tokens s (by decide)
  have hroot := run?_optionalSign "::" i
  have hroot' := run?_optionalSign "::" (i.inGroup s)
  rw [hsign, run?_sign_inGroup i s (by decide)] at hroot'
  rw [path]
  cases h : isSign "::" i.tokens with
  | true =>
    rw [h] at hroot hroot'
    exact run?_bind_congr (hroot'.trans hroot.symm)
  | false =>
    rw [h] at hroot hroot'
    rw [run?_bind_of_some hroot, run?_bind_of_some hroot']
    exact run?_bind_congr (run?_segment_inGroup i s n style)

end

/-! ## The last token -/

/-- `j` is left of `i` behind a token that a path can end with. -/
def Input.ReadTo (i j : Input) : Prop :=
  ∃ front last, Token.EndsPath last
    ∧ Token.seeThroughAll i.tokens = front ++ last :: Token.seeThroughAll j.tokens

/-- What is read behind a place further on is read from here as well. -/
theorem Input.ReadTo.of_follows {i j k : Input} (h : Token.Follows j.tokens i.tokens)
    (h' : j.ReadTo k) : i.ReadTo k := by
  obtain ⟨front, hfront⟩ := h
  obtain ⟨middle, last, hlast, hj⟩ := h'
  refine ⟨front ++ middle, last, hlast, ?_⟩
  rw [← hfront, hj, List.append_assoc]

section
variable {α β : Type} {r : Reader α} {f : α → Reader β} {i j : Input} {a : α} {b : β}

/-- What is read last decides. -/
theorem readTo_bind (hf : ∀ a i b j, run? (f a) i = some (b, j) → i.ReadTo j)
    (h : run? (r >>= f) i = some (b, j)) : i.ReadTo j := by
  obtain ⟨a, k, hr, h⟩ := run?_bind_eq_some_iff.1 h
  exact .of_follows (follows_of_run? hr) (hf a k b j h)

/-- Reading a word ends at the word. -/
theorem readTo_anyWord {w : Token} (h : run? anyWord i = some (w, j)) : i.ReadTo j := by
  rw [run?_anyWord] at h
  split at h
  · next hword =>
    obtain ⟨⟨t, rest⟩, hfront, heq⟩ := Option.map_eq_some_iff.1 h
    obtain ⟨rfl, rfl⟩ := Prod.mk.inj heq
    rw [isAnyWord, word?, hfront] at hword
    cases t with
    | ident text s => exact ⟨[], _, .name text s, Token.seeThroughAll_of_front? hfront⟩
    | group => cases hword
    | punct => cases hword
    | literal => cases hword
  · cases h

theorem readTo_identifier {w : Token} (h : run? identifier i = some (w, j)) : i.ReadTo j := by
  rw [run?_identifier] at h
  obtain ⟨name, -, h⟩ := Option.bind_eq_some_iff.1 h
  split at h
  · cases h
  · exact readTo_anyWord h

/-- Reading generic arguments ends at the closing sign. -/
theorem readTo_closing {ts : List Token} (h : run? (sign ">") i = some (ts, j)) : i.ReadTo j := by
  rw [run?_sign] at h
  obtain ⟨rest, hrest, heq⟩ := Option.map_eq_some_iff.1 h
  obtain ⟨-, rfl⟩ := Prod.mk.inj heq
  change behindSign? ['>'] i.tokens = some rest at hrest
  rw [behindSign?] at hrest
  split at hrest
  · next c spacing s rest' hpunct =>
    split at hrest
    · next hc =>
      subst hc
      obtain rfl := Option.some.inj hrest
      exact ⟨[], _, .closing spacing s, seeThroughAll_of_punct? hpunct⟩
    · cases hrest
  · cases hrest

/-- Where each item either reads nothing or ends as a path does, so do all items together. -/
theorem readTo_manyWithin {item : Reader (Option α)}
    (hitem : ∀ i a j, run? item i = some (a, j) → j = i ∨ i.ReadTo j) {bound : Nat} {as : List α}
    (h : run? (manyWithin item bound) i = some (as, j)) : j = i ∨ i.ReadTo j := by
  induction bound generalizing i as with
  | zero => exact Or.inl (eq_of_run?_pure h)
  | succ bound ih =>
    rw [manyWithin] at h
    obtain ⟨a?, k, ha, h⟩ := run?_bind_eq_some_iff.1 h
    cases a? with
    | none =>
      obtain rfl := eq_of_run?_pure h
      exact hitem i none j ha
    | some a =>
      obtain ⟨more, hmore⟩ := exists_run?_of_bind_pure h
      rcases hitem i (some a) k ha with rfl | hfirst
      · exact ih hmore
      · rcases ih hmore with rfl | hnext
        · exact Or.inr hfirst
        · exact Or.inr (.of_follows (follows_of_run? ha) hnext)

end

section
variable {n : Nested} {style : PathStyle} {i j : Input}

theorem readTo_genericArguments {arguments : SegmentArguments}
    (h : run? (genericArguments n) i = some (arguments, j)) : i.ReadTo j := by
  refine readTo_bind (fun _ k _ l h => ?_) h
  refine readTo_bind (fun _ k _ l h => ?_) h
  obtain ⟨closing, hclosing⟩ := exists_run?_of_bind_pure h
  exact readTo_closing hclosing

/-- A segment ends with its name, or with the closing sign of its generic arguments. -/
theorem readTo_segment {s : Segment} (h : run? (segment n style) i = some (s, j)) :
    i.ReadTo j := by
  -- behind the name is nothing more, or there are generic arguments
  have hname {name : Reader Token} (hread : ∀ w k, run? name i = some (w, k) → i.ReadTo k)
      (h : run? (name >>= fun w => do
        if ← next (opensGenerics style) then return ⟨w, ← genericArguments n⟩
        else return ⟨w, .none⟩) i = some (s, j)) : i.ReadTo j := by
    obtain ⟨w, k, hw, h⟩ := run?_bind_eq_some_iff.1 h
    rw [run?_next_bind, run?_ite] at h
    split at h
    · obtain ⟨arguments, harguments⟩ := exists_run?_of_bind_pure h
      exact .of_follows (follows_of_run? hw) (readTo_genericArguments harguments)
    · obtain rfl := eq_of_run?_pure h
      exact hread w j hw
  rw [segment, run?_ahead_bind, run?_ite] at h
  split at h
  · obtain ⟨w, hw⟩ := exists_run?_of_bind_pure h
    exact readTo_anyWord hw
  · dsimp only at h
    rw [run?_ite] at h
    split at h
    · exact hname (fun _ _ => readTo_anyWord) h
    · exact hname (fun _ _ => readTo_identifier) h

/-- Behind a path there are no more segments, or reading goes on to the end of the last. -/
theorem readTo_moreSegments {segments : List Segment}
    (h : run? (moreSegments n style) i = some (segments, j)) : j = i ∨ i.ReadTo j := by
  rw [moreSegments, many, run?_ahead_bind] at h
  refine readTo_manyWithin (fun i a j h => ?_) h
  rw [run?_ahead_bind, run?_ite] at h
  split at h
  · right
    refine readTo_bind (fun _ k a j h => ?_) h
    obtain ⟨s, hs⟩ := exists_run?_of_bind_pure h
    exact readTo_segment hs
  · exact Or.inl (eq_of_run?_pure h)

/-- A path ends with a word or a closing sign, however it begins. -/
theorem readTo_path {p : Path} (h : run? (path n style) i = some (p, j)) : i.ReadTo j := by
  refine readTo_bind (fun _ k _ l h => ?_) h
  obtain ⟨first, k', hfirst, h⟩ := run?_bind_eq_some_iff.1 h
  obtain ⟨more, hmore⟩ := exists_run?_of_bind_pure h
  rcases readTo_moreSegments hmore with rfl | hnext
  · exact readTo_segment hfirst
  · exact .of_follows (follows_of_run? hfirst) hnext

end

/-! ## Nothing left over -/

namespace Input

mutual

/-- Nothing is seen of a token that leaves nothing unread. -/
theorem seeThrough_of_unreadOf? : ∀ {scope : Delimiter} {t : Token},
    unreadOf? scope t = none → t.seeThrough = []
  | _, .group .invisible content _, h => by
    rw [Token.seeThrough_invisible]
    exact seeThroughAll_of_firstUnread? h
  | _, .group .paren _ _, h | _, .group .bracket _ _, h | _, .group .brace _ _, h | _, .ident _ _, h
  | _, .punct _ _ _, h | _, .literal _ _, h => by cases h

/-- Nothing is seen of a stream of which nothing is left to read. -/
theorem seeThroughAll_of_firstUnread? : ∀ {scope : Delimiter} {ts : List Token},
    firstUnread? scope ts = none → Token.seeThroughAll ts = []
  | _, [], _ => Token.seeThroughAll_nil
  | _, t :: ts, h => by
    rw [firstUnread?, Option.or_eq_none_iff] at h
    rw [Token.seeThroughAll_cons, seeThrough_of_unreadOf? h.1, seeThroughAll_of_firstUnread? h.2]
    rfl

end

end Input

end Grammar

/-! ## Paths -/

namespace Path

open Grammar

/-- A stream is a path if one is read from it that leaves nothing unread. -/
theorem parse_eq_ok_iff {ts : List Token} {p : Path} :
    parse ts = .ok p
      ↔ ∃ j, (path (.deepEnough ts) .type).run? ⟨ts, .callSite, none⟩ = some (p, j)
        ∧ j.unread? .invisible = none := by
  rw [parse, Reader.run?]
  cases path (.deepEnough ts) .type ⟨ts, .callSite, none⟩ with
  | error e => simp
  | ok r =>
    obtain ⟨q, ⟨k, hk⟩⟩ := r
    dsimp only
    constructor
    · intro h
      cases hunread : k.unread? .invisible with
      | some e =>
        rw [hunread] at h
        cases h
      | none =>
        rw [hunread] at h
        obtain rfl := Except.ok.inj h
        exact ⟨k, rfl, hunread⟩
    · rintro ⟨j, hrun, hunread⟩
      obtain ⟨rfl, rfl⟩ := Prod.mk.inj (Option.some.inj hrun)
      rw [hunread]

/-- An invisible group around a path goes unnoticed. -/
theorem parse_group (ts : List Token) (s : Span) (p : Path) :
    parse [.group .invisible ts s] = .ok p ↔ parse ts = .ok p := by
  have hdepth : Nested.deepEnough [.group .invisible ts s] = .deepEnough ts := by
    rw [Nested.deepEnough, Token.peelAll_invisible]
    rfl
  have hrun := run?_path_inGroup ⟨ts, .callSite, none⟩ s (.deepEnough ts) .type
  rw [Input.inGroup] at hrun
  rw [parse_eq_ok_iff, parse_eq_ok_iff, hdepth, hrun]

/-- Invisible groups around a path make no difference. -/
theorem parse_of_wraps {ts outer : List Token} (h : Token.Wraps ts outer) (p : Path) :
    parse outer = .ok p ↔ parse ts = .ok p := by
  induction h with
  | refl => rfl
  | wrap s _ ih => rw [parse_group, ih]

/-- The last token that is seen of a path is one that a path can end with. -/
theorem exists_last_of_parse {ts : List Token} {p : Path} (h : parse ts = .ok p) :
    ∃ front last, Token.EndsPath last ∧ Token.seeThroughAll ts = front ++ [last] := by
  obtain ⟨j, hrun, hunread⟩ := parse_eq_ok_iff.1 h
  obtain ⟨front, last, hlast, hts⟩ := readTo_path hrun
  refine ⟨front, last, hlast, ?_⟩
  rw [Input.unread?, Option.or_eq_none_iff] at hunread
  rw [hts, Input.seeThroughAll_of_firstUnread? hunread.2]

/-- No path ends with an exclamation mark. -/
theorem parse_append_bang_ne_ok (ts : List Token) {bang : Token} (hbang : bang.isPunct '!')
    (p : Path) : parse (ts ++ [bang]) ≠ .ok p := by
  intro h
  obtain ⟨front, last, hlast, heq⟩ := exists_last_of_parse h
  have hseen : bang.seeThrough = [bang] := by
    cases bang with
    | punct => rfl
    | group => cases hbang
    | ident => cases hbang
    | literal => cases hbang
  rw [Token.seeThroughAll_append, Token.seeThroughAll_cons, hseen, Token.seeThroughAll_nil] at heq
  obtain ⟨-, hsame⟩ := List.append_inj' heq rfl
  obtain rfl := List.singleton_inj.1 hsame
  exact hlast.not_bang hbang

end Path
end Variadic
