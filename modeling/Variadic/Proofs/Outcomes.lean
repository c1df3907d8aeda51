/-!
# Outcomes of stages that may fail

What a sequence of stages gives, in terms of what each of them gives, and how two runs are compared
that go through the same stages.
-/

namespace Variadic

variable {ε α β γ δ : Type}

/-! ## Success -/

/-- A stage that succeeds hands its result on. -/
theorem ok_bind (a : α) (f : α → Except ε β) : (Except.ok a >>= f) = f a := rfl

/-- A sequence of two stages succeeds if both do. -/
theorem bind_eq_ok_iff {x : Except ε α} {f : α → Except ε β} {b : β} :
    (x >>= f) = .ok b ↔ ∃ a, x = .ok a ∧ f a = .ok b := by
  constructor
  · intro h
    cases x with
    | error e => cases h
    | ok a => exact ⟨a, rfl, h⟩
  · rintro ⟨a, rfl, h⟩
    exact h

/-- A stage whose result is only rewritten succeeds if it does. -/
theorem map_eq_ok_iff {x : Except ε α} {f : α → β} {b : β} :
    f <$> x = .ok b ↔ ∃ a, x = .ok a ∧ f a = b := by
  constructor
  · intro h
    cases x with
    | error e => cases h
    | ok a => exact ⟨a, rfl, Except.ok.inj h⟩
  · rintro ⟨a, rfl, rfl⟩
    rfl

theorem eq_ok_of_toOption {x : Except ε α} {a : α} (h : x.toOption = some a) : x = .ok a := by
  cases x with
  | ok b => exact congrArg _ (Option.some.inj h)
  | error e => cases h

/-! ## Failure -/

/-- A sequence of two stages fails where the first does, or where the second does behind it. -/
theorem bind_eq_error_iff {x : Except ε α} {f : α → Except ε β} {e : ε} :
    (x >>= f) = .error e ↔ x = .error e ∨ ∃ a, x = .ok a ∧ f a = .error e := by
  cases x with
  | error e' =>
    constructor
    · intro h
      exact Or.inl (congrArg _ (Except.error.inj h))
    · rintro (h | ⟨a, ha, -⟩)
      · exact congrArg _ (Except.error.inj h)
      · cases ha
  | ok a =>
    constructor
    · intro h
      exact Or.inr ⟨a, rfl, h⟩
    · rintro (h | ⟨b, ⟨⟩, h⟩)
      · cases h
      · exact h

/-- A stage whose result is only rewritten fails if it does. -/
theorem map_eq_error_iff {x : Except ε α} {f : α → β} {e : ε} :
    f <$> x = .error e ↔ x = .error e := by
  cases x with
  | error e' =>
    constructor
    · intro h
      exact congrArg _ (Except.error.inj h)
    · rintro ⟨⟩
      rfl
  | ok a =>
    constructor
    · intro h
      cases h
    · intro h
      cases h

/-! ## Faults in other words -/

/-- Rewording an error leaves success as it is. -/
theorem mapError_eq_ok_iff {x : Except ε α} {f : ε → γ} {a : α} :
    x.mapError f = .ok a ↔ x = .ok a := by
  cases x with
  | ok b =>
    constructor
    · intro h
      rw [Except.ok.inj h]
    · rintro ⟨⟩
      rfl
  | error e =>
    constructor
    · intro h
      cases h
    · intro h
      cases h

theorem mapError_eq_error_iff {x : Except ε α} {f : ε → γ} {e' : γ} :
    x.mapError f = .error e' ↔ ∃ e, e' = f e ∧ x = .error e := by
  cases x with
  | ok b =>
    constructor
    · intro h
      cases h
    · rintro ⟨e, -, h⟩
      cases h
  | error e =>
    constructor
    · intro h
      exact ⟨e, (Except.error.inj h).symm, rfl⟩
    · rintro ⟨_, rfl, ⟨⟩⟩
      rfl

/-! ## Two runs -/

/-- Two runs that fail with the same fault or give related results. -/
inductive SameOutcome (R : α → β → Prop) : Except ε α → Except ε β → Prop
  | ok {a : α} {b : β} (h : R a b) : SameOutcome R (.ok a) (.ok b)
  | error (e : ε) : SameOutcome R (.error e) (.error e)

namespace SameOutcome

variable {R : α → β → Prop} {x : Except ε α} {y : Except ε β}

theorem bind {S : γ → δ → Prop} (h : SameOutcome R x y) {f : α → Except ε γ} {g : β → Except ε δ}
    (hfg : ∀ a b, R a b → SameOutcome S (f a) (g b)) : SameOutcome S (x >>= f) (y >>= g) := by
  cases h with
  | ok h => exact hfg _ _ h
  | error e => exact .error e

/-- Related results are enough for what follows if it cannot tell them apart. -/
theorem bind_eq (h : SameOutcome R x y) {f : α → Except ε γ} {g : β → Except ε γ}
    (hfg : ∀ a b, R a b → f a = g b) : x >>= f = y >>= g := by
  cases h with
  | ok h => exact hfg _ _ h
  | error e => rfl

end SameOutcome

/-- A second run gives what the first gives, unless that failed with one of these faults. -/
def SameUnless (excused : ε → Prop) (x y : Except ε α) : Prop :=
  y = x ∨ ∃ e, x = .error e ∧ excused e

namespace SameUnless

variable {excused : ε → Prop} {x y : Except ε α}

theorem refl (excused : ε → Prop) (x : Except ε α) : SameUnless excused x x :=
  Or.inl rfl

theorem bind (h : SameUnless excused x y) {f g : α → Except ε β}
    (hfg : ∀ a, SameUnless excused (f a) (g a)) : SameUnless excused (x >>= f) (y >>= g) := by
  rcases h with rfl | ⟨e, rfl, he⟩
  · cases y with
    | error e => exact refl excused _
    | ok a => exact hfg a
  · exact Or.inr ⟨e, rfl, he⟩

theorem map (h : SameUnless excused x y) (f : α → β) :
    SameUnless excused (f <$> x) (f <$> y) := by
  rcases h with rfl | ⟨e, rfl, he⟩
  · exact refl excused _
  · exact Or.inr ⟨e, rfl, he⟩

/-- What is excused may be excused for a weaker reason. -/
theorem mono {excused' : ε → Prop} (h : SameUnless excused x y)
    (himp : ∀ e, excused e → excused' e) : SameUnless excused' x y := by
  rcases h with h | ⟨e, hx, he⟩
  · exact Or.inl h
  · exact Or.inr ⟨e, hx, himp e he⟩

/-- Where nothing is excused, the runs are the same. -/
theorem eq (h : SameUnless excused x y) (hnone : ∀ e, ¬ excused e) : y = x := by
  rcases h with h | ⟨e, -, he⟩
  · exact h
  · exact absurd he (hnone e)

end SameUnless
end Variadic
