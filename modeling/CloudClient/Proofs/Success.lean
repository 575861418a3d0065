/-!
# Steps that succeed

A row of steps succeeds when each of them does, and fails as one of them does. The lemmas here take
such a row apart.
-/

namespace CloudClient

variable {ε ε' α β : Type}

/-- Two steps in a row succeed when both do. -/
theorem exists_of_bind_eq_ok {x : Except ε α} {f : α → Except ε β} {b : β}
    (h : x >>= f = .ok b) : ∃ a, x = .ok a ∧ f a = .ok b := by
  cases x with
  | error e => cases h
  | ok a => exact ⟨a, rfl, h⟩

/-- A step that succeeds hands its value to the next. -/
theorem bind_of_eq_ok {x : Except ε α} {a : α} (h : x = .ok a) (f : α → Except ε β) :
    x >>= f = f a := by
  rw [h]
  rfl

/-- A step succeeds whatever its errors are taken for. -/
theorem eq_ok_of_mapError {f : ε → ε'} {x : Except ε α} {a : α}
    (h : x.mapError f = .ok a) : x = .ok a := by
  cases x with
  | error e => cases h
  | ok a => cases h; rfl

/-- A step fails with what its error is taken for. -/
theorem exists_of_mapError_eq_error {f : ε → ε'} {x : Except ε α} {e : ε'}
    (h : x.mapError f = .error e) : ∃ e', x = .error e' ∧ f e' = e := by
  cases x with
  | error e' => exact ⟨e', rfl, Except.error.inj h⟩
  | ok a => cases h

/-- A row of steps succeeds when none of its guards refuses. -/
theorem not_and_eq_ok_of_guard {c : Prop} [Decidable c] {e : ε} {f : α → Except ε β}
    {x : Except ε β} {b : β} (h : (if c then .error e >>= f else x) = .ok b) :
    ¬c ∧ x = .ok b := by
  split at h
  · cases h
  · rename_i hc
    exact ⟨hc, h⟩

/-- A step of which only a part counts may be changed where that part stays. -/
theorem bind_congr_of_map (g : α → α) {f : α → Except ε β} {x y : Except ε α}
    (hf : ∀ a, f (g a) = f a) (h : x.map g = y.map g) : x >>= f = y >>= f := by
  have hmap : ∀ z : Except ε α, z >>= f = z.map g >>= f := by
    intro z
    cases z with
    | error e => rfl
    | ok a => exact (hf a).symm
  rw [hmap x, hmap y, h]

/-- What is made of the result of a step is made of it whatever its errors are taken for. -/
theorem map_mapError (k : ε → ε') (g : α → β) (x : Except ε α) :
    (x.mapError k).map g = (x.map g).mapError k := by
  cases x with
  | error e => rfl
  | ok a => rfl

/-! ## Steps that fail -/

/-- A step fails with none but such errors. -/
def FailsAs (P : ε → Prop) (x : Except ε α) : Prop := ∀ e, x = .error e → P e

variable {P : ε → Prop} {x y : Except ε α} {a : α} {e : ε}

/-- A step that succeeds fails with nothing. -/
theorem failsAs_ok : FailsAs P (.ok a : Except ε α) := by
  intro e h
  cases h

/-- A step that fails does so with its error. -/
theorem failsAs_error (h : P e) : FailsAs P (.error e : Except ε α) := by
  intro e' he
  cases he
  exact h

/-- A choice of two steps fails as they do. -/
theorem FailsAs.ite {c : Prop} [Decidable c] (hx : FailsAs P x) (hy : FailsAs P y) :
    FailsAs P (if c then x else y) := by
  split
  · exact hx
  · exact hy

/-- A row of steps fails as its guards and the rest of it do. -/
theorem FailsAs.guard {c : Prop} [Decidable c] {f : α → Except ε β} {x : Except ε β} (he : P e)
    (hx : FailsAs P x) : FailsAs P (if c then .error e >>= f else x) :=
  .ite (failsAs_error he) hx

/-- A row of steps fails as they do. -/
theorem FailsAs.bind {f : α → Except ε β} (hx : FailsAs P x) (hf : ∀ a, FailsAs P (f a)) :
    FailsAs P (x >>= f) := by
  cases x with
  | error e =>
    intro e' h
    cases h
    exact hx e rfl
  | ok a => exact hf a

/-- A step whose result is changed fails as it does. -/
theorem FailsAs.map {f : α → β} (hx : FailsAs P x) : FailsAs P (x.map f) := by
  cases x with
  | error e =>
    intro e' h
    cases h
    exact hx e rfl
  | ok a => exact failsAs_ok

/-- A step fails with what its errors are taken for. -/
theorem FailsAs.mapError {Q : ε' → Prop} {f : ε → ε'} (hx : FailsAs P x) (hf : ∀ e, P e → Q (f e)) :
    FailsAs Q (x.mapError f) := by
  intro e' h
  obtain ⟨e, he, rfl⟩ := exists_of_mapError_eq_error h
  exact hf e (hx e he)

end CloudClient
