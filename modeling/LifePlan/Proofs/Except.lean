/-!
# Computations that may fail

The laws of `Except` that open a computation written in steps: what it comes to when its first step is
known (`Except.ok_bind`, `Except.error_bind`), and that a success as a whole is a success of every step
(`Except.bind_eq_ok`, `Except.map_eq_ok`).
-/

namespace Except

variable {ε α β : Type}

/-- After a success the rest is carried out. -/
@[simp] theorem ok_bind (a : α) (f : α → Except ε β) : (Except.ok a >>= f) = f a := rfl

/-- After a failure nothing is carried out. -/
@[simp] theorem error_bind (e : ε) (f : α → Except ε β) : (Except.error e >>= f) = .error e := rfl

/-- A success has no failure to be told in other words. -/
@[simp] theorem mapError_ok {ε' : Type} (f : ε → ε') (a : α) :
    (Except.ok a : Except ε α).mapError f = .ok a := rfl

/-- A computation succeeds if and only if both of its steps do. -/
theorem bind_eq_ok {x : Except ε α} {f : α → Except ε β} {b : β} :
    (x >>= f) = .ok b ↔ ∃ a, x = .ok a ∧ f a = .ok b := by
  rcases x with e | a
  · simp
  · simp

/-- A success that is told in other words is a success. -/
theorem map_eq_ok {x : Except ε α} {f : α → β} {b : β} : x.map f = .ok b ↔ ∃ a, x = .ok a ∧ f a = b := by
  rcases x with e | a
  · simp [Except.map]
  · simp [Except.map]

/-- Two computations that agree where they succeed succeed together. -/
theorem eq_ok_of_toOption {x y : Except ε α} {a : α} (h : x.toOption = y.toOption) (hy : y = .ok a) :
    x = .ok a := by
  rw [hy] at h
  rcases x with e | b
  · cases h
  · rw [Option.some.inj h]

end Except
