/-!
# Computations that may fail

A computation in several steps succeeds only if every step does, and an error comes from one of
them.
-/

namespace ResolverTypes

/-- the steps of a computation that succeeds -/
theorem ok_of_bind {ε α β : Type} :
    {x : Except ε α} → {f : α → Except ε β} → {b : β} → (x >>= f) = .ok b →
      ∃ a, x = .ok a ∧ f a = .ok b
  | .ok a, _, _, h => ⟨a, rfl, h⟩

theorem ok_of_map {ε α β : Type} {f : α → β} :
    {x : Except ε α} → {b : β} → x.map f = .ok b → ∃ a, x = .ok a ∧ f a = b
  | .ok a, _, h => ⟨a, rfl, Except.ok.inj h⟩

theorem ok_of_mapError {ε ε' α : Type} {f : ε → ε'} :
    {x : Except ε α} → {a : α} → x.mapError f = .ok a → x = .ok a
  | .ok _, _, h => by cases h; rfl

/-- the step that fails -/
theorem error_of_bind {ε α β : Type} :
    {x : Except ε α} → {f : α → Except ε β} → {e : ε} → (x >>= f) = .error e →
      x = .error e ∨ ∃ a, x = .ok a ∧ f a = .error e
  | .error _, _, _, h => .inl (by cases h; rfl)
  | .ok a, _, _, h => .inr ⟨a, rfl, h⟩

theorem error_of_map {ε α β : Type} {f : α → β} :
    {x : Except ε α} → {e : ε} → x.map f = .error e → x = .error e
  | .error _, _, h => by cases h; rfl

theorem error_of_mapError {ε ε' α : Type} {f : ε → ε'} :
    {x : Except ε α} → {e : ε'} → x.mapError f = .error e → ∃ cause, e = f cause
  | .error cause, _, h => ⟨cause, (Except.error.inj h).symm⟩

theorem toOption_map {ε α β : Type} (f : α → β) :
    (x : Except ε α) → (x.map f).toOption = x.toOption.map f
  | .error _ => rfl
  | .ok _ => rfl

theorem toOption_eq_some_iff {ε α : Type} {a : α} :
    {x : Except ε α} → (x.toOption = some a ↔ x = .ok a)
  | .error _ => by simp [Except.toOption]
  | .ok _ => by simp [Except.toOption]

theorem ok_of_isOk {ε α : Type} : {x : Except ε α} → x.isOk = true → ∃ a, x = .ok a
  | .ok a, _ => ⟨a, rfl⟩

/-- a result that is there, with the state after it -/
theorem exists_of_isOk {ε α σ : Type} : {r : Except ε α × σ} → r.1.isOk = true →
    ∃ a s, r = (.ok a, s)
  | (.ok a, s), _ => ⟨a, s, rfl⟩

end ResolverTypes
