import Mathlib.Logic.Basic

/-! Binding and mapping in `Except`, the monad of the modelled code's fallible functions (the
CQL compiler and the shard iterator): one lemma per way a bind or a map can end. -/

namespace WorldEngine

@[simp] theorem except_pure {ε α : Type} (value : α) : (pure value : Except ε α) = .ok value := rfl

@[simp] theorem except_ok_bind {ε α β : Type} (value : α) (f : α → Except ε β) :
    (Except.ok value >>= f) = f value := rfl

@[simp] theorem except_error_bind {ε α β : Type} (error : ε) (f : α → Except ε β) :
    (Except.error error >>= f) = .error error := rfl

theorem except_bind_eq_ok {ε α β : Type} {x : Except ε α} {f : α → Except ε β} {result : β} :
    (x >>= f) = .ok result ↔ ∃ value, x = .ok value ∧ f value = .ok result := by
  cases x <;> simp

theorem except_bind_eq_error {ε α β : Type} {x : Except ε α} {f : α → Except ε β}
    {error : ε} :
    (x >>= f) = .error error ↔
      x = .error error ∨ ∃ value, x = .ok value ∧ f value = .error error := by
  cases x <;> simp

theorem except_map_eq_ok {ε α β : Type} {f : α → β} {x : Except ε α} {result : β} :
    f <$> x = .ok result ↔ ∃ value, x = .ok value ∧ f value = result := by
  cases x <;> simp [Functor.map, Except.map]

theorem except_map_eq_error {ε α β : Type} {f : α → β} {x : Except ε α} {error : ε} :
    f <$> x = .error error ↔ x = .error error := by
  cases x <;> simp [Functor.map, Except.map]

end WorldEngine
