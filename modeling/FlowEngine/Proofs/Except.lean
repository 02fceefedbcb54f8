import Mathlib

/-!
# Steps that may fail

A row of steps succeeds exactly when each of them does, and fails with the error of
one of them.
-/

namespace FlowEngine

section
variable {ε α β σ : Type}

@[simp] theorem ok_bind (a : α) (f : α → Except ε β) : (Except.ok a >>= f) = f a := rfl

@[simp] theorem error_bind (e : ε) (f : α → Except ε β) : (Except.error e >>= f) = .error e := rfl

@[simp] theorem ok_map (a : α) (f : α → β) : (Except.ok a : Except ε α).map f = .ok (f a) := rfl

@[simp] theorem error_map (e : ε) (f : α → β) : (Except.error e : Except ε α).map f = .error e := rfl

theorem bind_eq_ok {x : Except ε α} {f : α → Except ε β} {b : β} :
    x >>= f = .ok b ↔ ∃ a, x = .ok a ∧ f a = .ok b := by
  cases x with
  | error e => simp
  | ok a => simp

theorem bind_eq_error {x : Except ε α} {f : α → Except ε β} {e : ε} :
    x >>= f = .error e ↔ x = .error e ∨ ∃ a, x = .ok a ∧ f a = .error e := by
  cases x with
  | error e => simp
  | ok a => simp

theorem unit_bind_eq_ok {x : Except ε Unit} {f : Unit → Except ε β} {b : β} :
    x >>= f = .ok b ↔ x = .ok () ∧ f () = .ok b := by
  cases x with
  | error e => simp
  | ok a => simp

theorem eq_ok_of_toOption {x : Except ε α} {a : α} (h : x.toOption = some a) : x = .ok a := by
  cases x with
  | error e => cases h
  | ok b => exact congrArg _ (Option.some.inj h)

theorem map_eq_ok {x : Except ε α} {f : α → β} {b : β} : x.map f = .ok b ↔ ∃ a, x = .ok a ∧ f a = b := by
  cases x with
  | error e => simp
  | ok a => simp

theorem map_eq_error {x : Except ε α} {f : α → β} {e : ε} : x.map f = .error e ↔ x = .error e := by
  cases x with
  | error e => simp
  | ok a => simp

theorem foldlM_eq_error {f : σ → α → Except ε σ} : ∀ {xs : List α} {a : σ} {e : ε},
    xs.foldlM f a = .error e → ∃ x ∈ xs, ∃ b, f b x = .error e
  | x :: xs, a, e, h => by
    rw [List.foldlM_cons] at h
    rcases bind_eq_error.mp h with hx | ⟨b, -, hrest⟩
    · exact ⟨x, List.mem_cons_self, a, hx⟩
    · obtain ⟨y, hy, hyb⟩ := foldlM_eq_error hrest
      exact ⟨y, List.mem_cons_of_mem _ hy, hyb⟩

theorem mapM_eq_error {f : α → Except ε β} : ∀ {xs : List α} {e : ε}, xs.mapM f = .error e → ∃ x ∈ xs, f x = .error e
  | [], _, h => by cases h
  | x :: xs, e, h => by
    rw [List.mapM_cons, bind_eq_error] at h
    rcases h with hx | ⟨y, -, hrest⟩
    · exact ⟨x, List.mem_cons_self, hx⟩
    rcases bind_eq_error.mp hrest with hxs | ⟨ys, -, hpure⟩
    · obtain ⟨x', hmem, hx'⟩ := mapM_eq_error hxs
      exact ⟨x', List.mem_cons_of_mem _ hmem, hx'⟩
    · cases hpure

end

end FlowEngine
