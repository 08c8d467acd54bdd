import DroneControl.Text.Decimal
import Mathlib.Data.List.TakeWhile

/-!
# Runs of characters and of digits

A run is what a reader takes from the front of a text as long as a condition holds.  The digits of a number
are a run that is not empty and starts with a zero only if it is the number zero.
-/

namespace DroneControl.Text

section Runs

variable {α : Type} {p : α → Bool} {run rest : List α}

theorem takeWhile_run (inside : ∀ c ∈ run, p c) (ends : ∀ c ∈ rest.head?, p c = false) :
    (run ++ rest).takeWhile p = run := by
  rw [List.takeWhile_append_of_pos inside]
  cases rest with
  | nil => simp
  | cons c rest => simp [ends c rfl]

theorem dropWhile_run (inside : ∀ c ∈ run, p c) (ends : ∀ c ∈ rest.head?, p c = false) :
    (run ++ rest).dropWhile p = rest := by
  rw [List.dropWhile_append_of_pos inside]
  cases rest with
  | nil => rfl
  | cons c rest => simp [ends c rfl]

end Runs

namespace Decimal

theorem digits_ne_nil (n : Nat) : digits n ≠ [] := by
  unfold digits
  split <;> simp

theorem isDigit_of_mem_digits {n : Nat} {c : Char} (among : c ∈ digits n) : isDigit c := by
  unfold digits at among
  split at among
  · next small => exact List.mem_singleton.mp among ▸ isDigit_digit small
  · rcases List.mem_append.mp among with front | last
    · exact isDigit_of_mem_digits front
    · exact List.mem_singleton.mp last ▸ isDigit_digit (Nat.mod_lt n (by decide))
termination_by n

theorem head?_digits {n : Nat} (positive : 0 < n) : (digits n).head? ≠ some '0' := by
  unfold digits
  split
  · next small =>
    have each : ∀ d : Fin 10, 0 < d.val → digit d.val ≠ '0' := by decide
    simpa using each ⟨n, small⟩ positive
  · have ih := head?_digits (n := n / 10) (by omega)
    obtain ⟨c, run, first⟩ := List.exists_cons_of_ne_nil (digits_ne_nil (n / 10))
    rw [first] at ih ⊢
    exact ih
termination_by n

end Decimal

end DroneControl.Text
