import Mathlib.Data.List.Nodup
import Mathlib.Data.List.Perm.Subperm
import Mathlib.Data.List.Range

set_option autoImplicit false

namespace DataPilot.Base

variable {α : Type} [DecidableEq α]

-- The first number from a start on whose name is not used; the first argument bounds
-- the search.
def firstFree (name : Nat → α) (used : List α) : Nat → Nat → Option Nat
  | 0, _ => none
  | fuel + 1, start => if name start ∈ used then firstFree name used fuel (start + 1) else some start

variable (name : Nat → α) (used : List α)

theorem first_free_found (fuel start place : Nat) (found : firstFree name used fuel start = some place) :
    name place ∉ used ∧ start ≤ place := by
  induction fuel generalizing start with
  | zero => cases found
  | succ fuel ih =>
      rw [firstFree] at found
      by_cases taken : name start ∈ used
      · rw [if_pos taken] at found
        obtain ⟨free, after⟩ := ih (start + 1) found
        exact ⟨free, Nat.le_of_succ_le after⟩
      · rw [if_neg taken] at found
        cases found
        exact ⟨taken, Nat.le_refl _⟩

theorem first_free_none (fuel start : Nat) (full : firstFree name used fuel start = none) :
    ∀ place < fuel, name (start + place) ∈ used := by
  induction fuel generalizing start with
  | zero => simp
  | succ fuel ih =>
      rw [firstFree] at full
      by_cases taken : name start ∈ used
      · rw [if_pos taken] at full
        intro place below
        cases place with
        | zero => exact taken
        | succ place =>
            rw [← Nat.add_assoc, Nat.add_right_comm]
            exact ih (start + 1) full place (Nat.lt_of_succ_lt_succ below)
      · rw [if_neg taken] at full
        cases full

theorem first_free_some (injective : Function.Injective name) (fuel start : Nat) (enough : used.length < fuel) :
    ∃ place, firstFree name used fuel start = some place := by
  cases search : firstFree name used fuel start with
  | some place => exact ⟨place, rfl⟩
  | none =>
      have inside : (List.range fuel).map (fun place => name (start + place)) ⊆ used := by
        intro value member
        obtain ⟨place, below, rfl⟩ := List.mem_map.mp member
        exact first_free_none name used fuel start search place (List.mem_range.mp below)
      have distinct : ((List.range fuel).map fun place => name (start + place)).Nodup :=
        List.nodup_range.map fun one other same => Nat.add_left_cancel (injective same)
      have bound := (distinct.subperm inside).length_le
      rw [List.length_map, List.length_range] at bound
      omega

theorem first_free_more (fuel more start place : Nat) (found : firstFree name used fuel start = some place)
    (larger : fuel ≤ more) : firstFree name used more start = some place := by
  induction fuel generalizing more start with
  | zero => cases found
  | succ fuel ih =>
      obtain ⟨more, rfl⟩ := Nat.exists_eq_succ_of_ne_zero (Nat.ne_of_gt (Nat.lt_of_lt_of_le (Nat.succ_pos fuel) larger))
      rw [firstFree] at found ⊢
      by_cases taken : name start ∈ used
      · rw [if_pos taken] at found ⊢
        exact ih more (start + 1) found (Nat.le_of_succ_le_succ larger)
      · rw [if_neg taken] at found ⊢
        exact found

end DataPilot.Base
