import Mathlib.Data.List.Nodup
import Mathlib.Data.List.Perm.Subperm

set_option autoImplicit false

namespace DataPilot.Base

variable {α : Type}

-- A list without duplicates that holds all the items as soon as it is as long as they are.
structure Covers (listed items : List α) : Prop where
  distinct : listed.Nodup
  complete : items.length ≤ listed.length → ∀ item ∈ items, item ∈ listed

-- As many distinct items of a front as the front is long are the front.
theorem front_listed (listed order : List α) (distinct : listed.Nodup)
    (inside : ∀ item ∈ listed, item ∈ order.take listed.length) : listed.Perm (order.take listed.length) :=
  (distinct.subperm inside).perm_of_length_le (List.length_take_le _ _)

-- Where the listed items are the front of an order, the page behind them continues it.
theorem page_covers (listed order items : List α) (size : Nat) (distinct : listed.Nodup) (orderDistinct : order.Nodup)
    (same : order.Perm items) (inside : ∀ item ∈ listed, item ∈ order.take listed.length) :
    Covers (listed ++ (order.drop listed.length).take size) items := by
  have front : (listed ++ (order.drop listed.length).take size).Perm (order.take (listed.length + size)) := by
    rw [List.take_add]
    exact (front_listed listed order distinct inside).append_right _
  refine ⟨front.nodup_iff.mpr (orderDistinct.sublist (List.take_sublist _ _)), ?_⟩
  intro long item member
  have whole : order.take (listed.length + size) = order := by
    apply List.take_of_length_le
    have short : (order.take (listed.length + size)).length ≤ listed.length + size := List.length_take_le _ _
    rw [same.length_eq]
    rw [front.length_eq] at long
    omega
  rw [front.mem_iff, whole]
  exact same.mem_iff.mpr member

end DataPilot.Base
