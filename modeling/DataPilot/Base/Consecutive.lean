import Mathlib.Data.List.Nodup
import Mathlib.Data.List.Sort

set_option autoImplicit false

namespace DataPilot.Base

def consecutive (first : Int) : Nat → List Int
  | 0 => []
  | count + 1 => consecutive first count ++ [first + count]

theorem consecutive_length (first : Int) (count : Nat) : (consecutive first count).length = count := by
  induction count with
  | zero => rfl
  | succ count ih => simp [consecutive, ih]

theorem consecutive_add (first : Int) (count more : Nat) :
    consecutive first (count + more) = consecutive first count ++ consecutive (first + count) more := by
  induction more with
  | zero => simp [consecutive]
  | succ more ih =>
      rw [← Nat.add_assoc, consecutive, consecutive, ih, List.append_assoc]
      congr 3
      omega

theorem prefix_consecutive (first : Int) (count : Nat) (numbers : List Int) (part : numbers <+: consecutive first count) :
    numbers = consecutive first numbers.length := by
  obtain ⟨rest, whole⟩ := part
  have sized : numbers.length + rest.length = count := by
    rw [← List.length_append, whole, consecutive_length]
  rw [← sized, consecutive_add] at whole
  exact List.append_inj_left whole (consecutive_length first numbers.length).symm

theorem mem_consecutive (first number : Int) (count : Nat) :
    number ∈ consecutive first count ↔ first ≤ number ∧ number < first + count := by
  induction count with
  | zero =>
      simp only [consecutive, List.not_mem_nil, false_iff, not_and]
      omega
  | succ count ih =>
      rw [consecutive, List.mem_append, ih, List.mem_singleton]
      omega

theorem consecutive_increases (first : Int) (count : Nat) : (consecutive first count).Pairwise (· < ·) := by
  induction count with
  | zero => exact List.Pairwise.nil
  | succ count ih =>
      rw [consecutive, List.pairwise_append]
      refine ⟨ih, List.pairwise_singleton _ _, ?_⟩
      intro number member last same
      obtain rfl := List.mem_singleton.mp same
      exact ((mem_consecutive first number count).mp member).2

-- One above the largest number, or one.
def nextOf (numbers : List Int) : Int :=
  match numbers.max? with
  | none => 1
  | some last => last + 1

theorem below_next (numbers : List Int) : ∀ number ∈ numbers, number < nextOf numbers := by
  intro number member
  cases largest : numbers.max? with
  | none =>
      rw [List.max?_eq_none_iff] at largest
      simp [largest] at member
  | some last =>
      have bound := (List.max?_eq_some_iff.mp largest).2 number member
      rw [nextOf, largest]
      exact Int.lt_add_one_of_le bound

theorem next_append (numbers : List Int) (last : Int) (above : ∀ number ∈ numbers, number < last) :
    nextOf (numbers ++ [last]) = last + 1 := by
  have largest : (numbers ++ [last]).max? = some last := by
    apply List.max?_eq_some_iff.mpr
    refine ⟨List.mem_append_right _ (List.mem_singleton_self last), ?_⟩
    intro number member
    rcases List.mem_append.mp member with old | new
    · exact Int.le_of_lt (above number old)
    · exact Int.le_of_eq (List.mem_singleton.mp new)
  rw [nextOf, largest]

theorem next_consecutive (numbers : List Int) (count : Nat) :
    nextOf (numbers ++ consecutive (nextOf numbers) count) = nextOf numbers + count := by
  induction count with
  | zero => simp [consecutive]
  | succ count ih =>
      have above : ∀ number ∈ numbers ++ consecutive (nextOf numbers) count, number < nextOf numbers + count := by
        intro number member
        have bound := below_next _ number member
        rwa [ih] at bound
      rw [consecutive, ← List.append_assoc, next_append _ _ above]
      omega

theorem consecutive_distinct (numbers : List Int) (count : Nat) (distinct : numbers.Nodup) :
    (numbers ++ consecutive (nextOf numbers) count).Nodup := by
  refine List.nodup_append.mpr ⟨distinct, ?_, ?_⟩
  · exact (consecutive_increases (nextOf numbers) count).imp fun less => Int.ne_of_lt less
  · rintro number old _ new rfl
    have below := below_next numbers number old
    have above := ((mem_consecutive _ number count).mp new).1
    omega

section OrderBy

variable {α β : Type}

def orderBy (column : α → Int) (rows : List α) : List α :=
  rows.mergeSort fun one other => decide (column one ≤ column other)

theorem order_by_perm (column : α → Int) (rows : List α) : (orderBy column rows).Perm rows := List.mergeSort_perm rows _

theorem order_by_sorted (column : α → Int) (rows : List α) :
    (orderBy column rows).Pairwise fun one other => column one ≤ column other := by
  have sorted : (orderBy column rows).Pairwise fun one other => decide (column one ≤ column other) :=
    List.pairwise_mergeSort (fun one two three => by simpa using Int.le_trans)
      (fun one other => by simpa using Int.le_total _ _) rows
  simpa using sorted

theorem order_by_map (view : α → β) (column : β → Int) (rows : List α) :
    (orderBy (fun row => column (view row)) rows).map view = orderBy column (rows.map view) :=
  List.map_mergeSort fun _ _ _ _ => rfl

theorem order_by_append (column : α → Int) (old new : List α) (distinct : ((old ++ new).map column).Nodup)
    (sorted : new.Pairwise fun one other => column one < column other)
    (above : ∀ row ∈ old, ∀ later ∈ new, column row < column later) :
    orderBy column (old ++ new) = orderBy column old ++ new := by
  have same : (orderBy column (old ++ new)).Perm (orderBy column old ++ new) :=
    (order_by_perm column (old ++ new)).trans ((order_by_perm column old).symm.append_right new)
  refine same.eq_of_pairwise ?_ (order_by_sorted column (old ++ new)) ?_
  · intro one other oneIn otherIn less more
    have first := (order_by_perm column (old ++ new)).mem_iff.mp oneIn
    have second := (order_by_perm column (old ++ new)).mem_iff.mp (same.mem_iff.mpr otherIn)
    exact List.inj_on_of_nodup_map distinct first second (Int.le_antisymm less more)
  · refine List.pairwise_append.mpr ⟨order_by_sorted column old, sorted.imp Int.le_of_lt, ?_⟩
    intro row member later next
    exact Int.le_of_lt (above row ((order_by_perm column old).mem_iff.mp member) later next)

end OrderBy

end DataPilot.Base
