import Mathlib.Order.Lattice
import Mathlib.Data.List.Induction
import Mathlib.Algebra.GroupWithZero.Nat

set_option autoImplicit false

namespace DataPilot.Base

variable {κ ε : Type}

def cursorAfter (start : κ) (seen : List (κ × ε)) : κ := (seen.map Prod.fst).getLastD start

@[simp] theorem cursor_after_snoc (start : κ) (seen : List (κ × ε)) (entry : κ × ε) :
    cursorAfter start (seen ++ [entry]) = entry.1 := by
  simp [cursorAfter]

section Log

variable [LinearOrder κ]

-- A log is read from a cursor: the entries with later keys, a page at a time.
def later (log : List (κ × ε)) (cursor : κ) : List (κ × ε) := log.filter fun entry => cursor < entry.1

def page (log : List (κ × ε)) (cursor : κ) (count : Nat) : List (κ × ε) := (later log cursor).take count

def Ordered (log : List (κ × ε)) : Prop := log.Pairwise fun first second => first.1 < second.1

@[simp] theorem later_append (first second : List (κ × ε)) (cursor : κ) :
    later (first ++ second) cursor = later first cursor ++ later second cursor := List.filter_append ..

theorem later_all (log : List (κ × ε)) (cursor : κ) (above : ∀ entry ∈ log, cursor < entry.1) :
    later log cursor = log := List.filter_eq_self.mpr fun entry member => by simpa using above entry member

theorem later_none (log : List (κ × ε)) (cursor : κ) (below : ∀ entry ∈ log, entry.1 ≤ cursor) :
    later log cursor = [] :=
  List.filter_eq_nil_iff.mpr fun entry member => by simpa using below entry member

theorem mem_later (log : List (κ × ε)) (cursor : κ) (entry : κ × ε) :
    entry ∈ later log cursor ↔ entry ∈ log ∧ cursor < entry.1 := by
  simp [later]

theorem later_map {δ : Type} (change : κ × ε → κ × δ) (keeps : ∀ entry, (change entry).1 = entry.1) (log : List (κ × ε))
    (cursor : κ) : later (log.map change) cursor = (later log cursor).map change := by
  rw [later, later, List.filter_map]
  simp [Function.comp_def, keeps]

theorem later_ordered (log : List (κ × ε)) (cursor : κ) (ordered : Ordered log) : Ordered (later log cursor) :=
  List.Pairwise.filter _ ordered

theorem later_later (log : List (κ × ε)) (first second : κ) (before : first ≤ second) :
    later (later log first) second = later log second := by
  rw [later, later, List.filter_filter]
  refine List.filter_congr fun entry _ => ?_
  simp only [← Bool.decide_and, decide_eq_decide, and_iff_left_iff_imp]
  exact lt_of_le_of_lt before

theorem later_cursor_after (log seen rest : List (κ × ε)) (start : κ) (ordered : Ordered log)
    (split : later log start = seen ++ rest) : later log (cursorAfter start seen) = rest := by
  cases seen using List.reverseRecOn with
  | nil => exact split
  | append_singleton seen entry =>
      have sorted := later_ordered log start ordered
      have above : start < entry.1 := ((mem_later log start entry).mp (by simp [split])).2
      rw [Ordered, split, List.append_assoc, List.pairwise_append] at sorted
      obtain ⟨_, following, across⟩ := sorted
      rw [cursor_after_snoc, ← later_later log start entry.1 (le_of_lt above), split, later_append, later_append]
      have past : later seen entry.1 = [] :=
        later_none _ _ fun old member => le_of_lt (across old member entry (by simp))
      have own : later [entry] entry.1 = [] := later_none _ _ (by simp)
      have next : later rest entry.1 = rest := later_all _ _ (List.pairwise_cons.mp following).1
      rw [past, own, next]
      rfl

theorem page_front (log : List (κ × ε)) (cursor : κ) (count : Nat) : page log cursor count <+: later log cursor :=
  List.take_prefix ..

theorem page_nil_iff (log : List (κ × ε)) (cursor : κ) (count : Nat) (positive : 0 < count) :
    page log cursor count = [] ↔ later log cursor = [] := by
  rw [page, List.take_eq_nil_iff]
  exact or_iff_right (Nat.ne_of_gt positive)

theorem later_snoc (log : List (κ × ε)) (entry : κ × ε) (cursor : κ) (above : cursor < entry.1) :
    later (log ++ [entry]) cursor = later log cursor ++ [entry] := by
  rw [later_append, later_all [entry] cursor (by simpa using above)]

theorem ordered_snoc (log : List (κ × ε)) (entry : κ × ε) (ordered : Ordered log)
    (above : ∀ old ∈ log, old.1 < entry.1) : Ordered (log ++ [entry]) := by
  rw [Ordered, List.pairwise_append]
  refine ⟨ordered, List.pairwise_singleton _ _, fun old member new last => ?_⟩
  rw [List.mem_singleton.mp last]
  exact above old member

end Log

end DataPilot.Base
