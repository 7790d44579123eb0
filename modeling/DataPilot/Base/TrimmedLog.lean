import DataPilot.Base.EventLog

set_option autoImplicit false

namespace DataPilot.Base

variable {κ ε : Type}

-- A log that is cut to its newest entries may keep any of the older ones.
def trim (limit : Nat) (keep : κ → Bool) (log : List (κ × ε)) : List (κ × ε) :=
  (log.take (log.length - limit)).filter (fun entry => keep entry.1) ++ log.drop (log.length - limit)

theorem trim_sublist (limit : Nat) (keep : κ → Bool) (log : List (κ × ε)) : (trim limit keep log).Sublist log := by
  have parts : (trim limit keep log).Sublist (log.take (log.length - limit) ++ log.drop (log.length - limit)) :=
    List.Sublist.append List.filter_sublist (List.Sublist.refl _)
  rwa [List.take_append_drop] at parts

theorem trim_exactly (limit : Nat) (log : List (κ × ε)) :
    trim limit (fun _ => false) log = log.drop (log.length - limit) := by
  simp [trim]

section Ordered

variable [LinearOrder κ]

theorem ordered_sublist (part log : List (κ × ε)) (sub : part.Sublist log) (ordered : Ordered log) : Ordered part :=
  List.Pairwise.sublist sub ordered

theorem later_sublist (part log : List (κ × ε)) (cursor : κ) (sub : part.Sublist log) :
    (later part cursor).Sublist (later log cursor) := List.Sublist.filter _ sub

theorem later_split (log : List (κ × ε)) (cursor : κ) (ordered : Ordered log) :
    ∃ passed, log = passed ++ later log cursor ∧ ∀ entry ∈ passed, entry.1 ≤ cursor := by
  induction log with
  | nil => exact ⟨[], rfl, by simp⟩
  | cons entry rest ih =>
      obtain ⟨above, ordered⟩ := List.pairwise_cons.mp ordered
      by_cases new : cursor < entry.1
      · refine ⟨[], (later_all _ cursor ?_).symm, by simp⟩
        exact List.forall_mem_cons.mpr ⟨new, fun other member => lt_trans new (above other member)⟩
      · obtain ⟨passed, split, below⟩ := ih ordered
        have skipped : later (entry :: rest) cursor = later rest cursor := by simp [later, new]
        refine ⟨entry :: passed, ?_, List.forall_mem_cons.mpr ⟨le_of_not_gt new, below⟩⟩
        rw [skipped, List.cons_append, ← split]

theorem later_trim (limit : Nat) (keep : κ → Bool) (log : List (κ × ε)) (cursor : κ) (ordered : Ordered log)
    (near : (later log cursor).length ≤ limit) : later (trim limit keep log) cursor = later log cursor := by
  obtain ⟨passed, split, below⟩ := later_split log cursor ordered
  have total := congrArg List.length split
  rw [List.length_append] at total
  rw [trim]
  generalize count : log.length - limit = old
  have within : old ≤ passed.length := by omega
  have front : log.take old = passed.take old := by
    rw [split]
    exact List.take_append_of_le_length within
  have back : log.drop old = passed.drop old ++ later log cursor := by
    conv_lhs => rw [split]
    exact List.drop_append_of_le_length within
  have kept : later ((passed.take old).filter fun entry => keep entry.1) cursor = [] :=
    later_none _ _ fun entry member => below entry (List.take_subset _ _ (List.mem_filter.mp member).1)
  have left : later (passed.drop old) cursor = [] :=
    later_none _ _ fun entry member => below entry (List.drop_subset _ _ member)
  rw [front, back, later_append, later_append, kept, left, later_later log cursor cursor le_rfl, List.nil_append,
    List.nil_append]

theorem exact_trim_loses (limit : Nat) (log : List (κ × ε)) (cursor : κ) (ordered : Ordered log)
    (far : limit < (later log cursor).length) :
    ∃ entry ∈ later log cursor, ∀ kept ∈ log.drop (log.length - limit), entry.1 < kept.1 := by
  obtain ⟨passed, split, below⟩ := later_split log cursor ordered
  cases following : later log cursor with
  | nil => simp [following] at far
  | cons entry rest =>
      rw [following] at split far
      refine ⟨entry, List.mem_cons_self, fun kept member => ?_⟩
      have total := congrArg List.length split
      rw [List.length_append, List.length_cons] at total
      rw [List.length_cons] at far
      generalize count : log.length - limit = old at member
      have past : (passed ++ [entry]).length ≤ old := by
        rw [List.length_append, List.length_singleton]
        omega
      have following : kept ∈ rest := by
        rw [split, List.append_cons, List.drop_append, List.drop_eq_nil_of_le past, List.nil_append] at member
        exact List.drop_subset _ _ member
      rw [Ordered, split, List.pairwise_append] at ordered
      exact (List.pairwise_cons.mp ordered.2.1).1 kept following

end Ordered

end DataPilot.Base
