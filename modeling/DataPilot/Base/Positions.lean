import Mathlib.Data.List.Basic

set_option autoImplicit false

namespace DataPilot.Base

section Positions

variable {α : Type} (test : α → Bool)

def positions (start : Nat) (items : List α) : List Nat :=
  ((items.zipIdx start).filter fun entry => test entry.1).map Prod.snd

def laterCount (items : List α) (index : Nat) : Nat := (items.drop (index + 1)).countP test

theorem positions_append (start : Nat) (front back : List α) :
    positions test start (front ++ back) = positions test start front ++ positions test (start + front.length) back := by
  simp [positions, List.zipIdx_append]

theorem positions_cons (start : Nat) (item : α) (rest : List α) (passes : test item = true) :
    positions test start (item :: rest) = start :: positions test (start + 1) rest := by
  simp [positions, List.zipIdx_cons, passes]

theorem positions_length (start : Nat) (items : List α) : (positions test start items).length = items.countP test := by
  induction items generalizing start with
  | nil => rfl
  | cons item rest ih =>
      rw [List.countP_cons, ← ih (start + 1)]
      by_cases passes : test item = true
      · rw [positions_cons test start item rest passes, List.length_cons, if_pos passes]
      · simp [positions, List.zipIdx_cons, passes]

theorem positions_bounds (start index : Nat) (items : List α) (member : index ∈ positions test start items) :
    start ≤ index ∧ index < start + items.length := by
  obtain ⟨⟨item, position⟩, entry, rfl⟩ := List.mem_map.mp member
  have inside := List.mem_of_mem_filter entry
  exact ⟨List.le_snd_of_mem_zipIdx inside, List.snd_lt_add_of_mem_zipIdx inside⟩

theorem mem_positions (index : Nat) (items : List α) :
    index ∈ positions test 0 items ↔ ∃ item, items[index]? = some item ∧ test item = true := by
  constructor
  · intro member
    obtain ⟨⟨item, position⟩, entry, rfl⟩ := List.mem_map.mp member
    obtain ⟨inside, passes⟩ := List.mem_filter.mp entry
    exact ⟨item, List.mem_zipIdx_iff_getElem?.mp inside, passes⟩
  · rintro ⟨item, found, passes⟩
    apply List.mem_map.mpr
    exact ⟨(item, index), List.mem_filter.mpr ⟨List.mem_zipIdx_iff_getElem?.mpr found, passes⟩, rfl⟩

theorem positions_split (index : Nat) (items : List α) (item : α) (found : items[index]? = some item)
    (passes : test item = true) :
    ∃ front back, positions test 0 items = front ++ index :: back ∧ index ∉ front ∧ index ∉ back ∧
      back.length = laterCount test items index := by
  obtain ⟨inside, rfl⟩ := List.getElem?_eq_some_iff.mp found
  have sized : (items.take index).length = index := List.length_take_of_le (Nat.le_of_lt inside)
  refine ⟨positions test 0 (items.take index), positions test (index + 1) (items.drop (index + 1)), ?_, ?_, ?_, ?_⟩
  · have cut : items.take index ++ items[index] :: items.drop (index + 1) = items := by
      rw [List.getElem_cons_drop, List.take_append_drop]
    conv_lhs => rw [← cut, positions_append, sized, Nat.zero_add, positions_cons test index _ _ passes]
  · intro member
    have below := (positions_bounds test 0 index _ member).2
    omega
  · intro member
    have above := (positions_bounds test (index + 1) index _ member).1
    omega
  · exact positions_length test (index + 1) _

theorem mem_drop_split (front back : List Nat) (index dropped : Nat) (notFront : index ∉ front) (notBack : index ∉ back) :
    index ∈ (front ++ index :: back).drop dropped ↔ dropped ≤ front.length := by
  rw [List.drop_append, List.mem_append]
  constructor
  · rintro (inFront | inBack)
    · exact absurd (List.mem_of_mem_drop inFront) notFront
    · by_contra beyond
      obtain ⟨more, same⟩ := Nat.exists_eq_add_of_lt (Nat.not_le.mp beyond)
      rw [show dropped - front.length = more + 1 by omega, List.drop_succ_cons] at inBack
      exact notBack (List.mem_of_mem_drop inBack)
  · intro within
    rw [Nat.sub_eq_zero_of_le within, List.drop_zero]
    exact .inr (List.mem_cons_self ..)

theorem mem_take_split (front back : List Nat) (index taken : Nat) (notFront : index ∉ front) :
    index ∈ (front ++ index :: back).take taken ↔ front.length < taken := by
  rw [List.take_append, List.mem_append]
  constructor
  · rintro (inFront | inBack)
    · exact absurd (List.mem_of_mem_take inFront) notFront
    · by_contra short
      rw [Nat.sub_eq_zero_of_le (Nat.not_lt.mp short), List.take_zero] at inBack
      cases inBack
  · intro beyond
    obtain ⟨more, same⟩ := Nat.exists_eq_add_of_lt beyond
    rw [show taken - front.length = more + 1 by omega, List.take_succ_cons]
    exact .inr (List.mem_cons_self ..)

theorem mem_newest (newest index : Nat) (items : List α) :
    index ∈ (positions test 0 items).drop ((positions test 0 items).length - newest) ↔
      ∃ item, items[index]? = some item ∧ test item = true ∧ laterCount test items index < newest := by
  constructor
  · intro member
    obtain ⟨item, found, passes⟩ := (mem_positions test index items).mp (List.mem_of_mem_drop member)
    obtain ⟨front, back, split, notFront, notBack, behind⟩ := positions_split test index items item found passes
    rw [split, mem_drop_split front back index _ notFront notBack, List.length_append, List.length_cons] at member
    exact ⟨item, found, passes, by omega⟩
  · rintro ⟨item, found, passes, few⟩
    obtain ⟨front, back, split, notFront, notBack, behind⟩ := positions_split test index items item found passes
    rw [split, mem_drop_split front back index _ notFront notBack, List.length_append, List.length_cons]
    omega

theorem mem_older (newest index : Nat) (items : List α) :
    index ∈ (positions test 0 items).take ((positions test 0 items).length - newest) ↔
      ∃ item, items[index]? = some item ∧ test item = true ∧ newest ≤ laterCount test items index := by
  constructor
  · intro member
    obtain ⟨item, found, passes⟩ := (mem_positions test index items).mp (List.mem_of_mem_take member)
    obtain ⟨front, back, split, notFront, notBack, behind⟩ := positions_split test index items item found passes
    rw [split, mem_take_split front back index _ notFront, List.length_append, List.length_cons] at member
    exact ⟨item, found, passes, by omega⟩
  · rintro ⟨item, found, passes, many⟩
    obtain ⟨front, back, split, notFront, notBack, behind⟩ := positions_split test index items item found passes
    rw [split, mem_take_split front back index _ notFront, List.length_append, List.length_cons]
    omega

end Positions

end DataPilot.Base
