import DataPilot.Base.Runs

set_option autoImplicit false

namespace DataPilot.Base

-- Parties that share a state, each with one of its own.
structure World (Shared Party : Type) where
  shared : Shared
  parties : List Party := []

-- A party comes in by a call; the one at an index takes a step.
inductive PartyLabel (Call Event : Type) where
  | call (call : Call)
  | act (index : Nat) (event : Event)

section Parties

variable {Shared Party Call Event : Type} (enter : Call → Party)
variable (act : Shared → List Party → Party → Event → Option (Shared × Party))

-- What a party does may depend on the others, as where one of them holds a lock.
def World.step (world : World Shared Party) : PartyLabel Call Event → Option (World Shared Party)
  | .call call => some { world with parties := world.parties ++ [enter call] }
  | .act index event =>
      match world.parties[index]? with
      | none => none
      | some party =>
          match act world.shared (world.parties.eraseIdx index) party event with
          | none => none
          | some (shared, after) => some { shared, parties := world.parties.set index after }

variable {enter act}

theorem split_at (parties : List Party) (index : Nat) (party : Party) (found : parties[index]? = some party) :
    ∃ front back, parties = front ++ party :: back ∧ front.length = index := by
  obtain ⟨inside, rfl⟩ := List.getElem?_eq_some_iff.mp found
  refine ⟨parties.take index, parties.drop (index + 1), ?_, List.length_take_of_le (Nat.le_of_lt inside)⟩
  rw [List.getElem_cons_drop, List.take_append_drop]

theorem erase_acting (front back : List Party) (party : Party) :
    (front ++ party :: back).eraseIdx front.length = front ++ back := by
  rw [List.eraseIdx_append_of_length_le (Nat.le_refl _), Nat.sub_self, List.eraseIdx_cons_zero]

theorem world_step_cases (world next : World Shared Party) (label : PartyLabel Call Event)
    (taken : world.step enter act label = some next) :
    (∃ call, label = .call call ∧ next = { world with parties := world.parties ++ [enter call] }) ∨
      ∃ front party back event shared after, label = .act front.length event ∧
        world.parties = front ++ party :: back ∧ act world.shared (front ++ back) party event = some (shared, after) ∧
        next = { shared, parties := front ++ after :: back } := by
  cases label with
  | call call => exact .inl ⟨call, rfl, (Option.some.inj taken).symm⟩
  | act index event =>
      simp only [World.step] at taken
      cases found : world.parties[index]? with
      | none => simp [found] at taken
      | some party =>
          obtain ⟨front, back, parties, rfl⟩ := split_at world.parties index party found
          have others : world.parties.eraseIdx front.length = front ++ back := by
            rw [parties, erase_acting]
          cases acted : act world.shared (front ++ back) party event with
          | none => simp [found, others, acted] at taken
          | some result =>
              obtain ⟨shared, after⟩ := result
              simp only [found, others, acted, Option.some.injEq] at taken
              refine .inr ⟨front, party, back, event, shared, after, rfl, parties, acted, ?_⟩
              rw [← taken, parties, List.set_append_right _ _ (Nat.le_refl _)]
              simp

theorem replaced_at (front back : List Party) (before after : Party) :
    (front ++ after :: back)[front.length]? = some after ∧
      ∀ index, index ≠ front.length → (front ++ after :: back)[index]? = (front ++ before :: back)[index]? := by
  refine ⟨by simp, fun index other => ?_⟩
  have set : front ++ after :: back = (front ++ before :: back).set front.length after := by
    rw [List.set_append_right _ _ (Nat.le_refl _)]
    simp
  rw [set, List.getElem?_set_ne other.symm]

theorem lookup_replaced (front back : List Party) (before after found : Party) (index : Nat)
    (lookup : (front ++ after :: back)[index]? = some found) :
    (index = front.length ∧ found = after) ∨ (index ≠ front.length ∧ (front ++ before :: back)[index]? = some found) := by
  obtain ⟨here, elsewhere⟩ := replaced_at front back before after
  by_cases same : index = front.length
  · rw [same, here] at lookup
    exact .inl ⟨same, (Option.some.inj lookup).symm⟩
  · rw [elsewhere index same] at lookup
    exact .inr ⟨same, lookup⟩

theorem other_mem (front back : List Party) (party found : Party) (index : Nat) (other : index ≠ front.length)
    (lookup : (front ++ party :: back)[index]? = some found) : found ∈ front ++ back := by
  rcases Nat.lt_or_ge index front.length with before | behind
  · rw [List.getElem?_append_left before] at lookup
    exact List.mem_append_left _ (List.mem_of_getElem? lookup)
  · rw [List.getElem?_append_right behind, List.getElem?_cons] at lookup
    rw [if_neg (by omega)] at lookup
    exact List.mem_append_right _ (List.mem_of_getElem? lookup)

theorem mem_moved (front back : List Party) (after found : Party) (member : found ∈ front ++ after :: back) :
    found = after ∨ found ∈ front ++ back := by
  rcases List.mem_append.mp member with old | rest
  · exact .inr (List.mem_append_left _ old)
  · rcases List.mem_cons.mp rest with here | behind
    · exact .inl here
    · exact .inr (List.mem_append_right _ behind)

theorem mem_others (front back : List Party) (before found : Party) (member : found ∈ front ++ back) :
    found ∈ front ++ before :: back := by
  rcases List.mem_append.mp member with old | behind
  · exact List.mem_append_left _ old
  · exact List.mem_append_right _ (List.mem_cons_of_mem before behind)

theorem mem_replaced (front back : List Party) (before after found : Party) (member : found ∈ front ++ after :: back) :
    found = after ∨ found ∈ front ++ before :: back :=
  (mem_moved front back after found member).imp_right (mem_others front back before found)

theorem entered_at (parties : List Party) (party found : Party) (index : Nat)
    (lookup : (parties ++ [party])[index]? = some found) : parties[index]? = some found ∨ found = party := by
  rcases Nat.lt_or_ge index parties.length with inside | outside
  · rw [List.getElem?_append_left inside] at lookup
    exact .inl lookup
  · rw [List.getElem?_append_right outside] at lookup
    exact .inr (List.mem_singleton.mp (List.mem_of_getElem? lookup))

theorem lookup_entered (parties : List Party) (party found : Party) (index : Nat)
    (lookup : parties[index]? = some found) : (parties ++ [party])[index]? = some found := by
  obtain ⟨inside, _⟩ := List.getElem?_eq_some_iff.mp lookup
  rwa [List.getElem?_append_left inside]

def Exclusive (holds : Party → Bool) (parties : List Party) : Prop := parties.countP holds ≤ 1

theorem exclusive_split (holds : Party → Bool) (front back : List Party) (party : Party) :
    Exclusive holds (front ++ party :: back) ↔ (front ++ back).countP holds + (holds party).toNat ≤ 1 := by
  rw [Exclusive, List.countP_append, List.countP_append, List.countP_cons]
  cases holds party <;> simp only [Bool.toNat_true, Bool.toNat_false, if_true, Bool.false_eq_true, if_false] <;> omega

theorem exclusive_others (holds : Party → Bool) (front back : List Party) (party : Party)
    (exclusive : Exclusive holds (front ++ party :: back)) (held : holds party = true) :
    ∀ other ∈ front ++ back, holds other = false := by
  rw [exclusive_split, held] at exclusive
  have unheld : (front ++ back).countP holds = 0 := by simpa using exclusive
  intro other member
  simpa using List.countP_eq_zero.mp unheld other member

theorem none_held (holds : Party → Bool) (parties : List Party) (free : ∀ party ∈ parties, holds party = false) :
    parties.countP holds = 0 := List.countP_eq_zero.mpr fun party member => by simp [free party member]

theorem exclusive_moved (holds : Party → Bool) (front back : List Party) (before after : Party)
    (exclusive : Exclusive holds (front ++ before :: back))
    (acquires : holds after = true → holds before = true ∨ ∀ other ∈ front ++ back, holds other = false) :
    Exclusive holds (front ++ after :: back) := by
  rw [exclusive_split] at exclusive ⊢
  cases held : holds after with
  | false => exact Nat.le_trans (Nat.le_add_right _ _) exclusive
  | true =>
      rcases acquires held with already | free
      · simpa [already] using exclusive
      · simp [none_held holds _ free]

theorem exclusive_kept (holds : Party → Bool) (enters : ∀ call, holds (enter call) = false)
    (acquires : ∀ shared others party event changed after, act shared others party event = some (changed, after) →
      holds after = true → holds party = true ∨ ∀ other ∈ others, holds other = false)
    (world next : World Shared Party) (label : PartyLabel Call Event) (exclusive : Exclusive holds world.parties)
    (taken : world.step enter act label = some next) : Exclusive holds next.parties := by
  rcases world_step_cases world next label taken with
    ⟨call, _, rfl⟩ | ⟨front, party, back, event, shared, after, _, parties, acted, rfl⟩
  · simpa [Exclusive, List.countP_append, enters call] using exclusive
  · rw [parties] at exclusive
    exact exclusive_moved holds front back party after exclusive (acquires _ _ _ _ _ _ acted)

end Parties

section Drawn

variable {Party : Type} {committed : List Nat} {front back : List Party} {before after : Party} {next : Nat}

-- Identifiers drawn from a counter: those of the committed rows and those that
-- the parties hold are distinct and below it.
def Drawn (pending : Party → Option Nat) (committed : List Nat) (parties : List Party) (next : Nat) : Prop :=
  (committed ++ parties.filterMap pending).Nodup ∧ ∀ id ∈ committed ++ parties.filterMap pending, id < next

theorem filter_map_split (pending : Party → Option Nat) (front back : List Party) (party : Party) :
    ((front ++ party :: back).filterMap pending).Perm ((pending party).toList ++ (front ++ back).filterMap pending) := by
  rw [List.filterMap_append, List.filterMap_append, List.filterMap_cons]
  cases pending party with
  | none => exact List.Perm.refl _
  | some id => exact List.perm_middle

variable {pending : Party → Option Nat}

theorem drawn_perm (parties others : List Party) (rows : List Nat) (drawn : Drawn pending committed parties next)
    (same : (rows ++ others.filterMap pending).Perm (committed ++ parties.filterMap pending)) :
    Drawn pending rows others next :=
  ⟨same.nodup_iff.mpr drawn.1, fun id member => drawn.2 id (same.mem_iff.mp member)⟩

theorem drawn_later (parties : List Party) (later : Nat) (drawn : Drawn pending committed parties next) (grown : next ≤ later) :
    Drawn pending committed parties later :=
  ⟨drawn.1, fun id member => Nat.lt_of_lt_of_le (drawn.2 id member) grown⟩

theorem drawn_entered (parties : List Party) (party : Party) (drawn : Drawn pending committed parties next)
    (bare : pending party = none) : Drawn pending committed (parties ++ [party]) next := by
  apply drawn_perm parties (parties ++ [party]) committed drawn
  simp [List.filterMap_append, bare]

theorem drawn_kept (drawn : Drawn pending committed (front ++ before :: back) next) (same : pending after = pending before) :
    Drawn pending committed (front ++ after :: back) next := by
  apply drawn_perm _ _ _ drawn
  simp [List.filterMap_append, List.filterMap_cons, same]

theorem drawn_released (drawn : Drawn pending committed (front ++ before :: back) next) (bare : pending after = none) :
    Drawn pending committed (front ++ after :: back) next := by
  have part : (committed ++ (front ++ after :: back).filterMap pending).Sublist
      (committed ++ (front ++ before :: back).filterMap pending) := by
    apply List.Sublist.append_left
    rw [List.filterMap_append, List.filterMap_append, List.filterMap_cons, bare]
    exact (List.Sublist.filterMap pending (List.sublist_cons_self before back)).append_left _
  exact ⟨part.nodup drawn.1, fun id member => drawn.2 id (part.subset member)⟩

theorem drawn_new (drawn : Drawn pending committed (front ++ before :: back) next) (bare : pending before = none)
    (taken : pending after = some next) : Drawn pending committed (front ++ after :: back) (next + 1) := by
  have same : (committed ++ (front ++ after :: back).filterMap pending).Perm
      (next :: (committed ++ (front ++ before :: back).filterMap pending)) := by
    have split := (filter_map_split pending front back after).append_left committed
    have old := (filter_map_split pending front back before).append_left committed
    rw [taken] at split
    rw [bare] at old
    exact split.trans (List.perm_middle.trans (old.symm.cons next))
  refine ⟨same.nodup_iff.mpr (List.nodup_cons.mpr ⟨fun member => ?_, drawn.1⟩), ?_⟩
  · exact Nat.lt_irrefl next (drawn.2 next member)
  · intro id member
    rcases List.mem_cons.mp (same.mem_iff.mp member) with rfl | old
    · exact Nat.lt_succ_self _
    · exact Nat.lt_succ_of_lt (drawn.2 id old)

theorem drawn_distinct (id : Nat) (other : Party) (drawn : Drawn pending committed (front ++ before :: back) next)
    (held : pending before = some id) (member : other ∈ front ++ back) : pending other ≠ some id := by
  intro same
  have parties := (List.nodup_append.mp drawn.1).2.1
  have distinct := (filter_map_split pending front back before).nodup_iff.mp parties
  rw [held] at distinct
  exact (List.nodup_cons.mp distinct).1 (List.mem_filterMap.mpr ⟨other, member, same⟩)

theorem drawn_settled (id : Nat) (drawn : Drawn pending committed (front ++ before :: back) next)
    (held : pending before = some id) (bare : pending after = none) :
    Drawn pending (committed ++ [id]) (front ++ after :: back) next := by
  apply drawn_perm _ _ _ drawn
  have old := (filter_map_split pending front back before).append_left committed
  rw [held] at old
  refine List.Perm.trans ?_ old.symm
  rw [List.append_assoc]
  refine List.Perm.append_left committed ?_
  simp [List.filterMap_append, bare]

end Drawn

end DataPilot.Base
