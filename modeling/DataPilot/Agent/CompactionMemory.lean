import DataPilot.Agent.CompactionPasses

set_option autoImplicit false

namespace DataPilot.Agent

open DataPilot.Base

-- The message objects that exist and the lists of references to them.
structure Memory where
  objects : List ChatMessage
  lists : List (List Nat)
  valid : ∀ references ∈ lists, ∀ reference ∈ references, reference < objects.length

def Memory.references (memory : Memory) (list : Nat) : List Nat := memory.lists.getD list []

def Memory.read (memory : Memory) (list : Nat) : List ChatMessage :=
  (memory.references list).filterMap fun reference => memory.objects[reference]?

-- [message.model_copy(deep=True) for message in messages]: new objects, and the
-- list of references to them as the last list.
def Memory.copyList (memory : Memory) (list : Nat) : Memory where
  objects := memory.objects ++ memory.read list
  lists := memory.lists ++ [List.range' memory.objects.length (memory.read list).length]
  valid := by
    intro references member reference inside
    rw [List.length_append]
    rcases List.mem_append.mp member with old | new
    · have bound := memory.valid references old reference inside
      omega
    · rw [List.mem_singleton.mp new, List.mem_range'_1] at inside
      exact inside.2

-- compacted[index] = message: a new object and one reference of the list.
def Memory.assign (memory : Memory) (list index : Nat) (message : ChatMessage) : Memory where
  objects := memory.objects ++ [message]
  lists := memory.lists.set list ((memory.references list).set index memory.objects.length)
  valid := by
    have within : ∀ references ∈ memory.lists, ∀ reference ∈ references, reference < memory.objects.length + 1 :=
      fun references member reference inside => Nat.lt_succ_of_lt (memory.valid references member reference inside)
    intro references member reference inside
    rw [List.length_append, List.length_singleton]
    rcases List.mem_or_eq_of_mem_set member with old | rfl
    · exact within references old reference inside
    · rcases List.mem_or_eq_of_mem_set inside with old | rfl
      · rw [Memory.references] at old
        cases here : memory.lists[list]? with
        | none => simp [List.getD, here] at old
        | some found =>
            rw [List.getD, here, Option.getD_some] at old
            exact within found (List.mem_of_getElem? here) reference old
      · exact Nat.lt_succ_self _

def indexError : PyException := ⟨"IndexError", "list index out of range"⟩

-- A loop over indexes of a list whose body assigns to the index or does nothing.
def Memory.assignEach (rewrite : Nat → ChatMessage → Except PyException (Option ChatMessage)) (list : Nat) :
    List Nat → Memory → Except PyException Memory
  | [], memory => .ok memory
  | index :: rest, memory =>
      match (memory.read list)[index]? with
      | none => .error indexError
      | some message =>
          match rewrite index message with
          | .error failure => .error failure
          | .ok none => Memory.assignEach rewrite list rest memory
          | .ok (some changed) => Memory.assignEach rewrite list rest (memory.assign list index changed)

def oldUpdate (loads : JsonLoads) (_ : Nat) (message : ChatMessage) : Except PyException (Option ChatMessage) :=
  (compactMessage loads message true).map some

def allUpdate (loads : JsonLoads) (recent : List Nat) (index : Nat) (message : ChatMessage) :
    Except PyException (Option ChatMessage) :=
  if message.role = .tool then (compactMessage loads message false).map some
  else if index ∉ recent ∧ message.role ≠ .system ∧ message.text ≠ "" then
    .ok (some { message with content := some (slice message.text 500) })
  else .ok none

-- The two passes over the copied list that is made of the one passed in.
def Memory.compactionPasses (memory : Memory) (loads : JsonLoads) (config : AgentConfig) (messages : Nat) :
    Except PyException (Nat × Memory) :=
  let compacted := memory.lists.length
  let copied := memory.copyList messages
  match copied.assignEach (oldUpdate loads) compacted (oldToolIndexes config (copied.read compacted)) with
  | .error failure => .error failure
  | .ok once =>
      if totalChars (once.read compacted) ≤ config.contextCharBudget then .ok (compacted, once)
      else
        let recent := recentNonTool (once.read compacted)
        (once.assignEach (allUpdate loads recent) compacted (List.range (once.read compacted).length)).map (compacted, ·)

-- Agent._compacted_messages on the list that is passed to it; it returns a list.
def Memory.compactedMessages (memory : Memory) (interpreter : Interpreter) (config : AgentConfig) (messages : Nat) :
    Except PyException (Nat × Memory) :=
  match (memory.read messages).findSome? interpreter.copyRaises with
  | some failure => .error failure
  | none => memory.compactionPasses interpreter.loads config messages

section Reading

theorem filter_map_at {α β : Type} (read : α → Option β) (items : List α)
    (all : ∀ item ∈ items, ∃ value, read item = some value) (index : Nat) :
    (items.filterMap read)[index]? = items[index]?.bind read := by
  induction items generalizing index with
  | nil => rfl
  | cons item rest ih =>
      obtain ⟨value, found⟩ := all item (List.mem_cons_self ..)
      rw [List.filterMap_cons_some found]
      cases index with
      | zero => simp [found]
      | succ index => simpa using ih (fun other member => all other (List.mem_cons_of_mem _ member)) index

variable (memory : Memory) (list : Nat)

theorem references_valid : ∀ reference ∈ memory.references list, reference < memory.objects.length := by
  intro reference member
  rw [Memory.references, List.getD] at member
  cases here : memory.lists[list]? with
  | none => simp [here] at member
  | some references =>
      rw [here, Option.getD_some] at member
      exact memory.valid references (List.mem_of_getElem? here) reference member

theorem read_at (index : Nat) :
    (memory.read list)[index]? = (memory.references list)[index]?.bind fun reference => memory.objects[reference]? := by
  apply filter_map_at
  intro reference member
  exact ⟨_, List.getElem?_eq_getElem (references_valid memory list reference member)⟩

theorem read_length : (memory.read list).length = (memory.references list).length := by
  rw [Memory.read, List.filterMap_length_eq_length]
  intro reference member
  rw [List.getElem?_eq_getElem (references_valid memory list reference member), Option.isSome_some]

theorem read_copy : (memory.copyList list).read memory.lists.length = memory.read list := by
  have listed : (memory.copyList list).references memory.lists.length =
      List.range' memory.objects.length (memory.read list).length := by
    simp [Memory.references, Memory.copyList, List.getD]
  apply List.ext_getElem?
  intro index
  rw [read_at, listed]
  by_cases inside : index < (memory.read list).length
  · rw [List.getElem?_range' inside, Option.bind_some, Memory.copyList, Nat.one_mul,
      List.getElem?_append_right (Nat.le_add_right ..), Nat.add_sub_cancel_left]
  · rw [List.getElem?_eq_none (by simpa using inside), List.getElem?_eq_none (Nat.not_lt.mp inside), Option.bind_none]

theorem read_assign (index : Nat) (message : ChatMessage) (known : list < memory.lists.length) :
    (memory.assign list index message).read list = (memory.read list).set index message := by
  have listed : (memory.assign list index message).references list =
      (memory.references list).set index memory.objects.length := by
    simp [Memory.references, Memory.assign, List.getD, known]
  apply List.ext_getElem?
  intro place
  rw [read_at, listed]
  by_cases here : index = place
  · subst here
    by_cases inside : index < (memory.references list).length
    · rw [List.getElem?_set_self inside, List.getElem?_set_self (read_length memory list ▸ inside), Option.bind_some,
        Memory.assign, List.getElem?_append_right (Nat.le_refl _), Nat.sub_self]
      rfl
    · have outside := Nat.not_lt.mp inside
      rw [List.getElem?_eq_none (by rw [List.length_set]; exact outside), Option.bind_none,
        List.getElem?_eq_none (by rw [List.length_set, read_length]; exact outside)]
  · rw [List.getElem?_set_ne here, List.getElem?_set_ne here, read_at]
    cases found : (memory.references list)[place]? with
    | none => rfl
    | some reference =>
        have bound := references_valid memory list reference (List.mem_of_getElem? found)
        rw [Option.bind_some, Option.bind_some, Memory.assign, List.getElem?_append_left bound]

end Reading

structure Untouched (before after : Memory) : Prop where
  objects : before.objects <+: after.objects
  lists : before.lists <+: after.lists

theorem copy_untouched (memory : Memory) (list : Nat) : Untouched memory (memory.copyList list) :=
  ⟨List.prefix_append .., List.prefix_append ..⟩

theorem assign_untouched (before memory : Memory) (list index : Nat) (message : ChatMessage)
    (later : before.lists.length ≤ list) (kept : Untouched before memory) :
    Untouched before (memory.assign list index message) := by
  refine ⟨kept.objects.trans (List.prefix_append ..), ?_⟩
  obtain ⟨more, same⟩ := kept.lists
  have written : (memory.assign list index message).lists =
      memory.lists.set list ((memory.references list).set index memory.objects.length) := rfl
  rw [written, ← same, List.set_append_right _ _ later]
  exact List.prefix_append ..

theorem assign_each_untouched (rewrite : Nat → ChatMessage → Except PyException (Option ChatMessage)) (list : Nat)
    (before memory after : Memory) (indexes : List Nat) (later : before.lists.length ≤ list)
    (kept : Untouched before memory) (done : memory.assignEach rewrite list indexes = .ok after) :
    Untouched before after := by
  induction indexes generalizing memory with
  | nil =>
      cases done
      exact kept
  | cons index rest ih =>
      rw [Memory.assignEach] at done
      split at done
      · cases done
      · rename_i message found
        split at done
        · cases done
        · exact ih memory kept done
        · rename_i changed rewritten
          exact ih _ (assign_untouched before memory list index changed later kept) done

theorem assign_each_lists (rewrite : Nat → ChatMessage → Except PyException (Option ChatMessage)) (list : Nat)
    (memory after : Memory) (indexes : List Nat) (done : memory.assignEach rewrite list indexes = .ok after) :
    after.lists.length = memory.lists.length := by
  induction indexes generalizing memory with
  | nil =>
      cases done
      rfl
  | cons index rest ih =>
      rw [Memory.assignEach] at done
      split at done
      · cases done
      · rename_i message found
        split at done
        · cases done
        · exact ih memory done
        · rw [ih _ done]
          exact List.length_set

section Refinement

variable (rewrite : Nat → ChatMessage → Except PyException (Option ChatMessage))
  (pure : Nat → ChatMessage → Except PyException ChatMessage)

theorem rewrite_from_next (done rest : List ChatMessage) (message changed : ChatMessage)
    (rewritten : pure done.length message = .ok changed) :
    (rewriteFrom pure done.length (message :: rest)).map (done ++ ·) =
      (rewriteFrom pure (done ++ [changed]).length rest).map ((done ++ [changed]) ++ ·) := by
  rw [rewriteFrom, rewritten, List.length_append, List.length_singleton]
  cases rewriteFrom pure (done.length + 1) rest with
  | error failure => rfl
  | ok others => simp [Except.map]

theorem assign_each_refines (chosen : List Nat) (bound : Nat)
    (same : ∀ index message, index ∈ chosen → (rewrite index message).map (·.getD message) = pure index message)
    (others : ∀ index message, index < bound → index ∉ chosen → pure index message = .ok message) (list : Nat)
    (todo done : List ChatMessage) (indexes : List Nat) (memory : Memory) (known : list < memory.lists.length)
    (read : memory.read list = done ++ todo) (sized : done.length + todo.length = bound) (ascending : indexes.Pairwise (· < ·))
    (inside : ∀ index ∈ indexes, done.length ≤ index ∧ index < done.length + todo.length)
    (left : ∀ index, done.length ≤ index → (index ∈ chosen ↔ index ∈ indexes)) :
    (memory.assignEach rewrite list indexes).map (fun after => after.read list) =
      (rewriteFrom pure done.length todo).map (done ++ ·) := by
  induction todo generalizing done indexes memory with
  | nil =>
      cases indexes with
      | nil => simp [Memory.assignEach, rewriteFrom, Except.map, read]
      | cons index rest =>
          have bounds := inside index (List.mem_cons_self ..)
          rw [List.length_nil] at bounds
          omega
  | cons message rest ih =>
      have advance : ∀ changed, (done ++ [changed]).length = done.length + 1 := fun changed => by simp
      have resized : ∀ changed, (done ++ [changed]).length + rest.length = bound := fun changed => by
        rw [advance, ← sized, List.length_cons, Nat.add_right_comm, Nat.add_assoc]
      by_cases here : done.length ∈ chosen
      · obtain ⟨later, rfl⟩ : ∃ later, indexes = done.length :: later := by
          have listed := (left done.length (Nat.le_refl _)).mp here
          cases indexes with
          | nil => cases listed
          | cons first later =>
              rcases List.mem_cons.mp listed with rfl | behind
              · exact ⟨later, rfl⟩
              · have below := (List.pairwise_cons.mp ascending).1 _ behind
                have bounds := (inside first (List.mem_cons_self ..)).1
                omega
        obtain ⟨above, rising⟩ := List.pairwise_cons.mp ascending
        have found : (memory.read list)[done.length]? = some message := by simp [read]
        have following : ∀ changed index, index ∈ later →
            (done ++ [changed]).length ≤ index ∧ index < (done ++ [changed]).length + rest.length := by
          intro changed index member
          have bounds := (inside index (List.mem_cons_of_mem _ member)).2
          have beyond := above index member
          rw [List.length_cons] at bounds
          rw [advance]
          omega
        have remaining : ∀ (changed : ChatMessage) (index : Nat), (done ++ [changed]).length ≤ index →
            (index ∈ chosen ↔ index ∈ later) := by
          intro changed index beyond
          rw [advance] at beyond
          rw [left index (by omega), List.mem_cons, or_iff_right (by omega)]
        have step := same done.length message here
        rw [Memory.assignEach, found]
        dsimp only
        cases rewritten : rewrite done.length message with
        | error failure =>
            rw [rewritten] at step
            rw [rewriteFrom, ← step]
            rfl
        | ok update =>
            rw [rewritten] at step
            cases update with
            | none =>
                rw [rewrite_from_next pure done rest message message step.symm]
                exact ih _ later memory known (by simp [read]) (resized message) rising (following message) (remaining message)
            | some changed =>
                rw [rewrite_from_next pure done rest message changed step.symm]
                have assigned := read_assign memory list done.length changed known
                rw [read, List.set_append_right _ _ (Nat.le_refl _), Nat.sub_self, List.set_cons_zero] at assigned
                have knownStill : list < (memory.assign list done.length changed).lists.length := by
                  simpa [Memory.assign] using known
                exact ih _ later _ knownStill (by simp [assigned]) (resized changed) rising (following changed)
                  (remaining changed)
      · have inRange : done.length < bound := by
          rw [← sized, List.length_cons]
          omega
        rw [rewrite_from_next pure done rest message message (others done.length message inRange here)]
        have notListed : done.length ∉ indexes := mt (left done.length (Nat.le_refl _)).mpr here
        apply ih _ indexes memory known (by simp [read]) (resized message) ascending
        · intro index member
          have bounds := inside index member
          have apart : index ≠ done.length := fun same => notListed (same ▸ member)
          rw [List.length_cons] at bounds
          rw [advance]
          omega
        · intro index beyond
          rw [advance] at beyond
          exact left index (by omega)

end Refinement

theorem positions_ascending (test : ChatMessage → Bool) (messages : List ChatMessage) :
    (positions test 0 messages).Pairwise (· < ·) := by
  have sublist : (positions test 0 messages).Sublist (List.range' 0 messages.length) := by
    rw [← List.zipIdx_map_snd]
    exact List.filter_sublist.map Prod.snd
  exact List.Pairwise.sublist sublist (List.pairwise_lt_range' ..)

theorem old_indexes_ascending (config : AgentConfig) (messages : List ChatMessage) :
    (oldToolIndexes config messages).Pairwise (· < ·) := (positions_ascending isTool messages).sublist (List.take_sublist ..)

theorem old_indexes_inside (config : AgentConfig) (messages : List ChatMessage) :
    ∀ index ∈ oldToolIndexes config messages, index < messages.length := by
  intro index member
  have bounds := (positions_bounds isTool 0 index messages (List.mem_of_mem_take member)).2
  omega

theorem map_nothing (result : Except PyException (List ChatMessage)) : result.map ([] ++ ·) = result := by
  cases result <;> rfl

theorem update_map (result : Except PyException ChatMessage) (message : ChatMessage) :
    (result.map some).map (·.getD message) = result := by
  cases result <;> rfl

theorem all_update (loads : JsonLoads) (recent : List Nat) (index : Nat) (message : ChatMessage) :
    (allUpdate loads recent index message).map (·.getD message) = compactAll loads recent index message := by
  unfold allUpdate compactAll
  split
  · exact update_map _ message
  · split <;> rfl

theorem old_loop_refines loads (memory : Memory) (config : AgentConfig) (list : Nat) (known : list < memory.lists.length) :
    (memory.assignEach (oldUpdate loads) list (oldToolIndexes config (memory.read list))).map (fun after => after.read list) =
      rewriteFrom (compactOld loads (oldToolIndexes config (memory.read list))) 0 (memory.read list) := by
  have refined := assign_each_refines (oldUpdate loads) (compactOld loads (oldToolIndexes config (memory.read list)))
    (oldToolIndexes config (memory.read list)) (memory.read list).length
    (fun index message member => by rw [oldUpdate, update_map, compactOld, if_pos member])
    (fun index message _ absent => by rw [compactOld, if_neg absent]) list (memory.read list) []
    (oldToolIndexes config (memory.read list)) memory known rfl (Nat.zero_add _) (old_indexes_ascending config _)
    (fun index member => ⟨Nat.zero_le _, by simpa using old_indexes_inside config _ index member⟩) (fun index _ => Iff.rfl)
  rw [refined]
  exact map_nothing _

theorem all_loop_refines (loads : JsonLoads) (memory : Memory) (recent : List Nat) (list : Nat)
    (known : list < memory.lists.length) :
    (memory.assignEach (allUpdate loads recent) list (List.range (memory.read list).length)).map (fun after => after.read list) =
      rewriteFrom (compactAll loads recent) 0 (memory.read list) := by
  have refined := assign_each_refines (allUpdate loads recent) (compactAll loads recent) (List.range (memory.read list).length)
    (memory.read list).length (fun index message _ => all_update loads recent index message)
    (fun index message within absent => absurd (List.mem_range.mpr within) absent) list (memory.read list) []
    (List.range (memory.read list).length) memory known rfl (Nat.zero_add _) List.pairwise_lt_range
    (fun index member => ⟨Nat.zero_le _, by simpa using member⟩) (fun index _ => Iff.rfl)
  rw [refined]
  exact map_nothing _

theorem memory_passes_refine (loads : JsonLoads) (memory : Memory) (config : AgentConfig) (messages : Nat) :
    (memory.compactionPasses loads config messages).map (fun result => result.2.read result.1) =
      compactionPasses loads config (memory.read messages) := by
  have copied := read_copy memory messages
  have known : memory.lists.length < (memory.copyList messages).lists.length := by simp [Memory.copyList]
  have first := old_loop_refines loads (memory.copyList messages) config memory.lists.length known
  unfold Memory.compactionPasses compactionPasses
  dsimp only
  rw [copied] at first ⊢
  rw [← first]
  cases looped : (memory.copyList messages).assignEach (oldUpdate loads) memory.lists.length
      (oldToolIndexes config (memory.read messages)) with
  | error failure => rfl
  | ok once =>
      have knownStill : memory.lists.length < once.lists.length := by
        rw [assign_each_lists (oldUpdate loads) memory.lists.length _ once _ looped]
        exact known
      dsimp only [Except.map]
      by_cases fits : totalChars (once.read memory.lists.length) ≤ config.contextCharBudget
      · rw [if_pos fits, if_pos fits]
      · rw [if_neg fits, if_neg fits, ← all_loop_refines loads once _ memory.lists.length knownStill]
        cases once.assignEach (allUpdate loads (recentNonTool (once.read memory.lists.length))) memory.lists.length
          (List.range (once.read memory.lists.length).length) <;> rfl

theorem memory_passes_untouched (loads : JsonLoads) (memory after : Memory) (config : AgentConfig) (messages compacted : Nat)
    (done : memory.compactionPasses loads config messages = .ok (compacted, after)) : Untouched memory after := by
  have copied := copy_untouched memory messages
  unfold Memory.compactionPasses at done
  dsimp only at done
  split at done
  · cases done
  rename_i once looped
  have kept := assign_each_untouched (oldUpdate loads) memory.lists.length memory _ once _ (Nat.le_refl _) copied looped
  split at done
  · cases done
    exact kept
  cases again : once.assignEach (allUpdate loads (recentNonTool (once.read memory.lists.length))) memory.lists.length
      (List.range (once.read memory.lists.length).length) with
  | error failure => simp [again, Except.map] at done
  | ok twice =>
      simp only [again, Except.map, Except.ok.injEq, Prod.mk.injEq] at done
      rw [← done.2]
      exact assign_each_untouched _ memory.lists.length memory once twice _ (Nat.le_refl _) kept again

-- The messages of the returned list are those that compactedMessages computes.
theorem memory_refines (memory : Memory) (interpreter : Interpreter) (config : AgentConfig) (messages : Nat) :
    (memory.compactedMessages interpreter config messages).map (fun result => result.2.read result.1) =
      compactedMessages interpreter config (memory.read messages) := by
  unfold Memory.compactedMessages DataPilot.Agent.compactedMessages
  cases (memory.read messages).findSome? interpreter.copyRaises with
  | some failure => rfl
  | none => exact memory_passes_refine interpreter.loads memory config messages

theorem memory_untouched (memory after : Memory) (interpreter : Interpreter) (config : AgentConfig)
    (messages compacted : Nat) (done : memory.compactedMessages interpreter config messages = .ok (compacted, after)) :
    Untouched memory after := by
  unfold Memory.compactedMessages at done
  split at done
  · cases done
  · exact memory_passes_untouched interpreter.loads memory after config messages compacted done

end DataPilot.Agent
