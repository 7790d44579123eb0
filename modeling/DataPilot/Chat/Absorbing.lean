import DataPilot.Chat.Ownership

set_option autoImplicit false

namespace DataPilot.Chat

open DataPilot.Base DataPilot.Agent

-- The messages that a worker still may write, or that a worker is about to be
-- started for.
def System.writerIds (system : System) : List Uuid :=
  (system.manager.tasks.filter fun entry => entry.2.state.mayWrite).map Prod.fst ++ system.pendingIds

-- A request rewrites a message only while it is still streaming and has no
-- worker that may write it.
def Unrivalled (system : System) : Label → Prop
  | .perform index _ =>
      match system.handlers[index]? with
      | some ⟨_, .waits frame⟩ =>
          match frame.call with
          | .completeAssistantMessage messageId _ =>
              messageId ∉ system.writerIds ∧ ∀ row ∈ system.store.rows, row.id = messageId → row.status = .streaming
          | _ => True
      | _ => True
  | _ => True

-- A message that is not streaming any more has no writer.
structure Settled (system : System) : Prop extends Owned system where
  unwritten : ∀ row ∈ system.store.rows, row.status ≠ .streaming → row.id ∉ system.writerIds

-- What one step does: it adds a row under the next id, or rewrites a streaming
-- row that then has no writer; and only the next id gets a new writer.
structure Moved (system next : System) : Prop where
  rows : ∀ row ∈ next.store.rows, row ∈ system.store.rows ∨
    (row.id = system.nextId ∧ (row.status ≠ .streaming → row.id ∉ next.writerIds)) ∨
    (row.id ∉ next.writerIds ∧ ∃ old ∈ system.store.rows, old.id = row.id ∧ old.status = .streaming)
  writers : ∀ id ∈ next.writerIds, id ∈ system.writerIds ∨ id = system.nextId

theorem mem_writers (system : System) (id : Uuid) :
    id ∈ system.writerIds ↔
      (∃ task, (id, task) ∈ system.manager.tasks ∧ task.state.mayWrite = true) ∨ id ∈ system.pendingIds := by
  rw [System.writerIds, List.mem_append]
  refine or_congr_left ⟨fun member => ?_, fun ⟨task, member, writes⟩ => ?_⟩
  · obtain ⟨⟨key, task⟩, inside, rfl⟩ := List.mem_map.mp member
    obtain ⟨present, writes⟩ := List.mem_filter.mp inside
    exact ⟨task, present, writes⟩
  · exact List.mem_map_of_mem (List.mem_filter.mpr ⟨member, writes⟩)

theorem writers_owned (system : System) (id : Uuid) (writes : id ∈ system.writerIds) : id ∈ system.ownedIds := by
  rcases (mem_writers system id).mp writes with ⟨task, member, _⟩ | pending
  · exact List.mem_append_left _ (List.mem_map_of_mem member)
  · exact List.mem_append_right _ pending

theorem settled_moved (system next : System) (settled : Settled system) (owned : Owned next)
    (moved : Moved system next) : Settled next := by
  refine ⟨owned, fun row member terminal => ?_⟩
  rcases moved.rows row member with old | ⟨_, unwritten⟩ | ⟨unwritten, _⟩
  · intro writes
    rcases moved.writers row.id writes with before | new
    · exact settled.unwritten row old terminal before
    · exact Nat.lt_irrefl _ (new ▸ settled.rows row old)
  · exact unwritten terminal
  · exact unwritten

theorem update_writers (manager : ChatTaskManager) (messageId id : Uuid) (change : ChatTask → ChatTask) (task : ChatTask)
    (keeps : ∀ old, (messageId, old) ∈ manager.tasks → (change old).state.mayWrite = true → old.state.mayWrite = true)
    (member : (id, task) ∈ (manager.update messageId change).tasks) (writes : task.state.mayWrite = true) :
    ∃ old, (id, old) ∈ manager.tasks ∧ old.state.mayWrite = true := by
  obtain ⟨⟨key, old⟩, inside, changed⟩ := List.mem_map.mp member
  split at changed
  · rename_i here
    obtain rfl : key = messageId := here
    obtain ⟨rfl, rfl⟩ := Prod.mk.inj changed
    exact ⟨old, inside, keeps old inside writes⟩
  · obtain ⟨rfl, rfl⟩ := Prod.mk.inj changed
    exact ⟨old, inside, writes⟩

theorem set_pending (system : System) (index : Nat) (workspaceId : Uuid) (state : HandlerState) (old : Handler) (id : Uuid)
    (here : system.handlers[index]? = some old) (pending : id ∈ (system.setHandler index workspaceId state).pendingIds) :
    Handler.starts ⟨workspaceId, state⟩ = some id ∨ id ∈ system.pendingIds := by
  rcases List.mem_append.mp pending with call | handler
  · exact .inr (List.mem_append_left _ call)
  · have exchanged := filter_map_set Handler.starts system.handlers index old ⟨workspaceId, state⟩ here
    rcases List.mem_append.mp (exchanged.subset (List.mem_append_right _ handler)) with new | before
    · exact .inl (Option.mem_toList.mp new)
    · exact .inr (List.mem_append_right _ before)

theorem arrive_moved (system next : System) (workspaceId : Uuid) (request : ChatRequest)
    (taken : system.step (.arrive workspaceId request) = some next) : Moved system next := by
  obtain ⟨manager, state, rfl, managed, idle⟩ := step_arrive system next workspaceId request taken
  refine ⟨fun row member => .inl member, fun id writes => .inl ?_⟩
  rw [mem_writers, pending_snoc system manager workspaceId state idle] at writes
  rw [mem_writers]
  refine writes.imp_left fun ⟨task, member, could⟩ => ?_
  rcases managed with rfl | ⟨messageId, rfl⟩
  · exact ⟨task, member, could⟩
  · exact update_writers system.manager messageId id (fun task => { task with cancelRequested := true }) task
      (fun _ _ writes => writes) member could

theorem perform_moved (system : System) (index now : Nat) (workspaceId : Uuid) (frame : Frame) (settled : Settled system)
    (here : system.handlers[index]? = some ⟨workspaceId, .waits frame⟩)
    (unrivalled : Unrivalled system (.perform index now)) :
    Moved system ({ system with
      store := (system.store.perform workspaceId system.nextId now frame.call).1
      nextId := system.nextId + 1 }.setHandler index workspaceId
        (.wakes frame (system.store.perform workspaceId system.nextId now frame.call).2)) := by
  have writers : ∀ id ∈ ({ system with
      store := (system.store.perform workspaceId system.nextId now frame.call).1
      nextId := system.nextId + 1 }.setHandler index workspaceId
        (.wakes frame (system.store.perform workspaceId system.nextId now frame.call).2)).writerIds,
      id ∈ system.writerIds ∨ (id = system.nextId ∧ ∃ submission, frame = .appendAssistant submission) := by
    intro id writes
    rw [mem_writers] at writes
    rcases writes with running | pending
    · exact .inl ((mem_writers system id).mpr (.inl running))
    · rcases set_pending _ index workspaceId _ _ id here pending with starts | before
      · refine .inr ?_
        rcases perform_starts system.store workspaceId system.nextId now frame with none | fresh
        · rw [none] at starts
          cases starts
        · rw [fresh] at starts
          refine ⟨(Option.some.inj starts).symm, ?_⟩
          cases frame with
          | appendAssistant submission => exact ⟨submission, rfl⟩
          | _ => cases fresh
      · exact .inl ((mem_writers system id).mpr (.inr before))
  refine ⟨fun row member => ?_, fun id writes => (writers id writes).imp_right And.left⟩
  rcases perform_rows system.store workspaceId system.nextId now frame.call row member with
    old | ⟨conversationId, new, sequence, call, rfl⟩ | ⟨messageId, completion, old, call, same, was, here', rewritten⟩
  · exact .inl old
  · refine .inr (.inl ⟨rfl, fun terminal writes => ?_⟩)
    rcases writers _ writes with before | ⟨_, submission, rfl⟩
    · exact Nat.lt_irrefl _ (settled.below _ (writers_owned system _ before))
    · cases call
      exact terminal rfl
  · simp only [Unrivalled, here, call] at unrivalled
    refine .inr (.inr ⟨fun writes => ?_, old, was, here'.trans same.symm, unrivalled.2 old was here'⟩)
    rcases writers _ writes with before | ⟨fresh, _⟩
    · exact unrivalled.1 (same ▸ before)
    · exact Nat.lt_irrefl _ (fresh ▸ same ▸ here' ▸ settled.rows old was)

theorem start_moved (system : System) (workspaceId : Uuid) (submission : Submission) (message : Message) (id : Uuid)
    (task : ChatTask) (member : (id, task) ∈ (system.start workspaceId submission message).manager.tasks) :
    (id, task) ∈ system.manager.tasks ∨ id = message.id := by
  unfold System.start ChatTaskManager.start at member
  dsimp only at member
  split at member
  · exact .inl member
  · exact (List.mem_append.mp member).imp_right fun new => congrArg Prod.fst (List.mem_singleton.mp new)

theorem resume_moved (system next : System) (index : Nat) (taken : system.step (.resume index) = some next) :
    Moved system next := by
  obtain ⟨workspaceId, frame, reply, after, state, here, proceeded, rfl⟩ := step_resume system next index taken
  obtain ⟨idle, ways⟩ := proceed_ways system after workspaceId frame reply state proceeded
  have pends : after.handlers = system.handlers → after.shielded = system.shielded →
      ∀ id ∈ (after.setHandler index workspaceId state).pendingIds, id ∈ system.pendingIds := by
    intro handlers shielded id pending
    rcases set_pending after index workspaceId state _ id (handlers ▸ here) pending with starts | before
    · rw [idle] at starts
      cases starts
    · simpa only [System.pendingIds, handlers, shielded] using before
  rcases ways with ⟨submission, message, rfl, rfl, rfl⟩ | ⟨nextId, _, _, rfl⟩
  · refine ⟨fun row member => .inl member, fun id writes => .inl ?_⟩
    rw [mem_writers] at writes ⊢
    rcases writes with ⟨task, member, writes⟩ | pending
    · rcases start_moved system workspaceId submission message id task member with old | rfl
      · exact .inl ⟨task, old, writes⟩
      · refine .inr (List.mem_append_right _ (List.mem_filterMap.mpr ⟨_, List.mem_of_getElem? here, rfl⟩))
    · exact .inr (pends rfl rfl id pending)
  · refine ⟨fun row member => .inl member, fun id writes => .inl ?_⟩
    rw [mem_writers] at writes ⊢
    exact writes.imp_right (pends rfl rfl id)

theorem advance_writers (manager : ChatTaskManager) (messageId id : Uuid) (old task : ChatTask) (state : WorkerState)
    (found : manager.get messageId = some old) (keeps : state.mayWrite = true → old.state.mayWrite = true)
    (member : (id, task) ∈ (manager.advance messageId state).tasks) (writes : task.state.mayWrite = true) :
    ∃ before, (id, before) ∈ manager.tasks ∧ before.state.mayWrite = true := by
  by_cases finished : state.point = .finished
  · rw [advance_finished _ _ _ finished] at member
    exact ⟨task, (List.mem_filter.mp member).1, writes⟩
  · rw [advance_running _ _ _ finished] at member
    refine update_writers manager messageId id _ task (fun before inside writes => ?_) member writes
    have same : before = old := (manager_get manager messageId old found).2 _ inside rfl
    rw [same]
    exact keeps writes

theorem advance_written (manager : ChatTaskManager) (messageId : Uuid) (task : ChatTask) (state : WorkerState)
    (cannot : state.mayWrite = false) (member : (messageId, task) ∈ (manager.advance messageId state).tasks) :
    task.state.mayWrite = false := by
  by_cases finished : state.point = .finished
  · rw [advance_finished _ _ _ finished] at member
    simpa using (List.mem_filter.mp member).2
  · rw [advance_running _ _ _ finished] at member
    obtain ⟨entry, _, changed⟩ := List.mem_map.mp member
    split at changed
    · rw [← (Prod.mk.inj changed).2]
      exact cannot
    · rename_i elsewhere
      exact absurd (congrArg Prod.fst changed) elsewhere

theorem work_moved (system next : System) (messageId : Uuid) (input : WorkerInput) (now : Nat) (settled : Settled system)
    (taken : system.step (.work messageId input now) = some next) : Moved system next := by
  obtain ⟨task, state, effects, after, found, _, stepped, affected, rfl⟩ :=
    step_work system next messageId input now taken
  have member := (manager_get system.manager messageId task found).1
  have keyed : task.state.arguments.assistantMessageId = messageId := settled.keyed _ member
  have running : messageId ∈ system.manager.ids := List.mem_map_of_mem member
  rcases work_ways system after task state input effects now stepped affected with
    ⟨rfl, keeps⟩ | ⟨store, message, completed, rfl, could, cannot⟩ | ⟨rfl, could, finished⟩
  · refine ⟨fun row inside => .inl inside, fun id writes => .inl ?_⟩
    rw [mem_writers] at writes ⊢
    refine writes.imp_left fun ⟨other, inside, writes⟩ => ?_
    exact advance_writers _ messageId id task other state found keeps inside writes
  · have silent : ∀ id, id ∈ ({ system with
        store, manager := system.manager.advance messageId state } : System).writerIds →
        id ∈ system.writerIds ∧ id ≠ messageId := by
      intro id writes
      rw [mem_writers] at writes
      rcases writes with ⟨other, inside, writes⟩ | pending
      · refine ⟨(mem_writers system id).mpr (.inl ?_), ?_⟩
        · exact advance_writers _ messageId id task other state found (fun _ => could) inside writes
        · rintro rfl
          rw [advance_written _ _ _ _ cannot inside] at writes
          cases writes
      · refine ⟨(mem_writers system id).mpr (.inr pending), ?_⟩
        rintro rfl
        exact (List.nodup_append.mp settled.unique).2.2 _ running _ pending rfl
    refine ⟨fun row inside => ?_, fun id writes => .inl (silent id writes).1⟩
    rw [keyed] at completed
    rcases complete_rows _ _ _ _ _ _ _ completed row inside with old | ⟨same, old, was, here, _⟩
    · exact .inl old
    · refine .inr (.inr ⟨fun writes => (silent _ writes).2 same, old, was, here.trans same.symm, ?_⟩)
      by_contra terminal
      refine settled.unwritten old was terminal ((mem_writers system _).mpr (.inl ⟨task, ?_, could⟩))
      rw [here]
      exact member
  · refine ⟨fun row inside => .inl inside, fun id writes => .inl ?_⟩
    rw [mem_writers] at writes ⊢
    rcases writes with ⟨other, inside, writes⟩ | pending
    · exact .inl (advance_writers _ messageId id task other state found (fun _ => could) inside writes)
    · simp only [System.pendingIds, List.map_append, List.map_cons, List.map_nil, List.append_assoc, keyed,
        List.mem_append, List.mem_singleton] at pending ⊢
      rcases pending with call | rfl | handler
      · exact .inr (.inl call)
      · exact .inl ⟨task, member, could⟩
      · exact .inr (.inr handler)

theorem shielded_moved (system next : System) (index now : Nat) (settled : Settled system)
    (taken : system.step (.shielded index now) = some next) : Moved system next := by
  obtain ⟨call, found, ways⟩ := step_shielded system next index now taken
  have left := shielded_handed system index call found
  have absent := (List.nodup_cons.mp (left.nodup_iff.mpr settled.unique)).1
  have fewer : ∀ id, id ∈ ({ system with shielded := system.shielded.eraseIdx index } : System).writerIds →
      id ∈ system.writerIds := by
    intro id writes
    rw [mem_writers] at writes ⊢
    refine writes.imp_right fun pending => ?_
    rcases List.mem_append.mp pending with inside | handler
    · exact List.mem_append_left _ ((List.eraseIdx_sublist ..).map _ |>.subset inside)
    · exact List.mem_append_right _ handler
  rcases ways with rfl | ⟨store, message, completed, rfl⟩
  · exact ⟨fun row inside => .inl inside, fun id writes => .inl (fewer id writes)⟩
  · refine ⟨fun row inside => ?_, fun id writes => .inl (fewer id writes)⟩
    rcases complete_rows _ _ _ _ _ _ _ completed row inside with old | ⟨same, old, was, here, _⟩
    · exact .inl old
    · refine .inr (.inr ⟨fun writes => absent (same ▸ writers_owned _ _ writes), old, was, here.trans same.symm, ?_⟩)
      by_contra terminal
      refine settled.unwritten old was terminal ((mem_writers system _).mpr (.inr ?_))
      rw [here]
      exact List.mem_append_left _ (List.mem_map_of_mem (List.mem_of_getElem? found))

theorem step_moved (system next : System) (label : Label) (settled : Settled system)
    (unrivalled : Unrivalled system label) (taken : system.step label = some next) : Moved system next := by
  cases label with
  | arrive workspaceId request => exact arrive_moved system next workspaceId request taken
  | perform index now =>
      obtain ⟨workspaceId, frame, here, rfl⟩ := step_perform system next index now taken
      exact perform_moved system index now workspaceId frame settled here unrivalled
  | resume index => exact resume_moved system next index taken
  | work messageId input now => exact work_moved system next messageId input now settled taken
  | shielded index now => exact shielded_moved system next index now settled taken

-- A row that is not streaming any more is the only row of its message.
def Stands (row : Message) (system : System) : Prop :=
  Settled system ∧ row.id < system.nextId ∧ ∀ other ∈ system.store.rows, other.id = row.id → other = row

theorem stands_step (row : Message) (terminal : row.status ≠ .streaming) (system next : System) (label : Label)
    (stands : Stands row system) (unrivalled : Unrivalled system label) (taken : system.step label = some next) :
    Stands row next := by
  obtain ⟨settled, below, only⟩ := stands
  have moved := step_moved system next label settled unrivalled taken
  have owned := owned_step system next label settled.toOwned taken
  refine ⟨settled_moved system next settled owned moved, ?_, fun other member same => ?_⟩
  · exact Nat.lt_of_lt_of_le below (next_id_grows system next label taken)
  · rcases moved.rows other member with old | ⟨fresh, _⟩ | ⟨_, old, was, here, streaming⟩
    · exact only other old same
    · exact absurd (same.symm.trans fresh) (Nat.ne_of_lt below)
    · rw [only old was (here.trans same)] at streaming
      exact absurd streaming terminal

theorem settled_serving (store : Store) (nextId : Uuid) (fresh : ∀ row ∈ store.rows, row.id < nextId) :
    Settled (serving store nextId) := ⟨owned_serving store nextId fresh, nofun⟩

theorem rows_only (store : Store) (row other : Message) (present : row ∈ store.rows) (member : other ∈ store.rows)
    (same : other.id = row.id) : other = row := List.inj_on_of_nodup_map store.messageIds member present same

theorem terminal_absorbing (store : Store) (nextId : Uuid) (before later : List Label) (middle final : System)
    (fresh : ∀ row ∈ store.rows, row.id < nextId)
    (unrivalled : StepsMeet System.step Unrivalled (serving store nextId) (before ++ later))
    (reached : runFrom System.step (serving store nextId) before = some middle)
    (continued : runFrom System.step middle later = some final) :
    ∀ row ∈ middle.store.rows, row.status ≠ .streaming → ∀ after ∈ final.store.rows, after.id = row.id →
      after.status = row.status ∧ after.content = row.content ∧ after.steps = row.steps := by
  obtain ⟨first, second⟩ := (steps_meet_append Unrivalled _ middle before later reached).mp unrivalled
  have settled := run_invariant_meeting Unrivalled Settled
    (fun system label next settled unrivalled taken =>
      settled_moved system next settled (owned_step system next label settled.toOwned taken)
        (step_moved system next label settled unrivalled taken))
    _ middle before (settled_serving store nextId fresh) first reached
  intro row present terminal after member same
  have stands := run_invariant_meeting Unrivalled (Stands row)
    (fun system label next stands unrivalled taken => stands_step row terminal system next label stands unrivalled taken)
    middle final later
    ⟨settled, settled.rows row present, fun other inside => rows_only middle.store row other present inside⟩
    second continued
  rw [stands.2.2 after member same]
  exact ⟨rfl, rfl, rfl⟩

section Sample

def sampleWork : List Label := [.work 16 .begin 0, .work 16 .completes 0, .work 16 .ended 0, .work 16 .completes 0]

-- The handler of a request has its message, the handler of the same request finds
-- it, the first one starts the worker, the second one marks the message as failed.
def sampleRace : List Label :=
  .arrive 2 sampleRequest :: handled 0 4 ++ [.perform 0 0] ++ .arrive 2 sampleRequest :: handled 1 2 ++
    [.resume 0, .perform 1 0]

def sampleRepeat : List Label := .arrive 2 sampleRequest :: handled 1 2

end Sample

theorem terminal_absorbing_repeat :
    ∃ middle final, runFrom System.step (serving sampleStore 10) (sampleSubmission ++ sampleWork) = some middle ∧
      runFrom System.step middle sampleRepeat = some final ∧
      ∀ row ∈ middle.store.rows, row.status ≠ .streaming → ∀ after ∈ final.store.rows, after.id = row.id →
        after.status = row.status ∧ after.content = row.content ∧ after.steps = row.steps := by
  refine ⟨_, _, rfl, rfl, terminal_absorbing sampleStore 10 (sampleSubmission ++ sampleWork) sampleRepeat _ _ ?_ ?_ rfl rfl⟩
  · simp [sampleStore, Store.rows, Chat.rows, opened]
  · repeat' refine steps_meet_cons Unrivalled _ _ _ _ rfl trivial ?_
    trivial

-- A second handler finds the message before its worker is started and marks it
-- as failed; the worker then completes it.
theorem recovery_overwritten :
    ¬ ∀ (store : Store) (nextId : Uuid) (before later : List Label) (middle final : System),
      (∀ row ∈ store.rows, row.id < nextId) → runFrom System.step (serving store nextId) before = some middle →
        runFrom System.step middle later = some final → ∀ row ∈ middle.store.rows, row.status ≠ .streaming →
          ∀ after ∈ final.store.rows, after.id = row.id →
            after.status = row.status ∧ after.content = row.content ∧ after.steps = row.steps := by
  intro claim
  obtain ⟨middle, final, reached, continued, failed, completed⟩ : ∃ middle final,
      runFrom System.step (serving sampleStore 10) sampleRace = some middle ∧
      runFrom System.step middle sampleWork = some final ∧
      middle.store.rows.any (fun row => decide (row.id = 16 ∧ row.status = .error)) = true ∧
      final.store.rows.any (fun row => decide (row.id = 16 ∧ row.status = .completed)) = true :=
    ⟨_, _, rfl, rfl, rfl, rfl⟩
  obtain ⟨row, present, wasError⟩ := List.any_eq_true.mp failed
  obtain ⟨after, member, isCompleted⟩ := List.any_eq_true.mp completed
  obtain ⟨id, error⟩ := of_decide_eq_true wasError
  obtain ⟨sameId, done⟩ := of_decide_eq_true isCompleted
  have fresh : ∀ row ∈ sampleStore.rows, row.id < 10 := by simp [sampleStore, Store.rows, Chat.rows, opened]
  have kept := claim sampleStore 10 sampleRace sampleWork middle final fresh reached continued row present
    (by simp [error]) after member (sameId.trans id.symm)
  rw [done, error] at kept
  cases kept.1

end DataPilot.Chat
