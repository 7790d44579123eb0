import DataPilot.Chat.AbortEffect
import DataPilot.Chat.Submission

set_option autoImplicit false

namespace DataPilot.Chat

open DataPilot.Base DataPilot.Agent

-- Whatever can still write the message stores the status aborted.
structure AbortsOnly (system : System) (messageId : Uuid) : Prop where
  tasks : ∀ task, (messageId, task) ∈ system.manager.tasks → task.state.mayWrite = true → task.aborting
  shielded : ∀ call ∈ system.shielded, call.messageId = messageId → call.completion.status = .aborted
  starts : ∀ handler ∈ system.handlers, handler.starts ≠ some messageId

def Written (store : Store) (messageId : Uuid) : Prop := ∀ row ∈ store.rows, row.id = messageId → row.status = .aborted

-- The message is aborted, or is going to be.
structure AbortKept (system : System) (messageId : Uuid) : Prop extends AbortsOnly system messageId where
  known : messageId < system.nextId
  lasts : (∃ task, (messageId, task) ∈ system.manager.tasks ∧ task.state.mayWrite = true) ∨
    (∃ call ∈ system.shielded, call.messageId = messageId) ∨ Written system.store messageId

def CallsSucceed (system : System) : Label → Prop
  | .work _ input _ => input.succeeds
  | .shielded index now =>
      ∀ call, system.shielded[index]? = some call → ∃ completed,
        system.store.completeAssistantMessage call.workspaceId call.messageId call.completion now = .ok completed
  | _ => True

-- An abort of the message finds its worker in the loop of the try statement or on
-- its way to the status aborted; without a task it writes the status when nothing
-- is left that may write another; a recovery does not rewrite an aborted message.
def TakesEffect (messageId : Uuid) (system : System) : Label → Prop
  | .arrive _ (.abortMessage _ asked) =>
      asked = messageId → ∀ task, (messageId, task) ∈ system.manager.tasks → task.state.heeds
  | .perform index _ =>
      match system.handlers[index]? with
      | some ⟨_, .waits (.abort message)⟩ => message.id = messageId → AbortsOnly system messageId
      | some ⟨_, .waits (.recover message)⟩ =>
          message.id = messageId → ∀ row ∈ system.store.rows, row.id = messageId → row.status ≠ .aborted
      | _ => True
  | _ => True

section Tasks

variable (manager : ChatTaskManager) (messageId id : Uuid) (task : ChatTask)

theorem task_update (change : ChatTask → ChatTask) :
    (id, task) ∈ (manager.update messageId change).tasks ↔
      (id ≠ messageId ∧ (id, task) ∈ manager.tasks) ∨
        (id = messageId ∧ ∃ old, (id, old) ∈ manager.tasks ∧ task = change old) := by
  constructor
  · intro member
    obtain ⟨⟨key, old⟩, inside, changed⟩ := List.mem_map.mp member
    by_cases here : key = messageId
    · rw [if_pos here] at changed
      cases changed
      exact .inr ⟨here, old, inside, rfl⟩
    · rw [if_neg here] at changed
      cases changed
      exact .inl ⟨here, inside⟩
  · rintro (⟨elsewhere, inside⟩ | ⟨here, old, inside, rfl⟩)
    · exact List.mem_map.mpr ⟨(id, task), inside, if_neg elsewhere⟩
    · exact List.mem_map.mpr ⟨(id, old), inside, if_pos here⟩

theorem task_advance (state : WorkerState) (member : (id, task) ∈ (manager.advance messageId state).tasks) :
    (id ≠ messageId ∧ (id, task) ∈ manager.tasks) ∨ (id = messageId ∧ task = { state }) := by
  by_cases finished : state.point = .finished
  · rw [advance_finished _ _ _ finished] at member
    obtain ⟨inside, elsewhere⟩ := List.mem_filter.mp member
    exact .inl ⟨of_decide_eq_true elsewhere, inside⟩
  · rw [advance_running _ _ _ finished, task_update] at member
    rcases member with elsewhere | ⟨here, _, _, rfl⟩
    · exact .inl elsewhere
    · exact .inr ⟨here, rfl⟩

theorem task_advance_other (state : WorkerState) (elsewhere : id ≠ messageId) (inside : (id, task) ∈ manager.tasks) :
    (id, task) ∈ (manager.advance messageId state).tasks := by
  by_cases finished : state.point = .finished
  · rw [advance_finished _ _ _ finished]
    exact List.mem_filter.mpr ⟨inside, decide_eq_true elsewhere⟩
  · rw [advance_running _ _ _ finished, task_update]
    exact .inl ⟨elsewhere, inside⟩

theorem task_advance_here (state : WorkerState) (writes : state.mayWrite = true)
    (inside : (messageId, task) ∈ manager.tasks) :
    (messageId, ({ state } : ChatTask)) ∈ (manager.advance messageId state).tasks := by
  have running : state.point ≠ .finished := by
    intro finished
    simp [WorkerState.mayWrite, finished] at writes
  rw [advance_running _ _ _ running, task_update]
  exact .inr ⟨rfl, task, inside, rfl⟩

end Tasks

theorem get_message_row (store : Store) (workspaceId messageId : Uuid) (message : Message)
    (found : store.getMessage workspaceId messageId = some message) :
    message.id = messageId ∧ ∃ conversation ∈ store.conversations, conversation.workspaceId = workspaceId ∧
      message ∈ conversation.messages := by
  have member := List.mem_of_find?_eq_some found
  obtain ⟨conversation, inside, held⟩ := (mem_rows _ message).mp member
  obtain ⟨present, here⟩ := List.mem_filter.mp inside
  have same := List.find?_some (p := fun message : Message => decide (message.id = messageId)) found
  exact ⟨of_decide_eq_true same, conversation, present, of_decide_eq_true here, held⟩

theorem complete_written (store after : Store) (workspaceId messageId : Uuid) (completion : Completion) (now : Nat)
    (message : Message) (completed : store.completeAssistantMessage workspaceId messageId completion now = .ok (after, message)) :
    message.id = messageId ∧ message ∈ after.rows ∧ ∀ row ∈ after.rows, row.id = messageId → row.status = completion.status := by
  obtain ⟨conversations, old, found, rfl⟩ := complete_ok store after workspaceId messageId completion now message completed
  obtain ⟨same, conversation, present, here, held⟩ := get_message_row store workspaceId messageId old found
  have picked : holds workspaceId messageId conversation = true :=
    decide_eq_true ⟨here, same ▸ List.mem_map_of_mem held⟩
  have member : old.complete completion ∈ after.rows := by
    refine (mem_rows _ _).mpr ⟨conversation.complete messageId completion now, ?_, ?_⟩
    · rw [conversations]
      exact List.mem_map.mpr ⟨conversation, present, if_pos picked⟩
    · exact List.mem_map.mpr ⟨old, held, if_pos same⟩
  refine ⟨same, member, fun row inside named => ?_⟩
  rw [rows_only after (old.complete completion) row member inside (named.trans same.symm)]
  rfl

section Steps

variable (system : System) (messageId : Uuid)

theorem kept_arrive (next : System) (workspaceId : Uuid) (request : ChatRequest) (kept : AbortKept system messageId)
    (taken : system.step (.arrive workspaceId request) = some next) : AbortKept next messageId := by
  obtain ⟨manager, state, rfl, managed, idle⟩ := step_arrive system next workspaceId request taken
  have starts : ∀ handler ∈ system.handlers ++ [⟨workspaceId, state⟩], handler.starts ≠ some messageId := by
    intro handler member
    rcases List.mem_append.mp member with old | new
    · exact kept.starts handler old
    · rw [List.mem_singleton.mp new, idle_starts workspaceId state idle]
      exact (Option.some_ne_none messageId).symm
  rcases managed with rfl | ⟨other, rfl⟩
  · exact ⟨⟨kept.tasks, kept.shielded, starts⟩, kept.known, kept.lasts⟩
  · refine ⟨⟨fun task member writes => ?_, kept.shielded, starts⟩, kept.known, kept.lasts.imp_left ?_⟩
    · rcases (task_update _ _ _ _ _).mp member with ⟨_, old⟩ | ⟨_, old, inside, rfl⟩
      · exact kept.tasks task old writes
      · exact aborting_requested old (kept.tasks old inside writes)
    · rintro ⟨task, inside, writes⟩
      by_cases here : messageId = other
      · exact ⟨{ task with cancelRequested := true }, (task_update _ _ _ _ _).mpr (.inr ⟨here, task, inside, rfl⟩), writes⟩
      · exact ⟨task, (task_update _ _ _ _ _).mpr (.inl ⟨here, inside⟩), writes⟩

theorem performed_written (index now : Nat) (workspaceId : Uuid) (frame : Frame) (written : Written system.store messageId)
    (known : messageId < system.nextId) (here : system.handlers[index]? = some ⟨workspaceId, .waits frame⟩)
    (effective : TakesEffect messageId system (.perform index now)) :
    Written (system.store.perform workspaceId system.nextId now frame.call).1 messageId := by
  intro row member same
  rcases perform_rows system.store workspaceId system.nextId now frame.call row member with
    old | ⟨_, new, sequence, _, rfl⟩ | ⟨other, completion, old, call, named, was, before, rfl⟩
  · exact written row old same
  · exact absurd same (Nat.ne_of_gt known)
  · rw [TakesEffect, here] at effective
    cases frame with
    | abort message =>
        cases call
        rfl
    | recover message =>
        cases call
        have here := named.symm.trans same
        have aborted := written old was (before.trans here)
        exact absurd aborted (effective here old was (before.trans here))
    | _ => cases call

theorem set_starts (index : Nat) (workspaceId : Uuid) (state : HandlerState) (after : System)
    (handlers : after.handlers = system.handlers) (idle : Handler.starts ⟨workspaceId, state⟩ ≠ some messageId)
    (starts : ∀ handler ∈ system.handlers, handler.starts ≠ some messageId) :
    ∀ handler ∈ (after.setHandler index workspaceId state).handlers, handler.starts ≠ some messageId := by
  intro handler member
  rcases List.mem_or_eq_of_mem_set member with old | rfl
  · exact starts handler (handlers ▸ old)
  · exact idle

theorem kept_perform (next : System) (index now : Nat) (kept : AbortKept system messageId)
    (effective : TakesEffect messageId system (.perform index now)) (taken : system.step (.perform index now) = some next) :
    AbortKept next messageId := by
  obtain ⟨workspaceId, frame, here, rfl⟩ := step_perform system next index now taken
  have idle : Handler.starts ⟨workspaceId, .wakes frame (system.store.perform workspaceId system.nextId now frame.call).2⟩ ≠
      some messageId := by
    rcases perform_starts system.store workspaceId system.nextId now frame with none | fresh
    · rw [none]
      exact (Option.some_ne_none messageId).symm
    · rw [fresh]
      intro same
      exact Nat.lt_irrefl _ (Option.some.inj same ▸ kept.known)
  refine ⟨⟨kept.tasks, kept.shielded, set_starts system messageId index workspaceId _ _ rfl idle kept.starts⟩,
    Nat.lt_succ_of_lt kept.known, kept.lasts.imp_right (Or.imp_right fun written => ?_)⟩
  exact performed_written system messageId index now workspaceId frame written kept.known here effective

theorem start_keeps (workspaceId : Uuid) (submission : Submission) (message : Message) (entry : Uuid × ChatTask)
    (member : entry ∈ system.manager.tasks) : entry ∈ (system.start workspaceId submission message).manager.tasks := by
  unfold System.start ChatTaskManager.start
  dsimp only
  split
  · exact member
  · exact List.mem_append_left _ member

theorem kept_resume (next : System) (index : Nat) (kept : AbortKept system messageId)
    (taken : system.step (.resume index) = some next) : AbortKept next messageId := by
  obtain ⟨workspaceId, frame, reply, after, state, here, proceeded, rfl⟩ := step_resume system next index taken
  obtain ⟨idle, ways⟩ := proceed_ways system after workspaceId frame reply state proceeded
  have quiet : Handler.starts ⟨workspaceId, state⟩ ≠ some messageId := by
    rw [idle]
    exact (Option.some_ne_none messageId).symm
  rcases ways with ⟨submission, message, rfl, rfl, rfl⟩ | ⟨nextId, _, grows, rfl⟩
  · have other : messageId ≠ message.id := by
      rintro rfl
      exact kept.starts _ (List.mem_of_getElem? here) rfl
    refine ⟨⟨fun task member writes => ?_, kept.shielded,
      set_starts system messageId index workspaceId _ _ rfl quiet kept.starts⟩, kept.known, kept.lasts.imp_left ?_⟩
    · rcases start_moved system workspaceId submission message messageId task member with old | same
      · exact kept.tasks task old writes
      · exact absurd same other
    · rintro ⟨task, inside, writes⟩
      exact ⟨task, start_keeps system workspaceId submission message _ inside, writes⟩
  · exact ⟨⟨kept.tasks, kept.shielded, set_starts system messageId index workspaceId _ _ rfl quiet kept.starts⟩,
      Nat.lt_of_lt_of_le kept.known grows, kept.lasts⟩

theorem kept_work_other (next : System) (other : Uuid) (input : WorkerInput) (now : Nat) (elsewhere : messageId ≠ other)
    (owned : Owned system) (kept : AbortKept system messageId) (taken : system.step (.work other input now) = some next) :
    AbortKept next messageId := by
  obtain ⟨task, state, effects, after, found, _, stepped, affected, rfl⟩ := step_work system next other input now taken
  have member := (manager_get system.manager other task found).1
  have keyed : task.state.arguments.assistantMessageId = other := owned.keyed _ member
  have tasks : ∀ task, (messageId, task) ∈ (system.manager.advance other state).tasks → task.state.mayWrite = true →
      task.aborting := by
    intro task inside writes
    rcases task_advance _ _ _ _ _ inside with ⟨_, old⟩ | ⟨here, _⟩
    · exact kept.tasks task old writes
    · exact absurd here elsewhere
  have remains : (∃ task, (messageId, task) ∈ system.manager.tasks ∧ task.state.mayWrite = true) →
      ∃ task, (messageId, task) ∈ (system.manager.advance other state).tasks ∧ task.state.mayWrite = true := by
    rintro ⟨task, inside, writes⟩
    exact ⟨task, task_advance_other _ _ _ _ _ elsewhere inside, writes⟩
  rcases work_ways system after task state input effects now stepped affected with
    ⟨rfl, _⟩ | ⟨store, message, completed, rfl, _⟩ | ⟨rfl, _⟩
  · exact ⟨⟨tasks, kept.shielded, kept.starts⟩, kept.known, kept.lasts.imp_left remains⟩
  · refine ⟨⟨tasks, kept.shielded, kept.starts⟩, kept.known, kept.lasts.imp remains (Or.imp_right fun written => ?_)⟩
    intro row inside same
    rcases complete_rows _ _ _ _ _ _ _ completed row inside with old | ⟨here, _⟩
    · exact written row old same
    · exact absurd (same.symm.trans (here.trans keyed)) elsewhere
  · refine ⟨⟨tasks, ?_, kept.starts⟩, kept.known, kept.lasts.imp remains (Or.imp_left ?_)⟩
    · intro call inside same
      rcases List.mem_append.mp inside with old | new
      · exact kept.shielded call old same
      · rw [List.mem_singleton.mp new] at same
        exact absurd (same.symm.trans keyed) elsewhere
    · rintro ⟨call, inside, same⟩
      exact ⟨call, List.mem_append_left _ inside, same⟩

theorem kept_work (next : System) (input : WorkerInput) (now : Nat) (owned : Owned system) (kept : AbortKept system messageId)
    (succeeds : input.succeeds) (taken : system.step (.work messageId input now) = some next) : AbortKept next messageId := by
  obtain ⟨task, state, effects, after, found, ready, stepped, affected, rfl⟩ :=
    step_work system next messageId input now taken
  obtain ⟨member, only⟩ := manager_get system.manager messageId task found
  have keyed : task.state.arguments.assistantMessageId = messageId := owned.keyed _ member
  have silent : state.mayWrite = false → ∀ task, (messageId, task) ∈ (system.manager.advance messageId state).tasks →
      task.state.mayWrite = true → task.aborting := by
    intro cannot task inside writes
    rw [advance_written _ _ _ _ cannot inside] at writes
    cases writes
  by_cases could : task.state.mayWrite = true
  · cases aborting_step task state input effects stepped ready succeeds (kept.tasks task member could) could with
    | goesOn effects published writes aborting =>
        rw [affect_published system _ now _ published] at affected
        cases affected
        refine ⟨⟨fun other inside _ => ?_, kept.shielded, kept.starts⟩, kept.known, .inl ?_⟩
        · rcases task_advance _ _ _ _ _ inside with ⟨elsewhere, _⟩ | ⟨_, rfl⟩
          · exact absurd rfl elsewhere
          · exact aborting
        · exact ⟨{ state }, task_advance_here _ _ task state writes member, writes⟩
    | stores aborted written =>
        obtain ⟨middle, wrote, rest⟩ := Option.bind_eq_some_iff.mp affected
        cases rest
        rw [WorkerState.content, System.affect] at wrote
        split at wrote
        · cases wrote
        · rename_i store message completed
          cases wrote
          refine ⟨⟨silent written, kept.shielded, kept.starts⟩, kept.known, .inr (.inr fun row inside same => ?_)⟩
          rw [keyed] at completed
          exact ((complete_written _ _ _ _ _ _ _ completed).2.2 row inside same).trans aborted
    | defers aborted finished =>
        cases affected
        have cannot : state.mayWrite = false := by simp [WorkerState.mayWrite, finished]
        refine ⟨⟨silent cannot, fun call inside same => ?_, kept.starts⟩, kept.known, .inr (.inl ?_)⟩
        · rcases List.mem_append.mp inside with old | new
          · exact kept.shielded call old same
          · rw [List.mem_singleton.mp new]
            exact aborted
        · exact ⟨_, List.mem_append_right _ (List.mem_singleton_self _), keyed⟩
  · rcases work_ways system after task state input effects now stepped affected with
      ⟨rfl, keeps⟩ | ⟨_, _, _, _, writes, _⟩ | ⟨_, writes, _⟩
    · have cannot : state.mayWrite = false := by
        by_contra writes
        exact could (keeps (Bool.eq_true_of_not_eq_false writes))
      refine ⟨⟨silent cannot, kept.shielded, kept.starts⟩, kept.known, kept.lasts.imp_left ?_⟩
      rintro ⟨other, inside, writes⟩
      exact absurd (only _ inside rfl ▸ writes) could
    · exact absurd writes could
    · exact absurd writes could

theorem kept_shielded (next : System) (index now : Nat) (kept : AbortKept system messageId)
    (succeeds : CallsSucceed system (.shielded index now)) (taken : system.step (.shielded index now) = some next) :
    AbortKept next messageId := by
  obtain ⟨call, found, ways⟩ := step_shielded system next index now taken
  obtain ⟨⟨after, message⟩, completed⟩ := succeeds call found
  have fewer : ∀ other ∈ system.shielded.eraseIdx index, other ∈ system.shielded :=
    fun other inside => (List.eraseIdx_sublist ..).subset inside
  rw [System.step, found] at taken
  dsimp only at taken
  rw [completed] at taken
  cases taken
  refine ⟨⟨kept.tasks, fun other inside => kept.shielded other (fewer other inside), kept.starts⟩, kept.known, ?_⟩
  by_cases here : call.messageId = messageId
  · refine .inr (.inr fun row inside same => ?_)
    have status := (complete_written _ _ _ _ _ _ _ completed).2.2 row inside (same.trans here.symm)
    exact status.trans (kept.shielded call (List.mem_of_getElem? found) here)
  · refine kept.lasts.imp_right (Or.imp ?_ fun written row inside same => ?_)
    · rintro ⟨other, inside, same⟩
      have exchanged := List.getElem_cons_eraseIdx_perm (List.getElem?_eq_some_iff.mp found).1
      rcases List.mem_cons.mp (exchanged.mem_iff.mpr inside) with first | later
      · rw [(List.getElem?_eq_some_iff.mp found).2] at first
        exact absurd (first ▸ same) here
      · exact ⟨other, later, same⟩
    · rcases complete_rows _ _ _ _ _ _ _ completed row inside with old | ⟨named, _⟩
      · exact written row old same
      · exact absurd (named.symm.trans same) here

theorem kept_step (next : System) (label : Label) (owned : Owned system) (kept : AbortKept system messageId)
    (succeeds : CallsSucceed system label) (effective : TakesEffect messageId system label)
    (taken : system.step label = some next) : AbortKept next messageId := by
  cases label with
  | arrive workspaceId request => exact kept_arrive system messageId next workspaceId request kept taken
  | perform index now => exact kept_perform system messageId next index now kept effective taken
  | resume index => exact kept_resume system messageId next index kept taken
  | work other input now =>
      by_cases here : messageId = other
      · subst here
        exact kept_work system messageId next input now owned kept succeeds taken
      · exact kept_work_other system messageId next other input now here owned kept taken
  | shielded index now => exact kept_shielded system messageId next index now kept succeeds taken

end Steps

end DataPilot.Chat
