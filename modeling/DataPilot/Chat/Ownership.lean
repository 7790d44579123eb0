import Mathlib.Data.List.Perm.Basic
import DataPilot.Chat.System

set_option autoImplicit false

namespace DataPilot.Chat

open DataPilot.Base DataPilot.Agent

def WorkerState.mayWrite (state : WorkerState) : Bool :=
  match state.point with
  | .publishTerminal _ => false
  | .finished => false
  | _ => true

def Handler.starts : Handler → Option Uuid
  | ⟨_, .wakes (.appendAssistant _) (.message (some message))⟩ => some message.id
  | _ => none

def System.pendingIds (system : System) : List Uuid :=
  system.shielded.map ShieldedCall.messageId ++ system.handlers.filterMap Handler.starts

def System.ownedIds (system : System) : List Uuid := system.manager.ids ++ system.pendingIds

-- Each of these messages is stood for once, and new ids are above all others.
structure Owned (system : System) : Prop where
  unique : system.ownedIds.Nodup
  below : ∀ id ∈ system.ownedIds, id < system.nextId
  keyed : ∀ entry ∈ system.manager.tasks, entry.2.state.arguments.assistantMessageId = entry.1
  rows : ∀ message ∈ system.store.rows, message.id < system.nextId

theorem worker_step_writes (state next : WorkerState) (input : WorkerInput) (effects : List Effect)
    (taken : workerStep state input = some (next, effects)) :
    ((∀ effect ∈ effects, ∃ event, effect = .publish event) ∧ (next.mayWrite = true → state.mayWrite = true)) ∨
    (effects = [state.content] ∧ state.mayWrite = true ∧ next.mayWrite = false) ∨
    (effects = [.persistLater state.accumulatedText state.messageStatus state.steps] ∧ state.mayWrite = true ∧
      next.point = .finished) := by
  obtain ⟨arguments, point, text, steps, status, terminal⟩ := state
  have quiet : ∀ performed event, ∀ effect ∈ publishing performed event, ∃ event, effect = Effect.publish event := by
    intro performed event effect member
    cases performed with
    | false => cases member
    | true => exact ⟨event, List.mem_singleton.mp member⟩
  have one : ∀ event, ∀ effect ∈ [Effect.publish event], ∃ event, effect = Effect.publish event :=
    fun event effect member => ⟨event, List.mem_singleton.mp member⟩
  cases point with
  | persist =>
      cases input with
      | completes =>
          cases taken
          refine .inr (.inl ⟨rfl, rfl, ?_⟩)
          cases terminal <;> rfl
      | fails failure performed =>
          cases performed with
          | false =>
              cases taken
              exact .inl ⟨nofun, fun _ => rfl⟩
          | true =>
              cases taken
              refine .inr (.inl ⟨rfl, rfl, ?_⟩)
              cases terminal <;> rfl
      | cancelled performed =>
          cases performed with
          | false =>
              cases taken
              exact .inr (.inr ⟨rfl, rfl, rfl⟩)
          | true =>
              cases taken
              exact .inr (.inl ⟨rfl, rfl, rfl⟩)
      | _ => cases taken
  | finished => cases input <;> cases taken
  | publishTerminal persisted =>
      refine .inl ?_
      cases input with
      | completes =>
          cases taken
          exact ⟨one _, nofun⟩
      | fails failure performed =>
          cases taken
          exact ⟨quiet _ _, nofun⟩
      | cancelled performed =>
          cases taken
          exact ⟨quiet _ _, nofun⟩
      | _ => cases taken
  | _ =>
      refine .inl ⟨?_, fun _ => rfl⟩
      cases input <;> cases taken <;> first | exact one _ | exact quiet _ _ | exact nofun

theorem filter_map_cons_list {α β : Type} (f : α → Option β) (first : α) (rest : List α) :
    (first :: rest).filterMap f = (f first).toList ++ rest.filterMap f := by
  cases given : f first <;> simp [given]

theorem filter_map_set {α β : Type} (f : α → Option β) (items : List α) (index : Nat) (old new : α)
    (found : items[index]? = some old) :
    ((f old).toList ++ (items.set index new).filterMap f).Perm ((f new).toList ++ items.filterMap f) := by
  induction items generalizing index with
  | nil => cases found
  | cons first rest ih =>
      cases index with
      | zero =>
          obtain rfl : first = old := Option.some.inj found
          rw [List.set_cons_zero, filter_map_cons_list, filter_map_cons_list]
          exact List.perm_append_comm_assoc ..
      | succ index =>
          rw [List.set_cons_succ, filter_map_cons_list, filter_map_cons_list]
          have later := (ih index found).append_left (f first).toList
          exact (List.perm_append_comm_assoc ..).trans (later.trans (List.perm_append_comm_assoc ..))

theorem append_message_ok (store after : Store) (workspaceId conversationId id : Uuid) (new : NewMessage) (now : Nat)
    (message : Message)
    (appended : store.appendMessage workspaceId conversationId new id now = .ok (after, message)) :
    ∃ conversation, store.getConversation workspaceId conversationId = some conversation ∧
      after.conversations =
        changeWhere (belongs workspaceId conversationId) (fun other => other.add new id now) store.conversations ∧
      message = new.message id conversation.nextSequence ∧ after.rows.Perm (message :: store.rows) ∧
      (∀ requestId ∈ new.requestId, requestId ∉ store.requests) := by
  unfold Store.appendMessage at appended
  split at appended
  · cases appended
  rename_i conversation found
  split at appended <;> cases appended
  rename_i fresh
  obtain ⟨present, _, _, picks⟩ := belongs_iff store workspaceId conversationId conversation found
  exact ⟨conversation, found, rfl, rfl,
    rows_add _ store.conversations new id now conversation present store.conversationIds picks, fresh.2⟩

theorem complete_rows (store after : Store) (workspaceId messageId : Uuid) (completion : Completion) (now : Nat)
    (message : Message)
    (completed : store.completeAssistantMessage workspaceId messageId completion now = .ok (after, message)) :
    ∀ row ∈ after.rows, row ∈ store.rows ∨
      (row.id = messageId ∧ ∃ old ∈ store.rows, old.id = messageId ∧ row = old.complete completion) := by
  have conversations := (complete_ok store after workspaceId messageId completion now message completed).1
  intro row member
  obtain ⟨conversation, inside, held⟩ := (mem_rows _ row).mp member
  rw [conversations] at inside
  obtain ⟨before, present, changed⟩ := List.mem_map.mp inside
  split at changed
  · subst changed
    obtain ⟨old, was, rewritten⟩ := List.mem_map.mp held
    have wasRow : old ∈ store.rows := (mem_rows _ old).mpr ⟨before, present, was⟩
    split at rewritten
    · rename_i same
      exact .inr ⟨rewritten ▸ same, old, wasRow, same, rewritten.symm⟩
    · exact .inl (rewritten ▸ wasRow)
  · subst changed
    exact .inl ((mem_rows _ row).mpr ⟨before, present, held⟩)

theorem perform_rows (store : Store) (workspaceId id : Uuid) (now : Nat) (call : StoreCall) :
    ∀ row ∈ (store.perform workspaceId id now call).1.rows, row ∈ store.rows ∨
      (∃ conversationId new sequence, call = .appendMessage conversationId new ∧ row = new.message id sequence) ∨
      (∃ messageId completion old, call = .completeAssistantMessage messageId completion ∧ row.id = messageId ∧
        old ∈ store.rows ∧ old.id = messageId ∧ row = old.complete completion) := by
  intro row member
  cases call with
  | createConversation =>
      refine .inl ?_
      rw [Store.perform, Store.createConversation] at member
      split at member
      · exact member
      · rename_i created
        split at created <;> cases created
        rwa [Store.rows, rows_opened] at member
  | appendMessage conversationId new =>
      rw [Store.perform] at member
      split at member
      · exact .inl member
      · rename_i appended
        obtain ⟨conversation, _, _, rfl, added, _⟩ := append_message_ok _ _ _ _ _ _ _ _ appended
        rcases List.mem_cons.mp (added.mem_iff.mp member) with rfl | old
        · exact .inr (.inl ⟨conversationId, new, conversation.nextSequence, rfl, rfl⟩)
        · exact .inl old
  | completeAssistantMessage messageId completion =>
      rw [Store.perform] at member
      split at member
      · exact .inl member
      · rename_i completed
        rcases complete_rows _ _ _ _ _ _ _ completed row member with old | ⟨same, old, was, here, rewritten⟩
        · exact .inl old
        · exact .inr (.inr ⟨messageId, completion, old, rfl, same, was, here, rewritten⟩)
  | archiveConversation conversationId archived =>
      refine .inl ?_
      rw [Store.perform, Store.archiveConversation] at member
      split at member
      · exact member
      · have same := rows_map_keeps (belongs workspaceId conversationId) (Conversation.archive archived now)
          store.conversations (fun message => message) fun _ => rfl
        rw [List.map_id', List.map_id'] at same
        exact Eq.subst (motive := fun found => row ∈ found) same member
  | deleteConversation conversationId =>
      refine .inl ?_
      rw [Store.perform, Store.deleteConversation] at member
      split at member
      · exact member
      · exact (rows_filter _ _).subset member
  | listConversations => exact .inl member
  | getConversation conversationId => exact .inl member
  | getHistory conversationId => exact .inl member
  | getAssistantByRequestId conversationId requestId => exact .inl member
  | getMessage messageId => exact .inl member

theorem perform_starts (store : Store) (workspaceId id : Uuid) (now : Nat) (frame : Frame) :
    let performed := store.perform workspaceId id now frame.call
    Handler.starts ⟨workspaceId, .wakes frame performed.2⟩ = none ∨
      Handler.starts ⟨workspaceId, .wakes frame performed.2⟩ = some id := by
  cases frame with
  | appendAssistant submission =>
      simp only [Frame.call, Store.perform]
      split
      · exact .inl rfl
      · rename_i appended
        obtain ⟨conversation, _, _, rfl, _⟩ := append_message_ok _ _ _ _ _ _ _ _ appended
        exact .inr rfl
  | _ => exact .inl rfl

theorem failed_starts (workspaceId : Uuid) (frame : Frame) (error : StoreError) :
    Handler.starts ⟨workspaceId, .wakes frame (.failed error)⟩ = none := by
  cases frame <;> rfl

theorem proceed_ways (system after : System) (workspaceId : Uuid) (frame : Frame) (reply : StoreReply)
    (state : HandlerState) (proceeded : system.proceed workspaceId frame reply = some (after, state)) :
    Handler.starts ⟨workspaceId, state⟩ = none ∧
      ((∃ submission message, frame = .appendAssistant submission ∧ reply = .message (some message) ∧
          after = system.start workspaceId submission message) ∨
        (∃ nextId, Handler.starts ⟨workspaceId, .wakes frame reply⟩ = none ∧ system.nextId ≤ nextId ∧
          after = { system with nextId })) := by
  unfold System.proceed at proceeded
  split at proceeded
  all_goals first
    | (cases proceeded; done)
    | (cases proceeded; exact ⟨rfl, .inl ⟨_, _, rfl, rfl, rfl⟩⟩)
    | (cases proceeded; exact ⟨rfl, .inr ⟨system.nextId, rfl, Nat.le_refl _, rfl⟩⟩)
    | (cases proceeded; exact ⟨rfl, .inr ⟨system.nextId + 2, rfl, Nat.le_add_right _ _, rfl⟩⟩)
    | (split at proceeded <;> cases proceeded <;>
        exact ⟨rfl, .inr ⟨system.nextId, rfl, Nat.le_refl _, rfl⟩⟩)
    | (cases proceeded; exact ⟨rfl, .inr ⟨system.nextId, failed_starts _ _ _, Nat.le_refl _, rfl⟩⟩)

theorem proceed_waits (system after : System) (workspaceId : Uuid) (frame : Frame) (reply : StoreReply)
    (state : HandlerState) (proceeded : system.proceed workspaceId frame reply = some (after, state)) :
    after.handlers = system.handlers := by
  obtain ⟨_, ⟨_, _, _, _, rfl⟩ | ⟨_, _, _, rfl⟩⟩ := proceed_ways system after workspaceId frame reply state proceeded
  · rfl
  · rfl

theorem affect_published (system : System) (arguments : WorkerArguments) (now : Nat) (effects : List Effect)
    (published : ∀ effect ∈ effects, ∃ event, effect = Effect.publish event) :
    system.affectAll arguments now effects = some system := by
  induction effects with
  | nil => rfl
  | cons effect rest ih =>
      obtain ⟨event, rfl⟩ := published effect (List.mem_cons_self ..)
      exact ih fun later member => published later (List.mem_cons_of_mem _ member)

def WorkerState.completion (state : WorkerState) : Completion :=
  ⟨some state.accumulatedText, state.messageStatus, state.steps⟩

theorem work_ways (system after : System) (task : ChatTask) (state : WorkerState) (input : WorkerInput)
    (effects : List Effect) (now : Nat) (stepped : workerStep task.state input = some (state, effects))
    (affected : system.affectAll task.state.arguments now effects = some after) :
    (after = system ∧ (state.mayWrite = true → task.state.mayWrite = true)) ∨
    (∃ store message, system.store.completeAssistantMessage task.state.arguments.workspaceId
        task.state.arguments.assistantMessageId task.state.completion now = .ok (store, message) ∧
      after = { system with store } ∧ task.state.mayWrite = true ∧ state.mayWrite = false) ∨
    (after = { system with shielded := system.shielded ++ [⟨task.state.arguments.workspaceId,
        task.state.arguments.assistantMessageId, task.state.completion⟩] } ∧
      task.state.mayWrite = true ∧ state.point = .finished) := by
  rcases worker_step_writes task.state state input effects stepped with
    ⟨published, keeps⟩ | ⟨rfl, could, cannot⟩ | ⟨rfl, could, finished⟩
  · rw [affect_published system _ now effects published] at affected
    exact .inl ⟨(Option.some.inj affected).symm, keeps⟩
  · obtain ⟨middle, wrote, rest⟩ := Option.bind_eq_some_iff.mp affected
    cases rest
    rw [WorkerState.content, System.affect] at wrote
    split at wrote
    · cases wrote
    · rename_i store message completed
      exact .inr (.inl ⟨store, message, completed, (Option.some.inj wrote).symm, could, cannot⟩)
  · exact .inr (.inr ⟨(Option.some.inj affected).symm, could, finished⟩)

theorem work_waits (system after : System) (task : ChatTask) (state : WorkerState) (input : WorkerInput)
    (effects : List Effect) (now : Nat) (stepped : workerStep task.state input = some (state, effects))
    (affected : system.affectAll task.state.arguments now effects = some after) :
    after.manager = system.manager ∧ after.handlers = system.handlers := by
  rcases work_ways system after task state input effects now stepped affected with
    ⟨rfl, _⟩ | ⟨_, _, _, rfl, _⟩ | ⟨rfl, _⟩
  · exact ⟨rfl, rfl⟩
  · exact ⟨rfl, rfl⟩
  · exact ⟨rfl, rfl⟩

theorem remove_ids (manager : ChatTaskManager) (messageId : Uuid) :
    (manager.remove messageId).ids = manager.ids.erase messageId := by
  have keys : manager.ids.Nodup := manager.keys
  rw [keys.erase_eq_filter, ChatTaskManager.ids, ChatTaskManager.ids, List.filter_map, ChatTaskManager.remove]
  refine congrArg (List.map Prod.fst) (List.filter_congr fun entry _ => ?_)
  by_cases same : entry.1 = messageId <;> simp [same]

theorem update_ids (manager : ChatTaskManager) (messageId : Uuid) (change : ChatTask → ChatTask) :
    (manager.update messageId change).ids = manager.ids := by
  simp only [ChatTaskManager.update, ChatTaskManager.ids, List.map_map]
  refine List.map_congr_left fun entry _ => ?_
  dsimp only [Function.comp_apply]
  split <;> rfl

theorem advance_finished (manager : ChatTaskManager) (messageId : Uuid) (state : WorkerState)
    (finished : state.point = .finished) : manager.advance messageId state = manager.remove messageId := by
  simp [ChatTaskManager.advance, finished]

theorem advance_running (manager : ChatTaskManager) (messageId : Uuid) (state : WorkerState)
    (running : state.point ≠ .finished) :
    manager.advance messageId state = manager.update messageId fun _ => { state } := by
  unfold ChatTaskManager.advance
  split
  · rename_i finished
    exact absurd finished running
  · rfl

theorem start_fresh (system : System) (workspaceId : Uuid) (submission : Submission) (message : Message)
    (fresh : message.id ∉ system.manager.ids) :
    (system.start workspaceId submission message).manager.tasks =
        system.manager.tasks ++ [(message.id, { state := newWorker workspaceId submission message })] ∧
      (system.start workspaceId submission message).started = system.started ++ [message.id] := by
  simp only [System.start, ChatTaskManager.start, dif_neg fresh, if_true]
  exact ⟨trivial, trivial⟩

-- Owners leave, or the next id joins them.
def Handed (nextId : Uuid) (before after : List Uuid) : Prop :=
  (∃ gone, (gone ++ after).Perm before) ∨ after.Perm (nextId :: before)

theorem handed_same (nextId : Uuid) (before after : List Uuid) (same : after.Perm before) :
    Handed nextId before after := .inl ⟨[], same⟩

theorem handed_unique (nextId : Uuid) (before after : List Uuid) (handed : Handed nextId before after)
    (unique : before.Nodup) (below : ∀ id ∈ before, id < nextId) : after.Nodup := by
  rcases handed with ⟨gone, left⟩ | joined
  · exact (List.nodup_append.mp (left.nodup_iff.mpr unique)).2.1
  · rw [joined.nodup_iff, List.nodup_cons]
    exact ⟨fun member => Nat.lt_irrefl _ (below nextId member), unique⟩

theorem handed_below (nextId later : Uuid) (before after : List Uuid) (handed : Handed nextId before after)
    (grows : nextId ≤ later) (joins : after.Perm (nextId :: before) → nextId < later)
    (below : ∀ id ∈ before, id < nextId) : ∀ id ∈ after, id < later := by
  intro id member
  rcases handed with ⟨gone, left⟩ | joined
  · exact Nat.lt_of_lt_of_le (below id (left.subset (List.mem_append_right gone member))) grows
  · rcases List.mem_cons.mp (joined.subset member) with rfl | old
    · exact joins joined
    · exact Nat.lt_of_lt_of_le (below id old) grows

theorem perform_handed (system : System) (index now : Nat) (workspaceId : Uuid) (frame : Frame)
    (here : system.handlers[index]? = some ⟨workspaceId, .waits frame⟩) (store : Store) :
    Handed system.nextId system.ownedIds ({ system with store, nextId := system.nextId + 1 }.setHandler index workspaceId
      (.wakes frame (system.store.perform workspaceId system.nextId now frame.call).2)).ownedIds := by
  have exchanged := filter_map_set Handler.starts system.handlers index _
    ⟨workspaceId, .wakes frame (system.store.perform workspaceId system.nextId now frame.call).2⟩ here
  rcases perform_starts system.store workspaceId system.nextId now frame with none | fresh
  · rw [none] at exchanged
    exact handed_same _ _ _ ((exchanged.append_left _).append_left _)
  · rw [fresh] at exchanged
    refine .inr (((exchanged.append_left _).append_left _).trans ?_)
    refine ((List.perm_append_comm_assoc ..).append_left _).trans ?_
    exact List.perm_append_comm_assoc ..

theorem proceed_handed (system after : System) (index : Nat) (workspaceId : Uuid) (frame : Frame) (reply : StoreReply)
    (state : HandlerState) (here : system.handlers[index]? = some ⟨workspaceId, .wakes frame reply⟩)
    (proceeded : system.proceed workspaceId frame reply = some (after, state)) (unique : system.ownedIds.Nodup) :
    (after.setHandler index workspaceId state).ownedIds.Perm system.ownedIds := by
  obtain ⟨idle, ways⟩ := proceed_ways system after workspaceId frame reply state proceeded
  have exchanged := filter_map_set Handler.starts system.handlers index _ ⟨workspaceId, state⟩ here
  rw [idle] at exchanged
  rcases ways with ⟨submission, message, rfl, rfl, rfl⟩ | ⟨nextId, waiting, _, rfl⟩
  · have starts : message.id ∈ system.handlers.filterMap Handler.starts :=
      exchanged.subset (List.mem_append_left _ (List.mem_singleton_self message.id))
    have fresh : message.id ∉ system.manager.ids := fun running =>
      (List.nodup_append.mp unique).2.2 _ running _ (List.mem_append_right _ starts) rfl
    have tasks := (start_fresh system workspaceId submission message fresh).1
    have ids : (system.start workspaceId submission message).manager.ids = system.manager.ids ++ [message.id] := by
      rw [ChatTaskManager.ids, tasks, List.map_append]
      rfl
    simp only [System.ownedIds, System.pendingIds, System.setHandler, ids, List.append_assoc]
    refine List.Perm.append_left _ ?_
    exact (List.perm_append_comm_assoc ..).trans (List.Perm.append_left _ exchanged)
  · rw [waiting] at exchanged
    exact (exchanged.append_left _).append_left _

theorem work_handed (system after : System) (messageId : Uuid) (task : ChatTask) (state : WorkerState)
    (input : WorkerInput) (effects : List Effect) (now : Nat) (found : system.manager.get messageId = some task)
    (keyed : task.state.arguments.assistantMessageId = messageId)
    (stepped : workerStep task.state input = some (state, effects))
    (affected : system.affectAll task.state.arguments now effects = some after) :
    ∃ gone, (gone ++ { after with manager := after.manager.advance messageId state : System }.ownedIds).Perm
      system.ownedIds := by
  have running : messageId ∈ system.manager.ids :=
    List.mem_map_of_mem (manager_get system.manager messageId task found).1
  have leaves : ∀ rest : List Uuid, ∃ gone,
      (gone ++ ((system.manager.advance messageId state).ids ++ rest)).Perm (system.manager.ids ++ rest) := by
    intro rest
    by_cases finished : state.point = .finished
    · rw [advance_finished _ _ _ finished, remove_ids]
      exact ⟨[messageId], (List.perm_cons_erase running).symm.append_right rest⟩
    · rw [advance_running _ _ _ finished, update_ids]
      exact ⟨[], List.Perm.refl _⟩
  rcases work_ways system after task state input effects now stepped affected with
    ⟨rfl, _⟩ | ⟨store, message, _, rfl, _⟩ | ⟨rfl, _, finished⟩
  · exact leaves _
  · exact leaves _
  · refine ⟨[], ?_⟩
    simp only [System.ownedIds, System.pendingIds, advance_finished _ _ _ finished, remove_ids, keyed, List.map_append,
      List.map_cons, List.map_nil, List.append_assoc, List.singleton_append]
    refine List.Perm.trans ?_ ((List.perm_cons_erase running).symm.append_right _)
    exact (List.perm_middle.append_left _).trans List.perm_middle

theorem shielded_handed (system : System) (index : Nat) (call : ShieldedCall)
    (found : system.shielded[index]? = some call) :
    (call.messageId :: { system with shielded := system.shielded.eraseIdx index : System }.ownedIds).Perm
      system.ownedIds := by
  obtain ⟨inside, here⟩ := List.getElem?_eq_some_iff.mp found
  have left := ((List.getElem_cons_eraseIdx_perm inside).map ShieldedCall.messageId).append_right
    (system.handlers.filterMap Handler.starts)
  rw [List.map_cons, here] at left
  exact List.perm_middle.symm.trans (left.append_left _)

theorem update_keyed (manager : ChatTaskManager) (messageId : Uuid) (change : ChatTask → ChatTask)
    (keyed : ∀ entry ∈ manager.tasks, entry.2.state.arguments.assistantMessageId = entry.1)
    (kept : ∀ entry ∈ manager.tasks, entry.1 = messageId →
      (change entry.2).state.arguments.assistantMessageId = messageId) :
    ∀ entry ∈ (manager.update messageId change).tasks, entry.2.state.arguments.assistantMessageId = entry.1 := by
  intro entry member
  obtain ⟨old, inside, rfl⟩ := List.mem_map.mp member
  split
  · rename_i here
    exact (kept old inside here).trans here.symm
  · exact keyed old inside

theorem idle_starts (workspaceId : Uuid) (state : HandlerState) (idle : ∀ frame reply, state ≠ .wakes frame reply) :
    Handler.starts ⟨workspaceId, state⟩ = none := by
  cases state with
  | wakes frame reply => exact absurd rfl (idle frame reply)
  | _ => rfl

theorem pending_snoc (system : System) (manager : ChatTaskManager) (workspaceId : Uuid) (state : HandlerState)
    (idle : ∀ frame reply, state ≠ .wakes frame reply) :
    { system with manager, handlers := system.handlers ++ [⟨workspaceId, state⟩] : System }.pendingIds =
      system.pendingIds := by simp [System.pendingIds, idle_starts workspaceId state idle]

theorem perform_rows_below (store : Store) (workspaceId id : Uuid) (now : Nat) (call : StoreCall)
    (below : ∀ row ∈ store.rows, row.id < id) : ∀ row ∈ (store.perform workspaceId id now call).1.rows, row.id < id + 1 := by
  intro row member
  rcases perform_rows store workspaceId id now call row member with
    old | ⟨_, new, sequence, _, rfl⟩ | ⟨messageId, completion, old, _, same, was, here, _⟩
  · exact Nat.lt_succ_of_lt (below row old)
  · exact Nat.lt_succ_self id
  · rw [same, ← here]
    exact Nat.lt_succ_of_lt (below old was)

theorem complete_rows_below (store after : Store) (workspaceId messageId id : Uuid) (completion : Completion) (now : Nat)
    (message : Message) (below : ∀ row ∈ store.rows, row.id < id)
    (completed : store.completeAssistantMessage workspaceId messageId completion now = .ok (after, message)) :
    ∀ row ∈ after.rows, row.id < id := by
  intro row member
  rcases complete_rows _ _ _ _ _ _ _ completed row member with old | ⟨same, old, was, here, _⟩
  · exact below row old
  · rw [same, ← here]
    exact below old was

theorem owned_step (system next : System) (label : Label) (owned : Owned system)
    (taken : system.step label = some next) : Owned next := by
  cases label with
  | arrive workspaceId request =>
      obtain ⟨manager, state, rfl, managed, idle⟩ := step_arrive system next workspaceId request taken
      have same : { system with manager, handlers := system.handlers ++ [⟨workspaceId, state⟩] : System }.ownedIds =
          system.ownedIds := by
        rw [System.ownedIds, pending_snoc system manager workspaceId state idle]
        rcases managed with rfl | ⟨messageId, rfl⟩
        · rfl
        · rw [update_ids]
          rfl
      refine ⟨same ▸ owned.unique, same ▸ owned.below, ?_, owned.rows⟩
      rcases managed with rfl | ⟨messageId, rfl⟩
      · exact owned.keyed
      · exact update_keyed _ _ _ owned.keyed fun entry inside here => (owned.keyed entry inside).trans here
  | perform index now =>
      obtain ⟨workspaceId, frame, here, rfl⟩ := step_perform system next index now taken
      have handed := perform_handed system index now workspaceId frame here
        (system.store.perform workspaceId system.nextId now frame.call).1
      refine ⟨handed_unique _ _ _ handed owned.unique owned.below, ?_, owned.keyed, ?_⟩
      · exact handed_below _ _ _ _ handed (Nat.le_succ _) (fun _ => Nat.lt_succ_self _) owned.below
      · exact perform_rows_below system.store workspaceId system.nextId now frame.call owned.rows
  | resume index =>
      obtain ⟨workspaceId, frame, reply, after, state, here, proceeded, rfl⟩ := step_resume system next index taken
      have same := proceed_handed system after index workspaceId frame reply state here proceeded owned.unique
      obtain ⟨_, ways⟩ := proceed_ways system after workspaceId frame reply state proceeded
      rcases ways with ⟨submission, message, rfl, rfl, rfl⟩ | ⟨nextId, _, grows, rfl⟩
      · refine ⟨same.nodup_iff.mpr owned.unique, fun id member => owned.below id (same.subset member), ?_, owned.rows⟩
        intro entry member
        have tasks : entry ∈ (system.start workspaceId submission message).manager.tasks := member
        unfold System.start ChatTaskManager.start at tasks
        dsimp only at tasks
        split at tasks
        · exact owned.keyed entry tasks
        · rcases List.mem_append.mp tasks with old | new
          · exact owned.keyed entry old
          · obtain rfl := List.mem_singleton.mp new
            rfl
      · refine ⟨same.nodup_iff.mpr owned.unique, ?_, owned.keyed, ?_⟩
        · exact fun id member => Nat.lt_of_lt_of_le (owned.below id (same.subset member)) grows
        · exact fun message member => Nat.lt_of_lt_of_le (owned.rows message member) grows
  | work messageId input now =>
      obtain ⟨task, state, effects, after, found, _, stepped, affected, rfl⟩ :=
        step_work system next messageId input now taken
      obtain ⟨member, only⟩ := manager_get system.manager messageId task found
      have keyed : task.state.arguments.assistantMessageId = messageId := owned.keyed _ member
      obtain ⟨gone, left⟩ := work_handed system after messageId task state input effects now found keyed stepped affected
      have kept : after.manager = system.manager ∧ after.nextId = system.nextId ∧
          ∀ row ∈ after.store.rows, row.id < system.nextId := by
        rcases work_ways system after task state input effects now stepped affected with
          ⟨rfl, _⟩ | ⟨store, message, completed, rfl, _⟩ | ⟨rfl, _⟩
        · exact ⟨rfl, rfl, owned.rows⟩
        · exact ⟨rfl, rfl, complete_rows_below _ _ _ _ _ _ _ _ owned.rows completed⟩
        · exact ⟨rfl, rfl, owned.rows⟩
      obtain ⟨manager, nextId, rows⟩ := kept
      refine ⟨handed_unique _ _ _ (.inl ⟨gone, left⟩) owned.unique owned.below, ?_, ?_, ?_⟩
      · intro id inside
        rw [nextId]
        exact owned.below id (left.subset (List.mem_append_right gone inside))
      · dsimp only
        rw [manager]
        by_cases finished : state.point = .finished
        · rw [advance_finished _ _ _ finished]
          exact fun entry inside => owned.keyed entry (List.mem_filter.mp inside).1
        · rw [advance_running _ _ _ finished]
          refine update_keyed _ _ _ owned.keyed fun entry _ _ => ?_
          rw [worker_step_arguments task.state state input effects stepped, keyed]
      · rw [nextId]
        exact rows
  | shielded index now =>
      obtain ⟨call, found, ways⟩ := step_shielded system next index now taken
      have left := shielded_handed system index call found
      have unique := (List.nodup_cons.mp (left.nodup_iff.mpr owned.unique)).2
      have below := fun id member => owned.below id (left.subset (List.mem_cons_of_mem call.messageId member))
      rcases ways with rfl | ⟨store, message, completed, rfl⟩
      · exact ⟨unique, below, owned.keyed, owned.rows⟩
      · exact ⟨unique, below, owned.keyed, complete_rows_below _ _ _ _ _ _ _ _ owned.rows completed⟩

theorem next_id_grows (system next : System) (label : Label) (taken : system.step label = some next) :
    system.nextId ≤ next.nextId := by
  cases label with
  | arrive workspaceId request =>
      obtain ⟨_, _, rfl, _⟩ := step_arrive system next workspaceId request taken
      exact Nat.le_refl _
  | perform index now =>
      obtain ⟨_, _, _, rfl⟩ := step_perform system next index now taken
      exact Nat.le_succ _
  | resume index =>
      obtain ⟨workspaceId, frame, reply, after, state, _, proceeded, rfl⟩ := step_resume system next index taken
      rcases (proceed_ways system after workspaceId frame reply state proceeded).2 with
        ⟨_, _, _, _, rfl⟩ | ⟨nextId, _, grows, rfl⟩
      · exact Nat.le_refl _
      · exact grows
  | work messageId input now =>
      obtain ⟨task, state, effects, after, _, _, stepped, affected, rfl⟩ := step_work system next messageId input now taken
      rcases work_ways system after task state input effects now stepped affected with
        ⟨rfl, _⟩ | ⟨_, _, _, rfl, _⟩ | ⟨rfl, _⟩ <;> exact Nat.le_refl _
  | shielded index now =>
      obtain ⟨_, _, rfl | ⟨_, _, _, rfl⟩⟩ := step_shielded system next index now taken <;> exact Nat.le_refl _

theorem owned_serving (store : Store) (nextId : Uuid) (fresh : ∀ row ∈ store.rows, row.id < nextId) :
    Owned (serving store nextId) := by
  have nothing : (serving store nextId).ownedIds = [] := rfl
  refine ⟨nothing ▸ List.nodup_nil, ?_, ?_, fresh⟩
  · simp [nothing]
  · simp [serving]

end DataPilot.Chat
