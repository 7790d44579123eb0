import DataPilot.Base.Runs
import DataPilot.Chat.System

set_option autoImplicit false

namespace DataPilot.Chat

open DataPilot.Base DataPilot.Agent

def ownedBy (workspaceId : Uuid) (conversation : Conversation) : Bool := decide (conversation.workspaceId = workspaceId)

def ChatTask.workspaceId (task : ChatTask) : Uuid := task.state.arguments.workspaceId

-- What belongs to a workspace: its conversations with their messages, its
-- running tasks and the calls its tasks have left behind.
structure View where
  conversations : List Conversation
  tasks : List (Uuid × ChatTask)
  shielded : List ShieldedCall

def System.view (system : System) (workspaceId : Uuid) : View where
  conversations := system.store.conversations.filter (ownedBy workspaceId)
  tasks := system.manager.tasks.filter fun entry => decide (entry.2.workspaceId = workspaceId)
  shielded := system.shielded.filter fun call => decide (call.workspaceId = workspaceId)

-- The steps that a request of the workspace causes: those of its handler, of the
-- workspace's tasks and of the calls they have left behind.
def Caused (workspaceId : Uuid) (index : Nat) (system : System) : Label → Prop
  | .arrive _ _ => False
  | .perform handler _ => handler = index
  | .resume handler => handler = index
  | .work messageId _ _ => ∀ task, system.manager.get messageId = some task → task.workspaceId = workspaceId
  | .shielded call _ => ∀ pending, system.shielded[call]? = some pending → pending.workspaceId = workspaceId

def Isolated (system : System) (workspaceId : Uuid) (request : ChatRequest) : Prop :=
  ∀ after labels final, system.step (.arrive workspaceId request) = some after →
    StepsMeet System.step (Caused workspaceId system.handlers.length) after labels →
    runFrom System.step after labels = some final → ∀ other, other ≠ workspaceId → final.view other = system.view other

-- An abort request that names the running task of another workspace, one that is
-- not being cancelled yet.
def CancelsForeign (system : System) (workspaceId : Uuid) (request : ChatRequest) : Prop :=
  ∃ conversationId messageId task, request = .abortMessage conversationId messageId ∧
    (messageId, task) ∈ system.manager.tasks ∧ task.workspaceId ≠ workspaceId ∧ task.cancelRequested = false

theorem filter_map_same {α : Type} (keep : α → Bool) (change : α → α) (items : List α)
    (same : ∀ item ∈ items, change item = item ∨ (keep item = false ∧ keep (change item) = false)) :
    (items.map change).filter keep = items.filter keep := by
  induction items with
  | nil => rfl
  | cons first rest ih =>
      have later := ih fun item member => same item (List.mem_cons_of_mem first member)
      rw [List.map_cons, List.filter_cons, List.filter_cons, later]
      rcases same first (List.mem_cons_self ..) with unchanged | ⟨dropped, droppedAfter⟩
      · rw [unchanged]
      · simp [dropped, droppedAfter]

theorem filter_erase_same {α : Type} (keep : α → Bool) (items : List α) (index : Nat) (item : α)
    (found : items[index]? = some item) (dropped : keep item = false) :
    (items.eraseIdx index).filter keep = items.filter keep := by
  induction items generalizing index with
  | nil => rfl
  | cons first rest ih =>
      cases index with
      | zero =>
          obtain rfl : first = item := Option.some.inj found
          simp [dropped]
      | succ index =>
          rw [List.eraseIdx_cons_succ, List.filter_cons, List.filter_cons, ih index found]

theorem belongs_mine (workspaceId conversationId : Uuid) (conversation : Conversation)
    (picked : belongs workspaceId conversationId conversation = true) : conversation.workspaceId = workspaceId :=
  (of_decide_eq_true picked).2

section Conversations

variable (workspaceId other : Uuid) (apart : other ≠ workspaceId)

include apart

theorem change_where_others (selected : Conversation → Bool) (change : Conversation → Conversation)
    (conversations : List Conversation)
    (mine : ∀ conversation, selected conversation = true → conversation.workspaceId = workspaceId)
    (kept : ∀ conversation, (change conversation).workspaceId = conversation.workspaceId) :
    (changeWhere selected change conversations).filter (ownedBy other) = conversations.filter (ownedBy other) := by
  refine filter_map_same _ _ _ fun conversation _ => ?_
  by_cases picked : selected conversation = true
  · have foreign : conversation.workspaceId ≠ other := fun same => apart (same.symm.trans (mine conversation picked))
    refine .inr ⟨decide_eq_false foreign, ?_⟩
    rw [if_pos picked]
    exact decide_eq_false (kept conversation ▸ foreign)
  · exact .inl (if_neg picked)

theorem complete_others (store after : Store) (messageId : Uuid) (completion : Completion) (now : Nat) (message : Message)
    (completed : store.completeAssistantMessage workspaceId messageId completion now = .ok (after, message)) :
    after.conversations.filter (ownedBy other) = store.conversations.filter (ownedBy other) := by
  rw [(complete_ok store after workspaceId messageId completion now message completed).1]
  exact change_where_others workspaceId other apart _ _ _ (fun _ picked => (of_decide_eq_true picked).1) fun _ => rfl

theorem perform_others (store : Store) (id : Uuid) (now : Nat) (call : StoreCall) :
    (store.perform workspaceId id now call).1.conversations.filter (ownedBy other) =
      store.conversations.filter (ownedBy other) := by
  cases call with
  | createConversation =>
      rw [Store.perform, Store.createConversation]
      split
      · rfl
      · rename_i created
        split at created <;> cases created
        have foreign : ownedBy other (opened workspaceId id now) = false := decide_eq_false apart.symm
        simp [List.filter_append, foreign]
  | appendMessage conversationId new =>
      rw [Store.perform]
      split
      · rfl
      · rename_i appended
        unfold Store.appendMessage at appended
        split at appended
        · cases appended
        split at appended <;> cases appended
        exact change_where_others workspaceId other apart _ _ _ (fun _ => belongs_mine workspaceId _ _) fun _ => rfl
  | completeAssistantMessage messageId completion =>
      rw [Store.perform]
      split
      · rfl
      · rename_i completed
        exact complete_others workspaceId other apart store _ messageId completion now _ completed
  | archiveConversation conversationId archived =>
      rw [Store.perform, Store.archiveConversation]
      split
      · rfl
      · exact change_where_others workspaceId other apart _ _ _ (fun _ => belongs_mine workspaceId _ _) fun _ => rfl
  | deleteConversation conversationId =>
      rw [Store.perform, Store.deleteConversation]
      split
      · rfl
      · dsimp only
        rw [List.filter_filter]
        refine List.filter_congr fun conversation _ => ?_
        by_cases owned : conversation.workspaceId = other
        · have kept : belongs workspaceId conversationId conversation = false :=
            decide_eq_false fun both => apart (owned.symm.trans both.2)
          simp [kept]
        · simp [ownedBy, owned]
  | listConversations => rfl
  | getConversation conversationId => rfl
  | getHistory conversationId => rfl
  | getAssistantByRequestId conversationId requestId => rfl
  | getMessage messageId => rfl

end Conversations

section Steps

variable (workspaceId other : Uuid) (apart : other ≠ workspaceId)

include apart

theorem affect_all_others (system after : System) (arguments : WorkerArguments) (now : Nat) (effects : List Effect)
    (mine : arguments.workspaceId = workspaceId) (affected : system.affectAll arguments now effects = some after) :
    after.view other = system.view other ∧ after.manager = system.manager ∧ after.handlers = system.handlers := by
  induction effects generalizing system with
  | nil =>
      cases affected
      exact ⟨rfl, rfl, rfl⟩
  | cons effect rest ih =>
      obtain ⟨middle, first, later⟩ := Option.bind_eq_some_iff.mp affected
      obtain ⟨view, manager, handlers⟩ := ih middle later
      rw [view, manager, handlers]
      cases effect with
      | publish event =>
          cases first
          exact ⟨rfl, rfl, rfl⟩
      | persist content status steps =>
          rw [System.affect] at first
          split at first
          · cases first
          · rename_i store message completed
            cases first
            refine ⟨?_, rfl, rfl⟩
            rw [mine] at completed
            simp only [System.view, complete_others workspaceId other apart system.store store _ _ now message completed]
      | persistLater content status steps =>
          cases first
          have foreign : decide (arguments.workspaceId = other) = false :=
            decide_eq_false fun same => apart (same.symm.trans mine)
          refine ⟨?_, rfl, rfl⟩
          simp [System.view, List.filter_append, foreign]

theorem update_others (manager : ChatTaskManager) (messageId : Uuid) (change : ChatTask → ChatTask)
    (same : ∀ entry ∈ manager.tasks, entry.1 = messageId → change entry.2 = entry.2 ∨
      (entry.2.workspaceId = workspaceId ∧ (change entry.2).workspaceId = workspaceId)) :
    (manager.update messageId change).tasks.filter (fun entry => decide (entry.2.workspaceId = other)) =
      manager.tasks.filter fun entry => decide (entry.2.workspaceId = other) := by
  refine filter_map_same _ _ _ fun entry member => ?_
  by_cases here : entry.1 = messageId
  · rw [if_pos here]
    rcases same entry member here with unchanged | ⟨mine, still⟩
    · exact .inl (by rw [unchanged])
    · exact .inr ⟨decide_eq_false (mine ▸ apart.symm), decide_eq_false (still ▸ apart.symm)⟩
  · exact .inl (if_neg here)

theorem start_others (system : System) (submission : Submission) (message : Message) :
    (system.start workspaceId submission message).view other = system.view other := by
  unfold System.start ChatTaskManager.start
  dsimp only
  split
  · rfl
  · have foreign : ¬ workspaceId = other := fun same => apart same.symm
    simp [System.view, List.filter_append, ChatTask.workspaceId, newWorker, foreign]

theorem proceed_others (system after : System) (frame : Frame) (reply : StoreReply) (state : HandlerState)
    (proceeded : system.proceed workspaceId frame reply = some (after, state)) :
    after.view other = system.view other ∧ after.handlers = system.handlers := by
  unfold System.proceed at proceeded
  split at proceeded
  all_goals first
    | (cases proceeded; done)
    | (cases proceeded; exact ⟨rfl, rfl⟩)
    | (split at proceeded <;> cases proceeded <;> exact ⟨rfl, rfl⟩)
    | (cases proceeded; exact ⟨start_others workspaceId other apart _ _ _, rfl⟩)

theorem advance_others (manager : ChatTaskManager) (messageId : Uuid) (task : ChatTask) (state : WorkerState)
    (found : manager.get messageId = some task) (mine : task.workspaceId = workspaceId)
    (kept : state.arguments = task.state.arguments) :
    (manager.advance messageId state).tasks.filter (fun entry => decide (entry.2.workspaceId = other)) =
      manager.tasks.filter fun entry => decide (entry.2.workspaceId = other) := by
  have only := (manager_get manager messageId task found).2
  unfold ChatTaskManager.advance
  split
  · rw [ChatTaskManager.remove, List.filter_filter]
    refine List.filter_congr fun entry member => ?_
    by_cases here : entry.1 = messageId
    · have foreign : ¬ entry.2.workspaceId = other := by
        rw [only entry member here, mine]
        exact apart.symm
      simp [foreign]
    · simp [here]
  · refine update_others workspaceId other apart manager messageId _ fun entry member here => .inr ⟨?_, ?_⟩
    · rw [only entry member here, mine]
    · exact (congrArg WorkerArguments.workspaceId kept).trans mine

theorem caused_step (index : Nat) (system next : System) (label : Label) (state : HandlerState)
    (mine : system.handlers[index]? = some ⟨workspaceId, state⟩) (caused : Caused workspaceId index system label)
    (taken : system.step label = some next) :
    next.view other = system.view other ∧ ∃ state, next.handlers[index]? = some ⟨workspaceId, state⟩ := by
  have inside : index < system.handlers.length := (List.getElem?_eq_some_iff.mp mine).1
  cases label with
  | arrive workspaceId' request => exact caused.elim
  | perform index' now =>
      obtain rfl : index' = index := caused
      obtain ⟨workspaceId', frame, here, rfl⟩ := step_perform system next index' now taken
      obtain ⟨rfl, _⟩ : workspaceId = workspaceId' ∧ state = .waits frame := by simpa [mine] using here
      refine ⟨?_, _, by simp [System.setHandler, inside]; rfl⟩
      have untouched := perform_others workspaceId other apart system.store system.nextId now frame.call
      simp only [System.view, System.setHandler, untouched]
  | resume index' =>
      obtain rfl : index' = index := caused
      obtain ⟨workspaceId', frame, reply, after, state', here, proceeded, rfl⟩ := step_resume system next index' taken
      obtain ⟨rfl, _⟩ : workspaceId = workspaceId' ∧ state = .wakes frame reply := by simpa [mine] using here
      obtain ⟨view, handlers⟩ := proceed_others workspaceId other apart system after frame reply state' proceeded
      refine ⟨view, state', ?_⟩
      simp [System.setHandler, handlers, inside]
  | work messageId input now =>
      obtain ⟨task, state', effects, after, found, _, stepped, affected, rfl⟩ :=
        step_work system next messageId input now taken
      have owned : task.workspaceId = workspaceId := caused task found
      obtain ⟨view, manager, handlers⟩ :=
        affect_all_others workspaceId other apart system after task.state.arguments now effects owned affected
      refine ⟨?_, state, by rw [handlers]; exact mine⟩
      have tasks := advance_others workspaceId other apart after.manager messageId task state' (manager ▸ found) owned
        (worker_step_arguments task.state state' input effects stepped)
      rw [← view]
      simp only [System.view, tasks]
  | shielded index' now =>
      obtain ⟨call, found, ways⟩ := step_shielded system next index' now taken
      have owned : call.workspaceId = workspaceId := caused call found
      have dropped : (system.shielded.eraseIdx index').filter (fun call => decide (call.workspaceId = other)) =
          system.shielded.filter fun call => decide (call.workspaceId = other) := by
        refine filter_erase_same _ _ index' call found (decide_eq_false ?_)
        rw [owned]
        exact apart.symm
      rcases ways with rfl | ⟨store, message, completed, rfl⟩
      · exact ⟨by simp only [System.view, dropped], state, mine⟩
      · rw [owned] at completed
        have untouched := complete_others workspaceId other apart system.store store _ _ now message completed
        exact ⟨by simp only [System.view, dropped, untouched], state, mine⟩

theorem arrive_others (system : System) (request : ChatRequest) (harmless : ¬ CancelsForeign system workspaceId request) :
    (system.arrive request).1.view other = system.view other := by
  cases request with
  | abortMessage conversationId messageId =>
      rcases arrive_abort system conversationId messageId with ⟨_, arrived⟩ | ⟨_, arrived⟩
      · have untouched := update_others workspaceId other apart system.manager messageId
          (fun task => { task with cancelRequested := true }) fun entry member here => by
            by_cases mine : entry.2.workspaceId = workspaceId
            · exact .inr ⟨mine, mine⟩
            · refine .inl ?_
              have pending : entry.2.cancelRequested = true := by
                rw [← Bool.not_eq_false]
                exact fun idle => harmless ⟨conversationId, messageId, entry.2, rfl, here ▸ member, mine, idle⟩
              obtain ⟨key, state, requested⟩ := entry
              simp only at pending ⊢
              rw [pending]
        simp only [arrived, System.view, untouched]
      · rw [arrived]
  | _ => rfl

end Steps

theorem harmless_isolated (system : System) (workspaceId : Uuid) (request : ChatRequest)
    (harmless : ¬ CancelsForeign system workspaceId request) : Isolated system workspaceId request := by
  intro after labels final arrived caused run other apart
  have opened : after.view other = system.view other ∧
      ∃ state, after.handlers[system.handlers.length]? = some ⟨workspaceId, state⟩ := by
    obtain rfl := Option.some.inj arrived
    refine ⟨arrive_others workspaceId other apart system request harmless, (system.arrive request).2, ?_⟩
    rw [arrive_handlers system request, List.getElem?_concat_length]
  have kept := run_invariant_meeting (Caused workspaceId system.handlers.length)
    (fun reached => reached.view other = system.view other ∧
      ∃ state, reached.handlers[system.handlers.length]? = some ⟨workspaceId, state⟩)
    (fun reached label next good caused taken => by
      obtain ⟨view, state, mine⟩ := good
      have stepped := caused_step workspaceId other apart system.handlers.length reached next label state mine caused taken
      exact ⟨stepped.1.trans view, stepped.2⟩)
    after final labels opened caused run
  exact kept.1

theorem foreign_exposed (system : System) (workspaceId : Uuid) (request : ChatRequest)
    (foreign : CancelsForeign system workspaceId request) : ¬ Isolated system workspaceId request := by
  obtain ⟨conversationId, messageId, task, rfl, running, apart, idle⟩ := foreign
  intro isolated
  have same := isolated _ [] _ rfl trivial rfl task.workspaceId apart
  have listed : messageId ∈ system.manager.ids := List.mem_map_of_mem running
  have seen : (messageId, task) ∈ (system.view task.workspaceId).tasks :=
    List.mem_filter.mpr ⟨running, decide_eq_true rfl⟩
  rw [← same] at seen
  have inside := (List.mem_filter.mp seen).1
  rcases arrive_abort system conversationId messageId with ⟨_, arrived⟩ | ⟨absent, _⟩
  swap
  · exact absurd listed (of_decide_eq_false absent)
  rw [arrived] at inside
  obtain ⟨⟨key, value⟩, _, changed⟩ := List.mem_map.mp inside
  split at changed
  · have requested := congrArg (fun entry => entry.2.cancelRequested) changed
    simp [idle] at requested
  · rename_i elsewhere
    exact elsewhere (congrArg Prod.fst changed)

theorem request_isolated_iff (system : System) (workspaceId : Uuid) (request : ChatRequest) :
    Isolated system workspaceId request ↔ ¬ CancelsForeign system workspaceId request :=
  ⟨fun isolated foreign => foreign_exposed system workspaceId request foreign isolated,
    harmless_isolated system workspaceId request⟩

-- Workspace 3 aborts the worker that answers workspace 2.
theorem foreign_abort_cancels :
    ¬ ∀ system, Reachable system → ∀ workspaceId request, Isolated system workspaceId request := by
  intro claim
  obtain ⟨system, run, task, running, owned, idle⟩ : ∃ system,
      runFrom System.step (serving sampleStore 10) sampleSubmission = some system ∧
        ∃ task, (16, task) ∈ system.manager.tasks ∧ task.workspaceId = 2 ∧ task.cancelRequested = false :=
    ⟨_, rfl, _, List.mem_singleton.mpr rfl, rfl, rfl⟩
  refine foreign_exposed system 3 (.abortMessage 1 16) ⟨1, 16, task, rfl, running, ?_, idle⟩
    (claim system ⟨_, _, _, run⟩ 3 (.abortMessage 1 16))
  rw [owned]
  decide

end DataPilot.Chat
