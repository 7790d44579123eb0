import DataPilot.Base.Runs
import DataPilot.Chat.Store
import DataPilot.Chat.Worker

set_option autoImplicit false

namespace DataPilot.Chat

open DataPilot.Base DataPilot.Agent

-- A task that has not ended, and whether it has been cancelled since it last ran.
structure ChatTask where
  state : WorkerState
  cancelRequested : Bool := false

-- The dictionary of the task manager, less the tasks that are done: every method
-- treats those like missing ones.
structure ChatTaskManager where
  tasks : List (Uuid × ChatTask)
  keys : (tasks.map Prod.fst).Nodup

def ChatTaskManager.ids (manager : ChatTaskManager) : List Uuid := manager.tasks.map Prod.fst

def ChatTaskManager.isRunning (manager : ChatTaskManager) (messageId : Uuid) : Bool := decide (messageId ∈ manager.ids)

def ChatTaskManager.get (manager : ChatTaskManager) (messageId : Uuid) : Option ChatTask :=
  (manager.tasks.find? fun entry => decide (entry.1 = messageId)).map Prod.snd

def ChatTaskManager.start (manager : ChatTaskManager) (messageId : Uuid) (state : WorkerState) : ChatTaskManager × Bool :=
  if running : messageId ∈ manager.ids then (manager, false)
  else
    ({
      tasks := manager.tasks ++ [(messageId, { state })]
      keys := by
        rw [List.map_append]
        refine List.nodup_append.mpr ⟨manager.keys, List.nodup_singleton _, ?_⟩
        rintro old member new last rfl
        obtain rfl : old = messageId := List.mem_singleton.mp last
        exact running member }, true)

def ChatTaskManager.update (manager : ChatTaskManager) (messageId : Uuid) (change : ChatTask → ChatTask) :
    ChatTaskManager where
  tasks := manager.tasks.map fun entry => if entry.1 = messageId then (entry.1, change entry.2) else entry
  keys := by
    have same : ∀ entry : Uuid × ChatTask,
        (if entry.1 = messageId then (entry.1, change entry.2) else entry).1 = entry.1 := by
      intro entry
      split <;> rfl
    rw [List.map_map, show Prod.fst ∘ _ = Prod.fst from funext same]
    exact manager.keys

def ChatTaskManager.remove (manager : ChatTaskManager) (messageId : Uuid) : ChatTaskManager where
  tasks := manager.tasks.filter fun entry => decide (entry.1 ≠ messageId)
  keys := (List.filter_sublist.map Prod.fst).nodup manager.keys

def ChatTaskManager.abort (manager : ChatTaskManager) (messageId : Uuid) : ChatTaskManager × Bool :=
  if manager.isRunning messageId then (manager.update messageId fun task => { task with cancelRequested := true }, true)
  else (manager, false)

inductive ChatRequest where
  | createConversation
  | listConversations
  | getConversation (conversationId : Uuid)
  | streamMessage (conversationId : Uuid) (content : String) (clientRequestId : Option Uuid)
  | abortMessage (conversationId messageId : Uuid)
  | archiveConversation (conversationId : Uuid) (archived : Bool)
  | deleteConversation (conversationId : Uuid)

structure Submission where
  conversationId : Uuid
  content : String
  requestId : Uuid
  traceId : Uuid

-- The await of a handler, with the variables it still needs.
inductive Frame where
  | createConversation
  | listConversations
  | getConversation (conversationId : Uuid)
  | archiveConversation (conversationId : Uuid) (archived : Bool)
  | deleteConversation (conversationId : Uuid)
  | findConversation (conversationId : Uuid) (content : String) (clientRequestId : Option Uuid)
  | findAssistant (submission : Submission)
  | readHistory (submission : Submission)
  | appendUser (submission : Submission)
  | appendAssistant (submission : Submission)
  | recover (message : Message)
  | findMessage (messageId : Uuid)
  | abort (message : Message)

def Submission.userMessage (submission : Submission) : NewMessage where
  role := .user
  content := some submission.content

def Submission.assistantMessage (submission : Submission) : NewMessage where
  role := .assistant
  content := some ""
  status := .streaming
  requestId := some submission.requestId
  traceId := some submission.traceId

def rewrite (message : Message) (status : MessageStatus) : StoreCall :=
  .completeAssistantMessage message.id { content := message.content, status, steps := message.steps }

def Frame.call : Frame → StoreCall
  | .createConversation => .createConversation
  | .listConversations => .listConversations
  | .getConversation conversationId => .getConversation conversationId
  | .archiveConversation conversationId archived => .archiveConversation conversationId archived
  | .deleteConversation conversationId => .deleteConversation conversationId
  | .findConversation conversationId _ _ => .getConversation conversationId
  | .findAssistant submission => .getAssistantByRequestId submission.conversationId submission.requestId
  | .readHistory submission => .getHistory submission.conversationId
  | .appendUser submission => .appendMessage submission.conversationId submission.userMessage
  | .appendAssistant submission => .appendMessage submission.conversationId submission.assistantMessage
  | .recover message => rewrite message .error
  | .findMessage messageId => .getMessage messageId
  | .abort message => rewrite message .aborted

inductive Response where
  | conversation (conversation : Conversation)
  | page
  | notFound (detail : String)
  | streaming (message : Message)
  | aborted (aborted : Bool)
  | archived (archived : Bool)
  | noContent
  | failed (error : StoreError)

inductive HandlerState where
  | waits (frame : Frame)
  | wakes (frame : Frame) (reply : StoreReply)
  | responded (response : Response)

structure Handler where
  workspaceId : Uuid
  state : HandlerState

-- A shielded call that is still to be made after its task has ended.
structure ShieldedCall where
  workspaceId : Uuid
  messageId : Uuid
  completion : Completion

-- The store, the tasks and the requests of one server. New uuids come from a
-- counter; the workers that start returned True for are listed.
structure System where
  store : Store
  manager : ChatTaskManager
  handlers : List Handler := []
  shielded : List ShieldedCall := []
  started : List Uuid := []
  nextId : Uuid

-- A handler up to its first await.
def System.arrive (system : System) : ChatRequest → System × HandlerState
  | .createConversation => (system, .waits .createConversation)
  | .listConversations => (system, .waits .listConversations)
  | .getConversation conversationId => (system, .waits (.getConversation conversationId))
  | .streamMessage conversationId content clientRequestId =>
      (system, .waits (.findConversation conversationId content clientRequestId))
  | .abortMessage _ messageId =>
      let aborted := system.manager.abort messageId
      if aborted.2 then ({ system with manager := aborted.1 }, .responded (.aborted true))
      else (system, .waits (.findMessage messageId))
  | .archiveConversation conversationId archived => (system, .waits (.archiveConversation conversationId archived))
  | .deleteConversation conversationId => (system, .waits (.deleteConversation conversationId))

def notFound : HandlerState := .responded (.notFound "Conversation not found.")

def newWorker (workspaceId : Uuid) (submission : Submission) (message : Message) : WorkerState where
  arguments := {
    assistantMessageId := message.id
    workspaceId
    conversationId := submission.conversationId
    requestId := submission.requestId
    traceId := submission.traceId
    question := submission.content }

def System.start (system : System) (workspaceId : Uuid) (submission : Submission) (message : Message) : System :=
  let begun := system.manager.start message.id (newWorker workspaceId submission message)
  { system with
    manager := begun.1
    started := if begun.2 then system.started ++ [message.id] else system.started }

-- A handler from the end of an await to its next await. An exception of the
-- store leaves the handler.
def System.proceed (system : System) (workspaceId : Uuid) : Frame → StoreReply → Option (System × HandlerState)
  | _, .failed error => some (system, .responded (.failed error))
  | .createConversation, .conversation (some conversation) => some (system, .responded (.conversation conversation))
  | .listConversations, .read => some (system, .responded .page)
  | .getConversation _, .conversation none => some (system, notFound)
  | .getConversation _, .conversation (some conversation) => some (system, .responded (.conversation conversation))
  | .archiveConversation _ _, .changed false => some (system, notFound)
  | .archiveConversation _ archived, .changed true => some (system, .responded (.archived archived))
  | .deleteConversation _, .changed false => some (system, notFound)
  | .deleteConversation _, .changed true => some (system, .responded .noContent)
  | .findConversation _ _ _, .conversation none => some (system, notFound)
  | .findConversation conversationId content clientRequestId, .conversation (some _) =>
      some ({ system with nextId := system.nextId + 2 }, .waits (.findAssistant {
        conversationId
        content
        requestId := clientRequestId.getD system.nextId
        traceId := system.nextId + 1 }))
  | .findAssistant submission, .message none => some (system, .waits (.readHistory submission))
  | .findAssistant _, .message (some message) =>
      if message.status = .streaming ∧ system.manager.isRunning message.id = false then
        some (system, .waits (.recover message))
      else some (system, .responded (.streaming message))
  | .readHistory submission, .read => some (system, .waits (.appendUser submission))
  | .appendUser submission, .message (some _) => some (system, .waits (.appendAssistant submission))
  | .appendAssistant submission, .message (some message) =>
      some (system.start workspaceId submission message, .responded (.streaming message))
  | .recover _, .message (some message) => some (system, .responded (.streaming message))
  | .findMessage _, .message none => some (system, .responded (.aborted false))
  | .findMessage _, .message (some message) =>
      if message.role = .assistant ∧ message.status = .streaming then some (system, .waits (.abort message))
      else some (system, .responded (.aborted false))
  | .abort _, .message (some _) => some (system, .responded (.aborted true))
  | _, _ => none

-- What a worker does to the store; the broker is not part of the system.
def System.affect (system : System) (arguments : WorkerArguments) (now : Nat) : Effect → Option System
  | .publish _ => some system
  | .persist content status steps =>
      match system.store.completeAssistantMessage arguments.workspaceId arguments.assistantMessageId
          ⟨some content, status, steps⟩ now with
      | .error _ => none
      | .ok (store, _) => some { system with store }
  | .persistLater content status steps =>
      some { system with shielded := system.shielded ++
        [⟨arguments.workspaceId, arguments.assistantMessageId, ⟨some content, status, steps⟩⟩] }

def System.affectAll (system : System) (arguments : WorkerArguments) (now : Nat) : List Effect → Option System
  | [] => some system
  | effect :: rest => (system.affect arguments now effect).bind fun next => next.affectAll arguments now rest

def WorkerInput.isCancelled : WorkerInput → Bool
  | .cancelled _ => true
  | _ => false

-- A task that is done leaves the task manager.
def ChatTaskManager.advance (manager : ChatTaskManager) (messageId : Uuid) (state : WorkerState) : ChatTaskManager :=
  match state.point with
  | .finished => manager.remove messageId
  | _ => manager.update messageId fun _ => { state }

inductive Label where
  | arrive (workspaceId : Uuid) (request : ChatRequest)
  | perform (index : Nat) (now : Nat)
  | resume (index : Nat)
  | work (messageId : Uuid) (input : WorkerInput) (now : Nat)
  | shielded (index : Nat) (now : Nat)

def System.setHandler (system : System) (index : Nat) (workspaceId : Uuid) (state : HandlerState) : System :=
  { system with handlers := system.handlers.set index ⟨workspaceId, state⟩ }

-- A request arrives, a handler's call is performed, a handler goes on, a task
-- goes on or a shielded call is performed. A cancelled task is resumed by its
-- cancellation.
def System.step (system : System) : Label → Option System
  | .arrive workspaceId request =>
      let arrived := system.arrive request
      some { arrived.1 with handlers := arrived.1.handlers ++ [⟨workspaceId, arrived.2⟩] }
  | .perform index now =>
      match system.handlers[index]? with
      | some ⟨workspaceId, .waits frame⟩ =>
          let performed := system.store.perform workspaceId system.nextId now frame.call
          some ({ system with store := performed.1, nextId := system.nextId + 1 }.setHandler index workspaceId
            (.wakes frame performed.2))
      | _ => none
  | .resume index =>
      match system.handlers[index]? with
      | some ⟨workspaceId, .wakes frame reply⟩ =>
          (system.proceed workspaceId frame reply).map fun next => next.1.setHandler index workspaceId next.2
      | _ => none
  | .work messageId input now =>
      match system.manager.get messageId with
      | none => none
      | some task =>
          if task.cancelRequested = input.isCancelled then
            match workerStep task.state input with
            | none => none
            | some (state, effects) =>
                (system.affectAll task.state.arguments now effects).map fun next =>
                  { next with manager := next.manager.advance messageId state }
          else none
  | .shielded index now =>
      match system.shielded[index]? with
      | none => none
      | some call =>
          let rest := { system with shielded := system.shielded.eraseIdx index }
          match system.store.completeAssistantMessage call.workspaceId call.messageId call.completion now with
          | .error _ => some rest
          | .ok (store, _) => some { rest with store }

def serving (store : Store) (nextId : Uuid) : System := { store, manager := ⟨[], List.nodup_nil⟩, nextId }

def Reachable (system : System) : Prop :=
  ∃ store nextId labels, runFrom System.step (serving store nextId) labels = some system

theorem arrive_abort (system : System) (conversationId messageId : Uuid) :
    (system.manager.isRunning messageId = true ∧ system.arrive (.abortMessage conversationId messageId) =
      ({ system with manager := system.manager.update messageId fun task => { task with cancelRequested := true } },
        .responded (.aborted true))) ∨
    (system.manager.isRunning messageId = false ∧
      system.arrive (.abortMessage conversationId messageId) = (system, .waits (.findMessage messageId))) := by
  cases running : system.manager.isRunning messageId with
  | true => exact .inl ⟨rfl, by simp [System.arrive, ChatTaskManager.abort, running]⟩
  | false => exact .inr ⟨rfl, by simp [System.arrive, ChatTaskManager.abort, running]⟩

theorem arrive_handlers (system : System) (request : ChatRequest) : (system.arrive request).1.handlers = system.handlers := by
  cases request with
  | abortMessage conversationId messageId =>
      rcases arrive_abort system conversationId messageId with ⟨_, arrived⟩ | ⟨_, arrived⟩ <;> rw [arrived]
  | _ => rfl

theorem arrive_ways (system : System) (request : ChatRequest) :
    ∃ manager, (system.arrive request).1 = { system with manager } ∧
      (manager = system.manager ∨
        ∃ messageId, manager = system.manager.update messageId fun task => { task with cancelRequested := true }) ∧
      ∀ frame reply, (system.arrive request).2 ≠ .wakes frame reply := by
  cases request with
  | abortMessage conversationId messageId =>
      rcases arrive_abort system conversationId messageId with ⟨_, arrived⟩ | ⟨_, arrived⟩
      · rw [arrived]
        exact ⟨system.manager.update messageId _, rfl, .inr ⟨messageId, rfl⟩, by simp⟩
      · rw [arrived]
        exact ⟨system.manager, rfl, .inl rfl, by simp⟩
  | _ => exact ⟨system.manager, rfl, .inl rfl, by simp [System.arrive]⟩

section Steps

variable (system next : System)

theorem step_arrive (workspaceId : Uuid) (request : ChatRequest)
    (taken : system.step (.arrive workspaceId request) = some next) :
    ∃ manager state, next = { system with manager, handlers := system.handlers ++ [⟨workspaceId, state⟩] } ∧
      (manager = system.manager ∨
        ∃ messageId, manager = system.manager.update messageId fun task => { task with cancelRequested := true }) ∧
      ∀ frame reply, state ≠ .wakes frame reply := by
  obtain ⟨manager, arrived, managed, idle⟩ := arrive_ways system request
  refine ⟨manager, (system.arrive request).2, ?_, managed, idle⟩
  rw [← Option.some.inj taken, arrived]

theorem step_perform (index now : Nat) (taken : system.step (.perform index now) = some next) :
    ∃ workspaceId frame, system.handlers[index]? = some ⟨workspaceId, .waits frame⟩ ∧
      next = { system with
        store := (system.store.perform workspaceId system.nextId now frame.call).1
        nextId := system.nextId + 1 }.setHandler index workspaceId
          (.wakes frame (system.store.perform workspaceId system.nextId now frame.call).2) := by
  rw [System.step] at taken
  split at taken
  · rename_i workspaceId frame here
    exact ⟨workspaceId, frame, here, (Option.some.inj taken).symm⟩
  · cases taken

theorem step_resume (index : Nat) (taken : system.step (.resume index) = some next) :
    ∃ workspaceId frame reply after state, system.handlers[index]? = some ⟨workspaceId, .wakes frame reply⟩ ∧
      system.proceed workspaceId frame reply = some (after, state) ∧ next = after.setHandler index workspaceId state := by
  rw [System.step] at taken
  split at taken
  · rename_i workspaceId frame reply here
    obtain ⟨⟨after, state⟩, proceeded, rfl⟩ := Option.map_eq_some_iff.mp taken
    exact ⟨workspaceId, frame, reply, after, state, here, proceeded, rfl⟩
  · cases taken

theorem step_work (messageId : Uuid) (input : WorkerInput) (now : Nat)
    (taken : system.step (.work messageId input now) = some next) :
    ∃ task state effects after, system.manager.get messageId = some task ∧
      task.cancelRequested = input.isCancelled ∧ workerStep task.state input = some (state, effects) ∧
      system.affectAll task.state.arguments now effects = some after ∧
      next = { after with manager := after.manager.advance messageId state } := by
  rw [System.step] at taken
  split at taken
  · cases taken
  rename_i task found
  split at taken
  · rename_i ready
    split at taken
    · cases taken
    · rename_i state effects stepped
      obtain ⟨after, affected, rfl⟩ := Option.map_eq_some_iff.mp taken
      exact ⟨task, state, effects, after, found, ready, stepped, affected, rfl⟩
  · cases taken

theorem step_shielded (index now : Nat) (taken : system.step (.shielded index now) = some next) :
    ∃ call, system.shielded[index]? = some call ∧
      (next = { system with shielded := system.shielded.eraseIdx index } ∨
        ∃ store message,
          system.store.completeAssistantMessage call.workspaceId call.messageId call.completion now =
            .ok (store, message) ∧
          next = { system with shielded := system.shielded.eraseIdx index, store }) := by
  rw [System.step] at taken
  split at taken
  · cases taken
  rename_i call found
  split at taken
  · exact ⟨call, found, .inl (Option.some.inj taken).symm⟩
  · rename_i store message completed
    exact ⟨call, found, .inr ⟨store, message, completed, (Option.some.inj taken).symm⟩⟩

end Steps

theorem manager_get (manager : ChatTaskManager) (messageId : Uuid) (task : ChatTask)
    (found : manager.get messageId = some task) :
    (messageId, task) ∈ manager.tasks ∧ ∀ entry ∈ manager.tasks, entry.1 = messageId → entry.2 = task := by
  obtain ⟨⟨key, value⟩, first, rfl⟩ := Option.map_eq_some_iff.mp found
  have member := List.mem_of_find?_eq_some first
  obtain rfl : key = messageId := by simpa using List.find?_some first
  refine ⟨member, fun entry inside same => ?_⟩
  rw [List.inj_on_of_nodup_map manager.keys inside member same]

section Sample

def sampleStore : Store where
  conversations := [opened 2 1 0]
  conversationIds := by simp
  messageIds := by simp [Chat.rows, opened]
  requestIds := by simp [Chat.rows, opened]

def sampleRequest : ChatRequest := .streamMessage 1 "How many rows?" (some 7)

def handled (index calls : Nat) : List Label := (List.replicate calls [.perform index 0, .resume index]).flatten

def sampleSubmission : List Label := .arrive 2 sampleRequest :: handled 0 5

end Sample

end DataPilot.Chat
