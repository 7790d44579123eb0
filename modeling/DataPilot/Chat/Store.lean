import DataPilot.Chat.Models

set_option autoImplicit false

namespace DataPilot.Chat

open DataPilot.Base DataPilot.Agent

def rows (conversations : List Conversation) : List Message := conversations.flatMap Conversation.messages

-- The tables conversations, messages and agent_steps with the keys that the
-- database keeps: the ids, and the request ids that are not null.
structure Store where
  conversations : List Conversation
  conversationIds : (conversations.map Conversation.id).Nodup
  messageIds : ((rows conversations).map Message.id).Nodup
  requestIds : ((rows conversations).filterMap Message.requestId).Nodup

def Store.rows (store : Store) : List Message := Chat.rows store.conversations

inductive StoreError where
  | conversationNotFound (conversationId : Uuid)
  | messageNotFound (messageId : Uuid)
  | integrity
deriving DecidableEq

structure NewMessage where
  role : MessageRole
  content : Option String
  status : MessageStatus := .completed
  requestId : Option Uuid := none
  traceId : Option Uuid := none

-- What complete_assistant_message writes over a message.
structure Completion where
  content : Option String
  status : MessageStatus
  steps : List AgentStep

def untitled : String := "新会话"

def NewMessage.message (new : NewMessage) (id : Uuid) (sequence : Nat) : Message where
  id := id
  sequence := sequence
  role := new.role
  content := new.content
  status := new.status
  requestId := new.requestId
  traceId := new.traceId

def Conversation.retitled (conversation : Conversation) (new : NewMessage) : String :=
  if new.role = .user ∧ conversation.title = untitled ∧ new.content.getD "" ≠ "" then
    slice (strip (new.content.getD "")) 40
  else conversation.title

def Conversation.add (conversation : Conversation) (new : NewMessage) (id : Uuid) (now : Nat) : Conversation :=
  { conversation with
    title := conversation.retitled new
    nextSequence := conversation.nextSequence + 1
    updatedAt := now
    messages := conversation.messages ++ [new.message id conversation.nextSequence]
    sequenced := by
      have earlier := conversation.sequenced
      rw [List.map_append, List.pairwise_append]
      refine ⟨earlier, List.pairwise_singleton _ _, ?_⟩
      intro sequence member next last
      obtain rfl := List.mem_singleton.mp last
      rcases List.mem_append.mp member with old | new
      · have below := (List.pairwise_append.mp earlier).2.2 sequence old _ (List.mem_singleton_self _)
        omega
      · obtain rfl := List.mem_singleton.mp new
        exact Nat.lt_succ_self _ }

def Message.complete (completion : Completion) (message : Message) : Message :=
  { message with content := completion.content, status := completion.status, steps := completion.steps }

def completeIn (messageId : Uuid) (completion : Completion) (messages : List Message) : List Message :=
  messages.map fun message => if message.id = messageId then message.complete completion else message

theorem complete_in_keeps {α : Type} (messageId : Uuid) (completion : Completion) (messages : List Message)
    (field : Message → α) (kept : ∀ message, field (message.complete completion) = field message) :
    (completeIn messageId completion messages).map field = messages.map field := by
  rw [completeIn, List.map_map]
  refine List.map_congr_left fun message _ => ?_
  dsimp only [Function.comp_apply]
  split
  · exact kept message
  · rfl

def Conversation.complete (messageId : Uuid) (completion : Completion) (now : Nat) (conversation : Conversation) :
    Conversation :=
  { conversation with
    updatedAt := now
    messages := completeIn messageId completion conversation.messages
    sequenced := by
      rw [complete_in_keeps messageId completion conversation.messages Message.sequence fun _ => rfl]
      exact conversation.sequenced }

def Conversation.archive (archived : Bool) (now : Nat) (conversation : Conversation) : Conversation :=
  { conversation with archivedAt := if archived then some now else none, updatedAt := now }

def changeWhere (selected : Conversation → Bool) (change : Conversation → Conversation)
    (conversations : List Conversation) : List Conversation :=
  conversations.map fun conversation => if selected conversation then change conversation else conversation

section Keys

variable (selected : Conversation → Bool) (change : Conversation → Conversation) (conversations : List Conversation)

theorem change_where_keeps {α : Type} (field : Conversation → α)
    (kept : ∀ conversation, field (change conversation) = field conversation) :
    (changeWhere selected change conversations).map field = conversations.map field := by
  rw [changeWhere, List.map_map]
  refine List.map_congr_left fun conversation _ => ?_
  dsimp only [Function.comp_apply]
  split
  · exact kept conversation
  · rfl

theorem mem_rows (message : Message) :
    message ∈ rows conversations ↔ ∃ conversation ∈ conversations, message ∈ conversation.messages := List.mem_flatMap

theorem rows_map_keeps {α : Type} (field : Message → α)
    (kept : ∀ conversation, (change conversation).messages.map field = conversation.messages.map field) :
    (rows (changeWhere selected change conversations)).map field = (rows conversations).map field := by
  simp only [rows, List.map_flatMap]
  rw [List.flatMap_def, List.flatMap_def]
  rw [change_where_keeps selected change conversations (fun conversation => conversation.messages.map field) kept]

theorem filter_map_requests (messages : List Message) :
    messages.filterMap Message.requestId = (messages.map Message.requestId).filterMap id := by
  rw [List.filterMap_map]
  rfl

theorem rows_add (new : NewMessage) (id : Uuid) (now : Nat) (conversation : Conversation)
    (present : conversation ∈ conversations) (unique : (conversations.map Conversation.id).Nodup)
    (picks : ∀ other ∈ conversations, selected other = true ↔ other.id = conversation.id) :
    (rows (changeWhere selected (fun other => other.add new id now) conversations)).Perm
      (new.message id conversation.nextSequence :: rows conversations) := by
  induction conversations with
  | nil => cases present
  | cons first rest ih =>
      rw [List.map_cons, List.nodup_cons] at unique
      have later : ∀ other ∈ rest, selected other = true ↔ other.id = conversation.id :=
        fun other member => picks other (List.mem_cons_of_mem first member)
      rcases List.mem_cons.mp present with rfl | inRest
      · have untouched : changeWhere selected (fun other => other.add new id now) rest = rest := by
          have same := List.map_congr_left (f := fun other => if selected other then other.add new id now else other)
            (g := fun other => other) (l := rest) fun other member => by
              have unpicked : selected other ≠ true := fun picked =>
                unique.1 ((later other member).mp picked ▸ List.mem_map_of_mem member)
              simp [unpicked]
          simpa [changeWhere] using same
        have picked := (picks conversation (List.mem_cons_self ..)).mpr rfl
        simp only [changeWhere, rows, List.map_cons, List.flatMap_cons, picked, if_true] at untouched ⊢
        rw [untouched]
        simp only [Conversation.add, List.append_assoc, List.singleton_append]
        exact List.perm_middle
      · have unpicked : selected first ≠ true := fun picked =>
          unique.1 ((picks first (List.mem_cons_self ..)).mp picked ▸ List.mem_map_of_mem inRest)
        have added := ih inRest unique.2 later
        simp only [changeWhere, rows, List.map_cons, List.flatMap_cons, if_neg unpicked] at added ⊢
        exact (added.append_left _).trans List.perm_middle

end Keys

def Store.requests (store : Store) : List Uuid := store.rows.filterMap Message.requestId

def belongs (workspaceId conversationId : Uuid) (conversation : Conversation) : Bool :=
  decide (conversation.id = conversationId ∧ conversation.workspaceId = workspaceId)

def Store.getConversation (store : Store) (workspaceId conversationId : Uuid) : Option Conversation :=
  store.conversations.find? (belongs workspaceId conversationId)

def Store.getMessage (store : Store) (workspaceId messageId : Uuid) : Option Message :=
  (Chat.rows (store.conversations.filter fun conversation => decide (conversation.workspaceId = workspaceId))).find?
    fun message => decide (message.id = messageId)

def Store.getAssistantByRequestId (store : Store) (workspaceId conversationId requestId : Uuid) : Option Message :=
  (store.getConversation workspaceId conversationId).bind fun conversation =>
    conversation.messages.find? fun message => decide (message.role = .assistant ∧ message.requestId = some requestId)

-- An update that leaves the keys alone.
def Store.changed (store : Store) (selected : Conversation → Bool) (change : Conversation → Conversation)
    (sameId : ∀ conversation, (change conversation).id = conversation.id)
    (sameMessages : ∀ conversation, (change conversation).messages.map Message.id = conversation.messages.map Message.id)
    (sameRequests : ∀ conversation,
      (change conversation).messages.map Message.requestId = conversation.messages.map Message.requestId) : Store where
  conversations := changeWhere selected change store.conversations
  conversationIds := by
    rw [change_where_keeps selected change _ Conversation.id sameId]
    exact store.conversationIds
  messageIds := by
    rw [rows_map_keeps selected change _ Message.id sameMessages]
    exact store.messageIds
  requestIds := by
    rw [filter_map_requests, rows_map_keeps selected change _ Message.requestId sameRequests, ← filter_map_requests]
    exact store.requestIds

def opened (workspaceId id : Uuid) (now : Nat) : Conversation := { id, workspaceId, title := untitled, updatedAt := now }

theorem rows_opened (conversations : List Conversation) (workspaceId id : Uuid) (now : Nat) :
    rows (conversations ++ [opened workspaceId id now]) = rows conversations := by
  simp [rows, opened]

def Store.createConversation (store : Store) (workspaceId id : Uuid) (now : Nat) :
    Except StoreError (Store × Conversation) :=
  if fresh : id ∉ store.conversations.map Conversation.id then
    .ok ({
      conversations := store.conversations ++ [opened workspaceId id now]
      conversationIds := by
        rw [List.map_append]
        refine List.nodup_append.mpr ⟨store.conversationIds, List.nodup_singleton _, ?_⟩
        rintro old member new last rfl
        obtain rfl : old = id := List.mem_singleton.mp last
        exact fresh member
      messageIds := by
        rw [rows_opened]
        exact store.messageIds
      requestIds := by
        rw [rows_opened]
        exact store.requestIds }, opened workspaceId id now)
  else .error .integrity

theorem belongs_iff (store : Store) (workspaceId conversationId : Uuid) (conversation : Conversation)
    (found : store.getConversation workspaceId conversationId = some conversation) :
    conversation ∈ store.conversations ∧ conversation.id = conversationId ∧ conversation.workspaceId = workspaceId ∧
      ∀ other ∈ store.conversations, belongs workspaceId conversationId other = true ↔ other.id = conversation.id := by
  have member := List.mem_of_find?_eq_some found
  have picked : belongs workspaceId conversationId conversation = true :=
    List.find?_some (p := belongs workspaceId conversationId) found
  obtain ⟨rfl, rfl⟩ := of_decide_eq_true picked
  refine ⟨member, rfl, rfl, fun other inStore => ?_⟩
  rw [belongs, decide_eq_true_iff]
  refine ⟨And.left, fun same => ⟨same, ?_⟩⟩
  rw [List.inj_on_of_nodup_map store.conversationIds inStore member same]

-- One transaction: a violated key undoes all of it.
def Store.appendMessage (store : Store) (workspaceId conversationId : Uuid) (new : NewMessage) (id : Uuid) (now : Nat) :
    Except StoreError (Store × Message) :=
  match found : store.getConversation workspaceId conversationId with
  | none => .error (.conversationNotFound conversationId)
  | some conversation =>
      if fresh : id ∉ store.rows.map Message.id ∧ ∀ requestId ∈ new.requestId, requestId ∉ store.requests then
        .ok ({
          conversations := changeWhere (belongs workspaceId conversationId) (fun other => other.add new id now)
            store.conversations
          conversationIds := by
            rw [change_where_keeps _ (fun other => other.add new id now) _ Conversation.id fun _ => rfl]
            exact store.conversationIds
          messageIds := by
            obtain ⟨present, _, _, picks⟩ := belongs_iff store workspaceId conversationId conversation found
            have added := rows_add _ store.conversations new id now conversation present store.conversationIds picks
            rw [(added.map Message.id).nodup_iff, List.map_cons, List.nodup_cons]
            exact ⟨fresh.1, store.messageIds⟩
          requestIds := by
            obtain ⟨present, _, _, picks⟩ := belongs_iff store workspaceId conversationId conversation found
            have added := rows_add _ store.conversations new id now conversation present store.conversationIds picks
            rw [(added.filterMap Message.requestId).nodup_iff, List.filterMap_cons]
            cases given : new.requestId with
            | none =>
                simp only [NewMessage.message, given]
                exact store.requestIds
            | some requestId =>
                simp only [NewMessage.message, given]
                exact List.nodup_cons.mpr ⟨fresh.2 requestId given, store.requestIds⟩ },
          new.message id conversation.nextSequence)
      else .error .integrity

def holds (workspaceId messageId : Uuid) (conversation : Conversation) : Bool :=
  decide (conversation.workspaceId = workspaceId ∧ messageId ∈ conversation.messages.map Message.id)

def Store.completeAssistantMessage (store : Store) (workspaceId messageId : Uuid) (completion : Completion) (now : Nat) :
    Except StoreError (Store × Message) :=
  match store.getMessage workspaceId messageId with
  | none => .error (.messageNotFound messageId)
  | some message =>
      .ok (store.changed (holds workspaceId messageId) (Conversation.complete messageId completion now) (fun _ => rfl)
        (fun _ => complete_in_keeps _ _ _ _ fun _ => rfl) (fun _ => complete_in_keeps _ _ _ _ fun _ => rfl),
        message.complete completion)

theorem complete_ok (store after : Store) (workspaceId messageId : Uuid) (completion : Completion) (now : Nat)
    (message : Message) (completed : store.completeAssistantMessage workspaceId messageId completion now = .ok (after, message)) :
    after.conversations = changeWhere (holds workspaceId messageId) (Conversation.complete messageId completion now)
        store.conversations ∧
      ∃ old, store.getMessage workspaceId messageId = some old ∧ message = old.complete completion := by
  unfold Store.completeAssistantMessage at completed
  cases found : store.getMessage workspaceId messageId with
  | none =>
      rw [found] at completed
      cases completed
  | some old =>
      rw [found] at completed
      cases completed
      exact ⟨rfl, old, rfl, rfl⟩

def Store.archiveConversation (store : Store) (workspaceId conversationId : Uuid) (archived : Bool) (now : Nat) :
    Store × Bool :=
  match store.getConversation workspaceId conversationId with
  | none => (store, false)
  | some _ =>
      (store.changed (belongs workspaceId conversationId) (Conversation.archive archived now) (fun _ => rfl)
        (fun _ => rfl) (fun _ => rfl), true)

theorem rows_filter (keep : Conversation → Bool) (conversations : List Conversation) :
    (rows (conversations.filter keep)).Sublist (rows conversations) := by
  induction conversations with
  | nil => exact List.Sublist.refl _
  | cons first rest ih =>
      rw [List.filter_cons]
      split
      · exact ih.append_left first.messages
      · exact ih.trans (List.sublist_append_right _ _)

def Store.deleteConversation (store : Store) (workspaceId conversationId : Uuid) : Store × Bool :=
  match store.getConversation workspaceId conversationId with
  | none => (store, false)
  | some _ => ({
      conversations := store.conversations.filter fun conversation => !belongs workspaceId conversationId conversation
      conversationIds := (List.filter_sublist.map Conversation.id).nodup store.conversationIds
      messageIds := ((rows_filter _ store.conversations).map Message.id).nodup store.messageIds
      requestIds := ((rows_filter _ store.conversations).filterMap Message.requestId).nodup store.requestIds }, true)

-- The calls of the request handlers. What list_conversations and get_history
-- return is read by nobody here.
inductive StoreCall where
  | createConversation
  | listConversations
  | getConversation (conversationId : Uuid)
  | appendMessage (conversationId : Uuid) (new : NewMessage)
  | completeAssistantMessage (messageId : Uuid) (completion : Completion)
  | getHistory (conversationId : Uuid)
  | getAssistantByRequestId (conversationId requestId : Uuid)
  | getMessage (messageId : Uuid)
  | archiveConversation (conversationId : Uuid) (archived : Bool)
  | deleteConversation (conversationId : Uuid)

inductive StoreReply where
  | read
  | conversation (conversation : Option Conversation)
  | message (message : Option Message)
  | changed (done : Bool)
  | failed (error : StoreError)

def Store.perform (store : Store) (workspaceId id : Uuid) (now : Nat) : StoreCall → Store × StoreReply
  | .createConversation =>
      match store.createConversation workspaceId id now with
      | .error error => (store, .failed error)
      | .ok (store, conversation) => (store, .conversation (some conversation))
  | .listConversations => (store, .read)
  | .getConversation conversationId => (store, .conversation (store.getConversation workspaceId conversationId))
  | .appendMessage conversationId new =>
      match store.appendMessage workspaceId conversationId new id now with
      | .error error => (store, .failed error)
      | .ok (store, message) => (store, .message (some message))
  | .completeAssistantMessage messageId completion =>
      match store.completeAssistantMessage workspaceId messageId completion now with
      | .error error => (store, .failed error)
      | .ok (store, message) => (store, .message (some message))
  | .getHistory _ => (store, .read)
  | .getAssistantByRequestId conversationId requestId =>
      (store, .message (store.getAssistantByRequestId workspaceId conversationId requestId))
  | .getMessage messageId => (store, .message (store.getMessage workspaceId messageId))
  | .archiveConversation conversationId archived =>
      let archived := store.archiveConversation workspaceId conversationId archived now
      (archived.1, .changed archived.2)
  | .deleteConversation conversationId =>
      let deleted := store.deleteConversation workspaceId conversationId
      (deleted.1, .changed deleted.2)

end DataPilot.Chat
