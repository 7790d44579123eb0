import DataPilot.Chat.Ownership

set_option autoImplicit false

namespace DataPilot.Chat

open DataPilot.Base DataPilot.Agent

def Store.messagesOf (store : Store) (conversationId : Uuid) : List Message :=
  Chat.rows (store.conversations.filter fun conversation => decide (conversation.id = conversationId))

def Store.users (store : Store) (conversationId : Uuid) : Nat :=
  ((store.messagesOf conversationId).map Message.role).count .user

-- What the lookup by request id looks at.
def Message.answer (message : Message) : MessageRole × Option Uuid := (message.role, message.requestId)

def Store.answers (store : Store) (conversationId requestId : Uuid) : Nat :=
  ((store.messagesOf conversationId).map Message.answer).count (.assistant, some requestId)

def Store.isPresent (store : Store) (workspaceId conversationId : Uuid) : Prop :=
  ∃ conversation, store.getConversation workspaceId conversationId = some conversation

-- Requests that carry one conversation and one request id, and what they cause.
def Submits (conversationId requestId : Uuid) : Label → Prop
  | .arrive _ request => ∃ content, request = .streamMessage conversationId content (some requestId)
  | _ => True

def missed (system : System) : Label → Bool
  | .perform index _ =>
      match system.handlers[index]? with
      | some ⟨workspaceId, .waits (.findAssistant submission)⟩ =>
          (system.store.getAssistantByRequestId workspaceId submission.conversationId submission.requestId).isNone
      | _ => false
  | _ => false

def SubmittedOnce (start final : System) (conversationId requestId : Uuid) : Prop :=
  final.store.users conversationId = start.store.users conversationId + 1 ∧
    final.store.answers conversationId requestId = 1 ∧ final.started.length = start.started.length + 1

section Stores

variable (conversationId requestId : Uuid)

theorem filter_change_where (keep selected : Conversation → Bool) (change : Conversation → Conversation)
    (conversations : List Conversation) (kept : ∀ conversation, keep (change conversation) = keep conversation) :
    (changeWhere selected change conversations).filter keep = changeWhere selected change (conversations.filter keep) := by
  rw [changeWhere, changeWhere, List.filter_map]
  refine congrArg _ (List.filter_congr fun conversation _ => ?_)
  dsimp only [Function.comp_apply]
  split
  · exact kept conversation
  · rfl

-- A completion changes neither roles nor request ids nor the conversations there are.
structure Alike (store after : Store) : Prop where
  users : after.users conversationId = store.users conversationId
  answers : after.answers conversationId requestId = store.answers conversationId requestId
  requests : after.requests = store.requests
  present : ∀ workspaceId, store.isPresent workspaceId conversationId → after.isPresent workspaceId conversationId

theorem change_where_present (selected : Conversation → Bool) (change : Conversation → Conversation)
    (conversations : List Conversation) (workspaceId : Uuid)
    (sameId : ∀ conversation, (change conversation).id = conversation.id)
    (sameWorkspace : ∀ conversation, (change conversation).workspaceId = conversation.workspaceId)
    (conversation : Conversation) (found : conversations.find? (belongs workspaceId conversationId) = some conversation) :
    ∃ after, (changeWhere selected change conversations).find? (belongs workspaceId conversationId) = some after := by
  have member := List.mem_of_find?_eq_some found
  have picked := List.find?_some found
  rw [← Option.isSome_iff_exists, List.find?_isSome]
  refine ⟨_, List.mem_map_of_mem member, ?_⟩
  split
  · simpa only [belongs, sameId, sameWorkspace] using picked
  · exact picked

theorem complete_alike (store after : Store) (workspaceId messageId : Uuid) (completion : Completion) (now : Nat)
    (message : Message)
    (completed : store.completeAssistantMessage workspaceId messageId completion now = .ok (after, message)) :
    Alike conversationId requestId store after := by
  have conversations := (complete_ok store after workspaceId messageId completion now message completed).1
  have kept : ∀ {α : Type} (field : Message → α), (∀ message, field (message.complete completion) = field message) →
      (after.messagesOf conversationId).map field = (store.messagesOf conversationId).map field := by
    intro α field same
    rw [Store.messagesOf, conversations, filter_change_where _ _ (Conversation.complete messageId completion now) _
      fun _ => rfl]
    exact rows_map_keeps _ _ _ field fun conversation => complete_in_keeps _ _ _ _ same
  refine ⟨?_, ?_, ?_, fun workspaceId' ⟨conversation, found⟩ => ?_⟩
  · rw [Store.users, kept Message.role fun _ => rfl]
    rfl
  · rw [Store.answers, kept Message.answer fun _ => rfl]
    rfl
  · rw [Store.requests, Store.requests, Store.rows, Store.rows, conversations, filter_map_requests, filter_map_requests]
    exact congrArg _ (rows_map_keeps _ _ _ Message.requestId fun conversation => complete_in_keeps _ _ _ _ fun _ => rfl)
  · rw [Store.isPresent, Store.getConversation, conversations]
    exact change_where_present conversationId _ (Conversation.complete messageId completion now) _ workspaceId'
      (fun _ => rfl) (fun _ => rfl) conversation found

theorem append_messages (store after : Store) (workspaceId id : Uuid) (new : NewMessage) (now : Nat) (message : Message)
    (appended : store.appendMessage workspaceId conversationId new id now = .ok (after, message)) :
    (after.messagesOf conversationId).Perm (message :: store.messagesOf conversationId) ∧
      after.rows.Perm (message :: store.rows) ∧ message.role = new.role ∧ message.requestId = new.requestId ∧
      ∀ other, store.isPresent other conversationId → after.isPresent other conversationId := by
  obtain ⟨conversation, found, conversations, rfl, added, _⟩ := append_message_ok _ _ _ _ _ _ _ _ appended
  obtain ⟨present, sameId, _, picks⟩ := belongs_iff store workspaceId conversationId conversation found
  refine ⟨?_, added, rfl, rfl, fun other ⟨before, here⟩ => ?_⟩
  · rw [Store.messagesOf, conversations, filter_change_where _ _ (fun other => other.add new id now) _ fun _ => rfl]
    refine rows_add _ _ new id now conversation ?_ ?_ ?_
    · exact List.mem_filter.mpr ⟨present, decide_eq_true sameId⟩
    · exact (List.filter_sublist.map _).nodup store.conversationIds
    · exact fun other member => picks other (List.mem_filter.mp member).1
  · rw [Store.isPresent, Store.getConversation, conversations]
    exact change_where_present conversationId _ (fun other => other.add new id now) _ other (fun _ => rfl) (fun _ => rfl)
      before here

theorem append_succeeds (store : Store) (workspaceId id : Uuid) (new : NewMessage) (now : Nat)
    (present : store.isPresent workspaceId conversationId) (fresh : ∀ row ∈ store.rows, row.id < id)
    (unused : ∀ requestId ∈ new.requestId, requestId ∉ store.requests) :
    ∃ after message, store.appendMessage workspaceId conversationId new id now = .ok (after, message) := by
  obtain ⟨conversation, found⟩ := present
  have unknown : id ∉ store.rows.map Message.id := by
    intro member
    obtain ⟨row, inside, same⟩ := List.mem_map.mp member
    exact Nat.lt_irrefl _ (same ▸ fresh row inside)
  unfold Store.appendMessage
  split
  · rename_i missing
    rw [found] at missing
    cases missing
  · rw [dif_pos ⟨unknown, unused⟩]
    exact ⟨_, _, rfl⟩

theorem answers_at_most_one (store : Store) : store.answers conversationId requestId ≤ 1 := by
  have inside : (store.messagesOf conversationId).Sublist store.rows := rows_filter _ _
  have unique : store.requests.count requestId ≤ 1 := List.nodup_iff_count_le_one.mp store.requestIds requestId
  rw [Store.requests, List.count_filterMap] at unique
  rw [Store.answers, List.count, List.countP_map]
  refine Nat.le_trans (List.countP_mono_left ?_) (Nat.le_trans inside.countP_le unique)
  intro message _ here
  simp only [Function.comp_apply, Message.answer, beq_iff_eq, Prod.mk.injEq] at here
  simp [here.2]

end Stores

def Handler.pending : Handler → Bool
  | ⟨_, .wakes (.findAssistant _) (.message none)⟩ => true
  | ⟨_, .waits (.readHistory _)⟩ => true
  | ⟨_, .wakes (.readHistory _) _⟩ => true
  | ⟨_, .waits (.appendUser _)⟩ => true
  | _ => false

def Handler.preparing : Handler → Bool
  | ⟨_, .wakes (.appendUser _) _⟩ => true
  | ⟨_, .waits (.appendAssistant _)⟩ => true
  | handler => handler.pending

def Handler.isAnswered : Handler → Bool
  | ⟨_, .responded _⟩ => true
  | _ => false

def Handler.starting (handler : Handler) : Bool := handler.starts.isSome

theorem count_set (test : Handler → Bool) (items : List Handler) (index : Nat) (old new : Handler)
    (found : items[index]? = some old) :
    (items.set index new).countP test + (test old).toNat = items.countP test + (test new).toNat := by
  induction items generalizing index with
  | nil => cases found
  | cons first rest ih =>
      cases index with
      | zero =>
          obtain rfl : first = old := Option.some.inj found
          rw [List.set_cons_zero, List.countP_cons, List.countP_cons]
          cases test first <;> cases test new <;> simp
      | succ index =>
          have later := ih index found
          rw [List.set_cons_succ, List.countP_cons, List.countP_cons]
          omega

theorem count_snoc (items : List Handler) (new : Handler) (test : Handler → Bool) (idle : test new = false) :
    (items ++ [new]).countP test = items.countP test := by
  rw [List.countP_append, List.countP_singleton, idle]
  rfl

theorem count_answered (items : List Handler) (test : Handler → Bool) (answered : items.all Handler.isAnswered = true)
    (idle : ∀ workspaceId response, test ⟨workspaceId, .responded response⟩ = false) : items.countP test = 0 := by
  rw [List.countP_eq_zero]
  rintro ⟨workspaceId, state⟩ member
  have done := List.all_eq_true.mp answered _ member
  cases state with
  | responded response => simp [idle workspaceId response]
  | _ => cases done

section Tally

variable (conversationId requestId : Uuid)

def Submission.fits (submission : Submission) : Prop :=
  submission.conversationId = conversationId ∧ submission.requestId = requestId

-- Where the handler of such a request can be, and what it knows there.
def Submitting (store : Store) : Handler → Prop
  | ⟨_, .responded _⟩ => True
  | ⟨_, .waits (.findConversation conversation _ clientRequestId)⟩ =>
      conversation = conversationId ∧ clientRequestId = some requestId
  | ⟨workspaceId, .wakes (.findConversation conversation _ clientRequestId) reply⟩ =>
      conversation = conversationId ∧ clientRequestId = some requestId ∧
        ∀ found, reply = .conversation (some found) → store.isPresent workspaceId conversationId
  | ⟨workspaceId, .waits (.findAssistant submission)⟩ =>
      submission.fits conversationId requestId ∧ store.isPresent workspaceId conversationId
  | ⟨workspaceId, .wakes (.findAssistant submission) reply⟩ =>
      submission.fits conversationId requestId ∧ store.isPresent workspaceId conversationId ∧
        ∃ message, reply = .message message
  | ⟨workspaceId, .waits (.readHistory submission)⟩ =>
      submission.fits conversationId requestId ∧ store.isPresent workspaceId conversationId
  | ⟨workspaceId, .wakes (.readHistory submission) reply⟩ =>
      submission.fits conversationId requestId ∧ store.isPresent workspaceId conversationId ∧ reply = .read
  | ⟨workspaceId, .waits (.appendUser submission)⟩ =>
      submission.fits conversationId requestId ∧ store.isPresent workspaceId conversationId
  | ⟨workspaceId, .wakes (.appendUser submission) reply⟩ =>
      submission.fits conversationId requestId ∧ store.isPresent workspaceId conversationId ∧
        ∃ message, reply = .message (some message)
  | ⟨workspaceId, .waits (.appendAssistant submission)⟩ =>
      submission.fits conversationId requestId ∧ store.isPresent workspaceId conversationId
  | ⟨_, .wakes (.appendAssistant submission) _⟩ => submission.fits conversationId requestId
  | ⟨_, .waits (.recover _)⟩ => True
  | ⟨_, .wakes (.recover _) _⟩ => True
  | _ => False

theorem submitting_mono (store after : Store) (handler : Handler)
    (present : ∀ workspaceId, store.isPresent workspaceId conversationId → after.isPresent workspaceId conversationId)
    (fine : Submitting conversationId requestId store handler) : Submitting conversationId requestId after handler := by
  unfold Submitting at fine ⊢
  split at fine
  all_goals first
    | exact fine.elim
    | exact fine
    | exact ⟨fine.1, present _ fine.2⟩
    | exact ⟨fine.1, present _ fine.2.1, fine.2.2⟩
    | exact ⟨fine.1, fine.2.1, fun found same => present _ (fine.2.2 found same)⟩

-- What one handler's move does to the counts; miss tells whether it is a missed lookup.
structure Exchange (system next : System) (old new : Handler) (miss : Bool) : Prop where
  present : ∀ workspaceId, system.store.isPresent workspaceId conversationId →
    next.store.isPresent workspaceId conversationId
  fine : Submitting conversationId requestId next.store new
  starts : next.started.length + new.starting.toNat + system.store.answers conversationId requestId =
    system.started.length + old.starting.toNat + next.store.answers conversationId requestId
  users : next.store.users conversationId + new.pending.toNat =
    system.store.users conversationId + old.pending.toNat + miss.toNat
  grows : system.store.answers conversationId requestId ≤ next.store.answers conversationId requestId
  free : requestId ∉ system.store.requests → next.store.answers conversationId requestId = 0 →
    requestId ∉ next.store.requests ∧ new.preparing.toNat = old.preparing.toNat + miss.toNat
  taken : requestId ∈ system.store.requests → system.store.answers conversationId requestId = 0 →
    requestId ∈ next.store.requests ∧ next.store.answers conversationId requestId = 0

theorem exchange_still (system next : System) (old new : Handler) (miss : Bool) (store : next.store = system.store)
    (started : next.started = system.started) (fine : Submitting conversationId requestId system.store new)
    (starts : new.starting = old.starting) (pending : new.pending.toNat = old.pending.toNat + miss.toNat)
    (preparing : new.preparing.toNat = old.preparing.toNat + miss.toNat) :
    Exchange conversationId requestId system next old new miss := by
  refine ⟨?_, store ▸ fine, ?_, ?_, ?_, ?_, ?_⟩
  · rw [store]
    exact fun _ present => present
  · rw [store, started, starts]
  · rw [store]
    omega
  · rw [store]
  · rw [store]
    exact fun unused _ => ⟨unused, preparing⟩
  · rw [store]
    exact fun used none => ⟨used, none⟩

theorem exchange_user (system next : System) (submission : Submission) (workspaceId : Uuid) (message : Message)
    (now : Nat) (fits : submission.fits conversationId requestId)
    (present : system.store.isPresent workspaceId conversationId) (started : next.started = system.started)
    (appended : system.store.appendMessage workspaceId submission.conversationId submission.userMessage system.nextId now =
      .ok (next.store, message)) :
    Exchange conversationId requestId system next ⟨workspaceId, .waits (.appendUser submission)⟩
      ⟨workspaceId, .wakes (.appendUser submission) (.message (some message))⟩ false := by
  obtain ⟨rfl, rfl⟩ := fits
  obtain ⟨inConversation, inStore, role, request, stays⟩ :=
    append_messages submission.conversationId system.store next.store workspaceId system.nextId _ now message appended
  have role : message.role = .user := role
  have request : message.requestId = none := request
  have answers : next.store.answers submission.conversationId submission.requestId =
      system.store.answers submission.conversationId submission.requestId := by
    rw [Store.answers, (inConversation.map Message.answer).count_eq, List.map_cons, List.count_cons_of_ne]
    · rfl
    · simp [Message.answer, role]
  have users : next.store.users submission.conversationId = system.store.users submission.conversationId + 1 := by
    rw [Store.users, (inConversation.map Message.role).count_eq, List.map_cons, role, List.count_cons_self]
    rfl
  have requests : next.store.requests.Perm system.store.requests := by
    refine (inStore.filterMap Message.requestId).trans ?_
    rw [List.filterMap_cons_none request]
    rfl
  refine ⟨stays, ⟨⟨rfl, rfl⟩, stays workspaceId present, message, rfl⟩, ?_, ?_, answers.ge, ?_, ?_⟩
  · rw [started, answers]
    rfl
  · rw [users]
    rfl
  · exact fun unused _ => ⟨fun used => unused (requests.subset used), rfl⟩
  · exact fun used none => ⟨requests.symm.subset used, answers.trans none⟩

theorem exchange_assistant (system next : System) (submission : Submission) (workspaceId : Uuid) (message : Message)
    (now : Nat) (fits : submission.fits conversationId requestId) (started : next.started = system.started)
    (appended : system.store.appendMessage workspaceId submission.conversationId submission.assistantMessage system.nextId
      now = .ok (next.store, message)) :
    Exchange conversationId requestId system next ⟨workspaceId, .waits (.appendAssistant submission)⟩
      ⟨workspaceId, .wakes (.appendAssistant submission) (.message (some message))⟩ false := by
  obtain ⟨rfl, rfl⟩ := fits
  obtain ⟨inConversation, inStore, role, request, stays⟩ :=
    append_messages submission.conversationId system.store next.store workspaceId system.nextId _ now message appended
  obtain ⟨_, _, _, _, _, unused⟩ := append_message_ok _ _ _ _ _ _ _ _ appended
  have role : message.role = .assistant := role
  have request : message.requestId = some submission.requestId := request
  have answers : next.store.answers submission.conversationId submission.requestId =
      system.store.answers submission.conversationId submission.requestId + 1 := by
    rw [Store.answers, (inConversation.map Message.answer).count_eq, List.map_cons, Message.answer, role, request,
      List.count_cons_self]
    rfl
  have users : next.store.users submission.conversationId = system.store.users submission.conversationId := by
    rw [Store.users, (inConversation.map Message.role).count_eq, List.map_cons, role, List.count_cons_of_ne]
    · rfl
    · exact nofun
  refine ⟨stays, ⟨rfl, rfl⟩, ?_, ?_, ?_, ?_, ?_⟩
  · rw [started, answers]
    simp only [Handler.starting, Handler.starts, Option.isSome, Bool.toNat_true, Bool.toNat_false]
    omega
  · rw [users]
    rfl
  · rw [answers]
    exact Nat.le_succ _
  · intro _ none
    rw [answers] at none
    cases none
  · exact fun used => absurd used (unused submission.requestId rfl)

theorem perform_exchange (system next : System) (index now : Nat) (workspaceId : Uuid) (frame : Frame)
    (reply : StoreReply) (owned : Owned system) (here : system.handlers[index]? = some ⟨workspaceId, .waits frame⟩)
    (fine : Submitting conversationId requestId system.store ⟨workspaceId, .waits frame⟩)
    (performed : system.store.perform workspaceId system.nextId now frame.call = (next.store, reply))
    (started : next.started = system.started) :
    Exchange conversationId requestId system next ⟨workspaceId, .waits frame⟩ ⟨workspaceId, .wakes frame reply⟩
      (missed system (.perform index now)) := by
  cases frame with
  | findConversation conversation content clientRequestId =>
      obtain ⟨store, rfl⟩ := Prod.mk.inj performed
      rw [show missed system (.perform index now) = false by simp [missed, here]]
      refine exchange_still _ _ _ _ _ _ _ store.symm started ⟨fine.1, fine.2, fun found same => ⟨found, ?_⟩⟩ rfl rfl rfl
      rw [← fine.1]
      exact StoreReply.conversation.inj same
  | findAssistant submission =>
      obtain ⟨store, rfl⟩ := Prod.mk.inj performed
      rw [show missed system (.perform index now) = (system.store.getAssistantByRequestId workspaceId
        submission.conversationId submission.requestId).isNone by simp [missed, here]]
      refine exchange_still _ _ _ _ _ _ _ store.symm started ⟨fine.1, fine.2, _, rfl⟩ rfl ?_ ?_
      · cases system.store.getAssistantByRequestId workspaceId submission.conversationId submission.requestId <;> rfl
      · cases system.store.getAssistantByRequestId workspaceId submission.conversationId submission.requestId <;> rfl
  | readHistory submission =>
      obtain ⟨store, rfl⟩ := Prod.mk.inj performed
      rw [show missed system (.perform index now) = false by simp [missed, here]]
      exact exchange_still _ _ _ _ _ _ _ store.symm started ⟨fine.1, fine.2, rfl⟩ rfl rfl rfl
  | appendUser submission =>
      rw [show missed system (.perform index now) = false by simp [missed, here]]
      obtain ⟨after, message, appended⟩ := append_succeeds submission.conversationId system.store workspaceId
        system.nextId submission.userMessage now (fine.1.1 ▸ fine.2) owned.rows nofun
      simp only [Frame.call, Store.perform, appended, Prod.mk.injEq] at performed
      obtain ⟨rfl, rfl⟩ := performed
      exact exchange_user conversationId requestId system next submission workspaceId message now fine.1 fine.2
        started appended
  | appendAssistant submission =>
      rw [show missed system (.perform index now) = false by simp [missed, here]]
      rw [Frame.call, Store.perform] at performed
      split at performed
      · rename_i error failed
        obtain ⟨store, rfl⟩ := Prod.mk.inj performed
        -- The transaction is undone: the request id is taken.
        have used : requestId ∈ system.store.requests := by
          by_contra unused
          obtain ⟨after, message, appended⟩ := append_succeeds submission.conversationId system.store workspaceId
            system.nextId submission.assistantMessage now (fine.1.1 ▸ fine.2) owned.rows fun other same => by
              obtain rfl : submission.requestId = other := Option.some.inj same
              exact fine.1.2 ▸ unused
          rw [failed] at appended
          cases appended
        refine ⟨?_, fine.1, ?_, ?_, ?_, fun unused => absurd used unused, ?_⟩
        · rw [← store]
          exact fun _ present => present
        · rw [← store, started]
          rfl
        · rw [← store]
          rfl
        · rw [← store]
        · rw [← store]
          exact fun used none => ⟨used, none⟩
      · rename_i after message appended
        obtain ⟨rfl, rfl⟩ := Prod.mk.inj performed
        exact exchange_assistant conversationId requestId system next submission workspaceId message now fine.1 started
          appended
  | recover message =>
      rw [show missed system (.perform index now) = false by simp [missed, here]]
      rw [Frame.call, rewrite, Store.perform] at performed
      split at performed
      · obtain ⟨store, rfl⟩ := Prod.mk.inj performed
        exact exchange_still _ _ _ _ _ _ _ store.symm started trivial rfl rfl rfl
      · rename_i after rewritten completed
        obtain ⟨rfl, rfl⟩ := Prod.mk.inj performed
        have alike := complete_alike conversationId requestId _ _ _ _ _ _ _ completed
        refine ⟨alike.present, trivial, ?_, ?_, alike.answers.ge, ?_, ?_⟩
        · rw [started, alike.answers]
          rfl
        · rw [alike.users]
          rfl
        · rw [alike.requests]
          exact fun unused _ => ⟨unused, rfl⟩
        · rw [alike.requests, alike.answers]
          exact fun used none => ⟨used, none⟩
  | _ => exact fine.elim

theorem proceed_submitting (system after : System) (workspaceId : Uuid) (frame : Frame) (reply : StoreReply)
    (state : HandlerState) (fine : Submitting conversationId requestId system.store ⟨workspaceId, .wakes frame reply⟩)
    (proceeded : system.proceed workspaceId frame reply = some (after, state)) :
    Submitting conversationId requestId system.store ⟨workspaceId, state⟩ ∧
      Handler.pending ⟨workspaceId, state⟩ = Handler.pending ⟨workspaceId, .wakes frame reply⟩ ∧
      Handler.preparing ⟨workspaceId, state⟩ = Handler.preparing ⟨workspaceId, .wakes frame reply⟩ := by
  cases frame with
  | findConversation conversation content clientRequestId =>
      obtain ⟨rfl, rfl, present⟩ := fine
      cases reply with
      | conversation found =>
          cases found with
          | none =>
              cases proceeded
              exact ⟨trivial, rfl, rfl⟩
          | some found =>
              cases proceeded
              exact ⟨⟨⟨rfl, rfl⟩, present found rfl⟩, rfl, rfl⟩
      | failed error =>
          cases proceeded
          exact ⟨trivial, rfl, rfl⟩
      | _ => simp [System.proceed] at proceeded
  | findAssistant submission =>
      obtain ⟨fits, present, message, rfl⟩ := fine
      cases message with
      | none =>
          cases proceeded
          exact ⟨⟨fits, present⟩, rfl, rfl⟩
      | some message =>
          rw [System.proceed] at proceeded
          split at proceeded <;> cases proceeded <;> exact ⟨trivial, rfl, rfl⟩
  | readHistory submission =>
      obtain ⟨fits, present, rfl⟩ := fine
      cases proceeded
      exact ⟨⟨fits, present⟩, rfl, rfl⟩
  | appendUser submission =>
      obtain ⟨fits, present, message, rfl⟩ := fine
      cases proceeded
      exact ⟨⟨fits, present⟩, rfl, rfl⟩
  | appendAssistant submission =>
      cases reply with
      | message found =>
          cases found with
          | none => cases proceeded
          | some message =>
              cases proceeded
              exact ⟨trivial, rfl, rfl⟩
      | failed error =>
          cases proceeded
          exact ⟨trivial, rfl, rfl⟩
      | _ => simp [System.proceed] at proceeded
  | recover message =>
      cases reply with
      | message found =>
          cases found with
          | none => cases proceeded
          | some message =>
              cases proceeded
              exact ⟨trivial, rfl, rfl⟩
      | failed error =>
          cases proceeded
          exact ⟨trivial, rfl, rfl⟩
      | _ => simp [System.proceed] at proceeded
  | _ => exact fine.elim

theorem resume_exchange (system after : System) (index : Nat) (workspaceId : Uuid) (frame : Frame) (reply : StoreReply)
    (state : HandlerState) (owned : Owned system)
    (here : system.handlers[index]? = some ⟨workspaceId, .wakes frame reply⟩)
    (fine : Submitting conversationId requestId system.store ⟨workspaceId, .wakes frame reply⟩)
    (proceeded : system.proceed workspaceId frame reply = some (after, state)) :
    Exchange conversationId requestId system (after.setHandler index workspaceId state)
      ⟨workspaceId, .wakes frame reply⟩ ⟨workspaceId, state⟩ false := by
  obtain ⟨stays, pending, preparing⟩ :=
    proceed_submitting conversationId requestId system after workspaceId frame reply state fine proceeded
  obtain ⟨idle, ways⟩ := proceed_ways system after workspaceId frame reply state proceeded
  rcases ways with ⟨submission, message, rfl, rfl, rfl⟩ | ⟨nextId, waiting, _, rfl⟩
  · have starts : message.id ∈ system.pendingIds :=
      List.mem_append_right _ (List.mem_filterMap.mpr ⟨_, List.mem_of_getElem? here, rfl⟩)
    have fresh : message.id ∉ system.manager.ids := fun running =>
      (List.nodup_append.mp owned.unique).2.2 _ running _ starts rfl
    have started := (start_fresh system workspaceId submission message fresh).2
    refine ⟨fun _ present => present, stays, ?_, ?_, Nat.le_refl _, fun unused _ => ⟨unused, ?_⟩, And.intro⟩
    · have one : Handler.starting ⟨workspaceId, .wakes (.appendAssistant submission) (.message (some message))⟩ = true :=
        rfl
      have unstarted : Handler.starting ⟨workspaceId, state⟩ = false := by rw [Handler.starting, idle, Option.isSome_none]
      rw [one, unstarted, System.setHandler, started, List.length_append, List.length_singleton]
      rfl
    · rw [pending]
      rfl
    · rw [preparing]
      rfl
  · refine exchange_still conversationId requestId _ _ _ _ _ rfl rfl stays ?_ ?_ ?_
    · rw [Handler.starting, Handler.starting, idle, waiting]
    · rw [pending]
      rfl
    · rw [preparing]
      rfl

-- The user messages that are there or bound to come.
def System.submissions (system : System) : Nat :=
  system.store.users conversationId + system.handlers.countP Handler.pending

-- The workers follow the answers; as long as there is no answer the user
-- messages belong to handlers that are about to append theirs.
structure Tally (start system : System) : Prop extends Owned system where
  fine : ∀ handler ∈ system.handlers, Submitting conversationId requestId system.store handler
  starts : system.started.length + system.handlers.countP Handler.starting =
    start.started.length + system.store.answers conversationId requestId
  free : requestId ∉ start.store.requests → system.store.answers conversationId requestId = 0 →
    requestId ∉ system.store.requests ∧
      system.submissions conversationId = start.store.users conversationId + system.handlers.countP Handler.preparing
  taken : requestId ∈ start.store.requests →
    requestId ∈ system.store.requests ∧ system.store.answers conversationId requestId = 0

theorem tally_exchange (start system next : System) (index : Nat) (old new : Handler) (miss : Bool)
    (tally : Tally conversationId requestId start system) (owned : Owned next)
    (here : system.handlers[index]? = some old) (handlers : next.handlers = system.handlers.set index new)
    (exchange : Exchange conversationId requestId system next old new miss) :
    Tally conversationId requestId start next ∧
      next.submissions conversationId = system.submissions conversationId + miss.toNat := by
  have starting := count_set Handler.starting system.handlers index old new here
  have pending := count_set Handler.pending system.handlers index old new here
  have preparing := count_set Handler.preparing system.handlers index old new here
  rw [← handlers] at starting pending preparing
  have submissions : next.submissions conversationId = system.submissions conversationId + miss.toNat := by
    have users := exchange.users
    unfold System.submissions
    omega
  refine ⟨⟨owned, fun handler member => ?_, ?_, fun unused none => ?_, fun used => ?_⟩, submissions⟩
  · rw [handlers] at member
    rcases List.mem_or_eq_of_mem_set member with other | rfl
    · exact submitting_mono conversationId requestId _ _ handler exchange.present (tally.fine handler other)
    · exact exchange.fine
  · have starts := exchange.starts
    have before := tally.starts
    omega
  · have earlier := exchange.grows
    obtain ⟨before, counted⟩ := tally.free unused (by omega)
    obtain ⟨still, moved⟩ := exchange.free before none
    refine ⟨still, ?_⟩
    omega
  · obtain ⟨before, unused⟩ := tally.taken used
    exact exchange.taken before unused

theorem tally_alike (start system next : System) (tally : Tally conversationId requestId start system)
    (owned : Owned next) (handlers : next.handlers = system.handlers) (started : next.started = system.started)
    (alike : Alike conversationId requestId system.store next.store) :
    Tally conversationId requestId start next ∧
      next.submissions conversationId = system.submissions conversationId := by
  have submissions : next.submissions conversationId = system.submissions conversationId := by
    rw [System.submissions, System.submissions, handlers, alike.users]
  refine ⟨⟨owned, ?_, ?_, ?_, ?_⟩, submissions⟩
  · rw [handlers]
    exact fun handler member =>
      submitting_mono conversationId requestId _ _ handler alike.present (tally.fine handler member)
  · rw [handlers, started, alike.answers]
    exact tally.starts
  · rw [submissions, handlers, alike.requests, alike.answers]
    exact tally.free
  · rw [alike.requests, alike.answers]
    exact tally.taken

theorem tally_arrive (start system next : System) (workspaceId : Uuid) (content : String)
    (tally : Tally conversationId requestId start system) (owned : Owned next)
    (taken : system.step (.arrive workspaceId (.streamMessage conversationId content (some requestId))) = some next) :
    Tally conversationId requestId start next ∧
      next.submissions conversationId = system.submissions conversationId := by
  obtain rfl : { system with handlers := system.handlers ++
      [⟨workspaceId, .waits (.findConversation conversationId content (some requestId))⟩] } = next :=
    Option.some.inj taken
  have counts := count_snoc system.handlers
    ⟨workspaceId, .waits (.findConversation conversationId content (some requestId))⟩
  have submissions : System.submissions conversationId { system with handlers := system.handlers ++
      [⟨workspaceId, .waits (.findConversation conversationId content (some requestId))⟩] } =
        system.submissions conversationId := by
    simp only [System.submissions]
    rw [counts Handler.pending rfl]
  refine ⟨⟨owned, fun handler member => ?_, ?_, fun unused none => ?_, tally.taken⟩, submissions⟩
  · rcases List.mem_append.mp member with old | new
    · exact tally.fine handler old
    · obtain rfl := List.mem_singleton.mp new
      exact ⟨rfl, rfl⟩
  · dsimp only
    rw [counts Handler.starting rfl]
    exact tally.starts
  · rw [submissions]
    dsimp only
    rw [counts Handler.preparing rfl]
    exact tally.free unused none

theorem tally_step (start system next : System) (label : Label) (submits : Submits conversationId requestId label)
    (tally : Tally conversationId requestId start system) (taken : system.step label = some next) :
    Tally conversationId requestId start next ∧
      next.submissions conversationId = system.submissions conversationId + (missed system label).toNat := by
  have owned := owned_step system next label tally.toOwned taken
  cases label with
  | arrive workspaceId request =>
      obtain ⟨content, rfl⟩ := submits
      exact tally_arrive conversationId requestId start system next workspaceId content tally owned taken
  | perform index now =>
      obtain ⟨workspaceId, frame, here, rfl⟩ := step_perform system next index now taken
      refine tally_exchange conversationId requestId start system _ index _ _ _ tally owned here rfl ?_
      exact perform_exchange conversationId requestId system _ index now workspaceId frame _ tally.toOwned here
        (tally.fine _ (List.mem_of_getElem? here)) rfl rfl
  | resume index =>
      obtain ⟨workspaceId, frame, reply, after, state, here, proceeded, rfl⟩ := step_resume system next index taken
      have exchange := resume_exchange conversationId requestId system after index workspaceId frame reply state
        tally.toOwned here (tally.fine _ (List.mem_of_getElem? here)) proceeded
      refine tally_exchange conversationId requestId start system _ index _ _ _ tally owned here ?_ exchange
      rcases (proceed_ways system after workspaceId frame reply state proceeded).2 with
        ⟨submission, message, _, _, rfl⟩ | ⟨nextId, _, _, rfl⟩ <;> rfl
  | work messageId input now =>
      obtain ⟨task, state, effects, after, _, _, stepped, affected, rfl⟩ := step_work system next messageId input now taken
      rcases work_ways system after task state input effects now stepped affected with
        ⟨rfl, _⟩ | ⟨store, message, completed, rfl, _⟩ | ⟨rfl, _⟩
      · exact tally_alike conversationId requestId start _ _ tally owned rfl rfl ⟨rfl, rfl, rfl, fun _ present => present⟩
      · exact tally_alike conversationId requestId start _ _ tally owned rfl rfl
          (complete_alike conversationId requestId _ _ _ _ _ _ _ completed)
      · exact tally_alike conversationId requestId start _ _ tally owned rfl rfl ⟨rfl, rfl, rfl, fun _ present => present⟩
  | shielded index now =>
      obtain ⟨call, _, rfl | ⟨store, message, completed, rfl⟩⟩ := step_shielded system next index now taken
      · exact tally_alike conversationId requestId start _ _ tally owned rfl rfl ⟨rfl, rfl, rfl, fun _ present => present⟩
      · exact tally_alike conversationId requestId start _ _ tally owned rfl rfl
          (complete_alike conversationId requestId _ _ _ _ _ _ _ completed)

theorem tally_start (system : System) (owned : Owned system) (quiet : system.handlers.all Handler.isAnswered = true)
    (unanswered : ∀ row ∈ system.store.messagesOf conversationId, row.role = .assistant →
      row.requestId ≠ some requestId) :
    Tally conversationId requestId system system := by
  have answers : system.store.answers conversationId requestId = 0 := by
    rw [Store.answers, List.count_eq_zero]
    intro member
    obtain ⟨row, inside, same⟩ := List.mem_map.mp member
    obtain ⟨role, request⟩ := Prod.mk.inj same
    exact unanswered row inside role request
  have idle := count_answered system.handlers
  refine ⟨owned, fun handler member => ?_, ?_, fun unused _ => ⟨unused, ?_⟩, fun used => ⟨used, answers⟩⟩
  · have done := List.all_eq_true.mp quiet handler member
    obtain ⟨workspaceId, state⟩ := handler
    cases state with
    | responded response => trivial
    | _ => cases done
  · rw [answers, idle Handler.starting quiet fun _ _ => rfl]
  · rw [System.submissions, idle Handler.pending quiet fun _ _ => rfl, idle Handler.preparing quiet fun _ _ => rfl]

end Tally

theorem submitted_once_iff (store : Store) (nextId conversationId requestId : Uuid) (before labels : List Label)
    (system final : System) (fresh : ∀ row ∈ store.rows, row.id < nextId)
    (reached : runFrom System.step (serving store nextId) before = some system)
    (quiet : system.handlers.all Handler.isAnswered = true)
    (unanswered : ∀ row ∈ system.store.messagesOf conversationId, row.role = .assistant →
      row.requestId ≠ some requestId)
    (submits : ∀ label ∈ labels, Submits conversationId requestId label)
    (run : runFrom System.step system labels = some final)
    (answered : final.handlers.all Handler.isAnswered = true) :
    SubmittedOnce system final conversationId requestId ↔
      countSteps System.step missed system labels = 1 ∧ requestId ∉ system.store.requests := by
  have owned := run_invariant Owned
    (fun state label next owned taken => owned_step state next label owned taken)
    _ system before (owned_serving store nextId fresh) reached
  obtain ⟨tally, counted⟩ := run_count (Submits conversationId requestId) missed
    (Tally conversationId requestId system) (System.submissions conversationId)
    (fun state label next allowed tally taken =>
      tally_step conversationId requestId system state next label allowed tally taken)
    system final labels submits (tally_start conversationId requestId system owned quiet unanswered) run
  have starts := tally.starts
  rw [count_answered final.handlers Handler.starting answered fun _ _ => rfl] at starts
  have sent : final.submissions conversationId = final.store.users conversationId := by
    rw [System.submissions, count_answered final.handlers Handler.pending answered fun _ _ => rfl, Nat.add_zero]
  have sentBefore : system.submissions conversationId = system.store.users conversationId := by
    rw [System.submissions, count_answered system.handlers Handler.pending quiet fun _ _ => rfl, Nat.add_zero]
  constructor
  · rintro ⟨users, answers, started⟩
    refine ⟨by omega, fun used => ?_⟩
    rw [(tally.taken used).2] at answers
    cases answers
  · rintro ⟨once, unused⟩
    have one : final.store.answers conversationId requestId = 1 := by
      have most := answers_at_most_one conversationId requestId final.store
      by_contra other
      -- Without an answer no handler has appended its user message.
      have uncounted := (tally.free unused (by omega)).2
      rw [count_answered final.handlers Handler.preparing answered fun _ _ => rfl] at uncounted
      omega
    exact ⟨by omega, one, by omega⟩

section Sample

def sampleTwice : List Label := sampleSubmission ++ .arrive 2 sampleRequest :: handled 1 2

def sampleTogether : List Label :=
  .arrive 2 sampleRequest :: .arrive 2 sampleRequest :: handled 0 2 ++ handled 1 2 ++ handled 0 3 ++ handled 1 3

end Sample

theorem submitted_once_iff_twice :
    ∃ final, runFrom System.step (serving sampleStore 10) sampleTwice = some final ∧
      SubmittedOnce (serving sampleStore 10) final 1 7 := by
  refine ⟨_, rfl, (submitted_once_iff sampleStore 10 1 7 [] sampleTwice _ _ ?_ rfl rfl ?_ ?_ rfl rfl).mpr ⟨rfl, ?_⟩⟩
  · simp [sampleStore, Store.rows, Chat.rows, opened]
  · simp [serving, sampleStore, Store.messagesOf, Chat.rows, opened]
  · simp [sampleTwice, sampleSubmission, sampleRequest, handled, Submits]
  · simp [serving, sampleStore, Store.requests, Store.rows, Chat.rows, opened]

-- Two requests at the same time leave two user messages.
theorem submitted_twice :
    ¬ ∀ (store : Store) (nextId workspaceId conversationId requestId : Uuid) (content : String) (labels : List Label)
      (final : System), (∀ row ∈ store.rows, row.id < nextId) → requestId ∉ store.requests →
      store.isPresent workspaceId conversationId →
      .arrive workspaceId (.streamMessage conversationId content (some requestId)) ∈ labels →
      (∀ label ∈ labels, Submits conversationId requestId label) →
      runFrom System.step (serving store nextId) labels = some final → final.handlers.all Handler.isAnswered = true →
      SubmittedOnce (serving store nextId) final conversationId requestId := by
  intro claim
  obtain ⟨final, run, answered, users⟩ : ∃ final, runFrom System.step (serving sampleStore 10) sampleTogether = some final ∧
      final.handlers.all Handler.isAnswered = true ∧ final.store.users 1 = 2 := ⟨_, rfl, rfl, rfl⟩
  have once := claim sampleStore 10 2 1 7 "How many rows?" sampleTogether final
    (by simp [sampleStore, Store.rows, Chat.rows, opened])
    (by simp [sampleStore, Store.requests, Store.rows, Chat.rows, opened]) ⟨opened 2 1 0, rfl⟩
    (by simp [sampleTogether, sampleRequest]) (by simp [sampleTogether, sampleRequest, handled, Submits]) run answered
  have one : final.store.users 1 = 1 := once.1
  rw [users] at one
  cases one

end DataPilot.Chat
