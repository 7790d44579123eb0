import DataPilot.Base.Parties
import DataPilot.Chat.Ownership
import DataPilot.Llm.Cost
import Mathlib.Data.List.Pairwise

set_option autoImplicit false

namespace DataPilot.Observability

open DataPilot.Base DataPilot.Chat DataPilot.Llm

-- The workspace a usage record is booked to, and what it names of the chat.
structure Booking where
  workspaceId : Uuid
  conversationId : Option Uuid := none
  messageId : Option Uuid := none

-- A row of usage_records.
structure LLMUsageRecord extends Booking where
  id : Uuid
  requestId : String
  usage : UsageRecord
  latencyMs : FloatText
  createdAt : Nat

-- The tables of the chat and of the usage, with the next new identifier.
structure Tables where
  store : Store
  usage : List LLMUsageRecord := []
  nextId : Uuid

-- A call of DatabaseUsageRecorder.record, with what get_workspace_id returns in its task.
structure RecordCall where
  requestId : String
  usage : UsageRecord
  latencyMs : FloatText
  workspaceId : Option Uuid

inductive RecordPoint where
  | selecting
  | committing (booking : Booking)
  | recorded
  | skipped
  | failed

structure RecordState where
  call : RecordCall
  point : RecordPoint := .selecting

-- The pending statement is answered, or raises an exception that record swallows.
inductive RecordEvent where
  | proceed (pick now : Nat)
  | fail

-- The messages of a trace, joined with their conversations.
def traced (store : Store) (traceId : Uuid) : List (Message × Conversation) :=
  store.conversations.flatMap fun conversation =>
    (conversation.messages.filter fun message => message.traceId = some traceId).map fun message => (message, conversation)

-- Any of the rows may be the first.
def firstRow (store : Store) (pick : Nat) (traceId : Uuid) : Option (Message × Conversation) :=
  (traced store traceId)[pick % (traced store traceId).length]?

def RecordCall.booking (call : RecordCall) (store : Store) (pick : Nat) : Option Booking :=
  match call.usage.traceId.bind (firstRow store pick) with
  | some (message, conversation) => some ⟨conversation.workspaceId, some conversation.id, some message.id⟩
  | none => call.workspaceId.map fun workspaceId => { workspaceId }

def References (store : Store) (booking : Booking) : Prop :=
  (∀ id ∈ booking.conversationId, id ∈ store.conversations.map Conversation.id) ∧
    ∀ id ∈ booking.messageId, id ∈ store.rows.map Message.id

instance (store : Store) (booking : Booking) : Decidable (References store booking) := inferInstanceAs (Decidable (_ ∧ _))

def RecordCall.row (call : RecordCall) (booking : Booking) (id : Uuid) (now : Nat) : LLMUsageRecord :=
  { booking with id, requestId := call.requestId, usage := call.usage, latencyMs := call.latencyMs, createdAt := now }

def RecordState.at (state : RecordState) (point : RecordPoint) : RecordState := { state with point := point }

def RecordState.proceed (tables : Tables) (state : RecordState) (pick now : Nat) : Option (Tables × RecordState) :=
  match state.point with
  | .selecting =>
      match state.call.booking tables.store pick with
      | none => some (tables, state.at .skipped)
      | some booking => some (tables, state.at (.committing booking))
  | .committing booking =>
      if state.call.requestId ∉ tables.usage.map LLMUsageRecord.requestId ∧ References tables.store booking then
        some ({ tables with
          usage := tables.usage ++ [state.call.row booking tables.nextId now]
          nextId := tables.nextId + 1 }, state.at .recorded)
      else some (tables, state.at .failed)
  | _ => none

def RecordPoint.isFinished : RecordPoint → Bool
  | .selecting => false
  | .committing _ => false
  | _ => true

def RecordState.act (tables : Tables) (_ : List RecordState) (state : RecordState) : RecordEvent → Option (Tables × RecordState)
  | .proceed pick now => state.proceed tables pick now
  | .fail => if state.point.isFinished then none else some (tables, state.at .failed)

-- ON DELETE SET NULL
def linked (store : Store) (row : LLMUsageRecord) : LLMUsageRecord :=
  { row with
    conversationId := row.conversationId.filter fun id => id ∈ store.conversations.map Conversation.id
    messageId := row.messageId.filter fun id => id ∈ store.rows.map Message.id }

def Tables.perform (tables : Tables) (workspaceId : Uuid) (now : Nat) (call : StoreCall) : Tables where
  store := (tables.store.perform workspaceId tables.nextId now call).1
  usage := tables.usage.map (linked (tables.store.perform workspaceId tables.nextId now call).1)
  nextId := tables.nextId + 1

inductive LedgerLabel where
  | record (label : PartyLabel RecordCall RecordEvent)
  | perform (workspaceId : Uuid) (now : Nat) (call : StoreCall)

abbrev Ledger := World Tables RecordState

def Ledger.step (ledger : Ledger) : LedgerLabel → Option Ledger
  | .record label => World.step (fun call => { call }) RecordState.act ledger label
  | .perform workspaceId now call => some { ledger with shared := ledger.shared.perform workspaceId now call }

def emptyStore : Store := ⟨[], List.nodup_nil, List.nodup_nil, List.nodup_nil⟩

def opening : Ledger := { shared := { store := emptyStore, nextId := 0 } }

structure Posting where
  requestId : String
  workspaceId : Uuid
  usage : UsageRecord
  latencyMs : FloatText
  createdAt : Nat

def LLMUsageRecord.posting (row : LLMUsageRecord) : Posting where
  requestId := row.requestId
  workspaceId := row.workspaceId
  usage := row.usage
  latencyMs := row.latencyMs
  createdAt := row.createdAt

-- The row that a step of the recorder commits.
def RecordState.inserts (tables : Tables) (state : RecordState) : RecordEvent → Option LLMUsageRecord
  | .fail => none
  | .proceed _ now =>
      match state.point with
      | .committing booking =>
          if state.call.requestId ∉ tables.usage.map LLMUsageRecord.requestId ∧ References tables.store booking then
            some (state.call.row booking tables.nextId now)
          else none
      | _ => none

def posted (ledger : Ledger) : LedgerLabel → Option Posting
  | .record (.act index event) =>
      (ledger.parties[index]?.bind fun state => state.inserts ledger.shared event).map LLMUsageRecord.posting
  | .record (.call _) => none
  | .perform _ _ _ => none

def postings (labels : List LedgerLabel) : List Posting := runEvents Ledger.step posted opening labels

section Stores

theorem perform_conversations (store : Store) (workspaceId id : Uuid) (now : Nat) (call : StoreCall) :
    ∀ conversation ∈ (store.perform workspaceId id now call).1.conversations,
      (conversation.id = id ∧ conversation.messages = []) ∨
        ∃ old ∈ store.conversations, old.id = conversation.id ∧ old.workspaceId = conversation.workspaceId ∧
          ∀ message ∈ conversation.messages, message.id = id ∨
            ∃ before ∈ old.messages, before.id = message.id ∧ before.traceId = message.traceId := by
  have same : ∀ conversation ∈ store.conversations, (conversation.id = id ∧ conversation.messages = []) ∨
      ∃ old ∈ store.conversations, old.id = conversation.id ∧ old.workspaceId = conversation.workspaceId ∧
        ∀ message ∈ conversation.messages, message.id = id ∨
          ∃ before ∈ old.messages, before.id = message.id ∧ before.traceId = message.traceId :=
    fun conversation member => .inr ⟨conversation, member, rfl, rfl, fun message inside => .inr ⟨message, inside, rfl, rfl⟩⟩
  intro conversation member
  cases call with
  | createConversation =>
      rw [Store.perform, Store.createConversation] at member
      split at member
      · exact same conversation member
      · rename_i created
        split at created <;> cases created
        rcases List.mem_append.mp member with old | new
        · exact same conversation old
        · obtain rfl := List.mem_singleton.mp new
          exact .inl ⟨rfl, rfl⟩
  | appendMessage conversationId new =>
      rw [Store.perform] at member
      split at member
      · exact same conversation member
      · rename_i appended
        obtain ⟨_, _, changed, _⟩ := append_message_ok _ _ _ _ _ _ _ _ appended
        rw [changed] at member
        obtain ⟨old, present, rewritten⟩ := List.mem_map.mp member
        subst rewritten
        split
        · refine .inr ⟨old, present, rfl, rfl, fun message inside => ?_⟩
          rcases List.mem_append.mp inside with earlier | last
          · exact .inr ⟨message, earlier, rfl, rfl⟩
          · rw [List.mem_singleton.mp last]
            exact .inl rfl
        · exact same old present
  | completeAssistantMessage messageId completion =>
      rw [Store.perform] at member
      split at member
      · exact same conversation member
      · rename_i completed
        obtain ⟨changed, _⟩ := complete_ok _ _ _ _ _ _ _ completed
        rw [changed] at member
        obtain ⟨old, present, rewritten⟩ := List.mem_map.mp member
        subst rewritten
        split
        · refine .inr ⟨old, present, rfl, rfl, fun message inside => .inr ?_⟩
          obtain ⟨before, held, written⟩ := List.mem_map.mp inside
          refine ⟨before, held, ?_⟩
          subst written
          split <;> exact ⟨rfl, rfl⟩
        · exact same old present
  | archiveConversation conversationId archived =>
      rw [Store.perform, Store.archiveConversation] at member
      split at member
      · exact same conversation member
      · obtain ⟨old, present, rewritten⟩ := List.mem_map.mp member
        subst rewritten
        split <;> exact same old present
  | deleteConversation conversationId =>
      rw [Store.perform, Store.deleteConversation] at member
      split at member
      · exact same conversation member
      · exact same conversation (List.mem_of_mem_filter member)
  | listConversations => exact same conversation member
  | getConversation conversationId => exact same conversation member
  | getHistory conversationId => exact same conversation member
  | getAssistantByRequestId conversationId requestId => exact same conversation member
  | getMessage messageId => exact same conversation member

variable (store : Store) (booking : Booking) (traceId : Option Uuid)

-- A booking says of the conversation and of the message it names what the tables say.
def Agrees : Prop :=
  ∀ conversation ∈ store.conversations,
    (booking.conversationId = some conversation.id → conversation.workspaceId = booking.workspaceId) ∧
      ∀ message ∈ conversation.messages, booking.messageId = some message.id →
        booking.conversationId = some conversation.id ∧ message.traceId = traceId

def Known (nextId : Uuid) : Prop := (∀ id ∈ booking.conversationId, id < nextId) ∧ ∀ id ∈ booking.messageId, id < nextId

theorem agrees_performed (workspaceId nextId : Uuid) (now : Nat) (call : StoreCall) (known : Known booking nextId)
    (agrees : Agrees store booking traceId) : Agrees (store.perform workspaceId nextId now call).1 booking traceId := by
  intro conversation member
  rcases perform_conversations store workspaceId nextId now call conversation member with
    ⟨fresh, empty⟩ | ⟨old, present, sameId, sameWorkspace, messages⟩
  · constructor
    · intro named
      exact absurd (known.1 _ named) (by rw [fresh]; exact Nat.lt_irrefl _)
    · intro message inside
      rw [empty] at inside
      cases inside
  · obtain ⟨located, holds⟩ := agrees old present
    rw [sameId, sameWorkspace] at located
    refine ⟨located, fun message inside named => ?_⟩
    rcases messages message inside with fresh | ⟨before, held, sameMessage, sameTrace⟩
    · exact absurd (known.2 _ named) (by rw [fresh]; exact Nat.lt_irrefl _)
    · obtain ⟨whose, trace⟩ := holds before held (by rw [named, sameMessage])
      exact ⟨by rw [whose, sameId], by rw [← sameTrace, trace]⟩

theorem traced_agrees (message : Message) (conversation : Conversation) (id : Uuid)
    (member : (message, conversation) ∈ traced store id) :
    conversation ∈ store.conversations ∧ message ∈ conversation.messages ∧ message.traceId = some id := by
  obtain ⟨other, present, inside⟩ := List.mem_flatMap.mp member
  obtain ⟨found, held, same⟩ := List.mem_map.mp inside
  cases same
  obtain ⟨there, trace⟩ := List.mem_filter.mp held
  exact ⟨present, there, of_decide_eq_true trace⟩

theorem message_conversation (one other : Conversation) (message found : Message) (oneIn : one ∈ store.conversations)
    (otherIn : other ∈ store.conversations) (messageIn : message ∈ one.messages) (foundIn : found ∈ other.messages)
    (same : message.id = found.id) : one = other ∧ message = found := by
  have distinct := store.messageIds
  have rowIn : message ∈ rows store.conversations := (mem_rows _ message).mpr ⟨one, oneIn, messageIn⟩
  have otherRow : found ∈ rows store.conversations := (mem_rows _ found).mpr ⟨other, otherIn, foundIn⟩
  obtain rfl := List.inj_on_of_nodup_map distinct rowIn otherRow same
  refine ⟨?_, rfl⟩
  by_contra apart
  have spread := (List.nodup_flatMap.mp (List.Nodup.of_map _ distinct)).2
  have symmetric : Std.Symm (Function.onFun List.Disjoint Conversation.messages) := ⟨fun _ _ apart _ one other => apart other one⟩
  exact spread.forall oneIn otherIn apart messageIn foundIn

theorem booking_agrees (call : RecordCall) (pick : Nat) (nextId : Uuid)
    (conversationsBelow : ∀ conversation ∈ store.conversations, conversation.id < nextId)
    (rowsBelow : ∀ message ∈ store.rows, message.id < nextId) (booked : call.booking store pick = some booking) :
    Agrees store booking call.usage.traceId ∧ Known booking nextId := by
  unfold RecordCall.booking at booked
  split at booked
  · rename_i message conversation found
    cases booked
    obtain ⟨id, given, first⟩ := Option.bind_eq_some_iff.mp found
    obtain ⟨present, held, trace⟩ := traced_agrees store message conversation id (List.mem_of_getElem? first)
    refine ⟨fun other member => ⟨fun same => ?_, fun row inside same => ?_⟩, ?_, ?_⟩
    · exact congrArg Conversation.workspaceId
        (List.inj_on_of_nodup_map store.conversationIds member present (Option.some.inj same).symm)
    · obtain ⟨rfl, rfl⟩ := message_conversation store conversation other message row present member held inside
        (Option.some.inj same)
      exact ⟨rfl, trace.trans given.symm⟩
    · intro id named
      cases named
      exact conversationsBelow conversation present
    · intro id named
      cases named
      exact rowsBelow message ((mem_rows _ message).mpr ⟨conversation, present, held⟩)
  · obtain ⟨workspaceId, _, rfl⟩ := Option.map_eq_some_iff.mp booked
    refine ⟨fun conversation _ => ⟨fun named => ?_, fun message _ named => ?_⟩, ?_, ?_⟩
    · cases named
    · cases named
    · intro id named
      cases named
    · intro id named
      cases named

end Stores

def RecordState.Sound (tables : Tables) (state : RecordState) : Prop :=
  ∀ booking, state.point = .committing booking →
    Agrees tables.store booking state.call.usage.traceId ∧ Known booking tables.nextId

structure Sound (ledger : Ledger) : Prop where
  conversations : ∀ conversation ∈ ledger.shared.store.conversations, conversation.id < ledger.shared.nextId
  messages : ∀ message ∈ ledger.shared.store.rows, message.id < ledger.shared.nextId
  booked : ∀ row ∈ ledger.shared.usage, Agrees ledger.shared.store row.toBooking row.usage.traceId ∧
    Known row.toBooking ledger.shared.nextId ∧ References ledger.shared.store row.toBooking
  pending : ∀ state ∈ ledger.parties, state.Sound ledger.shared
  requests : (ledger.shared.usage.map LLMUsageRecord.requestId).Nodup

theorem known_later (booking : Booking) (nextId later : Uuid) (grows : nextId ≤ later) (known : Known booking nextId) :
    Known booking later :=
  ⟨fun id named => Nat.lt_of_lt_of_le (known.1 id named) grows, fun id named => Nat.lt_of_lt_of_le (known.2 id named) grows⟩

theorem sound_opening : Sound opening := by
  refine ⟨?_, ?_, ?_, ?_, List.nodup_nil⟩ <;> intro _ member <;> cases member

theorem linked_agrees (store : Store) (row : LLMUsageRecord) (agrees : Agrees store row.toBooking row.usage.traceId)
    (whole : ∀ conversation ∈ store.conversations, ∀ message ∈ conversation.messages, row.messageId = some message.id →
      row.conversationId = some conversation.id) :
    Agrees store (linked store row).toBooking row.usage.traceId := by
  intro conversation member
  obtain ⟨located, holds⟩ := agrees conversation member
  refine ⟨fun named => ?_, fun message inside named => ?_⟩
  · exact located (Option.eq_some_of_filter_eq_some named)
  · have before := Option.eq_some_of_filter_eq_some named
    refine ⟨?_, (holds message inside before).2⟩
    have present : conversation.id ∈ store.conversations.map Conversation.id := List.mem_map_of_mem member
    simp only [linked, whole conversation member message inside before, Option.filter_some, present, decide_true, if_true]

theorem act_records (tables changed : Tables) (others : List RecordState) (state after : RecordState) (event : RecordEvent)
    (acted : state.act tables others event = some (changed, after)) :
    (changed = tables ∧ state.inserts tables event = none ∧ ∃ point, after = state.at point ∧
        ∀ booking, point = .committing booking → ∃ pick, state.call.booking tables.store pick = some booking) ∨
      ∃ booking now, state.point = .committing booking ∧
        state.call.requestId ∉ tables.usage.map LLMUsageRecord.requestId ∧ References tables.store booking ∧
        state.inserts tables event = some (state.call.row booking tables.nextId now) ∧
        changed = { tables with
          usage := tables.usage ++ [state.call.row booking tables.nextId now]
          nextId := tables.nextId + 1 } ∧ after = state.at .recorded := by
  cases event with
  | fail =>
      simp only [RecordState.act] at acted
      split at acted
      · cases acted
      · cases acted
        refine .inl ⟨rfl, rfl, .failed, rfl, fun booking failed => ?_⟩
        cases failed
  | proceed pick now =>
      simp only [RecordState.act, RecordState.proceed] at acted
      cases reached : state.point with
      | selecting =>
          rw [reached] at acted
          dsimp only at acted
          cases booked : state.call.booking tables.store pick with
          | none =>
              rw [booked] at acted
              cases acted
              refine .inl ⟨rfl, by simp only [RecordState.inserts, reached], .skipped, rfl, fun booking skipped => ?_⟩
              cases skipped
          | some booking =>
              rw [booked] at acted
              cases acted
              refine .inl ⟨rfl, by simp only [RecordState.inserts, reached], .committing booking, rfl, fun other same => ?_⟩
              cases same
              exact ⟨pick, booked⟩
      | committing booking =>
          rw [reached] at acted
          dsimp only at acted
          split at acted
          · rename_i commits
            cases acted
            refine .inr ⟨booking, now, rfl, commits.1, commits.2, ?_, rfl, rfl⟩
            simp only [RecordState.inserts, reached, if_pos commits]
          · rename_i refused
            cases acted
            refine .inl ⟨rfl, by simp only [RecordState.inserts, reached, if_neg refused], .failed, rfl, fun other failed => ?_⟩
            cases failed
      | recorded =>
          rw [reached] at acted
          cases acted
      | skipped =>
          rw [reached] at acted
          cases acted
      | failed =>
          rw [reached] at acted
          cases acted

theorem sound_inserted (tables : Tables) (state : RecordState) (row : LLMUsageRecord)
    (sound : state.Sound tables) :
    state.Sound { tables with usage := tables.usage ++ [row], nextId := tables.nextId + 1 } := by
  intro booking reached
  obtain ⟨agrees, known⟩ := sound booking reached
  exact ⟨agrees, known_later booking _ _ (Nat.le_succ _) known⟩

theorem record_sound (ledger next : Ledger) (label : PartyLabel RecordCall RecordEvent) (seen : List Posting)
    (sound : Sound ledger) (written : ledger.shared.usage.map LLMUsageRecord.posting = seen)
    (taken : Ledger.step ledger (.record label) = some next) :
    Sound next ∧ next.shared.usage.map LLMUsageRecord.posting = seen ++ (posted ledger (.record label)).toList := by
  rcases world_step_cases ledger next label taken with
    ⟨call, rfl, rfl⟩ | ⟨front, state, back, event, changed, after, rfl, parties, acted, rfl⟩
  · refine ⟨⟨sound.conversations, sound.messages, sound.booked, fun state member => ?_, sound.requests⟩, ?_⟩
    · rcases List.mem_append.mp member with old | last
      · exact sound.pending state old
      · intro booking reached
        rw [List.mem_singleton.mp last] at reached
        cases reached
    · rw [posted, Option.toList_none, List.append_nil]
      exact written
  · have here : ledger.parties[front.length]? = some state := by
      rw [parties]
      exact (replaced_at front back state state).1
    have member : state ∈ ledger.parties := List.mem_of_getElem? here
    have others : ∀ other ∈ front ++ back, other.Sound ledger.shared := fun other inside =>
      sound.pending other (by rw [parties]; exact mem_others front back state other inside)
    have seenNow : posted ledger (.record (.act front.length event)) =
        (state.inserts ledger.shared event).map LLMUsageRecord.posting := by
      rw [posted, here, Option.bind_some]
    rw [seenNow]
    rcases act_records ledger.shared changed (front ++ back) state after event acted with
      ⟨rfl, nothing, point, rfl, booked⟩ | ⟨booking, now, reached, fresh, references, inserts, rfl, rfl⟩
    · refine ⟨⟨sound.conversations, sound.messages, sound.booked, fun other inside => ?_, sound.requests⟩, ?_⟩
      · rcases mem_moved front back _ other inside with rfl | old
        · intro booking reached
          obtain ⟨pick, found⟩ := booked booking reached
          exact booking_agrees ledger.shared.store booking state.call pick ledger.shared.nextId sound.conversations
            sound.messages found
        · exact others other old
      · rw [nothing, Option.map_none, Option.toList_none, List.append_nil]
        exact written
    · obtain ⟨agrees, known⟩ := sound.pending state member booking reached
      refine ⟨⟨fun conversation inside => ?_, fun message inside => ?_, fun row inside => ?_, fun other inside => ?_, ?_⟩, ?_⟩
      · exact Nat.lt_succ_of_lt (sound.conversations conversation inside)
      · exact Nat.lt_succ_of_lt (sound.messages message inside)
      · rcases List.mem_append.mp inside with old | last
        · obtain ⟨was, below, linked⟩ := sound.booked row old
          exact ⟨was, known_later _ _ _ (Nat.le_succ _) below, linked⟩
        · rw [List.mem_singleton.mp last]
          exact ⟨agrees, known_later _ _ _ (Nat.le_succ _) known, references⟩
      · rcases mem_moved front back _ other inside with rfl | old
        · intro booking recorded
          cases recorded
        · exact sound_inserted ledger.shared other _ (others other old)
      · rw [List.map_append, List.map_singleton]
        refine List.nodup_append.mpr ⟨sound.requests, List.nodup_singleton _, ?_⟩
        rintro old inside new last rfl
        rw [List.mem_singleton.mp last] at inside
        exact fresh inside
      · rw [inserts, Option.map_some, Option.toList_some, List.map_append, written]
        rfl

theorem perform_sound (ledger : Ledger) (workspaceId : Uuid) (now : Nat) (call : StoreCall) (sound : Sound ledger) :
    Sound { ledger with shared := ledger.shared.perform workspaceId now call } ∧
      (ledger.shared.perform workspaceId now call).usage.map LLMUsageRecord.posting =
        ledger.shared.usage.map LLMUsageRecord.posting := by
  have later : ∀ booking traceId, Agrees ledger.shared.store booking traceId → Known booking ledger.shared.nextId →
      Agrees (ledger.shared.perform workspaceId now call).store booking traceId := by
    intro booking traceId agrees known
    exact agrees_performed ledger.shared.store booking traceId workspaceId ledger.shared.nextId now call known agrees
  refine ⟨⟨fun conversation inside => ?_, fun message inside => ?_, fun row inside => ?_, fun state inside => ?_, ?_⟩, ?_⟩
  · rcases perform_conversations _ _ _ _ _ conversation inside with ⟨fresh, _⟩ | ⟨old, present, same, _⟩
    · rw [fresh]
      exact Nat.lt_succ_self _
    · rw [← same]
      exact Nat.lt_succ_of_lt (sound.conversations old present)
  · exact perform_rows_below _ _ _ _ _ sound.messages message inside
  · obtain ⟨old, present, rfl⟩ := List.mem_map.mp inside
    obtain ⟨agrees, known, references⟩ := sound.booked old present
    have agreesLater := later _ _ agrees known
    refine ⟨linked_agrees _ old agreesLater fun conversation member message held named =>
      ((agreesLater conversation member).2 message held named).1, ?_, ?_⟩
    · exact known_later _ _ _ (Nat.le_succ _) ⟨fun id named => known.1 id (Option.eq_some_of_filter_eq_some named),
        fun id named => known.2 id (Option.eq_some_of_filter_eq_some named)⟩
    · exact ⟨fun id named => of_decide_eq_true (Option.mem_filter_iff.mp named).2,
        fun id named => of_decide_eq_true (Option.mem_filter_iff.mp named).2⟩
  · intro booking reached
    obtain ⟨agrees, known⟩ := sound.pending state inside booking reached
    exact ⟨later _ _ agrees known, known_later _ _ _ (Nat.le_succ _) known⟩
  · have same : (ledger.shared.perform workspaceId now call).usage.map LLMUsageRecord.requestId =
        ledger.shared.usage.map LLMUsageRecord.requestId := by
      rw [Tables.perform, List.map_map]
      rfl
    rw [same]
    exact sound.requests
  · rw [Tables.perform, List.map_map]
    rfl

theorem step_sound (ledger next : Ledger) (label : LedgerLabel) (seen : List Posting) (sound : Sound ledger)
    (written : ledger.shared.usage.map LLMUsageRecord.posting = seen) (taken : Ledger.step ledger label = some next) :
    Sound next ∧ next.shared.usage.map LLMUsageRecord.posting = seen ++ (posted ledger label).toList := by
  cases label with
  | record label => exact record_sound ledger next label seen sound written taken
  | perform workspaceId now call =>
      cases taken
      obtain ⟨later, same⟩ := perform_sound ledger workspaceId now call sound
      refine ⟨later, ?_⟩
      rw [posted, Option.toList_none, List.append_nil]
      exact same.trans written

theorem run_sound (labels : List LedgerLabel) (finish : Ledger) (run : runFrom Ledger.step opening labels = some finish) :
    Sound finish ∧ finish.shared.usage.map LLMUsageRecord.posting = postings labels :=
  run_history posted (fun ledger seen => Sound ledger ∧ ledger.shared.usage.map LLMUsageRecord.posting = seen)
    (fun ledger seen label next held taken => step_sound ledger next label seen held.1 held.2 taken) opening finish []
    labels ⟨sound_opening, rfl⟩ run

structure Located (store : Store) (row : LLMUsageRecord) : Prop where
  conversation : ∀ id ∈ row.conversationId, ∃ conversation ∈ store.conversations, conversation.id = id ∧
    conversation.workspaceId = row.workspaceId
  message : ∀ id ∈ row.messageId, ∃ conversation ∈ store.conversations, row.conversationId = some conversation.id ∧
    conversation.workspaceId = row.workspaceId ∧
    ∃ message ∈ conversation.messages, message.id = id ∧ message.traceId = row.usage.traceId

theorem row_located (ledger : Ledger) (sound : Sound ledger) (row : LLMUsageRecord) (member : row ∈ ledger.shared.usage) :
    Located ledger.shared.store row := by
  obtain ⟨agrees, _, references⟩ := sound.booked row member
  constructor
  · intro id named
    obtain ⟨conversation, present, rfl⟩ := List.mem_map.mp (references.1 id named)
    exact ⟨conversation, present, rfl, (agrees conversation present).1 named⟩
  · intro id named
    obtain ⟨message, inside, rfl⟩ := List.mem_map.mp (references.2 id named)
    obtain ⟨conversation, present, held⟩ := (mem_rows _ message).mp inside
    obtain ⟨located, holds⟩ := agrees conversation present
    obtain ⟨whose, trace⟩ := holds message held named
    exact ⟨conversation, present, whose, located whose, message, held, rfl, trace⟩

end DataPilot.Observability
