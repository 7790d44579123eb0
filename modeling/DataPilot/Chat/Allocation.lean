import DataPilot.Base.Consecutive
import DataPilot.Base.Parties
import DataPilot.Chat.Store

set_option autoImplicit false

namespace DataPilot.Chat

open DataPilot.Base DataPilot.Agent

-- Any integer may stand in the column sequence; the keys of the table are not
-- checked here, as a transaction that hits one is rolled back.
structure MessageRow where
  id : Uuid
  sequence : Int
  role : MessageRole
  content : Option String
  status : MessageStatus
  requestId : Option Uuid
  traceId : Option Uuid
  steps : List AgentStep

-- A row of conversations with its messages, as they were inserted.
structure ConversationRow where
  id : Uuid
  workspaceId : Uuid
  title : String
  nextSequence : Int
  archivedAt : Option Nat
  updatedAt : Nat
  messages : List MessageRow

def Message.row (message : Message) : MessageRow where
  id := message.id
  sequence := message.sequence
  role := message.role
  content := message.content
  status := message.status
  requestId := message.requestId
  traceId := message.traceId
  steps := message.steps

def Conversation.row (conversation : Conversation) : ConversationRow where
  id := conversation.id
  workspaceId := conversation.workspaceId
  title := conversation.title
  nextSequence := conversation.nextSequence
  archivedAt := conversation.archivedAt
  updatedAt := conversation.updatedAt
  messages := conversation.messages.map Message.row

-- The largest value of an Integer column.
def largestInteger : Int := 2147483647

-- COALESCE(MAX(sequence) + 1, 1)
def nextAfter (messages : List MessageRow) : Int := nextOf (messages.map MessageRow.sequence)

-- A conversation before revision 0003, when the key on the sequences already
-- stood; its workspace is the one that a later revision gives it.
structure LegacyConversation where
  id : Uuid
  workspaceId : Uuid
  title : String
  updatedAt : Nat
  messages : List MessageRow
  sequenced : (messages.map MessageRow.sequence).Nodup

-- Revision 0003; a number out of range undoes all of it.
def upgrade (legacy : LegacyConversation) : Option ConversationRow :=
  let nextSequence := nextAfter legacy.messages
  if nextSequence ≤ largestInteger then
    some {
      id := legacy.id
      workspaceId := legacy.workspaceId
      title := legacy.title
      nextSequence
      archivedAt := none
      updatedAt := legacy.updatedAt
      messages := legacy.messages }
  else none

-- ORDER BY sequence, as the relationship Conversation.messages is loaded.
def ConversationRow.listing (row : ConversationRow) : List MessageRow := orderBy MessageRow.sequence row.messages

inductive ConversationCall where
  | appendMessage (workspaceId : Uuid) (new : NewMessage)
  | completeAssistantMessage (workspaceId messageId : Uuid) (completion : Completion)
  | archiveConversation (workspaceId : Uuid) (archived : Bool)
  | getConversation (workspaceId : Uuid)

inductive CallReply where
  | message (message : MessageRow)
  | changed (done : Bool)
  | conversation (messages : Option (List MessageRow))
  | failed (error : StoreError)
  | rolledBack

-- The awaits of the calls, with what has been loaded and written so far.
inductive CallPoint where
  | selecting
  | allocating (title : String)
  | inserting (title : String) (allocated : Int) (updatedAt : Nat)
  | rewriting (loaded : MessageRow)
  | touching (loaded : MessageRow)
  | completing (loaded : MessageRow) (updatedAt : Option Nat)
  | archiving (loaded assigned : Option Nat)
  | archived (loaded assigned : Option Nat) (updatedAt : Nat)
  | listing
  | finished (reply : CallReply)

structure CallState where
  call : ConversationCall
  point : CallPoint := .selecting

-- The database answers the pending statement, or the transaction is rolled back.
inductive CallEvent where
  | proceed (now : Nat) (id : Uuid)
  | rollback

-- From UPDATE conversations to the end of the transaction.
def CallState.holdsRow (state : CallState) : Bool :=
  match state.point with
  | .inserting _ _ _ => true
  | .completing _ updatedAt => updatedAt.isSome
  | .archived _ _ _ => true
  | _ => false

-- The flush leaves a column out when the value assigned is the one loaded.
def flushed {α : Type} [DecidableEq α] (loaded assigned current : α) : α :=
  if assigned = loaded then current else assigned

def NewMessage.retitled (new : NewMessage) (title : String) : String :=
  if new.role = .user ∧ title = untitled ∧ new.content.getD "" ≠ "" then slice (strip (new.content.getD "")) 40
  else title

def NewMessage.messageRow (new : NewMessage) (id : Uuid) (sequence : Int) : MessageRow where
  id := id
  sequence := sequence
  role := new.role
  content := new.content
  status := new.status
  requestId := new.requestId
  traceId := new.traceId
  steps := []

section Steps

variable (row : ConversationRow) (free : Bool) (point : CallPoint) (now : Nat) (id : Uuid)

def appendStep (workspaceId : Uuid) (new : NewMessage) : Option (ConversationRow × CallPoint) :=
  match point with
  | .selecting =>
      if row.workspaceId = workspaceId then some (row, .allocating row.title)
      else some (row, .finished (.failed (.conversationNotFound row.id)))
  | .allocating title =>
      if free then
        if row.workspaceId = workspaceId then
          if row.nextSequence + 1 ≤ largestInteger then some (row, .inserting title (row.nextSequence + 1) now)
          else some (row, .finished .rolledBack)
        else some (row, .finished (.failed (.conversationNotFound row.id)))
      else none
  | .inserting title allocated updatedAt =>
      let message := new.messageRow id (allocated - 1)
      some ({ row with
        title := flushed title (new.retitled title) row.title
        nextSequence := allocated
        updatedAt := updatedAt
        messages := row.messages ++ [message] }, .finished (.message message))
  | _ => none

def MessageRow.complete (message loaded : MessageRow) (completion : Completion) : MessageRow :=
  { message with
    content := flushed loaded.content completion.content message.content
    status := flushed loaded.status completion.status message.status
    steps := completion.steps }

def ConversationRow.complete (loaded : MessageRow) (completion : Completion) : ConversationRow :=
  { row with
    messages := row.messages.map fun message =>
      if message.id = loaded.id then message.complete loaded completion else message }

def completeStep (workspaceId messageId : Uuid) (completion : Completion) : Option (ConversationRow × CallPoint) :=
  match point with
  | .selecting =>
      match row.messages.find? fun message => decide (message.id = messageId ∧ row.workspaceId = workspaceId) with
      | none => some (row, .finished (.failed (.messageNotFound messageId)))
      | some message => some (row, .rewriting message)
  | .rewriting loaded =>
      if row.workspaceId = workspaceId then some (row, .touching loaded) else some (row, .completing loaded none)
  | .touching loaded => if free then some (row, .completing loaded (some now)) else none
  | .completing loaded updatedAt =>
      some ({ row.complete loaded completion with updatedAt := updatedAt.getD row.updatedAt },
        .finished (.changed true))
  | _ => none

def archiveStep (workspaceId : Uuid) (archived : Bool) : Option (ConversationRow × CallPoint) :=
  match point with
  | .selecting =>
      if row.workspaceId = workspaceId then
        some (row, .archiving row.archivedAt (if archived then some now else none))
      else some (row, .finished (.changed false))
  | .archiving loaded assigned => if free then some (row, .archived loaded assigned now) else none
  | .archived loaded assigned updatedAt =>
      some ({ row with archivedAt := flushed loaded assigned row.archivedAt, updatedAt := updatedAt },
        .finished (.changed true))
  | _ => none

-- The messages are loaded by a statement of their own.
def getStep (workspaceId : Uuid) : Option (ConversationRow × CallPoint) :=
  match point with
  | .selecting =>
      if row.workspaceId = workspaceId then some (row, .listing)
      else some (row, .finished (.conversation none))
  | .listing => some (row, .finished (.conversation (some row.listing)))
  | _ => none

end Steps

def CallPoint.isFinished : CallPoint → Bool
  | .finished _ => true
  | _ => false

def CallState.proceed (row : ConversationRow) (free : Bool) (state : CallState) (now : Nat) (id : Uuid) :
    Option (ConversationRow × CallPoint) :=
  match state.call with
  | .appendMessage workspaceId new => appendStep row free state.point now id workspaceId new
  | .completeAssistantMessage workspaceId messageId completion =>
      completeStep row free state.point now workspaceId messageId completion
  | .archiveConversation workspaceId archived => archiveStep row free state.point now workspaceId archived
  | .getConversation workspaceId => getStep row state.point workspaceId

-- A statement that needs the row waits while another transaction holds it.
def CallState.act (row : ConversationRow) (others : List CallState) (state : CallState) :
    CallEvent → Option (ConversationRow × CallState)
  | .proceed now id =>
      (state.proceed row (others.all fun other => !other.holdsRow) now id).map fun next =>
        (next.1, { state with point := next.2 })
  | .rollback =>
      if state.point.isFinished then none else some (row, { state with point := .finished .rolledBack })

abbrev Calls := World ConversationRow CallState

def Calls.step (calls : Calls) (label : PartyLabel ConversationCall CallEvent) : Option Calls :=
  World.step (fun call => { call }) CallState.act calls label

section Alone

variable (conversation : Conversation) (id : Uuid) (now : Nat)

def alone (call : ConversationCall) (steps : Nat) : List (PartyLabel ConversationCall CallEvent) :=
  .call call :: List.replicate steps (.act 0 (.proceed now id))

theorem flushed_same {α : Type} [DecidableEq α] (loaded assigned : α) : flushed loaded assigned loaded = assigned := by
  by_cases same : assigned = loaded <;> simp [flushed, same]

theorem alone_step (row changed : ConversationRow) (call : ConversationCall) (point after : CallPoint) (steps : Nat)
    (taken : CallState.proceed row true ⟨call, point⟩ now id = some (changed, after)) :
    runFrom Calls.step ⟨row, [⟨call, point⟩]⟩ (List.replicate (steps + 1) (.act 0 (.proceed now id))) =
      runFrom Calls.step ⟨changed, [⟨call, after⟩]⟩ (List.replicate steps (.act 0 (.proceed now id))) := by
  have acted : CallState.act row [] ⟨call, point⟩ (.proceed now id) = some (changed, ⟨call, after⟩) := by
    simp only [CallState.act, List.all_nil, taken, Option.map_some]
  rw [List.replicate_succ, runFrom]
  simp only [Calls.step, World.step, List.getElem?_cons_zero, List.eraseIdx_cons_zero, acted, List.set_cons_zero]

-- A transaction that nothing interrupts is the atomic operation of the store.
theorem append_alone (new : NewMessage) (fits : (conversation.nextSequence : Int) + 1 ≤ largestInteger) :
    runFrom Calls.step { shared := conversation.row } (alone id now (.appendMessage conversation.workspaceId new) 3) =
      some {
        shared := (conversation.add new id now).row
        parties := [{
          call := .appendMessage conversation.workspaceId new
          point := .finished (.message (new.message id conversation.nextSequence).row) }] } := by
  let row := conversation.row
  let call := ConversationCall.appendMessage row.workspaceId new
  have selects : CallState.proceed row true ⟨call, .selecting⟩ now id = some (row, .allocating row.title) := if_pos rfl
  have room : row.nextSequence + 1 ≤ largestInteger := fits
  have allocates : CallState.proceed row true ⟨call, .allocating row.title⟩ now id =
      some (row, .inserting row.title (row.nextSequence + 1) now) := by
    change appendStep row true (.allocating row.title) now id row.workspaceId new = _
    rw [appendStep, if_pos rfl, if_pos rfl, if_pos room]
  have retitled : flushed row.title (new.retitled row.title) row.title = conversation.retitled new := flushed_same ..
  have inserts : CallState.proceed row true ⟨call, .inserting row.title (row.nextSequence + 1) now⟩ now id =
      some ((conversation.add new id now).row, .finished (.message (new.message id conversation.nextSequence).row)) := by
    change appendStep row true (.inserting row.title (row.nextSequence + 1) now) now id row.workspaceId new = _
    rw [appendStep, retitled, Int.add_sub_cancel]
    simp [row, Conversation.add, Conversation.row, NewMessage.message, NewMessage.messageRow, Message.row]
  have first := alone_step id now row row call _ _ 2 selects
  have second := alone_step id now row row call _ _ 1 allocates
  have third := alone_step id now row _ call _ _ 0 inserts
  exact first.trans (second.trans third)

theorem complete_alone (messageId : Uuid) (completion : Completion) (message : Message)
    (distinct : (conversation.messages.map Message.id).Nodup)
    (found : conversation.messages.find? (fun message => decide (message.id = messageId)) = some message) :
    runFrom Calls.step { shared := conversation.row }
        (alone id now (.completeAssistantMessage conversation.workspaceId messageId completion) 4) =
      some {
        shared := (conversation.complete messageId completion now).row
        parties := [{
          call := .completeAssistantMessage conversation.workspaceId messageId completion
          point := .finished (.changed true) }] } := by
  let row := conversation.row
  let call := ConversationCall.completeAssistantMessage row.workspaceId messageId completion
  have hit : message.id = messageId := by simpa using List.find?_some found
  have member := List.mem_of_find?_eq_some found
  have selected : (row.messages.find? fun other => decide (other.id = messageId ∧ row.workspaceId = row.workspaceId)) =
      some message.row := by
    simp only [row, and_true, Conversation.row, List.find?_map]
    exact congrArg (Option.map Message.row) found
  have selects : CallState.proceed row true ⟨call, .selecting⟩ now id = some (row, .rewriting message.row) := by
    change completeStep row true .selecting now row.workspaceId messageId completion = _
    rw [completeStep, selected]
  have rewrites : CallState.proceed row true ⟨call, .rewriting message.row⟩ now id =
      some (row, .touching message.row) := if_pos rfl
  have rewritten : row.messages.map (fun other =>
        if other.id = message.row.id then other.complete message.row completion else other) =
      (conversation.complete messageId completion now).messages.map Message.row := by
    simp only [row, Conversation.row, Conversation.complete, completeIn, List.map_map]
    refine List.map_congr_left fun other inside => ?_
    by_cases same : other.id = messageId
    · obtain rfl := List.inj_on_of_nodup_map distinct inside member (same.trans hit.symm)
      simp [Message.row, MessageRow.complete, Message.complete, flushed_same, same]
    · simp [Message.row, hit, same]
  have completes : CallState.proceed row true ⟨call, .completing message.row (some now)⟩ now id =
      some ((conversation.complete messageId completion now).row, .finished (.changed true)) := by
    change completeStep row true (.completing message.row (some now)) now row.workspaceId messageId completion = _
    rw [completeStep, ConversationRow.complete, rewritten]
    rfl
  have first := alone_step id now row row call _ _ 3 selects
  have second := alone_step id now row row call _ _ 2 rewrites
  have third := alone_step id now row row call (.touching message.row) (.completing message.row (some now)) 1 rfl
  have fourth := alone_step id now row _ call _ _ 0 completes
  exact first.trans (second.trans (third.trans fourth))

theorem archive_alone (archived : Bool) :
    runFrom Calls.step { shared := conversation.row }
        (alone id now (.archiveConversation conversation.workspaceId archived) 3) =
      some {
        shared := (conversation.archive archived now).row
        parties := [{
          call := .archiveConversation conversation.workspaceId archived
          point := .finished (.changed true) }] } := by
  let row := conversation.row
  let call := ConversationCall.archiveConversation row.workspaceId archived
  let assigned := if archived then some now else none
  have selects : CallState.proceed row true ⟨call, .selecting⟩ now id =
      some (row, .archiving row.archivedAt assigned) := if_pos rfl
  have archives : CallState.proceed row true ⟨call, .archived row.archivedAt assigned now⟩ now id =
      some ((conversation.archive archived now).row, .finished (.changed true)) := by
    change archiveStep row true (.archived row.archivedAt assigned now) now row.workspaceId archived = _
    rw [archiveStep, flushed_same]
    rfl
  have first := alone_step id now row row call _ _ 2 selects
  have second := alone_step id now row row call (.archiving row.archivedAt assigned)
    (.archived row.archivedAt assigned now) 1 rfl
  have third := alone_step id now row _ call _ _ 0 archives
  exact first.trans (second.trans third)

end Alone

def MessageRow.key (message : MessageRow) : Uuid × Int := (message.id, message.sequence)

def ConversationRow.keys (row : ConversationRow) : List (Uuid × Int) := row.messages.map MessageRow.key

def CallState.reserved (state : CallState) : Option Int :=
  match state.point with
  | .inserting _ allocated _ => some allocated
  | _ => none

def CallState.appended (state : CallState) : Option (Uuid × Int) :=
  match state.point with
  | .finished (.message message) => some message.key
  | _ => none

def CallState.listed (state : CallState) : Option (List MessageRow) :=
  match state.point with
  | .finished (.conversation messages) => messages
  | _ => none

def CallState.spent (state : CallState) : Bool := state.reserved.isSome || state.point.isFinished

section Moves

variable (row : ConversationRow) (others : List CallState) (state : CallState)

inductive Move (changed : ConversationRow) (after : CallState) : Prop where
  | quiet (sameNext : changed.nextSequence = row.nextSequence) (sameKeys : changed.keys = row.keys)
      (reserved : after.reserved = none) (appended : after.appended = none)
      (listed : ∀ messages, after.listed = some messages → messages = row.listing)
      (spent : state.spent = true → after.spent = true)
      (takes : after.holdsRow = true → state.holdsRow = true ∨ ∀ other ∈ others, other.holdsRow = false)
  | allocates (sameRow : changed = row) (free : ∀ other ∈ others, other.holdsRow = false) (before : state.spent = false)
      (reserved : after.reserved = some (row.nextSequence + 1)) (appended : after.appended = none)
      (listed : after.listed = none)
  | appends (key : Uuid × Int) (reserved : state.reserved = some (key.2 + 1)) (next : changed.nextSequence = key.2 + 1)
      (keys : changed.keys = row.keys ++ [key]) (released : after.reserved = none) (appended : after.appended = some key)
      (listed : after.listed = none) (spent : after.spent = true)

variable {row others state}

theorem move_reading (after : CallState) (reserved : after.reserved = none) (appended : after.appended = none)
    (listed : after.listed = none) (spent : state.spent = true → after.spent = true)
    (takes : after.holdsRow = true → state.holdsRow = true ∨ ∀ other ∈ others, other.holdsRow = false) :
    Move row others state row after := by
  refine .quiet rfl rfl reserved appended ?_ spent takes
  intro messages found
  simp [listed] at found

variable {changed : ConversationRow} {free : Bool} {after : CallPoint} {now : Nat} {id : Uuid}

theorem append_moves (workspaceId : Uuid) (new : NewMessage) (call : ConversationCall) (point : CallPoint)
    (unlocked : free = true → ∀ other ∈ others, other.holdsRow = false)
    (taken : appendStep row free point now id workspaceId new = some (changed, after)) :
    Move row others ⟨call, point⟩ changed ⟨call, after⟩ := by
  cases point with
  | selecting =>
      by_cases belongs : row.workspaceId = workspaceId
      · simp only [appendStep, if_pos belongs] at taken
        cases taken
        exact move_reading _ rfl rfl rfl Bool.noConfusion Bool.noConfusion
      · simp only [appendStep, if_neg belongs] at taken
        cases taken
        exact move_reading _ rfl rfl rfl Bool.noConfusion Bool.noConfusion
  | allocating title =>
      cases free with
      | false => cases taken
      | true =>
          by_cases belongs : row.workspaceId = workspaceId
          · by_cases fits : row.nextSequence + 1 ≤ largestInteger
            · simp only [appendStep, if_true, if_pos belongs, if_pos fits] at taken
              cases taken
              exact .allocates rfl (unlocked rfl) rfl rfl rfl rfl
            · simp only [appendStep, if_true, if_pos belongs, if_neg fits] at taken
              cases taken
              exact move_reading _ rfl rfl rfl Bool.noConfusion Bool.noConfusion
          · simp only [appendStep, if_true, if_neg belongs] at taken
            cases taken
            exact move_reading _ rfl rfl rfl Bool.noConfusion Bool.noConfusion
  | inserting title allocated updatedAt =>
      cases taken
      have back : allocated - 1 + 1 = allocated := Int.sub_add_cancel allocated 1
      refine .appends (id, allocated - 1) (congrArg some back.symm) back.symm ?_ rfl rfl rfl rfl
      simp [ConversationRow.keys, NewMessage.messageRow, MessageRow.key]
  | _ => cases taken

theorem complete_keys (loaded : MessageRow) (completion : Completion) : (row.complete loaded completion).keys = row.keys := by
  simp only [ConversationRow.keys, ConversationRow.complete, List.map_map]
  refine List.map_congr_left fun message _ => ?_
  by_cases hit : message.id = loaded.id <;> simp [hit, MessageRow.complete, MessageRow.key]

theorem complete_moves (workspaceId messageId : Uuid) (completion : Completion) (call : ConversationCall) (point : CallPoint)
    (unlocked : free = true → ∀ other ∈ others, other.holdsRow = false)
    (taken : completeStep row free point now workspaceId messageId completion = some (changed, after)) :
    Move row others ⟨call, point⟩ changed ⟨call, after⟩ := by
  cases point with
  | selecting =>
      simp only [completeStep] at taken
      split at taken <;> cases taken <;> exact move_reading _ rfl rfl rfl Bool.noConfusion Bool.noConfusion
  | rewriting loaded =>
      simp only [completeStep] at taken
      split at taken <;> cases taken <;> exact move_reading _ rfl rfl rfl Bool.noConfusion Bool.noConfusion
  | touching loaded =>
      cases free with
      | false => cases taken
      | true =>
          cases taken
          exact move_reading _ rfl rfl rfl Bool.noConfusion fun _ => .inr (unlocked rfl)
  | completing loaded updatedAt =>
      cases taken
      refine .quiet rfl (complete_keys loaded completion) rfl rfl ?_ (fun _ => rfl) Bool.noConfusion
      intro messages found
      cases found
  | _ => cases taken

theorem archive_moves (workspaceId : Uuid) (archived : Bool) (call : ConversationCall) (point : CallPoint)
    (unlocked : free = true → ∀ other ∈ others, other.holdsRow = false)
    (taken : archiveStep row free point now workspaceId archived = some (changed, after)) :
    Move row others ⟨call, point⟩ changed ⟨call, after⟩ := by
  cases point with
  | selecting =>
      simp only [archiveStep] at taken
      split at taken <;> cases taken <;> exact move_reading _ rfl rfl rfl Bool.noConfusion Bool.noConfusion
  | archiving loaded assigned =>
      cases free with
      | false => cases taken
      | true =>
          cases taken
          exact move_reading _ rfl rfl rfl Bool.noConfusion fun _ => .inr (unlocked rfl)
  | archived loaded assigned updatedAt =>
      cases taken
      refine .quiet rfl rfl rfl rfl ?_ (fun _ => rfl) Bool.noConfusion
      intro messages found
      cases found
  | _ => cases taken

theorem get_moves (workspaceId : Uuid) (call : ConversationCall) (point : CallPoint)
    (taken : getStep row point workspaceId = some (changed, after)) :
    Move row others ⟨call, point⟩ changed ⟨call, after⟩ := by
  cases point with
  | selecting =>
      simp only [getStep] at taken
      split at taken <;> cases taken <;> exact move_reading _ rfl rfl rfl Bool.noConfusion Bool.noConfusion
  | listing =>
      cases taken
      refine .quiet rfl rfl rfl rfl ?_ (fun _ => rfl) Bool.noConfusion
      intro messages found
      exact (Option.some.inj found).symm
  | _ => cases taken

theorem act_moves (event : CallEvent) (next : CallState) (acted : state.act row others event = some (changed, next)) :
    state.point.isFinished = false ∧ Move row others state changed next := by
  obtain ⟨call, point⟩ := state
  cases event with
  | rollback =>
      cases ended : point.isFinished with
      | true => simp [CallState.act, ended] at acted
      | false =>
          simp only [CallState.act, ended, Bool.false_eq_true, if_false, Option.some.injEq, Prod.mk.injEq] at acted
          obtain ⟨rfl, rfl⟩ := acted
          exact ⟨rfl, move_reading _ rfl rfl rfl (fun _ => rfl) Bool.noConfusion⟩
  | proceed now id =>
      obtain ⟨⟨changed, after⟩, taken, same⟩ := Option.map_eq_some_iff.mp acted
      cases same
      have unlocked : (others.all fun other => !other.holdsRow) = true → ∀ other ∈ others, other.holdsRow = false := by
        simp
      have live : point.isFinished = false := by
        cases point with
        | finished reply => cases call <;> cases taken
        | _ => rfl
      refine ⟨live, ?_⟩
      cases call with
      | appendMessage workspaceId new => exact append_moves workspaceId new _ point unlocked taken
      | completeAssistantMessage workspaceId messageId completion =>
          exact complete_moves workspaceId messageId completion _ point unlocked taken
      | archiveConversation workspaceId archived => exact archive_moves workspaceId archived _ point unlocked taken
      | getConversation workspaceId => exact get_moves workspaceId _ point taken

end Moves

end DataPilot.Chat
