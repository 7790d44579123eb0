import DataPilot.Base.Parties

set_option autoImplicit false

namespace DataPilot.Frontend

open DataPilot.Base

-- The id of an assistant message with the number of the send that it belongs to.
structure AssistantRef where
  send : Nat
  id : String
deriving DecidableEq

-- What the calls of the chat store share. The id of a conversation is never empty. AbortControllers are
-- numbered as they are made, one by each send; those that have been aborted are listed.
structure ChatStore where
  currentConversationId : Option String
  isStreaming : Bool := false
  abortController : Option Nat := none
  activeAssistantId : Option AssistantRef := none
  controllers : Nat := 0
  aborted : List Nat := []
deriving DecidableEq

-- Where a call of sendMessage or stopStreaming stands: not begun, at an await, or ended.
inductive Invocation where
  | sending (question : String)
  -- createConversation, then loadConversations, in createNewConversation
  | creating
  | listing
  -- streamMessage with the signal of a controller, and the timer before the next attempt
  | streaming (controller signal attempt : Nat) (assistantId : String)
  | backingOff (controller attempt : Nat) (assistantId : String)
  -- loadConversations in the finally block
  | closing
  | stopping
  -- abortMessage
  | aborting
  | ended
deriving DecidableEq

inductive ChatCall where
  | sendMessage (question : String)
  | stopStreaming

-- The question is the content, trimmed.
def ChatCall.invocation : ChatCall → Invocation
  | .sendMessage question => .sending question
  | .stopStreaming => .stopping

-- What ends the pending await (or begins the call): it resolves at a time, it rejects with an
-- AbortError or otherwise. A stream also hands on the start event of its message.
inductive ChatEvent where
  | proceed (now : Nat)
  | created (conversationId : String)
  | reject
  | abortError
  | start (assistantId : String)

-- From the check of the conversation to the first streamMessage.
def ChatStore.begin (store : ChatStore) (now : Nat) : ChatStore × Invocation :=
  match store.currentConversationId with
  | none => (store, .ended)
  | some _ =>
      let controller := store.controllers
      let assistantId := s!"local-assistant-{now}"
      ({ store with
          isStreaming := true
          abortController := some controller
          activeAssistantId := some ⟨controller, assistantId⟩
          controllers := controller + 1 }, .streaming controller controller 0 assistantId)

def ChatStore.finish (store : ChatStore) : ChatStore × Invocation :=
  ({ store with isStreaming := false, abortController := none, activeAssistantId := none }, .closing)

-- An attempt failed, not by an AbortError.
def ChatStore.failed (store : ChatStore) (controller attempt : Nat) (assistantId : String) : ChatStore × Invocation :=
  if 2 ≤ attempt then store.finish else (store, .backingOff controller attempt assistantId)

-- The next attempt reads abortController again; where it is null that is a TypeError.
def ChatStore.retry (store : ChatStore) (controller attempt : Nat) (assistantId : String) : ChatStore × Invocation :=
  match store.abortController with
  | none => store.failed controller attempt assistantId
  | some signal => (store, .streaming controller signal attempt assistantId)

-- abortController?.abort() and what follows.
def ChatStore.stop (store : ChatStore) : ChatStore × Invocation :=
  ({ store with isStreaming := false, aborted := store.abortController.toList ++ store.aborted }, .ended)

-- Whether stopStreaming has a message to abort on the server.
def ChatStore.asksServer (store : ChatStore) : Bool :=
  store.currentConversationId.isSome && store.activeAssistantId.isSome

def Invocation.act (store : ChatStore) (_ : List Invocation) (invocation : Invocation) (event : ChatEvent) :
    Option (ChatStore × Invocation) :=
  match invocation, event with
  | .sending question, .proceed now =>
      if question = "" ∨ store.isStreaming = true then some (store, .ended)
      else if store.currentConversationId = none then some (store, .creating)
      else some (store.begin now)
  | .creating, .created conversationId => some ({ store with currentConversationId := some conversationId }, .listing)
  | .creating, .reject => some (store, .ended)
  | .listing, .proceed now => some (store.begin now)
  | .listing, .reject => some (store, .ended)
  | .streaming controller signal attempt assistantId, .start startedId =>
      if startedId = "" then some (store, .streaming controller signal attempt assistantId)
      else
        some ({ store with activeAssistantId := some ⟨controller, startedId⟩ }, .streaming controller signal attempt startedId)
  | .streaming _ _ _ _, .proceed _ => some store.finish
  | .streaming controller _ attempt assistantId, .reject => some (store.failed controller attempt assistantId)
  | .streaming _ signal _ _, .abortError => if signal ∈ store.aborted then some store.finish else none
  | .backingOff controller attempt assistantId, .proceed _ => some (store.retry controller (attempt + 1) assistantId)
  | .closing, .proceed _ => some (store, .ended)
  | .closing, .reject => some (store, .ended)
  | .stopping, .proceed _ => if store.asksServer then some (store, .aborting) else some store.stop
  | .aborting, .proceed _ => some store.stop
  | .aborting, .reject => some store.stop
  | _, _ => none

abbrev ChatWorld := World ChatStore Invocation

abbrev ChatLabel := PartyLabel ChatCall ChatEvent

def ChatWorld.step (world : ChatWorld) (label : ChatLabel) : Option ChatWorld :=
  World.step ChatCall.invocation Invocation.act world label

-- The stream is in flight, which it no longer is once its signal is aborted, or a retry is pending.
def Invocation.active (store : ChatStore) : Invocation → Bool
  | .streaming _ signal _ _ => signal ∉ store.aborted
  | .backingOff _ _ _ => true
  | _ => false

def Invocation.controller : Invocation → Option Nat
  | .streaming controller _ _ _ => some controller
  | .backingOff controller _ _ => some controller
  | _ => none

def Invocation.Belongs (store : ChatStore) : Invocation → Prop
  | .streaming controller signal _ assistantId =>
      store.abortController = some controller ∧ signal = controller ∧ store.activeAssistantId = some ⟨controller, assistantId⟩
  | .backingOff controller _ assistantId =>
      store.abortController = some controller ∧ store.activeAssistantId = some ⟨controller, assistantId⟩
  | _ => True

-- One send at most is active, isStreaming tells whether one is, and what a stop acts on is its.
structure Single (world : ChatWorld) : Prop where
  most : Exclusive (Invocation.active world.shared) world.parties
  flag : world.shared.isStreaming = world.parties.any (Invocation.active world.shared)
  belongs : ∀ invocation ∈ world.parties, invocation.active world.shared = true → invocation.Belongs world.shared

def Alone (store : ChatStore) (others : List Invocation) : Prop := ∀ other ∈ others, other.active store = false

def Invocation.isBackingOff : Invocation → Bool
  | .backingOff _ _ _ => true
  | _ => false

-- A send begins its stream, hears of its message and ends its stream only while no other is active; a send
-- that has been stopped does not wait to retry, and no stop takes effect while a send waits to retry.
def Keeping (store : ChatStore) (others : List Invocation) : Invocation → ChatEvent → Prop
  | .listing, .proceed _ => store.currentConversationId ≠ none → Alone store others
  | .streaming _ _ _ _, .start startedId => startedId ≠ "" → Alone store others
  | .streaming _ signal attempt _, .reject => if attempt < 2 then signal ∉ store.aborted else Alone store others
  | .streaming _ _ _ _, _ => Alone store others
  | .stopping, _ => store.asksServer = true ∨ ∀ other ∈ others, other.isBackingOff = false
  | .aborting, _ => ∀ other ∈ others, other.isBackingOff = false
  | _, _ => True

def Orderly (world : ChatWorld) (label : ChatLabel) : Prop :=
  ∀ index event invocation, label = .act index event → world.parties[index]? = some invocation →
    Keeping world.shared (world.parties.eraseIdx index) invocation event

-- What the steps rely on besides: the numbers of the controllers, and that no send waits with an aborted one.
structure Coherent (world : ChatWorld) : Prop where
  single : Single world
  drawn : Drawn Invocation.controller [] world.parties world.shared.controllers
  held : ∀ controller, world.shared.abortController = some controller → controller < world.shared.controllers
  issued : ∀ controller ∈ world.shared.aborted, controller < world.shared.controllers
  waiting : ∀ controller attempt assistantId, .backingOff controller attempt assistantId ∈ world.parties →
    controller ∉ world.shared.aborted

theorem any_split (test : Invocation → Bool) (front back : List Invocation) (one : Invocation) :
    (front ++ one :: back).any test = (test one || (front ++ back).any test) := by
  rw [List.any_append, List.any_cons, List.any_append]
  cases test one <;> simp

theorem single_idle (store : ChatStore) (parties : List Invocation) (alone : Alone store parties)
    (off : store.isStreaming = false) : Single ⟨store, parties⟩ where
  most := by
    rw [Exclusive, none_held _ parties alone]
    exact Nat.zero_le 1
  flag := by
    rw [off]
    exact (List.any_eq_false.mpr fun one member => by simp [alone one member]).symm
  belongs := fun one member active => by
    rw [alone one member] at active
    cases active

theorem single_sole (store : ChatStore) (front back : List Invocation) (one : Invocation) (alone : Alone store (front ++ back))
    (streams : store.isStreaming = true) (active : one.active store = true) (belongs : one.Belongs store) :
    Single ⟨store, front ++ one :: back⟩ where
  most := by
    rw [exclusive_split, none_held _ _ alone, active]
    decide
  flag := by rw [streams, any_split, active, Bool.true_or]
  belongs := by
    intro other member live
    rcases mem_moved front back one other member with rfl | old
    · exact belongs
    · rw [alone other old] at live
      cases live

theorem single_quiet (store next : ChatStore) (front back : List Invocation) (before after : Invocation)
    (single : Single ⟨store, front ++ before :: back⟩) (idle : before.active store = false) (stays : after.active next = false)
    (streams : next.isStreaming = store.isStreaming) (controller : next.abortController = store.abortController)
    (message : next.activeAssistantId = store.activeAssistantId) (aborted : next.aborted = store.aborted) :
    Single ⟨next, front ++ after :: back⟩ := by
  have tests : Invocation.active next = Invocation.active store := by
    funext one
    cases one <;> simp only [Invocation.active, aborted]
  obtain ⟨most, flag, belongs⟩ := single
  dsimp only at most flag belongs
  rw [exclusive_split, idle] at most
  rw [any_split, idle] at flag
  refine ⟨?_, ?_, ?_⟩
  · rw [exclusive_split, stays, tests]
    exact most
  · rw [any_split, stays, tests, streams]
    exact flag
  · intro other member live
    rcases mem_moved front back after other member with rfl | old
    · rw [stays] at live
      cases live
    · rw [tests] at live
      have own := belongs other (mem_others front back before other old) live
      cases other with
      | streaming held signal attempt assistantId => simpa only [Invocation.Belongs, controller, message] using own
      | backingOff held attempt assistantId => simpa only [Invocation.Belongs, controller, message] using own
      | _ => trivial

theorem single_active (store : ChatStore) (front back : List Invocation) (one : Invocation)
    (single : Single ⟨store, front ++ one :: back⟩) (active : one.active store = true) :
    Alone store (front ++ back) ∧ store.isStreaming = true ∧ one.Belongs store := by
  refine ⟨exclusive_others (Invocation.active store) front back one single.most active, ?_, single.belongs one (by simp) active⟩
  rw [single.flag, any_split, active, Bool.true_or]

theorem single_off (store : ChatStore) (parties : List Invocation) (single : Single ⟨store, parties⟩)
    (off : store.isStreaming = false) : Alone store parties := by
  have flag := single.flag
  rw [off] at flag
  intro one member
  simpa using List.any_eq_false.mp flag.symm one member

-- What a step of a call does, the guards included.
inductive Invoked (store : ChatStore) : Invocation → ChatEvent → ChatStore → Invocation → Prop where
  | quiet (before after : Invocation) (event : ChatEvent) (conversation : Option String) (idle : before.controller = none)
      (stays : after.controller = none) (harmless : ∀ others, Keeping store others before event) :
      Invoked store before event { store with currentConversationId := conversation } after
  | begun (before : Invocation) (now : Nat) (conversation : String) (current : store.currentConversationId = some conversation)
      (begins : before = .listing ∨ (∃ question, before = .sending question) ∧ store.isStreaming = false) :
      Invoked store before (.proceed now)
        { store with
          isStreaming := true
          abortController := some store.controllers
          activeAssistantId := some ⟨store.controllers, s!"local-assistant-{now}"⟩
          controllers := store.controllers + 1 }
        (.streaming store.controllers store.controllers 0 s!"local-assistant-{now}")
  | ignored (controller signal attempt : Nat) (assistantId : String) :
      Invoked store (.streaming controller signal attempt assistantId) (.start "") store
        (.streaming controller signal attempt assistantId)
  | started (controller signal attempt : Nat) (assistantId startedId : String) (named : startedId ≠ "") :
      Invoked store (.streaming controller signal attempt assistantId) (.start startedId)
        { store with activeAssistantId := some ⟨controller, startedId⟩ } (.streaming controller signal attempt startedId)
  | finished (controller signal attempt : Nat) (assistantId : String) (event : ChatEvent)
      (ends : (∃ now, event = .proceed now) ∨ event = .abortError ∨ event = .reject ∧ 2 ≤ attempt) :
      Invoked store (.streaming controller signal attempt assistantId) event
        { store with isStreaming := false, abortController := none, activeAssistantId := none } .closing
  | backedOff (controller signal attempt : Nat) (assistantId : String) (left : attempt < 2) :
      Invoked store (.streaming controller signal attempt assistantId) .reject store (.backingOff controller attempt assistantId)
  | retried (controller signal attempt now : Nat) (assistantId : String) (current : store.abortController = some signal) :
      Invoked store (.backingOff controller attempt assistantId) (.proceed now) store
        (.streaming controller signal (attempt + 1) assistantId)
  -- In a coherent store a call that waits to retry has the current controller.
  | lost (controller attempt now : Nat) (assistantId : String) (unheld : store.abortController = none) (next : ChatStore)
      (after : Invocation) : Invoked store (.backingOff controller attempt assistantId) (.proceed now) next after
  | stopped (before : Invocation) (event : ChatEvent)
      (stops : before = .stopping ∧ store.asksServer = false ∨ before = .aborting) :
      Invoked store before event
        { store with isStreaming := false, aborted := store.abortController.toList ++ store.aborted } .ended

theorem quiet_same (store : ChatStore) (before after : Invocation) (event : ChatEvent) (idle : before.controller = none)
    (stays : after.controller = none) (harmless : ∀ others, Keeping store others before event) :
    Invoked store before event store after :=
  .quiet before after event store.currentConversationId idle stays harmless

theorem begin_invoked (store next : ChatStore) (before after : Invocation) (now : Nat)
    (begins : before = .listing ∨ (∃ question, before = .sending question) ∧ store.isStreaming = false)
    (taken : store.begin now = (next, after)) : Invoked store before (.proceed now) next after := by
  cases current : store.currentConversationId with
  | none =>
      simp only [ChatStore.begin, current, Prod.mk.injEq] at taken
      obtain ⟨rfl, rfl⟩ := taken
      rcases begins with rfl | ⟨⟨question, rfl⟩, _⟩
      · exact quiet_same store .listing .ended (.proceed now) rfl rfl fun _ some => absurd current some
      · exact quiet_same store (.sending question) .ended (.proceed now) rfl rfl fun _ => trivial
  | some conversation =>
      have made := Invoked.begun before now conversation current begins
      simp only [ChatStore.begin, current, Prod.mk.injEq] at taken
      obtain ⟨rfl, rfl⟩ := taken
      rwa [current] at made

theorem act_invoked (store next : ChatStore) (others : List Invocation) (before after : Invocation) (event : ChatEvent)
    (taken : before.act store others event = some (next, after)) : Invoked store before event next after := by
  cases before with
  | sending question =>
      cases event with
      | proceed now =>
          rw [Invocation.act] at taken
          by_cases refused : question = "" ∨ store.isStreaming = true
          · rw [if_pos refused] at taken
            cases taken
            exact quiet_same store _ _ _ rfl rfl fun _ => trivial
          · rw [if_neg refused] at taken
            by_cases fresh : store.currentConversationId = none
            · rw [if_pos fresh] at taken
              cases taken
              exact quiet_same store _ _ _ rfl rfl fun _ => trivial
            · rw [if_neg fresh] at taken
              exact begin_invoked store next _ after now (.inr ⟨⟨question, rfl⟩, by simpa using (not_or.mp refused).2⟩)
                (Option.some.inj taken)
      | _ => cases taken
  | creating =>
      cases event with
      | created conversationId =>
          cases taken
          exact .quiet _ _ _ (some conversationId) rfl rfl fun _ => trivial
      | reject =>
          cases taken
          exact quiet_same store _ _ _ rfl rfl fun _ => trivial
      | _ => cases taken
  | listing =>
      cases event with
      | proceed now => exact begin_invoked store next _ after now (.inl rfl) (Option.some.inj taken)
      | reject =>
          cases taken
          exact quiet_same store _ _ _ rfl rfl fun _ => trivial
      | _ => cases taken
  | streaming controller signal attempt assistantId =>
      cases event with
      | proceed now =>
          cases taken
          exact .finished controller signal attempt assistantId _ (.inl ⟨now, rfl⟩)
      | created conversationId => cases taken
      | reject =>
          simp only [Invocation.act, ChatStore.failed] at taken
          by_cases last : 2 ≤ attempt
          · rw [if_pos last] at taken
            cases taken
            exact .finished controller signal attempt assistantId _ (.inr (.inr ⟨rfl, last⟩))
          · rw [if_neg last] at taken
            cases taken
            exact .backedOff controller signal attempt assistantId (Nat.lt_of_not_le last)
      | abortError =>
          rw [Invocation.act] at taken
          by_cases aborted : signal ∈ store.aborted
          · rw [if_pos aborted] at taken
            cases taken
            exact .finished controller signal attempt assistantId _ (.inr (.inl rfl))
          · rw [if_neg aborted] at taken
            cases taken
      | start startedId =>
          rw [Invocation.act] at taken
          by_cases empty : startedId = ""
          · rw [if_pos empty] at taken
            cases taken
            rw [empty]
            exact .ignored controller signal attempt assistantId
          · rw [if_neg empty] at taken
            cases taken
            exact .started controller signal attempt assistantId startedId empty
  | backingOff controller attempt assistantId =>
      cases event with
      | proceed now =>
          simp only [Invocation.act, ChatStore.retry] at taken
          cases current : store.abortController with
          | none => exact .lost controller attempt now assistantId current next after
          | some signal =>
              rw [current] at taken
              cases taken
              exact .retried controller signal attempt now assistantId current
      | _ => cases taken
  | closing =>
      cases event with
      | proceed now =>
          cases taken
          exact quiet_same store _ _ _ rfl rfl fun _ => trivial
      | reject =>
          cases taken
          exact quiet_same store _ _ _ rfl rfl fun _ => trivial
      | _ => cases taken
  | stopping =>
      cases event with
      | proceed now =>
          rw [Invocation.act] at taken
          cases asks : store.asksServer with
          | true =>
              rw [asks, if_pos rfl] at taken
              cases taken
              exact quiet_same store _ _ _ rfl rfl fun _ => .inl asks
          | false =>
              rw [asks, if_neg Bool.false_ne_true] at taken
              cases taken
              exact .stopped _ _ (.inl ⟨rfl, asks⟩)
      | _ => cases taken
  | aborting =>
      cases event with
      | proceed now =>
          cases taken
          exact .stopped _ _ (.inr rfl)
      | reject =>
          cases taken
          exact .stopped _ _ (.inr rfl)
      | _ => cases taken
  | ended => cases event <;> cases taken

theorem inactive_of_none (store : ChatStore) (invocation : Invocation) (unheld : invocation.controller = none) :
    invocation.active store = false := by
  cases invocation <;> first | rfl | cases unheld

theorem backing_off_waits (store : ChatStore) (front back : List Invocation) (before after : Invocation) (aborted : List Nat)
    (waiting : ∀ controller attempt assistantId, .backingOff controller attempt assistantId ∈ front ++ before :: back →
      controller ∉ store.aborted)
    (same : ∀ controller attempt assistantId, .backingOff controller attempt assistantId ∈ front ++ back →
      controller ∉ store.aborted → controller ∉ aborted)
    (own : ∀ controller attempt assistantId, after = .backingOff controller attempt assistantId → controller ∉ aborted) :
    ∀ controller attempt assistantId, .backingOff controller attempt assistantId ∈ front ++ after :: back →
      controller ∉ aborted := by
  intro controller attempt assistantId member
  rcases mem_moved front back after _ member with here | old
  · exact own controller attempt assistantId here.symm
  · exact same controller attempt assistantId old (waiting controller attempt assistantId (mem_others front back before _ old))

section Moves

variable {store : ChatStore} {front back : List Invocation}

theorem alone_moved (next : ChatStore) (after : Invocation) (idle : after.active next = false)
    (alone : Alone next (front ++ back)) :
    Alone next (front ++ after :: back) := by
  intro other member
  rcases mem_moved front back after other member with rfl | old
  · exact idle
  · exact alone other old

theorem quiet_coherent {before : Invocation} (coherent : Coherent ⟨store, front ++ before :: back⟩) (after : Invocation)
    (conversation : Option String) (idle : before.controller = none) (quiet : after.controller = none) :
    Coherent ⟨{ store with currentConversationId := conversation }, front ++ after :: back⟩ := by
  obtain ⟨single, drawn, held, issued, waiting⟩ := coherent
  refine ⟨?_, drawn_kept drawn (quiet.trans idle.symm), held, issued, ?_⟩
  · exact single_quiet store _ front back before after single (inactive_of_none store before idle)
      (inactive_of_none _ after quiet) rfl rfl rfl rfl
  · apply backing_off_waits store front back before after store.aborted waiting fun _ _ _ _ old => old
    rintro controller attempt assistantId rfl
    cases quiet

theorem begun_coherent {before : Invocation} (coherent : Coherent ⟨store, front ++ before :: back⟩) (assistantId : String)
    (bare : before.controller = none) (alone : Alone store (front ++ back)) :
    Coherent ⟨{ store with
        isStreaming := true
        abortController := some store.controllers
        activeAssistantId := some ⟨store.controllers, assistantId⟩
        controllers := store.controllers + 1 },
      front ++ .streaming store.controllers store.controllers 0 assistantId :: back⟩ := by
  obtain ⟨single, drawn, held, issued, waiting⟩ := coherent
  have fresh : store.controllers ∉ store.aborted := fun old => Nat.lt_irrefl _ (issued _ old)
  refine ⟨single_sole _ front back _ alone rfl ?_ ⟨rfl, rfl, rfl⟩, drawn_new drawn bare rfl, ?_, ?_, ?_⟩
  · simpa [Invocation.active] using fresh
  · rintro _ ⟨⟩
    exact Nat.lt_succ_self _
  · exact fun controller old => Nat.lt_succ_of_lt (issued controller old)
  · exact backing_off_waits store front back before _ store.aborted waiting (fun _ _ _ _ old => old) (by simp)

theorem started_coherent {controller signal attempt : Nat} {assistantId : String}
    (coherent : Coherent ⟨store, front ++ .streaming controller signal attempt assistantId :: back⟩) (startedId : String)
    (alone : Alone store (front ++ back)) :
    Coherent ⟨{ store with activeAssistantId := some ⟨controller, startedId⟩ },
      front ++ .streaming controller signal attempt startedId :: back⟩ := by
  obtain ⟨single, drawn, held, issued, waiting⟩ := coherent
  refine ⟨?_, drawn_kept drawn rfl, held, issued,
    backing_off_waits store front back _ _ store.aborted waiting (fun _ _ _ _ old => old) (by simp)⟩
  cases live : Invocation.active store (.streaming controller signal attempt assistantId) with
  | true =>
      obtain ⟨_, streams, control, own, _⟩ := single_active store front back _ single live
      exact single_sole _ front back _ alone streams live ⟨control, own, rfl⟩
  | false =>
      have off : store.isStreaming = false := by
        rw [single.flag, any_split, live, Bool.false_or]
        exact List.any_eq_false.mpr fun other member => by simp [alone other member]
      exact single_idle _ _ (alone_moved _ _ live alone) off

theorem finished_coherent {controller signal attempt : Nat} {assistantId : String}
    (coherent : Coherent ⟨store, front ++ .streaming controller signal attempt assistantId :: back⟩)
    (alone : Alone store (front ++ back)) :
    Coherent ⟨{ store with isStreaming := false, abortController := none, activeAssistantId := none },
      front ++ .closing :: back⟩ := by
  obtain ⟨single, drawn, held, issued, waiting⟩ := coherent
  exact ⟨single_idle _ _ (alone_moved _ _ rfl alone) rfl, drawn_released drawn rfl, by simp, issued,
    backing_off_waits store front back _ _ store.aborted waiting (fun _ _ _ _ old => old) (by simp)⟩

theorem backed_off_coherent {controller signal attempt : Nat} {assistantId : String}
    (coherent : Coherent ⟨store, front ++ .streaming controller signal attempt assistantId :: back⟩)
    (going : signal ∉ store.aborted) : Coherent ⟨store, front ++ .backingOff controller attempt assistantId :: back⟩ := by
  obtain ⟨single, drawn, held, issued, waiting⟩ := coherent
  have live : Invocation.active store (.streaming controller signal attempt assistantId) = true := by
    simpa [Invocation.active] using going
  obtain ⟨alone, streams, control, own, message⟩ := single_active store front back _ single live
  refine ⟨single_sole _ front back _ alone streams rfl ⟨control, message⟩, drawn_kept drawn rfl, held, issued, ?_⟩
  apply backing_off_waits store front back _ _ store.aborted waiting fun _ _ _ _ old => old
  rintro _ _ _ ⟨⟩
  rwa [← own]

theorem retried_coherent {controller signal attempt : Nat} {assistantId : String}
    (coherent : Coherent ⟨store, front ++ .backingOff controller attempt assistantId :: back⟩)
    (current : store.abortController = some signal) :
    Coherent ⟨store, front ++ .streaming controller signal (attempt + 1) assistantId :: back⟩ := by
  obtain ⟨single, drawn, held, issued, waiting⟩ := coherent
  have here := waiting controller attempt assistantId (by simp)
  obtain ⟨alone, streams, control, message⟩ := single_active store front back _ single rfl
  obtain rfl : signal = controller := Option.some.inj (current.symm.trans control)
  have live : Invocation.active store (.streaming signal signal (attempt + 1) assistantId) = true := by
    simpa [Invocation.active] using here
  exact ⟨single_sole _ front back _ alone streams live ⟨control, rfl, message⟩, drawn_kept drawn rfl, held, issued,
    backing_off_waits store front back _ _ store.aborted waiting (fun _ _ _ _ old => old) (by simp)⟩

theorem aborted_alone {others : List Invocation} (calm : ∀ other ∈ others, other.isBackingOff = false)
    (belongs : ∀ other ∈ others, other.active store = true → other.Belongs store) :
    Alone { store with isStreaming := false, aborted := store.abortController.toList ++ store.aborted } others := by
  intro other member
  cases other with
  | streaming controller signal attempt assistantId =>
      by_cases aborted : signal ∈ store.aborted
      · simp [Invocation.active, aborted]
      · have live : Invocation.active store (.streaming controller signal attempt assistantId) = true := by
          simpa [Invocation.active] using aborted
        obtain ⟨control, own, _⟩ := belongs _ member live
        have inside : signal ∈ store.abortController.toList ++ store.aborted := by
          rw [control, own]
          exact List.mem_append_left _ (List.mem_singleton.mpr rfl)
        exact decide_eq_false (not_not_intro inside)
  | backingOff controller attempt assistantId => exact absurd (calm _ member) (by simp [Invocation.isBackingOff])
  | _ => rfl

theorem stopped_coherent {before : Invocation} (coherent : Coherent ⟨store, front ++ before :: back⟩)
    (bare : before.controller = none) (calm : ∀ other ∈ front ++ back, other.isBackingOff = false) :
    Coherent ⟨{ store with isStreaming := false, aborted := store.abortController.toList ++ store.aborted },
      front ++ .ended :: back⟩ := by
  obtain ⟨single, drawn, held, issued, waiting⟩ := coherent
  have belongs := fun other (member : other ∈ front ++ back) => single.belongs other (mem_others front back before other member)
  refine ⟨single_idle _ _ (alone_moved _ _ rfl (aborted_alone calm belongs)) rfl, drawn_kept drawn bare.symm, held, ?_, ?_⟩
  · intro controller member
    rcases List.mem_append.mp member with own | old
    · exact held controller (by simpa using own)
    · exact issued controller old
  · apply backing_off_waits store front back before .ended _ waiting
    · intro controller attempt assistantId old
      exact absurd (calm _ old) (by simp [Invocation.isBackingOff])
    · simp

end Moves

theorem invoked_coherent (store next : ChatStore) (front back : List Invocation) (before after : Invocation) (event : ChatEvent)
    (coherent : Coherent ⟨store, front ++ before :: back⟩) (taken : Invoked store before event next after)
    (keeping : Keeping store (front ++ back) before event) : Coherent ⟨next, front ++ after :: back⟩ := by
  cases taken with
  | quiet before after event conversation idle quiet harmless => exact quiet_coherent coherent after conversation idle quiet
  | begun before now conversation current begins =>
      have bare : before.controller = none := by rcases begins with rfl | ⟨⟨question, rfl⟩, _⟩ <;> rfl
      apply begun_coherent coherent _ bare
      rcases begins with rfl | ⟨_, off⟩
      · exact keeping (by rw [current]; simp)
      · exact fun other member => single_off store _ coherent.single off other (mem_others front back before other member)
  | ignored controller signal attempt assistantId => exact coherent
  | started controller signal attempt assistantId startedId some => exact started_coherent coherent startedId (keeping some)
  | finished controller signal attempt assistantId event ends =>
      apply finished_coherent coherent
      rcases ends with ⟨now, rfl⟩ | rfl | ⟨rfl, last⟩
      · exact keeping
      · exact keeping
      · rwa [Keeping, if_neg (Nat.not_lt.mpr last)] at keeping
  | backedOff controller signal attempt assistantId left =>
      rw [Keeping, if_pos left] at keeping
      exact backed_off_coherent coherent keeping
  | retried controller signal attempt now assistantId current => exact retried_coherent coherent current
  | lost controller attempt now assistantId none =>
      obtain ⟨_, _, control, _⟩ := single_active store front back _ coherent.single rfl
      rw [none] at control
      cases control
  | stopped before event stops =>
      have bare : before.controller = none := by rcases stops with ⟨rfl, _⟩ | rfl <;> rfl
      apply stopped_coherent coherent bare
      rcases stops with ⟨rfl, asks⟩ | rfl
      · rcases (show store.asksServer = true ∨ _ from keeping) with asked | calm
        · rw [asks] at asked
          cases asked
        · exact calm
      · exact keeping

theorem not_alone (store : ChatStore) (others : List Invocation) (company : ¬ Alone store others) :
    ∃ other ∈ others, other.active store = true := by
  simpa [Alone] using company

theorem invoked_breaks (store next : ChatStore) (front back : List Invocation) (before after : Invocation) (event : ChatEvent)
    (coherent : Coherent ⟨store, front ++ before :: back⟩) (taken : Invoked store before event next after)
    (spoils : ¬ Keeping store (front ++ back) before event) : ¬ Single ⟨next, front ++ after :: back⟩ := by
  intro single
  have old := coherent.single
  cases taken with
  | quiet before after event conversation idle quiet harmless => exact spoils (harmless _)
  | begun before now conversation current begins =>
      rcases begins with rfl | ⟨⟨question, rfl⟩, _⟩
      · have company : ¬ Alone store (front ++ back) := fun alone => spoils fun _ => alone
        have fresh : store.controllers ∉ store.aborted := fun aborted => Nat.lt_irrefl _ (coherent.issued _ aborted)
        exact company (single_active _ front back _ single (by simpa [Invocation.active] using fresh)).1
      · exact spoils trivial
  | ignored controller signal attempt assistantId => exact spoils fun some => absurd rfl some
  | started controller signal attempt assistantId startedId some =>
      obtain ⟨other, member, live⟩ := not_alone store _ fun alone => spoils fun _ => alone
      have belongs := single.belongs other (mem_others front back _ other member) live
      have apart := drawn_distinct controller other coherent.drawn rfl member
      cases other with
      | streaming held otherSignal otherAttempt otherId =>
          obtain ⟨_, _, message⟩ := belongs
          cases message
          exact apart rfl
      | backingOff held otherAttempt otherId =>
          obtain ⟨_, message⟩ := belongs
          cases message
          exact apart rfl
      | _ => cases live
  | finished controller signal attempt assistantId event ends =>
      have company : ¬ Alone store (front ++ back) := by
        intro alone
        apply spoils
        rcases ends with ⟨now, rfl⟩ | rfl | ⟨rfl, last⟩
        · exact alone
        · exact alone
        · rwa [Keeping, if_neg (Nat.not_lt.mpr last)]
      obtain ⟨other, member, live⟩ := not_alone store _ company
      have off := single_off _ _ single rfl other (mem_others front back _ other member)
      exact Bool.false_ne_true (off.symm.trans live)
  | backedOff controller signal attempt assistantId left =>
      rw [Keeping, if_pos left, not_not] at spoils
      obtain ⟨alone, streams, _⟩ := single_active store front back _ single rfl
      have idle : Invocation.active store (.streaming controller signal attempt assistantId) = false :=
        decide_eq_false (not_not_intro spoils)
      have flag := old.flag
      dsimp only at flag
      rw [streams, any_split, idle, Bool.false_or] at flag
      obtain ⟨other, member, live⟩ := List.any_eq_true.mp flag.symm
      exact Bool.false_ne_true ((alone other member).symm.trans live)
  | retried controller signal attempt now assistantId current => exact spoils trivial
  | lost controller attempt now assistantId none => exact spoils trivial
  | stopped before event stops =>
      have storm : ¬ ∀ other ∈ front ++ back, other.isBackingOff = false := by
        intro calm
        apply spoils
        rcases stops with ⟨rfl, _⟩ | rfl
        · exact .inr calm
        · exact calm
      simp only [not_forall, Bool.not_eq_false] at storm
      obtain ⟨other, member, waits⟩ := storm
      have off := single_off _ _ single rfl other (mem_others front back _ other member)
      cases other with
      | backingOff controller attempt assistantId => cases off
      | _ => cases waits

theorem entered_coherent (store : ChatStore) (parties : List Invocation) (call : ChatCall)
    (coherent : Coherent ⟨store, parties⟩) : Coherent ⟨store, parties ++ [call.invocation]⟩ := by
  obtain ⟨⟨most, flag, belongs⟩, drawn, held, issued, waiting⟩ := coherent
  dsimp only at most flag belongs
  have bare : call.invocation.controller = none := by cases call <;> rfl
  have idle := inactive_of_none store call.invocation bare
  refine ⟨⟨?_, ?_, ?_⟩, drawn_entered _ _ drawn bare, held, issued, ?_⟩
  · simpa [Exclusive, List.countP_append, idle] using most
  · simpa [List.any_append, idle] using flag
  · intro one member live
    rcases List.mem_append.mp member with old | new
    · exact belongs one old live
    · rw [List.mem_singleton.mp new, idle] at live
      cases live
  · intro controller attempt assistantId member
    rcases List.mem_append.mp member with old | new
    · exact waiting controller attempt assistantId old
    · rw [← List.mem_singleton.mp new] at bare
      cases bare

theorem step_coherent (world next : ChatWorld) (label : ChatLabel) (coherent : Coherent world) (orderly : Orderly world label)
    (taken : world.step label = some next) : Coherent next := by
  rcases world_step_cases world next label taken with
    ⟨call, _, rfl⟩ | ⟨front, before, back, event, store, after, rfl, parties, acted, rfl⟩
  · exact entered_coherent world.shared world.parties call coherent
  · obtain ⟨shared, invocations⟩ := world
    dsimp only at parties
    subst parties
    have keeping := orderly front.length event before rfl (by simp)
    rw [erase_acting] at keeping
    exact invoked_coherent shared store front back before after event coherent (act_invoked _ _ _ _ _ _ acted) keeping

theorem step_breaks (world next : ChatWorld) (label : ChatLabel) (coherent : Coherent world) (spoils : ¬ Orderly world label)
    (taken : world.step label = some next) : ¬ Single next := by
  simp only [Orderly, not_forall] at spoils
  obtain ⟨index, event, invocation, rfl, found, breaks⟩ := spoils
  rcases world_step_cases world next _ taken with
    ⟨_, other, _⟩ | ⟨front, before, back, event, store, after, same, parties, acted, rfl⟩
  · cases other
  · cases same
    obtain ⟨shared, invocations⟩ := world
    dsimp only at parties found breaks
    subst parties
    obtain rfl : before = invocation := by simpa using found
    rw [erase_acting] at breaks
    exact invoked_breaks shared store front back before after event coherent (act_invoked _ _ _ _ _ _ acted) breaks

def opened (conversation : Option String) : ChatWorld := ⟨{ currentConversationId := conversation }, []⟩

theorem opened_coherent (conversation : Option String) : Coherent (opened conversation) where
  single := single_idle _ _ (by simp [Alone]) rfl
  drawn := ⟨List.nodup_nil, by simp [opened]⟩
  held := by simp [opened]
  issued := by simp [opened]
  waiting := by simp [opened]

theorem single_stream_iff (conversation : Option String) (labels : List ChatLabel) (finish : ChatWorld)
    (run : runFrom ChatWorld.step (opened conversation) labels = some finish) :
    StepsMeet ChatWorld.step Orderly (opened conversation) labels ↔
      ∀ front middle, front <+: labels → runFrom ChatWorld.step (opened conversation) front = some middle → Single middle :=
  states_good_iff Orderly Coherent Single (fun _ coherent => coherent.single)
    (fun world label next coherent orderly taken => step_coherent world next label coherent orderly taken)
    (fun world label next coherent spoils taken => step_breaks world next label coherent spoils taken)
    _ finish labels (opened_coherent conversation) run

-- Two questions sent before there is a conversation: both wait for one, and then both stream.
def sentTwice : List ChatLabel := [.call (.sendMessage "a"), .call (.sendMessage "b"), .act 0 (.proceed 1), .act 1 (.proceed 1),
  .act 0 (.created "c"), .act 0 (.proceed 2), .act 1 (.created "d"), .act 1 (.proceed 3)]

theorem two_sends_stream : ¬ ∀ (conversation : Option String) (labels : List ChatLabel) (finish : ChatWorld),
    runFrom ChatWorld.step (opened conversation) labels = some finish → Single finish := by
  intro claimed
  have counted : (runFrom ChatWorld.step (opened none) sentTwice).map
      (fun world => world.parties.countP (Invocation.active world.shared)) = some 2 := by decide
  obtain ⟨finish, run, two⟩ := Option.map_eq_some_iff.mp counted
  have most := (claimed none sentTwice finish run).most
  rw [Exclusive, two] at most
  exact absurd most (by decide)

def stopped : List ChatLabel := [.call (.sendMessage "a"), .act 0 (.proceed 1), .act 0 (.start "m"), .call .stopStreaming,
  .act 1 (.proceed 2), .act 1 (.proceed 3), .act 0 .abortError]

theorem single_stream_sample : StepsMeet ChatWorld.step Orderly (opened (some "c")) stopped ↔
    ∀ front middle, front <+: stopped → runFrom ChatWorld.step (opened (some "c")) front = some middle → Single middle :=
  single_stream_iff (some "c") stopped _ rfl

end DataPilot.Frontend
