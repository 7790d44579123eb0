import Mathlib.Order.Monotone.Basic
import DataPilot.Chat.AssistantView
import DataPilot.Chat.Delivery
import DataPilot.Chat.Store

set_option autoImplicit false

namespace DataPilot.Chat

open DataPilot.Base DataPilot.Agent

-- A broker that retains the events of a message, with the ids it gives them. The
-- ids of a snapshot are none of them.
structure RetainingBroker (κ : Type) [LinearOrder κ] where
  ids : EventIds κ
  zero : κ
  key : Nat → κ
  origin : ids.parse "0-0" = some zero
  foreign : ∀ text, ids.parse ("snapshot-" ++ text) = none
  positive : zero < key 0
  increasing : StrictMono key

theorem in_memory_origin : inMemoryIds.parse "0-0" = some 0 := by decide +kernel

theorem snapshot_unread : intText (String.ofList ['s', 'n', 'a', 'p', 's', 'h', 'o', 't']) = none := by decide +kernel

theorem in_memory_foreign (text : String) : inMemoryIds.parse ("snapshot-" ++ text) = none := by
  have given : "snapshot-" ++ text ≠ "" := by simp [← String.toList_inj]
  have letters : "snapshot-".toList = ['s', 'n', 'a', 'p', 's', 'h', 'o', 't', '-'] := by decide +kernel
  have first : ("snapshot-" ++ text).toList.takeWhile (· ≠ '-') = ['s', 'n', 'a', 'p', 's', 'h', 'o', 't'] := by
    simp [String.toList_append, letters]
  have read : inMemoryIds.parse = lastSequence := rfl
  rw [read, lastSequence, if_neg given, first, snapshot_unread]
  rfl

-- The in-memory broker; the events of other messages come between these.
def inMemoryRetaining (key : Nat → Nat) (positive : 0 < key 0) (increasing : StrictMono key) : RetainingBroker Nat where
  ids := inMemoryIds
  zero := 0
  key
  origin := in_memory_origin
  foreign := in_memory_foreign
  positive
  increasing

variable {κ : Type}

-- The connection of sendMessage: the request's handler before and after its
-- lookup and before its rewrite, the stream with what its first read has found,
-- the time before the next attempt, and the end of the loop.
inductive Connection (κ : Type) where
  | asked
  | found (message : Message)
  | recovering (message : Message)
  | streaming (stream : EventStream κ) (opened : Option (List (κ × BrokerEvent)))
  | lost
  | closed

-- One message: its worker, the events in the broker, its row, and the client
-- with what is on its way to it and what it has handled.
structure MessageExchange (κ : Type) where
  worker : WorkerState
  events : List BrokerEvent := []
  row : Message
  shielded : List Completion := []
  connection : Connection κ
  inFlight : List SseFrame := []
  handled : List (String × ServerEvent) := []
  attempt : Nat := 0

-- A step of the worker, a shielded call after it, the stages of a request's
-- handler, the first read of its stream, a step of the stream, a frame that
-- arrives, a drop, the next attempt, and the end of the response.
inductive ExchangeLabel where
  | work (input : WorkerInput)
  | shield
  | find
  | proceed
  | recover
  | look
  | advance
  | deliver
  | drop
  | retry
  | close

def MessageExchange.running (exchange : MessageExchange κ) : Bool := !exchange.worker.point.isFinished

def MessageExchange.view (exchange : MessageExchange κ) : AssistantView :=
  ({} : AssistantView).handleAll (exchange.handled.map Prod.snd)

def MessageExchange.lastEventId (exchange : MessageExchange κ) : String := (exchange.handled.map Prod.fst).getLastD "0-0"

def Effect.write (row : Message) : Effect → Message
  | .persist content status steps => row.complete { content := some content, status, steps }
  | _ => row

def Effect.later : Effect → Option Completion
  | .persistLater content status steps => some { content := some content, status, steps }
  | _ => none

-- Three attempts in all.
def lastAttempt : Nat := 2

def MessageExchange.open (exchange : MessageExchange κ) (message : Message) : MessageExchange κ :=
  { exchange with connection := .streaming {
      conversationId := exchange.worker.arguments.conversationId
      message
      cursor := exchange.lastEventId } none }

variable [LinearOrder κ] (broker : RetainingBroker κ)

def RetainingBroker.log (events : List BrokerEvent) : List (κ × BrokerEvent) :=
  events.mapIdx fun index event => (broker.key index, event)

def MessageExchange.step (exchange : MessageExchange κ) : ExchangeLabel → Option (MessageExchange κ)
  | .work input =>
      (workerStep exchange.worker input).map fun next =>
        { exchange with
          worker := next.1
          events := exchange.events ++ published next.2
          row := next.2.foldl Effect.write exchange.row
          shielded := exchange.shielded ++ next.2.filterMap Effect.later }
  | .shield =>
      match exchange.shielded with
      | [] => none
      | completion :: rest => some { exchange with row := exchange.row.complete completion, shielded := rest }
  | .find =>
      match exchange.connection with
      | .asked => some { exchange with connection := .found exchange.row }
      | _ => none
  | .proceed =>
      match exchange.connection with
      | .found message =>
          if message.status = .streaming ∧ exchange.running = false then
            some { exchange with connection := .recovering message }
          else some (exchange.open message)
      | _ => none
  | .recover =>
      match exchange.connection with
      | .recovering message =>
          let row := exchange.row.complete { content := message.content, status := .error, steps := message.steps }
          some ({ exchange with row }.open row)
      | _ => none
  | .look =>
      match exchange.connection with
      | .streaming stream none =>
          if stream.point.isOpening then
            some { exchange with connection := .streaming stream (some (broker.log exchange.events)) }
          else none
      | _ => none
  | .advance =>
      match exchange.connection with
      | .streaming stream opened =>
          if stream.point.isOpening ∧ opened = none then none
          else
            let next := stream.step broker.ids ⟨opened.getD (broker.log exchange.events), exchange.running, true⟩
            some { exchange with connection := .streaming next.1 none, inFlight := exchange.inFlight ++ next.2 }
      | _ => none
  | .deliver =>
      match exchange.inFlight with
      | [] => none
      | frame :: rest => some { exchange with inFlight := rest, handled := exchange.handled ++ frame.received.toList }
  | .drop =>
      match exchange.connection with
      | .streaming _ _ => some { exchange with connection := .lost, inFlight := [] }
      | _ => none
  | .retry =>
      match exchange.connection with
      | .lost =>
          if exchange.attempt < lastAttempt then
            some { exchange with connection := .asked, attempt := exchange.attempt + 1 }
          else none
      | _ => none
  | .close =>
      match exchange.connection, exchange.inFlight with
      | .streaming { point := .returned, .. } _, [] => some { exchange with connection := .closed }
      | _, _ => none

-- The row that stream_message appends, and the exchange once its worker is started.
def assistantRow (arguments : WorkerArguments) (sequence : Nat) : Message where
  id := arguments.assistantMessageId
  sequence
  role := .assistant
  content := some ""
  status := .streaming
  requestId := some arguments.requestId
  traceId := some arguments.traceId

def MessageExchange.fresh (arguments : WorkerArguments) (sequence : Nat) : MessageExchange κ where
  worker := { arguments }
  row := assistantRow arguments sequence
  connection := .streaming {
    conversationId := arguments.conversationId
    message := assistantRow arguments sequence
    cursor := "0-0" } none

-- A snapshot of a settled message goes to a client that has collected nothing, a
-- rewrite leaves content and steps as they are, and so does the worker's call
-- when it fails.
def MessageExchange.Careful (exchange : MessageExchange κ) : ExchangeLabel → Prop
  | .work (.fails _ false) =>
      exchange.worker.point = .persist → exchange.worker.accumulatedText = "" ∧ exchange.worker.steps = []
  | .recover => ∀ message, exchange.connection = .recovering message →
      message.content.getD "" = exchange.row.content.getD "" ∧ message.steps = exchange.row.steps
  | .advance => ∀ stream found, exchange.connection = .streaming stream (some found) →
      brokerRead broker.ids found stream.cursor = some [] → exchange.running = false →
        stream.message.status ≠ .streaming → exchange.view.content = "" ∧ exchange.view.steps = []
  | _ => True

end DataPilot.Chat
