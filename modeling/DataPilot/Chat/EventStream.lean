import DataPilot.Chat.Broker

set_option autoImplicit false

namespace DataPilot.Chat

open DataPilot.Base DataPilot.Agent

-- What the stream of a message sends: an event of the broker or of a snapshot.
inductive ServerEvent where
  | broker (event : BrokerEvent)
  | snapshotStart (conversationId assistantMessageId : Uuid)
  | snapshotStep (step : AgentStep)
  | snapshotText (text : String)
  | snapshotTerminal (terminal : String) (assistantMessageId : Uuid)

def ServerEvent.name : ServerEvent → String
  | .broker event => event.name
  | .snapshotStart _ _ => "start"
  | .snapshotStep _ => "step"
  | .snapshotText _ => "text"
  | .snapshotTerminal terminal _ => terminal

def terminalNames : List String := ["done", "error", "aborted"]

inductive SseFrame where
  | ping
  | event (id : String) (event : ServerEvent)

def SseFrame.isTerminal : SseFrame → Bool
  | .ping => false
  | .event _ sent => decide (sent.name ∈ terminalNames)

def snapshotTerminalName (status : MessageStatus) : String := if status = .completed then "done" else status.text

-- _snapshot_stream
def snapshotFrames (conversationId : Uuid) (message : Message) : List SseFrame :=
  let content := message.content.getD ""
  let terminal := snapshotTerminalName message.status
  .event "snapshot-start" (.snapshotStart conversationId message.id) ::
    message.steps.map (fun step => .event s!"snapshot-step-{step.step}" (.snapshotStep step)) ++
    (if content = "" then [] else [.event "snapshot-text" (.snapshotText content)]) ++
    [.event s!"snapshot-{terminal}" (.snapshotTerminal terminal message.id)]

variable {κ : Type}

-- Where event_stream is: at an await or a yield, or at its end.
inductive StreamPoint (κ : Type) where
  | opening
  | checking (buffered : List (κ × BrokerEvent))
  | reading
  | sending (events : List (κ × BrokerEvent))
  | snapshot (frames : List SseFrame)
  | returned
  | raised

-- event_stream with the variables it closes over; cursor is last_event_id at first.
structure EventStream (κ : Type) where
  conversationId : Uuid
  message : Message
  cursor : String
  point : StreamPoint κ := .opening

-- What a step of the stream finds: the events of the message that the broker
-- holds, whether its task is running and whether the client is connected.
structure Surroundings (κ : Type) where
  log : List (κ × BrokerEvent)
  running : Bool
  connected : Bool

def pageSize : Nat := 100

variable [LinearOrder κ] (ids : EventIds κ)

-- broker.read; none stands for the exception of a cursor that is no id.
def brokerRead (log : List (κ × BrokerEvent)) (lastEventId : String) : Option (List (κ × BrokerEvent)) :=
  (ids.parse lastEventId).map fun cursor => page log cursor pageSize

def EventStream.at (stream : EventStream κ) (point : StreamPoint κ) : EventStream κ := { stream with point }

def EventStream.step (stream : EventStream κ) (here : Surroundings κ) : EventStream κ × List SseFrame :=
  match stream.point with
  | .opening =>
      match brokerRead ids here.log stream.cursor with
      | none => (stream.at .raised, [])
      | some events =>
          if events = [] ∧ here.running = false then
            (stream.at (.snapshot (snapshotFrames stream.conversationId stream.message)), [])
          else (stream.at (.checking events), [])
  | .checking buffered =>
      if here.connected = false then (stream.at .returned, [])
      else if buffered = [] then (stream.at .reading, [])
      else (stream.at (.sending buffered), [])
  | .reading =>
      match brokerRead ids here.log stream.cursor with
      | none => (stream.at .raised, [])
      | some [] => (stream.at (.checking []), [.ping])
      | some events => (stream.at (.sending events), [])
  | .sending [] => (stream.at (.checking []), [])
  | .sending ((key, event) :: rest) =>
      let frame := SseFrame.event (ids.render key) (.broker event)
      ({ stream with
        cursor := ids.render key
        point := if frame.isTerminal then .returned else .sending rest }, [frame])
  | .snapshot [] => (stream.at .returned, [])
  | .snapshot (frame :: rest) => (stream.at (.snapshot rest), [frame])
  | .returned => (stream, [])
  | .raised => (stream, [])

theorem in_memory_read (broker : InMemoryEventBroker) (messageId : Uuid) (lastEventId : String) :
    broker.read messageId lastEventId pageSize = brokerRead inMemoryIds (broker.events messageId) lastEventId := rfl

theorem settled_terminal (status : MessageStatus) (settled : status ≠ .streaming) :
    snapshotTerminalName status ∈ terminalNames := by
  cases status with
  | streaming => exact absurd rfl settled
  | completed => decide
  | aborted => decide
  | error => decide

end DataPilot.Chat
