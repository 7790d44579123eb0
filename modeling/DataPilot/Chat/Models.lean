import DataPilot.Agent.Loop

set_option autoImplicit false

namespace DataPilot.Chat

open DataPilot.Base DataPilot.Agent

-- A uuid4 value: all that matters is which are equal and that new ones are new.
abbrev Uuid := Nat

inductive MessageRole where
  | system
  | user
  | assistant
  | tool
deriving DecidableEq

inductive MessageStatus where
  | streaming
  | completed
  | aborted
  | error
deriving DecidableEq

def MessageStatus.text : MessageStatus → String
  | .streaming => "streaming"
  | .completed => "completed"
  | .aborted => "aborted"
  | .error => "error"

structure Message where
  id : Uuid
  sequence : Nat
  role : MessageRole
  content : Option String
  status : MessageStatus
  requestId : Option Uuid := none
  traceId : Option Uuid := none
  steps : List AgentStep := []

-- A conversation row with the rows of its messages, in the order of their
-- sequence numbers; the next number is above them all.
structure Conversation where
  id : Uuid
  workspaceId : Uuid
  title : String
  nextSequence : Nat := 1
  archivedAt : Option Nat := none
  updatedAt : Nat
  messages : List Message := []
  sequenced : (messages.map Message.sequence ++ [nextSequence]).Pairwise (· < ·) := by simp

inductive RuntimeEventType where
  | step
  | text
  | textReset
  | done
  | error
deriving DecidableEq

structure RuntimeEvent where
  type : RuntimeEventType
  step : Option AgentStep := none
  text : Option String := none
  message : Option String := none
  data : Dict := []

inductive BrokerEvent where
  | start (conversationId assistantMessageId requestId traceId : Uuid)
  | runtime (event : RuntimeEvent)
  | aborted (assistantMessageId : Uuid)
  | error (assistantMessageId : Uuid) (message : String) (status : Option String) (persisted : Option Bool)
  | done (conversationId assistantMessageId : Uuid) (persisted : Bool)

def RuntimeEventType.value : RuntimeEventType → String
  | .step => "step"
  | .text => "text"
  | .textReset => "text_reset"
  | .done => "done"
  | .error => "error"

def BrokerEvent.name : BrokerEvent → String
  | .start _ _ _ _ => "start"
  | .runtime event => event.type.value
  | .aborted _ => "aborted"
  | .error _ _ _ _ => "error"
  | .done _ _ _ => "done"

-- The status that a terminal event announces.
def BrokerEvent.announces : BrokerEvent → Option MessageStatus
  | .runtime event => if event.type = .error then some .error else none
  | .aborted _ => some .aborted
  | .error _ _ _ _ => some .error
  | .done _ _ _ => some .completed
  | .start _ _ _ _ => none

end DataPilot.Chat
