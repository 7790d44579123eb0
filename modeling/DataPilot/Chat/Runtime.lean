import DataPilot.Chat.Worker

set_option autoImplicit false

namespace DataPilot.Chat

open DataPilot.Base DataPilot.Agent

-- What an iteration over ChatRuntime.stream yields, and how it ends.
structure RuntimeRun where
  events : List RuntimeEvent
  outcome : Except PyException Unit

def stopMessage (result : AgentRunResult) : String :=
  orElseText (result.terminationReason.getD "")
    (orElseText (result.output.getD "") s!"Agent stopped with status: {result.status.text}")

def doneData (result : AgentRunResult) : Dict :=
  [("status", .str result.status.text), ("termination_reason", match result.terminationReason with
    | none => .null
    | some reason => .str reason)]

-- The branches of AgentChatRuntime.stream.
def runtimeEvent : AgentStreamEvent → Option RuntimeEvent
  | .textDelta text => if text = "" then none else some { type := .text, text := some text }
  | .textReset => some { type := .textReset }
  | .step step => some { type := .step, step := some step }
  | .completed result =>
      if result.status = .completed then some { type := .done, data := doneData result }
      else some { type := .error, message := some (stopMessage result) }

def emittedEvent : Action → Option AgentStreamEvent
  | .emit event => some event
  | _ => none

def emitted (actions : List Action) : List AgentStreamEvent := actions.filterMap emittedEvent

-- AgentChatRuntime.stream. The text of the system prompt plays no part.
def runtimeStream (host : Host) (agent : Agent) (systemPrompt question : String) (history : List ChatMessage) :
    RuntimeRun :=
  let run := stream host agent question (some systemPrompt) history
  ⟨(emitted run.actions).filterMap runtimeEvent, run.outcome⟩

-- A worker over its runtime: the events still to come and the effects so far.
structure ChatRun where
  state : WorkerState
  runtime : RuntimeRun
  effects : List Effect := []

-- How the await at which the worker stands ends when nobody cancels it and its
-- calls succeed, and what the runtime then still holds.
def ChatRun.input (chat : ChatRun) : WorkerInput × List RuntimeEvent :=
  match chat.state.point, chat.runtime.events, chat.runtime.outcome with
  | .unstarted, events, _ => (.begin, events)
  | .nextEvent, event :: rest, _ => (.event event, rest)
  | .nextEvent, [], .ok () => (.ended, [])
  | .nextEvent, [], .error failure => (.raised failure, [])
  | _, events, _ => (.completes, events)

def ChatRun.advance (chat : ChatRun) : ChatRun :=
  match workerStep chat.state chat.input.1 with
  | none => chat
  | some (state, effects) =>
      ⟨state, { chat.runtime with events := chat.input.2 }, chat.effects ++ effects⟩

def uninterrupted (steps : Nat) (chat : ChatRun) : ChatRun := ChatRun.advance^[steps] chat

def Effect.published : Effect → Option BrokerEvent
  | .publish event => some event
  | _ => none

def Effect.stored : Effect → Option (String × MessageStatus)
  | .persist content status _ => some (content, status)
  | .persistLater content status _ => some (content, status)
  | .publish _ => none

def published (effects : List Effect) : List BrokerEvent := effects.filterMap Effect.published

def persistedContent (effects : List Effect) : Option String := (effects.filterMap Effect.stored).getLast?.map Prod.fst

end DataPilot.Chat
