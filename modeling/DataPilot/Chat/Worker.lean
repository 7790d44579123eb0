import DataPilot.Base.Runs
import DataPilot.Base.Repr
import DataPilot.Chat.Models

set_option autoImplicit false

namespace DataPilot.Chat

open DataPilot.Base DataPilot.Agent

structure WorkerArguments where
  assistantMessageId : Uuid
  workspaceId : Uuid
  conversationId : Uuid
  requestId : Uuid
  traceId : Uuid
  question : String

-- The awaits of ChatWorker.run, with what the code has decided to do there.
inductive WorkerPoint where
  | unstarted
  | publishStart
  | nextEvent
  | publishEvent (event : RuntimeEvent)
  | publishError (event : BrokerEvent)
  | publishAborted
  | publishFailure (failure : PyException)
  | persist
  | publishTerminal (persisted : Bool)
  | finished

structure WorkerState where
  arguments : WorkerArguments
  point : WorkerPoint := .unstarted
  accumulatedText : String := ""
  steps : List AgentStep := []
  messageStatus : MessageStatus := .completed
  terminalPublished : Bool := false

-- What ends an await: the task's first step, the runtime's next event, its end
-- or its exception, a call that returns or raises, or a cancellation. A call
-- that raises or is cancelled may have been performed or not.
inductive WorkerInput where
  | begin
  | event (event : RuntimeEvent)
  | ended
  | raised (failure : PyException)
  | completes
  | fails (failure : PyException) (performed : Bool)
  | cancelled (performed : Bool)

inductive Effect where
  | publish (event : BrokerEvent)
  | persist (content : String) (status : MessageStatus) (steps : List AgentStep)
  | persistLater (content : String) (status : MessageStatus) (steps : List AgentStep)

def failureText (failure : PyException) : String := s!"{failure.typeName}: {failure.text}"

def abortedEvent (arguments : WorkerArguments) : BrokerEvent := .aborted arguments.assistantMessageId

def failureEvent (arguments : WorkerArguments) (failure : PyException) : BrokerEvent :=
  .error arguments.assistantMessageId (failureText failure) none none

def terminalEvent (state : WorkerState) (persisted : Bool) : BrokerEvent :=
  if state.messageStatus = .completed then
    .done state.arguments.conversationId state.arguments.assistantMessageId persisted
  else
    .error state.arguments.assistantMessageId "Agent task ended without a terminal event." none (some persisted)

-- str(value or "completed") and str(value) of the data of a DONE event.
def doneStatus (event : RuntimeEvent) : String :=
  let status := dictGet "status" event.data
  if status.truthy then pyStr status else "completed"

def doneReason (event : RuntimeEvent) : String :=
  orElseText (pyStr (dictGet "termination_reason" event.data)) s!"Agent stopped with status: {doneStatus event}"

-- One round of the async for, up to its await.
def WorkerState.receive (state : WorkerState) (event : RuntimeEvent) : WorkerState :=
  match event.type with
  | .step =>
      match event.step with
      | some step => { state with steps := state.steps ++ [step], point := .publishEvent event }
      | none => state
  | .text =>
      if event.text.getD "" = "" then state
      else { state with accumulatedText := state.accumulatedText ++ event.text.getD "", point := .publishEvent event }
  | .textReset => { state with accumulatedText := "", point := .publishEvent event }
  | .error =>
      { state with
        messageStatus := .error
        accumulatedText := orElseText (event.message.getD "") "Agent execution failed."
        point := .publishError (.runtime event) }
  | .done =>
      if doneStatus event = "completed" then { state with point := .persist }
      else
        { state with
          messageStatus := .error
          accumulatedText := doneReason event
          point := .publishError (.error state.arguments.assistantMessageId (doneReason event) (some (doneStatus event))
            none) }

-- except asyncio.CancelledError and except Exception.
def WorkerState.abort (state : WorkerState) : WorkerState :=
  { state with messageStatus := .aborted, point := .publishAborted }

def WorkerState.fail (state : WorkerState) (failure : PyException) : WorkerState :=
  { state with messageStatus := .error, accumulatedText := failureText failure, point := .publishFailure failure }

-- The end of the try statement: the finally block comes next.
def WorkerState.published (state : WorkerState) : WorkerState :=
  { state with terminalPublished := true, point := .persist }

def WorkerState.at (state : WorkerState) (point : WorkerPoint) : WorkerState := { state with point }

def WorkerState.content (state : WorkerState) : Effect :=
  .persist state.accumulatedText state.messageStatus state.steps

-- After the shielded call: the second publish, unless a terminal event is out.
def WorkerState.persisted (state : WorkerState) (done : Bool) : WorkerState :=
  state.at (if state.terminalPublished then .finished else .publishTerminal done)

def publishing (performed : Bool) (event : BrokerEvent) : List Effect := if performed then [.publish event] else []

-- An exception in the body of the try statement is caught, one in a handler or
-- in the finally block leaves the task after the finally block is through.
def workerStep (state : WorkerState) (input : WorkerInput) : Option (WorkerState × List Effect) :=
  let arguments := state.arguments
  let started := BrokerEvent.start arguments.conversationId arguments.assistantMessageId arguments.requestId
    arguments.traceId
  match state.point, input with
  | .unstarted, .begin => some (state.at .publishStart, [])
  | .unstarted, .cancelled _ => some (state.at .finished, [])
  | .publishStart, .completes => some (state.at .nextEvent, [.publish started])
  | .publishStart, .fails _ performed => some (state.at .finished, publishing performed started)
  | .publishStart, .cancelled performed => some (state.at .finished, publishing performed started)
  | .nextEvent, .event event => some (state.receive event, [])
  | .nextEvent, .ended => some (state.at .persist, [])
  | .nextEvent, .raised failure => some (state.fail failure, [])
  | .nextEvent, .cancelled _ => some (state.abort, [])
  | .publishEvent event, .completes => some (state.at .nextEvent, [.publish (.runtime event)])
  | .publishEvent event, .fails failure performed => some (state.fail failure, publishing performed (.runtime event))
  | .publishEvent event, .cancelled performed => some (state.abort, publishing performed (.runtime event))
  | .publishError event, .completes => some (state.published, [.publish event])
  | .publishError event, .fails failure performed => some (state.fail failure, publishing performed event)
  | .publishError event, .cancelled performed => some (state.abort, publishing performed event)
  | .publishAborted, .completes => some (state.published, [.publish (abortedEvent arguments)])
  | .publishAborted, .fails _ performed => some (state.at .persist, publishing performed (abortedEvent arguments))
  | .publishAborted, .cancelled performed => some (state.at .persist, publishing performed (abortedEvent arguments))
  | .publishFailure failure, .completes => some (state.published, [.publish (failureEvent arguments failure)])
  | .publishFailure failure, .fails _ performed =>
      some (state.at .persist, publishing performed (failureEvent arguments failure))
  | .publishFailure failure, .cancelled performed =>
      some (state.at .persist, publishing performed (failureEvent arguments failure))
  | .persist, .completes => some (state.persisted true, [state.content])
  | .persist, .fails _ performed => some (state.persisted false, if performed then [state.content] else [])
  -- The shield keeps the call alive when the cancellation leaves the task.
  | .persist, .cancelled true => some (state.at .finished, [state.content])
  | .persist, .cancelled false =>
      some (state.at .finished, [.persistLater state.accumulatedText state.messageStatus state.steps])
  | .publishTerminal persisted, .completes => some (state.at .finished, [.publish (terminalEvent state persisted)])
  | .publishTerminal persisted, .fails _ performed =>
      some (state.at .finished, publishing performed (terminalEvent state persisted))
  | .publishTerminal persisted, .cancelled performed =>
      some (state.at .finished, publishing performed (terminalEvent state persisted))
  | _, _ => none

theorem worker_step_arguments (state next : WorkerState) (input : WorkerInput) (effects : List Effect)
    (taken : workerStep state input = some (next, effects)) : next.arguments = state.arguments := by
  have received : ∀ event, (state.receive event).arguments = state.arguments := by
    intro event
    unfold WorkerState.receive
    split
    · split <;> rfl
    · split <;> rfl
    · rfl
    · rfl
    · split <;> rfl
  unfold workerStep at taken
  dsimp only at taken
  split at taken <;> cases taken <;> first | rfl | exact received _

end DataPilot.Chat
