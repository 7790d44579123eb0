import DataPilot.Base.Runs
import DataPilot.Chat.StreamPosition

set_option autoImplicit false

namespace DataPilot.Chat

open DataPilot.Base DataPilot.Agent

instance (input : WorkerInput) : Decidable (input = .completes) :=
  match input with
  | .completes => isTrue rfl
  | .begin => isFalse (by simp)
  | .event _ => isFalse (by simp)
  | .ended => isFalse (by simp)
  | .raised _ => isFalse (by simp)
  | .fails _ _ => isFalse (by simp)
  | .cancelled _ => isFalse (by simp)

instance (point : WorkerPoint) (input : WorkerInput) : Decidable (Atomic point input) :=
  match point with
  | .publishStart => inferInstanceAs (Decidable (input = .completes))
  | .publishEvent _ => inferInstanceAs (Decidable (input = .completes))
  | .publishError _ => inferInstanceAs (Decidable (input = .completes))
  | .publishAborted => inferInstanceAs (Decidable (input = .completes))
  | .publishFailure _ => inferInstanceAs (Decidable (input = .completes))
  | .publishTerminal _ => inferInstanceAs (Decidable (input = .completes))
  | .unstarted => isTrue trivial
  | .nextEvent => isTrue trivial
  | .persist => isTrue trivial
  | .finished => isTrue trivial

def WorkerPoint.isFinished : WorkerPoint → Bool
  | .finished => true
  | _ => false

-- A client that follows one message of a server with the in-memory broker.
structure Delivery where
  broker : InMemoryEventBroker
  worker : WorkerState
  connection : Option (EventStream Nat) := none
  inFlight : List SseFrame := []
  delivered : List (String × ServerEvent) := []

-- Another message's publish, a step of the worker, a request of the client, a
-- step of its stream, a frame that arrives, and a connection that drops.
inductive DeliveryLabel where
  | publish (messageId : Uuid) (event : BrokerEvent)
  | work (input : WorkerInput)
  | request (message : Message)
  | advance
  | deliver
  | disconnect

def Delivery.messageId (delivery : Delivery) : Uuid := delivery.worker.arguments.assistantMessageId

def Delivery.running (delivery : Delivery) : Bool := !delivery.worker.point.isFinished

def Delivery.log (delivery : Delivery) : List (Nat × BrokerEvent) := delivery.broker.events delivery.messageId

def Delivery.lastEventId (delivery : Delivery) : String := (delivery.delivered.map Prod.fst).getLastD "0-0"

def InMemoryEventBroker.publishAll (broker : InMemoryEventBroker) (messageId : Uuid) (events : List BrokerEvent) :
    InMemoryEventBroker := events.foldl (fun broker event => broker.publish messageId event) broker

-- A request is made, and its stream opened, while the task runs.
def Delivery.step (delivery : Delivery) : DeliveryLabel → Option Delivery
  | .publish messageId event =>
      if messageId = delivery.messageId then none
      else some { delivery with broker := delivery.broker.publish messageId event }
  | .work input =>
      if Atomic delivery.worker.point input then
        (workerStep delivery.worker input).map fun next =>
          { delivery with
            worker := next.1
            broker := delivery.broker.publishAll delivery.messageId (published next.2) }
      else none
  | .request message =>
      if delivery.connection.isNone ∧ delivery.running then
        some { delivery with connection := some {
          conversationId := delivery.worker.arguments.conversationId
          message
          cursor := delivery.lastEventId } }
      else none
  | .advance =>
      match delivery.connection with
      | none => none
      | some stream =>
          if stream.point.isOpening ∧ delivery.running = false then none
          else
            let next := stream.step inMemoryIds ⟨delivery.log, delivery.running, true⟩
            some { delivery with connection := some next.1, inFlight := delivery.inFlight ++ next.2 }
  | .deliver =>
      match delivery.inFlight with
      | [] => none
      | frame :: rest =>
          some { delivery with inFlight := rest, delivered := delivery.delivered ++ frame.received.toList }
  | .disconnect =>
      match delivery.connection with
      | none => none
      | some _ => some { delivery with connection := none, inFlight := [] }

theorem publish_all_events (broker : InMemoryEventBroker) (messageId : Uuid) (events : List BrokerEvent) :
    ∃ added, (broker.publishAll messageId events).events messageId = broker.events messageId ++ added ∧
      added.map Prod.snd = events ∧ ∀ entry ∈ added, 0 < entry.1 := by
  induction events generalizing broker with
  | nil => exact ⟨[], by simp [InMemoryEventBroker.publishAll], rfl, by simp⟩
  | cons event rest ih =>
      obtain ⟨added, appended, same, positive⟩ := ih (broker.publish messageId event)
      refine ⟨(broker.counter + 1, event) :: added, ?_, by rw [List.map_cons, same], ?_⟩
      · rw [InMemoryEventBroker.publishAll, List.foldl_cons]
        refine appended.trans ?_
        simp [InMemoryEventBroker.publish]
      · intro entry member
        rcases List.mem_cons.mp member with rfl | later
        · exact Nat.succ_pos _
        · exact positive entry later

structure Follows (delivery : Delivery) (seen flying rest : List (Nat × BrokerEvent)) : Prop where
  winding : Winding delivery.worker (delivery.log.map Prod.snd)
  positive : ∀ entry ∈ delivery.log, 0 < entry.1
  split : delivery.log = seen ++ flying ++ rest
  delivered : delivery.delivered = seen.map (asSent inMemoryIds)
  inFlight : delivery.inFlight.filterMap SseFrame.received = flying.map (asSent inMemoryIds)
  closed : delivery.connection = none → flying = []
  position : ∀ stream, delivery.connection = some stream → Position inMemoryIds 0 (seen ++ flying) rest stream

def Following (delivery : Delivery) : Prop := ∃ seen flying rest, Follows delivery seen flying rest

theorem last_event_id_cursor (delivery : Delivery) (seen : List (Nat × BrokerEvent))
    (delivered : delivery.delivered = seen.map (asSent inMemoryIds)) :
    inMemoryIds.parse delivery.lastEventId = some (cursorAfter 0 seen) := by
  rw [Delivery.lastEventId, delivered]
  cases seen using List.reverseRecOn with
  | nil => decide +kernel
  | append_singleton seen entry => simpa [asSent] using inMemoryIds.parse_render entry.1

theorem following_step (delivery next : Delivery) (label : DeliveryLabel) (following : Following delivery)
    (taken : delivery.step label = some next) : Following next := by
  obtain ⟨seen, flying, rest, winding, positive, split, delivered, inFlight, closed, position⟩ := following
  cases label with
  | publish messageId event =>
      rw [Delivery.step] at taken
      split_ifs at taken with own
      cases taken
      have log : Delivery.log { delivery with broker := delivery.broker.publish messageId event } = delivery.log :=
        Function.update_of_ne (Ne.symm own) ..
      refine ⟨seen, flying, rest, ?_, ?_, ?_, delivered, inFlight, closed, position⟩
      · rw [log]
        exact winding
      · rw [log]
        exact positive
      · rw [log]
        exact split
  | work input =>
      rw [Delivery.step] at taken
      split_ifs at taken with atomic
      obtain ⟨⟨worker, effects⟩, stepped, rfl⟩ := Option.map_eq_some_iff.mp taken
      obtain ⟨added, appended, events, above⟩ := publish_all_events delivery.broker delivery.messageId (published effects)
      dsimp only
      have log : Delivery.log { delivery with
          worker
          broker := delivery.broker.publishAll delivery.messageId (published effects) } = delivery.log ++ added := by
        change (delivery.broker.publishAll _ _).events worker.arguments.assistantMessageId = _
        rw [worker_step_arguments _ _ _ _ stepped]
        exact appended
      refine ⟨seen, flying, rest ++ added, ?_, ?_, ?_, delivered, inFlight, closed, fun stream given => ?_⟩
      · rw [log, List.map_append, events]
        exact winding_step delivery.worker worker input effects _ atomic winding stepped
      · rw [log]
        exact fun entry member => (List.mem_append.mp member).elim (positive entry) (above entry)
      · rw [log, split, List.append_assoc]
      · exact position_extends 0 _ rest added stream (position stream given)
  | request message =>
      rw [Delivery.step] at taken
      split_ifs at taken with free
      cases taken
      obtain rfl := closed (Option.isNone_iff_eq_none.mp free.1)
      refine ⟨seen, [], rest, winding, positive, split, delivered, inFlight, fun _ => rfl, ?_⟩
      intro stream opened
      obtain rfl := Option.some.inj opened
      rw [List.append_nil]
      exact ⟨last_event_id_cursor delivery seen delivered, trivial⟩
  | advance =>
      rw [Delivery.step] at taken
      cases connected : delivery.connection with
      | none => simp [connected] at taken
      | some stream =>
          rw [connected] at taken
          dsimp only at taken
          split_ifs at taken with waits
          cases taken
          have opens : stream.point.isOpening = true → delivery.running = true ∨ rest ≠ [] := fun opening =>
            .inl (by simpa [opening] using waits)
          have all : later delivery.log 0 = seen ++ flying ++ rest := (later_all delivery.log 0 positive).trans split
          obtain ⟨sent, left, rfl, received, placed⟩ := position_step (delivery.broker.log delivery.messageId) 0
            (seen ++ flying) rest delivery.running stream all opens (position stream connected)
          refine ⟨seen, flying ++ sent, left, winding, positive, ?_, delivered, ?_, (fun gone => by cases gone), ?_⟩
          · rw [← List.append_assoc seen, List.append_assoc (seen ++ flying)]
            exact split
          · rw [List.filterMap_append, inFlight, List.map_append, ← received]
            rfl
          · intro after stepped
            obtain rfl := Option.some.inj stepped
            rw [← List.append_assoc]
            exact placed
  | deliver =>
      rw [Delivery.step] at taken
      cases flight : delivery.inFlight with
      | nil => simp [flight] at taken
      | cons frame frames =>
          rw [flight] at taken inFlight
          cases taken
          rw [List.filterMap_cons] at inFlight
          cases got : frame.received with
          | none =>
              rw [got] at inFlight
              exact ⟨seen, flying, rest, winding, positive, split, by simpa using delivered, inFlight, closed, position⟩
          | some received =>
              rw [got] at inFlight
              cases flying with
              | nil => cases inFlight
              | cons entry flying =>
                  obtain ⟨same, others⟩ := List.cons.inj inFlight
                  have moved : seen ++ [entry] ++ flying = seen ++ entry :: flying := by simp
                  refine ⟨seen ++ [entry], flying, rest, winding, positive, ?_, ?_, others, fun gone => ?_,
                    fun stream given => ?_⟩
                  · rw [moved]
                    exact split
                  · simp [delivered, same]
                  · cases closed gone
                  · rw [moved]
                    exact position stream given
  | disconnect =>
      rw [Delivery.step] at taken
      cases connected : delivery.connection with
      | none => simp [connected] at taken
      | some stream =>
          rw [connected] at taken
          cases taken
          refine ⟨seen, [], flying ++ rest, winding, positive, ?_, delivered, rfl, fun _ => rfl, fun _ gone => by cases gone⟩
          rw [List.append_nil, ← List.append_assoc]
          exact split

-- A new message, in a broker that may hold the events of others.
def Delivery.fresh (broker : InMemoryEventBroker) (arguments : WorkerArguments) : Delivery where
  broker
  worker := { arguments }

theorem following_fresh (broker : InMemoryEventBroker) (arguments : WorkerArguments)
    (unpublished : broker.events arguments.assistantMessageId = []) : Following (Delivery.fresh broker arguments) := by
  have empty : (Delivery.fresh broker arguments).log = [] := unpublished
  refine ⟨[], [], [], ?_, ?_, empty, rfl, rfl, fun _ => rfl, fun _ given => by cases given⟩
  · rw [empty]
    simp [Winding, Delivery.fresh, Underway]
  · simp [empty]

def isTerminalEvent (received : String × ServerEvent) : Bool := decide (received.2.name ∈ terminalNames)

theorem winding_ends (state : WorkerState) (events : List BrokerEvent) (winding : Winding state events) :
    Underway events ∨ Concluded events := by
  unfold Winding at winding
  split at winding
  · exact .inl winding.1
  · exact .inl winding.1
  · exact winding.imp_right And.left
  · exact winding
  · exact .inl winding

theorem prefix_terminal_last (log seen rest : List (Nat × BrokerEvent)) (split : log = seen ++ rest)
    (ends : Underway (log.map Prod.snd) ∨ Concluded (log.map Prod.snd)) :
    ∀ entry ∈ seen.dropLast, entry.2.isTerminal = false := by
  intro entry member
  rcases ends with underway | ⟨before, last, events, underway, _⟩
  · refine underway entry.2 (List.mem_map_of_mem ?_)
    rw [split]
    exact List.mem_append_left _ (List.dropLast_subset _ member)
  · have inner : seen.dropLast.map Prod.snd <+: (log.map Prod.snd).dropLast := by
      rw [split, List.map_append, List.map_dropLast]
      cases rest with
      | nil => simp
      | cons first others =>
          rw [List.dropLast_append_of_ne_nil (by simp)]
          exact (List.dropLast_prefix _).trans (List.prefix_append _ _)
    rw [events, List.dropLast_concat] at inner
    exact underway entry.2 (inner.subset (List.mem_map_of_mem member))

section Sample

def followedRow : Message where
  id := 16
  sequence := 2
  role := .assistant
  content := some ""
  status := .streaming

def followedArguments : WorkerArguments := ⟨16, 2, 1, 7, 8, "How many rows?"⟩

-- A client that reads the start, loses its connection, and resumes behind it.
def resumedLabels : List DeliveryLabel :=
  [.work .begin, .work .completes, .publish 3 (.aborted 3), .request followedRow, .advance, .advance, .advance, .deliver,
    .disconnect, .work (.event { type := .text, text := some "3" }), .work .completes, .request followedRow, .advance,
    .advance, .advance, .deliver]

theorem resumed_run : ∃ final, runFrom Delivery.step (Delivery.fresh {} followedArguments) resumedLabels = some final :=
  ⟨_, rfl⟩

end Sample

end DataPilot.Chat
