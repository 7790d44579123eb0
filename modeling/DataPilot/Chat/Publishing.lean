import DataPilot.Chat.EventStream
import DataPilot.Chat.Runtime

set_option autoImplicit false

namespace DataPilot.Chat

open DataPilot.Base DataPilot.Agent

def BrokerEvent.isTerminal (event : BrokerEvent) : Bool := decide (event.name ∈ terminalNames)

def Underway (events : List BrokerEvent) : Prop := ∀ event ∈ events, event.isTerminal = false

def Concluded (events : List BrokerEvent) : Prop :=
  ∃ before last, events = before ++ [last] ∧ Underway before ∧ last.isTerminal = true

-- A publish of the in-memory broker neither suspends nor raises: its lock is
-- free whenever a task gets to run.
def Atomic (point : WorkerPoint) (input : WorkerInput) : Prop :=
  match point with
  | .publishStart => input = .completes
  | .publishEvent _ => input = .completes
  | .publishError _ => input = .completes
  | .publishAborted => input = .completes
  | .publishFailure _ => input = .completes
  | .publishTerminal _ => input = .completes
  | _ => True

def Winding (state : WorkerState) (events : List BrokerEvent) : Prop :=
  match state.point with
  | .publishEvent event => Underway events ∧ (BrokerEvent.runtime event).isTerminal = false
  | .publishError event => Underway events ∧ event.isTerminal = true
  | .persist => Underway events ∨ Concluded events ∧ state.terminalPublished = true
  | .finished => Underway events ∨ Concluded events
  | _ => Underway events

theorem underway_snoc (events : List BrokerEvent) (event : BrokerEvent) (underway : Underway events)
    (plain : event.isTerminal = false) : Underway (events ++ [event]) := by
  intro other member
  rcases List.mem_append.mp member with earlier | last
  · exact underway other earlier
  · rw [List.mem_singleton.mp last]
    exact plain

theorem concluded_snoc (events : List BrokerEvent) (event : BrokerEvent) (underway : Underway events)
    (terminal : event.isTerminal = true) : Concluded (events ++ [event]) := ⟨events, event, rfl, underway, terminal⟩

theorem terminal_event_terminal (state : WorkerState) (persisted : Bool) :
    (terminalEvent state persisted).isTerminal = true := by
  unfold terminalEvent
  split <;> rfl

theorem receive_winding (state : WorkerState) (event : RuntimeEvent) (events : List BrokerEvent)
    (here : state.point = .nextEvent) (underway : Underway events) : Winding (state.receive event) events := by
  have waits : Winding state events := by rw [Winding, here]; exact underway
  unfold WorkerState.receive
  cases type : event.type with
  | step =>
      cases event.step with
      | none => exact waits
      | some step =>
          exact ⟨underway, by simp [BrokerEvent.isTerminal, BrokerEvent.name, type, RuntimeEventType.value, terminalNames]⟩
  | text =>
      by_cases empty : event.text.getD "" = ""
      · simp only [empty, if_true]
        exact waits
      · simp only [empty, if_false]
        exact ⟨underway, by simp [BrokerEvent.isTerminal, BrokerEvent.name, type, RuntimeEventType.value, terminalNames]⟩
  | textReset =>
      exact ⟨underway, by simp [BrokerEvent.isTerminal, BrokerEvent.name, type, RuntimeEventType.value, terminalNames]⟩
  | error =>
      exact ⟨underway, by simp [BrokerEvent.isTerminal, BrokerEvent.name, type, RuntimeEventType.value, terminalNames]⟩
  | done =>
      by_cases completed : doneStatus event = "completed"
      · simp only [completed, if_true]
        exact .inl underway
      · simp only [completed, if_false]
        exact ⟨underway, rfl⟩

theorem persisted_winding (state : WorkerState) (done : Bool) (events : List BrokerEvent)
    (winding : Underway events ∨ Concluded events ∧ state.terminalPublished = true) :
    Winding (state.persisted done) events := by
  unfold WorkerState.persisted WorkerState.at
  cases out : state.terminalPublished with
  | true => exact winding.imp_right And.left
  | false => exact winding.resolve_right (by simp [out])

theorem winding_quiet (state : WorkerState) (effects : List Effect) (events : List BrokerEvent)
    (silent : published effects = []) (winding : Winding state events) : Winding state (events ++ published effects) := by
  rw [silent, List.append_nil]
  exact winding

theorem winding_step (state next : WorkerState) (input : WorkerInput) (effects : List Effect) (events : List BrokerEvent)
    (atomic : Atomic state.point input) (winding : Winding state events)
    (taken : workerStep state input = some (next, effects)) : Winding next (events ++ published effects) := by
  obtain ⟨arguments, point, text, steps, status, terminal⟩ := state
  cases point with
  | unstarted =>
      cases input with
      | begin =>
          cases taken
          exact winding_quiet _ _ events rfl winding
      | cancelled performed =>
          cases taken
          exact winding_quiet _ _ events rfl (.inl winding)
      | _ => cases taken
  | publishStart =>
      obtain rfl : input = .completes := atomic
      cases taken
      exact underway_snoc events _ winding rfl
  | nextEvent =>
      cases input with
      | event event =>
          cases taken
          exact winding_quiet _ _ events rfl (receive_winding _ event events rfl winding)
      | ended =>
          cases taken
          exact winding_quiet _ _ events rfl (.inl winding)
      | raised failure =>
          cases taken
          exact winding_quiet _ _ events rfl winding
      | cancelled performed =>
          cases taken
          exact winding_quiet _ _ events rfl winding
      | _ => cases taken
  | publishEvent event =>
      obtain rfl : input = .completes := atomic
      cases taken
      exact underway_snoc events _ winding.1 winding.2
  | publishError event =>
      obtain rfl : input = .completes := atomic
      cases taken
      exact .inr ⟨concluded_snoc events _ winding.1 winding.2, rfl⟩
  | publishAborted =>
      obtain rfl : input = .completes := atomic
      cases taken
      exact .inr ⟨concluded_snoc events _ winding rfl, rfl⟩
  | publishFailure failure =>
      obtain rfl : input = .completes := atomic
      cases taken
      exact .inr ⟨concluded_snoc events _ winding rfl, rfl⟩
  | persist =>
      cases input with
      | completes =>
          cases taken
          exact winding_quiet _ _ events rfl (persisted_winding _ true events winding)
      | fails failure performed =>
          cases taken
          cases performed <;> exact winding_quiet _ _ events rfl (persisted_winding _ false events winding)
      | cancelled performed =>
          cases performed <;> cases taken <;> exact winding_quiet _ _ events rfl (winding.imp_right And.left)
      | _ => cases taken
  | publishTerminal persisted =>
      obtain rfl : input = .completes := atomic
      cases taken
      exact .inr (concluded_snoc events _ winding (terminal_event_terminal _ persisted))
  | finished => cases input <;> cases taken

end DataPilot.Chat
