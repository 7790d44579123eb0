import DataPilot.Chat.Absorbing
import DataPilot.Chat.WorkerProtocol

set_option autoImplicit false

namespace DataPilot.Chat

open DataPilot.Base DataPilot.Agent

-- Where a cancellation makes the worker store the status aborted: in the loop of
-- the try statement, or when an earlier one already has.
def WorkerState.heeds (state : WorkerState) : Prop :=
  match state.point with
  | .nextEvent | .publishEvent _ | .publishError _ => True
  | .publishAborted | .persist | .publishTerminal _ => state.messageStatus = .aborted
  | _ => False

-- A task that is about to be cancelled there, or has been.
def ChatTask.aborting (task : ChatTask) : Prop :=
  match task.state.point with
  | .nextEvent | .publishEvent _ | .publishError _ => task.cancelRequested = true
  | .publishAborted | .persist | .publishTerminal _ => task.state.messageStatus = .aborted
  | _ => False

-- Up to the end of the loop the status is not aborted.
def WorkerState.unaborted (state : WorkerState) : Prop :=
  match state.point with
  | .publishAborted | .persist | .publishTerminal _ | .finished => True
  | _ => state.messageStatus ≠ .aborted

theorem heeds_aborting (task : ChatTask) (heeds : task.state.heeds) :
    ChatTask.aborting { task with cancelRequested := true } := by
  obtain ⟨⟨arguments, point, text, steps, status, terminal⟩, requested⟩ := task
  cases point <;> first | exact heeds | exact rfl

theorem aborting_requested (task : ChatTask) (aborting : task.aborting) :
    ChatTask.aborting { task with cancelRequested := true } := by
  obtain ⟨⟨arguments, point, text, steps, status, terminal⟩, requested⟩ := task
  cases point <;> first | exact aborting | exact rfl

theorem heeds_writes (task : ChatTask) (heeds : task.state.heeds) : task.aborting ∨ task.state.mayWrite = true := by
  obtain ⟨⟨arguments, point, text, steps, status, terminal⟩, requested⟩ := task
  cases point <;> first | exact .inl heeds | exact .inr rfl

theorem receive_unaborted (state : WorkerState) (event : RuntimeEvent) (here : state.point = .nextEvent)
    (unaborted : state.messageStatus ≠ .aborted) :
    (state.receive event).unaborted ∧ ((state.receive event).point = .persist → (state.receive event).messageStatus ≠ .aborted) ∧
      (state.receive event).point ≠ .publishAborted ∧ ∀ persisted, (state.receive event).point ≠ .publishTerminal persisted := by
  have still : state.unaborted ∧ (state.point = .persist → state.messageStatus ≠ .aborted) ∧
      state.point ≠ .publishAborted ∧ ∀ persisted, state.point ≠ .publishTerminal persisted := by
    simp only [WorkerState.unaborted, here]
    exact ⟨unaborted, fun _ => unaborted, WorkerPoint.noConfusion, fun _ => WorkerPoint.noConfusion⟩
  unfold WorkerState.receive
  split
  · split
    · exact ⟨unaborted, fun _ => unaborted, WorkerPoint.noConfusion, fun _ => WorkerPoint.noConfusion⟩
    · exact still
  · split
    · exact still
    · exact ⟨unaborted, fun _ => unaborted, WorkerPoint.noConfusion, fun _ => WorkerPoint.noConfusion⟩
  · exact ⟨unaborted, fun _ => unaborted, WorkerPoint.noConfusion, fun _ => WorkerPoint.noConfusion⟩
  · refine ⟨?_, ?_, WorkerPoint.noConfusion, fun _ => WorkerPoint.noConfusion⟩ <;> simp [WorkerState.unaborted]
  · split
    · exact ⟨trivial, fun _ => unaborted, WorkerPoint.noConfusion, fun _ => WorkerPoint.noConfusion⟩
    · refine ⟨?_, ?_, WorkerPoint.noConfusion, fun _ => WorkerPoint.noConfusion⟩ <;> simp [WorkerState.unaborted]

section Steps

variable (task : ChatTask) (state : WorkerState) (input : WorkerInput) (effects : List Effect)

-- What a task that is aborting does next: it goes on without a write, it stores
-- the status aborted, or it leaves that to the shielded call.
inductive AbortStep : List Effect → Prop where
  | goesOn (effects : List Effect) (published : ∀ effect ∈ effects, ∃ event, effect = .publish event)
      (writes : state.mayWrite = true) (aborting : ChatTask.aborting { state }) : AbortStep effects
  | stores (aborted : task.state.messageStatus = .aborted) (written : state.mayWrite = false) :
      AbortStep [task.state.content]
  | defers (aborted : task.state.messageStatus = .aborted) (finished : state.point = .finished) :
      AbortStep [.persistLater task.state.accumulatedText task.state.messageStatus task.state.steps]

theorem publishing_publishes (performed : Bool) (event : BrokerEvent) :
    ∀ effect ∈ publishing performed event, ∃ event, effect = .publish event := by
  intro effect member
  cases performed with
  | false => cases member
  | true => exact ⟨event, List.mem_singleton.mp member⟩

theorem aborting_step (stepped : workerStep task.state input = some (state, effects))
    (ready : task.cancelRequested = input.isCancelled) (succeeds : input.succeeds) (aborting : task.aborting)
    (writes : task.state.mayWrite = true) : AbortStep task state effects := by
  obtain ⟨⟨arguments, point, text, steps, status, terminal⟩, requested⟩ := task
  have loops : requested = true → ∃ performed, input = .cancelled performed := by
    intro request
    rw [request] at ready
    cases input with
    | cancelled performed => exact ⟨performed, rfl⟩
    | _ => cases ready
  cases point with
  | unstarted => cases aborting
  | publishStart => cases aborting
  | publishFailure failure => cases aborting
  | finished => cases aborting
  | publishTerminal persisted => cases writes
  | nextEvent =>
      obtain ⟨performed, rfl⟩ := loops aborting
      cases stepped
      exact .goesOn _ (fun effect member => absurd member List.not_mem_nil) rfl rfl
  | publishEvent event =>
      obtain ⟨performed, rfl⟩ := loops aborting
      cases stepped
      exact .goesOn _ (publishing_publishes performed _) rfl rfl
  | publishError event =>
      obtain ⟨performed, rfl⟩ := loops aborting
      cases stepped
      exact .goesOn _ (publishing_publishes performed _) rfl rfl
  | publishAborted =>
      have aborted : status = .aborted := aborting
      cases input with
      | completes =>
          cases stepped
          exact .goesOn _ (publishing_publishes true _) rfl aborted
      | cancelled performed =>
          cases stepped
          exact .goesOn _ (publishing_publishes performed _) rfl aborted
      | fails failure performed => exact succeeds.elim
      | _ => cases stepped
  | persist =>
      have aborted : status = .aborted := aborting
      cases input with
      | completes =>
          cases stepped
          refine .stores aborted ?_
          cases terminal <;> rfl
      | cancelled performed =>
          cases performed with
          | true =>
              cases stepped
              exact .stores aborted rfl
          | false =>
              cases stepped
              exact .defers aborted rfl
      | fails failure performed => exact succeeds.elim
      | _ => cases stepped

theorem unaborted_step (stepped : workerStep task.state input = some (state, effects)) (unaborted : task.state.unaborted) :
    state.unaborted := by
  obtain ⟨⟨arguments, point, text, steps, status, terminal⟩, requested⟩ := task
  cases point with
  | nextEvent =>
      cases input with
      | event event =>
          cases stepped
          exact (receive_unaborted _ event rfl unaborted).1
      | raised failure =>
          cases stepped
          exact MessageStatus.noConfusion
      | ended => cases stepped; trivial
      | cancelled performed => cases stepped; trivial
      | _ => cases stepped
  | persist =>
      cases input with
      | completes => cases stepped; cases terminal <;> trivial
      | fails failure performed => cases stepped; cases terminal <;> trivial
      | cancelled performed => cases performed <;> (cases stepped; trivial)
      | _ => cases stepped
  | _ =>
      cases input with
      | fails failure performed => cases stepped <;> first | trivial | exact MessageStatus.noConfusion
      | _ => cases stepped <;> trivial

theorem receive_not_aborting (worker : WorkerState) (event : RuntimeEvent) (here : worker.point = .nextEvent)
    (unaborted : worker.messageStatus ≠ .aborted) : ¬ ChatTask.aborting { state := worker.receive event } := by
  obtain ⟨_, persist, notAborted, notTerminal⟩ := receive_unaborted worker event here unaborted
  generalize worker.receive event = received at persist notAborted notTerminal
  obtain ⟨arguments, point, text, steps, status, terminal⟩ := received
  intro aborting
  cases point with
  | nextEvent => exact Bool.false_ne_true aborting
  | publishEvent event => exact Bool.false_ne_true aborting
  | publishError event => exact Bool.false_ne_true aborting
  | publishAborted => exact notAborted rfl
  | persist => exact persist rfl aborting
  | publishTerminal persisted => exact notTerminal persisted rfl
  | _ => exact aborting

theorem aborting_back (stepped : workerStep task.state input = some (state, effects))
    (ready : task.cancelRequested = input.isCancelled) (unaborted : task.state.unaborted)
    (aborting : ChatTask.aborting { state }) : task.aborting := by
  obtain ⟨⟨arguments, point, text, steps, status, terminal⟩, requested⟩ := task
  cases point with
  | nextEvent =>
      cases input with
      | event event =>
          cases stepped
          exact absurd aborting (receive_not_aborting _ event rfl unaborted)
      | raised failure =>
          cases stepped
          exact aborting.elim
      | ended =>
          cases stepped
          exact absurd aborting unaborted
      | cancelled performed => exact ready
      | _ => cases stepped
  | publishEvent event =>
      cases input with
      | cancelled performed => exact ready
      | completes =>
          cases stepped
          exact absurd aborting Bool.false_ne_true
      | fails failure performed =>
          cases stepped
          exact aborting.elim
      | _ => cases stepped
  | publishError event =>
      cases input with
      | cancelled performed => exact ready
      | completes =>
          cases stepped
          exact absurd aborting unaborted
      | fails failure performed =>
          cases stepped
          exact aborting.elim
      | _ => cases stepped
  | publishAborted => cases input <;> cases stepped <;> exact aborting
  | publishFailure failure => cases input <;> cases stepped <;> exact absurd aborting unaborted
  | persist =>
      cases input with
      | completes => cases stepped; cases terminal <;> first | exact aborting | exact aborting.elim
      | fails failure performed => cases stepped; cases terminal <;> first | exact aborting | exact aborting.elim
      | cancelled performed => cases performed <;> (cases stepped; exact aborting.elim)
      | _ => cases stepped
  | publishStart =>
      cases input with
      | completes =>
          cases stepped
          exact absurd aborting Bool.false_ne_true
      | _ => cases stepped <;> exact aborting.elim
  | _ => cases input <;> cases stepped <;> exact aborting.elim

end Steps

end DataPilot.Chat
