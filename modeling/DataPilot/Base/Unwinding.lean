import DataPilot.Base.Runs
import DataPilot.Base.Stages

set_option autoImplicit false

namespace DataPilot.Base

section Unwinding

variable {State Label Answer : Type} {step : State → Label → Option State}

-- What the steps of one owner are answered.
def ownAnswer (own : Label → Bool) (answer : State → Label → Answer) (state : State) (label : Label) : Option Answer :=
  if own label then some (answer state label) else none

-- A run and the run of one owner's labels alone stay related and give that owner the same
-- answers, where the steps of others keep the relation and the owner's own steps follow it.
theorem run_purged (own : Label → Bool) (answer : State → Label → Answer) (condition : State → Label → Prop)
    (related : State → State → Prop)
    (skips : ∀ full next alone label, own label = false → condition full label → related full alone →
      step full label = some next → related next alone)
    (follows : ∀ full next alone label, own label = true → condition full label → related full alone →
      step full label = some next →
        answer alone label = answer full label ∧ ∃ after, step alone label = some after ∧ related next after)
    (start finish alone : State) (labels : List Label) (initial : related start alone)
    (meets : StepsMeet step condition start labels) (run : runFrom step start labels = some finish) :
    ∃ after, runFrom step alone (labels.filter own) = some after ∧ related finish after ∧
      runEvents step (ownAnswer own answer) alone (labels.filter own) = runEvents step (ownAnswer own answer) start labels := by
  induction labels generalizing start alone with
  | nil =>
      cases run
      exact ⟨alone, rfl, initial, rfl⟩
  | cons label rest ih =>
      obtain ⟨next, taken, remaining⟩ := run_cons start finish label rest run
      have later := meets.2 next taken
      cases owner : own label with
      | false =>
          obtain ⟨after, reached, kept, same⟩ :=
            ih next alone (skips start next alone label owner meets.1 initial taken) later remaining
          refine ⟨after, by rw [List.filter_cons_of_neg (by simp [owner])]; exact reached, kept, ?_⟩
          rw [List.filter_cons_of_neg (by simp [owner]), same]
          simp [runEvents, taken, ownAnswer, owner]
      | true =>
          obtain ⟨alike, middle, moved, kept⟩ := follows start next alone label owner meets.1 initial taken
          obtain ⟨after, reached, ended, same⟩ := ih next middle kept later remaining
          refine ⟨after, ?_, ended, ?_⟩
          · rw [List.filter_cons_of_pos owner, runFrom, moved]
            exact reached
          · rw [List.filter_cons_of_pos owner]
            simp only [runEvents, moved, taken, ownAnswer, owner, if_true, alike, same]

end Unwinding

section InStep

variable {State Failure : Type}

-- A stage that keeps two states related and raises the same in both.
def InStep (related : State → State → Prop) (stage : Stage State Failure) : Prop :=
  ∀ one other, related one other → related (stage one).1 (stage other).1 ∧ (stage one).2 = (stage other).2

variable (related : State → State → Prop)

theorem stages_in_step (stages : List (Stage State Failure)) (each : ∀ stage ∈ stages, InStep related stage) :
    InStep related (runStages stages) := by
  induction stages with
  | nil => exact fun one other alike => ⟨alike, rfl⟩
  | cons stage rest ih =>
      intro one other alike
      have first := each stage List.mem_cons_self one other alike
      have later := ih fun next member => each next (List.mem_cons_of_mem stage member)
      rw [runStages, runStages]
      cases here : stage one with
      | mk next outcome =>
          cases there : stage other with
          | mk after result =>
              rw [here, there] at first
              obtain ⟨kept, same⟩ := first
              dsimp only at same
              subst same
              cases outcome with
              | none => exact later next after kept
              | some failure => exact ⟨kept, rfl⟩

theorem on_failure_in_step (stage : Stage State Failure) (cleanup : State → State) (body : InStep related stage)
    (cleaned : ∀ one other, related one other → related (cleanup one) (cleanup other)) :
    InStep related (onFailure stage cleanup) := by
  intro one other alike
  have first := body one other alike
  rw [onFailure, onFailure]
  cases here : stage one with
  | mk next outcome =>
      cases there : stage other with
      | mk after result =>
          rw [here, there] at first
          obtain ⟨kept, same⟩ := first
          dsimp only at same
          subst same
          cases outcome with
          | none => exact ⟨kept, rfl⟩
          | some failure => exact ⟨cleaned next after kept, rfl⟩

end InStep

end DataPilot.Base
