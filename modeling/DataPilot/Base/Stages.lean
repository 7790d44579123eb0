import Mathlib.Data.List.Basic

set_option autoImplicit false

namespace DataPilot.Base

variable {State Failure : Type}

-- A part of a program that changes a state and may raise; what it has done by
-- then stays done.
abbrev Stage (State Failure : Type) := State → State × Option Failure

def runStages : List (Stage State Failure) → Stage State Failure
  | [], state => (state, none)
  | stage :: rest, state =>
      match stage state with
      | (next, none) => runStages rest next
      | (next, some failure) => (next, some failure)

-- try: stage, except: cleanup and raise.
def onFailure (stage : Stage State Failure) (cleanup : State → State) : Stage State Failure := fun state =>
  match stage state with
  | (next, none) => (next, none)
  | (next, some failure) => (cleanup next, some failure)

theorem stages_keep (keeps : State → State → Prop) (same : ∀ state, keeps state state)
    (chain : ∀ first second third, keeps first second → keeps second third → keeps first third)
    (stages : List (Stage State Failure)) (each : ∀ stage ∈ stages, ∀ state, keeps state (stage state).1) (state : State) :
    keeps state (runStages stages state).1 := by
  induction stages generalizing state with
  | nil => exact same state
  | cons stage rest ih =>
      have first := each stage (List.mem_cons_self ..) state
      rw [runStages]
      split
      · rename_i next taken
        rw [taken] at first
        exact chain _ _ _ first (ih (fun other member => each other (List.mem_cons_of_mem _ member)) next)
      · rename_i next failure taken
        rw [taken] at first
        exact first

theorem stages_done_cons (stage : Stage State Failure) (rest : List (Stage State Failure)) (state final : State)
    (done : runStages (stage :: rest) state = (final, none)) :
    ∃ next, stage state = (next, none) ∧ runStages rest next = (final, none) := by
  rw [runStages] at done
  split at done
  · rename_i next taken
    exact ⟨next, taken, done⟩
  · cases done

theorem on_failure_done (stage : Stage State Failure) (cleanup : State → State) (state final : State)
    (done : onFailure stage cleanup state = (final, none)) : stage state = (final, none) := by
  rw [onFailure] at done
  split at done
  · rename_i next taken
    rw [taken, done]
  · cases done

theorem stages_done_append (front back : List (Stage State Failure)) (state final : State)
    (done : runStages (front ++ back) state = (final, none)) :
    ∃ middle, runStages front state = (middle, none) ∧ runStages back middle = (final, none) := by
  induction front generalizing state with
  | nil => exact ⟨state, rfl, done⟩
  | cons stage rest ih =>
      obtain ⟨next, taken, following⟩ := stages_done_cons stage (rest ++ back) state final done
      obtain ⟨middle, reached, remaining⟩ := ih next following
      exact ⟨middle, by rw [runStages, taken]; exact reached, remaining⟩

end DataPilot.Base
