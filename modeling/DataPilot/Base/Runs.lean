import Mathlib.Data.List.Basic

set_option autoImplicit false

namespace DataPilot.Base

section Runs

variable {State Label : Type} (step : State → Label → Option State)

-- A run follows its labels one after another and exists when each is enabled.
def runFrom (start : State) : List Label → Option State
  | [] => some start
  | label :: rest =>
      match step start label with
      | none => none
      | some next => runFrom next rest

-- Every step of the run is taken from a state, and by a label, that meets the condition.
def StepsMeet (condition : State → Label → Prop) (start : State) : List Label → Prop
  | [] => True
  | label :: rest => condition start label ∧ ∀ next, step start label = some next → StepsMeet condition next rest

def countSteps (test : State → Label → Bool) (start : State) : List Label → Nat
  | [] => 0
  | label :: rest =>
      (test start label).toNat +
        match step start label with
        | none => 0
        | some next => countSteps test next rest

def runEvents {Event : Type} (observe : State → Label → Option Event) (start : State) : List Label → List Event
  | [] => []
  | label :: rest =>
      match step start label with
      | none => []
      | some next => (observe start label).toList ++ runEvents observe next rest

variable {step}

theorem run_cons (start finish : State) (label : Label) (rest : List Label)
    (run : runFrom step start (label :: rest) = some finish) :
    ∃ next, step start label = some next ∧ runFrom step next rest = some finish := by
  cases taken : step start label with
  | none => simp [runFrom, taken] at run
  | some next => exact ⟨next, rfl, by simpa [runFrom, taken] using run⟩

theorem run_append (start : State) (first second : List Label) :
    runFrom step start (first ++ second) = (runFrom step start first).bind fun middle => runFrom step middle second := by
  induction first generalizing start with
  | nil => rfl
  | cons label rest ih => cases taken : step start label <;> simp [runFrom, taken, ih]

theorem run_events_append {Event : Type} (observe : State → Label → Option Event) (start middle : State)
    (first second : List Label) (run : runFrom step start first = some middle) :
    runEvents step observe start (first ++ second) =
      runEvents step observe start first ++ runEvents step observe middle second := by
  induction first generalizing start with
  | nil =>
      cases run
      rfl
  | cons label rest ih =>
      obtain ⟨next, taken, remaining⟩ := run_cons start middle label rest run
      simp only [List.cons_append, runEvents, taken, ih next remaining, List.append_assoc]

theorem run_invariant (inv : State → Prop)
    (preserve : ∀ state label next, inv state → step state label = some next → inv next)
    (start finish : State) (labels : List Label) (initial : inv start)
    (run : runFrom step start labels = some finish) : inv finish := by
  induction labels generalizing start with
  | nil =>
      cases run
      exact initial
  | cons label rest ih =>
      obtain ⟨next, taken, remaining⟩ := run_cons start finish label rest run
      exact ih next (preserve start label next initial taken) remaining

-- The rule for an invariant of the state and of what has been seen so far.
theorem run_history {Event : Type} (observe : State → Label → Option Event) (inv : State → List Event → Prop)
    (preserve : ∀ state seen label next, inv state seen → step state label = some next →
      inv next (seen ++ (observe state label).toList))
    (start finish : State) (seen : List Event) (labels : List Label) (initial : inv start seen)
    (run : runFrom step start labels = some finish) : inv finish (seen ++ runEvents step observe start labels) := by
  induction labels generalizing start seen with
  | nil =>
      cases run
      simpa [runEvents] using initial
  | cons label rest ih =>
      obtain ⟨next, taken, remaining⟩ := run_cons start finish label rest run
      have later := ih next _ (preserve start seen label next initial taken) remaining
      simpa [runEvents, taken] using later

-- The same for runs whose labels meet a condition.
theorem run_history_meeting {Event : Type} (allowed : Label → Prop) (observe : State → Label → Option Event)
    (inv : State → List Event → Prop)
    (preserve : ∀ state seen label next, allowed label → inv state seen → step state label = some next →
      inv next (seen ++ (observe state label).toList))
    (start finish : State) (seen : List Event) (labels : List Label) (labelsAllowed : ∀ label ∈ labels, allowed label)
    (initial : inv start seen) (run : runFrom step start labels = some finish) :
    inv finish (seen ++ runEvents step observe start labels) := by
  induction labels generalizing start seen with
  | nil =>
      cases run
      simpa [runEvents] using initial
  | cons label rest ih =>
      obtain ⟨next, taken, remaining⟩ := run_cons start finish label rest run
      obtain ⟨first, others⟩ := List.forall_mem_cons.mp labelsAllowed
      have later := ih next _ others (preserve start seen label next first initial taken) remaining
      simpa [runEvents, taken] using later

theorem run_events_count {Event Other : Type} (observe : State → Label → Option Event) (watch : State → Label → Option Other)
    (test : Event → Bool) (check : Other → Bool)
    (together : ∀ state label event, observe state label = some event → test event = true →
      ∃ other, watch state label = some other ∧ check other = true) (start : State) (labels : List Label) :
    (runEvents step observe start labels).countP test ≤ (runEvents step watch start labels).countP check := by
  induction labels generalizing start with
  | nil => exact Nat.le_refl 0
  | cons label rest ih =>
      cases taken : step start label with
      | none => simp [runEvents, taken]
      | some next =>
          have here : (observe start label).toList.countP test ≤ (watch start label).toList.countP check := by
            cases seen : observe start label with
            | none => exact Nat.zero_le _
            | some event =>
                by_cases tested : test event = true
                · obtain ⟨other, watched, checked⟩ := together start label event seen tested
                  simp [watched, tested, checked]
                · simp [tested]
          simp only [runEvents, taken, List.countP_append]
          exact Nat.add_le_add here (ih next)

-- The same when preservation needs a condition that every step of the run meets.
theorem run_invariant_meeting (condition : State → Label → Prop) (inv : State → Prop)
    (preserve : ∀ state label next, inv state → condition state label → step state label = some next → inv next)
    (start finish : State) (labels : List Label) (initial : inv start)
    (meets : StepsMeet step condition start labels) (run : runFrom step start labels = some finish) : inv finish := by
  induction labels generalizing start with
  | nil =>
      cases run
      exact initial
  | cons label rest ih =>
      obtain ⟨next, taken, remaining⟩ := run_cons start finish label rest run
      exact ih next (preserve start label next initial meets.1 taken) (meets.2 next taken) remaining

-- The condition decides the run: as long as it is met the state stays good, and
-- the first step that does not meet it makes the state bad for ever.
theorem run_good_or_bad (allowed : Label → Prop) (condition : State → Label → Prop) (good bad : State → Prop)
    (keeps : ∀ state label next, allowed label → good state → condition state label →
      step state label = some next → good next)
    (breaks : ∀ state label next, allowed label → good state → ¬ condition state label →
      step state label = some next → bad next)
    (stays : ∀ state label next, allowed label → bad state → step state label = some next → bad next)
    (start finish : State) (labels : List Label) (labelsAllowed : ∀ label ∈ labels, allowed label) (initial : good start)
    (run : runFrom step start labels = some finish) :
    (StepsMeet step condition start labels ∧ good finish) ∨ (¬ StepsMeet step condition start labels ∧ bad finish) := by
  have spoiled : ∀ labels start, (∀ label ∈ labels, allowed label) → bad start →
      runFrom step start labels = some finish → bad finish := by
    clear run initial labelsAllowed
    intro labels
    induction labels with
    | nil =>
        rintro start _ spoilt ⟨⟩
        exact spoilt
    | cons label rest ih =>
        intro start labelsAllowed spoilt run
        obtain ⟨next, taken, remaining⟩ := run_cons start finish label rest run
        exact ih next (fun later member => labelsAllowed later (by simp [member]))
          (stays start label next (labelsAllowed label (by simp)) spoilt taken) remaining
  induction labels generalizing start with
  | nil =>
      cases run
      exact .inl ⟨trivial, initial⟩
  | cons label rest ih =>
      obtain ⟨next, taken, remaining⟩ := run_cons start finish label rest run
      have permitted := labelsAllowed label (by simp)
      have later : ∀ label ∈ rest, allowed label := fun other member => labelsAllowed other (by simp [member])
      by_cases met : condition start label
      · have kept := keeps start label next permitted initial met taken
        rcases ih next later kept remaining with ⟨meets, kept⟩ | ⟨fails, bad⟩
        · refine .inl ⟨⟨met, fun other found => ?_⟩, kept⟩
          obtain rfl : next = other := by simpa [taken] using found
          exact meets
        · exact .inr ⟨fun meets => fails (meets.2 next taken), bad⟩
      · exact .inr ⟨fun meets => met meets.1,
          spoiled rest next later (breaks start label next permitted initial met taken) remaining⟩

theorem steps_meet_cons (condition : State → Label → Prop) (start next : State) (label : Label) (rest : List Label)
    (taken : step start label = some next) (met : condition start label)
    (later : StepsMeet step condition next rest) : StepsMeet step condition start (label :: rest) := by
  refine ⟨met, fun other found => ?_⟩
  obtain rfl : next = other := by simpa [taken] using found
  exact later

theorem steps_meet_append (condition : State → Label → Prop) (start middle : State) (first second : List Label)
    (run : runFrom step start first = some middle) :
    StepsMeet step condition start (first ++ second) ↔
      StepsMeet step condition start first ∧ StepsMeet step condition middle second := by
  induction first generalizing start with
  | nil =>
      cases run
      exact ⟨fun later => ⟨trivial, later⟩, And.right⟩
  | cons label rest ih =>
      obtain ⟨next, taken, remaining⟩ := run_cons start middle label rest run
      simp only [List.cons_append, StepsMeet, taken, Option.some.injEq, forall_eq']
      rw [ih next remaining, and_assoc]

theorem steps_meet_and (one other : State → Label → Prop) (start : State) (labels : List Label)
    (first : StepsMeet step one start labels) (second : StepsMeet step other start labels) :
    StepsMeet step (fun state label => one state label ∧ other state label) start labels := by
  induction labels generalizing start with
  | nil => trivial
  | cons label rest ih =>
      exact ⟨⟨first.1, second.1⟩, fun next taken => ih next (first.2 next taken) (second.2 next taken)⟩

theorem steps_meet_mono (weak strong : State → Label → Prop) (start : State) (labels : List Label)
    (implies : ∀ state label, strong state label → weak state label)
    (meets : StepsMeet step strong start labels) : StepsMeet step weak start labels := by
  induction labels generalizing start with
  | nil => trivial
  | cons label rest ih => exact ⟨implies start label meets.1, fun next taken => ih next (meets.2 next taken)⟩

theorem steps_meet_of_count (test : State → Label → Bool) (start : State) (labels : List Label)
    (passing : countSteps step (fun state label => !test state label) start labels = 0) :
    StepsMeet step (fun state label => test state label = true) start labels := by
  induction labels generalizing start with
  | nil => trivial
  | cons label rest ih =>
      rw [countSteps, Nat.add_eq_zero_iff] at passing
      obtain ⟨passed, later⟩ := passing
      refine ⟨?_, fun next taken => ih next ?_⟩
      · cases tested : test start label with
        | true => exact tested
        | false => simp [tested] at passed
      · rw [taken] at later
        exact later

theorem steps_meet_congr (one other : State → Label → Prop) (inv : State → Prop)
    (agree : ∀ state label next, inv state → step state label = some next → (one state label ↔ other state label))
    (keeps : ∀ state label next, inv state → other state label → step state label = some next → inv next)
    (start finish : State) (labels : List Label) (initial : inv start) (run : runFrom step start labels = some finish) :
    StepsMeet step one start labels ↔ StepsMeet step other start labels := by
  induction labels generalizing start with
  | nil => exact Iff.rfl
  | cons label rest ih =>
      obtain ⟨next, taken, remaining⟩ := run_cons start finish label rest run
      simp only [StepsMeet, taken, Option.some.injEq, forall_eq']
      rw [agree start label next initial taken]
      exact and_congr_right fun met => ih next (keeps start label next initial met taken) remaining

-- Where a step that does not meet the condition leads to a state that is no good,
-- a run meets the condition exactly when every state it passes is good.
theorem states_good_iff (condition : State → Label → Prop) (inv good : State → Prop) (sound : ∀ state, inv state → good state)
    (keeps : ∀ state label next, inv state → condition state label → step state label = some next → inv next)
    (breaks : ∀ state label next, inv state → ¬ condition state label → step state label = some next → ¬ good next)
    (start finish : State) (labels : List Label) (initial : inv start) (run : runFrom step start labels = some finish) :
    StepsMeet step condition start labels ↔
      ∀ front middle, front <+: labels → runFrom step start front = some middle → good middle := by
  constructor
  · rintro meets front middle ⟨back, rfl⟩ passed
    have part := ((steps_meet_append condition start middle front back passed).mp meets).1
    exact sound middle (run_invariant_meeting condition inv keeps start middle front initial part passed)
  · intro passes
    induction labels generalizing start with
    | nil => trivial
    | cons label rest ih =>
        obtain ⟨next, taken, remaining⟩ := run_cons start finish label rest run
        have reached : good next := by
          apply passes [label] next ⟨rest, rfl⟩
          rw [runFrom, taken]
          rfl
        have met : condition start label := by
          by_contra failed
          exact breaks start label next initial failed taken reached
        apply steps_meet_cons condition start next label rest taken met
        apply ih next (keeps start label next initial met taken) remaining
        rintro front middle ⟨back, rfl⟩ passed
        apply passes (label :: front) middle ⟨back, rfl⟩
        rw [runFrom, taken]
        exact passed

theorem run_count (allowed : Label → Prop) (test : State → Label → Bool) (inv : State → Prop) (measure : State → Nat)
    (counts : ∀ state label next, allowed label → inv state → step state label = some next →
      inv next ∧ measure next = measure state + (test state label).toNat)
    (start finish : State) (labels : List Label) (labelsAllowed : ∀ label ∈ labels, allowed label) (initial : inv start)
    (run : runFrom step start labels = some finish) :
    inv finish ∧ measure finish = measure start + countSteps step test start labels := by
  induction labels generalizing start with
  | nil =>
      cases run
      exact ⟨initial, rfl⟩
  | cons label rest ih =>
      obtain ⟨next, taken, remaining⟩ := run_cons start finish label rest run
      obtain ⟨kept, grown⟩ := counts start label next (labelsAllowed label (by simp)) initial taken
      obtain ⟨holds, counted⟩ := ih next (fun later member => labelsAllowed later (by simp [member])) kept remaining
      refine ⟨holds, ?_⟩
      simp only [countSteps, taken]
      omega

end Runs

end DataPilot.Base
