import DataPilot.Chat.Worker

set_option autoImplicit false

namespace DataPilot.Chat

open DataPilot.Base DataPilot.Agent

-- A worker run with what it has published and the status it has stored. A
-- shielded call that outlives the task is stored like any other.
structure WorkerRun where
  state : WorkerState
  published : List BrokerEvent := []
  stored : Option MessageStatus := none

def WorkerRun.apply (run : WorkerRun) : Effect → WorkerRun
  | .publish event => { run with published := run.published ++ [event] }
  | .persist _ status _ => { run with stored := some status }
  | .persistLater _ status _ => { run with stored := some status }

def WorkerRun.step (run : WorkerRun) (input : WorkerInput) : Option WorkerRun :=
  (workerStep run.state input).map fun next => next.2.foldl WorkerRun.apply { run with state := next.1 }

def announced (published : List BrokerEvent) : List MessageStatus := published.filterMap BrokerEvent.announces

-- One terminal event, the last one published, and the status it announces is
-- the stored one.
def EndsOnce (published : List BrokerEvent) (stored : Option MessageStatus) : Prop :=
  ∃ before terminal status, published = before ++ [terminal] ∧ announced before = [] ∧
    terminal.announces = some status ∧ stored = some status

def Protocol (run : WorkerRun) : Prop := EndsOnce run.published run.stored

def WorkerInput.succeeds : WorkerInput → Prop
  | .fails _ _ => False
  | _ => True

-- Where a cancellation may be delivered. It must not precede the try statement,
-- nor hit the publish of a terminal event in the loop once the broker has it,
-- nor the publish of the aborted event before the broker has it, nor the
-- shielded call while no terminal event is out. The second publish must reach
-- the broker exactly when no terminal event has.
def Timely (run : WorkerRun) (input : WorkerInput) : Prop :=
  match run.state.point, input with
  | .unstarted, .cancelled _ => False
  | .publishStart, .cancelled _ => False
  | .publishError _, .cancelled performed => performed = false
  | .publishAborted, .cancelled performed => performed = true
  | .persist, .cancelled _ => announced run.published ≠ []
  | .publishTerminal _, .cancelled performed => performed = true ↔ announced run.published = []
  | .publishTerminal _, .completes => announced run.published = []
  | _, _ => True

theorem announced_append (first second : List BrokerEvent) :
    announced (first ++ second) = announced first ++ announced second := List.filterMap_append ..

def Silent (run : WorkerRun) : Prop := announced run.published = []

def Announced (run : WorkerRun) : Prop := EndsOnce run.published (some run.state.messageStatus)

def Orderly (run : WorkerRun) : Prop :=
  match run.state.point with
  | .unstarted => Silent run ∧ run.state.messageStatus = .completed ∧ run.state.terminalPublished = false
  | .publishStart => Silent run ∧ run.state.messageStatus = .completed ∧ run.state.terminalPublished = false
  | .nextEvent => Silent run ∧ run.state.messageStatus = .completed ∧ run.state.terminalPublished = false
  | .publishEvent event =>
      Silent run ∧ run.state.messageStatus = .completed ∧ run.state.terminalPublished = false ∧ event.type ≠ .error
  | .publishError event =>
      Silent run ∧ run.state.messageStatus = .error ∧ run.state.terminalPublished = false ∧ event.announces = some .error
  | .publishAborted => Silent run ∧ run.state.messageStatus = .aborted ∧ run.state.terminalPublished = false
  | .publishFailure _ => Silent run ∧ run.state.messageStatus = .error ∧ run.state.terminalPublished = false
  | .persist =>
      Announced run ∨ (Silent run ∧ run.state.terminalPublished = false ∧
        (run.state.messageStatus = .completed ∨ run.state.messageStatus = .error))
  | .publishTerminal _ =>
      run.stored = some run.state.messageStatus ∧
        (Announced run ∨ (Silent run ∧ (run.state.messageStatus = .completed ∨ run.state.messageStatus = .error)))
  | .finished => Protocol run

-- The worker on its way to a disorderly end: two terminal events are out, or an
-- aborted worker has announced nothing or something else, or it has ended so.
def Disorderly (run : WorkerRun) : Prop :=
  2 ≤ (announced run.published).length ∨
  match run.state.point with
  | .publishAborted => run.state.messageStatus = .aborted ∧ announced run.published = [.error]
  | .persist => run.state.messageStatus = .aborted ∧ (announced run.published = [] ∨ announced run.published = [.error])
  | .publishTerminal _ =>
      run.state.messageStatus = .aborted ∧ run.stored = some .aborted ∧
        (announced run.published = [] ∨ announced run.published = [.error])
  | .finished => ¬ Protocol run
  | _ => False

theorem ends_once_snoc (before : List BrokerEvent) (terminal : BrokerEvent) (status : MessageStatus)
    (silent : announced before = []) (announces : terminal.announces = some status) :
    EndsOnce (before ++ [terminal]) (some status) :=
  ⟨before, terminal, status, rfl, silent, announces, rfl⟩

@[simp] theorem announced_snoc (before : List BrokerEvent) (event : BrokerEvent) :
    announced (before ++ [event]) = announced before ++ event.announces.toList := by
  rw [announced_append]
  cases announces : event.announces <;> simp [announced, announces]

theorem ends_once_announced (published : List BrokerEvent) (stored : Option MessageStatus)
    (ends : EndsOnce published stored) : ∃ status, announced published = [status] ∧ stored = some status := by
  obtain ⟨before, terminal, status, rfl, silent, announces, stored⟩ := ends
  exact ⟨status, by rw [announced_snoc, silent, announces]; rfl, stored⟩

theorem announced_not_silent (published : List BrokerEvent) (stored : Option MessageStatus)
    (ends : EndsOnce published stored) : announced published ≠ [] := by
  obtain ⟨status, once, _⟩ := ends_once_announced published stored ends
  simp [once]

theorem ends_once_silent (published : List BrokerEvent) (stored : Option MessageStatus)
    (silent : announced published = []) : ¬ EndsOnce published stored :=
  fun ends => announced_not_silent published stored ends silent

theorem terminal_event_announces (state : WorkerState) (persisted : Bool) :
    (terminalEvent state persisted).announces =
      some (if state.messageStatus = .completed then .completed else .error) := by
  unfold terminalEvent
  split <;> rfl

theorem receive_orderly (run : WorkerRun) (event : RuntimeEvent) (here : run.state.point = .nextEvent)
    (orderly : Orderly run) : Orderly { run with state := run.state.receive event } := by
  obtain ⟨⟨arguments, point, text, steps, status, terminal⟩, published, stored⟩ := run
  obtain rfl : point = .nextEvent := here
  dsimp only [Orderly, Silent] at orderly
  obtain ⟨silent, rfl, rfl⟩ := orderly
  have waiting : Orderly ⟨⟨arguments, .nextEvent, text, steps, .completed, false⟩, published, stored⟩ :=
    ⟨silent, rfl, rfl⟩
  cases type : event.type with
  | step =>
      cases step : event.step with
      | none => simpa only [WorkerState.receive, type, step] using waiting
      | some step' =>
          simp only [WorkerState.receive, type, step]
          exact ⟨silent, rfl, rfl, by simp [type]⟩
  | text =>
      by_cases empty : event.text.getD "" = ""
      · simpa only [WorkerState.receive, type, if_pos empty] using waiting
      · simp only [WorkerState.receive, type, if_neg empty]
        exact ⟨silent, rfl, rfl, by simp [type]⟩
  | textReset =>
      simp only [WorkerState.receive, type]
      exact ⟨silent, rfl, rfl, by simp [type]⟩
  | error =>
      simp only [WorkerState.receive, type]
      exact ⟨silent, rfl, rfl, by simp [BrokerEvent.announces, type]⟩
  | done =>
      by_cases completed : doneStatus event = "completed"
      · simp only [WorkerState.receive, type, if_pos completed]
        exact .inr ⟨silent, rfl, .inl rfl⟩
      · simp only [WorkerState.receive, type, if_neg completed]
        exact ⟨silent, rfl, rfl, rfl⟩

theorem orderly_step (run next : WorkerRun) (input : WorkerInput) (succeeds : input.succeeds) (orderly : Orderly run)
    (timely : Timely run input) (taken : run.step input = some next) : Orderly next := by
  obtain ⟨⟨arguments, point, text, steps, status, terminal⟩, published, stored⟩ := run
  cases point with
  | unstarted =>
      cases input with
      | begin =>
          cases taken
          exact orderly
      | cancelled performed => exact timely.elim
      | _ => cases taken
  | publishStart =>
      dsimp only [Orderly, Silent] at orderly
      obtain ⟨silent, rfl, rfl⟩ := orderly
      cases input with
      | completes =>
          cases taken
          refine ⟨?_, rfl, rfl⟩
          simp [Silent, WorkerRun.apply, BrokerEvent.announces, silent]
      | cancelled performed => exact timely.elim
      | fails failure performed => exact succeeds.elim
      | _ => cases taken
  | nextEvent =>
      cases input with
      | event event =>
          cases taken
          exact receive_orderly _ event rfl orderly
      | ended =>
          cases taken
          exact .inr ⟨orderly.1, orderly.2.2, .inl orderly.2.1⟩
      | raised failure =>
          cases taken
          exact ⟨orderly.1, rfl, orderly.2.2⟩
      | cancelled performed =>
          cases taken
          exact ⟨orderly.1, rfl, orderly.2.2⟩
      | _ => cases taken
  | publishEvent event =>
      dsimp only [Orderly, Silent] at orderly
      obtain ⟨silent, rfl, rfl, notError⟩ := orderly
      have still : announced (published ++ [.runtime event]) = [] := by
        simp [BrokerEvent.announces, silent, notError]
      cases input with
      | completes =>
          cases taken
          exact ⟨still, rfl, rfl⟩
      | cancelled performed =>
          cases performed with
          | false =>
              cases taken
              exact ⟨silent, rfl, rfl⟩
          | true =>
              cases taken
              exact ⟨still, rfl, rfl⟩
      | fails failure performed => exact succeeds.elim
      | _ => cases taken
  | publishError event =>
      dsimp only [Orderly, Silent] at orderly
      obtain ⟨silent, rfl, rfl, announces⟩ := orderly
      cases input with
      | completes =>
          cases taken
          exact .inl (ends_once_snoc published event .error silent announces)
      | cancelled performed =>
          obtain rfl : performed = false := timely
          cases taken
          exact ⟨silent, rfl, rfl⟩
      | fails failure performed => exact succeeds.elim
      | _ => cases taken
  | publishAborted =>
      dsimp only [Orderly, Silent] at orderly
      obtain ⟨silent, rfl, rfl⟩ := orderly
      have once := ends_once_snoc published (abortedEvent arguments) .aborted silent rfl
      cases input with
      | completes =>
          cases taken
          exact .inl once
      | cancelled performed =>
          obtain rfl : performed = true := timely
          cases taken
          exact .inl once
      | fails failure performed => exact succeeds.elim
      | _ => cases taken
  | publishFailure failure =>
      dsimp only [Orderly, Silent] at orderly
      obtain ⟨silent, rfl, rfl⟩ := orderly
      have once := ends_once_snoc published (failureEvent arguments failure) .error silent rfl
      cases input with
      | completes =>
          cases taken
          exact .inl once
      | cancelled performed =>
          cases performed with
          | false =>
              cases taken
              exact .inr ⟨silent, rfl, .inr rfl⟩
          | true =>
              cases taken
              exact .inl once
      | fails failure' performed => exact succeeds.elim
      | _ => cases taken
  | persist =>
      cases input with
      | completes =>
          cases taken
          cases terminal with
          | true =>
              rcases orderly with once | ⟨_, unpublished, _⟩
              · exact once
              · cases unpublished
          | false =>
              refine ⟨rfl, ?_⟩
              rcases orderly with once | ⟨silent, _, settled⟩
              · exact .inl once
              · exact .inr ⟨silent, settled⟩
      | cancelled performed =>
          -- The task ends here; only a terminal event that is out already counts.
          have once : EndsOnce published (some status) := by
            rcases orderly with once | ⟨silent, _⟩
            · exact once
            · exact absurd silent timely
          cases performed with
          | true =>
              cases taken
              exact once
          | false =>
              cases taken
              exact once
      | fails failure performed => exact succeeds.elim
      | _ => cases taken
  | publishTerminal persisted =>
      obtain ⟨kept, ways⟩ := orderly
      dsimp only at kept
      subst kept
      have closing : announced published = [] →
          EndsOnce (published ++ [terminalEvent ⟨arguments, .publishTerminal persisted, text, steps, status, terminal⟩
            persisted]) (some status) := by
        intro silent
        rcases ways with once | ⟨_, settled⟩
        · exact absurd silent (announced_not_silent _ _ once)
        · refine ends_once_snoc published _ status silent ?_
          rw [terminal_event_announces]
          dsimp only at settled ⊢
          rcases settled with rfl | rfl <;> rfl
      cases input with
      | completes =>
          cases taken
          exact closing timely
      | cancelled performed =>
          cases performed with
          | true =>
              cases taken
              exact closing (timely.mp rfl)
          | false =>
              cases taken
              rcases ways with once | ⟨silent, _⟩
              · exact once
              · exact absurd (timely.mpr silent) (by simp)
      | fails failure performed => exact succeeds.elim
      | _ => cases taken
  | finished => cases input <;> cases taken

theorem aborted_unannounced (published : List BrokerEvent) (stored : Option MessageStatus)
    (aborted : stored = some .aborted) (unannounced : announced published ≠ [.aborted]) :
    ¬ EndsOnce published stored := by
  intro ends
  obtain ⟨status, once, kept⟩ := ends_once_announced published stored ends
  obtain rfl : status = .aborted := by simpa [kept] using aborted
  exact unannounced once

theorem ends_once_single (published : List BrokerEvent) (stored : Option MessageStatus)
    (many : 2 ≤ (announced published).length) : ¬ EndsOnce published stored := by
  intro ends
  obtain ⟨status, once, _⟩ := ends_once_announced published stored ends
  simp [once] at many

theorem announced_apply (run : WorkerRun) (effects : List Effect) :
    (announced run.published).length ≤ (announced (effects.foldl WorkerRun.apply run).published).length := by
  induction effects generalizing run with
  | nil => exact Nat.le_refl _
  | cons effect rest ih =>
      refine Nat.le_trans ?_ (ih (run.apply effect))
      cases effect with
      | publish event => simp [WorkerRun.apply]
      | persist content status steps => exact Nat.le_refl _
      | persistLater content status steps => exact Nat.le_refl _

theorem announced_step (run next : WorkerRun) (input : WorkerInput) (taken : run.step input = some next) :
    (announced run.published).length ≤ (announced next.published).length := by
  obtain ⟨⟨state, effects⟩, _, rfl⟩ := Option.map_eq_some_iff.mp taken
  exact announced_apply { run with state } effects

theorem orderly_breaks (run next : WorkerRun) (input : WorkerInput) (succeeds : input.succeeds) (orderly : Orderly run)
    (untimely : ¬ Timely run input) (taken : run.step input = some next) : Disorderly next := by
  obtain ⟨⟨arguments, point, text, steps, status, terminal⟩, published, stored⟩ := run
  cases point with
  | unstarted =>
      cases input with
      | cancelled performed =>
          cases taken
          exact .inr (ends_once_silent _ _ orderly.1)
      | _ => exact (untimely trivial).elim
  | publishStart =>
      cases input with
      | cancelled performed =>
          have silent : announced published = [] := orderly.1
          cases performed with
          | false =>
              cases taken
              exact .inr (ends_once_silent _ _ silent)
          | true =>
              cases taken
              refine .inr (ends_once_silent _ _ ?_)
              simp [publishing, WorkerRun.apply, BrokerEvent.announces, silent]
      | _ => exact (untimely trivial).elim
  | publishError event =>
      cases input with
      | cancelled performed =>
          obtain rfl : performed = true := by simpa [Timely] using untimely
          cases taken
          obtain ⟨silent, _, _, announces⟩ := orderly
          have silent : announced published = [] := silent
          refine .inr ⟨rfl, ?_⟩
          simp [publishing, WorkerRun.apply, announces, silent]
      | _ => exact (untimely trivial).elim
  | publishAborted =>
      cases input with
      | cancelled performed =>
          obtain rfl : performed = false := by simpa [Timely] using untimely
          cases taken
          exact .inr ⟨orderly.2.1, .inl orderly.1⟩
      | _ => exact (untimely trivial).elim
  | persist =>
      cases input with
      | cancelled performed =>
          have silent : announced published = [] := by simpa [Timely] using untimely
          cases performed with
          | false =>
              cases taken
              exact .inr (ends_once_silent _ _ silent)
          | true =>
              cases taken
              exact .inr (ends_once_silent _ _ silent)
      | _ => exact (untimely trivial).elim
  | publishTerminal persisted =>
      -- A terminal event published after another one makes two.
      have again : announced published ≠ [] →
          2 ≤ (announced (published ++ [terminalEvent
            ⟨arguments, .publishTerminal persisted, text, steps, status, terminal⟩ persisted])).length := by
        intro out
        have := List.length_pos_iff.mpr out
        rw [announced_snoc, terminal_event_announces, List.length_append]
        simp only [Option.toList_some, List.length_singleton]
        omega
      cases input with
      | completes =>
          cases taken
          exact .inl (again untimely)
      | cancelled performed =>
          cases performed with
          | true =>
              cases taken
              exact .inl (again (by simpa [Timely] using untimely))
          | false =>
              cases taken
              have silent : announced published = [] := by simpa [Timely] using untimely
              exact .inr (ends_once_silent _ _ silent)
      | _ => exact (untimely trivial).elim
  | nextEvent => exact (untimely (by cases input <;> trivial)).elim
  | publishEvent event => exact (untimely (by cases input <;> trivial)).elim
  | publishFailure failure => exact (untimely (by cases input <;> trivial)).elim
  | finished => exact (untimely (by cases input <;> trivial)).elim

theorem disorderly_stays (run next : WorkerRun) (input : WorkerInput) (succeeds : input.succeeds)
    (disorderly : Disorderly run) (taken : run.step input = some next) : Disorderly next := by
  rcases disorderly with many | way
  · exact .inl (Nat.le_trans many (announced_step run next input taken))
  obtain ⟨⟨arguments, point, text, steps, status, terminal⟩, published, stored⟩ := run
  cases point with
  | publishAborted =>
      obtain ⟨rfl, error⟩ : status = .aborted ∧ announced published = [.error] := way
      have two : 2 ≤ (announced (published ++ [abortedEvent arguments])).length := by
        simp [error, abortedEvent, BrokerEvent.announces]
      cases input with
      | completes =>
          cases taken
          exact .inl two
      | cancelled performed =>
          cases performed with
          | false =>
              cases taken
              exact .inr ⟨rfl, .inr error⟩
          | true =>
              cases taken
              exact .inl two
      | fails failure performed => exact succeeds.elim
      | _ => cases taken
  | persist =>
      obtain ⟨rfl, few⟩ : status = .aborted ∧ (announced published = [] ∨ announced published = [.error]) := way
      have unannounced : ¬ EndsOnce published (some .aborted) := by
        refine aborted_unannounced _ _ rfl ?_
        rcases few with none | error
        · simp [none]
        · simp [error]
      cases input with
      | completes =>
          cases taken
          cases terminal with
          | false => exact .inr ⟨rfl, rfl, few⟩
          | true => exact .inr unannounced
      | cancelled performed =>
          cases performed with
          | false =>
              cases taken
              exact .inr unannounced
          | true =>
              cases taken
              exact .inr unannounced
      | fails failure performed => exact succeeds.elim
      | _ => cases taken
  | publishTerminal persisted =>
      obtain ⟨rfl, rfl, few⟩ : status = .aborted ∧ stored = some .aborted ∧
        (announced published = [] ∨ announced published = [.error]) := way
      have unannounced : ¬ EndsOnce published (some .aborted) := by
        refine aborted_unannounced _ _ rfl ?_
        rcases few with none | error
        · simp [none]
        · simp [error]
      have still : ¬ EndsOnce (published ++ [terminalEvent
          ⟨arguments, .publishTerminal persisted, text, steps, .aborted, terminal⟩ persisted]) (some .aborted) := by
        refine aborted_unannounced _ _ rfl ?_
        rw [announced_snoc, terminal_event_announces]
        rcases few with none | error
        · simp [none]
        · simp [error]
      cases input with
      | completes =>
          cases taken
          exact .inr still
      | cancelled performed =>
          cases performed with
          | false =>
              cases taken
              exact .inr unannounced
          | true =>
              cases taken
              exact .inr still
      | fails failure performed => exact succeeds.elim
      | _ => cases taken
  | finished => cases input <;> cases taken
  | unstarted => exact way.elim
  | publishStart => exact way.elim
  | nextEvent => exact way.elim
  | publishEvent event => exact way.elim
  | publishError event => exact way.elim
  | publishFailure failure => exact way.elim

theorem worker_protocol_iff (arguments : WorkerArguments) (inputs : List WorkerInput) (final : WorkerRun)
    (run : runFrom WorkerRun.step ⟨{ arguments }, [], none⟩ inputs = some final)
    (ended : final.state.point = .finished) (succeed : ∀ input ∈ inputs, input.succeeds) :
    Protocol final ↔ StepsMeet WorkerRun.step Timely ⟨{ arguments }, [], none⟩ inputs := by
  have initial : Orderly ⟨{ arguments }, [], none⟩ := And.intro rfl (And.intro rfl rfl)
  have ways := run_good_or_bad WorkerInput.succeeds Timely Orderly Disorderly
    (fun run input next succeeds orderly timely => orderly_step run next input succeeds orderly timely)
    (fun run input next succeeds orderly untimely => orderly_breaks run next input succeeds orderly untimely)
    (fun run input next succeeds disorderly => disorderly_stays run next input succeeds disorderly)
    _ final inputs succeed initial run
  rcases ways with ⟨timely, orderly⟩ | ⟨untimely, disorderly⟩
  · refine ⟨fun _ => timely, fun _ => ?_⟩
    simpa only [Orderly, ended] using orderly
  · refine ⟨fun kept => absurd kept ?_, fun timely => absurd timely untimely⟩
    rcases disorderly with many | way
    · exact ends_once_single _ _ many
    · simpa only [ended] using way

def answerArguments : WorkerArguments :=
  { assistantMessageId := 1, workspaceId := 2, conversationId := 3, requestId := 4, traceId := 5, question := "count" }

-- The worker streams one text and ends, and nobody cancels it.
def answerInputs : List WorkerInput :=
  [.begin, .completes, .event { type := .text, text := some "42" }, .completes, .event { type := .done }, .completes,
    .completes]

theorem worker_protocol_iff_answer :
    ∃ final, runFrom WorkerRun.step ⟨{ arguments := answerArguments }, [], none⟩ answerInputs = some final ∧
      Protocol final := by
  refine ⟨_, rfl, (worker_protocol_iff answerArguments answerInputs _ rfl rfl ?_).mpr ?_⟩
  · simp [answerInputs, WorkerInput.succeeds]
  · simp [answerInputs, StepsMeet, WorkerRun.step, workerStep, Timely, WorkerState.at, WorkerState.receive,
      WorkerRun.apply, WorkerState.persisted, WorkerState.content, announced, BrokerEvent.announces, doneStatus,
      dictGet, Json.truthy]

-- A task that is cancelled before its first step leaves its message streaming.
theorem unstarted_cancelled :
    ¬ ∀ (arguments : WorkerArguments) (inputs : List WorkerInput) (final : WorkerRun),
      runFrom WorkerRun.step ⟨{ arguments }, [], none⟩ inputs = some final → final.state.point = .finished →
        (∀ input ∈ inputs, input.succeeds) → Protocol final := by
  intro claim
  have kept := claim answerArguments [.cancelled false] _ rfl rfl (by simp [WorkerInput.succeeds])
  exact ends_once_silent [] none rfl kept

end DataPilot.Chat
