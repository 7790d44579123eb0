import DataPilot.Agent.StreamedSteps
import DataPilot.Chat.StreamedText

set_option autoImplicit false

namespace DataPilot.Chat

open DataPilot.Base DataPilot.Agent

def RuntimeEvent.carriedStep (event : RuntimeEvent) : Option AgentStep :=
  if event.type = .step then event.step else none

def pendingSteps (events : List RuntimeEvent) : List AgentStep := events.filterMap RuntimeEvent.carriedStep

def RuntimeEvent.closes (event : RuntimeEvent) : Bool := event.type = .done || event.type = .error

def Effect.storedSteps : Effect → Option (List AgentStep)
  | .persist _ _ steps => some steps
  | .persistLater _ _ steps => some steps
  | .publish _ => none

def persistedSteps (effects : List Effect) : Option (List AgentStep) := (effects.filterMap Effect.storedSteps).getLast?

def WorkerPoint.inLoop : WorkerPoint → Bool
  | .unstarted => true
  | .publishStart => true
  | .nextEvent => true
  | .publishEvent _ => true
  | _ => false

-- The steps a worker has and those its runtime still holds are the same all
-- along; what it has stored are all of them.
structure Carried (total : List AgentStep) (chat : ChatRun) : Prop where
  steps : chat.state.steps ++ pendingSteps chat.runtime.events = total
  closing : ∀ event ∈ chat.runtime.events.dropLast, event.closes = false
  left : chat.state.point.inLoop = false → chat.runtime.events = []
  stored : ∀ kept ∈ chat.effects.filterMap Effect.storedSteps, kept = total

theorem receive_steps (state : WorkerState) (event : RuntimeEvent) :
    (state.receive event).steps = state.steps ++ event.carriedStep.toList ∧
      (event.closes = false → state.point = .nextEvent → (state.receive event).point.inLoop = true) := by
  obtain ⟨type, step, text, message, data⟩ := event
  unfold WorkerState.receive RuntimeEvent.carriedStep RuntimeEvent.closes
  cases type with
  | step =>
      cases step with
      | none => exact ⟨by simp, fun _ waits => by rw [waits]; rfl⟩
      | some step => exact ⟨rfl, fun _ _ => rfl⟩
  | text =>
      dsimp only
      split
      · exact ⟨by simp, fun _ waits => by rw [waits]; rfl⟩
      · exact ⟨by simp, fun _ _ => rfl⟩
  | textReset => exact ⟨by simp, fun _ _ => rfl⟩
  | done =>
      dsimp only
      split <;> exact ⟨by simp, by simp⟩
  | error => exact ⟨by simp, by simp⟩

theorem carried_published (total : List AgentStep) (chat : ChatRun) (state : WorkerState) (event : BrokerEvent)
    (carried : Carried total chat) (steps : state.steps = chat.state.steps)
    (left : state.point.inLoop = false → chat.runtime.events = []) :
    Carried total ⟨state, chat.runtime, chat.effects ++ [.publish event]⟩ := by
  refine ⟨?_, carried.closing, left, ?_⟩
  · dsimp only
    rw [steps]
    exact carried.steps
  · rw [List.filterMap_append]
    exact fun kept member => carried.stored kept ((List.mem_append.mp member).resolve_right (by simp [Effect.storedSteps]))

theorem carried_received (total : List AgentStep) (state : WorkerState) (event : RuntimeEvent) (rest : List RuntimeEvent)
    (outcome : Except PyException Unit) (effects : List Effect) (waits : state.point = .nextEvent)
    (carried : Carried total ⟨state, ⟨event :: rest, outcome⟩, effects⟩) :
    Carried total ⟨state.receive event, ⟨rest, outcome⟩, effects⟩ := by
  obtain ⟨held, looping⟩ := receive_steps state event
  have closing := carried.closing
  refine ⟨?_, fun other member => closing other ?_, fun outside => ?_, carried.stored⟩
  · rw [← carried.steps]
    dsimp only
    rw [held, List.append_assoc]
    refine congrArg _ ?_
    cases step : event.carriedStep <;> simp [pendingSteps, step]
  · cases rest with
    | nil => cases member
    | cons next later => exact List.mem_cons_of_mem _ member
  · cases rest with
    | nil => rfl
    | cons next later =>
        have looped := looping (closing event (List.mem_cons_self ..)) waits
        rw [outside] at looped
        cases looped

theorem carried_advance (total : List AgentStep) (chat : ChatRun) (carried : Carried total chat) :
    Carried total chat.advance := by
  obtain ⟨⟨arguments, point, text, steps, status, terminal⟩, ⟨events, outcome⟩, effects⟩ := chat
  cases point with
  | unstarted => exact ⟨carried.steps, carried.closing, (fun closed => by cases closed),
      by simpa [ChatRun.advance, ChatRun.input, workerStep] using carried.stored⟩
  | publishStart => exact carried_published total _ _ _ carried rfl fun closed => by cases closed
  | nextEvent =>
      cases events with
      | cons event rest =>
          have received := carried_received total _ event rest outcome effects rfl carried
          simpa [ChatRun.advance, ChatRun.input, workerStep] using received
      | nil =>
          cases outcome with
          | ok done => exact ⟨carried.steps, carried.closing, fun _ => rfl,
              by simpa [ChatRun.advance, ChatRun.input, workerStep] using carried.stored⟩
          | error failure => exact ⟨carried.steps, carried.closing, fun _ => rfl,
              by simpa [ChatRun.advance, ChatRun.input, workerStep] using carried.stored⟩
  | publishEvent event => exact carried_published total _ _ _ carried rfl fun closed => by cases closed
  | publishError event => exact carried_published total _ _ _ carried rfl fun _ => carried.left rfl
  | publishAborted => exact carried_published total _ _ _ carried rfl fun _ => carried.left rfl
  | publishFailure failure => exact carried_published total _ _ _ carried rfl fun _ => carried.left rfl
  | persist =>
      have silent : events = [] := carried.left rfl
      subst silent
      refine ⟨carried.steps, carried.closing, fun _ => rfl, ?_⟩
      have all : steps = total := by simpa [pendingSteps] using carried.steps
      intro kept member
      simp only [ChatRun.advance, ChatRun.input, workerStep, List.filterMap_append, List.mem_append] at member
      rcases member with earlier | now
      · exact carried.stored kept earlier
      · rw [← all]
        simpa [WorkerState.content, Effect.storedSteps] using now
  | publishTerminal persisted => exact carried_published total _ _ _ carried rfl fun _ => carried.left rfl
  | finished => exact carried

theorem carried_run (total : List AgentStep) (chat : ChatRun) (carried : Carried total chat) (steps : Nat) :
    Carried total (uninterrupted steps chat) := by
  induction steps with
  | zero => exact carried
  | succ steps ih =>
      rw [uninterrupted, Function.iterate_succ_apply']
      exact carried_advance total _ ih

theorem pending_emitted (actions : List Action) :
    pendingSteps ((emitted actions).filterMap runtimeEvent) = streamedSteps actions := by
  rw [pendingSteps, emitted, List.filterMap_filterMap, List.filterMap_filterMap, streamedSteps]
  refine List.filterMap_congr fun action _ => ?_
  cases action with
  | emit event =>
      cases event with
      | textDelta text =>
          by_cases empty : text = ""
          · simp [emittedEvent, runtimeEvent, empty, Action.streamedStep]
          · simp [emittedEvent, runtimeEvent, empty, RuntimeEvent.carriedStep, Action.streamedStep]
      | textReset => rfl
      | step step => rfl
      | completed result =>
          by_cases answered : result.status = .completed
          · simp [emittedEvent, runtimeEvent, answered, RuntimeEvent.carriedStep, Action.streamedStep]
          · simp [emittedEvent, runtimeEvent, answered, RuntimeEvent.carriedStep, Action.streamedStep]
  | _ => rfl

theorem runtime_event_closes (event : AgentStreamEvent) (delivered : RuntimeEvent) (unclosed : isCompleted event = false)
    (same : runtimeEvent event = some delivered) : delivered.closes = false := by
  cases event with
  | textDelta text =>
      rw [runtimeEvent] at same
      split at same
      · cases same
      · obtain rfl := Option.some.inj same
        rfl
  | textReset =>
      obtain rfl := Option.some.inj same
      rfl
  | step step =>
      obtain rfl := Option.some.inj same
      rfl
  | completed result => cases unclosed

theorem last_of_all {α : Type} (items : List α) (value : α) (all : ∀ item ∈ items, item = value) (filled : items ≠ []) :
    items.getLast? = some value := by
  rw [List.getLast?_eq_some_getLast filled]
  exact congrArg _ (all _ (List.getLast_mem filled))

theorem persisted_content_none (effects : List Effect) (unstored : ∀ effect ∈ effects, effect.storedSteps = none) :
    persistedContent effects = none := by
  have silent : effects.filterMap Effect.stored = [] := by
    refine List.filterMap_eq_nil_iff.mpr fun effect member => ?_
    have absent := unstored effect member
    cases effect with
    | publish event => rfl
    | _ => cases absent
  rw [persistedContent, silent]
  rfl

variable (host : Host)

-- A worker that nobody cancels stores the steps that the run has streamed.
theorem worker_keeps_streamed (agent : Agent) (arguments : WorkerArguments) (systemPrompt : String)
    (history : List ChatMessage) (result : AgentRunResult)
    (completed : .completed result ∈ emitted (stream host agent arguments.question (some systemPrompt) history).actions) :
    ∃ enough, ∀ steps ≥ enough,
      let chat := uninterrupted steps ⟨{ arguments }, runtimeStream host agent systemPrompt arguments.question history, []⟩
      chat.state.point = .finished ∧ persistedSteps chat.effects =
        some (streamedSteps (stream host agent arguments.question (some systemPrompt) history).actions) := by
  obtain ⟨before, closing, unclosed, _⟩ :=
    stream_closes host agent arguments.question (some systemPrompt) history result completed
  have carried : Carried (streamedSteps (stream host agent arguments.question (some systemPrompt) history).actions)
      ⟨{ arguments }, runtimeStream host agent systemPrompt arguments.question history, []⟩ := by
    refine ⟨pending_emitted _, ?_, (fun closed => by cases closed), fun kept stored => by cases stored⟩
    intro event member
    dsimp only [runtimeStream] at member
    rw [closing, List.filterMap_append] at member
    obtain ⟨last, only⟩ : ∃ last, [AgentStreamEvent.completed result].filterMap runtimeEvent = [last] := by
      by_cases answered : result.status = .completed <;> simp [runtimeEvent, answered]
    rw [only, List.dropLast_concat] at member
    obtain ⟨source, present, same⟩ := List.mem_filterMap.mp member
    exact runtime_event_closes source event (by simpa using List.countP_eq_zero.mp unclosed source present) same
  obtain ⟨enough, agrees⟩ := streamed_text_agrees host agent arguments systemPrompt history result completed
  refine ⟨enough, fun steps later => ?_⟩
  obtain ⟨finished, agreed⟩ := agrees steps later
  refine ⟨finished, last_of_all _ _ (carried_run _ _ carried steps).stored fun nothing => ?_⟩
  rw [List.filterMap_eq_nil_iff] at nothing
  have unstored := persisted_content_none _ nothing
  rw [Agrees, unstored] at agreed
  split at agreed
  · cases agreed.2
  · obtain ⟨_, reason, _, stored⟩ := agreed
    cases stored

structure StepsAgree (actions : List Action) (result : AgentRunResult) : Prop where
  streamed : streamedSteps actions = result.steps
  numbered : ((streamedSteps actions).map AgentStep.step).Pairwise (· < ·)
  summed : totalUsage ((streamedSteps actions).map AgentStep.usage) = result.usage
  spent : totalUsage ((responses actions).map LLMResponse.usage) = result.usage

theorem steps_agree_iff (config : AgentConfig) (actions : List Action) (result : AgentRunResult)
    (ledger : Ledger config actions result.steps result.usage) :
    StepsAgree actions result ↔ Unreplanned config actions := by
  rcases ledger.streamed with ⟨unreplanned, same⟩ | ⟨replanned, fewer⟩
  · refine iff_of_true ⟨same, ?_, ?_, ledger.spent⟩ unreplanned
    · rw [same]
      exact ledger.numbered
    · rw [same]
      exact ledger.summed
  · refine iff_of_false (fun agree => ?_) replanned
    rw [agree.streamed] at fewer
    exact Nat.lt_irrefl _ fewer

theorem streamed_steps_iff (agent : Agent) (userInput : String) (systemPrompt : Option String)
    (history : List ChatMessage) (result : AgentRunResult)
    (completed : .completed result ∈ emitted (stream host agent userInput systemPrompt history).actions) :
    (StepsAgree (stream host agent userInput systemPrompt history).actions result ∧
      ∀ (arguments : WorkerArguments) (prompt : String), arguments.question = userInput → systemPrompt = some prompt →
        ∃ enough, ∀ steps ≥ enough,
          let chat := uninterrupted steps ⟨{ arguments }, runtimeStream host agent prompt userInput history, []⟩
          chat.state.point = .finished ∧ persistedSteps chat.effects = some result.steps) ↔
      Unreplanned agent.config (stream host agent userInput systemPrompt history).actions := by
  have emits : .emit (.completed result) ∈ (stream host agent userInput systemPrompt history).actions := by
    obtain ⟨action, member, same⟩ := List.mem_filterMap.mp completed
    cases action with
    | emit event =>
        obtain rfl := Option.some.inj same
        exact member
    | _ => cases same
  have ledger := stream_ledger host agent userInput systemPrompt history result emits
  rw [← steps_agree_iff agent.config _ result ledger]
  refine ⟨And.left, fun agree => ⟨agree, ?_⟩⟩
  rintro arguments prompt rfl rfl
  rw [← agree.streamed]
  exact worker_keeps_streamed host agent arguments prompt history result completed

section Sample

-- A model that asks for four queries at once, for one when it is told to plan
-- again, and then answers.
def eagerAgent : Agent where
  model := {
    chat := fun step _ _ => .ok (if step = 1 then
      { toolCalls := List.replicate 4 (queryCall "SELECT 1"), usage := ⟨10, 5⟩ } else queryResponse "SELECT 1" (step - 1))
    chatStream := none }
  tools := (queryAgent "SELECT 1").tools
  config := (queryAgent "SELECT 1").config

def sampleRun (agent : Agent) : AgentRun := stream sampleHost agent "How many rows?" (some "Answer briefly.") []

end Sample

theorem streamed_steps_iff_query :
    ∃ result, result.output = some "done" ∧
      StepsAgree (stream sampleHost (queryAgent "SELECT 1") "How many rows?" (some "Answer briefly.") []).actions result := by
  obtain ⟨answers, fits⟩ : (emitted (sampleRun (queryAgent "SELECT 1")).actions).any (fun event =>
        (completion event).any fun result => result.output == some "done") = true ∧
      Fits (queryAgent "SELECT 1").config 0 (sampleRun (queryAgent "SELECT 1")).actions := by decide +kernel
  obtain ⟨event, member, done⟩ := List.any_eq_true.mp answers
  cases event with
  | completed result =>
      exact ⟨result, by simpa [completion] using done, ((streamed_steps_iff sampleHost (queryAgent "SELECT 1") "How many rows?"
        (some "Answer briefly.") [] result member).mpr (.inr fits)).1⟩
  | _ => cases done

-- The step of the batch that is planned again is not streamed.
theorem replanned_step_unstreamed :
    ¬ ∀ (host : Host) (agent : Agent) (userInput : String) (systemPrompt : Option String) (history : List ChatMessage)
      (result : AgentRunResult),
      .completed result ∈ emitted (stream host agent userInput systemPrompt history).actions →
        StepsAgree (stream host agent userInput systemPrompt history).actions result := by
  intro claim
  -- One evaluation of the run for both facts.
  obtain ⟨answers, shown⟩ : (emitted (sampleRun eagerAgent).actions).any (fun event =>
      (completion event).any fun result => result.steps.length == 3) = true ∧
        (streamedSteps (sampleRun eagerAgent).actions).length = 2 := by decide +kernel
  obtain ⟨event, member, three⟩ := List.any_eq_true.mp answers
  cases event with
  | completed result =>
      have agree := claim sampleHost eagerAgent "How many rows?" (some "Answer briefly.") [] result member
      have all : result.steps.length = 3 := by simpa [completion] using three
      rw [← agree.streamed] at all
      exact absurd (shown.symm.trans all) (by decide)
  | _ => cases three

end DataPilot.Chat
