import DataPilot.Agent.Guardrails
import DataPilot.Chat.Runtime

set_option autoImplicit false

namespace DataPilot.Chat

open DataPilot.Base DataPilot.Tools DataPilot.Agent

inductive TextChange where
  | append (text : String)
  | clear

def TextChange.apply (text : String) : TextChange → String
  | .append more => text ++ more
  | .clear => ""

def foldText (text : String) (changes : List TextChange) : String := changes.foldl TextChange.apply text

@[simp] theorem fold_text_append (text : String) (first second : List TextChange) :
    foldText text (first ++ second) = foldText (foldText text first) second := List.foldl_append

def agentChange : AgentStreamEvent → Option TextChange
  | .textDelta text => some (.append text)
  | .textReset => some .clear
  | _ => none

def agentText (text : String) (events : List AgentStreamEvent) : String := foldText text (events.filterMap agentChange)

def brokerChange : BrokerEvent → Option TextChange
  | .runtime event =>
      match event.type with
      | .text => some (.append (event.text.getD ""))
      | .textReset => some .clear
      | _ => none
  | _ => none

def publishedText (effects : List Effect) : String := foldText "" ((published effects).filterMap brokerChange)

def Agrees (result : AgentRunResult) (effects : List Effect) : Prop :=
  if result.status = .completed then
    publishedText effects = result.output.getD "" ∧ persistedContent effects = some (result.output.getD "")
  else
    publishedText effects = "" ∧
      ∃ reason, result.terminationReason = some reason ∧ persistedContent effects = some reason

@[simp] theorem agent_text_append (text : String) (first second : List AgentStreamEvent) :
    agentText text (first ++ second) = agentText (agentText text first) second := by
  simp [agentText]

theorem read_event_text (buffer : StreamBuffer) (event : StreamEvent) :
    agentText (String.join buffer.textParts) (readEvent buffer event).2 =
      String.join (readEvent buffer event).1.textParts := by
  fun_cases readEvent <;> simp [agentText, agentChange, foldText, TextChange.apply, String.join_append]

theorem read_events_text (buffer : StreamBuffer) (events : List StreamEvent) :
    agentText (String.join buffer.textParts) (readEvents buffer events).2 =
      String.join (readEvents buffer events).1.textParts := by
  induction events generalizing buffer with
  | nil => rfl
  | cons event rest ih =>
      rw [readEvents, agent_text_append, read_event_text]
      exact ih (readEvent buffer event).1

theorem reset_events_text (text : String) (calls : List ToolCall) (discarded : Bool)
    (kept : discarded = false → text = "") :
    agentText text (resetEvents calls discarded) = if calls = [] then text else "" := by
  cases calls with
  | nil => rfl
  | cons call rest =>
      cases discarded with
      | true => rfl
      | false => simpa [resetEvents, agentText, foldText] using kept rfl

theorem chat_answer_text (outcome : Except PyException LLMResponse) (response : LLMResponse)
    (answered : (chatAnswer outcome).response = .ok response) :
    agentText "" (chatAnswer outcome).events = if response.toolCalls = [] then response.content.getD "" else "" := by
  cases outcome with
  | error failure => cases answered
  | ok response' =>
      obtain rfl : response' = response := by simpa [chatAnswer] using answered
      have delivered : agentText "" (textEvents (response'.content.getD "")) = response'.content.getD "" := by
        unfold textEvents
        split
        · rename_i empty
          rw [empty]
          rfl
        · simp [agentText, agentChange, foldText, TextChange.apply]
      rw [chatAnswer, agent_text_append, delivered]
      exact reset_events_text _ _ _ (by simp)

variable (host : Host)

theorem stream_answer_text (stream : ModelStream) (response : LLMResponse)
    (answered : (streamAnswer host stream).response = .ok response) :
    agentText "" (streamAnswer host stream).events =
      if response.toolCalls = [] then response.content.getD "" else "" := by
  have read := read_events_text {} stream.events
  unfold streamAnswer at answered ⊢
  dsimp only at answered ⊢
  split at answered
  · cases answered
  split at answered
  · cases answered
  rename_i calls assembled
  cases answered
  dsimp only
  rw [agent_text_append, show agentText "" _ = _ from read, reset_events_text]
  · cases calls <;> simp
  · intro silent
    rw [show (readEvents {} stream.events).1.textParts = [] by simpa using silent]
    rfl

theorem model_answer_text (agent : Agent) (definitions : List ToolDefinition) (step : Nat)
    (messages : List ChatMessage) (response : LLMResponse)
    (answered : (modelAnswer host agent definitions step messages).response = .ok response) :
    agentText "" (modelAnswer host agent definitions step messages).events =
      if response.toolCalls = [] then response.content.getD "" else "" := by
  unfold modelAnswer at answered ⊢
  split at answered
  · exact stream_answer_text host _ response answered
  · exact chat_answer_text _ response answered

def completion : AgentStreamEvent → Option AgentRunResult
  | .completed result => some result
  | _ => none

def isCompleted : AgentStreamEvent → Bool
  | .completed _ => true
  | _ => false

def Settles (text : String) (result : AgentRunResult) : Prop :=
  if result.status = .completed then text = result.output.getD ""
  else text = "" ∧ ∃ reason, reason ≠ "" ∧ result.terminationReason = some reason

def Closes (events : List AgentStreamEvent) (result : AgentRunResult) : Prop :=
  ∃ before, events = before ++ [.completed result] ∧ before.countP isCompleted = 0 ∧ Settles (agentText "" before) result

theorem emitted_append (first second : List Action) : emitted (first ++ second) = emitted first ++ emitted second :=
  List.filterMap_append ..

theorem emitted_emits (events : List AgentStreamEvent) : emitted (events.map .emit) = events := by
  induction events with
  | nil => rfl
  | cons event rest ih => simpa [emitted, emittedEvent] using ih

theorem emitted_answer (messages : List ChatMessage) (events : List AgentStreamEvent) (response : LLMResponse)
    (settled : List Action) :
    emitted (.request messages :: events.map .emit ++ .respond response :: settled) = events ++ emitted settled := by
  rw [emitted_append, show emitted (.request messages :: events.map .emit) = events from emitted_emits events]
  rfl

theorem texts_uncompleted (events : List AgentStreamEvent) (texts : ∀ event ∈ events, event.isText = true) :
    events.countP isCompleted = 0 := by
  rw [List.countP_eq_zero]
  intro event member
  have text := texts event member
  cases event with
  | completed result => cases text
  | _ => simp [isCompleted]

theorem batch_emitted (ended : List ToolExecution) (record : AgentStep) :
    emitted (ended.map .execute ++ [.emit (.step record)]) = [.step record] := by
  induction ended with
  | nil => rfl
  | cons execution rest ih => exact ih

theorem append_nonempty (first second : String) (nonempty : second ≠ "") : first ++ second ≠ "" :=
  fun empty => nonempty (String.append_eq_empty_iff.mp empty).2

theorem token_budget_reason_nonempty (config : AgentConfig) (usage : TokenUsage) :
    tokenBudgetReason config usage ≠ "" := append_nonempty _ "。" (by decide)

theorem tool_budget_reason_nonempty (config : AgentConfig) (calls : Nat) : toolBudgetReason config calls ≠ "" :=
  append_nonempty _ "。请缩小分析范围后重试。" (by decide)

theorem loop_reason_nonempty (duplicates : List Signature) : loopReason duplicates ≠ "" :=
  append_nonempty _ "。请更换分析维度或参数后重试。" (by decide)

theorem max_steps_reason_nonempty (config : AgentConfig) : maxStepsReason config ≠ "" :=
  append_nonempty _ "，Agent 已停止。" (by decide)

theorem settles_stopped (text reason : String) (result : AgentRunResult) (stopped : result.status ≠ .completed)
    (cleared : text = "") (nonempty : reason ≠ "") (ends : result.terminationReason = some reason) :
    Settles text result := by
  rw [Settles, if_neg stopped]
  exact ⟨cleared, reason, nonempty, ends⟩

structure RoundText (text : List AgentStreamEvent) (round : AgentRound) : Prop where
  closes : round.next = .ok none → ∃ result, Closes (text ++ emitted round.actions) result
  unclosed : round.next ≠ .ok none → (emitted round.actions).countP isCompleted = 0
  cleared : ∀ next, round.next = .ok (some next) → agentText "" (text ++ emitted round.actions) = ""

theorem finish_text (text : List AgentStreamEvent) (state : LoopState) (step : AgentStep) (status : AgentStatus)
    (output reason : Option String) (texts : text.countP isCompleted = 0)
    (settles : Settles (agentText "" text)
      (({ state with steps := state.steps ++ [step] } : LoopState).result status output reason)) :
    RoundText text (finish state step status output reason) := by
  have last : text ++ emitted (finish state step status output reason).actions = (text ++ [.step step]) ++
      [.completed (({ state with steps := state.steps ++ [step] } : LoopState).result status output reason)] := by
    simp [emitted, emittedEvent, finish]
  refine ⟨fun _ => ⟨_, _, last, ?_, ?_⟩, fun goes => absurd rfl goes, fun _ continued => by cases continued⟩
  · simp [texts, isCompleted]
  · rw [agent_text_append]
    exact settles

theorem stop_text (text : List AgentStreamEvent) (state : LoopState) (step : AgentStep) (status : AgentStatus)
    (reason : String) (texts : text.countP isCompleted = 0) (cleared : agentText "" text = "")
    (stopped : status ≠ .completed) (nonempty : reason ≠ "") : RoundText text (stopWith state step status reason) := by
  refine finish_text text state step status (some reason) (some reason) texts ?_
  exact settles_stopped _ reason _ stopped cleared nonempty rfl

theorem act_text (agent : Agent) (step : Nat) (state : LoopState) (response : LLMResponse) (verdict : Verdict)
    (text : List AgentStreamEvent) (texts : text.countP isCompleted = 0)
    (held : agentText "" text = if response.toolCalls = [] then response.content.getD "" else "")
    (justified : Justified host.normalizer agent.config state response.toolCalls verdict) :
    RoundText text (act host agent step state response verdict) := by
  have cleared : response.toolCalls ≠ [] → agentText "" text = "" := fun calls => by rw [held, if_neg calls]
  cases verdict with
  | completed =>
      refine finish_text text state _ .completed response.content none texts ?_
      rw [held, if_pos (show response.toolCalls = [] from justified)]
      rfl
  | tokenBudgetExceeded =>
      exact stop_text text state _ _ _ texts (cleared justified.1) (by decide) (token_budget_reason_nonempty _ _)
  | toolBudgetExceeded =>
      exact stop_text text state _ _ _ texts (cleared justified.1) (by decide) (tool_budget_reason_nonempty _ _)
  | loopDetected duplicates =>
      refine stop_text text state _ _ _ texts (cleared ?_) (by decide) (loop_reason_nonempty _)
      intro nothing
      obtain ⟨current, computed, repeated⟩ := justified
      obtain rfl : current = [] := by simpa [nothing, callSignatures] using computed.symm
      simp at repeated
  | replan =>
      refine ⟨fun ends => absurd ends (by simp [act]), fun _ => rfl, fun next continued => ?_⟩
      rw [agent_text_append, cleared justified.1]
      rfl
  | accepted signatures =>
      have recorded : emitted (act host agent step state response (.accepted signatures)).actions = [.step _] :=
        batch_emitted _ _
      refine ⟨fun ends => ?_, fun _ => ?_, fun next continued => ?_⟩
      · dsimp only [act, executeBatch] at ends
        cases written : toolMessages agent.config (executeToolCalls host agent step response.toolCalls).returned with
        | error failure => simp [written, Except.map] at ends
        | ok messages => simp [written, Except.map] at ends
      · rw [recorded]
        rfl
      · rw [recorded, agent_text_append, cleared justified.1]
        rfl

theorem round_text (agent : Agent) (definitions : List ToolDefinition) (step : Nat) (state : LoopState) :
    RoundText [] (agentRound host agent definitions step state) := by
  rcases agent_round_ways host agent definitions step state with
    ⟨failure, _, round⟩ | ⟨messages, failure, _, _, round⟩ | ⟨messages, response, _, answered, round⟩
  · rw [round]
    exact ⟨nofun, fun _ => rfl, nofun⟩
  · have texts := texts_uncompleted _ (model_answer_texts host agent definitions step messages)
    rw [round]
    refine ⟨nofun, fun _ => ?_, nofun⟩
    rw [show emitted (.request messages :: _) = _ from emitted_emits _]
    exact texts
  · have texts := texts_uncompleted _ (model_answer_texts host agent definitions step messages)
    have held := model_answer_text host agent definitions step messages response answered
    rw [round]
    have settled : RoundText (modelAnswer host agent definitions step messages).events
        (settle host agent step state response) := by
      rcases settle_ways host agent step state response with ⟨failure, _, _, settled⟩ | ⟨verdict, justified, settled⟩
      · rw [settled]
        exact ⟨nofun, fun _ => rfl, nofun⟩
      · rw [settled]
        exact act_text host agent step _ response verdict _ texts held justified
    refine ⟨fun ends => ?_, fun goes => ?_, fun next continued => ?_⟩
    · rw [List.nil_append, emitted_answer]
      exact settled.closes ends
    · rw [emitted_answer, List.countP_append, texts, settled.unclosed goes]
    · rw [List.nil_append, emitted_answer]
      exact settled.cleared next continued

theorem closes_only (events : List AgentStreamEvent) (closing result : AgentRunResult) (closes : Closes events closing)
    (member : .completed result ∈ events) : closing = result := by
  obtain ⟨before, rfl, uncompleted, _⟩ := closes
  rcases List.mem_append.mp member with earlier | last
  · have unwritten := List.countP_eq_zero.mp uncompleted _ earlier
    simp [isCompleted] at unwritten
  · exact (AgentStreamEvent.completed.inj (List.mem_singleton.mp last)).symm

theorem stream_closes (agent : Agent) (userInput : String) (systemPrompt : Option String) (history : List ChatMessage)
    (result : AgentRunResult)
    (completed : .completed result ∈ emitted (stream host agent userInput systemPrompt history).actions) :
    Closes (emitted (stream host agent userInput systemPrompt history).actions) result := by
  unfold stream at completed ⊢
  cases defined : agent.tools.definitions with
  | error failure => simp [defined, AgentRun.actions, emitted] at completed
  | ok definitions =>
      rw [defined] at completed
      dsimp only at completed ⊢
      revert completed
      refine run_rounds_rule host agent definitions (agent.config.maxSteps + 1)
        (fun _ past _ => agentText "" (emitted past.flatten) = "" ∧ (emitted past.flatten).countP isCompleted = 0)
        (fun run => .completed result ∈ emitted run.actions → Closes (emitted run.actions) result)
        ?_ ?_ ?_ ?_ agent.config.maxSteps 1 [] { messages := initialMessages userInput systemPrompt history } (by omega)
        ⟨rfl, rfl⟩
      · intro step past state failure _ good raised member
        have unclosed := (round_text host agent definitions step state).unclosed (by simp [raised])
        rw [AgentRun.actions, List.append_nil, flatten_snoc, emitted_append] at member
        have unwritten : (emitted past.flatten ++ emitted (agentRound host agent definitions step state).actions).countP
            isCompleted = 0 := by rw [List.countP_append, good.2, unclosed]
        have absent := List.countP_eq_zero.mp unwritten _ member
        simp [isCompleted] at absent
      · intro step past state _ good returned member
        obtain ⟨closing, before, round, uncompleted, settles⟩ :=
          (round_text host agent definitions step state).closes returned
        rw [AgentRun.actions, List.append_nil, flatten_snoc, emitted_append] at member ⊢
        have closes : Closes (emitted past.flatten ++ emitted (agentRound host agent definitions step state).actions)
            closing := by
          refine ⟨emitted past.flatten ++ before, ?_, ?_, ?_⟩
          · rw [List.append_assoc, ← round]
            rfl
          · rw [List.countP_append, good.2, uncompleted]
          · rw [agent_text_append, good.1]
            exact settles
        exact closes_only _ closing result closes member ▸ closes
      · intro step past state next _ good continued
        have rule := round_text host agent definitions step state
        rw [flatten_snoc, emitted_append]
        refine ⟨?_, ?_⟩
        · rw [agent_text_append, good.1]
          exact rule.cleared next continued
        · rw [List.countP_append, good.2, rule.unclosed (by simp [continued])]
      · intro past state good member
        rw [AgentRun.actions, emitted_append] at member ⊢
        have closes : Closes (emitted past.flatten ++ [.completed (state.result .maxSteps
            (some (maxStepsReason agent.config)) (some (maxStepsReason agent.config)))]) _ :=
          ⟨emitted past.flatten, rfl, good.2,
            settles_stopped _ _ _ (by simp [LoopState.result]) good.1 (max_steps_reason_nonempty agent.config) rfl⟩
        exact closes_only _ _ result closes member ▸ closes

@[simp] theorem published_text_append (effects more : List Effect) :
    publishedText (effects ++ more) = foldText (publishedText effects) ((published more).filterMap brokerChange) := by
  simp [publishedText, published]

structure Flowing (chat : ChatRun) (text : String) : Prop where
  waits : chat.state.point = .nextEvent
  status : chat.state.messageStatus = .completed
  terminal : chat.state.terminalPublished = false
  held : chat.state.accumulatedText = text
  shown : publishedText chat.effects = text
  unstored : chat.effects.filterMap Effect.stored = []

theorem uninterrupted_add (first second : Nat) (chat : ChatRun) :
    uninterrupted (first + second) chat = uninterrupted second (uninterrupted first chat) := by
  rw [Nat.add_comm]
  exact Function.iterate_add_apply ChatRun.advance second first chat

theorem flowing_published (chat : ChatRun) (text changed : String) (event : RuntimeEvent) (later : List RuntimeEvent)
    (steps : List AgentStep) (flowing : Flowing chat text) (coming : chat.runtime.events = event :: later)
    (received : chat.state.receive event =
      { chat.state with accumulatedText := changed, steps, point := .publishEvent event })
    (reads : foldText text ((brokerChange (.runtime event)).toList) = changed) :
    Flowing (uninterrupted 2 chat) changed ∧ (uninterrupted 2 chat).runtime.events = later := by
  obtain ⟨⟨arguments, point, held, steps', status, terminal⟩, ⟨events, outcome⟩, effects⟩ := chat
  obtain ⟨waits, completed, unpublished, holds, shown, unstored⟩ := flowing
  dsimp only at waits completed unpublished holds shown unstored coming received
  subst waits completed unpublished holds coming
  have twice : uninterrupted 2 ⟨⟨arguments, .nextEvent, held, steps', .completed, false⟩, ⟨event :: later, outcome⟩,
      effects⟩ = ⟨⟨arguments, .nextEvent, changed, steps, .completed, false⟩, ⟨later, outcome⟩,
        effects ++ [.publish (.runtime event)]⟩ := by
    simp [uninterrupted, ChatRun.advance, ChatRun.input, workerStep, received, WorkerState.at]
  rw [twice]
  refine ⟨⟨rfl, rfl, rfl, rfl, ?_, ?_⟩, rfl⟩
  · rw [published_text_append, shown, ← reads]
    cases change : brokerChange (.runtime event) <;> simp [published, Effect.published, change]
  · simp [unstored, Effect.stored]

theorem flowing_event (chat : ChatRun) (text : String) (event : AgentStreamEvent) (later : List AgentStreamEvent)
    (flowing : Flowing chat text) (unclosed : isCompleted event = false)
    (coming : chat.runtime.events = (event :: later).filterMap runtimeEvent) :
    ∃ steps, Flowing (uninterrupted steps chat) (agentText text [event]) ∧
      (uninterrupted steps chat).runtime.events = later.filterMap runtimeEvent := by
  have held := flowing.held
  cases event with
  | textDelta more =>
      by_cases empty : more = ""
      · have nothing : agentText text [.textDelta more] = text := by
          simp [empty, agentText, agentChange, foldText, TextChange.apply]
        refine ⟨0, ?_, ?_⟩
        · rw [nothing]
          exact flowing
        · simpa [uninterrupted, runtimeEvent, empty] using coming
      · refine ⟨2, flowing_published chat text _ { type := .text, text := some more } _ chat.state.steps flowing ?_ ?_ rfl⟩
        · simpa [runtimeEvent, empty] using coming
        · simp [WorkerState.receive, empty, held, agentText, agentChange, foldText, TextChange.apply]
  | textReset =>
      refine ⟨2, flowing_published chat text _ { type := .textReset } _ chat.state.steps flowing coming ?_ rfl⟩
      simp [WorkerState.receive, agentText, agentChange, foldText, TextChange.apply]
  | step step =>
      refine ⟨2, flowing_published chat text _ { type := .step, step := some step } _ (chat.state.steps ++ [step])
        flowing coming ?_ rfl⟩
      have nothing : agentText text [.step step] = text := rfl
      simp [WorkerState.receive, nothing, held]
  | completed result => cases unclosed

theorem flowing_events (before later : List AgentStreamEvent) (chat : ChatRun) (text : String)
    (flowing : Flowing chat text) (unclosed : before.countP isCompleted = 0)
    (coming : chat.runtime.events = (before ++ later).filterMap runtimeEvent) :
    ∃ steps, Flowing (uninterrupted steps chat) (agentText text before) ∧
      (uninterrupted steps chat).runtime.events = later.filterMap runtimeEvent := by
  induction before generalizing chat text with
  | nil => exact ⟨0, flowing, coming⟩
  | cons event rest ih =>
      rw [List.countP_cons, Nat.add_eq_zero_iff] at unclosed
      obtain ⟨first, flowing, coming⟩ := flowing_event chat text event (rest ++ later) flowing
        (by simpa using unclosed.2) coming
      obtain ⟨second, flowing, coming⟩ := ih _ _ flowing unclosed.1 coming
      refine ⟨first + second, ?_⟩
      rw [uninterrupted_add, ← List.singleton_append, agent_text_append]
      exact ⟨flowing, coming⟩

theorem flowing_completed (chat : ChatRun) (text : String) (result : AgentRunResult) (flowing : Flowing chat text)
    (settles : Settles text result) (coming : chat.runtime.events = [AgentStreamEvent.completed result].filterMap runtimeEvent) :
    (uninterrupted 3 chat).state.point = .finished ∧ Agrees result (uninterrupted 3 chat).effects := by
  obtain ⟨⟨arguments, point, held, steps, status, terminal⟩, ⟨events, outcome⟩, effects⟩ := chat
  obtain ⟨waits, completed, unpublished, holds, shown, unstored⟩ := flowing
  dsimp only at waits completed unpublished holds shown unstored coming
  subst waits completed unpublished holds coming
  by_cases answered : result.status = .completed
  · rw [Settles, if_pos answered] at settles
    have done : doneStatus { type := .done, data := doneData result } = "completed" := by
      rw [doneStatus, doneData, answered]
      rfl
    have ends : uninterrupted 3 ⟨⟨arguments, .nextEvent, held, steps, .completed, false⟩,
        ⟨[AgentStreamEvent.completed result].filterMap runtimeEvent, outcome⟩, effects⟩ =
        ⟨⟨arguments, .finished, held, steps, .completed, false⟩, ⟨[], outcome⟩,
          effects ++ [.persist held .completed steps] ++
            [.publish (.done arguments.conversationId arguments.assistantMessageId true)]⟩ := by
      simp [uninterrupted, ChatRun.advance, ChatRun.input, runtimeEvent, workerStep, WorkerState.receive, answered, done,
        WorkerState.persisted, WorkerState.at, WorkerState.content, terminalEvent]
    rw [ends]
    refine ⟨rfl, ?_⟩
    rw [Agrees, if_pos answered, ← settles]
    refine ⟨?_, ?_⟩
    · rw [published_text_append, published_text_append, shown]
      rfl
    · simp only [persistedContent, List.filterMap_append, unstored]
      rfl
  · rw [Settles, if_neg answered] at settles
    obtain ⟨cleared, reason, nonempty, given⟩ := settles
    have message : stopMessage result = reason := by simp [stopMessage, given, orElseText, nonempty]
    have ends : uninterrupted 3 ⟨⟨arguments, .nextEvent, held, steps, .completed, false⟩,
        ⟨[AgentStreamEvent.completed result].filterMap runtimeEvent, outcome⟩, effects⟩ =
        ⟨⟨arguments, .finished, reason, steps, .error, true⟩, ⟨[], outcome⟩,
          effects ++ [.publish (.runtime { type := .error, message := some reason })] ++
            [.persist reason .error steps]⟩ := by
      simp [uninterrupted, ChatRun.advance, ChatRun.input, runtimeEvent, workerStep, WorkerState.receive, answered,
        message, WorkerState.persisted, WorkerState.at, WorkerState.content, WorkerState.published, orElseText, nonempty]
    rw [ends]
    refine ⟨rfl, ?_⟩
    rw [Agrees, if_neg answered]
    refine ⟨?_, reason, given, ?_⟩
    · rw [published_text_append, published_text_append, shown, cleared]
      rfl
    · simp only [persistedContent, List.filterMap_append, unstored]
      rfl

theorem finished_stays (chat : ChatRun) (finished : chat.state.point = .finished) (steps : Nat) :
    uninterrupted steps chat = chat := by
  have still : chat.advance = chat := by
    simp [ChatRun.advance, ChatRun.input, workerStep, finished]
  exact Function.iterate_fixed still steps

theorem streamed_text_agrees (agent : Agent) (arguments : WorkerArguments) (systemPrompt : String)
    (history : List ChatMessage) (result : AgentRunResult)
    (completed : .completed result ∈ emitted (stream host agent arguments.question (some systemPrompt) history).actions) :
    ∃ enough, ∀ steps ≥ enough,
      let chat := uninterrupted steps ⟨{ arguments }, runtimeStream host agent systemPrompt arguments.question history, []⟩
      chat.state.point = .finished ∧ Agrees result chat.effects := by
  obtain ⟨before, closing, unclosed, settles⟩ :=
    stream_closes host agent arguments.question (some systemPrompt) history result completed
  have opened : Flowing (uninterrupted 2 ⟨{ arguments },
      runtimeStream host agent systemPrompt arguments.question history, []⟩) "" :=
    ⟨rfl, rfl, rfl, rfl, rfl, rfl⟩
  obtain ⟨delivering, flowing, coming⟩ := flowing_events before [.completed result] _ "" opened unclosed
    (by rw [← closing]; rfl)
  obtain ⟨finished, agrees⟩ := flowing_completed _ _ result flowing settles coming
  refine ⟨2 + delivering + 3, fun steps enough => ?_⟩
  obtain ⟨more, rfl⟩ := Nat.exists_eq_add_of_le enough
  rw [uninterrupted_add, uninterrupted_add, uninterrupted_add, finished_stays _ finished]
  exact ⟨finished, agrees⟩

theorem streamed_text_agrees_query :
    ∃ result, result.output = some "done" ∧ ∃ enough, ∀ steps ≥ enough,
      let chat := uninterrupted steps ⟨{ arguments := ⟨1, 2, 3, 4, 5, "How many rows?"⟩ },
        runtimeStream sampleHost (queryAgent "SELECT 1") "Answer briefly." "How many rows?" [], []⟩
      chat.state.point = .finished ∧ Agrees result chat.effects := by
  have answers : (emitted (stream sampleHost (queryAgent "SELECT 1") "How many rows?" (some "Answer briefly.")
      []).actions).any (fun event =>
        (completion event).any fun result => result.output == some "done") = true := by decide +kernel
  obtain ⟨event, member, done⟩ := List.any_eq_true.mp answers
  cases event with
  | completed result =>
      exact ⟨result, by simpa [completion] using done, streamed_text_agrees sampleHost (queryAgent "SELECT 1")
        ⟨1, 2, 3, 4, 5, "How many rows?"⟩ "Answer briefly." [] result member⟩
  | _ => cases done

end DataPilot.Chat
