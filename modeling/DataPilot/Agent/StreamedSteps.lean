import DataPilot.Agent.Guardrails

set_option autoImplicit false

namespace DataPilot.Agent

open DataPilot.Base DataPilot.Tools DataPilot.Sql

def Action.streamedStep : Action → Option AgentStep
  | .emit (.step step) => some step
  | _ => none

def Action.response : Action → Option LLMResponse
  | .respond response => some response
  | _ => none

def streamedSteps (actions : List Action) : List AgentStep := actions.filterMap Action.streamedStep

def responses (actions : List Action) : List LLMResponse := actions.filterMap Action.response

def totalUsage (usages : List TokenUsage) : TokenUsage := usages.foldl TokenUsage.add {}

def Oversized (config : AgentConfig) (used : Nat) (response : LLMResponse) : Prop :=
  response.toolCalls ≠ [] ∧ used + response.usage.totalTokens ≤ config.maxTotalTokens ∧
    config.maxToolCallsPerStep < response.toolCalls.length

-- The trace is read with the tokens used so far.
def Fits (config : AgentConfig) : Nat → List Action → Prop
  | _, [] => True
  | used, action :: rest =>
      (∀ response ∈ action.response, ¬ Oversized config used response) ∧ Fits config (used + action.tokens) rest

instance (config : AgentConfig) (used : Nat) (response : LLMResponse) : Decidable (Oversized config used response) :=
  inferInstanceAs (Decidable (_ ∧ _ ∧ _))

instance decidableFits (config : AgentConfig) : (used : Nat) → (actions : List Action) → Decidable (Fits config used actions)
  | _, [] => isTrue trivial
  | used, action :: rest =>
      have := decidableFits config (used + action.tokens) rest
      inferInstanceAs (Decidable ((∀ response ∈ action.response, ¬ Oversized config used response) ∧
        Fits config (used + action.tokens) rest))

def Unreplanned (config : AgentConfig) (actions : List Action) : Prop :=
  config.maxToolBudgetRetries = 0 ∨ Fits config 0 actions

@[simp] theorem streamed_steps_append (first second : List Action) :
    streamedSteps (first ++ second) = streamedSteps first ++ streamedSteps second := List.filterMap_append ..

@[simp] theorem responses_append (first second : List Action) :
    responses (first ++ second) = responses first ++ responses second := List.filterMap_append ..

theorem total_usage_snoc (usages : List TokenUsage) (usage : TokenUsage) :
    totalUsage (usages ++ [usage]) = (totalUsage usages).add usage := List.foldl_concat ..

theorem fits_append (config : AgentConfig) (used : Nat) (first second : List Action) :
    Fits config used (first ++ second) ↔ Fits config used first ∧ Fits config (used + tokensUsed first) second := by
  induction first generalizing used with
  | nil => simp [Fits, tokensUsed]
  | cons action rest ih =>
      simp only [List.cons_append, Fits, ih, tokensUsed, List.map_cons, List.sum_cons, Nat.add_assoc, and_assoc]

theorem fits_quiet (config : AgentConfig) (used : Nat) (actions : List Action) (quiet : responses actions = []) :
    Fits config used actions := by
  induction actions generalizing used with
  | nil => trivial
  | cons action rest ih =>
      rw [responses, List.filterMap_eq_nil_iff] at quiet
      refine ⟨fun response given => ?_, ih _ ?_⟩
      · rw [quiet action (List.mem_cons_self ..)] at given
        cases given
      · exact List.filterMap_eq_nil_iff.mpr fun later member => quiet later (List.mem_cons_of_mem _ member)

theorem fits_single (config : AgentConfig) (used : Nat) (actions : List Action) (response : LLMResponse)
    (answered : responses actions = [response]) : Fits config used actions ↔ ¬ Oversized config used response := by
  induction actions with
  | nil => cases answered
  | cons action rest ih =>
      rw [responses, List.filterMap_cons] at answered
      cases action with
      | respond other =>
          obtain ⟨rfl, silent⟩ := List.cons.inj answered
          rw [Fits]
          refine ⟨fun fits => fits.1 other rfl, fun small => ⟨?_, fits_quiet config _ rest silent⟩⟩
          intro response given
          rw [← Option.mem_some_iff.mp given]
          exact small
      | _ =>
          rw [← ih answered, Fits]
          simp [Action.tokens, Action.response]

theorem tokens_used_responses (actions : List Action) (start : TokenUsage) :
    start.totalTokens + tokensUsed actions =
      (((responses actions).map LLMResponse.usage).foldl TokenUsage.add start).totalTokens := by
  induction actions generalizing start with
  | nil => rfl
  | cons action rest ih =>
      have later := ih start
      cases action with
      | respond response =>
          have spent := ih (start.add response.usage)
          rw [total_tokens_add] at spent
          simp only [tokensUsed, List.map_cons, List.sum_cons, Action.tokens, responses, List.filterMap_cons,
            Action.response, List.foldl_cons] at spent ⊢
          omega
      | _ =>
          simp only [responses] at later ⊢
          rw [List.filterMap_cons_none rfl, ← later]
          simp [tokensUsed, Action.tokens]

structure StepTaken (config : AgentConfig) (step : Nat) (state : LoopState) (response : LLMResponse) (record : AgentStep)
    (shown : Bool) (round : AgentRound) : Prop where
  number : record.step = step
  content : record.assistantContent = response.content
  usage : record.usage = response.usage
  streamed : streamedSteps round.actions = if shown then [record] else []
  hidden : shown = false ↔ Oversized config state.usage.totalTokens response ∧
    state.toolBudgetRetries < config.maxToolBudgetRetries
  returns : round.next = .ok none → shown = true ∧ ∀ result, .emit (.completed result) ∈ round.actions →
    result.steps = state.steps ++ [record] ∧ result.usage = state.usage.add response.usage
  continues : ∀ next, round.next = .ok (some next) → next.steps = state.steps ++ [record] ∧
    next.usage = state.usage.add response.usage ∧
    next.toolBudgetRetries = state.toolBudgetRetries + if shown then 0 else 1
  uncompleted : round.next ≠ .ok none → ∀ result, .emit (.completed result) ∉ round.actions

variable (host : Host)

theorem finish_step (config : AgentConfig) (step : Nat) (state : LoopState) (response : LLMResponse)
    (status : AgentStatus) (output reason : Option String)
    (kept : ¬ (Oversized config state.usage.totalTokens response ∧
      state.toolBudgetRetries < config.maxToolBudgetRetries)) :
    StepTaken config step state response (agentStep step response) true
      (finish (state.answered response) (agentStep step response) status output reason) := by
  refine ⟨rfl, rfl, rfl, rfl, ?_, fun _ => ⟨rfl, fun result member => ?_⟩, ?_, fun goes => absurd rfl goes⟩
  · simp [kept]
  · simp only [finish, List.mem_cons, Action.emit.injEq, AgentStreamEvent.completed.injEq, reduceCtorEq, false_or,
      List.not_mem_nil, or_false] at member
    rw [member]
    exact ⟨rfl, rfl⟩
  · intro next continued
    cases continued

theorem batch_steps (ended : List ToolExecution) (record : AgentStep) :
    streamedSteps (ended.map .execute ++ [.emit (.step record)]) = [record] := by
  induction ended with
  | nil => rfl
  | cons execution rest ih => exact ih

theorem judge_loop_few (normalizer : Normalizer) (config : AgentConfig) (state : LoopState) (calls : List ToolCall)
    (duplicates : List Signature) (judged : judge normalizer config state calls = .ok (.loopDetected duplicates)) :
    calls.length ≤ config.maxToolCallsPerStep := by
  unfold judge at judged
  split at judged
  · cases judged
  split at judged
  · cases judged
  split at judged
  · split at judged <;> cases judged
  · omega

theorem act_step (agent : Agent) (step : Nat) (state : LoopState) (response : LLMResponse) (verdict : Verdict)
    (judged : judge host.normalizer agent.config (state.answered response) response.toolCalls = .ok verdict) :
    ∃ record shown, StepTaken agent.config step state response record shown
      (act host agent step (state.answered response) response verdict) := by
  have spent : (state.answered response).usage.totalTokens = state.usage.totalTokens + response.usage.totalTokens :=
    total_tokens_add state.usage response.usage
  have justified := judge_justified _ _ _ _ verdict judged
  cases verdict with
  | completed =>
      exact ⟨_, _, finish_step agent.config step state response _ _ _ fun many => many.1.1 justified⟩
  | tokenBudgetExceeded =>
      refine ⟨_, _, finish_step agent.config step state response _ _ _ fun many => ?_⟩
      have exceeded := justified.2
      have affordable := many.1.2.1
      omega
  | toolBudgetExceeded =>
      refine ⟨_, _, finish_step agent.config step state response _ _ _ fun many => ?_⟩
      exact absurd many.2 (Nat.not_lt.mpr justified.2.2.2)
  | loopDetected duplicates =>
      refine ⟨_, _, finish_step agent.config step state response _ _ _ fun many => ?_⟩
      exact absurd many.1.2.2 (Nat.not_lt.mpr (judge_loop_few _ _ _ _ duplicates judged))
  | replan =>
      obtain ⟨present, affordable, many, left⟩ := justified
      refine ⟨agentStep step response, false, rfl, rfl, rfl, rfl, ?_, nofun, ?_, ?_⟩
      · simp only [true_iff]
        exact ⟨⟨present, spent ▸ affordable, many⟩, left⟩
      · intro next continued
        cases continued
        exact ⟨rfl, rfl, rfl⟩
      · simp [act]
  | accepted signatures =>
      obtain ⟨_, _, few, _⟩ := justified
      refine ⟨{ agentStep step response with
        toolExecutions := (executeToolCalls host agent step response.toolCalls).returned }, true, rfl, rfl, rfl,
        batch_steps _ _, ?_, ?_, ?_, ?_⟩
      · simp [Oversized, Nat.not_lt.mpr few]
      · intro ends
        dsimp only [act, executeBatch] at ends
        cases written : toolMessages agent.config (executeToolCalls host agent step response.toolCalls).returned with
        | error failure => simp [written, Except.map] at ends
        | ok messages => simp [written, Except.map] at ends
      · intro next continued
        obtain ⟨messages, _, rfl⟩ :=
          execute_batch_goes_on host agent step (state.answered response) next response signatures continued
        rw [returned_executions]
        exact ⟨rfl, rfl, rfl⟩
      · simp [act, executeBatch]

theorem opening_steps (messages : List ChatMessage) (events : List AgentStreamEvent)
    (texts : ∀ event ∈ events, AgentStreamEvent.isText event = true) :
    streamedSteps (opening messages events) = [] ∧ responses (opening messages events) = [] ∧
      ∀ result, .emit (.completed result) ∉ opening messages events := by
  have quiet : ∀ action ∈ opening messages events,
      Action.streamedStep action = none ∧ Action.response action = none ∧ ∀ result, action ≠ .emit (.completed result) := by
    intro action member
    rcases List.mem_cons.mp member with rfl | later
    · exact ⟨rfl, rfl, by simp⟩
    · obtain ⟨event, inside, rfl⟩ := List.mem_map.mp later
      have text := texts event inside
      cases event with
      | textDelta text => exact ⟨rfl, rfl, by simp⟩
      | textReset => exact ⟨rfl, rfl, by simp⟩
      | step step => cases text
      | completed result => cases text
  refine ⟨List.filterMap_eq_nil_iff.mpr fun action member => (quiet action member).1,
    List.filterMap_eq_nil_iff.mpr fun action member => (quiet action member).2.1, fun result member => ?_⟩
  exact (quiet _ member).2.2 result rfl

theorem act_responses (agent : Agent) (step : Nat) (state : LoopState) (response : LLMResponse) (verdict : Verdict) :
    responses (act host agent step state response verdict).actions = [] := by
  cases verdict with
  | accepted signatures =>
      rw [act, executeBatch, responses_append]
      have silent : responses ((executeToolCalls host agent step response.toolCalls).ended.map .execute) = [] :=
        List.filterMap_eq_nil_iff.mpr fun action member => by
          obtain ⟨execution, _, rfl⟩ := List.mem_map.mp member
          rfl
      rw [silent]
      rfl
  | _ => rfl

theorem opened_step (config : AgentConfig) (step : Nat) (state : LoopState) (response : LLMResponse) (record : AgentStep)
    (shown : Bool) (messages : List ChatMessage) (events : List AgentStreamEvent) (settled : AgentRound)
    (texts : ∀ event ∈ events, AgentStreamEvent.isText event = true)
    (taken : StepTaken config step state response record shown settled) :
    StepTaken config step state response record shown
      ⟨opening messages events ++ .respond response :: settled.actions, settled.next⟩ := by
  obtain ⟨unstreamed, _, unclosed⟩ := opening_steps messages events texts
  have inside : ∀ result, .emit (.completed result) ∈ opening messages events ++ .respond response :: settled.actions →
      .emit (.completed result) ∈ settled.actions := by
    intro result member
    rcases List.mem_append.mp member with opened | later
    · exact absurd opened (unclosed result)
    · exact (List.mem_cons.mp later).resolve_left (by simp)
  refine ⟨taken.number, taken.content, taken.usage, ?_, taken.hidden, fun ends => ?_, taken.continues,
    fun goes result member => ?_⟩
  · rw [streamed_steps_append, unstreamed, ← taken.streamed]
    rfl
  · obtain ⟨seen, completes⟩ := taken.returns ends
    exact ⟨seen, fun result member => completes result (inside result member)⟩
  · exact taken.uncompleted goes result (inside result member)

theorem round_step (agent : Agent) (definitions : List ToolDefinition) (step : Nat) (state : LoopState) :
    (∃ failure, (agentRound host agent definitions step state).next = .error failure ∧
      ∀ result, .emit (.completed result) ∉ (agentRound host agent definitions step state).actions) ∨
    (∃ response record shown, StepTaken agent.config step state response record shown
        (agentRound host agent definitions step state) ∧
      responses (agentRound host agent definitions step state).actions = [response]) := by
  rcases agent_round_ways host agent definitions step state with
    ⟨failure, _, round⟩ | ⟨messages, failure, _, _, round⟩ | ⟨messages, response, _, _, round⟩
  · rw [round]
    exact .inl ⟨failure, rfl, by simp⟩
  · rw [round]
    exact .inl ⟨failure, rfl, (opening_steps messages _ (model_answer_texts host agent definitions step messages)).2.2⟩
  · have texts := model_answer_texts host agent definitions step messages
    obtain ⟨_, unanswered, unclosed⟩ := opening_steps messages _ texts
    rw [round]
    cases judged : judge host.normalizer agent.config (state.answered response) response.toolCalls with
    | error failure =>
        have settled : settle host agent step state response = ⟨[], .error failure⟩ := by rw [settle, judged]
        rw [settled]
        refine .inl ⟨failure, rfl, fun result member => ?_⟩
        rcases List.mem_append.mp member with opened | later
        · exact unclosed result opened
        · simp at later
    | ok verdict =>
        have settled : settle host agent step state response =
            act host agent step (state.answered response) response verdict := by rw [settle, judged]
        rw [settled]
        obtain ⟨record, shown, taken⟩ := act_step host agent step state response verdict judged
        refine .inr ⟨response, record, shown, opened_step _ _ _ _ _ _ messages _ _ texts taken, ?_⟩
        have silent := act_responses host agent step (state.answered response) response verdict
        dsimp only
        rw [show Action.request messages :: _ = opening messages _ from rfl, responses_append, unanswered, List.nil_append,
          ← silent]
        rfl

structure Ledger (config : AgentConfig) (actions : List Action) (steps : List AgentStep) (usage : TokenUsage) :
    Prop where
  numbered : (steps.map AgentStep.step).Pairwise (· < ·)
  summed : totalUsage (steps.map AgentStep.usage) = usage
  spent : totalUsage ((responses actions).map LLMResponse.usage) = usage
  streamed : (Unreplanned config actions ∧ streamedSteps actions = steps) ∨
    (¬ Unreplanned config actions ∧ (streamedSteps actions).length < steps.length)

theorem ledger_step (config : AgentConfig) (step : Nat) (past : List Action) (state : LoopState) (response : LLMResponse)
    (record : AgentStep) (shown : Bool) (round : AgentRound)
    (ledger : Ledger config past state.steps state.usage) (earlier : ∀ old ∈ state.steps, old.step < step)
    (unretried : Unreplanned config past → state.toolBudgetRetries = 0)
    (taken : StepTaken config step state response record shown round) (answered : responses round.actions = [response]) :
    Ledger config (past ++ round.actions) (state.steps ++ [record]) (state.usage.add response.usage) ∧
      (Unreplanned config (past ++ round.actions) ↔ Unreplanned config past ∧ shown = true) := by
  have used : tokensUsed past = state.usage.totalTokens := by
    have tokens := tokens_used_responses past {}
    rw [show List.foldl TokenUsage.add {} _ = _ from ledger.spent] at tokens
    simpa [TokenUsage.totalTokens] using tokens
  have fits := fits_single config state.usage.totalTokens round.actions response answered
  have kept : Unreplanned config (past ++ round.actions) ↔ Unreplanned config past ∧ shown = true := by
    rw [← Bool.not_eq_false, taken.hidden]
    rcases Nat.eq_zero_or_pos config.maxToolBudgetRetries with none | some
    · simp [Unreplanned, none]
    · have past' : Unreplanned config past ↔ Fits config 0 past := or_iff_right (Nat.ne_of_gt some)
      rw [show Unreplanned config (past ++ round.actions) ↔ Fits config 0 (past ++ round.actions) from
        or_iff_right (Nat.ne_of_gt some), fits_append, Nat.zero_add, used, fits, past']
      refine and_congr_right fun unreplanned => ?_
      rw [unretried (past'.mpr unreplanned)]
      simp [some]
  refine ⟨⟨?_, ?_, ?_, ?_⟩, kept⟩
  · rw [List.map_append, List.pairwise_append]
    refine ⟨ledger.numbered, List.pairwise_singleton _ _, ?_⟩
    intro number member last same
    obtain ⟨old, inside, rfl⟩ := List.mem_map.mp member
    rw [List.mem_singleton.mp same, taken.number]
    exact earlier old inside
  · rw [List.map_append, List.map_singleton, total_usage_snoc, ledger.summed, taken.usage]
  · rw [responses_append, answered, List.map_append, List.map_singleton, total_usage_snoc, ledger.spent]
  · rw [streamed_steps_append, taken.streamed, kept]
    rcases ledger.streamed with ⟨unreplanned, same⟩ | ⟨replanned, fewer⟩
    · cases shown with
      | true => exact .inl ⟨⟨unreplanned, rfl⟩, by rw [same]; rfl⟩
      | false => exact .inr ⟨by simp, by simp [same]⟩
    · refine .inr ⟨fun both => replanned both.1, ?_⟩
      cases shown <;> simp <;> omega

theorem ledger_closing (config : AgentConfig) (past : List Action) (steps : List AgentStep) (usage : TokenUsage)
    (result : AgentRunResult) (ledger : Ledger config past steps usage) :
    Ledger config (past ++ [.emit (.completed result)]) steps usage := by
  have silent : responses (past ++ [.emit (.completed result)]) = responses past := by
    rw [responses_append]
    exact List.append_nil _
  have shown : streamedSteps (past ++ [.emit (.completed result)]) = streamedSteps past := by
    rw [streamed_steps_append]
    exact List.append_nil _
  have kept : Unreplanned config (past ++ [.emit (.completed result)]) ↔ Unreplanned config past := by
    refine or_congr_right ?_
    rw [fits_append]
    exact and_iff_left (fits_quiet config _ _ rfl)
  refine ⟨ledger.numbered, ledger.summed, ?_, ?_⟩
  · rw [silent]
    exact ledger.spent
  · rw [shown, kept]
    exact ledger.streamed

theorem stream_ledger (agent : Agent) (userInput : String) (systemPrompt : Option String) (history : List ChatMessage)
    (result : AgentRunResult)
    (completed : .emit (.completed result) ∈ (stream host agent userInput systemPrompt history).actions) :
    Ledger agent.config (stream host agent userInput systemPrompt history).actions result.steps result.usage := by
  unfold stream at completed ⊢
  cases defined : agent.tools.definitions with
  | error failure => simp [defined, AgentRun.actions] at completed
  | ok definitions =>
      rw [defined] at completed
      dsimp only at completed ⊢
      revert completed
      refine run_rounds_rule host agent definitions (agent.config.maxSteps + 1)
        (fun step past state => Ledger agent.config past.flatten state.steps state.usage ∧
          (∀ old ∈ state.steps, old.step < step) ∧
          (Unreplanned agent.config past.flatten → state.toolBudgetRetries = 0) ∧
          ∀ result, .emit (.completed result) ∉ past.flatten)
        (fun run => .emit (.completed result) ∈ run.actions → Ledger agent.config run.actions result.steps result.usage)
        ?_ ?_ ?_ ?_ agent.config.maxSteps 1 [] { messages := initialMessages userInput systemPrompt history } (by omega)
        ?_
      · rintro step past state failure _ ⟨_, _, _, uncompleted⟩ raised member
        rw [AgentRun.actions, List.append_nil, flatten_snoc] at member
        rcases List.mem_append.mp member with earlier | now
        · exact absurd earlier (uncompleted result)
        · rcases round_step host agent definitions step state with ⟨_, _, unclosed⟩ | ⟨_, _, _, taken, _⟩
          · exact absurd now (unclosed result)
          · exact absurd now (taken.uncompleted (by simp [raised]) result)
      · rintro step past state _ ⟨ledger, numbers, unretried, uncompleted⟩ returned member
        rw [AgentRun.actions, List.append_nil, flatten_snoc] at member ⊢
        have now := (List.mem_append.mp member).resolve_left (uncompleted result)
        rcases round_step host agent definitions step state with
          ⟨_, raised, _⟩ | ⟨response, record, shown, taken, answered⟩
        · rw [returned] at raised
          cases raised
        · obtain ⟨steps, usage⟩ := (taken.returns returned).2 result now
          rw [steps, usage]
          exact (ledger_step _ step _ state response record shown _ ledger numbers unretried taken answered).1
      · rintro step past state next _ ⟨ledger, numbers, unretried, uncompleted⟩ continued
        rw [flatten_snoc]
        rcases round_step host agent definitions step state with
          ⟨_, raised, _⟩ | ⟨response, record, shown, taken, answered⟩
        · rw [continued] at raised
          cases raised
        · obtain ⟨written, kept⟩ :=
            ledger_step _ step _ state response record shown _ ledger numbers unretried taken answered
          obtain ⟨steps, usage, retries⟩ := taken.continues next continued
          rw [← steps, ← usage] at written
          refine ⟨written, ?_, fun unreplanned => ?_, fun result member => ?_⟩
          · rw [steps]
            intro old member
            rcases List.mem_append.mp member with earlier | now
            · exact Nat.lt_succ_of_lt (numbers old earlier)
            · rw [List.mem_singleton.mp now, taken.number]
              exact Nat.lt_succ_self step
          · obtain ⟨before, seen⟩ := kept.mp unreplanned
            rw [retries, unretried before, seen]
            rfl
          · rcases List.mem_append.mp member with earlier | now
            · exact uncompleted result earlier
            · exact taken.uncompleted (by simp [continued]) result now
      · rintro past state ⟨ledger, _, _, uncompleted⟩ member
        rw [AgentRun.actions] at member ⊢
        have last := (List.mem_append.mp member).resolve_left (uncompleted result)
        obtain rfl : result = state.result .maxSteps (some (maxStepsReason agent.config))
            (some (maxStepsReason agent.config)) := by simpa using last
        exact ledger_closing _ _ _ _ _ ledger
      · refine ⟨⟨List.Pairwise.nil, rfl, rfl, .inl ⟨.inr trivial, rfl⟩⟩, by simp, fun _ => rfl, by simp⟩

end DataPilot.Agent
