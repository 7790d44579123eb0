import DataPilot.Base.Positions
import DataPilot.Agent.CompactionFrame
import DataPilot.Agent.Guardrails

set_option autoImplicit false

namespace DataPilot.Agent

open DataPilot.Base DataPilot.Tools DataPilot.Sql

theorem serialize_total (config : AgentConfig) (execution : ToolExecution) (json : execution.result.isJson = true) :
    ∃ content, serializeToolExecution config execution = .ok content := by
  unfold serializeToolExecution
  split
  · have spec := json_dict_fields _ (json_get "spec" _ (json_dict_fields _ json))
    obtain ⟨title, _, titlePlain⟩ := json_value_written _ (json_get "title" _ spec)
    obtain ⟨chartType, _, typePlain⟩ := json_value_written _ (json_get "type" _ spec)
    exact ⟨_, by rw [chartPayload, titlePlain, typePlain]; rfl⟩
  · obtain ⟨written, jsonable, _⟩ := json_value_written _ json
    exact ⟨_, by rw [executionPayload, jsonable]; rfl⟩

-- Every value that a registered tool returns is one json can write.
def JsonTools (registry : ToolRegistry) : Prop :=
  ∀ tool ∈ registry.tools, ∀ step arguments value, tool.invoke step arguments = .ok value → value.isJson = true

def Reported (registry : ToolRegistry) (execution : ToolExecution) : Prop :=
  ∃ step call, ExecutesCall call execution ∧
    match invokeTool registry step call with
    | .ok value => execution.result = value ∧ execution.error = none
    | .error failure => execution.error = some (errorText failure)

theorem execute_one_reported (registry : ToolRegistry) (step : Nat) (call : ToolCall) :
    Reported registry (executeOne registry step call) := by
  refine ⟨step, call, execute_one_call registry step call, ?_⟩
  unfold executeOne
  cases invokeTool registry step call <;> simp

theorem execute_one_json (registry : ToolRegistry) (tools : JsonTools registry) (step : Nat) (call : ToolCall) :
    (executeOne registry step call).result.isJson = true := by
  unfold executeOne
  cases invoked : invokeTool registry step call with
  | error failure => rfl
  | ok value =>
      unfold invokeTool at invoked
      cases found : registry.get call.name with
      | none => simp [found] at invoked
      | some tool =>
          rw [found] at invoked
          exact tools tool (registry_get_member registry call.name tool found).1 step call.arguments value invoked

theorem tool_messages_total (config : AgentConfig) (executions : List ToolExecution)
    (json : ∀ execution ∈ executions, execution.result.isJson = true) :
    ∃ messages, toolMessages config executions = .ok messages := by
  induction executions with
  | nil => exact ⟨[], rfl⟩
  | cons execution rest ih =>
      obtain ⟨content, serialized⟩ := serialize_total config execution (json execution (by simp))
      obtain ⟨others, written⟩ := ih fun later member => json later (by simp [member])
      exact ⟨_ :: others, by rw [toolMessages, toolMessage, serialized, written]; rfl⟩

theorem tool_messages_serialized (config : AgentConfig) (executions : List ToolExecution) (messages : List ChatMessage)
    (written : toolMessages config executions = .ok messages) : ∀ message ∈ messages, Serialized message.text := by
  induction executions generalizing messages with
  | nil =>
      cases written
      simp
  | cons execution rest ih =>
      rw [toolMessages] at written
      cases first : toolMessage config execution with
      | error failure => simp [first] at written
      | ok message =>
          cases others : toolMessages config rest with
          | error failure => simp [first, others, Except.map] at written
          | ok tail =>
              simp only [first, others, Except.map, Except.ok.injEq] at written
              subst written
              unfold toolMessage at first
              cases content : serializeToolExecution config execution with
              | error failure => simp [content, Except.map] at first
              | ok text =>
                  simp only [content, Except.map, Except.ok.injEq] at first
                  intro other member
                  rcases List.mem_cons.mp member with rfl | later
                  · rw [← first]
                    exact serialize_text config execution text content
                  · exact ih tail others other later

-- No batch that the loop examines holds a call whose normalisation raises. The
-- trace is read with the tokens used so far.
def Readable (normalizer : Normalizer) (config : AgentConfig) : Nat → List Action → Prop
  | _, [] => True
  | used, action :: rest =>
      (∀ response, action = .respond response → Examined config used response →
        ∀ call ∈ response.toolCalls, ¬ Refused normalizer call.name call.arguments) ∧
      Readable normalizer config (used + action.tokens) rest

theorem readable_append (normalizer : Normalizer) (config : AgentConfig) (used : Nat) (first second : List Action) :
    Readable normalizer config used (first ++ second) ↔
      Readable normalizer config used first ∧ Readable normalizer config (used + tokensUsed first) second := by
  induction first generalizing used with
  | nil => simp [Readable, tokensUsed]
  | cons action rest ih =>
      simp only [List.cons_append, Readable, ih, tokensUsed, List.map_cons, List.sum_cons, Nat.add_assoc, and_assoc]

theorem readable_quiet (normalizer : Normalizer) (config : AgentConfig) (used : Nat) (actions : List Action)
    (quiet : ∀ action ∈ actions, ∀ response, action ≠ .respond response) : Readable normalizer config used actions := by
  induction actions generalizing used with
  | nil => trivial
  | cons action rest ih =>
      refine ⟨fun response same => absurd same (quiet action (by simp) response), ?_⟩
      exact ih _ fun later member => quiet later (by simp [member])

structure Total (agent : Agent) (run : AgentRun) : Prop where
  returns : run.outcome = .ok ()
  completes : ∃ before result, run.actions = before ++ [.emit (.completed result)] ∧
    before.countP Action.isCompleted = 0
  requests : run.actions.countP Action.isRequest ≤ agent.config.maxSteps
  reported : ∀ execution ∈ executions run.actions, Reported agent.tools execution

variable (host : Host)

theorem act_actions (agent : Agent) (step : Nat) (state : LoopState) (response : LLMResponse) (verdict : Verdict) :
    ∀ action ∈ (act host agent step state response verdict).actions,
      (∀ other, action ≠ .respond other) ∧
      ∀ execution, action.execution = some execution → Reported agent.tools execution := by
  have finished : ∀ record status output reason, ∀ action ∈ (finish state record status output reason).actions,
      (∀ other, action ≠ .respond other) ∧
      ∀ execution, action.execution = some execution → Reported agent.tools execution := by
    intro record status output reason action member
    simp only [finish, List.mem_cons, List.not_mem_nil, or_false] at member
    rcases member with rfl | rfl <;> simp [Action.execution]
  intro action member
  cases verdict with
  | completed => exact finished _ _ _ _ action member
  | tokenBudgetExceeded => exact finished _ _ _ _ action member
  | toolBudgetExceeded => exact finished _ _ _ _ action member
  | loopDetected duplicates => exact finished _ _ _ _ action member
  | replan =>
      obtain rfl := List.mem_singleton.mp member
      simp [Action.execution]
  | accepted signatures =>
      simp only [act, executeBatch, List.mem_append, List.mem_map, List.mem_singleton] at member
      rcases member with ⟨execution, ended, rfl⟩ | rfl
      · refine ⟨by simp, ?_⟩
        intro same found
        obtain rfl : execution = same := by simpa [Action.execution] using found
        have called := (ended_executions host agent step response.toolCalls).mem_iff.mp ended
        obtain ⟨call, _, rfl⟩ := List.mem_map.mp called
        exact execute_one_reported agent.tools step call
      · simp [Action.execution]

theorem act_total (agent : Agent) (tools : JsonTools agent.tools) (step : Nat) (state : LoopState)
    (response : LLMResponse) (verdict : Verdict) :
    (∃ record result, act host agent step state response verdict =
      ⟨[.emit (.step record), .emit (.completed result)], .ok none⟩) ∨
    (∃ next, (act host agent step state response verdict).next = .ok (some next) ∧
      (act host agent step state response verdict).actions.countP Action.isCompleted = 0) := by
  cases verdict with
  | completed => exact .inl ⟨_, _, rfl⟩
  | tokenBudgetExceeded => exact .inl ⟨_, _, rfl⟩
  | toolBudgetExceeded => exact .inl ⟨_, _, rfl⟩
  | loopDetected duplicates => exact .inl ⟨_, _, rfl⟩
  | replan => exact .inr ⟨_, rfl, rfl⟩
  | accepted signatures =>
      obtain ⟨messages, written⟩ := tool_messages_total agent.config
        (response.toolCalls.map (executeOne agent.tools step)) (by
          intro execution member
          obtain ⟨call, _, rfl⟩ := List.mem_map.mp member
          exact execute_one_json agent.tools tools step call)
      have continued : ∃ next, (act host agent step state response (.accepted signatures)).next = .ok (some next) :=
        ⟨_, by rw [act, executeBatch, returned_executions, written]; rfl⟩
      obtain ⟨next, proceeds⟩ := continued
      exact .inr ⟨next, proceeds, act_completed host agent step state response _ (by simp [proceeds])⟩

theorem justified_readable (normalizer : Normalizer) (config : AgentConfig) (state : LoopState) (response : LLMResponse)
    (verdict : Verdict) (justified : Justified normalizer config (state.answered response) response.toolCalls verdict)
    (examined : Examined config state.usage.totalTokens response) :
    ∀ call ∈ response.toolCalls, ¬ Refused normalizer call.name call.arguments := by
  obtain ⟨present, affordable, few⟩ := examined
  have spent : (state.answered response).usage.totalTokens = _ := total_tokens_add state.usage response.usage
  have computed : ∀ current, callSignatures normalizer response.toolCalls = .ok current →
      ∀ call ∈ response.toolCalls, ¬ Refused normalizer call.name call.arguments := by
    intro current signatures call member refused
    obtain ⟨failure, failed⟩ := (call_signatures_fail normalizer response.toolCalls).mpr ⟨call, member, refused⟩
    rw [signatures] at failed
    cases failed
  cases verdict with
  | completed => exact absurd justified present
  | tokenBudgetExceeded =>
      have exceeded := justified.2
      omega
  | replan =>
      have many := justified.2.2.1
      omega
  | toolBudgetExceeded =>
      have many := justified.2.2.1
      omega
  | loopDetected duplicates =>
      obtain ⟨current, signatures, _⟩ := justified
      exact computed current signatures
  | accepted current => exact computed current justified.2.2.2.1

-- The assumptions on what the loop calls: tools return JSON or raise, and the
-- model gives a response to every request.
structure Served (agent : Agent) : Prop where
  json : JsonTools agent.tools
  responds : ∀ definitions step messages, ∃ response, (modelAnswer host agent definitions step messages).response = .ok response

-- Nothing outside the tools raises in the run: the messages of each round can be
-- compacted, and the calls of each examined batch can be normalised.
structure Undisturbed (agent : Agent) (run : AgentRun) (conversations : List (List ChatMessage)) : Prop where
  compactable : ∀ messages ∈ conversations, Compactable host.toInterpreter agent.config messages
  readable : Readable host.normalizer agent.config 0 run.actions

structure Going (agent : Agent) (step : Nat) (past : List (List Action)) (seen : List (List ChatMessage))
    (state : LoopState) : Prop where
  tied : Tied host.normalizer agent.config step past state
  compactable : ∀ messages ∈ seen, Compactable host.toInterpreter agent.config messages
  uncompleted : past.flatten.countP Action.isCompleted = 0
  reported : ∀ execution ∈ executions past.flatten, Reported agent.tools execution
  readable : Readable host.normalizer agent.config 0 past.flatten

-- A run is total and undisturbed, or it raised and was not.
def Decided (agent : Agent) (run : AgentRun) (conversations : List (List ChatMessage)) : Prop :=
  (Total agent run ∧ Undisturbed host agent run conversations) ∨
    ((∃ failure, run.outcome = .error failure) ∧ ¬ Undisturbed host agent run conversations)

-- How a round that can be compacted goes on once its model has answered.
def Answered (agent : Agent) (definitions : List ToolDefinition) (step : Nat) (state : LoopState)
    (messages : List ChatMessage) (events : List AgentStreamEvent) (response : LLMResponse) : Prop :=
  (∃ failure, agentRound host agent definitions step state =
      ⟨opening messages events ++ [.respond response], .error failure⟩ ∧
    Examined agent.config state.usage.totalTokens response ∧
    ∃ call ∈ response.toolCalls, Refused host.normalizer call.name call.arguments) ∨
  (∃ verdict, agentRound host agent definitions step state =
      ⟨opening messages events ++
          .respond response :: (act host agent step (state.answered response) response verdict).actions,
        (act host agent step (state.answered response) response verdict).next⟩ ∧
    Justified host.normalizer agent.config (state.answered response) response.toolCalls verdict)

theorem served_round (lawful : ReadsSummaries host.loads) (agent : Agent) (served : Served host agent)
    (definitions : List ToolDefinition) (step : Nat) (state : LoopState) :
    (¬ Compactable host.toInterpreter agent.config state.messages ∧
      ∃ failure, agentRound host agent definitions step state = ⟨[], .error failure⟩) ∨
    (Compactable host.toInterpreter agent.config state.messages ∧
      ∃ messages events response, (∀ event ∈ events, AgentStreamEvent.isText event = true) ∧
        Answered host agent definitions step state messages events response) := by
  have compaction := compacted_ok_iff host.toInterpreter lawful agent.config state.messages
  rcases agent_round_ways host agent definitions step state with
    ⟨failure, failed, round⟩ | ⟨messages, failure, _, failed, _⟩ | ⟨messages, response, done, _, round⟩
  · refine .inl ⟨fun compactable => ?_, failure, round⟩
    obtain ⟨compacted, done⟩ := compaction.mpr compactable
    rw [failed] at done
    cases done
  · obtain ⟨response, responded⟩ := served.responds definitions step messages
    rw [responded] at failed
    cases failed
  · refine .inr ⟨compaction.mp ⟨messages, done⟩, messages, _, response,
      model_answer_texts host agent definitions step messages, ?_⟩
    rcases settle_ways host agent step state response with
      ⟨failure, examined, unsigned, settled⟩ | ⟨verdict, justified, settled⟩
    · rw [settled] at round
      exact .inl ⟨failure, round, examined, (call_signatures_fail _ _).mp ⟨failure, unsigned⟩⟩
    · rw [settled] at round
      exact .inr ⟨verdict, round, justified⟩

theorem opening_responds (messages : List ChatMessage) (events : List AgentStreamEvent) :
    ∀ action ∈ opening messages events, ∀ response, action ≠ .respond response := by
  intro action member response
  rcases List.mem_cons.mp member with rfl | later
  · simp
  · obtain ⟨event, _, rfl⟩ := List.mem_map.mp later
    simp

theorem settled_readable (agent : Agent) (step : Nat) (state : LoopState) (messages : List ChatMessage)
    (events : List AgentStreamEvent) (texts : ∀ event ∈ events, AgentStreamEvent.isText event = true)
    (response : LLMResponse) (verdict : Verdict)
    (justified : Justified host.normalizer agent.config (state.answered response) response.toolCalls verdict) :
    Readable host.normalizer agent.config state.usage.totalTokens
      (opening messages events ++
        .respond response :: (act host agent step (state.answered response) response verdict).actions) := by
  have free := tokens_used_zero _ fun action member => (opening_quiet messages events texts action member).2.1
  rw [readable_append, free, Nat.add_zero]
  refine ⟨readable_quiet _ _ _ _ (opening_responds messages events), ?_, ?_⟩
  · intro other same examined
    obtain rfl : response = other := by simpa using same
    exact justified_readable _ _ _ _ verdict justified examined
  · exact readable_quiet _ _ _ _ fun action member => (act_actions host agent step _ response verdict action member).1

theorem settled_reported (agent : Agent) (step : Nat) (state : LoopState) (messages : List ChatMessage)
    (events : List AgentStreamEvent) (texts : ∀ event ∈ events, AgentStreamEvent.isText event = true)
    (response : LLMResponse) (verdict : Verdict) :
    ∀ execution ∈ executions (opening messages events ++
        .respond response :: (act host agent step state response verdict).actions), Reported agent.tools execution := by
  intro execution member
  rw [executions_append, opening_executions messages events texts, List.nil_append] at member
  obtain ⟨action, inside, executed⟩ := List.mem_filterMap.mp member
  rcases List.mem_cons.mp inside with rfl | later
  · simp [Action.execution] at executed
  · exact (act_actions host agent step state response verdict action later).2 execution executed

theorem seen_compactable (agent : Agent) (seen : List (List ChatMessage)) (messages : List ChatMessage)
    (before : ∀ messages ∈ seen, Compactable host.toInterpreter agent.config messages)
    (now : Compactable host.toInterpreter agent.config messages) :
    ∀ later ∈ seen ++ [messages], Compactable host.toInterpreter agent.config later := by
  intro later member
  rcases List.mem_append.mp member with earlier | last
  · exact before later earlier
  · rwa [List.mem_singleton.mp last]

theorem decided_raise (lawful : ReadsSummaries host.loads) (agent : Agent) (served : Served host agent)
    (definitions : List ToolDefinition) (step : Nat) (past : List (List Action)) (seen : List (List ChatMessage))
    (state : LoopState) (failure : PyException) (going : Going host agent step past seen state)
    (raised : (agentRound host agent definitions step state).next = .error failure) :
    Decided host agent ⟨past ++ [(agentRound host agent definitions step state).actions], [], .error failure⟩
      (seen ++ [state.messages]) := by
  refine .inr ⟨⟨failure, rfl⟩, fun undisturbed => ?_⟩
  rcases served_round host lawful agent served definitions step state with
    ⟨blocked, _⟩ | ⟨_, messages, events, response, texts, ways⟩
  · exact blocked (undisturbed.compactable _ (by simp))
  rcases ways with ⟨other, round, examined, call, member, refused⟩ | ⟨verdict, round, _⟩
  · have readable := undisturbed.readable
    have free := tokens_used_zero _ fun action member => (opening_quiet messages events texts action member).2.1
    rw [AgentRun.actions, flatten_snoc, List.append_nil, round, readable_append, readable_append, free, Nat.add_zero,
      Nat.zero_add, ← going.tied.usage] at readable
    exact readable.2.2.1 response rfl examined call member refused
  · rw [round] at raised
    rcases act_total host agent served.json step (state.answered response) response verdict with
      ⟨record, result, acted⟩ | ⟨next, acted, _⟩
    · simp [acted] at raised
    · simp [acted] at raised

theorem round_readable (agent : Agent) (step : Nat) (past : List (List Action)) (seen : List (List ChatMessage))
    (state : LoopState) (actions : List Action) (going : Going host agent step past seen state)
    (readable : Readable host.normalizer agent.config state.usage.totalTokens actions) :
    Readable host.normalizer agent.config 0 (past ++ [actions]).flatten := by
  rw [flatten_snoc, readable_append, Nat.zero_add, ← going.tied.usage]
  exact ⟨going.readable, readable⟩

theorem round_reported (agent : Agent) (step : Nat) (past : List (List Action)) (seen : List (List ChatMessage))
    (state : LoopState) (actions : List Action) (going : Going host agent step past seen state)
    (reported : ∀ execution ∈ executions actions, Reported agent.tools execution) :
    ∀ execution ∈ executions (past ++ [actions]).flatten, Reported agent.tools execution := by
  intro execution member
  rw [flatten_snoc, executions_append, List.mem_append] at member
  rcases member with earlier | now
  · exact going.reported execution earlier
  · exact reported execution now

theorem decided_return (lawful : ReadsSummaries host.loads) (agent : Agent) (served : Served host agent)
    (definitions : List ToolDefinition) (step : Nat) (past : List (List Action)) (seen : List (List ChatMessage))
    (state : LoopState) (inside : step < agent.config.maxSteps + 1) (going : Going host agent step past seen state)
    (returned : (agentRound host agent definitions step state).next = .ok none) :
    Decided host agent ⟨past ++ [(agentRound host agent definitions step state).actions], [], .ok ()⟩
      (seen ++ [state.messages]) := by
  have ended := ended_round _ _ step past state _ inside going.tied (round_safely host agent definitions step state)
  rcases served_round host lawful agent served definitions step state with
    ⟨_, failure, round⟩ | ⟨compactable, messages, events, response, texts, ways⟩
  · simp [round] at returned
  rcases ways with ⟨failure, round, _, _⟩ | ⟨verdict, round, justified⟩
  · simp [round] at returned
  have readable := settled_readable host agent step state messages events texts response verdict justified
  have reported := settled_reported host agent step (state.answered response) messages events texts response verdict
  rcases act_total host agent served.json step (state.answered response) response verdict with
    ⟨record, result, acted⟩ | ⟨next, acted, _⟩
  · rw [acted] at round readable reported
    rw [round] at ended ⊢
    refine .inl ⟨⟨rfl, ?_, ?_, ?_⟩, seen_compactable host agent seen _ going.compactable compactable, ?_⟩
    · refine ⟨past.flatten ++ opening messages events ++ [.respond response, .emit (.step record)], result, ?_, ?_⟩
      · simp [AgentRun.actions]
      · rw [List.countP_append, List.countP_append, going.uncompleted, opening_completed messages events texts]
        rfl
    · simpa [AgentRun.actions] using ended.requests
    · simpa only [AgentRun.actions, List.append_nil] using round_reported host agent step past seen state _ going reported
    · simpa only [AgentRun.actions, List.append_nil] using round_readable host agent step past seen state _ going readable
  · simp [round, acted] at returned

theorem going_round (lawful : ReadsSummaries host.loads) (agent : Agent) (served : Served host agent)
    (definitions : List ToolDefinition) (step : Nat) (past : List (List Action)) (seen : List (List ChatMessage))
    (state next : LoopState) (inside : step < agent.config.maxSteps + 1) (going : Going host agent step past seen state)
    (continued : (agentRound host agent definitions step state).next = .ok (some next)) :
    Going host agent (step + 1) (past ++ [(agentRound host agent definitions step state).actions])
      (seen ++ [state.messages]) next := by
  have tied := tied_round _ _ step past state next _ inside going.tied
    (round_safely host agent definitions step state) continued
  rcases served_round host lawful agent served definitions step state with
    ⟨_, failure, round⟩ | ⟨compactable, messages, events, response, texts, ways⟩
  · simp [round] at continued
  rcases ways with ⟨failure, round, _, _⟩ | ⟨verdict, round, justified⟩
  · simp [round] at continued
  have readable := settled_readable host agent step state messages events texts response verdict justified
  have reported := settled_reported host agent step (state.answered response) messages events texts response verdict
  rcases act_total host agent served.json step (state.answered response) response verdict with
    ⟨record, result, acted⟩ | ⟨following, acted, uncompleted⟩
  · simp [round, acted] at continued
  · rw [round] at tied continued ⊢
    obtain rfl : following = next := by simpa [acted] using continued
    refine ⟨tied, seen_compactable host agent seen _ going.compactable compactable, ?_,
      round_reported host agent step past seen state _ going reported,
      round_readable host agent step past seen state _ going readable⟩
    rw [flatten_snoc, List.countP_append, List.countP_append, going.uncompleted,
      opening_completed messages events texts, List.countP_cons, uncompleted]
    rfl

theorem stream_decided (lawful : ReadsSummaries host.loads) (agent : Agent) (served : Served host agent)
    (definitions : List ToolDefinition) (messages : List ChatMessage) :
    Decided host agent (runRounds host agent definitions agent.config.maxSteps 1 { messages })
      (roundMessages host agent definitions agent.config.maxSteps 1 { messages }) := by
  refine run_messages_rule host agent definitions (agent.config.maxSteps + 1) (Going host agent) (Decided host agent)
    ?_ ?_ ?_ ?_ agent.config.maxSteps 1 [] [] { messages } (by omega)
    ⟨tied_initial _ _ _, by simp, rfl, by simp [executions], trivial⟩
  · intro step past seen state failure _ going raised
    exact decided_raise host lawful agent served definitions step past seen state failure going raised
  · intro step past seen state inside going returned
    exact decided_return host lawful agent served definitions step past seen state inside going returned
  · intro step past seen state next inside going continued
    exact going_round host lawful agent served definitions step past seen state next inside going continued
  · intro past seen state going
    refine .inl ⟨⟨rfl, ⟨past.flatten, _, rfl, going.uncompleted⟩, ?_, ?_⟩, going.compactable, ?_⟩
    · rw [AgentRun.actions, List.countP_append]
      exact going.tied.requests
    · intro execution member
      rw [AgentRun.actions, executions_append, List.mem_append] at member
      rcases member with earlier | closing
      · exact going.reported execution earlier
      · cases closing
    · rw [AgentRun.actions, readable_append]
      exact ⟨going.readable, readable_quiet _ _ _ _ (by simp)⟩

section Written

-- A law of json.loads on what the loop writes into tool messages: it reads an
-- object, or refuses with a JSONDecodeError where the text was cut.
def ReadsWritten (loads : JsonLoads) : Prop := ∀ content, Serialized content → ObjectOrNone loads content

theorem written_summaries (loads : JsonLoads) (lawful : ReadsWritten loads) : ReadsSummaries loads := by
  intro toolName content includeRows compacted done
  obtain ⟨fields, written⟩ := compact_written loads toolName content includeRows
    ((compact_ok_iff loads toolName content includeRows).mp ⟨compacted, done⟩)
  obtain rfl := Except.ok.inj (written.symm.trans done)
  exact lawful _ (serialized_whole fields)

def ToolsSerialized (messages : List ChatMessage) : Prop :=
  ∀ message ∈ messages, message.role = .tool → Serialized message.text

theorem serialized_compactable (lawful : ReadsWritten host.loads) (config : AgentConfig) (messages : List ChatMessage)
    (serialized : ToolsSerialized messages) :
    Compactable host.toInterpreter config messages ↔ ∀ message ∈ messages, host.copyRaises message = none := by
  have reads : ∀ (index : Nat) (message : ChatMessage), messages[index]? = some message → message.role = .tool →
      ObjectOrNone host.loads message.text :=
    fun index message found tool => lawful _ (serialized message (List.mem_of_getElem? found) tool)
  constructor
  · exact fun compactable => compactable.copies
  · intro copies
    exact ⟨copies, fun index message found old => reads index message found old.1,
      fun _ _ _ index message found tool _ => reads index message found tool⟩

theorem act_serialized (agent : Agent) (step : Nat) (state next : LoopState) (response : LLMResponse) (verdict : Verdict)
    (serialized : ToolsSerialized state.messages)
    (continued : (act host agent step (state.answered response) response verdict).next = .ok (some next)) :
    ToolsSerialized next.messages := by
  have answered : ToolsSerialized (state.answered response).messages := by
    intro message member tool
    rcases List.mem_append.mp member with earlier | now
    · exact serialized message earlier tool
    · rw [List.mem_singleton.mp now] at tool
      cases tool
  rcases act_goes_on host agent step _ next response verdict continued with ⟨_, rfl⟩ | ⟨signatures, _, executed⟩
  · intro message member tool
    rcases List.mem_append.mp member with earlier | now
    · exact answered message ((List.dropLast_sublist _).subset earlier) tool
    · rw [List.mem_singleton.mp now] at tool
      cases tool
  · obtain ⟨messages, written, rfl⟩ := execute_batch_goes_on host agent step _ next response signatures executed
    intro message member tool
    rcases List.mem_append.mp member with earlier | now
    · exact answered message earlier tool
    · exact tool_messages_serialized agent.config _ messages written message now

theorem round_messages_serialized (agent : Agent) (definitions : List ToolDefinition) (remaining step : Nat)
    (state : LoopState) (serialized : ToolsSerialized state.messages) :
    ∀ messages ∈ roundMessages host agent definitions remaining step state, ToolsSerialized messages := by
  induction remaining generalizing step state with
  | zero => simp [roundMessages]
  | succ remaining ih =>
      rw [roundMessages]
      intro messages member
      rcases List.mem_cons.mp member with rfl | later
      · exact serialized
      · cases continued : (agentRound host agent definitions step state).next with
        | error failure => simp [continued] at later
        | ok following =>
            cases following with
            | none => simp [continued] at later
            | some next =>
                rw [continued] at later
                obtain ⟨response, verdict, acted⟩ := round_goes host agent definitions step state next continued
                exact ih (step + 1) next (act_serialized host agent step state next response verdict serialized acted)
                  messages later

theorem initial_serialized (userInput : String) (systemPrompt : Option String) (history : List ChatMessage)
    (plain : ∀ message ∈ history, message.role ≠ .tool) :
    ToolsSerialized (initialMessages userInput systemPrompt history) := by
  intro message member tool
  simp only [initialMessages, List.mem_append, List.mem_singleton] at member
  rcases member with (system | earlier) | rfl
  · split at system
    · cases system
    · rw [List.mem_singleton.mp system] at tool
      cases tool
  · exact absurd tool (plain message earlier)
  · cases tool

end Written

-- Everything that can make the loop raise: a tool without a schema, a message
-- list that a round cannot compact, a call that it cannot normalise.
def Unhindered (agent : Agent) (run : AgentRun) (conversations : List (List ChatMessage)) : Prop :=
  (∀ tool ∈ agent.tools.tools, tool.inputSchema ≠ none) ∧ Undisturbed host agent run conversations

theorem query_served (sql : String) : Served sampleHost (queryAgent sql) := by
  refine ⟨?_, ?_⟩
  · intro tool member step arguments value invoked
    rw [List.mem_singleton.mp member] at invoked
    cases invoked
    decide
  · exact fun definitions step messages => ⟨queryResponse sql step, rfl⟩

theorem sample_written : ReadsWritten sampleHost.loads := serialized_object

theorem sample_summaries : ReadsSummaries sampleHost.loads := written_summaries sampleHost.loads sample_written

end DataPilot.Agent
