import DataPilot.Agent.Execution

set_option autoImplicit false

namespace DataPilot.Agent

open DataPilot.Base DataPilot.Tools DataPilot.Sql

structure LoopState where
  messages : List ChatMessage
  usage : TokenUsage := {}
  steps : List AgentStep := []
  executedSignatures : List Signature := []
  toolBudgetRetries : Nat := 0

-- What a run does that can be seen from outside the loop, in order.
inductive Action where
  | request (messages : List ChatMessage)
  | respond (response : LLMResponse)
  | replan (message : ChatMessage)
  | execute (execution : ToolExecution)
  | emit (event : AgentStreamEvent)

-- One round of the loop. It raises, returns after its completed event, or
-- leaves the state of the next round.
structure AgentRound where
  actions : List Action
  next : Except PyException (Option LoopState)

structure AgentRun where
  rounds : List (List Action)
  closing : List Action
  outcome : Except PyException Unit

def AgentRun.actions (run : AgentRun) : List Action := run.rounds.flatten ++ run.closing

def assistantMessage (response : LLMResponse) : ChatMessage :=
  { role := .assistant, content := response.content, toolCalls := response.toolCalls }

def replanMessage (config : AgentConfig) (calls : Nat) : ChatMessage :=
  { role := .user
    content := some (s!"本轮提出了 {calls} 个工具调用，超过单步上限 {config.maxToolCallsPerStep}。" ++
      "请不要执行这些调用，重新规划为更少的工具调用；优先按关键维度分批分析。") }

def tokenBudgetReason (config : AgentConfig) (usage : TokenUsage) : String :=
  s!"已达到 Token 预算：已使用 {usage.totalTokens}，预算为 {config.maxTotalTokens}。"

def toolBudgetReason (config : AgentConfig) (calls : Nat) : String :=
  s!"单步工具调用数为 {calls}，超过上限 {config.maxToolCallsPerStep}。请缩小分析范围后重试。"

-- ", ".join(sorted({name for name, _ in duplicate_signatures}))
def repeatedNames (duplicates : List Signature) : String :=
  ", ".intercalate ((duplicates.map Prod.fst).dedup.insertionSort (· ≤ ·))

def loopReason (duplicates : List Signature) : String :=
  s!"检测到重复的 SQL 或工具调用：{repeatedNames duplicates}。请更换分析维度或参数后重试。"

def maxStepsReason (config : AgentConfig) : String := s!"已达到最大执行步数 {config.maxSteps}，Agent 已停止。"

-- Which branch the answered response takes.
inductive Verdict where
  | completed
  | tokenBudgetExceeded
  | replan
  | toolBudgetExceeded
  | loopDetected (duplicates : List Signature)
  | accepted (signatures : List Signature)

def judgeSignatures (executed current : List Signature) : Verdict :=
  let repeatedCalls := executed.filter (· ∈ current)
  if repeatedCalls ≠ [] then .loopDetected repeatedCalls
  else if current.Nodup then .accepted current
  else .loopDetected current

def judge (normalizer : Normalizer) (config : AgentConfig) (state : LoopState) (calls : List ToolCall) :
    Except PyException Verdict :=
  if calls = [] then .ok .completed
  else if config.maxTotalTokens < state.usage.totalTokens then .ok .tokenBudgetExceeded
  else if config.maxToolCallsPerStep < calls.length then
    if state.toolBudgetRetries < config.maxToolBudgetRetries then .ok .replan else .ok .toolBudgetExceeded
  else (callSignatures normalizer calls).map (judgeSignatures state.executedSignatures)

-- What each verdict says about the response and the state it was reached in.
def Justified (normalizer : Normalizer) (config : AgentConfig) (state : LoopState) (calls : List ToolCall) : Verdict → Prop
  | .completed => calls = []
  | .tokenBudgetExceeded => calls ≠ [] ∧ config.maxTotalTokens < state.usage.totalTokens
  | .replan =>
      calls ≠ [] ∧ state.usage.totalTokens ≤ config.maxTotalTokens ∧ config.maxToolCallsPerStep < calls.length ∧
        state.toolBudgetRetries < config.maxToolBudgetRetries
  | .toolBudgetExceeded =>
      calls ≠ [] ∧ state.usage.totalTokens ≤ config.maxTotalTokens ∧ config.maxToolCallsPerStep < calls.length ∧
        config.maxToolBudgetRetries ≤ state.toolBudgetRetries
  | .loopDetected _ =>
      ∃ current, callSignatures normalizer calls = .ok current ∧
        ((∃ signature ∈ current, signature ∈ state.executedSignatures) ∨ ¬ current.Nodup)
  | .accepted current =>
      calls ≠ [] ∧ state.usage.totalTokens ≤ config.maxTotalTokens ∧ calls.length ≤ config.maxToolCallsPerStep ∧
        callSignatures normalizer calls = .ok current ∧ (∀ signature ∈ current, signature ∉ state.executedSignatures) ∧
        current.Nodup

theorem judge_justified (normalizer : Normalizer) (config : AgentConfig) (state : LoopState) (calls : List ToolCall)
    (verdict : Verdict) (judged : judge normalizer config state calls = .ok verdict) :
    Justified normalizer config state calls verdict := by
  unfold judge at judged
  split at judged
  · cases judged
    assumption
  rename_i present
  split at judged
  · cases judged
    exact ⟨present, by assumption⟩
  rename_i affordable
  rw [not_lt] at affordable
  split at judged
  · rename_i tooMany
    split at judged <;> cases judged
    · exact ⟨present, affordable, tooMany, by assumption⟩
    · exact ⟨present, affordable, tooMany, by omega⟩
  rename_i few
  cases computed : callSignatures normalizer calls with
  | error failure => simp [computed, Except.map] at judged
  | ok current =>
      simp only [computed, Except.map, Except.ok.injEq, judgeSignatures] at judged
      split at judged
      · rename_i repeated
        subst judged
        obtain ⟨signature, member⟩ := List.exists_mem_of_ne_nil _ repeated
        have both := List.mem_filter.mp member
        exact ⟨current, computed, .inl ⟨signature, by simpa using both.2, both.1⟩⟩
      rename_i fresh
      split at judged
      · rename_i distinct
        subst judged
        refine ⟨present, affordable, by omega, computed, ?_, distinct⟩
        intro signature member executed
        exact fresh (List.ne_nil_of_mem (List.mem_filter.mpr ⟨executed, by simpa using member⟩))
      · rename_i duplicated
        subst judged
        exact ⟨current, computed, .inr duplicated⟩

-- messages.append(assistant_message) and the added usage.
def LoopState.answered (state : LoopState) (response : LLMResponse) : LoopState :=
  { state with messages := state.messages ++ [assistantMessage response], usage := state.usage.add response.usage }

def agentStep (step : Nat) (response : LLMResponse) : AgentStep :=
  { step, assistantContent := response.content, toolCalls := response.toolCalls, usage := response.usage }

def LoopState.result (state : LoopState) (status : AgentStatus) (output reason : Option String) : AgentRunResult :=
  { status, output, terminationReason := reason, messages := state.messages, steps := state.steps, usage := state.usage }

def finish (state : LoopState) (step : AgentStep) (status : AgentStatus) (output reason : Option String) : AgentRound :=
  ⟨[.emit (.step step), .emit (.completed ({ state with steps := state.steps ++ [step] }.result status output reason))],
    .ok none⟩

def stopWith (state : LoopState) (step : AgentStep) (status : AgentStatus) (reason : String) : AgentRound :=
  finish state step status (some reason) (some reason)

variable (host : Host)

def executeBatch (agent : Agent) (step : Nat) (state : LoopState) (response : LLMResponse)
    (signatures : List Signature) : AgentRound :=
  let batch := executeToolCalls host agent step response.toolCalls
  let record := { agentStep step response with toolExecutions := batch.returned }
  ⟨batch.ended.map .execute ++ [.emit (.step record)],
    (toolMessages agent.config batch.returned).map fun messages => some { state with
      messages := state.messages ++ messages
      steps := state.steps ++ [record]
      executedSignatures := state.executedSignatures ++ signatures }⟩

def act (agent : Agent) (step : Nat) (state : LoopState) (response : LLMResponse) : Verdict → AgentRound
  | .completed => finish state (agentStep step response) .completed response.content none
  | .tokenBudgetExceeded =>
      stopWith state (agentStep step response) .tokenBudgetExceeded (tokenBudgetReason agent.config state.usage)
  | .replan =>
      let message := replanMessage agent.config response.toolCalls.length
      ⟨[.replan message], .ok (some { state with
        messages := state.messages.dropLast ++ [message]
        steps := state.steps ++ [agentStep step response]
        toolBudgetRetries := state.toolBudgetRetries + 1 })⟩
  | .toolBudgetExceeded =>
      stopWith state (agentStep step response) .toolBudgetExceeded
        (toolBudgetReason agent.config response.toolCalls.length)
  | .loopDetected duplicates =>
      stopWith state (agentStep step response) .loopDetected (loopReason duplicates)
  | .accepted signatures => executeBatch host agent step state response signatures

def settle (agent : Agent) (step : Nat) (state : LoopState) (response : LLMResponse) : AgentRound :=
  match judge host.normalizer agent.config (state.answered response) response.toolCalls with
  | .error failure => ⟨[], .error failure⟩
  | .ok verdict => act host agent step (state.answered response) response verdict

def askModel (agent : Agent) (definitions : List ToolDefinition) (step : Nat) (state : LoopState)
    (messages : List ChatMessage) : AgentRound :=
  let answer := modelAnswer host agent definitions step messages
  let asked := .request messages :: answer.events.map .emit
  match answer.response with
  | .error failure => ⟨asked, .error failure⟩
  | .ok response =>
      let settled := settle host agent step state response
      ⟨asked ++ .respond response :: settled.actions, settled.next⟩

def agentRound (agent : Agent) (definitions : List ToolDefinition) (step : Nat) (state : LoopState) : AgentRound :=
  match compactedMessages host.toInterpreter agent.config state.messages with
  | .error failure => ⟨[], .error failure⟩
  | .ok messages => askModel host agent definitions step state messages

def runRounds (agent : Agent) (definitions : List ToolDefinition) : Nat → Nat → LoopState → AgentRun
  | 0, _, state =>
      let reason := some (maxStepsReason agent.config)
      ⟨[], [.emit (.completed (state.result .maxSteps reason reason))], .ok ()⟩
  | remaining + 1, step, state =>
      let round := agentRound host agent definitions step state
      match round.next with
      | .error failure => ⟨[round.actions], [], .error failure⟩
      | .ok none => ⟨[round.actions], [], .ok ()⟩
      | .ok (some next) =>
          let later := runRounds agent definitions remaining (step + 1) next
          ⟨round.actions :: later.rounds, later.closing, later.outcome⟩

def initialMessages (userInput : String) (systemPrompt : Option String) (history : List ChatMessage) :
    List ChatMessage :=
  let system := systemPrompt.getD ""
  (if system = "" then [] else [{ role := .system, content := some system }]) ++ history ++
    [{ role := .user, content := some userInput }]

def stream (agent : Agent) (userInput : String) (systemPrompt : Option String) (history : List ChatMessage) :
    AgentRun :=
  match agent.tools.definitions with
  | .error failure => ⟨[], [], .error failure⟩
  | .ok definitions =>
      runRounds host agent definitions agent.config.maxSteps 1
        { messages := initialMessages userInput systemPrompt history }

def roundMessages (agent : Agent) (definitions : List ToolDefinition) : Nat → Nat → LoopState → List (List ChatMessage)
  | 0, _, _ => []
  | remaining + 1, step, state =>
      state.messages ::
        match (agentRound host agent definitions step state).next with
        | .ok (some next) => roundMessages agent definitions remaining (step + 1) next
        | _ => []

def streamMessages (agent : Agent) (userInput : String) (systemPrompt : Option String) (history : List ChatMessage) :
    List (List ChatMessage) :=
  match agent.tools.definitions with
  | .error _ => []
  | .ok definitions =>
      roundMessages host agent definitions agent.config.maxSteps 1
        { messages := initialMessages userInput systemPrompt history }

theorem agent_round_ways (agent : Agent) (definitions : List ToolDefinition) (step : Nat) (state : LoopState) :
    (∃ failure, compactedMessages host.toInterpreter agent.config state.messages = .error failure ∧
      agentRound host agent definitions step state = ⟨[], .error failure⟩) ∨
    (∃ messages failure, compactedMessages host.toInterpreter agent.config state.messages = .ok messages ∧
      (modelAnswer host agent definitions step messages).response = .error failure ∧
      agentRound host agent definitions step state =
        ⟨.request messages :: (modelAnswer host agent definitions step messages).events.map .emit, .error failure⟩) ∨
    (∃ messages response, compactedMessages host.toInterpreter agent.config state.messages = .ok messages ∧
      (modelAnswer host agent definitions step messages).response = .ok response ∧
      agentRound host agent definitions step state =
        ⟨.request messages :: (modelAnswer host agent definitions step messages).events.map .emit ++
          .respond response :: (settle host agent step state response).actions,
          (settle host agent step state response).next⟩) := by
  unfold agentRound
  cases compacted : compactedMessages host.toInterpreter agent.config state.messages with
  | error failure => exact .inl ⟨failure, rfl, rfl⟩
  | ok messages =>
      dsimp only [askModel]
      cases answered : (modelAnswer host agent definitions step messages).response with
      | error failure => exact .inr (.inl ⟨messages, failure, rfl, answered, rfl⟩)
      | ok response => exact .inr (.inr ⟨messages, response, rfl, answered, rfl⟩)

-- A batch whose signatures are computed: it passed the two budgets.
def Examined (config : AgentConfig) (used : Nat) (response : LLMResponse) : Prop :=
  response.toolCalls ≠ [] ∧ used + response.usage.totalTokens ≤ config.maxTotalTokens ∧
    response.toolCalls.length ≤ config.maxToolCallsPerStep

theorem settle_ways (agent : Agent) (step : Nat) (state : LoopState) (response : LLMResponse) :
    (∃ failure, Examined agent.config state.usage.totalTokens response ∧
      callSignatures host.normalizer response.toolCalls = .error failure ∧
      settle host agent step state response = ⟨[], .error failure⟩) ∨
    (∃ verdict, Justified host.normalizer agent.config (state.answered response) response.toolCalls verdict ∧
      settle host agent step state response = act host agent step (state.answered response) response verdict) := by
  unfold settle
  cases judged : judge host.normalizer agent.config (state.answered response) response.toolCalls with
  | error failure =>
      refine .inl ⟨failure, ?_⟩
      unfold judge at judged
      split at judged
      · cases judged
      rename_i present
      split at judged
      · cases judged
      rename_i affordable
      split at judged
      · split at judged <;> cases judged
      rename_i few
      have spent := total_tokens_add state.usage response.usage
      refine ⟨⟨present, ?_, by omega⟩, ?_, rfl⟩
      · rw [← spent]
        exact not_lt.mp affordable
      · cases computed : callSignatures host.normalizer response.toolCalls with
        | error raised => simpa [computed, Except.map] using judged
        | ok current => simp [computed, Except.map] at judged
  | ok verdict => exact .inr ⟨verdict, judge_justified _ _ _ _ verdict judged, rfl⟩

theorem execute_batch_goes_on (agent : Agent) (step : Nat) (state next : LoopState) (response : LLMResponse)
    (signatures : List Signature)
    (continued : (executeBatch host agent step state response signatures).next = .ok (some next)) :
    ∃ messages, toolMessages agent.config (response.toolCalls.map (executeOne agent.tools step)) = .ok messages ∧
      next = { state with
        messages := state.messages ++ messages
        steps := state.steps ++ [{ agentStep step response with
          toolExecutions := response.toolCalls.map (executeOne agent.tools step) }]
        executedSignatures := state.executedSignatures ++ signatures } := by
  dsimp only [executeBatch] at continued
  rw [returned_executions] at continued
  cases written : toolMessages agent.config (response.toolCalls.map (executeOne agent.tools step)) with
  | error failure =>
      rw [written] at continued
      cases continued
  | ok messages =>
      rw [written] at continued
      cases continued
      exact ⟨messages, rfl, rfl⟩

theorem act_goes_on (agent : Agent) (step : Nat) (state next : LoopState) (response : LLMResponse) (verdict : Verdict)
    (continued : (act host agent step state response verdict).next = .ok (some next)) :
    (verdict = .replan ∧ next = { state with
      messages := state.messages.dropLast ++ [replanMessage agent.config response.toolCalls.length]
      steps := state.steps ++ [agentStep step response]
      toolBudgetRetries := state.toolBudgetRetries + 1 }) ∨
    ∃ signatures, verdict = .accepted signatures ∧
      (executeBatch host agent step state response signatures).next = .ok (some next) := by
  cases verdict with
  | replan =>
      cases continued
      exact .inl ⟨rfl, rfl⟩
  | accepted signatures => exact .inr ⟨signatures, rfl, continued⟩
  | _ => cases continued

theorem round_goes (agent : Agent) (definitions : List ToolDefinition) (step : Nat) (state next : LoopState)
    (continued : (agentRound host agent definitions step state).next = .ok (some next)) :
    ∃ response verdict, (act host agent step (state.answered response) response verdict).next = .ok (some next) := by
  rcases agent_round_ways host agent definitions step state with
    ⟨failure, _, round⟩ | ⟨messages, failure, _, _, round⟩ | ⟨messages, response, _, _, round⟩
  · rw [round] at continued
    cases continued
  · rw [round] at continued
    cases continued
  · rw [round] at continued
    rcases settle_ways host agent step state response with ⟨failure, _, _, settled⟩ | ⟨verdict, _, settled⟩
    · rw [settled] at continued
      cases continued
    · rw [settled] at continued
      exact ⟨response, verdict, continued⟩

-- The rule for whole runs: Good says what is known between rounds about the
-- rounds so far, the messages they started from and the state, Done what is
-- known of a run that has ended.
theorem run_messages_rule (agent : Agent) (definitions : List ToolDefinition) (last : Nat)
    (Good : Nat → List (List Action) → List (List ChatMessage) → LoopState → Prop)
    (Done : AgentRun → List (List ChatMessage) → Prop)
    (raises : ∀ step past seen state failure, step < last → Good step past seen state →
      (agentRound host agent definitions step state).next = .error failure →
      Done ⟨past ++ [(agentRound host agent definitions step state).actions], [], .error failure⟩ (seen ++ [state.messages]))
    (returns : ∀ step past seen state, step < last → Good step past seen state →
      (agentRound host agent definitions step state).next = .ok none →
      Done ⟨past ++ [(agentRound host agent definitions step state).actions], [], .ok ()⟩ (seen ++ [state.messages]))
    (continues : ∀ step past seen state next, step < last → Good step past seen state →
      (agentRound host agent definitions step state).next = .ok (some next) →
      Good (step + 1) (past ++ [(agentRound host agent definitions step state).actions]) (seen ++ [state.messages]) next)
    (closes : ∀ past seen state, Good last past seen state →
      Done ⟨past, [.emit (.completed (state.result .maxSteps (some (maxStepsReason agent.config))
        (some (maxStepsReason agent.config))))], .ok ()⟩ seen)
    (remaining step : Nat) (past : List (List Action)) (seen : List (List ChatMessage)) (state : LoopState)
    (left : step + remaining = last) (good : Good step past seen state) :
    Done ⟨past ++ (runRounds host agent definitions remaining step state).rounds,
      (runRounds host agent definitions remaining step state).closing,
      (runRounds host agent definitions remaining step state).outcome⟩
      (seen ++ roundMessages host agent definitions remaining step state) := by
  induction remaining generalizing step past seen state with
  | zero =>
      obtain rfl : step = last := left
      simpa only [runRounds, roundMessages, List.append_nil] using closes past seen state good
  | succ remaining ih =>
      rw [runRounds, roundMessages]
      cases next : (agentRound host agent definitions step state).next with
      | error failure =>
          dsimp only
          exact raises step past seen state failure (by omega) good next
      | ok continued =>
          cases continued with
          | none =>
              dsimp only
              exact returns step past seen state (by omega) good next
          | some following =>
              dsimp only
              have later := ih (step + 1) _ _ following (by omega)
                (continues step past seen state following (by omega) good next)
              simpa only [List.append_assoc, List.singleton_append] using later

theorem run_rounds_rule (agent : Agent) (definitions : List ToolDefinition) (last : Nat)
    (Good : Nat → List (List Action) → LoopState → Prop) (Done : AgentRun → Prop)
    (raises : ∀ step past state failure, step < last → Good step past state →
      (agentRound host agent definitions step state).next = .error failure →
      Done ⟨past ++ [(agentRound host agent definitions step state).actions], [], .error failure⟩)
    (returns : ∀ step past state, step < last → Good step past state →
      (agentRound host agent definitions step state).next = .ok none →
      Done ⟨past ++ [(agentRound host agent definitions step state).actions], [], .ok ()⟩)
    (continues : ∀ step past state next, step < last → Good step past state →
      (agentRound host agent definitions step state).next = .ok (some next) →
      Good (step + 1) (past ++ [(agentRound host agent definitions step state).actions]) next)
    (closes : ∀ past state, Good last past state →
      Done ⟨past, [.emit (.completed (state.result .maxSteps (some (maxStepsReason agent.config))
        (some (maxStepsReason agent.config))))], .ok ()⟩)
    (remaining step : Nat) (past : List (List Action)) (state : LoopState) (left : step + remaining = last)
    (good : Good step past state) :
    Done ⟨past ++ (runRounds host agent definitions remaining step state).rounds,
      (runRounds host agent definitions remaining step state).closing,
      (runRounds host agent definitions remaining step state).outcome⟩ :=
  run_messages_rule host agent definitions last (fun step past _ state => Good step past state) (fun run _ => Done run)
    (fun step past _ state => raises step past state) (fun step past _ state => returns step past state)
    (fun step past _ state => continues step past state) (fun past _ state => closes past state) remaining step past []
    state left good

section Sample

-- A model that asks for one query and then answers, over a parser that knows
-- one statement and refuses one at its open quote.
def selectOne : Expression := .node "Select" false [] .missing (.cons (.literal "1" false) .nil)

def openQuote : String := "SELECT 'open"

def sampleNormalizer : Normalizer where
  parse _ sql := if sql = "SELECT 1" then .ok [some ⟨selectOne, []⟩] else .error (.tokenError "Error tokenizing 'SELECT 'open'")
  parseOne _ sql := if sql = "SELECT 1" then .ok ⟨selectOne, []⟩ else .error (.tokenError "Error tokenizing 'SELECT 'open'")
  sql _ _ := .ok "SELECT 1"
  dumpsRaises _ := none

def sampleHost : Host where
  normalizer := sampleNormalizer
  loads := readJson
  copyRaises _ := none
  decodeError _ := "Expecting value: line 1 column 1 (char 0)"
  completionOrder _ calls := List.finRange calls
  everyCallEnds _ _ := List.Perm.refl _

def queryTool : RegisteredTool where
  name := "run_sql"
  description := "Run a read-only SELECT."
  inputSchema := some [("type", .str "object")]
  parallelSafe := false
  invoke _ _ := .ok (.dict [("columns", .list [.str "1"]), ("row_count", .int 1)])

def queryCall (sql : String) : ToolCall where
  id := "call-1"
  name := "run_sql"
  arguments := [("sql", .str sql)]
  idNonempty := by decide
  nameNonempty := by decide

def queryResponse (sql : String) (step : Nat) : LLMResponse :=
  if step = 1 then { toolCalls := [queryCall sql], usage := ⟨10, 5⟩ } else { content := some "done", usage := ⟨20, 5⟩ }

def queryAgent (sql : String) : Agent where
  model := { chat := fun step _ _ => .ok (queryResponse sql step), chatStream := none }
  tools := { tools := [queryTool], distinct := by decide }
  config := {}

end Sample

end DataPilot.Agent
