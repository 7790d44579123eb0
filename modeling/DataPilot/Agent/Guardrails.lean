import DataPilot.Agent.Loop

set_option autoImplicit false

namespace DataPilot.Agent

open DataPilot.Base DataPilot.Tools DataPilot.Sql

def Action.isRequest : Action → Bool
  | .request _ => true
  | _ => false

def Action.isReplan : Action → Bool
  | .replan _ => true
  | _ => false

def Action.isCompleted : Action → Bool
  | .emit (.completed _) => true
  | _ => false

def Action.execution : Action → Option ToolExecution
  | .execute execution => some execution
  | _ => none

def Action.tokens : Action → Nat
  | .respond response => response.usage.totalTokens
  | _ => 0

def executions (actions : List Action) : List ToolExecution := actions.filterMap Action.execution

def tokensUsed (actions : List Action) : Nat := (actions.map Action.tokens).sum

def executionSignature (normalizer : Normalizer) (execution : ToolExecution) : Except PyException Signature :=
  callSignature normalizer execution.toolName execution.arguments

-- A request other than the first and every execution need an unspent budget.
def Action.spends (action : Action) (before : List Action) : Bool :=
  action.execution.isSome || (action.isRequest && before.any Action.isRequest)

structure Guarded (normalizer : Normalizer) (config : AgentConfig) (run : AgentRun) : Prop where
  requests : run.actions.countP Action.isRequest ≤ config.maxSteps
  budget : ∀ before action after, run.actions = before ++ action :: after → action.spends before = true →
    tokensUsed before ≤ config.maxTotalTokens
  perStep : ∀ round ∈ run.rounds, round.countP Action.isRequest ≤ 1 ∧
    (executions round).length ≤ config.maxToolCallsPerStep
  replans : run.actions.countP Action.isReplan ≤ config.maxToolBudgetRetries
  rejected : ∀ round ∈ run.rounds, (∃ action ∈ round, action.isReplan = true ∨ action.isCompleted = true) →
    executions round = []
  distinct : ((executions run.actions).map (executionSignature normalizer)).Nodup

-- The budget read along the trace: what is used so far, and whether the model
-- has been asked.
def WithinBudget (limit : Nat) : Nat → Bool → List Action → Prop
  | _, _, [] => True
  | used, asked, action :: rest =>
      ((action.execution.isSome || (action.isRequest && asked)) = true → used ≤ limit) ∧
        WithinBudget limit (used + action.tokens) (asked || action.isRequest) rest

@[simp] theorem executions_append (first second : List Action) :
    executions (first ++ second) = executions first ++ executions second := List.filterMap_append ..

@[simp] theorem tokens_used_append (first second : List Action) :
    tokensUsed (first ++ second) = tokensUsed first + tokensUsed second := by simp [tokensUsed]

theorem within_budget_append (limit used : Nat) (asked : Bool) (first second : List Action) :
    WithinBudget limit used asked (first ++ second) ↔ WithinBudget limit used asked first ∧
      WithinBudget limit (used + tokensUsed first) (asked || first.any Action.isRequest) second := by
  induction first generalizing used asked with
  | nil => simp [WithinBudget, tokensUsed]
  | cons action rest ih =>
      simp only [List.cons_append, WithinBudget, ih, tokensUsed, List.map_cons, List.sum_cons, List.any_cons,
        Nat.add_assoc, Bool.or_assoc, and_assoc]

theorem within_budget_at (limit : Nat) (actions before after : List Action) (action : Action)
    (within : WithinBudget limit 0 false actions) (here : actions = before ++ action :: after)
    (spends : action.spends before = true) : tokensUsed before ≤ limit := by
  subst here
  have reached := ((within_budget_append limit 0 false before (action :: after)).mp within).2
  rw [WithinBudget, Bool.false_or, Nat.zero_add] at reached
  exact reached.1 spends

def Idle (actions : List Action) : Prop := ∀ action ∈ actions, action.execution = none ∧ action.isRequest = false

theorem idle_within (limit used : Nat) (asked : Bool) (actions : List Action) (idle : Idle actions) :
    WithinBudget limit used asked actions := by
  induction actions generalizing used asked with
  | nil => trivial
  | cons action rest ih =>
      have head := idle action (by simp)
      refine ⟨by simp [head], ih _ _ fun later member => idle later (by simp [member])⟩

theorem idle_executions (actions : List Action) (idle : Idle actions) : executions actions = [] := by
  rw [executions, List.filterMap_eq_nil_iff]
  exact fun action member => (idle action member).1

theorem idle_requests (actions : List Action) (idle : Idle actions) : actions.countP Action.isRequest = 0 := by
  rw [List.countP_eq_zero]
  intro action member
  simp [(idle action member).2]

theorem emits_idle (events : List AgentStreamEvent) : Idle (events.map .emit) := by
  intro action member
  obtain ⟨event, _, rfl⟩ := List.mem_map.mp member
  exact ⟨rfl, rfl⟩

structure SettledSafely (normalizer : Normalizer) (config : AgentConfig) (state : LoopState) (round : AgentRound) : Prop where
  asksNothing : ∀ action ∈ round.actions, action.isRequest = false
  usesNothing : tokensUsed round.actions = 0
  within : ∀ asked, WithinBudget config.maxTotalTokens state.usage.totalTokens asked round.actions
  perStep : (executions round.actions).length ≤ config.maxToolCallsPerStep
  rejected : (∃ action ∈ round.actions, action.isReplan = true ∨ action.isCompleted = true) →
    executions round.actions = []
  replans : state.toolBudgetRetries ≤ config.maxToolBudgetRetries →
    state.toolBudgetRetries + round.actions.countP Action.isReplan ≤ config.maxToolBudgetRetries
  fresh : ∃ signatures : List Signature,
    ((executions round.actions).map (executionSignature normalizer)).Perm (signatures.map .ok) ∧ signatures.Nodup ∧
      (∀ signature ∈ signatures, signature ∉ state.executedSignatures) ∧
      ∀ next, round.next = .ok (some next) → next.executedSignatures = state.executedSignatures ++ signatures
  continues : ∀ next, round.next = .ok (some next) →
    next.usage = state.usage ∧ state.usage.totalTokens ≤ config.maxTotalTokens ∧
      next.toolBudgetRetries = state.toolBudgetRetries + round.actions.countP Action.isReplan

theorem tokens_used_zero (actions : List Action) (free : ∀ action ∈ actions, action.tokens = 0) :
    tokensUsed actions = 0 := by
  induction actions with
  | nil => rfl
  | cons action rest ih =>
      have head := free action (by simp)
      have later := ih fun other member => free other (by simp [member])
      simpa [tokensUsed, head] using later

theorem idle_safely (normalizer : Normalizer) (config : AgentConfig) (state : LoopState) (round : AgentRound)
    (idle : Idle round.actions) (free : ∀ action ∈ round.actions, action.tokens = 0)
    (replans : state.toolBudgetRetries ≤ config.maxToolBudgetRetries →
      state.toolBudgetRetries + round.actions.countP Action.isReplan ≤ config.maxToolBudgetRetries)
    (continues : ∀ next, round.next = .ok (some next) →
      next.usage = state.usage ∧ state.usage.totalTokens ≤ config.maxTotalTokens ∧
        next.toolBudgetRetries = state.toolBudgetRetries + round.actions.countP Action.isReplan ∧
        next.executedSignatures = state.executedSignatures) : SettledSafely normalizer config state round := by
  have nothing := idle_executions round.actions idle
  refine ⟨fun action member => (idle action member).2, tokens_used_zero _ free, ?_, ?_, fun _ => nothing, replans, ?_, ?_⟩
  · exact fun asked => idle_within _ _ asked _ idle
  · simp [nothing]
  · refine ⟨[], by simp [nothing], List.nodup_nil, by simp, ?_⟩
    intro next continued
    simpa using (continues next continued).2.2.2
  · intro next continued
    have facts := continues next continued
    exact ⟨facts.1, facts.2.1, facts.2.2.1⟩

theorem finish_safely (normalizer : Normalizer) (config : AgentConfig) (state : LoopState) (step : AgentStep)
    (status : AgentStatus) (output reason : Option String) :
    SettledSafely normalizer config state (finish state step status output reason) := by
  apply idle_safely
  · intro action member
    simp only [finish, List.mem_cons, List.not_mem_nil, or_false] at member
    rcases member with rfl | rfl <;> exact ⟨rfl, rfl⟩
  · intro action member
    simp only [finish, List.mem_cons, List.not_mem_nil, or_false] at member
    rcases member with rfl | rfl <;> rfl
  · simp [finish, Action.isReplan]
  · intro next continued
    simp [finish] at continued

variable (host : Host)

theorem ended_signatures (agent : Agent) (step : Nat) (calls : List ToolCall) (signatures : List Signature)
    (computed : callSignatures host.normalizer calls = .ok signatures) :
    ((executeToolCalls host agent step calls).ended.map (executionSignature host.normalizer)).Perm
      (signatures.map .ok) := by
  have pairs := call_signatures_forall host.normalizer calls signatures computed
  have inOrder : (calls.map (executeOne agent.tools step)).map (executionSignature host.normalizer) =
      signatures.map .ok := by
    clear computed
    induction pairs with
    | nil => rfl
    | @cons call signature calls signatures head tail ih =>
        obtain ⟨_, named, given⟩ := execute_one_call agent.tools step call
        simp only [List.map_cons, ih, executionSignature, named, given, head]
  exact inOrder ▸ (ended_executions host agent step calls).map (executionSignature host.normalizer)

theorem batch_executions (ended : List ToolExecution) (record : AgentStep) :
    executions (ended.map .execute ++ [.emit (.step record)]) = ended := by
  have executed : executions (ended.map .execute) = ended := by
    simp [executions, List.filterMap_map, Function.comp_def, Action.execution]
  rw [executions_append, executed]
  simp [executions, Action.execution]

theorem batch_within (limit used : Nat) (asked : Bool) (ended : List ToolExecution) (record : AgentStep)
    (affordable : used ≤ limit) :
    WithinBudget limit used asked (ended.map .execute ++ [.emit (.step record)]) := by
  induction ended with
  | nil => simp [WithinBudget, Action.execution, Action.isRequest]
  | cons execution rest ih =>
      refine ⟨fun _ => affordable, ?_⟩
      simpa [Action.tokens, Action.isRequest] using ih

theorem execute_batch_safely (agent : Agent) (step : Nat) (state : LoopState) (response : LLMResponse)
    (signatures : List Signature)
    (justified : Justified host.normalizer agent.config state response.toolCalls (.accepted signatures)) :
    SettledSafely host.normalizer agent.config state (executeBatch host agent step state response signatures) := by
  obtain ⟨_, affordable, few, computed, fresh, distinct⟩ := justified
  have ended := ended_signatures host agent step response.toolCalls signatures computed
  have counted := (ended_executions host agent step response.toolCalls).length_eq
  have quiet : ∀ action ∈ (executeBatch host agent step state response signatures).actions,
      action.isRequest = false ∧ action.tokens = 0 ∧ action.isReplan = false ∧ action.isCompleted = false := by
    intro action member
    simp only [executeBatch, List.mem_append, List.mem_map, List.mem_singleton] at member
    rcases member with ⟨execution, _, rfl⟩ | rfl <;> exact ⟨rfl, rfl, rfl, rfl⟩
  have noReplan : (executeBatch host agent step state response signatures).actions.countP Action.isReplan = 0 := by
    rw [List.countP_eq_zero]
    intro action member
    simp [(quiet action member).2.2.1]
  refine ⟨fun action member => (quiet action member).1, ?_, ?_, ?_, ?_, ?_, ?_, ?_⟩
  · exact tokens_used_zero _ fun action member => (quiet action member).2.1
  · exact fun asked => batch_within _ _ asked _ _ affordable
  · dsimp only [executeBatch]
    rw [batch_executions, counted, List.length_map]
    exact few
  · rintro ⟨action, member, settled⟩
    have still := quiet action member
    simp [still] at settled
  · intro bounded
    rw [noReplan]
    exact bounded
  · refine ⟨signatures, ?_, distinct, fresh, ?_⟩
    · dsimp only [executeBatch]
      rw [batch_executions]
      exact ended
    · intro next continued
      obtain ⟨messages, _, rfl⟩ := execute_batch_goes_on host agent step state next response signatures continued
      rfl
  · intro next continued
    rw [noReplan]
    obtain ⟨messages, _, rfl⟩ := execute_batch_goes_on host agent step state next response signatures continued
    exact ⟨rfl, affordable, rfl⟩

theorem act_safely (agent : Agent) (step : Nat) (state : LoopState) (response : LLMResponse) (verdict : Verdict)
    (justified : Justified host.normalizer agent.config state response.toolCalls verdict) :
    SettledSafely host.normalizer agent.config state (act host agent step state response verdict) := by
  cases verdict with
  | completed => exact finish_safely _ _ _ _ _ _ _
  | tokenBudgetExceeded => exact finish_safely _ _ _ _ _ _ _
  | toolBudgetExceeded => exact finish_safely _ _ _ _ _ _ _
  | loopDetected duplicates => exact finish_safely _ _ _ _ _ _ _
  | accepted signatures => exact execute_batch_safely host agent step state response signatures justified
  | replan =>
      obtain ⟨_, affordable, _, retry⟩ := justified
      apply idle_safely
      · intro action member
        obtain rfl := List.mem_singleton.mp member
        exact ⟨rfl, rfl⟩
      · intro action member
        obtain rfl := List.mem_singleton.mp member
        rfl
      · intro _
        exact Nat.succ_le_of_lt retry
      · intro next continued
        simp only [act, Except.ok.injEq, Option.some.injEq] at continued
        subst continued
        exact ⟨rfl, affordable, by simp [act, Action.isReplan], rfl⟩

theorem act_completed (agent : Agent) (step : Nat) (state : LoopState) (response : LLMResponse) (verdict : Verdict)
    (continues : (act host agent step state response verdict).next ≠ .ok none) :
    (act host agent step state response verdict).actions.countP Action.isCompleted = 0 := by
  cases verdict with
  | completed => exact absurd rfl continues
  | tokenBudgetExceeded => exact absurd rfl continues
  | toolBudgetExceeded => exact absurd rfl continues
  | loopDetected duplicates => exact absurd rfl continues
  | replan => rfl
  | accepted signatures =>
      rw [List.countP_eq_zero]
      intro action member
      simp only [act, executeBatch, List.mem_append, List.mem_map, List.mem_singleton] at member
      rcases member with ⟨execution, _, rfl⟩ | rfl <;> simp [Action.isCompleted]

theorem settle_safely (agent : Agent) (step : Nat) (state : LoopState) (response : LLMResponse) :
    SettledSafely host.normalizer agent.config (state.answered response) (settle host agent step state response) := by
  rcases settle_ways host agent step state response with ⟨failure, _, _, settled⟩ | ⟨verdict, justified, settled⟩
  · rw [settled]
    apply idle_safely
    · simp [Idle]
    · simp
    · simp
    · simp
  · rw [settled]
    exact act_safely host agent step (state.answered response) response verdict justified

structure Ended (normalizer : Normalizer) (config : AgentConfig) (past : List (List Action)) : Prop where
  requests : past.flatten.countP Action.isRequest ≤ config.maxSteps
  within : WithinBudget config.maxTotalTokens 0 false past.flatten
  perStep : ∀ round ∈ past, round.countP Action.isRequest ≤ 1 ∧
    (executions round).length ≤ config.maxToolCallsPerStep
  rejected : ∀ round ∈ past, (∃ action ∈ round, action.isReplan = true ∨ action.isCompleted = true) →
    executions round = []
  replans : past.flatten.countP Action.isReplan ≤ config.maxToolBudgetRetries
  distinct : ((executions past.flatten).map (executionSignature normalizer)).Nodup

structure Tied (normalizer : Normalizer) (config : AgentConfig) (step : Nat) (past : List (List Action)) (state : LoopState) :
    Prop extends Ended normalizer config past where
  asked : past.flatten.countP Action.isRequest + 1 ≤ step
  usage : state.usage.totalTokens = tokensUsed past.flatten
  affordable : past.flatten.any Action.isRequest = true → state.usage.totalTokens ≤ config.maxTotalTokens
  retries : state.toolBudgetRetries = past.flatten.countP Action.isReplan
  signatures : ((executions past.flatten).map (executionSignature normalizer)).Perm (state.executedSignatures.map .ok)

structure RoundSafely (normalizer : Normalizer) (config : AgentConfig) (state : LoopState) (round : AgentRound) : Prop where
  requests : round.actions.countP Action.isRequest ≤ 1
  within : ∀ asked, (asked = true → state.usage.totalTokens ≤ config.maxTotalTokens) →
    WithinBudget config.maxTotalTokens state.usage.totalTokens asked round.actions
  perStep : (executions round.actions).length ≤ config.maxToolCallsPerStep
  rejected : (∃ action ∈ round.actions, action.isReplan = true ∨ action.isCompleted = true) →
    executions round.actions = []
  replans : state.toolBudgetRetries ≤ config.maxToolBudgetRetries →
    state.toolBudgetRetries + round.actions.countP Action.isReplan ≤ config.maxToolBudgetRetries
  fresh : ∃ signatures : List Signature,
    ((executions round.actions).map (executionSignature normalizer)).Perm (signatures.map .ok) ∧ signatures.Nodup ∧
      (∀ signature ∈ signatures, signature ∉ state.executedSignatures) ∧
      ∀ next, round.next = .ok (some next) → next.executedSignatures = state.executedSignatures ++ signatures
  continues : ∀ next, round.next = .ok (some next) →
    next.usage.totalTokens = state.usage.totalTokens + tokensUsed round.actions ∧
      next.usage.totalTokens ≤ config.maxTotalTokens ∧
      next.toolBudgetRetries = state.toolBudgetRetries + round.actions.countP Action.isReplan

theorem tied_signatures_nodup (normalizer : Normalizer) (config : AgentConfig) (step : Nat) (past : List (List Action))
    (state : LoopState) (tied : Tied normalizer config step past state) : state.executedSignatures.Nodup :=
  List.Nodup.of_map _ (tied.signatures.nodup_iff.mp tied.distinct)

theorem flatten_snoc (past : List (List Action)) (actions : List Action) :
    (past ++ [actions]).flatten = past.flatten ++ actions := by simp

theorem ended_round (normalizer : Normalizer) (config : AgentConfig) (step : Nat) (past : List (List Action))
    (state : LoopState) (round : AgentRound) (inside : step < config.maxSteps + 1)
    (tied : Tied normalizer config step past state) (safely : RoundSafely normalizer config state round) :
    Ended normalizer config (past ++ [round.actions]) := by
  obtain ⟨signatures, executed, nodup, apart, _⟩ := safely.fresh
  refine ⟨?_, ?_, ?_, ?_, ?_, ?_⟩
  · have earlier := tied.asked
    have now := safely.requests
    rw [flatten_snoc, List.countP_append]
    omega
  · rw [flatten_snoc, within_budget_append]
    refine ⟨tied.within, ?_⟩
    simpa [tied.usage] using safely.within _ tied.affordable
  · intro actions member
    rcases List.mem_append.mp member with earlier | now
    · exact tied.perStep actions earlier
    · rw [List.mem_singleton.mp now]
      exact ⟨safely.requests, safely.perStep⟩
  · intro actions member
    rcases List.mem_append.mp member with earlier | now
    · exact tied.rejected actions earlier
    · rw [List.mem_singleton.mp now]
      exact safely.rejected
  · have replans := safely.replans (tied.retries ▸ tied.replans)
    rw [flatten_snoc, List.countP_append, ← tied.retries]
    exact replans
  · have all := tied.signatures.append executed
    rw [flatten_snoc, executions_append, List.map_append, all.nodup_iff, ← List.map_append]
    refine List.Nodup.map (fun _ _ same => by simpa using same) ?_
    refine List.nodup_append.mpr ⟨tied_signatures_nodup _ _ _ _ _ tied, nodup, ?_⟩
    rintro old before new now rfl
    exact apart old now before

theorem tied_round (normalizer : Normalizer) (config : AgentConfig) (step : Nat) (past : List (List Action))
    (state next : LoopState) (round : AgentRound) (inside : step < config.maxSteps + 1)
    (tied : Tied normalizer config step past state) (safely : RoundSafely normalizer config state round)
    (continued : round.next = .ok (some next)) : Tied normalizer config (step + 1) (past ++ [round.actions]) next := by
  obtain ⟨signatures, executed, _, _, added⟩ := safely.fresh
  obtain ⟨usage, affordable, retries⟩ := safely.continues next continued
  refine ⟨ended_round normalizer config step past state round inside tied safely, ?_, ?_, fun _ => affordable, ?_, ?_⟩
  · have earlier := tied.asked
    have now := safely.requests
    rw [flatten_snoc, List.countP_append]
    omega
  · rw [flatten_snoc, tokens_used_append, usage, tied.usage]
  · rw [flatten_snoc, List.countP_append, retries, tied.retries]
  · rw [flatten_snoc, executions_append, List.map_append, added next continued, List.map_append]
    exact tied.signatures.append executed

variable (host : Host)

def opening (messages : List ChatMessage) (events : List AgentStreamEvent) : List Action :=
  .request messages :: events.map .emit

theorem opening_quiet (messages : List ChatMessage) (events : List AgentStreamEvent)
    (texts : ∀ event ∈ events, event.isText = true) :
    ∀ action ∈ opening messages events,
      action.execution = none ∧ action.tokens = 0 ∧ action.isReplan = false ∧ action.isCompleted = false := by
  intro action member
  rcases List.mem_cons.mp member with rfl | later
  · exact ⟨rfl, rfl, rfl, rfl⟩
  · obtain ⟨event, inside, rfl⟩ := List.mem_map.mp later
    have text := texts event inside
    cases event with
    | completed result => simp [AgentStreamEvent.isText] at text
    | _ => exact ⟨rfl, rfl, rfl, rfl⟩

theorem opening_executions (messages : List ChatMessage) (events : List AgentStreamEvent)
    (texts : ∀ event ∈ events, event.isText = true) : executions (opening messages events) = [] := by
  rw [executions, List.filterMap_eq_nil_iff]
  exact fun action member => (opening_quiet messages events texts action member).1

theorem opening_replans (messages : List ChatMessage) (events : List AgentStreamEvent)
    (texts : ∀ event ∈ events, event.isText = true) : (opening messages events).countP Action.isReplan = 0 := by
  rw [List.countP_eq_zero]
  intro action member
  simp [(opening_quiet messages events texts action member).2.2.1]

theorem opening_requests (messages : List ChatMessage) (events : List AgentStreamEvent) :
    (opening messages events).countP Action.isRequest = 1 := by
  rw [opening, List.countP_cons, idle_requests _ (emits_idle events)]
  rfl

theorem opening_completed (messages : List ChatMessage) (events : List AgentStreamEvent)
    (texts : ∀ event ∈ events, AgentStreamEvent.isText event = true) :
    (opening messages events).countP Action.isCompleted = 0 := by
  rw [List.countP_eq_zero]
  intro action member
  simp [(opening_quiet messages events texts action member).2.2.2]

theorem unanswered_safely (normalizer : Normalizer) (config : AgentConfig) (state : LoopState) (messages : List ChatMessage)
    (events : List AgentStreamEvent) (texts : ∀ event ∈ events, event.isText = true) (failure : PyException) :
    RoundSafely normalizer config state ⟨opening messages events, .error failure⟩ := by
  have quiet := opening_quiet messages events texts
  have unexecuted := opening_executions messages events texts
  refine ⟨?_, ?_, by simp [unexecuted], fun _ => unexecuted, ?_, ?_, by simp⟩
  · rw [opening_requests]
  · intro asked affordable
    refine ⟨by simpa [Action.execution, Action.isRequest] using affordable, idle_within _ _ _ _ (emits_idle events)⟩
  · rw [opening_replans messages events texts]
    exact id
  · exact ⟨[], by simp [unexecuted]⟩

theorem answered_safely (normalizer : Normalizer) (config : AgentConfig) (state : LoopState) (messages : List ChatMessage)
    (events : List AgentStreamEvent) (texts : ∀ event ∈ events, event.isText = true) (response : LLMResponse)
    (settled : AgentRound) (safely : SettledSafely normalizer config (state.answered response) settled) :
    RoundSafely normalizer config state
      ⟨opening messages events ++ .respond response :: settled.actions, settled.next⟩ := by
  have quiet := opening_quiet messages events texts
  have unexecuted : executions (opening messages events ++ .respond response :: settled.actions) =
      executions settled.actions := by
    rw [executions_append, opening_executions messages events texts]
    rfl
  have replans : (opening messages events ++ .respond response :: settled.actions).countP Action.isReplan =
      settled.actions.countP Action.isReplan := by
    rw [List.countP_append, opening_replans messages events texts, Nat.zero_add]
    rfl
  have silent : settled.actions.countP Action.isRequest = 0 := by
    rw [List.countP_eq_zero]
    intro action member
    simp [safely.asksNothing action member]
  have spent : tokensUsed (opening messages events ++ .respond response :: settled.actions) =
      response.usage.totalTokens := by
    have later := safely.usesNothing
    rw [tokens_used_append, tokens_used_zero _ fun action member => (quiet action member).2.1, Nat.zero_add]
    simpa [tokensUsed, Action.tokens] using later
  refine ⟨?_, ?_, ?_, ?_, ?_, ?_, ?_⟩
  · rw [List.countP_append, opening_requests, List.countP_cons, silent]
    rfl
  · intro asked affordable
    rw [within_budget_append, tokens_used_zero _ fun action member => (quiet action member).2.1]
    refine ⟨⟨by simpa [Action.execution, Action.isRequest] using affordable, ?_⟩, ?_, ?_⟩
    · exact idle_within _ _ _ _ (emits_idle events)
    · simp [Action.execution, Action.isRequest]
    · have within := safely.within true
      simpa [opening, Action.isRequest, LoopState.answered, total_tokens_add, Action.tokens] using within
  · rw [unexecuted]
    exact safely.perStep
  · rintro ⟨action, member, flagged⟩
    rw [unexecuted]
    rcases List.mem_append.mp member with earlier | later
    · have still := quiet action earlier
      simp [still] at flagged
    · rcases List.mem_cons.mp later with rfl | inside
      · simp [Action.isReplan, Action.isCompleted] at flagged
      · exact safely.rejected ⟨action, inside, flagged⟩
  · rw [replans]
    exact safely.replans
  · rw [unexecuted]
    exact safely.fresh
  · intro next continued
    obtain ⟨usage, affordable, retries⟩ := safely.continues next continued
    rw [spent, replans, usage]
    exact ⟨total_tokens_add state.usage response.usage, affordable, retries⟩

theorem round_safely (agent : Agent) (definitions : List ToolDefinition) (step : Nat) (state : LoopState) :
    RoundSafely host.normalizer agent.config state (agentRound host agent definitions step state) := by
  rcases agent_round_ways host agent definitions step state with
    ⟨failure, _, round⟩ | ⟨messages, failure, _, _, round⟩ | ⟨messages, response, _, _, round⟩
  · rw [round]
    exact ⟨by simp, fun _ _ => trivial, by simp [executions], fun _ => rfl, by simp, ⟨[], by simp [executions]⟩, by simp⟩
  · rw [round]
    exact unanswered_safely _ _ _ _ _ (model_answer_texts host agent definitions step messages) failure
  · rw [round]
    exact answered_safely _ _ _ _ _ (model_answer_texts host agent definitions step messages) response _
      (settle_safely host agent step state response)

theorem tied_initial (normalizer : Normalizer) (config : AgentConfig) (messages : List ChatMessage) :
    Tied normalizer config 1 [] { messages } :=
  ⟨⟨by simp, trivial, by simp, by simp, by simp, by simp [executions]⟩, by simp, rfl, by simp, rfl, by simp [executions]⟩

theorem ended_guarded (normalizer : Normalizer) (config : AgentConfig) (run : AgentRun)
    (ended : Ended normalizer config run.rounds)
    (closing : Idle run.closing) (noReplan : run.closing.countP Action.isReplan = 0) : Guarded normalizer config run := by
  refine ⟨?_, ?_, ended.perStep, ?_, ended.rejected, ?_⟩
  · rw [AgentRun.actions, List.countP_append, idle_requests _ closing]
    exact ended.requests
  · have within : WithinBudget config.maxTotalTokens 0 false run.actions :=
      (within_budget_append _ _ _ _ _).mpr ⟨ended.within, idle_within _ _ _ _ closing⟩
    intro before action after here spends
    exact within_budget_at _ run.actions before after action within here spends
  · rw [AgentRun.actions, List.countP_append, noReplan]
    exact ended.replans
  · rw [AgentRun.actions, executions_append, idle_executions _ closing, List.append_nil]
    exact ended.distinct

theorem stream_guarded (agent : Agent) (userInput : String) (systemPrompt : Option String) (history : List ChatMessage) :
    Guarded host.normalizer agent.config (stream host agent userInput systemPrompt history) := by
  have nothing : Idle ([] : List Action) := by simp [Idle]
  unfold stream
  cases agent.tools.definitions with
  | error failure => exact ended_guarded _ _ _ (tied_initial host.normalizer agent.config []).toEnded nothing rfl
  | ok definitions =>
      refine run_rounds_rule host agent definitions (agent.config.maxSteps + 1)
        (Tied host.normalizer agent.config) (Guarded host.normalizer agent.config) ?_ ?_ ?_ ?_ agent.config.maxSteps 1 []
        { messages := initialMessages userInput systemPrompt history } (by omega) (tied_initial _ _ _)
      · intro step past state failure inside tied _
        exact ended_guarded _ _ _ (ended_round _ _ step past state _ inside tied (round_safely ..)) nothing rfl
      · intro step past state inside tied _
        exact ended_guarded _ _ _ (ended_round _ _ step past state _ inside tied (round_safely ..)) nothing rfl
      · intro step past state next inside tied continued
        exact tied_round _ _ step past state next _ inside tied (round_safely ..) continued
      · intro past state tied
        exact ended_guarded _ _ _ tied.toEnded (emits_idle [_]) rfl

end DataPilot.Agent
