import DataPilot.Agent.Guardrails

set_option autoImplicit false

namespace DataPilot.Agent

open DataPilot.Base DataPilot.Tools DataPilot.Sql

-- A tool message that carries the result of a call.
def Answers (call : ToolCall) (message : ChatMessage) : Prop :=
  message.role = .tool ∧ message.toolCallId = some call.id ∧ message.name = some call.name ∧ message.toolCalls = []

-- A list of messages in which the tool messages are exactly the answers to the
-- calls of an assistant message, right behind it and in its order.
inductive Paired : List ChatMessage → Prop where
  | nil : Paired []
  | plain (message : ChatMessage) (rest : List ChatMessage) (notTool : message.role ≠ .tool)
      (noCalls : message.toolCalls = []) (tail : Paired rest) : Paired (message :: rest)
  | batch (message : ChatMessage) (results rest : List ChatMessage) (assistant : message.role = .assistant)
      (answers : List.Forall₂ Answers message.toolCalls results) (tail : Paired rest) :
      Paired (message :: (results ++ rest))

def PlainMessage (message : ChatMessage) : Prop := message.role ≠ .tool ∧ message.toolCalls = []

theorem paired_plain (messages : List ChatMessage) (plain : ∀ message ∈ messages, PlainMessage message) :
    Paired messages := by
  induction messages with
  | nil => exact .nil
  | cons message rest ih =>
      obtain ⟨notTool, noCalls⟩ := plain message (by simp)
      exact .plain message rest notTool noCalls (ih fun later member => plain later (by simp [member]))

theorem paired_append (first second : List ChatMessage) (one : Paired first) (two : Paired second) :
    Paired (first ++ second) := by
  induction one with
  | nil => exact two
  | plain message rest notTool noCalls _ ih => exact .plain message _ notTool noCalls ih
  | batch message results rest assistant answers _ ih =>
      rw [List.cons_append, List.append_assoc]
      exact .batch message results _ assistant answers ih

theorem answers_frames (calls : List ToolCall) (before after : List ChatMessage)
    (answers : List.Forall₂ Answers calls before) (frames : List.Forall₂ SameFrame before after) :
    List.Forall₂ Answers calls after := by
  induction answers generalizing after with
  | nil =>
      cases frames
      exact .nil
  | cons head _ ih =>
      cases frames with
      | cons frame others =>
          refine .cons ?_ (ih _ others)
          exact ⟨frame.1.trans head.1, frame.2.2.1.trans head.2.1, frame.2.1.trans head.2.2.1,
            frame.2.2.2.trans head.2.2.2⟩

theorem frames_split (first second after : List ChatMessage)
    (frames : List.Forall₂ SameFrame (first ++ second) after) :
    ∃ one two, List.Forall₂ SameFrame first one ∧ List.Forall₂ SameFrame second two ∧ after = one ++ two := by
  induction first generalizing after with
  | nil => exact ⟨[], after, .nil, frames, rfl⟩
  | cons message rest ih =>
      cases frames with
      | @cons _ changed _ tail frame others =>
          obtain ⟨one, two, firstFrames, secondFrames, rfl⟩ := ih tail others
          exact ⟨changed :: one, two, .cons frame firstFrames, secondFrames, rfl⟩

-- Compaction keeps the frames, and pairing is a property of the frames.
theorem paired_frames (before after : List ChatMessage) (paired : Paired before)
    (frames : List.Forall₂ SameFrame before after) : Paired after := by
  induction paired generalizing after with
  | nil =>
      cases frames
      exact .nil
  | plain message rest notTool noCalls _ ih =>
      cases frames with
      | cons frame others =>
          exact .plain _ _ (frame.1 ▸ notTool) (frame.2.2.2.trans noCalls) (ih _ others)
  | batch message results rest assistant answers _ ih =>
      cases frames with
      | @cons _ changed _ tail frame others =>
          obtain ⟨changedResults, changedRest, resultFrames, restFrames, rfl⟩ := frames_split _ _ _ others
          refine .batch _ _ _ (frame.1.trans assistant) ?_ (ih _ restFrames)
          rw [frame.2.2.2]
          exact answers_frames _ _ _ answers resultFrames

theorem tool_message_answers (config : AgentConfig) (call : ToolCall) (execution : ToolExecution)
    (message : ChatMessage) (executes : ExecutesCall call execution) (written : toolMessage config execution = .ok message) :
    Answers call message := by
  unfold toolMessage at written
  cases content : serializeToolExecution config execution with
  | error failure => simp [content, Except.map] at written
  | ok text =>
      simp only [content, Except.map, Except.ok.injEq] at written
      subst written
      exact ⟨rfl, by rw [executes.1], by rw [executes.2.1], rfl⟩

theorem tool_messages_answer (config : AgentConfig) (registry : ToolRegistry) (step : Nat) (calls : List ToolCall)
    (messages : List ChatMessage) (written : toolMessages config (calls.map (executeOne registry step)) = .ok messages) :
    List.Forall₂ Answers calls messages := by
  induction calls generalizing messages with
  | nil =>
      cases written
      exact .nil
  | cons call rest ih =>
      rw [List.map_cons, toolMessages] at written
      cases first : toolMessage config (executeOne registry step call) with
      | error failure => simp [first] at written
      | ok message =>
          cases others : toolMessages config (rest.map (executeOne registry step)) with
          | error failure => simp [first, others, Except.map] at written
          | ok tail =>
              simp only [first, others, Except.map, Except.ok.injEq] at written
              subst written
              exact .cons (tool_message_answers config call _ message (execute_one_call registry step call) first)
                (ih tail others)

variable (host : Host)

theorem act_paired (agent : Agent) (step : Nat) (state next : LoopState) (response : LLMResponse) (verdict : Verdict)
    (paired : Paired state.messages)
    (continued : (act host agent step (state.answered response) response verdict).next = .ok (some next)) :
    Paired next.messages := by
  rcases act_goes_on host agent step _ next response verdict continued with ⟨_, rfl⟩ | ⟨signatures, _, executed⟩
  · -- The popped message is the assistant's, so no call is left unanswered.
    simp only [LoopState.answered, List.dropLast_concat]
    exact paired_append _ _ paired (paired_plain _ (by simp [PlainMessage, replanMessage]))
  · obtain ⟨messages, written, rfl⟩ := execute_batch_goes_on host agent step _ next response signatures executed
    have answers := tool_messages_answer agent.config agent.tools step response.toolCalls messages written
    have batch := Paired.batch (assistantMessage response) messages [] rfl answers .nil
    simp only [LoopState.answered, List.append_assoc]
    exact paired_append _ _ paired (by simpa using batch)

theorem round_paired (agent : Agent) (definitions : List ToolDefinition) (step : Nat) (state next : LoopState)
    (paired : Paired state.messages)
    (continued : (agentRound host agent definitions step state).next = .ok (some next)) : Paired next.messages := by
  obtain ⟨response, verdict, acted⟩ := round_goes host agent definitions step state next continued
  exact act_paired host agent step state next response verdict paired acted

theorem round_request (agent : Agent) (definitions : List ToolDefinition) (step : Nat) (state : LoopState)
    (requested : List ChatMessage) (member : .request requested ∈ (agentRound host agent definitions step state).actions) :
    compactedMessages host.toInterpreter agent.config state.messages = .ok requested := by
  rcases agent_round_ways host agent definitions step state with
    ⟨failure, _, round⟩ | ⟨messages, failure, compacted, _, round⟩ | ⟨messages, response, compacted, _, round⟩
  · simp [round] at member
  · have requestedHere : requested = messages := by simpa [round] using member
    rw [requestedHere, compacted]
  · have quiet := (settle_safely host agent step state response).asksNothing
    have elsewhere : Action.request requested ∉ (settle host agent step state response).actions := by
      intro inside
      simpa [Action.isRequest] using quiet _ inside
    have requestedHere : requested = messages := by simpa [round, elsewhere] using member
    rw [requestedHere, compacted]

def RequestsPaired (run : AgentRun) : Prop := ∀ messages, .request messages ∈ run.actions → Paired messages

theorem stream_requests_paired (agent : Agent) (userInput : String) (systemPrompt : Option String)
    (history : List ChatMessage)
    (plain : ∀ message ∈ history, (message.role = .user ∨ message.role = .assistant) ∧ message.toolCalls = []) :
    RequestsPaired (stream host agent userInput systemPrompt history) := by
  have initial : Paired (initialMessages userInput systemPrompt history) := by
    apply paired_plain
    intro message member
    simp only [initialMessages, List.mem_append, List.mem_singleton] at member
    rcases member with (system | earlier) | rfl
    · split at system
      · cases system
      · obtain rfl := List.mem_singleton.mp system
        exact ⟨by simp, rfl⟩
    · obtain ⟨role, noCalls⟩ := plain message earlier
      exact ⟨by rcases role with user | assistant <;> simp [*], noCalls⟩
    · exact ⟨by simp, rfl⟩
  unfold stream
  cases agent.tools.definitions with
  | error failure => simp [RequestsPaired, AgentRun.actions]
  | ok definitions =>
      -- Between rounds the state's messages and every request so far are paired.
      let Good : Nat → List (List Action) → LoopState → Prop := fun _ past state =>
        Paired state.messages ∧ ∀ messages, Action.request messages ∈ past.flatten → Paired messages
      have extend : ∀ step past state, Good step past state → ∀ messages,
          Action.request messages ∈ (past ++ [(agentRound host agent definitions step state).actions]).flatten →
          Paired messages := by
        intro step past state good messages member
        rw [flatten_snoc, List.mem_append] at member
        rcases member with earlier | now
        · exact good.2 messages earlier
        · have compacted := round_request host agent definitions step state messages now
          exact paired_frames _ _ good.1 (compacted_frames host.toInterpreter agent.config state.messages messages compacted)
      refine run_rounds_rule host agent definitions (agent.config.maxSteps + 1) Good RequestsPaired ?_ ?_ ?_ ?_
        agent.config.maxSteps 1 [] { messages := initialMessages userInput systemPrompt history } (by omega)
        ⟨initial, by simp⟩
      · intro step past state failure _ good _ messages member
        exact extend step past state good messages (by simpa [AgentRun.actions] using member)
      · intro step past state _ good _ messages member
        exact extend step past state good messages (by simpa [AgentRun.actions] using member)
      · intro step past state next _ good continued
        exact ⟨round_paired host agent definitions step state next good.1 continued, extend step past state good⟩
      · intro past state good messages member
        exact good.2 messages (by simpa [AgentRun.actions] using member)

theorem stream_requests_paired_query :
    RequestsPaired (stream sampleHost (queryAgent "SELECT 1") "How many rows?" (some "Answer briefly.")
      [{ role := .user, content := some "Hello" }, { role := .assistant, content := some "Hello." }]) :=
  stream_requests_paired sampleHost (queryAgent "SELECT 1") "How many rows?" (some "Answer briefly.")
    [{ role := .user, content := some "Hello" }, { role := .assistant, content := some "Hello." }] (by simp)

end DataPilot.Agent
