import DataPilot.Agent.Pairing
import DataPilot.Agent.Totality

set_option autoImplicit false

namespace DataPilot.Agent

open DataPilot.Base DataPilot.Tools DataPilot.Sql

variable (host : Host)

def promptMessages (systemPrompt : Option String) : List ChatMessage :=
  if systemPrompt.getD "" = "" then [] else [{ role := .system, content := some (systemPrompt.getD "") }]

def questionPlace (systemPrompt : Option String) (history : List ChatMessage) : Nat :=
  (promptMessages systemPrompt ++ history).length

-- The question as the request of a round shows it. From the seventh round on it
-- is not among the six newest messages that are no tool results.
def shownQuestion (config : AgentConfig) (once : List ChatMessage) (index : Nat) (userInput : String) : String :=
  if 6 ≤ index ∧ config.contextCharBudget < totalChars once then slice userInput 500 else userInput

structure KeepsQuestion (loads : JsonLoads) (config : AgentConfig) (userInput : String) (systemPrompt : Option String)
    (history : List ChatMessage) (index : Nat) (messages request : List ChatMessage) : Prop where
  system : ∀ prompt, systemPrompt = some prompt → prompt ≠ "" →
    request[0]? = some { role := .system, content := some prompt }
  question : ∃ once, FirstPass loads config messages once ∧
    request[questionPlace systemPrompt history]? =
      some { role := .user, content := some (shownQuestion config once index userInput) }

structure RequestsShowQuestion (agent : Agent) (userInput : String) (systemPrompt : Option String)
    (history : List ChatMessage) (run : AgentRun) (conversations : List (List ChatMessage)) : Prop where
  inRounds : ∀ request, .request request ∈ run.actions → ∃ actions ∈ run.rounds, .request request ∈ actions
  rounds : ∀ index actions request, run.rounds[index]? = some actions → .request request ∈ actions →
    ∃ messages, conversations[index]? = some messages ∧
      KeepsQuestion host.loads agent.config userInput systemPrompt history index messages request

-- What a round has grown to: the initial messages and one more message that is
-- no tool result for each round before it.
def Grown (initial : List ChatMessage) (rounds : Nat) (messages : List ChatMessage) : Prop :=
  ∃ added, messages = initial ++ added ∧ added.countP isNonTool = rounds

theorem answers_tools (calls : List ToolCall) (messages : List ChatMessage)
    (answers : List.Forall₂ Answers calls messages) : messages.countP isNonTool = 0 := by
  induction answers with
  | nil => rfl
  | cons head _ ih => simp [isNonTool, isTool, head.1, ih]

theorem act_grown (agent : Agent) (step : Nat) (state next : LoopState) (response : LLMResponse) (verdict : Verdict)
    (initial : List ChatMessage) (rounds : Nat) (grown : Grown initial rounds state.messages)
    (continued : (act host agent step (state.answered response) response verdict).next = .ok (some next)) :
    Grown initial (rounds + 1) next.messages := by
  obtain ⟨added, same, counted⟩ := grown
  rcases act_goes_on host agent step _ next response verdict continued with ⟨_, rfl⟩ | ⟨signatures, _, executed⟩
  · refine ⟨added ++ [replanMessage agent.config response.toolCalls.length], ?_, ?_⟩
    · simp [LoopState.answered, same]
    · simp [counted, isNonTool, isTool, replanMessage]
  · obtain ⟨messages, written, rfl⟩ := execute_batch_goes_on host agent step _ next response signatures executed
    have answers := tool_messages_answer agent.config agent.tools step response.toolCalls messages written
    refine ⟨added ++ assistantMessage response :: messages, ?_, ?_⟩
    · simp [LoopState.answered, same]
    · have spoken : isNonTool (assistantMessage response) = true := rfl
      rw [List.countP_append, List.countP_cons_of_pos spoken, counted, answers_tools _ messages answers]

theorem round_grown (agent : Agent) (definitions : List ToolDefinition) (step : Nat) (state next : LoopState)
    (initial : List ChatMessage) (rounds : Nat) (grown : Grown initial rounds state.messages)
    (continued : (agentRound host agent definitions step state).next = .ok (some next)) :
    Grown initial (rounds + 1) next.messages := by
  obtain ⟨response, verdict, acted⟩ := round_goes host agent definitions step state next continued
  exact act_grown host agent step state next response verdict initial rounds grown acted

theorem initial_split (userInput : String) (systemPrompt : Option String) (history : List ChatMessage) :
    initialMessages userInput systemPrompt history =
      (promptMessages systemPrompt ++ history) ++ [{ role := .user, content := some userInput }] := rfl

theorem grown_question (userInput : String) (systemPrompt : Option String) (history messages : List ChatMessage)
    (index : Nat) (grown : Grown (initialMessages userInput systemPrompt history) index messages) :
    messages[questionPlace systemPrompt history]? = some { role := .user, content := some userInput } ∧
      laterCount isNonTool messages (questionPlace systemPrompt history) = index := by
  obtain ⟨added, rfl, counted⟩ := grown
  rw [initial_split, List.append_assoc, List.singleton_append, questionPlace]
  constructor
  · rw [List.getElem?_append_right (Nat.le_refl _), Nat.sub_self]
    rfl
  · rw [laterCount, List.drop_append, List.drop_eq_nil_of_le (Nat.le_succ _), Nat.add_sub_cancel_left]
    exact counted

theorem grown_prompt (userInput prompt : String) (history messages : List ChatMessage) (index : Nat)
    (present : prompt ≠ "") (grown : Grown (initialMessages userInput (some prompt) history) index messages) :
    messages[0]? = some { role := .system, content := some prompt } := by
  obtain ⟨added, rfl, _⟩ := grown
  rw [initial_split, promptMessages, Option.getD_some, if_neg present]
  rfl

theorem request_keeps (interpreter : Interpreter) (config : AgentConfig) (userInput : String) (systemPrompt : Option String)
    (history messages request : List ChatMessage) (index : Nat)
    (grown : Grown (initialMessages userInput systemPrompt history) index messages)
    (compacted : compactedMessages interpreter config messages = .ok request) :
    KeepsQuestion interpreter.loads config userInput systemPrompt history index messages request := by
  have passes := (compacted_copied interpreter config messages request compacted).2
  obtain ⟨once, first, _, ways⟩ := passes_ways interpreter.loads config messages request passes
  obtain ⟨asked, behind⟩ := grown_question userInput systemPrompt history messages index grown
  constructor
  · rintro prompt rfl present
    have stands := grown_prompt userInput prompt history messages index present grown
    rcases ways with ⟨_, rfl⟩ | ⟨_, second⟩
    · exact first.others 0 _ stands fun old => by cases old.1
    · exact second.protects 0 _ stands (.inl rfl)
  · refine ⟨once, first, ?_⟩
    rw [shownQuestion]
    rcases ways with ⟨fits, rfl⟩ | ⟨exceeds, second⟩
    · rw [if_neg fun both => Nat.not_le.mpr both.2 fits]
      exact first.others _ _ asked fun old => by cases old.1
    by_cases late : 6 ≤ index
    · rw [if_pos ⟨late, exceeds⟩]
      apply second.cuts _ _ asked (by simp) (by simp)
      rw [RecentNonTool, behind]
      exact fun recent => Nat.not_le.mpr recent.2 late
    · rw [if_neg fun both => late both.1]
      apply second.protects _ _ asked
      rw [RecentNonTool, behind]
      exact .inr ⟨by simp, Nat.not_le.mp late⟩

theorem run_rounds_show (agent : Agent) (definitions : List ToolDefinition) (userInput : String)
    (systemPrompt : Option String) (history : List ChatMessage) (remaining step before : Nat) (state : LoopState)
    (grown : Grown (initialMessages userInput systemPrompt history) before state.messages) (index : Nat)
    (actions : List Action) (request : List ChatMessage)
    (round : (runRounds host agent definitions remaining step state).rounds[index]? = some actions)
    (asked : .request request ∈ actions) :
    ∃ messages, (roundMessages host agent definitions remaining step state)[index]? = some messages ∧
      Grown (initialMessages userInput systemPrompt history) (before + index) messages ∧
      KeepsQuestion host.loads agent.config userInput systemPrompt history (before + index) messages request := by
  induction remaining generalizing step before state index with
  | zero => cases round
  | succ remaining ih =>
      have here : ∀ request, .request request ∈ (agentRound host agent definitions step state).actions →
          KeepsQuestion host.loads agent.config userInput systemPrompt history before state.messages request :=
        fun request member =>
          request_keeps host.toInterpreter agent.config userInput systemPrompt history state.messages request before grown
          (round_request host agent definitions step state request member)
      rw [runRounds] at round
      rw [roundMessages]
      cases index with
      | zero =>
          have first : actions = (agentRound host agent definitions step state).actions := by
            split at round <;> exact (Option.some.inj round).symm
          exact ⟨state.messages, rfl, grown, here request (first ▸ asked)⟩
      | succ index =>
          cases continued : (agentRound host agent definitions step state).next with
          | error failure => simp [continued] at round
          | ok following =>
              cases following with
              | none => simp [continued] at round
              | some next =>
                  simp only [continued, List.getElem?_cons_succ] at round
                  have more := round_grown host agent definitions step state next _ before grown continued
                  obtain ⟨messages, there, known⟩ := ih (step + 1) (before + 1) next more index round
                  exact ⟨messages, there, by rwa [Nat.add_right_comm] at known⟩

theorem run_rounds_closing (agent : Agent) (definitions : List ToolDefinition) (remaining step : Nat) (state : LoopState)
    (request : List ChatMessage) : .request request ∉ (runRounds host agent definitions remaining step state).closing := by
  induction remaining generalizing step state with
  | zero => simp [runRounds]
  | succ remaining ih =>
      rw [runRounds]
      cases (agentRound host agent definitions step state).next with
      | error failure => simp
      | ok following =>
          cases following with
          | none => simp
          | some next => exact ih (step + 1) next

theorem stream_shows_question (agent : Agent) (userInput : String) (systemPrompt : Option String)
    (history : List ChatMessage) :
    RequestsShowQuestion host agent userInput systemPrompt history (stream host agent userInput systemPrompt history)
      (streamMessages host agent userInput systemPrompt history) := by
  unfold stream streamMessages
  cases agent.tools.definitions with
  | error failure => exact ⟨by simp [AgentRun.actions], by simp⟩
  | ok definitions =>
      constructor
      · intro request member
        rcases List.mem_append.mp member with inside | closing
        · exact List.mem_flatten.mp inside
        · exact absurd closing (run_rounds_closing host agent definitions _ _ _ request)
      · intro index actions request round asked
        have grown : Grown (initialMessages userInput systemPrompt history) 0 (initialMessages userInput systemPrompt history) :=
          ⟨[], (List.append_nil _).symm, rfl⟩
        obtain ⟨messages, there, _, keeps⟩ := run_rounds_show host agent definitions userInput systemPrompt history
          agent.config.maxSteps 1 0 { messages := initialMessages userInput systemPrompt history } grown index actions
          request round asked
        exact ⟨messages, there, by rwa [Nat.zero_add] at keeps⟩

section Sample

def pageTool : RegisteredTool where
  name := "list_tables"
  description := "List the tables."
  inputSchema := some [("type", .str "object")]
  parallelSafe := false
  invoke _ _ := .ok (.dict [])

def pageCall (step : Nat) : ToolCall where
  id := "call"
  name := "list_tables"
  arguments := [("page", .int step)]
  idNonempty := by decide
  nameNonempty := by decide

def pageSignature (step : Nat) : Signature := ("list_tables", dumpSorted [("page", .int step)])

def pageAgent : Agent where
  model := { chat := fun step _ _ => .ok { toolCalls := [pageCall step] }, chatStream := none }
  tools := { tools := [pageTool], distinct := List.nodup_singleton _ }
  config := leastBudget

structure Paging (step : Nat) (state : LoopState) : Prop where
  serialized : ToolsSerialized state.messages
  usage : state.usage = {}
  fresh : ∀ later, step ≤ later → pageSignature later ∉ state.executedSignatures

theorem page_signature_injective (one other : Nat) (same : pageSignature one = pageSignature other) : one = other := by
  have dumped := dumps_injective _ _ _ (Prod.mk.inj same).2
  have pages : (one : Int) = other := by simpa [sortKeys, sortFields] using dumped
  exact_mod_cast pages

theorem page_judged (step : Nat) (state : LoopState) (paging : Paging step state) :
    judge sampleHost.normalizer pageAgent.config (state.answered { toolCalls := [pageCall step] }) [pageCall step] =
      .ok (.accepted [pageSignature step]) := by
  have signed : callSignatures sampleHost.normalizer [pageCall step] = .ok [pageSignature step] := rfl
  have unrepeated : state.executedSignatures.filter (· ∈ [pageSignature step]) = [] := by
    rw [List.filter_eq_nil_iff]
    intro signature member
    have apart : signature ≠ pageSignature step := fun same => paging.fresh step (Nat.le_refl _) (same ▸ member)
    simpa using apart
  have unspent : (state.answered { toolCalls := [pageCall step] }).usage.totalTokens = 0 := by
    rw [LoopState.answered, paging.usage]
    rfl
  have few : ¬ pageAgent.config.maxToolCallsPerStep < [pageCall step].length := by
    rw [List.length_singleton]
    decide
  have executed : (state.answered { toolCalls := [pageCall step] }).executedSignatures = state.executedSignatures := rfl
  rw [judge, if_neg (List.cons_ne_nil _ _), unspent, if_neg (Nat.not_lt_zero _), if_neg few, signed, Except.map,
    judgeSignatures, executed]
  simp only [unrepeated]
  rw [if_neg (fun differ => differ rfl), if_pos (List.nodup_singleton _)]

theorem paging_round (definitions : List ToolDefinition) (step : Nat) (state : LoopState) (paging : Paging step state) :
    ∃ request next, Action.request request ∈ (agentRound sampleHost pageAgent definitions step state).actions ∧
      (agentRound sampleHost pageAgent definitions step state).next = .ok (some next) ∧ Paging (step + 1) next := by
  have compactable := (serialized_compactable sampleHost sample_written pageAgent.config state.messages paging.serialized).mpr
    fun _ _ => rfl
  obtain ⟨request, compacted⟩ := (compacted_ok_iff sampleHost.toInterpreter sample_summaries _ _).mpr compactable
  obtain ⟨content, serialized⟩ := serialize_total pageAgent.config (executeOne pageAgent.tools step (pageCall step)) rfl
  have answered : modelAnswer sampleHost pageAgent definitions step request = ⟨[], .ok { toolCalls := [pageCall step] }⟩ := rfl
  have run : (executeToolCalls sampleHost pageAgent step [pageCall step]).returned =
      [executeOne pageAgent.tools step (pageCall step)] := rfl
  have written : toolMessages pageAgent.config [executeOne pageAgent.tools step (pageCall step)] =
      .ok [{ role := .tool, name := some "list_tables", toolCallId := some "call", content := some content }] := by
    rw [toolMessages, toolMessage, serialized]
    rfl
  rw [agentRound, compacted]
  dsimp only [askModel]
  rw [answered]
  dsimp only [settle]
  rw [page_judged step state paging]
  dsimp only [act, executeBatch]
  rw [run, written]
  refine ⟨request, _, List.mem_cons_self .., rfl, ?_, ?_, ?_⟩
  · intro message member tool
    dsimp only [LoopState.answered] at member
    rcases List.mem_append.mp member with before | new
    · rcases List.mem_append.mp before with earlier | asked
      · exact paging.serialized message earlier tool
      · rw [List.mem_singleton.mp asked] at tool
        cases tool
    · rw [List.mem_singleton.mp new]
      exact serialize_text _ _ content serialized
  · dsimp only [LoopState.answered]
    rw [paging.usage]
    rfl
  · intro later beyond member
    dsimp only [LoopState.answered] at member
    rcases List.mem_append.mp member with before | new
    · exact paging.fresh later (Nat.le_of_succ_le beyond) before
    · have same := page_signature_injective later step (List.mem_singleton.mp new)
      omega

theorem paging_rounds (definitions : List ToolDefinition) (index remaining step : Nat) (state : LoopState)
    (enough : index < remaining) (paging : Paging step state) :
    ∃ actions request, (runRounds sampleHost pageAgent definitions remaining step state).rounds[index]? = some actions ∧
      Action.request request ∈ actions := by
  induction index generalizing remaining step state with
  | zero =>
      obtain ⟨more, rfl⟩ := Nat.exists_eq_add_of_lt enough
      obtain ⟨request, next, asked, continued, _⟩ := paging_round definitions step state paging
      refine ⟨_, request, ?_, asked⟩
      rw [Nat.zero_add, runRounds, continued]
      rfl
  | succ index ih =>
      obtain ⟨more, rfl⟩ := Nat.exists_eq_add_of_lt enough
      obtain ⟨_, next, _, continued, following⟩ := paging_round definitions step state paging
      obtain ⟨actions, request, there, asked⟩ := ih (index + more + 1) (step + 1) next (by omega) following
      refine ⟨actions, request, ?_, asked⟩
      rw [show index + 1 + more + 1 = (index + more + 1) + 1 by omega, runRounds, continued]
      exact there

theorem paging_initial (userInput : String) : Paging 1 { messages := initialMessages userInput none [] } := by
  exact ⟨initial_serialized userInput none [] (by simp), rfl, fun _ _ => List.not_mem_nil⟩

end Sample

theorem mem_total_chars (messages : List ChatMessage) (message : ChatMessage) (member : message ∈ messages) :
    message.text.length ≤ totalChars messages := by
  induction messages with
  | nil => cases member
  | cons first rest ih =>
      have sum : totalChars (first :: rest) = first.text.length + totalChars rest := rfl
      rcases List.mem_cons.mp member with rfl | later
      · omega
      · have bound := ih later
        omega

-- A question of 5000 characters, asked again in the seventh round.
theorem long_question_shortened :
    ∃ (index : Nat) (actions : List Action) (request : List ChatMessage),
      (stream sampleHost pageAgent (String.ofList (List.replicate 5000 'a')) none []).rounds[index]? = some actions ∧
      Action.request request ∈ actions ∧ request[questionPlace none []]? ≠
        some { role := .user, content := some (String.ofList (List.replicate 5000 'a')) } := by
  have sized : (String.ofList (List.replicate 5000 'a')).length = 5000 := by
    rw [String.length_ofList, List.length_replicate]
  generalize String.ofList (List.replicate 5000 'a') = question at sized
  obtain ⟨definitions, defined⟩ := (definitions_of_ok pageAgent.tools.tools).mpr (by simp [pageAgent, pageTool])
  have registered : pageAgent.tools.definitions = .ok definitions := defined
  obtain ⟨actions, request, round, asked⟩ := paging_rounds definitions 6 10 1 _ (by decide) (paging_initial question)
  have streamed : stream sampleHost pageAgent question none [] =
      runRounds sampleHost pageAgent definitions 10 1 { messages := initialMessages question none [] } := by
    rw [stream, registered]
    rfl
  obtain ⟨messages, _, grown, keeps⟩ := run_rounds_show sampleHost pageAgent definitions question none [] 10 1 0 _
    ⟨[], (List.append_nil _).symm, rfl⟩ 6 actions request round asked
  obtain ⟨once, first, shown⟩ := keeps.question
  have stands := first.others _ _ (grown_question question none [] messages _ grown).1 fun old => by cases old.1
  have exceeds : pageAgent.config.contextCharBudget < totalChars once := by
    have counted : question.length ≤ totalChars once := mem_total_chars once _ (List.mem_of_getElem? stands)
    rw [show pageAgent.config.contextCharBudget = 4000 from rfl]
    omega
  refine ⟨6, actions, request, by rw [streamed]; exact round, asked, ?_⟩
  rw [shown, shownQuestion, if_pos ⟨by decide, exceeds⟩]
  intro same
  have cut : slice question 500 = question := by simpa using same
  have short := slice_length question 500
  rw [cut] at short
  omega

end DataPilot.Agent
