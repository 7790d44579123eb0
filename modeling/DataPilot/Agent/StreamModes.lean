import DataPilot.Agent.Fragments
import DataPilot.Agent.StreamedSteps

set_option autoImplicit false
set_option linter.dupNamespace false

namespace DataPilot.Agent

open DataPilot.Base DataPilot.Tools DataPilot.Sql

def Action.result : Action → Option AgentRunResult
  | .emit (.completed result) => some result
  | _ => none

def returned (actions : List Action) : Option AgentRunResult := actions.findSome? Action.result

def Agent.streaming (agent : Agent) (streams : Bool) : Agent :=
  { agent with config := { agent.config with streamModel := streams } }

structure Renders (stream : ModelStream) (response : LLMResponse) : Prop where
  ends : stream.failure = none
  text : spokenText stream.events = response.content.getD ""
  calls : ∃ indexes : List Nat, indexes.Pairwise (· < ·) ∧
    (∀ index, index ∈ indexes ↔ index ∈ (fragments stream.events).map ToolCallDelta.index) ∧
    List.Forall₂ (fun index call => Spells (assembled (fragments stream.events) index) call) indexes response.toolCalls
  usage : lastUsage stream.events = response.usage
  reason : lastReason stream.events = response.finishReason

def RendersOutcome (stream : ModelStream) : Except PyException LLMResponse → Prop
  | .ok response => Renders stream response
  | .error _ => stream.failure ≠ none

def StreamsAlike (model : ChatModel) : Prop :=
  ∃ chatStream, model.chatStream = some chatStream ∧ ∀ step messages definitions,
    RendersOutcome (chatStream step messages definitions) (model.chat step messages definitions)

def Plain (response : LLMResponse) : Prop := response.content.isSome = response.toolCalls.isEmpty

instance (response : LLMResponse) : Decidable (Plain response) := inferInstanceAs (Decidable (_ = _))

def LLMResponse.streamed (response : LLMResponse) : LLMResponse :=
  { response with content := if response.toolCalls.isEmpty then some (response.content.getD "") else none }

variable (host : Host)

-- Agent.run; none stands for an exception.
def run (agent : Agent) (userInput : String) (systemPrompt : Option String) (history : List ChatMessage) :
    Option AgentRunResult := returned (stream host agent userInput systemPrompt history).actions

theorem plain_iff_streamed (response : LLMResponse) : Plain response ↔ response.streamed.content = response.content := by
  obtain ⟨content, calls, usage, reason⟩ := response
  cases calls <;> cases content <;> simp [Plain, LLMResponse.streamed]

theorem plain_streamed (response : LLMResponse) (plain : Plain response) : response.streamed = response := by
  have same := (plain_iff_streamed response).mp plain
  obtain ⟨content, calls, usage, reason⟩ := response
  simp only [LLMResponse.streamed] at same ⊢
  rw [same]

theorem stream_answer_renders (modelStream : ModelStream) (response : LLMResponse)
    (renders : Renders modelStream response) :
    (streamAnswer host modelStream).response = .ok response.streamed := by
  obtain ⟨indexes, increasing, used, spelled⟩ := renders.calls
  obtain ⟨text, parts, usage, reason⟩ := read_events_said {} modelStream.events
  have calls := assemble_calls_spelled host _ indexes response.toolCalls increasing used spelled
  rw [← parts] at calls
  have spoken := renders.text
  have spent := renders.usage
  have last := renders.reason
  unfold streamAnswer
  rw [renders.ends]
  dsimp only
  rw [calls]
  dsimp only [LLMResponse.streamed]
  rw [text, usage, reason, ← spoken, ← spent, ← last]
  simp [lastUsage, lastReason]

theorem tool_messages_streaming (agent : Agent) (streams : Bool) (executions : List ToolExecution) :
    toolMessages (agent.streaming streams).config executions = toolMessages agent.config executions := by
  induction executions with
  | nil => rfl
  | cons execution rest ih =>
      have first : toolMessage (agent.streaming streams).config execution = toolMessage agent.config execution := rfl
      rw [toolMessages, toolMessages, ih, first]

theorem settle_streaming (agent : Agent) (streams : Bool) (step : Nat) (state : LoopState) (response : LLMResponse) :
    settle host (agent.streaming streams) step state response = settle host agent step state response := by
  unfold settle
  have judged : judge host.normalizer (agent.streaming streams).config (state.answered response) response.toolCalls =
      judge host.normalizer agent.config (state.answered response) response.toolCalls := rfl
  rw [judged]
  cases judge host.normalizer agent.config (state.answered response) response.toolCalls with
  | error failure => rfl
  | ok verdict =>
      cases verdict with
      | accepted signatures =>
          dsimp only [act, executeBatch]
          rw [tool_messages_streaming]
          rfl
      | _ => rfl

theorem compacted_streaming (agent : Agent) (streams : Bool) (messages : List ChatMessage) :
    compactedMessages host.toInterpreter (agent.streaming streams).config messages =
      compactedMessages host.toInterpreter agent.config messages := rfl

theorem returned_append (first second : List Action) :
    returned (first ++ second) = (returned first).or (returned second) := List.findSome?_append

theorem returned_none (actions : List Action) (unclosed : ∀ result, .emit (.completed result) ∉ actions) :
    returned actions = none := by
  refine List.findSome?_eq_none_iff.mpr fun action member => ?_
  cases action with
  | emit event =>
      cases event with
      | completed result => exact absurd member (unclosed result)
      | _ => rfl
  | _ => rfl

theorem returned_member (actions : List Action) (result : AgentRunResult) (given : returned actions = some result) :
    .emit (.completed result) ∈ actions := by
  obtain ⟨action, member, found⟩ := List.exists_of_findSome?_eq_some given
  cases action with
  | emit event =>
      cases event with
      | completed result =>
          obtain rfl := Option.some.inj found
          exact member
      | _ => cases found
  | _ => cases found

theorem round_goes_on (agent : Agent) (definitions : List ToolDefinition) (step : Nat) (state : LoopState)
    (goes : (agentRound host agent definitions step state).next ≠ .ok none) :
    returned (agentRound host agent definitions step state).actions = none := by
  rcases round_step host agent definitions step state with ⟨_, _, unclosed⟩ | ⟨_, _, _, taken, _⟩
  · exact returned_none _ unclosed
  · exact returned_none _ (taken.uncompleted goes)

theorem run_rounds_actions (agent : Agent) (definitions : List ToolDefinition) (remaining step : Nat)
    (state : LoopState) :
    (runRounds host agent definitions (remaining + 1) step state).actions =
      (agentRound host agent definitions step state).actions ++
        match (agentRound host agent definitions step state).next with
        | .ok (some next) => (runRounds host agent definitions remaining (step + 1) next).actions
        | _ => [] := by
  rw [runRounds]
  cases (agentRound host agent definitions step state).next with
  | error failure => simp [AgentRun.actions]
  | ok continued => cases continued <;> simp [AgentRun.actions]

theorem round_records (agent : Agent) (definitions : List ToolDefinition) (remaining step : Nat) (state : LoopState)
    (result : AgentRunResult)
    (keeps : ∀ next, returned (runRounds host agent definitions remaining (step + 1) next).actions = some result →
      next.steps <+: result.steps)
    (given : returned (runRounds host agent definitions (remaining + 1) step state).actions = some result) :
    ∃ response record, responses (agentRound host agent definitions step state).actions = [response] ∧
      record.assistantContent = response.content ∧ state.steps ++ [record] <+: result.steps := by
  rw [run_rounds_actions, returned_append] at given
  have goes := round_goes_on host agent definitions step state
  rcases round_step host agent definitions step state with
    ⟨failure, raised, unclosed⟩ | ⟨response, record, shown, taken, answered⟩
  · rw [raised, returned_none _ unclosed] at given
    cases given
  refine ⟨response, record, answered, taken.content, ?_⟩
  cases next : (agentRound host agent definitions step state).next with
  | error failure =>
      rw [next, goes (by simp [next])] at given
      cases given
  | ok continued =>
      cases continued with
      | none =>
          rw [next] at given
          have now : returned (agentRound host agent definitions step state).actions = some result := by
            simpa [returned, Option.or_none] using given
          have kept := ((taken.returns next).2 result (returned_member _ _ now)).1
          exact kept ▸ List.prefix_rfl
      | some following =>
          rw [next, goes (by simp [next]), Option.none_or] at given
          rw [← (taken.continues following next).1]
          exact keeps following given

theorem run_rounds_keeps (agent : Agent) (definitions : List ToolDefinition) (remaining step : Nat) (state : LoopState)
    (result : AgentRunResult)
    (given : returned (runRounds host agent definitions remaining step state).actions = some result) :
    state.steps <+: result.steps := by
  induction remaining generalizing step state with
  | zero =>
      obtain rfl := Option.some.inj given
      exact List.prefix_rfl
  | succ remaining ih =>
      obtain ⟨_, record, _, _, begins⟩ :=
        round_records host agent definitions remaining step state result (fun next => ih (step + 1) next) given
      exact (List.prefix_append _ _).trans begins

theorem streaming_round (agent : Agent) (alike : StreamsAlike agent.model) (definitions : List ToolDefinition)
    (step : Nat) (state : LoopState) :
    (∃ raised streamed,
      (agentRound host (agent.streaming false) definitions step state).next = .error raised ∧
      responses (agentRound host (agent.streaming false) definitions step state).actions = [] ∧
      (agentRound host (agent.streaming true) definitions step state).next = .error streamed) ∨
    (∃ response messages first second,
      (∀ event ∈ first, AgentStreamEvent.isText event = true) ∧ (∀ event ∈ second, AgentStreamEvent.isText event = true) ∧
      agentRound host (agent.streaming false) definitions step state =
        ⟨opening messages first ++ .respond response :: (settle host agent step state response).actions,
          (settle host agent step state response).next⟩ ∧
      agentRound host (agent.streaming true) definitions step state =
        ⟨opening messages second ++ .respond response.streamed ::
          (settle host agent step state response.streamed).actions,
          (settle host agent step state response.streamed).next⟩) := by
  obtain ⟨chatStream, offered, renders⟩ := alike
  have chatted : ∀ messages, modelAnswer host (agent.streaming false) definitions step messages =
      chatAnswer (agent.model.chat step messages definitions) := fun _ => rfl
  have streamed : ∀ messages, modelAnswer host (agent.streaming true) definitions step messages =
      streamAnswer host (chatStream step messages definitions) := by
    intro messages
    have offers : (agent.streaming true).model.chatStream = some chatStream := offered
    have set : (agent.streaming true).config.streamModel = true := rfl
    rw [modelAnswer, offers, set]
  have texts := model_answer_texts host (agent.streaming false) definitions step
  have streamTexts := model_answer_texts host (agent.streaming true) definitions step
  unfold agentRound
  rw [compacted_streaming, compacted_streaming]
  cases compactedMessages host.toInterpreter agent.config state.messages with
  | error failure => exact .inl ⟨failure, failure, rfl, rfl, rfl⟩
  | ok messages =>
      have given := renders step messages definitions
      have quiet := (opening_steps messages _ (texts messages)).2.1
      have texts := texts messages
      have streamTexts := streamTexts messages
      dsimp only [askModel]
      rw [chatted] at texts quiet ⊢
      rw [streamed] at streamTexts ⊢
      cases answered : agent.model.chat step messages definitions with
      | error failure =>
          rw [answered] at given quiet
          obtain ⟨stopped, stops⟩ := Option.ne_none_iff_exists'.mp given
          have raised : (streamAnswer host (chatStream step messages definitions)).response = .error stopped := by
            rw [streamAnswer, stops]
          exact .inl ⟨failure, stopped, rfl, quiet, by rw [raised]⟩
      | ok response =>
          rw [answered] at given texts
          refine .inr ⟨response, messages, _, _, texts, streamTexts, ?_, ?_⟩
          · simp only [chatAnswer, settle_streaming]
            rfl
          · rw [stream_answer_renders host _ response given]
            simp only [settle_streaming]
            rfl

theorem settle_responses (agent : Agent) (step : Nat) (state : LoopState) (response : LLMResponse) :
    responses (settle host agent step state response).actions = [] := by
  unfold settle
  cases judge host.normalizer agent.config (state.answered response) response.toolCalls with
  | error failure => rfl
  | ok verdict => exact act_responses host agent step _ response verdict

theorem opened_reads (messages : List ChatMessage) (events : List AgentStreamEvent) (response : LLMResponse)
    (settled : List Action) (texts : ∀ event ∈ events, AgentStreamEvent.isText event = true)
    (silent : responses settled = []) :
    returned (opening messages events ++ .respond response :: settled) = returned settled ∧
      responses (opening messages events ++ .respond response :: settled) = [response] := by
  obtain ⟨_, unanswered, unclosed⟩ := opening_steps messages events texts
  constructor
  · rw [returned_append, returned_none _ unclosed]
    rfl
  · rw [responses_append, unanswered, List.nil_append, ← silent]
    rfl

theorem same_record (steps all : List AgentStep) (first second : AgentStep) (one : steps ++ [first] <+: all)
    (two : steps ++ [second] <+: all) : first = second := by
  have both := List.prefix_of_prefix_length_le one two (by simp)
  have same := both.eq_of_length (by simp)
  simpa using same

theorem run_rounds_modes (agent : Agent) (alike : StreamsAlike agent.model) (definitions : List ToolDefinition)
    (remaining step : Nat) (state : LoopState) :
    ((∀ response ∈ responses (runRounds host (agent.streaming false) definitions remaining step state).actions,
        Plain response) →
      returned (runRounds host (agent.streaming true) definitions remaining step state).actions =
        returned (runRounds host (agent.streaming false) definitions remaining step state).actions) ∧
    ∀ result, returned (runRounds host (agent.streaming true) definitions remaining step state).actions = some result →
      returned (runRounds host (agent.streaming false) definitions remaining step state).actions = some result →
      ∀ response ∈ responses (runRounds host (agent.streaming false) definitions remaining step state).actions,
        Plain response := by
  induction remaining generalizing step state with
  | zero =>
      refine ⟨fun _ => rfl, fun result _ _ response member => ?_⟩
      cases member
  | succ remaining ih =>
      have goes := round_goes_on host (agent.streaming false) definitions step state
      have streamGoes := round_goes_on host (agent.streaming true) definitions step state
      have records := round_records host (agent.streaming false) definitions remaining step state
      have streamRecords := round_records host (agent.streaming true) definitions remaining step state
      rw [run_rounds_actions] at records streamRecords ⊢
      rw [run_rounds_actions]
      rcases streaming_round host agent alike definitions step state with
        ⟨raised, streamed, chatNext, silent, streamNext⟩ | ⟨response, messages, first, second, texts, others, chat, stream⟩
      · rw [chatNext, streamNext, List.append_nil, List.append_nil, goes (by simp [chatNext]),
          streamGoes (by simp [streamNext]), silent]
        simp
      have settled := settle_responses host agent step state response
      obtain ⟨chatReturned, chatAnswered⟩ := opened_reads messages first response _ texts settled
      by_cases plain : Plain response
      · rw [plain_streamed response plain] at stream
        obtain ⟨streamReturned, _⟩ := opened_reads messages second response _ others settled
        rw [chat] at goes
        rw [chat, stream]
        dsimp only at goes ⊢
        rw [chatReturned] at goes
        rw [returned_append (_ ++ _), returned_append (_ ++ _), responses_append (_ ++ _), streamReturned, chatReturned,
          chatAnswered]
        cases next : (settle host agent step state response).next with
        | error failure => exact ⟨fun _ => rfl, fun _ _ _ => by simpa [responses] using plain⟩
        | ok continued =>
            cases continued with
            | none => exact ⟨fun _ => rfl, fun _ _ _ => by simpa [responses] using plain⟩
            | some following =>
                obtain ⟨same, common⟩ := ih (step + 1) following
                rw [goes (by simp [next])]
                dsimp only
                rw [Option.none_or, Option.none_or, List.singleton_append, List.forall_mem_cons]
                exact ⟨fun all => same all.2, fun result one two => ⟨plain, common result one two⟩⟩
      · rw [chat] at records
        rw [stream] at streamRecords
        refine ⟨fun all => absurd (all response ?_) plain, fun result one two => ?_⟩
        · rw [chat, responses_append, chatAnswered]
          exact List.mem_cons_self ..
        · rw [chat] at two
          rw [stream] at one
          have streamAnswered := (opened_reads messages second response.streamed _ others
            (settle_responses host agent step state response.streamed)).2
          obtain ⟨_, kept, only, content, begins⟩ := records result
            (fun next => run_rounds_keeps host _ definitions remaining (step + 1) next result) two
          obtain ⟨_, streamKept, streamOnly, streamContent, streamBegins⟩ := streamRecords result
            (fun next => run_rounds_keeps host _ definitions remaining (step + 1) next result) one
          obtain rfl := List.singleton_inj.mp (chatAnswered.symm.trans only)
          obtain rfl := List.singleton_inj.mp (streamAnswered.symm.trans streamOnly)
          have same := same_record _ _ _ _ begins streamBegins
          rw [← same, content] at streamContent
          exact absurd ((plain_iff_streamed response).mpr streamContent.symm) plain

theorem stream_modes_agree (agent : Agent) (alike : StreamsAlike agent.model) (userInput : String)
    (systemPrompt : Option String) (history : List ChatMessage) :
    ((∀ response ∈ responses (stream host (agent.streaming false) userInput systemPrompt history).actions,
        Plain response) →
      run host (agent.streaming true) userInput systemPrompt history =
        run host (agent.streaming false) userInput systemPrompt history) ∧
    ∀ result, run host (agent.streaming true) userInput systemPrompt history = some result →
      run host (agent.streaming false) userInput systemPrompt history = some result →
      ∀ response ∈ responses (stream host (agent.streaming false) userInput systemPrompt history).actions,
        Plain response := by
  unfold run stream
  have defined : ∀ streams, (agent.streaming streams).tools.definitions = agent.tools.definitions := fun _ => rfl
  rw [defined, defined]
  cases agent.tools.definitions with
  | error failure => simp [AgentRun.actions, returned]
  | ok definitions => exact run_rounds_modes host agent alike definitions _ 1 _

section Sample

-- A model that says something, or nothing, with its query and then answers.
def spokenResponse (content : Option String) (step : Nat) : LLMResponse :=
  if step = 1 then { content, toolCalls := [queryCall "SELECT 1"], usage := ⟨10, 5⟩ }
  else { content := some "done", usage := ⟨20, 5⟩ }

def queryFragments : List ToolCallDelta :=
  [{ index := 0, id := some "call-1", name := some "run_sql", argumentsDelta := some "\x7b\"sql\"" },
    { index := 0, argumentsDelta := some ": \"SELECT 1\"\x7d" }]

def spokenStream (content : Option String) (step : Nat) : ModelStream where
  events :=
    if step = 1 then
      .textDelta content :: queryFragments.map (fun delta => .toolCallDelta (some delta)) ++ [.usage (some ⟨10, 5⟩)]
    else [.textDelta (some "do"), .textDelta (some "ne"), .usage (some ⟨20, 5⟩)]

def spokenAgent (content : Option String) : Agent where
  model := {
    chat := fun step _ _ => .ok (spokenResponse content step)
    chatStream := some fun step _ _ => spokenStream content step }
  tools := (queryAgent "SELECT 1").tools
  config := (queryAgent "SELECT 1").config

theorem query_fragments_spell : Spells (assembled queryFragments 0) (queryCall "SELECT 1") := by
  have text : (assembled queryFragments 0).arguments = dumps ⟨true, true⟩ (.obj [("sql", .str "SELECT 1")]) := by
    decide +kernel
  have given : (assembled queryFragments 0).arguments ≠ "" := by decide +kernel
  refine ⟨by decide +kernel, by decide +kernel, ?_⟩
  rw [Writes, if_neg given, text, loads_dumps]
  rfl

theorem spoken_streams_alike (content : Option String) : StreamsAlike (spokenAgent content).model := by
  refine ⟨_, rfl, fun step messages definitions => ?_⟩
  by_cases first : step = 1
  · subst first
    refine ⟨rfl, ?_, ⟨[0], List.pairwise_singleton _ _, ?_, ?_⟩, rfl, rfl⟩
    · exact String.empty_append
    · simp [spokenStream, queryFragments, fragments, StreamEvent.fragment, eq_comm]
    · exact .cons query_fragments_spell .nil
  · have answers : spokenResponse content step = { content := some "done", usage := ⟨20, 5⟩ } := if_neg first
    have streams : (spokenStream content step).events =
        [.textDelta (some "do"), .textDelta (some "ne"), .usage (some ⟨20, 5⟩)] := if_neg first
    change Renders (spokenStream content step) (spokenResponse content step)
    rw [answers]
    refine ⟨rfl, ?_, ⟨[], List.Pairwise.nil, ?_, .nil⟩, ?_, ?_⟩ <;> rw [streams]
    · rfl
    · simp [fragments, StreamEvent.fragment]
    · rfl
    · rfl

def spokenRun (content : Option String) (streams : Bool) : Option AgentRunResult :=
  run sampleHost ((spokenAgent content).streaming streams) "How many rows?" none []

end Sample

theorem stream_modes_agree_query : spokenRun none true = spokenRun none false := by
  have plain : ∀ response ∈ responses (stream sampleHost ((spokenAgent none).streaming false) "How many rows?" none []).actions,
      Plain response := by decide +kernel
  exact (stream_modes_agree sampleHost (spokenAgent none) (spoken_streams_alike none) "How many rows?" none []).1 plain

-- What is said with a tool call is in one history only.
theorem spoken_call_modes_differ :
    ¬ ∀ (host : Host) (agent : Agent) (userInput : String) (systemPrompt : Option String) (history : List ChatMessage),
      StreamsAlike agent.model → run host (agent.streaming true) userInput systemPrompt history =
        run host (agent.streaming false) userInput systemPrompt history := by
  intro claim
  have same : spokenRun (some "Counting.") true = spokenRun (some "Counting.") false :=
    claim sampleHost (spokenAgent (some "Counting.")) "How many rows?" none [] (spoken_streams_alike _)
  have contents : ((spokenRun (some "Counting.") true).map fun result => result.steps.map AgentStep.assistantContent) ≠
      (spokenRun (some "Counting.") false).map fun result => result.steps.map AgentStep.assistantContent := by
    decide +kernel
  exact contents (congrArg _ same)

end DataPilot.Agent
