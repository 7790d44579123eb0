import DataPilot.Agent.Signatures

set_option autoImplicit false

namespace DataPilot.Agent

open DataPilot.Base DataPilot.Tools DataPilot.Sql

structure CallBuilder where
  id : String := ""
  name : String := ""
  arguments : String := ""

abbrev CallParts := List (Nat × CallBuilder)

-- "if value: target = value"
def override (target : String) (value : Option String) : String := orElseText (value.getD "") target

def CallBuilder.extend (builder : CallBuilder) (delta : ToolCallDelta) : CallBuilder :=
  ⟨override builder.id delta.id, override builder.name delta.name, builder.arguments ++ delta.argumentsDelta.getD ""⟩

-- setdefault(index, …) and the updates of the builder.
def extendParts (delta : ToolCallDelta) : CallParts → CallParts
  | [] => [(delta.index, CallBuilder.extend {} delta)]
  | (index, builder) :: rest =>
      if index = delta.index then (index, builder.extend delta) :: rest
      else (index, builder) :: extendParts delta rest

structure StreamBuffer where
  textParts : List String := []
  toolCallParts : CallParts := []
  usage : TokenUsage := {}
  finishReason : Option String := none

-- One round of the loop over chat_stream: the new buffers and what is yielded.
def readEvent (buffer : StreamBuffer) : StreamEvent → StreamBuffer × List AgentStreamEvent
  | .textDelta content =>
      if content.getD "" = "" then (buffer, [])
      else ({ buffer with textParts := buffer.textParts ++ [content.getD ""] }, [.textDelta (content.getD "")])
  | .toolCallDelta none => (buffer, [])
  | .toolCallDelta (some delta) => ({ buffer with toolCallParts := extendParts delta buffer.toolCallParts }, [])
  | .usage none => (buffer, [])
  | .usage (some usage) => ({ buffer with usage }, [])
  | .finish reason => ({ buffer with finishReason := reason }, [])

def readEvents (buffer : StreamBuffer) : List StreamEvent → StreamBuffer × List AgentStreamEvent
  | [] => (buffer, [])
  | event :: rest =>
      let read := readEvent buffer event
      let others := readEvents read.1 rest
      (others.1, read.2 ++ others.2)

-- What the loop runs in. The text of a JSONDecodeError and the order in which
-- gathered tool calls end are not determined by the code.
structure Host extends Interpreter where
  normalizer : Normalizer
  decodeError : String → String
  completionOrder : (step calls : Nat) → List (Fin calls)
  everyCallEnds : ∀ step calls, (completionOrder step calls).Perm (List.finRange calls)

variable (host : Host)

def invalidArguments (text : String) : PyException :=
  ⟨"ValueError", s!"Invalid streamed tool call arguments: {text}"⟩

def assembleCall (index : Nat) (part : CallBuilder) (named : part.name ≠ "") : Except PyException ToolCall :=
  match Base.loads (orElseText part.arguments "{}") with
  | none => .error (invalidArguments (host.decodeError part.arguments))
  | some (.obj arguments) =>
      if given : part.id ≠ "" then .ok ⟨part.id, part.name, arguments, given, named⟩
      else .ok ⟨"stream-call-" ++ toString index, part.name, arguments, by simp [← String.toList_inj], named⟩
  | some _ => .error (invalidArguments "Tool call arguments must be a JSON object.")

def assembleParts : CallParts → Except PyException (List ToolCall)
  | [] => .ok []
  | (index, part) :: rest =>
      if named : part.name ≠ "" then
        match assembleCall host index part named with
        | .error failure => .error failure
        | .ok call => (assembleParts rest).map (call :: ·)
      else assembleParts rest

def assembleToolCalls (parts : CallParts) : Except PyException (List ToolCall) :=
  assembleParts host (parts.insertionSort fun a b => a.1 ≤ b.1)

-- What one iteration over _stream_model_response yields, and its response.
structure ModelAnswer where
  events : List AgentStreamEvent
  response : Except PyException LLMResponse

def textEvents (text : String) : List AgentStreamEvent := if text = "" then [] else [.textDelta text]

def resetEvents (calls : List ToolCall) (discarded : Bool) : List AgentStreamEvent :=
  if !calls.isEmpty && discarded then [.textReset] else []

def chatAnswer (outcome : Except PyException LLMResponse) : ModelAnswer :=
  match outcome with
  | .error failure => ⟨[], .error failure⟩
  | .ok response =>
      ⟨textEvents (response.content.getD "") ++ resetEvents response.toolCalls (response.content.getD "" ≠ ""),
        .ok response⟩

def streamAnswer (stream : ModelStream) : ModelAnswer :=
  let read := readEvents {} stream.events
  match stream.failure with
  | some failure => ⟨read.2, .error failure⟩
  | none =>
      match assembleToolCalls host read.1.toolCallParts with
      | .error failure => ⟨read.2, .error failure⟩
      | .ok calls =>
          ⟨read.2 ++ resetEvents calls (!read.1.textParts.isEmpty), .ok {
            content := if calls.isEmpty then some (String.join read.1.textParts) else none
            toolCalls := calls
            usage := read.1.usage
            finishReason := read.1.finishReason }⟩

-- _stream_model_response after its compaction.
def modelAnswer (agent : Agent) (definitions : List ToolDefinition) (step : Nat) (messages : List ChatMessage) :
    ModelAnswer :=
  match agent.config.streamModel, agent.model.chatStream with
  | true, some chatStream => streamAnswer host (chatStream step messages definitions)
  | _, _ => chatAnswer (agent.model.chat step messages definitions)

def AgentStreamEvent.isText : AgentStreamEvent → Bool
  | .textDelta _ => true
  | .textReset => true
  | _ => false

theorem read_event_texts (buffer : StreamBuffer) (event : StreamEvent) :
    ∀ yielded ∈ (readEvent buffer event).2, yielded.isText = true := by
  fun_cases readEvent <;> simp [AgentStreamEvent.isText]

theorem read_events_texts (buffer : StreamBuffer) (events : List StreamEvent) :
    ∀ yielded ∈ (readEvents buffer events).2, yielded.isText = true := by
  induction events generalizing buffer with
  | nil => simp [readEvents]
  | cons event rest ih =>
      intro yielded member
      rcases List.mem_append.mp member with now | later
      · exact read_event_texts buffer event yielded now
      · exact ih _ yielded later

theorem text_events_texts (text : String) : ∀ yielded ∈ textEvents text, yielded.isText = true := by
  unfold textEvents
  split <;> simp [AgentStreamEvent.isText]

theorem reset_events_texts (calls : List ToolCall) (discarded : Bool) :
    ∀ yielded ∈ resetEvents calls discarded, yielded.isText = true := by
  unfold resetEvents
  split <;> simp [AgentStreamEvent.isText]

theorem model_answer_texts (agent : Agent) (definitions : List ToolDefinition) (step : Nat)
    (messages : List ChatMessage) :
    ∀ yielded ∈ (modelAnswer host agent definitions step messages).events, yielded.isText = true := by
  have chatted : ∀ outcome, ∀ yielded ∈ (chatAnswer outcome).events, yielded.isText = true := by
    intro outcome yielded member
    cases outcome with
    | error failure => simp [chatAnswer] at member
    | ok response =>
        rcases List.mem_append.mp member with text | reset
        · exact text_events_texts _ yielded text
        · exact reset_events_texts _ _ yielded reset
  have streamed : ∀ stream, ∀ yielded ∈ (streamAnswer host stream).events, yielded.isText = true := by
    intro stream yielded member
    unfold streamAnswer at member
    dsimp only at member
    split at member
    · exact read_events_texts _ _ yielded member
    split at member
    · exact read_events_texts _ _ yielded member
    · rcases List.mem_append.mp member with text | reset
      · exact read_events_texts _ _ yielded text
      · exact reset_events_texts _ _ yielded reset
  unfold modelAnswer
  split
  · exact streamed _
  · exact chatted _

end DataPilot.Agent
