import DataPilot.Agent.Pairing
import DataPilot.Base.JsonFields
import DataPilot.Llm.ToolCalls

set_option autoImplicit false

namespace DataPilot.Llm

open DataPilot.Base DataPilot.Agent DataPilot.Tools

def roleText : ChatRole → String
  | .system => "system"
  | .user => "user"
  | .assistant => "assistant"
  | .tool => "tool"

def argumentsText (arguments : Dict) : String := dumps ⟨false, false⟩ (.obj arguments)

def serializeToolCall (call : ToolCall) : Json :=
  .obj [("id", .str call.id), ("type", .str "function"),
    ("function", .obj [("name", .str call.name), ("arguments", .str (argumentsText call.arguments))])]

def nullableText : Option String → Json
  | none => .null
  | some text => .str text

-- "if value: payload[key] = value"
def givenField (key : String) (value : Option String) : Dict :=
  if value.getD "" = "" then [] else [(key, .str (value.getD ""))]

def callsField (calls : List ToolCall) : Dict :=
  if calls = [] then [] else [("tool_calls", .arr (calls.map serializeToolCall))]

def serializeMessage (message : ChatMessage) : Json :=
  .obj (("role", .str (roleText message.role)) :: ("content", nullableText message.content) ::
    (givenField "name" message.name ++ givenField "tool_call_id" message.toolCallId ++ callsField message.toolCalls))

def serializeMessages (messages : List ChatMessage) : Json := .arr (messages.map serializeMessage)

def dumpTool (tool : ToolDefinition) : Json :=
  .obj [("type", .str "function"), ("function", .obj [("name", .str tool.function.name),
    ("description", .str tool.function.description), ("parameters", .obj tool.function.parameters)])]

structure OpenAICompatibleProvider where
  baseUrl : String
  apiKey : String
  defaultModel : String
  maxRetries : Nat := 2
  includeUsageInStream : Bool := true
  located : strip baseUrl ≠ ""
  keyed : strip apiKey ≠ ""
  named : strip defaultModel ≠ ""

structure HttpPost where
  url : String
  headers : List (String × String)
  body : Json

-- What a post comes to: an exception, of the transport or not, or a response.
inductive PostAnswer where
  | raises (failure : PyException) (transport : Bool)
  | responds (status : Nat) (text : String)

-- The answers of the service to a call, attempt after attempt.
structure ModelService where
  post : Nat → HttpPost → Nat → PostAnswer
  stream : Nat → HttpPost → Nat → Except PyException HttpAnswer

section Requests

variable (provider : OpenAICompatibleProvider)

def OpenAICompatibleProvider.url (path : String) : String :=
  String.ofList (provider.baseUrl.toList.rdropWhile fun c => c = '/') ++ path

def OpenAICompatibleProvider.headers : List (String × String) :=
  [("Authorization", "Bearer " ++ provider.apiKey), ("Content-Type", "application/json")]

def OpenAICompatibleProvider.chatBody (messages : List ChatMessage) (tools : List ToolDefinition) (streamed : Bool) : Json :=
  .obj ([("model", .str provider.defaultModel), ("messages", serializeMessages messages), ("stream", .bool streamed)] ++
    (if streamed && provider.includeUsageInStream then [("stream_options", .obj [("include_usage", .bool true)])] else []) ++
    if tools.isEmpty then [] else [("tools", .arr (tools.map dumpTool))])

def OpenAICompatibleProvider.chatPost (messages : List ChatMessage) (tools : List ToolDefinition) (streamed : Bool) :
    HttpPost where
  url := provider.url "/chat/completions"
  headers := provider.headers
  body := provider.chatBody messages tools streamed

end Requests

def isError (status : Nat) : Bool := 400 ≤ status && status ≤ 599

def responseData (text : String) : Except PyException Dict :=
  match loads text with
  | none => .error ⟨"LLMResponseError", "Model provider returned invalid JSON."⟩
  | some (.obj data) => .ok data
  | some _ => .error ⟨"LLMResponseError", "Model provider returned an invalid response body."⟩

def httpError (status : Nat) (text : String) : PyException :=
  ⟨"LLMResponseError", s!"Model provider returned HTTP {status}: {slice text 2000}"⟩

-- _request_json, with the number of attempts that are left after this one.
def requestJson (answers : Nat → PostAnswer) : Nat → Nat → Except PyException Dict
  | 0, attempt =>
      match answers attempt with
      | .raises failure _ => .error failure
      | .responds status text => if isError status then .error (httpError status text) else responseData text
  | left + 1, attempt =>
      match answers attempt with
      | .raises failure transport => if transport then requestJson answers left (attempt + 1) else .error failure
      | .responds status text =>
          if status ∈ retryableStatusCodes then requestJson answers left (attempt + 1)
          else if isError status then .error (httpError status text)
          else responseData text

def invalidCompletion : PyException := ⟨"LLMResponseError", "Invalid chat completion response."⟩

-- What a for statement takes one after another.
def iterItems : Json → Except PyException (List Json)
  | .arr items => .ok items
  | .obj fields => .ok (fields.map fun field => .str field.1)
  | .str text => .ok (text.toList.map fun c => .str (String.ofList [c]))
  | value => .error ⟨"TypeError", s!"'{pyTypeName value}' object is not iterable"⟩

section Completions

variable (library : Library)

def usageOf (data : Dict) : Except PyException TokenUsage :=
  match asDict (orElse (dictGet "usage" data) (.obj [])) with
  | .error failure => .error failure
  | .ok usage =>
      match pyInt library (dictGetD "prompt_tokens" (.int 0) usage),
          pyInt library (dictGetD "completion_tokens" (.int 0) usage) with
      | .error failure, _ => .error failure
      | _, .error failure => .error failure
      | .ok input, .ok output => tokenUsage library input output

def rawCallsOf (message : Dict) : Except PyException (List Json) :=
  iterItems (orElse (dictGet "tool_calls" message) (.arr []))

def messageCalls (message : Dict) : Except PyException (List ToolCall) :=
  match rawCallsOf message with
  | .error failure => .error failure
  | .ok rawCalls => parseToolCalls library rawCalls

def llmResponse (content finishReason : Json) (calls : List ToolCall) (usage : TokenUsage) : Except PyException LLMResponse :=
  match optionalText content, optionalText finishReason with
  | some content, some finishReason => .ok { content, toolCalls := calls, usage, finishReason }
  | _, _ => .error (validationError library "LLMResponse" [content, finishReason])

def completionOf (data choice : Dict) (message : Json) : Except PyException LLMResponse :=
  match asDict message with
  | .error failure => .error failure
  | .ok fields =>
      match messageCalls library fields with
      | .error failure => .error failure
      | .ok calls =>
          match usageOf library data with
          | .error failure => .error failure
          | .ok usage => llmResponse library (dictGet "content" fields) (dictGet "finish_reason" choice) calls usage

def parseCompletion (data : Dict) : Except PyException LLMResponse :=
  match (itemOf "choices" (.obj data)).map firstItem with
  | some (.ok (.obj choice)) =>
      match itemOf "message" (.obj choice) with
      | some message => completionOf library data choice message
      | none => .error invalidCompletion
  | _ => .error invalidCompletion

def OpenAICompatibleProvider.chatModel (provider : OpenAICompatibleProvider) (service : ModelService) : ChatModel where
  chat step messages tools :=
    match requestJson (service.post step (provider.chatPost messages tools false)) provider.maxRetries 0 with
    | .error failure => .error failure
    | .ok data => parseCompletion library data
  chatStream := some fun step messages tools =>
    chatStream library (service.stream step (provider.chatPost messages tools true)) provider.maxRetries 0

-- What the service is told, read with the parser of its own answers.
def readRole (value : Json) : Option ChatRole :=
  (readText value).bind fun text => [ChatRole.system, .user, .assistant, .tool].find? fun role => roleText role = text

def readCalls : Json → Option (List ToolCall)
  | .arr rawCalls => (parseToolCalls library rawCalls).toOption
  | _ => none

def readMessage : Reader ChatMessage
  | .obj fields =>
      (readRole (dictGet "role" fields)).bind fun role =>
        (readNullable readText (dictGet "content" fields)).bind fun content =>
          (fieldOr (some none) (readNullable readText) "name" fields).bind fun name =>
            (fieldOr (some none) (readNullable readText) "tool_call_id" fields).bind fun toolCallId =>
              (fieldOr (some []) (readCalls library) "tool_calls" fields).map fun toolCalls =>
                { role, content, name, toolCallId, toolCalls }
  | _ => none

def readRequest (text : String) : Option (List ChatMessage) :=
  match loads text with
  | some (.obj fields) => readList (readMessage library) (dictGet "messages" fields)
  | _ => none

end Completions

def orNone (value : Option String) : Option String := if value.getD "" = "" then none else value

-- A message without the texts that the payload leaves out.
def spoken (message : ChatMessage) : ChatMessage :=
  { message with name := orNone message.name, toolCallId := orNone message.toolCallId }

-- The arguments of the calls are dicts: they hold no key twice.
def DictArguments (calls : List ToolCall) : Prop := ∀ call ∈ calls, mergeKeys (.obj call.arguments) = .obj call.arguments

section Written

variable (library : Library)

theorem parse_serialized_call (call : ToolCall) (dict : mergeKeys (.obj call.arguments) = .obj call.arguments) :
    parseRawCall library (serializeToolCall call) = .ok call := by
  have given : argumentsText call.arguments ≠ "" := by
    obtain ⟨tail, head⟩ := encode_object_head ⟨false, false⟩ call.arguments
    intro empty
    have letters := congrArg String.toList empty
    rw [argumentsText, dumps, String.toList_ofList, head] at letters
    cases letters
  have loaded : loadArguments [("name", .str call.name), ("arguments", .str (argumentsText call.arguments))] =
      .ok call.arguments := by
    rw [load_arguments_written _ (argumentsText call.arguments) (by simp [dictGet]), orElseText, if_neg given, argumentsText,
      loads_dumps, dict]
  simp [parseRawCall, serializeToolCall, itemOf, dictHas, dictGet, asDict, loaded, toolCall, pyStr, call.idNonempty,
    call.nameNonempty]

theorem parse_serialized_calls (calls : List ToolCall) (dicts : DictArguments calls) :
    parseToolCalls library (calls.map serializeToolCall) = .ok calls := by
  induction calls with
  | nil => rfl
  | cons call rest ih =>
      obtain ⟨first, others⟩ := List.forall_mem_cons.mp dicts
      rw [List.map_cons, parseToolCalls, parse_serialized_call library call first]
      dsimp only
      rw [ih others]
      rfl

theorem read_role_text (role : ChatRole) : readRole (.str (roleText role)) = some role := by cases role <;> rfl

theorem read_nullable_text (value : Option String) : readNullable readText (nullableText value) = some value := by
  cases value <;> rfl

theorem read_text_given (text : String) : readNullable readText (.str text) = some (some text) := rfl

theorem given_field_spoken (key : String) (value : Option String) :
    (orNone value = none ∧ givenField key value = []) ∨
      ∃ text, orNone value = some text ∧ givenField key value = [(key, .str text)] := by
  unfold orNone givenField
  by_cases silent : value.getD "" = ""
  · rw [if_pos silent, if_pos silent]
    exact .inl ⟨rfl, rfl⟩
  · rw [if_neg silent, if_neg silent]
    cases value with
    | none => exact absurd rfl silent
    | some text => exact .inr ⟨text, rfl, rfl⟩

theorem read_serialized (message : ChatMessage) (dicts : DictArguments message.toolCalls) :
    readMessage library (serializeMessage message) = some (spoken message) := by
  have calls := parse_serialized_calls library message.toolCalls dicts
  have role := read_role_text message.role
  have content := read_nullable_text message.content
  rcases given_field_spoken "name" message.name with ⟨noName, unnamed⟩ | ⟨name, someName, named⟩ <;>
    rcases given_field_spoken "tool_call_id" message.toolCallId with ⟨noId, unanswering⟩ | ⟨id, someId, answering⟩ <;>
    by_cases quiet : message.toolCalls = [] <;>
    simp [*, serializeMessage, readMessage, callsField, dictGet, dictHas, fieldOr, readCalls, read_text_given, spoken,
      Except.toOption]

theorem serialized_call_merged (call : ToolCall) : mergeKeys (serializeToolCall call) = serializeToolCall call := rfl

theorem serialized_merged (message : ChatMessage) : mergeKeys (serializeMessage message) = serializeMessage message := by
  have calls : mergeItems (message.toolCalls.map serializeToolCall) = message.toolCalls.map serializeToolCall :=
    Json.arr.inj (merged_map serializeToolCall message.toolCalls serialized_call_merged)
  have content : mergeKeys (nullableText message.content) = nullableText message.content := by
    cases message.content <;> rfl
  unfold serializeMessage callsField
  rcases given_field_spoken "name" message.name with ⟨_, unnamed⟩ | ⟨name, _, named⟩ <;>
    rcases given_field_spoken "tool_call_id" message.toolCallId with ⟨_, unanswering⟩ | ⟨id, _, answering⟩ <;>
    by_cases quiet : message.toolCalls = [] <;>
    simp [*, mergeKeys, mergeFields, dictSet]

theorem read_body (provider : OpenAICompatibleProvider) (style : DumpStyle) (messages : List ChatMessage)
    (tools : List ToolDefinition) (streamed : Bool) (dicts : ∀ message ∈ messages, DictArguments message.toolCalls) :
    readRequest library (dumps style (provider.chatBody messages tools streamed)) = some (messages.map spoken) := by
  have merged : mergeKeys (serializeMessages messages) = serializeMessages messages :=
    merged_map serializeMessage messages serialized_merged
  have written : readList (readMessage library) (serializeMessages messages) = some (messages.map spoken) := by
    rw [serializeMessages, readList]
    induction messages with
    | nil => rfl
    | cons message rest ih =>
        obtain ⟨first, others⟩ := List.forall_mem_cons.mp dicts
        have later : mergeKeys (serializeMessages rest) = serializeMessages rest :=
          merged_map serializeMessage rest serialized_merged
        rw [List.map_cons, readItems, read_serialized library message first, ih others later]
        rfl
  unfold readRequest
  rw [loads_dumps]
  have read : ∃ fields, mergeKeys (provider.chatBody messages tools streamed) = .obj fields ∧
      dictGet "messages" fields = serializeMessages messages := by
    refine ⟨_, rfl, ?_⟩
    cases streamed <;> cases provider.includeUsageInStream <;> cases tools <;>
      simp [mergeFields, dictSet, dictGet, merged]
  obtain ⟨fields, same, found⟩ := read
  rw [same]
  dsimp only
  rw [found, written]

end Written

section Answered

variable (library : Library)

theorem parsed_call_dict (rawCall : Json) (call : ToolCall) (parsed : parseRawCall library rawCall = .ok call) :
    mergeKeys (.obj call.arguments) = .obj call.arguments := by
  unfold parseRawCall at parsed
  split at parsed
  · cases parsed
  split at parsed
  · cases parsed
  rename_i fields _
  cases loaded : loadArguments fields with
  | error failure => simp [loaded] at parsed
  | ok arguments =>
      have merged : mergeKeys (.obj arguments) = .obj arguments := by
        unfold loadArguments at loaded
        split at loaded
        · split at loaded
          · rename_i found
            cases loaded
            exact loads_merged _ _ found
          · cases loaded
          · cases loaded
        · cases loaded
      rw [loaded] at parsed
      dsimp only at parsed
      split at parsed
      · unfold toolCall at parsed
        split at parsed
        · split at parsed
          · cases parsed
            exact merged
          · cases parsed
        · cases parsed
      · cases parsed

theorem parsed_calls_dicts (rawCalls : List Json) (calls : List ToolCall) (parsed : parseToolCalls library rawCalls = .ok calls) :
    DictArguments calls := by
  induction rawCalls generalizing calls with
  | nil =>
      cases parsed
      exact fun _ member => absurd member List.not_mem_nil
  | cons rawCall rest ih =>
      rw [parseToolCalls] at parsed
      cases first : parseRawCall library rawCall with
      | error failure => simp [first] at parsed
      | ok call =>
          rw [first] at parsed
          dsimp only at parsed
          cases others : parseToolCalls library rest with
          | error failure => simp [others, Except.map] at parsed
          | ok later =>
              simp only [others, Except.map, Except.ok.injEq] at parsed
              subst parsed
              exact List.forall_mem_cons.mpr ⟨parsed_call_dict library rawCall call first, ih later others⟩

theorem assembled_parts_dicts (host : Agent.Host) (parts : CallParts) (calls : List ToolCall)
    (assembled : assembleParts host parts = .ok calls) : DictArguments calls := by
  induction parts generalizing calls with
  | nil =>
      cases assembled
      exact fun _ member => absurd member List.not_mem_nil
  | cons part rest ih =>
      obtain ⟨index, part⟩ := part
      rw [assembleParts] at assembled
      split at assembled
      · rename_i named
        cases first : assembleCall host index part named with
        | error failure => simp [first] at assembled
        | ok call =>
            rw [first] at assembled
            dsimp only at assembled
            cases others : assembleParts host rest with
            | error failure => simp [others, Except.map] at assembled
            | ok later =>
                simp only [others, Except.map, Except.ok.injEq] at assembled
                subst assembled
                refine List.forall_mem_cons.mpr ⟨?_, ih later others⟩
                unfold assembleCall at first
                split at first
                · cases first
                · rename_i loaded
                  split at first <;> cases first <;> exact loads_merged _ _ loaded
                · cases first
      · exact ih calls assembled

theorem completion_dicts (data : Dict) (response : LLMResponse) (parsed : parseCompletion library data = .ok response) :
    DictArguments response.toolCalls := by
  unfold parseCompletion at parsed
  split at parsed
  · split at parsed
    · rename_i message _
      unfold completionOf at parsed
      cases dict : asDict message with
      | error failure => simp [dict] at parsed
      | ok fields =>
          rw [dict] at parsed
          dsimp only at parsed
          cases called : messageCalls library fields with
          | error failure => simp [called] at parsed
          | ok calls =>
              have dicts : DictArguments calls := by
                unfold messageCalls at called
                split at called
                · cases called
                · exact parsed_calls_dicts library _ calls called
              rw [called] at parsed
              dsimp only at parsed
              split at parsed
              · cases parsed
              · unfold llmResponse at parsed
                split at parsed
                · cases parsed
                  exact dicts
                · cases parsed
    · cases parsed
  · cases parsed

end Answered

theorem answers_quiet (calls : List ToolCall) (messages : List ChatMessage) (answers : List.Forall₂ Answers calls messages) :
    ∀ message ∈ messages, message.toolCalls = [] := by
  induction answers with
  | nil => exact fun _ member => absurd member List.not_mem_nil
  | cons answer _ ih => exact List.forall_mem_cons.mpr ⟨answer.2.2.2, ih⟩

theorem frames_dicts (before after : List ChatMessage) (frames : List.Forall₂ SameFrame before after)
    (dicts : ∀ message ∈ before, DictArguments message.toolCalls) : ∀ message ∈ after, DictArguments message.toolCalls := by
  induction frames with
  | nil => exact fun _ member => absurd member List.not_mem_nil
  | cons frame _ ih =>
      obtain ⟨first, others⟩ := List.forall_mem_cons.mp dicts
      refine List.forall_mem_cons.mpr ⟨?_, ih others⟩
      obtain ⟨_, _, _, calls⟩ := frame
      rw [calls]
      exact first

section Conversations

variable (library : Library) (host : Agent.Host) (provider : OpenAICompatibleProvider) (service : ModelService)
variable (agent : Agent) (connected : agent.model = provider.chatModel library service)

include connected

theorem answer_dicts (definitions : List ToolDefinition) (step : Nat) (messages : List ChatMessage) (response : LLMResponse)
    (answered : (modelAnswer host agent definitions step messages).response = .ok response) :
    DictArguments response.toolCalls := by
  unfold modelAnswer at answered
  split at answered
  · unfold streamAnswer at answered
    dsimp only at answered
    split at answered
    · cases answered
    · split at answered
      · cases answered
      · rename_i calls assembled
        cases answered
        exact assembled_parts_dicts host _ calls assembled
  · have chatted : agent.model.chat step messages definitions = .ok response := by
      unfold chatAnswer at answered
      split at answered
      · cases answered
      · rename_i given
        cases answered
        exact given
    rw [connected] at chatted
    unfold OpenAICompatibleProvider.chatModel at chatted
    dsimp only at chatted
    split at chatted
    · cases chatted
    · exact completion_dicts library _ response chatted

theorem round_dicts (definitions : List ToolDefinition) (step : Nat) (state next : LoopState)
    (dicts : ∀ message ∈ state.messages, DictArguments message.toolCalls)
    (continued : (agentRound host agent definitions step state).next = .ok (some next)) :
    ∀ message ∈ next.messages, DictArguments message.toolCalls := by
  have none_called : ∀ message : ChatMessage, message.toolCalls = [] → DictArguments message.toolCalls := by
    intro message quiet call member
    rw [quiet] at member
    cases member
  rcases agent_round_ways host agent definitions step state with
    ⟨failure, _, round⟩ | ⟨messages, failure, _, _, round⟩ | ⟨messages, response, _, answered, round⟩
  · rw [round] at continued
    cases continued
  · rw [round] at continued
    cases continued
  · have responded := answer_dicts library host provider service agent connected definitions step messages response answered
    rw [round] at continued
    rcases settle_ways host agent step state response with ⟨failure, _, _, settled⟩ | ⟨verdict, _, settled⟩
    · rw [settled] at continued
      cases continued
    · rw [settled] at continued
      rcases act_goes_on host agent step _ next response verdict continued with ⟨_, rfl⟩ | ⟨signatures, _, executed⟩
      · simp only [LoopState.answered, List.dropLast_concat]
        intro message member
        rcases List.mem_append.mp member with earlier | last
        · exact dicts message earlier
        · rw [List.mem_singleton.mp last]
          exact none_called _ rfl
      · obtain ⟨written, wrote, rfl⟩ := execute_batch_goes_on host agent step _ next response signatures executed
        have answers := tool_messages_answer agent.config agent.tools step response.toolCalls written wrote
        intro message member
        simp only [LoopState.answered, List.append_assoc, List.mem_append, List.mem_singleton] at member
        rcases member with earlier | rfl | result
        · exact dicts message earlier
        · exact responded
        · exact none_called message (answers_quiet response.toolCalls written answers message result)

theorem requests_read_back (userInput : String) (systemPrompt : Option String) (history : List ChatMessage)
    (dicts : ∀ message ∈ history, DictArguments message.toolCalls) (messages : List ChatMessage)
    (requested : .request messages ∈ (stream host agent userInput systemPrompt history).actions) (style : DumpStyle)
    (tools : List ToolDefinition) (streamed : Bool) :
    readRequest library (dumps style (provider.chatPost messages tools streamed).body) = some (messages.map spoken) := by
  apply read_body
  unfold stream at requested
  cases defined : agent.tools.definitions with
  | error failure => simp [defined, AgentRun.actions] at requested
  | ok definitions =>
      rw [defined] at requested
      dsimp only at requested
      -- Between rounds the calls of the state and of every request so far hold dicts.
      let Good : Nat → List (List Action) → LoopState → Prop := fun _ past state =>
        (∀ message ∈ state.messages, DictArguments message.toolCalls) ∧
          ∀ messages, Action.request messages ∈ past.flatten → ∀ message ∈ messages, DictArguments message.toolCalls
      let Done : AgentRun → Prop := fun run =>
        ∀ messages, Action.request messages ∈ run.actions → ∀ message ∈ messages, DictArguments message.toolCalls
      have extend : ∀ step past state, Good step past state → ∀ messages,
          Action.request messages ∈ (past ++ [(agentRound host agent definitions step state).actions]).flatten →
          ∀ message ∈ messages, DictArguments message.toolCalls := by
        intro step past state good messages member
        rw [flatten_snoc, List.mem_append] at member
        rcases member with earlier | now
        · exact good.2 messages earlier
        · have compacted := round_request host agent definitions step state messages now
          exact frames_dicts _ _ (compacted_frames host.toInterpreter agent.config state.messages messages compacted) good.1
      have initial : ∀ message ∈ initialMessages userInput systemPrompt history, DictArguments message.toolCalls := by
        have quiet : ∀ role content, DictArguments ({ role, content } : ChatMessage).toolCalls :=
          fun _ _ _ member => absurd member List.not_mem_nil
        intro message member
        simp only [initialMessages, List.mem_append, List.mem_singleton] at member
        rcases member with (system | earlier) | rfl
        · split at system
          · cases system
          · rw [List.mem_singleton.mp system]
            exact quiet _ _
        · exact dicts message earlier
        · exact quiet _ _
      refine run_rounds_rule host agent definitions (agent.config.maxSteps + 1) Good Done ?_ ?_ ?_ ?_
        agent.config.maxSteps 1 [] { messages := initialMessages userInput systemPrompt history } (by omega)
        ⟨initial, by simp⟩ messages requested
      · intro step past state failure _ good _ messages member
        exact extend step past state good messages (by simpa [AgentRun.actions] using member)
      · intro step past state _ good _ messages member
        exact extend step past state good messages (by simpa [AgentRun.actions] using member)
      · intro step past state next _ good continued
        exact ⟨round_dicts library host provider service agent connected definitions step state next good.1 continued,
          extend step past state good⟩
      · intro past state good messages member
        exact good.2 messages (by simpa [AgentRun.actions] using member)

end Conversations

def sampleProvider : OpenAICompatibleProvider where
  baseUrl := "http://127.0.0.1:9000/v1/"
  apiKey := "key"
  defaultModel := "model"
  located := by decide
  keyed := by decide
  named := by decide

def queryAnswer : String :=
  "\x7b\"choices\":[\x7b\"message\":\x7b\"content\":null,\"tool_calls\":[\x7b\"id\":\"call-1\",\"type\":\"function\"," ++
    "\"function\":\x7b\"name\":\"run_sql\",\"arguments\":\"\x7b\\\"sql\\\": \\\"SELECT 1\\\"\x7d\"\x7d\x7d]\x7d\x7d]\x7d"

-- It asks for a query, first with an error of the transport.
def sampleService : ModelService where
  post step _ attempt :=
    if step = 1 then if attempt = 0 then .raises ⟨"ConnectError", "refused"⟩ true else .responds 200 queryAnswer
    else .responds 200 "\x7b\"choices\":[\x7b\"message\":\x7b\"content\":\"done\"\x7d,\"finish_reason\":\"stop\"\x7d]\x7d"
  stream _ _ _ := .error ⟨"ConnectError", "refused"⟩

def sampleAgent : Agent where
  model := sampleProvider.chatModel sampleLibrary sampleService
  tools := (queryAgent "SELECT 1").tools
  config := { (queryAgent "SELECT 1").config with streamModel := false }

def requestAt (run : AgentRun) (index : Nat) : Option (List ChatMessage) :=
  match run.actions[index]? with
  | some (.request messages) => some messages
  | _ => none

theorem request_at_member (run : AgentRun) (index : Nat) (messages : List ChatMessage)
    (found : requestAt run index = some messages) : .request messages ∈ run.actions := by
  unfold requestAt at found
  split at found
  · rename_i there
    cases found
    exact List.mem_of_getElem? there
  · cases found

-- The second request carries the call and its answer.
theorem requests_read_back_query :
    ∃ messages, .request messages ∈ (stream sampleHost sampleAgent "How many rows?" none []).actions ∧
      messages.map (fun message => message.toolCalls.length) = [0, 1, 0] ∧
      readRequest sampleLibrary (dumps ⟨false, false⟩ (sampleProvider.chatPost messages [] false).body) =
        some (messages.map spoken) := by
  have second : (requestAt (stream sampleHost sampleAgent "How many rows?" none []) 4).map
      (fun messages => messages.map fun message => message.toolCalls.length) = some [0, 1, 0] := by decide +kernel
  obtain ⟨messages, found, calls⟩ := Option.map_eq_some_iff.mp second
  have requested := request_at_member _ 4 messages found
  exact ⟨messages, requested, calls, requests_read_back sampleLibrary sampleHost sampleProvider sampleService sampleAgent rfl
    "How many rows?" none [] (by simp) messages requested ⟨false, false⟩ [] false⟩

end DataPilot.Llm
