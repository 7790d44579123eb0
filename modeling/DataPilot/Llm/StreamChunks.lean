import DataPilot.Llm.OpenAiCompat

set_option autoImplicit false

namespace DataPilot.Llm

open DataPilot.Base DataPilot.Agent

-- What a chunk of the OpenAI format carries.
structure Chunk where
  content : Option String := none
  calls : List ToolCallDelta := []
  finishReason : Option String := none
  usage : Option TokenUsage := none

def Chunk.text (chunk : Chunk) : String := chunk.content.getD ""

def WritesText (value : Json) : Option String → Prop
  | none => value = .null
  | some text => value = .str text

def WritesFields (value : Json) (fields : Dict) : Prop := value = .obj fields ∨ value = .null ∧ fields = []

def WritesUsage (value : Json) : Option TokenUsage → Prop
  | none => value = .null
  | some usage => ∃ fields, value = .obj fields ∧ dictGet "prompt_tokens" fields = .int usage.inputTokens ∧
      dictGet "completion_tokens" fields = .int usage.outputTokens

def WritesCall (value : Json) (delta : ToolCallDelta) : Prop :=
  ∃ call function, value = .obj call ∧ dictGet "index" call = .int delta.index ∧ WritesText (dictGet "id" call) delta.id ∧
    WritesFields (dictGet "function" call) function ∧ WritesText (dictGet "name" function) delta.name ∧
    WritesText (dictGet "arguments" function) delta.argumentsDelta

def WritesCalls (value : Json) (calls : List ToolCallDelta) : Prop :=
  value = .null ∧ calls = [] ∨ ∃ items, value = .arr items ∧ List.Forall₂ WritesCall items calls

def WritesChoice (value : Json) (chunk : Chunk) : Prop :=
  ∃ choice delta, value = .obj choice ∧ WritesFields (dictGet "delta" choice) delta ∧
    WritesText (dictGet "content" delta) chunk.content ∧ WritesCalls (dictGet "tool_calls" delta) chunk.calls ∧
    WritesText (dictGet "finish_reason" choice) chunk.finishReason

def WritesChoices (value : Json) (chunk : Chunk) : Prop :=
  value = .arr [] ∧ chunk.content = none ∧ chunk.calls = [] ∧ chunk.finishReason = none ∨
    ∃ choice others, value = .arr (choice :: others) ∧ WritesChoice choice chunk

def Describes (payload : Json) (chunk : Chunk) : Prop :=
  ∃ fields, payload = .obj fields ∧ WritesUsage (dictGet "usage" fields) chunk.usage ∧
    WritesChoices (dictGet "choices" fields) chunk

def Chunk.event (chunk : Chunk) : Option StreamEvent :=
  match chunk.usage with
  | some usage => some (.usage (some usage))
  | none =>
      if chunk.text = "" then
        match chunk.calls with
        | delta :: _ => some (.toolCallDelta (some delta))
        | [] => if chunk.finishReason.getD "" = "" then none else some (.finish chunk.finishReason)
      else some (.textDelta chunk.content)

theorem dict_has_get (key : String) (fields : Dict) (present : dictGet key fields ≠ .null) : dictHas key fields = true := by
  induction fields with
  | nil => exact absurd rfl present
  | cons field rest ih =>
      obtain ⟨name, value⟩ := field
      rw [dictGet] at present
      by_cases same : name = key
      · simp [dictHas, same]
      · rw [if_neg same] at present
        have later := ih present
        rw [dictHas] at later ⊢
        rw [List.any_cons, later, Bool.or_true]

theorem optional_text_written (value : Json) (text : Option String) (written : WritesText value text) :
    optionalText value = some text := by
  cases text with
  | none =>
      rw [show value = .null from written]
      rfl
  | some text =>
      rw [show value = .str text from written]
      rfl

theorem or_else_written (value : Json) (fields : Dict) (written : WritesFields value fields) :
    orElse value (.obj []) = .obj fields := by
  rcases written with rfl | ⟨rfl, rfl⟩
  · cases fields <;> rfl
  · rfl

theorem text_truthy (value : Json) (text : Option String) (written : WritesText value text) :
    value.truthy = decide (text.getD "" ≠ "") := by
  cases text with
  | none =>
      rw [show value = .null from written]
      rfl
  | some text =>
      rw [show value = .str text from written]
      rfl

theorem text_str (value : Json) (text : Option String) (written : WritesText value text) (given : text.getD "" ≠ "") :
    some (pyStr value) = text := by
  cases text with
  | none => exact absurd rfl given
  | some text => rw [show value = .str text from written, pyStr]

variable (library : Library)

theorem parse_tool_call_written (call : Dict) (delta : ToolCallDelta) (written : WritesCall (.obj call) delta) :
    parseToolCall library call = .ok (.toolCallDelta (some delta)) := by
  obtain ⟨fields, function, same, index, id, functions, name, arguments⟩ := written
  obtain rfl := Json.obj.inj same
  have present : dictHas "index" call = true := dict_has_get _ _ (by simp [index])
  unfold parseToolCall
  rw [dictGetD, if_pos present, index, or_else_written _ _ functions]
  simp only [pyInt, asDict, toolCallDelta, optional_text_written _ _ id, optional_text_written _ _ name,
    optional_text_written _ _ arguments]
  simp [Except.map]

theorem parse_usage_written (fields : Dict) (usage : TokenUsage)
    (input : dictGet "prompt_tokens" fields = .int usage.inputTokens)
    (output : dictGet "completion_tokens" fields = .int usage.outputTokens) :
    parseUsage library fields = .ok (.usage (some usage)) := by
  have hasInput : dictHas "prompt_tokens" fields = true := dict_has_get _ _ (by simp [input])
  have hasOutput : dictHas "completion_tokens" fields = true := dict_has_get _ _ (by simp [output])
  unfold parseUsage
  rw [dictGetD, if_pos hasInput, dictGetD, if_pos hasOutput, input, output]
  simp [pyInt, tokenUsage, Except.map]

theorem parse_delta_written (choice delta : Dict) (chunk : Chunk) (unused : chunk.usage = none)
    (content : WritesText (dictGet "content" delta) chunk.content)
    (calls : WritesCalls (dictGet "tool_calls" delta) chunk.calls)
    (reason : WritesText (dictGet "finish_reason" choice) chunk.finishReason) :
    parseDelta library choice delta = .ok chunk.event := by
  unfold parseDelta Chunk.event
  rw [unused, text_truthy _ _ content]
  by_cases spoken : chunk.text = ""
  · rw [if_neg (by simpa [Chunk.text] using spoken)]
    dsimp only
    rw [if_pos spoken]
    rcases calls with ⟨absent, none⟩ | ⟨items, listed, written⟩
    · rw [absent, none, parseFinish, text_truthy _ _ reason]
      by_cases finished : chunk.finishReason.getD "" = ""
      · simp [Json.truthy, finished]
      · simp [Json.truthy, finished, text_str _ _ reason finished]
    · rw [listed]
      generalize chunk.calls = calls at written
      cases written with
      | nil =>
          rw [parseFinish, text_truthy _ _ reason]
          by_cases finished : chunk.finishReason.getD "" = ""
          · simp [Json.truthy, finished]
          · simp [Json.truthy, finished, text_str _ _ reason finished]
      | @cons item delta items deltas first _ =>
          obtain ⟨call, _, rfl, _⟩ := id first
          simp [Json.truthy, firstItem, asDict, parse_tool_call_written library call delta first, Except.map]
  · rw [if_pos (by simpa [Chunk.text] using spoken), text_str _ _ content spoken]
    dsimp only
    rw [if_neg spoken]

theorem parse_payload_written (payload : Json) (chunk : Chunk) (described : Describes payload chunk) :
    parsePayload library payload = .ok chunk.event := by
  obtain ⟨fields, rfl, usage, choices⟩ := described
  dsimp only [parsePayload, asDict]
  cases spent : chunk.usage with
  | some used =>
      rw [spent] at usage
      obtain ⟨spending, listed, input, output⟩ := usage
      have given : (dictGet "usage" fields).truthy = true := by
        rw [listed]
        cases spending with
        | nil => cases input
        | cons => rfl
      rw [if_pos given, listed]
      dsimp only
      rw [parse_usage_written library spending used input output, Chunk.event, spent]
      rfl
  | none =>
      rw [spent] at usage
      rw [show dictGet "usage" fields = .null from usage, if_neg (by decide), parseChoices]
      rcases choices with ⟨empty, silent, uncalled, unfinished⟩ | ⟨choice, others, listed, written⟩
      · rw [if_pos (dict_has_get _ _ (by simp [empty])), empty, Chunk.event, spent, uncalled, unfinished]
        simp [firstItem, Chunk.text, silent]
      · obtain ⟨choice, delta, rfl, deltas, content, calls, reason⟩ := written
        rw [if_pos (dict_has_get _ _ (by simp [listed])), listed]
        dsimp only [firstItem, asDict]
        rw [or_else_written _ _ deltas]
        exact parse_delta_written library choice delta chunk spent content calls reason

inductive Feeds : List String → List Chunk → Prop where
  | ends : Feeds [] []
  | done (line : String) (rest : List String) (said : lineData line = some "[DONE]") : Feeds (line :: rest) []
  | other (line : String) (rest : List String) (chunks : List Chunk) (silent : (lineData line).getD "" = "")
      (later : Feeds rest chunks) : Feeds (line :: rest) chunks
  | chunk (line data : String) (payload : Json) (chunk : Chunk) (rest : List String) (chunks : List Chunk)
      (said : lineData line = some data) (loaded : loads data = some payload) (described : Describes payload chunk)
      (later : Feeds rest chunks) : Feeds (line :: rest) (chunk :: chunks)

theorem read_lines_feeds (lines : List String) (chunks : List Chunk) (feeds : Feeds lines chunks) (emitted : Bool) :
    (readLines library emitted lines).1 = chunks.filterMap Chunk.event ∧
      ∀ failure, (readLines library emitted lines).2 ≠ .raised failure := by
  induction feeds generalizing emitted with
  | ends => simp [readLines]
  | done line rest said => simp [readLines, said]
  | other line rest chunks silent later ih =>
      rw [readLines]
      cases said : lineData line with
      | none => exact ih emitted
      | some data =>
          rw [said] at silent
          dsimp only
          rw [if_pos (show data = "" from silent)]
          exact ih emitted
  | chunk line data payload chunk rest chunks said loaded described later ih =>
      have given : data ≠ "" := by
        rintro rfl
        have nothing : (loads "").isSome = false := by decide +kernel
        simp [loaded] at nothing
      have goes : data ≠ "[DONE]" := by
        rintro rfl
        have nothing : (loads "[DONE]").isSome = false := by decide +kernel
        simp [loaded] at nothing
      have parsed : parseStreamChunk library data = .ok chunk.event := by
        rw [parseStreamChunk, loaded]
        exact parse_payload_written library payload chunk described
      rw [readLines, said]
      dsimp only
      rw [if_neg given, if_neg goes, parsed]
      obtain ⟨events, ended⟩ := ih true
      refine ⟨?_, ended⟩
      dsimp only
      rw [events, List.filterMap_cons]
      cases chunk.event <;> rfl

def Served (answers : Nat → Except PyException HttpAnswer) (left attempt : Nat) (chunks : List Chunk) : Prop :=
  ∃ tries ≤ left, (∀ earlier < tries, attemptStream library false (answers (attempt + earlier)) = none) ∧
    ∃ answer, answers (attempt + tries) = .ok answer ∧ answer.status ∉ retryableStatusCodes ∧
      answer.statusError = none ∧ answer.broken = none ∧ Feeds answer.lines chunks

theorem attempt_stream_feeds (last : Bool) (answer : HttpAnswer) (chunks : List Chunk)
    (accepted : answer.status ∉ retryableStatusCodes) (fine : answer.statusError = none) (whole : answer.broken = none)
    (feeds : Feeds answer.lines chunks) :
    attemptStream library last (.ok answer) = some ⟨chunks.filterMap Chunk.event, none⟩ := by
  obtain ⟨events, ended⟩ := read_lines_feeds library answer.lines chunks feeds false
  dsimp only [attemptStream]
  have taken : answer.rejection = none := by rw [HttpAnswer.rejection, if_neg accepted, fine]
  rw [if_neg fun retried => accepted retried.1, taken]
  dsimp only
  rw [whole, events]
  cases stopped : (readLines library false answer.lines).2 with
  | raised failure => exact absurd stopped (ended failure)
  | _ => rfl

theorem chat_stream_served (answers : Nat → Except PyException HttpAnswer) (left attempt : Nat) (chunks : List Chunk)
    (served : Served library answers left attempt chunks) :
    chatStream library answers left attempt = ⟨chunks.filterMap Chunk.event, none⟩ := by
  induction left generalizing attempt with
  | zero =>
      obtain ⟨tries, few, _, answer, answered, accepted, fine, whole, feeds⟩ := served
      obtain rfl := Nat.le_zero.mp few
      rw [chatStream, ← Nat.add_zero attempt, answered, attempt_stream_feeds library true answer chunks accepted fine whole feeds]
      rfl
  | succ left ih =>
      obtain ⟨tries, few, failed, answer, answered, accepted, fine, whole, feeds⟩ := served
      cases tries with
      | zero =>
          rw [chatStream, ← Nat.add_zero attempt, answered,
            attempt_stream_feeds library false answer chunks accepted fine whole feeds]
      | succ tries =>
          have again : attemptStream library false (answers attempt) = none := failed 0 (Nat.succ_pos tries)
          rw [chatStream, again]
          refine ih (attempt + 1) ⟨tries, Nat.le_of_succ_le_succ few, fun earlier before => ?_, answer, ?_, accepted, fine,
            whole, feeds⟩
          · rw [Nat.add_assoc, Nat.add_comm 1]
            exact failed (earlier + 1) (Nat.succ_lt_succ before)
          · rw [Nat.add_assoc, Nat.add_comm 1]
            exact answered

end DataPilot.Llm
