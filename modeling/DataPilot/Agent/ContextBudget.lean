import DataPilot.Agent.Recompaction
import DataPilot.Base.JsonSize

set_option autoImplicit false

namespace DataPilot.Agent

open DataPilot.Base DataPilot.Tools

def quotedChars (text : String) : Nat := textSize false text

def fieldChars (key : String) (fields : Dict) : Nat := jsonSize false (dictGet key fields)

def columnChars : Json → Option Nat
  | .obj column => some (objectChars [("name", fieldChars "name" column), ("data_type", fieldChars "data_type" column)])
  | _ => none

def sampleRowsChars (includeRows : Bool) (result : Dict) : List (String × Nat) :=
  match includeRows, dictGet "rows" result with
  | true, .arr rows => [("sample_rows", arrayChars ((rows.take 2).map (jsonSize false)))]
  | _, _ => []

-- What a summary takes of a result that is a dict, by tool.
def resultChars (toolName : String) (result : Dict) (includeRows : Bool) : Nat :=
  if toolName ∈ sqlToolNames then
    objectChars ([("columns", fieldChars "columns" result), ("row_count", fieldChars "row_count" result),
      ("truncated", fieldChars "truncated" result)] ++ sampleRowsChars includeRows result)
  else if toolName = "get_schema" then
    objectChars [("table_name", fieldChars "table_name" result),
      ("columns", arrayChars ((listItems (dictGet "columns" result)).filterMap columnChars))]
  else if toolName = "list_tables" then
    objectChars [("tables", fieldChars "tables" result), ("count", fieldChars "count" result)]
  else if toolName = "run_python" then
    objectChars [("ok", fieldChars "ok" result), ("stdout", quotedChars (textOrEmpty (dictGet "stdout" result))),
      ("stderr", quotedChars (textOrEmpty (dictGet "stderr" result))), ("truncated", fieldChars "truncated" result),
      ("artifact_count", (Nat.toDigits 10 (listItems (dictGet "artifacts" result)).length).length)]
  else quotedChars (slice (pyStr (.obj result)) 500)

def payloadChars (toolName : String) (payload : Dict) (includeRows : Bool) : Nat :=
  match dictGet "result" payload with
  | .obj result => resultChars toolName result includeRows
  | result => quotedChars (slice (pyStr result) 500)

section Contents

variable (loads : JsonLoads)

-- A tool result by its tool and content: true, the tool's name, and a preview or
-- ok and the summary.
def summarizedChars (toolName content : String) (includeRows : Bool) : Nat :=
  match loads content with
  | .ok (.obj payload) =>
      objectChars [("compacted", 4), ("tool", quotedChars toolName), ("ok", fieldChars "ok" payload),
        ("summary", payloadChars toolName payload includeRows)]
  | _ => objectChars [("compacted", 4), ("tool", quotedChars toolName), ("preview", quotedChars (slice content 500))]

-- One that both passes compact has "None" for a summary, and ok of what was read.
def twiceChars (toolName content : String) : Nat :=
  match loads content with
  | .ok (.obj payload) =>
      objectChars [("compacted", 4), ("tool", quotedChars toolName), ("ok", fieldChars "ok" payload), ("summary", 6)]
  | _ => objectChars [("compacted", 4), ("tool", quotedChars toolName), ("ok", 4), ("summary", 6)]

end Contents

def sumSizes (size : Nat → ChatMessage → Nat) (messages : List ChatMessage) : Nat :=
  (messages.zipIdx.map fun entry => size entry.2 entry.1).sum

def ChatMessage.toolName (message : ChatMessage) : String := orElseText (message.name.getD "") "tool"

section Sizes

variable (loads : JsonLoads) (config : AgentConfig) (messages : List ChatMessage) (index : Nat) (message : ChatMessage)

def firstSize : Nat :=
  if message.role = .tool ∧ config.keepRecentToolResults ≤ laterCount isTool messages index then
    summarizedChars loads message.toolName message.text true
  else message.text.length

def protectedSize : Nat :=
  if message.role ≠ .tool ∧ (message.role = .system ∨ laterCount isNonTool messages index < 6) then message.text.length
  else 0

def shortenedSize : Nat :=
  if message.role = .tool ∨ message.role = .system ∨ laterCount isNonTool messages index < 6 then 0
  else min 500 message.text.length

def summarySize : Nat :=
  if message.role = .tool then
    if config.keepRecentToolResults ≤ laterCount isTool messages index then twiceChars loads message.toolName message.text
    else summarizedChars loads message.toolName message.text false
  else 0

end Sizes

section Budget

variable (loads : JsonLoads) (config : AgentConfig) (messages : List ChatMessage)

def firstPassChars : Nat := sumSizes (firstSize loads config messages) messages

def protectedChars : Nat := sumSizes (protectedSize messages) messages

def shortenedChars : Nat := sumSizes (shortenedSize messages) messages

def summaryChars : Nat := sumSizes (summarySize loads config messages) messages

end Budget

theorem object_chars (fields : Dict) (full : fields ≠ []) (plain : PlainKeys false (fields.map Prod.fst)) :
    (dumps compactStyle (.obj fields)).length = objectChars (fields.map fun field => (field.1, jsonSize false field.2)) := by
  rw [compactStyle, dumps_length, object_size false fields full plain]

theorem column_size (item : Json) : (columnSummary item).map (jsonSize false) = columnChars item := by
  have keys : PlainKeys false ["name", "data_type"] := by decide
  cases item with
  | obj column => exact congrArg some (object_size false _ (List.cons_ne_nil _ _) keys)
  | _ => rfl

theorem columns_size (items : List Json) :
    (items.filterMap columnSummary).map (jsonSize false) = items.filterMap columnChars := by
  rw [List.map_filterMap, funext column_size]

theorem sample_rows_size (includeRows : Bool) (result : Dict) :
    ((sampleRows includeRows result).map fun field => (field.1, jsonSize false field.2)) =
      sampleRowsChars includeRows result := by
  unfold sampleRows sampleRowsChars
  cases includeRows with
  | false => rfl
  | true =>
      cases dictGet "rows" result with
      | arr rows => exact congrArg (fun size => [("sample_rows", size)]) (array_size false (rows.take 2))
      | _ => rfl

theorem sample_rows_keys (includeRows : Bool) (result : Dict) :
    PlainKeys false ((sampleRows includeRows result).map Prod.fst) := by
  have sampled : PlainKeys false ["sample_rows"] := by decide
  unfold sampleRows
  cases includeRows with
  | false => exact fun key member => absurd member List.not_mem_nil
  | true =>
      cases dictGet "rows" result with
      | arr rows => exact sampled
      | _ => exact fun key member => absurd member List.not_mem_nil

theorem sql_size (result : Dict) (includeRows : Bool) :
    jsonSize false (.obj ([("columns", dictGet "columns" result), ("row_count", dictGet "row_count" result),
      ("truncated", dictGet "truncated" result)] ++ sampleRows includeRows result)) =
        objectChars ([("columns", fieldChars "columns" result), ("row_count", fieldChars "row_count" result),
          ("truncated", fieldChars "truncated" result)] ++ sampleRowsChars includeRows result) := by
  have plain : PlainKeys false ["columns", "row_count", "truncated"] := by decide
  refine (object_size false _ (by simp) ?_).trans ?_
  · rw [List.map_append]
    intro key member
    exact (List.mem_append.mp member).elim (plain key) (sample_rows_keys includeRows result key)
  · rw [List.map_append, sample_rows_size]
    rfl

theorem result_size (toolName : String) (result : Dict) (includeRows : Bool) :
    jsonSize false (resultSummary toolName result includeRows) = resultChars toolName result includeRows := by
  have schema : PlainKeys false ["table_name", "columns"] := by decide
  have listed : PlainKeys false ["tables", "count"] := by decide
  have ran : PlainKeys false ["ok", "stdout", "stderr", "truncated", "artifact_count"] := by decide
  unfold resultSummary resultChars
  by_cases sql : toolName ∈ sqlToolNames
  · rw [if_pos sql, if_pos sql]
    exact sql_size result includeRows
  rw [if_neg sql, if_neg sql]
  by_cases described : toolName = "get_schema"
  · rw [if_pos described, if_pos described]
    refine (object_size false [("table_name", _), ("columns", _)] (List.cons_ne_nil _ _) schema).trans ?_
    rw [List.map_cons, List.map_cons, List.map_nil, array_size, columns_size]
    rfl
  rw [if_neg described, if_neg described]
  by_cases tables : toolName = "list_tables"
  · rw [if_pos tables, if_pos tables]
    exact object_size false _ (List.cons_ne_nil _ _) listed
  rw [if_neg tables, if_neg tables]
  by_cases python : toolName = "run_python"
  · rw [if_pos python, if_pos python]
    exact object_size false _ (List.cons_ne_nil _ _) ran
  · rw [if_neg python, if_neg python]
    rfl

theorem payload_size (toolName : String) (payload : Dict) (includeRows : Bool) :
    jsonSize false (payloadSummary toolName payload includeRows) = payloadChars toolName payload includeRows := by
  unfold payloadSummary payloadChars
  cases dictGet "result" payload with
  | obj result => exact result_size toolName result includeRows
  | _ => rfl

theorem preview_size (toolName content : String) :
    (dumps compactStyle (.obj (previewFields toolName (slice content 500)))).length =
      objectChars [("compacted", 4), ("tool", quotedChars toolName), ("preview", quotedChars (slice content 500))] := by
  have keys : PlainKeys false ["compacted", "tool", "preview"] := by decide
  exact object_chars _ (List.cons_ne_nil _ _) keys

theorem compacted_size (toolName : String) (ok summary : Json) :
    (dumps compactStyle (.obj (compactedFields toolName ok summary))).length =
      objectChars [("compacted", 4), ("tool", quotedChars toolName), ("ok", jsonSize false ok),
        ("summary", jsonSize false summary)] := by
  have keys : PlainKeys false ["compacted", "tool", "ok", "summary"] := by decide
  exact object_chars _ (List.cons_ne_nil _ _) keys

theorem summarized_size (loads : JsonLoads) (toolName content compacted : String) (includeRows : Bool)
    (done : compactToolContent loads toolName content includeRows = .ok compacted) :
    compacted.length = summarizedChars loads toolName content includeRows := by
  rcases (compact_ok_iff loads toolName content includeRows).mp ⟨compacted, done⟩ with unread | ⟨payload, loaded⟩
  · rw [compact_unread loads toolName content includeRows unread, Except.ok.injEq] at done
    rw [← done, preview_size, summarizedChars, unread]
  · rw [compact_payload loads toolName content includeRows payload loaded, Except.ok.injEq] at done
    rw [← done, compacted_size, payload_size, summarizedChars, loaded]
    rfl

theorem twice_size (loads : JsonLoads) (lawful : ReadsBack loads) (toolName content once twice : String)
    (first : compactToolContent loads toolName content true = .ok once)
    (second : compactToolContent loads toolName once false = .ok twice) :
    twice.length = twiceChars loads toolName content := by
  have both : (compactToolContent loads toolName content true).bind
      (fun once => compactToolContent loads toolName once false) = .ok twice := by rw [first, Except.bind, second]
  have absent : jsonSize false (.str "None") = 6 := by decide
  rcases (compact_ok_iff loads toolName content true).mp ⟨once, first⟩ with unread | ⟨payload, loaded⟩
  · rw [recompact_unread lawful toolName content unread, Except.ok.injEq] at both
    rw [← both, compacted_size, absent, twiceChars, unread]
    rfl
  · rw [recompact_payload lawful toolName content payload loaded, Except.ok.injEq] at both
    rw [← both, compacted_size, absent, twiceChars, loaded]
    rfl

theorem total_sizes (size : Nat → ChatMessage → Nat) (messages result : List ChatMessage)
    (sized : result.length = messages.length)
    (each : ∀ index message, messages[index]? = some message →
      ∃ after, result[index]? = some after ∧ after.text.length = size index message) :
    totalChars result = sumSizes size messages := by
  rw [totalChars, sumSizes]
  congr 1
  apply List.ext_getElem?
  intro index
  rw [List.getElem?_map, List.getElem?_map, List.getElem?_zipIdx]
  cases found : messages[index]? with
  | none =>
      rw [List.getElem?_eq_none (sized ▸ List.getElem?_eq_none_iff.mp found)]
      rfl
  | some message =>
      obtain ⟨after, there, length⟩ := each index message found
      rw [there]
      simpa using length

theorem sum_sizes_add (first second : Nat → ChatMessage → Nat) (messages : List ChatMessage) :
    sumSizes (fun index message => first index message + second index message) messages =
      sumSizes first messages + sumSizes second messages := by
  rw [sumSizes, sumSizes, sumSizes]
  induction messages.zipIdx with
  | nil => rfl
  | cons entry rest ih =>
      simp only [List.map_cons, List.sum_cons, ih]
      omega

section Passes

variable {loads : JsonLoads} (config : AgentConfig) (messages once compacted : List ChatMessage)

theorem first_pass_chars (first : FirstPass loads config messages once) :
    totalChars once = firstPassChars loads config messages := by
  apply total_sizes _ messages once first.sized
  intro index message found
  by_cases old : OldTool config messages index message
  · obtain ⟨after, there, rewritten⟩ := first.old index message found old
    have content := compact_message_text loads message after true rewritten
    refine ⟨after, there, ?_⟩
    rw [OldTool] at old
    rw [firstSize, if_pos old, summarized_size loads _ _ _ true content, ChatMessage.toolName]
  · refine ⟨message, first.others index message found old, ?_⟩
    rw [OldTool] at old
    rw [firstSize, if_neg old]

theorem cut_size (message : ChatMessage) : message.cut.text.length = min 500 message.text.length := by
  obtain ⟨role, content, name, toolCallId, toolCalls⟩ := message
  cases content with
  | none => rfl
  | some text =>
      rw [ChatMessage.cut, ChatMessage.text, ChatMessage.text]
      rw [Option.map_some, Option.getD_some, Option.getD_some, slice, String.length_ofList, List.length_take,
        String.length_toList]

theorem second_pass_chars (lawful : ReadsBack loads) (first : FirstPass loads config messages once)
    (second : SecondPass loads messages once compacted) :
    totalChars compacted = protectedChars messages + shortenedChars messages + summaryChars loads config messages := by
  rw [protectedChars, shortenedChars, summaryChars, ← sum_sizes_add, ← sum_sizes_add]
  apply total_sizes _ messages compacted second.sized
  intro index message found
  by_cases tool : message.role = .tool
  · obtain ⟨before, after, there, compactedThere, again⟩ := second.tools index message found tool
    have content := compact_message_text loads before after false again
    refine ⟨after, compactedThere, ?_⟩
    have unprotected : protectedSize messages index message = 0 := if_neg fun safe => safe.1 tool
    have uncut : shortenedSize messages index message = 0 := if_pos (.inl tool)
    rw [unprotected, uncut, Nat.zero_add, summarySize, if_pos tool]
    by_cases many : config.keepRecentToolResults ≤ laterCount isTool messages index
    · obtain ⟨changed, onceThere, rewritten⟩ := first.old index message found ⟨tool, many⟩
      obtain rfl : before = changed := Option.some.inj (there.symm.trans onceThere)
      rw [(compact_message_frame loads message before true rewritten).2.1] at content
      have earlier := compact_message_text loads message before true rewritten
      rw [if_pos many, twice_size loads lawful _ _ _ _ earlier content, ChatMessage.toolName]
    · have same := first.others index message found fun old => many old.2
      obtain rfl : before = message := Option.some.inj (there.symm.trans same)
      rw [if_neg many, summarized_size loads _ _ _ false content, ChatMessage.toolName]
  · have unread : summarySize loads config messages index message = 0 := if_neg tool
    rw [unread, Nat.add_zero]
    by_cases safe : message.role = .system ∨ laterCount isNonTool messages index < 6
    · have kept : message.role = .system ∨ RecentNonTool messages index message :=
        safe.imp_right fun few => ⟨tool, few⟩
      have whole : protectedSize messages index message = message.text.length := if_pos ⟨tool, safe⟩
      have uncut : shortenedSize messages index message = 0 := if_pos (.inr safe)
      exact ⟨message, second.protects index message found kept, by rw [whole, uncut, Nat.add_zero]⟩
    · have unprotected : protectedSize messages index message = 0 := if_neg fun both => safe both.2
      have shortened : shortenedSize messages index message = min 500 message.text.length :=
        if_neg (not_or.mpr ⟨tool, safe⟩)
      rw [unprotected, shortened, Nat.zero_add]
      rw [not_or] at safe
      refine ⟨message.cut, second.cuts index message found tool safe.1 ?_, cut_size message⟩
      exact fun recent => safe.2 recent.2

end Passes

theorem context_budget_iff (interpreter : Interpreter) (lawful : ReadsBack interpreter.loads) (config : AgentConfig)
    (messages compacted : List ChatMessage) (done : compactedMessages interpreter config messages = .ok compacted) :
    totalChars compacted ≤ config.contextCharBudget ↔
      firstPassChars interpreter.loads config messages ≤ config.contextCharBudget ∨
        protectedChars messages + shortenedChars messages + summaryChars interpreter.loads config messages ≤
          config.contextCharBudget := by
  obtain ⟨once, first, _, ways⟩ := passes_ways interpreter.loads config messages compacted
    (compacted_copied interpreter config messages compacted done).2
  rw [← first_pass_chars config messages once first]
  rcases ways with ⟨fits, rfl⟩ | ⟨exceeds, second⟩
  · exact ⟨fun _ => .inl fits, fun _ => fits⟩
  · rw [second_pass_chars config messages once compacted lawful first second]
    exact (or_iff_right (Nat.not_le.mpr exceeds)).symm

section Sample

def emptyMessage : ChatMessage := { role := .user, content := some "" }

def askedAt (length : Nat) : ChatMessage := { role := .user, content := some (String.ofList (List.replicate length 'a')) }

def countResult : ChatMessage := { role := .tool, name := some "run_sql", content := some countContent }

def tightBudget : AgentConfig :=
  { leastBudget with keepRecentToolResults := 1, recentToolResults := oneRecent.recentToolResults }

def plainInterpreter : Interpreter where
  loads := readJson
  copyRaises _ := none

def countTalk : List ChatMessage := askedAt 5000 :: countResult :: countResult :: List.replicate 6 emptyMessage

-- Nine old questions of 500 characters before six empty messages.
def longTalk : List ChatMessage := List.replicate 9 (askedAt 500) ++ List.replicate 6 emptyMessage

theorem asked_length (length : Nat) : (askedAt length).text.length = length := by
  rw [askedAt, ChatMessage.text, Option.getD_some, String.length_ofList, List.length_replicate]

theorem talk_compacted (config : AgentConfig) (messages : List ChatMessage)
    (serialized : ∀ message ∈ messages, message.role = .tool → Serialized message.text) :
    ∃ compacted, compactedMessages plainInterpreter config messages = .ok compacted := by
  have readable : ∀ (index : Nat) (message : ChatMessage), messages[index]? = some message → message.role = .tool →
      ObjectOrNone readJson message.text := fun index message found tool =>
    serialized_object message.text (serialized message (List.mem_of_getElem? found) tool)
  apply (compacted_ok_iff plainInterpreter (reads_summaries readJson fun _ => rfl) config messages).mpr
  exact {
    copies := fun _ _ => rfl
    old := fun index message found old => readable index message found old.1
    recent := fun _ _ _ index message found tool _ => readable index message found tool }

theorem count_loaded : readJson countContent = .ok (.obj countPayload) := by
  have settled : SettledFields countPayload := by
    constructor
    · decide
    · simp [countPayload, mergeKeys, mergeFields, mergeItems, dictSet]
  exact (read_json_object _ _).mpr (object_read countPayload settled)

theorem count_chars :
    summarizedChars readJson "run_sql" countContent false = 105 ∧ twiceChars readJson "run_sql" countContent = 62 := by
  constructor
  · rw [summarizedChars, count_loaded]
    decide +kernel
  · rw [twiceChars, count_loaded]
    decide +kernel

theorem count_talk_sizes :
    protectedChars countTalk = 0 ∧ shortenedChars countTalk = 500 ∧
      summaryChars plainInterpreter.loads tightBudget countTalk = 167 := by
  have empty : emptyMessage.text.length = 0 := rfl
  have asked : (askedAt 5000).role = .user := rfl
  have silent : emptyMessage.role = .user := rfl
  have counted : countResult.role = .tool ∧ countResult.toolName = "run_sql" ∧ countResult.text = countContent :=
    ⟨rfl, rfl, rfl⟩
  have kinds : isNonTool (askedAt 5000) = true ∧ isNonTool emptyMessage = true ∧ isNonTool countResult = false :=
    ⟨rfl, rfl, rfl⟩
  have tools : isTool (askedAt 5000) = false ∧ isTool emptyMessage = false ∧ isTool countResult = true := ⟨rfl, rfl, rfl⟩
  have kept : tightBudget.keepRecentToolResults = 1 := rfl
  have reads : plainInterpreter.loads = readJson := rfl
  obtain ⟨once, twice⟩ := count_chars
  refine ⟨?_, ?_, ?_⟩
  · simp [protectedChars, sumSizes, protectedSize, laterCount, countTalk, List.replicate, asked, silent, counted, kinds, empty]
  · simp [shortenedChars, sumSizes, shortenedSize, laterCount, countTalk, List.replicate, asked, silent, counted, kinds,
      asked_length]
  · simp [summaryChars, sumSizes, summarySize, laterCount, countTalk, List.replicate, asked, silent, counted, tools, kept, reads,
      once, twice]

end Sample

theorem context_budget_iff_counts :
    ∃ compacted, compactedMessages plainInterpreter tightBudget countTalk = .ok compacted ∧
      totalChars compacted ≤ tightBudget.contextCharBudget := by
  have serialized : ∀ message ∈ countTalk, message.role = .tool → Serialized message.text := by
    intro message member tool
    simp only [countTalk, List.mem_cons, List.mem_replicate] at member
    rcases member with rfl | rfl | rfl | ⟨_, rfl⟩
    · cases tool
    · exact serialized_whole countPayload
    · exact serialized_whole countPayload
    · cases tool
  obtain ⟨compacted, done⟩ := talk_compacted tightBudget countTalk serialized
  obtain ⟨safe, shortened, summaries⟩ := count_talk_sizes
  have fits : protectedChars countTalk + shortenedChars countTalk +
      summaryChars plainInterpreter.loads tightBudget countTalk ≤ tightBudget.contextCharBudget := by
    rw [safe, shortened, summaries]
    decide
  exact ⟨compacted, done,
    (context_budget_iff plainInterpreter read_json_back tightBudget countTalk compacted done).mpr (.inr fits)⟩

theorem long_talk_sizes :
    protectedChars longTalk = 0 ∧ shortenedChars longTalk = 4500 ∧ summaryChars readJson leastBudget longTalk = 0 ∧
      firstPassChars readJson leastBudget longTalk = 4500 := by
  have empty : emptyMessage.text.length = 0 := rfl
  have asked : (askedAt 500).role = .user := rfl
  have silent : emptyMessage.role = .user := rfl
  have counted : isNonTool (askedAt 500) = true ∧ isNonTool emptyMessage = true := ⟨rfl, rfl⟩
  refine ⟨?_, ?_, ?_, ?_⟩
  · simp [protectedChars, sumSizes, protectedSize, laterCount, longTalk, List.replicate, asked, silent, counted, empty]
  · simp [shortenedChars, sumSizes, shortenedSize, laterCount, longTalk, List.replicate, asked, silent, counted, asked_length]
  · simp [summaryChars, sumSizes, summarySize, longTalk, List.replicate, asked, silent]
  · simp [firstPassChars, sumSizes, firstSize, longTalk, List.replicate, asked, silent, empty, asked_length]

-- What may not be cut fits the budget, what is left of the rest does not.
theorem long_talk_over :
    ∃ compacted, compactedMessages plainInterpreter leastBudget longTalk = .ok compacted ∧
      protectedChars longTalk ≤ leastBudget.contextCharBudget ∧ leastBudget.contextCharBudget < totalChars compacted := by
  have budget : leastBudget.contextCharBudget = 4000 := rfl
  have plain : ∀ message ∈ longTalk, message.role = .tool → Serialized message.text := by
    intro message member tool
    rcases List.mem_append.mp member with asked | silent
    · rw [List.eq_of_mem_replicate asked] at tool
      cases tool
    · rw [List.eq_of_mem_replicate silent] at tool
      cases tool
  obtain ⟨compacted, done⟩ := talk_compacted leastBudget longTalk plain
  obtain ⟨safe, shortened, summaries, before⟩ := long_talk_sizes
  refine ⟨compacted, done, by omega, ?_⟩
  obtain ⟨once, first, _, ways⟩ := passes_ways readJson leastBudget longTalk compacted
    (compacted_copied plainInterpreter leastBudget longTalk compacted done).2
  have firstChars := first_pass_chars leastBudget longTalk once first
  rcases ways with ⟨fits, _⟩ | ⟨_, second⟩
  · omega
  · have secondChars := second_pass_chars leastBudget longTalk once compacted read_json_back first second
    omega

end DataPilot.Agent
