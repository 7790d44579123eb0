import DataPilot.Agent.CompactionFrame

set_option autoImplicit false

namespace DataPilot.Agent

open DataPilot.Base DataPilot.Tools

-- Compacting a content that is compacted already gives what compacting the
-- content itself without sample rows gives.
def Recompacts (toolName content : String) : Prop :=
  (compactToolContent readJson toolName content true).bind (fun once => compactToolContent readJson toolName once false) =
    compactToolContent readJson toolName content false

-- A whole result object without a result, or with the text "None" for one.
def NoResult (content : String) : Prop :=
  ∃ payload, loads content = some (.obj payload) ∧
    (dictGet "result" payload = .null ∨ dictGet "result" payload = .str "None")

def compactedFields (toolName : String) (ok summary : Json) : Dict :=
  [("compacted", .bool true), ("tool", .str toolName), ("ok", ok), ("summary", summary)]

def previewFields (toolName preview : String) : Dict :=
  [("compacted", .bool true), ("tool", .str toolName), ("preview", .str preview)]

theorem slice_none_iff (text : String) : slice text 500 = "None" ↔ text = "None" := by
  constructor
  · intro same
    have short : (slice text 500).length = 4 := by rw [same]; rfl
    have sized : (slice text 500).length = min 500 text.length := by
      rw [slice, String.length_ofList, List.length_take, String.length_toList]
    rw [← same, slice_full text 500 (by omega)]
  · rintro rfl
    rfl

theorem repr_none_iff (value : Json) : reprJson value = ['N', 'o', 'n', 'e'] ↔ value = .null := by
  constructor
  · intro same
    cases value with
    | null => rfl
    | bool flag => cases flag <;> cases same
    | int number =>
        rw [reprJson] at same
        have scanned := scan_number_int number
        rw [same] at scanned
        cases scanned
    | float number =>
        obtain ⟨text, literal⟩ := number
        rw [reprJson, reprFloat] at same
        split at same
        · cases same
        split at same
        · cases same
        split at same
        · cases same
        · obtain rfl : text = "None" := String.toList_inj.mp same
          exact absurd literal (by decide)
    | str text =>
        rw [reprJson, reprString] at same
        have head := (List.cons.inj same).1
        split at head <;> cases head
    | arr items => cases items <;> cases same
    | obj fields => cases fields <;> cases same
  · rintro rfl
    rfl

theorem py_str_none (value : Json) : pyStr value = "None" ↔ value = .null ∨ value = .str "None" := by
  by_cases text : ∃ text, value = .str text
  · obtain ⟨text, rfl⟩ := text
    simp [pyStr]
  · have written : pyStr value = String.ofList (reprJson value) := by
      cases value with
      | str other => exact absurd ⟨other, rfl⟩ text
      | _ => rfl
    rw [written, ← repr_none_iff, or_iff_left (fun same => text ⟨_, same⟩)]
    constructor
    · intro same
      have characters := congrArg String.toList same
      rwa [String.toList_ofList] at characters
    · exact fun same => (congrArg String.ofList same).trans rfl

theorem summary_none_iff (toolName : String) (payload : Dict) :
    payloadSummary toolName payload false = .str "None" ↔
      (dictGet "result" payload = .null ∨ dictGet "result" payload = .str "None") := by
  rw [← py_str_none]
  unfold payloadSummary
  split
  · rename_i result object
    rw [object]
    unfold resultSummary
    have apart : pyStr (.obj result) ≠ "None" := by simp [py_str_none]
    repeat' split
    all_goals simp only [apart, iff_false]
    · exact Json.noConfusion
    · exact Json.noConfusion
    · exact Json.noConfusion
    · exact Json.noConfusion
    · rw [Json.str.injEq, slice_none_iff]
      exact apart
  · rw [Json.str.injEq, slice_none_iff]

theorem object_read (fields : Dict) (settled : SettledFields fields) :
    loads (dumps compactStyle (.obj fields)) = some (.obj fields) := by
  rw [loads_dumps, settled_merged fields settled]

theorem preview_read (toolName preview : String) :
    loads (dumps compactStyle (.obj (previewFields toolName preview))) = some (.obj (previewFields toolName preview)) := by
  apply object_read
  constructor
  · simp [previewFields]
  · simp [previewFields, mergeKeys]

theorem compacted_read (toolName : String) (ok summary : Json) (merged : mergeKeys ok = ok) :
    ∃ read, loads (dumps compactStyle (.obj (compactedFields toolName ok summary))) = some (.obj read) ∧
      dictGet "ok" read = ok ∧ dictGet "result" read = .null := by
  refine ⟨compactedFields toolName ok (mergeKeys summary), ?_, rfl, rfl⟩
  rw [loads_dumps, compactedFields, mergeKeys]
  simp [mergeFields, dictSet, mergeKeys, merged, compactedFields]

section Reading

variable (loads : JsonLoads)

theorem compact_unread (toolName content : String) (includeRows : Bool) (unread : loads content = .error .decode) :
    compactToolContent loads toolName content includeRows =
      .ok (dumps compactStyle (.obj (previewFields toolName (slice content 500)))) := by
  simp only [compactToolContent, unread, previewFields]

theorem compact_payload (toolName content : String) (includeRows : Bool) (payload : Dict)
    (loaded : loads content = .ok (.obj payload)) :
    compactToolContent loads toolName content includeRows =
      .ok (dumps compactStyle (.obj (compactedFields toolName (dictGet "ok" payload)
        (payloadSummary toolName payload includeRows)))) := by
  simp only [compactToolContent, loaded, compactedFields]

end Reading

theorem summary_missing (toolName : String) (payload : Dict) (includeRows : Bool)
    (missing : dictGet "result" payload = .null) : payloadSummary toolName payload includeRows = .str "None" := by
  have text : slice (pyStr .null) 500 = "None" := by decide
  simp only [payloadSummary, missing, text]

-- Laws of json.loads: a dict has each key once, and what the compactor wrote is
-- read back.
structure ReadsBack (loads : JsonLoads) : Prop where
  unique : ∀ text value, loads text = .ok value → mergeKeys value = value
  written : ∀ toolName content includeRows compacted, compactToolContent loads toolName content includeRows = .ok compacted →
    loads compacted = readJson compacted

theorem read_json_back : ReadsBack readJson := by
  refine ⟨?_, fun _ _ _ _ _ => rfl⟩
  intro text value loaded
  unfold readJson at loaded
  cases read : loads text with
  | none => simp [read] at loaded
  | some found =>
      obtain rfl : found = value := by simpa [read] using loaded
      exact loads_merged text found read

section Twice

variable {loads : JsonLoads} (lawful : ReadsBack loads)

include lawful

theorem recompact_unread (toolName content : String) (unread : loads content = .error .decode) :
    (compactToolContent loads toolName content true).bind (fun once => compactToolContent loads toolName once false) =
      .ok (dumps compactStyle (.obj (compactedFields toolName .null (.str "None")))) := by
  have first := compact_unread loads toolName content true unread
  have read := (lawful.written _ _ _ _ first).trans ((read_json_object _ _).mpr (preview_read toolName (slice content 500)))
  have twice := compact_payload loads toolName _ false _ read
  have noOk : dictGet "ok" (previewFields toolName (slice content 500)) = .null := rfl
  rw [summary_missing toolName _ false rfl, noOk] at twice
  rw [first, Except.bind, twice]

theorem recompact_payload (toolName content : String) (payload : Dict) (loaded : loads content = .ok (.obj payload)) :
    (compactToolContent loads toolName content true).bind (fun once => compactToolContent loads toolName once false) =
      .ok (dumps compactStyle (.obj (compactedFields toolName (dictGet "ok" payload) (.str "None")))) := by
  have settled := merged_settled payload (lawful.unique content _ loaded)
  obtain ⟨read, object, ok, result⟩ := compacted_read toolName (dictGet "ok" payload)
    (payloadSummary toolName payload true) (dict_get_merged "ok" payload settled)
  have first := compact_payload loads toolName content true payload loaded
  have again := (lawful.written _ _ _ _ first).trans ((read_json_object _ _).mpr object)
  have twice := compact_payload loads toolName _ false read again
  rw [summary_missing toolName read false result, ok] at twice
  rw [first, Except.bind, twice]

end Twice

theorem recompacts_iff (toolName content : String) (readable : ObjectOrNone readJson content) :
    Recompacts toolName content ↔ NoResult content := by
  unfold Recompacts
  rcases readable with unread | ⟨payload, loaded⟩
  · rw [recompact_unread read_json_back toolName content unread, compact_unread readJson toolName content false unread,
      Except.ok.injEq]
    constructor
    · intro same
      have lengths := congrArg List.length (Json.obj.inj (dumps_injective compactStyle _ _ same))
      cases lengths
    · rintro ⟨payload, object, _⟩
      rw [(read_json_refused content).mp unread] at object
      cases object
  · rw [recompact_payload read_json_back toolName content payload loaded,
      compact_payload readJson toolName content false payload loaded, Except.ok.injEq]
    have found := (read_json_object content payload).mp loaded
    constructor
    · intro same
      have summaries := congrArg (dictGet "summary") (Json.obj.inj (dumps_injective compactStyle _ _ same))
      exact ⟨payload, found, (summary_none_iff toolName payload).mp summaries.symm⟩
    · rintro ⟨other, object, skipped⟩
      obtain rfl : payload = other := by simpa [found] using object
      rw [(summary_none_iff toolName payload).mpr skipped]

theorem compact_message_text (loads : JsonLoads) (message compacted : ChatMessage) (includeRows : Bool)
    (done : compactMessage loads message includeRows = .ok compacted) :
    compactToolContent loads (orElseText (message.name.getD "") "tool") message.text includeRows = .ok compacted.text := by
  obtain ⟨text, content, rfl⟩ := compact_message_ok loads message compacted includeRows done
  exact content

theorem old_tool_twice (interpreter : Interpreter) (config : AgentConfig) (messages once compacted : List ChatMessage)
    (index : Nat) (message : ChatMessage) (first : FirstPass interpreter.loads config messages once)
    (exceeds : config.contextCharBudget < totalChars once)
    (done : compactedMessages interpreter config messages = .ok compacted) (found : messages[index]? = some message)
    (old : OldTool config messages index message) :
    ∃ after, compacted[index]? = some after ∧
      (compactToolContent interpreter.loads (orElseText (message.name.getD "") "tool") message.text true).bind
        (fun once => compactToolContent interpreter.loads (orElseText (message.name.getD "") "tool") once false) =
          .ok after.text := by
  have passes := (compacted_copied interpreter config messages compacted done).2
  obtain ⟨other, pass, frames, ways⟩ := passes_ways interpreter.loads config messages compacted passes
  obtain rfl := first_pass_unique interpreter.loads config messages once other first pass
  rcases ways with ⟨fits, _⟩ | ⟨_, second⟩
  · exact absurd fits (Nat.not_le.mpr exceeds)
  obtain ⟨before, after, there, compactedThere, again⟩ := second.tools index message found old.1
  obtain ⟨changed, onceThere, rewritten⟩ := first.old index message found old
  obtain rfl : before = changed := Option.some.inj (there.symm.trans onceThere)
  have name := (compact_message_frame interpreter.loads message before true rewritten).2.1
  have twice := compact_message_text interpreter.loads before after false again
  rw [name] at twice
  refine ⟨after, compactedThere, ?_⟩
  rw [compact_message_text interpreter.loads message before true rewritten]
  exact twice

theorem recompaction_keeps_iff (copyRaises : ChatMessage → Option PyException) (config : AgentConfig)
    (execution : ToolExecution) (content : String)
    (serialized : serializeToolExecution config execution = .ok content) :
    (∀ toolName, Recompacts toolName content ↔ NoResult content) ∧
    ∀ messages once compacted index message, FirstPass readJson config messages once →
      config.contextCharBudget < totalChars once → compactedMessages ⟨readJson, copyRaises⟩ config messages = .ok compacted →
      messages[index]? = some message → OldTool config messages index message → message.text = content →
      ∃ after, compacted[index]? = some after ∧
        (compactToolContent readJson (orElseText (message.name.getD "") "tool") content false = .ok after.text ↔
          NoResult content) := by
  have readable := serialized_object content (serialize_text config execution content serialized)
  constructor
  · exact fun toolName => recompacts_iff toolName content readable
  · intro messages once compacted index message first exceeds done found old same
    obtain ⟨after, there, twice⟩ :=
      old_tool_twice ⟨readJson, copyRaises⟩ config messages once compacted index message first exceeds done found old
    rw [same] at twice
    refine ⟨after, there, ?_⟩
    rw [← recompacts_iff (orElseText (message.name.getD "") "tool") content readable, Recompacts, twice, eq_comm]

theorem recompaction_keeps_iff_count :
    (∀ toolName, Recompacts toolName countContent ↔ NoResult countContent) ∧
    ∀ messages once compacted index message, FirstPass readJson narrowConfig messages once →
      narrowConfig.contextCharBudget < totalChars once →
      compactedMessages ⟨readJson, fun _ => none⟩ narrowConfig messages = .ok compacted →
      messages[index]? = some message → OldTool narrowConfig messages index message → message.text = countContent →
      ∃ after, compacted[index]? = some after ∧
        (compactToolContent readJson (orElseText (message.name.getD "") "tool") countContent false = .ok after.text ↔
          NoResult countContent) :=
  recompaction_keeps_iff (fun _ => none) narrowConfig countExecution countContent count_serialized

-- The columns and the row count of a query are gone after the second pass.
theorem count_summary_lost :
    serializeToolExecution narrowConfig countExecution = .ok countContent ∧ ¬ Recompacts "run_sql" countContent := by
  have settled : SettledFields countPayload := by
    constructor
    · decide
    · simp [countPayload, mergeKeys, mergeFields, mergeItems, dictSet]
  have loaded : loads countContent = some (.obj countPayload) := object_read countPayload settled
  refine ⟨count_serialized, ?_⟩
  rw [recompacts_iff "run_sql" countContent (brace_object _ (dumps_brace _ _))]
  rintro ⟨payload, object, skipped⟩
  obtain rfl : countPayload = payload := by simpa [loaded] using object
  simp [countPayload, dictGet] at skipped

end DataPilot.Agent
