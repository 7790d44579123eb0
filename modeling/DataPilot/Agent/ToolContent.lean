import DataPilot.Base.JsonMerged
import DataPilot.Agent.Loop

set_option autoImplicit false

namespace DataPilot.Agent

open DataPilot.Base DataPilot.Tools

def BraceText (text : String) : Prop := ∃ tail, text.toList = '{' :: tail

theorem dumps_brace (style : DumpStyle) (fields : Dict) : BraceText (dumps style (.obj fields)) := by
  obtain ⟨tail, head⟩ := encode_object_head style fields
  exact ⟨tail, by rw [dumps, String.toList_ofList, head]⟩

theorem slice_brace (text : String) (stop : Nat) (brace : BraceText text) (positive : 1 ≤ stop) :
    BraceText (slice text stop) := by
  obtain ⟨tail, starts⟩ := brace
  obtain ⟨rest, rfl⟩ := Nat.exists_eq_add_of_le' positive
  exact ⟨tail.take rest, by rw [slice, String.toList_ofList, starts, List.take_succ_cons]⟩

-- A text that the compactor can take: json.loads reads an object, or raises the
-- JSONDecodeError that is caught.
def ObjectOrNone (loads : JsonLoads) (content : String) : Prop :=
  loads content = .error .decode ∨ ∃ fields, loads content = .ok (.obj fields)

theorem read_json_object (content : String) (fields : Dict) :
    readJson content = .ok (.obj fields) ↔ loads content = some (.obj fields) := by
  unfold readJson
  cases loads content <;> simp

theorem read_json_refused (content : String) : readJson content = .error .decode ↔ loads content = none := by
  unfold readJson
  cases loads content <;> simp

theorem object_or_none_iff (content : String) :
    ObjectOrNone readJson content ↔ ∀ value, loads content = some value → ∃ fields, value = .obj fields := by
  simp only [ObjectOrNone, read_json_refused, read_json_object]
  cases loads content <;> simp

theorem brace_object (content : String) (brace : BraceText content) : ObjectOrNone readJson content := by
  obtain ⟨tail, starts⟩ := brace
  exact (object_or_none_iff content).mpr fun value loaded => loads_brace_object content tail value starts loaded

theorem object_text (fields : Dict) : ∃ read, loads (dumps compactStyle (.obj fields)) = some (.obj read) := by
  refine ⟨mergeFields [] fields, ?_⟩
  rw [loads_dumps, mergeKeys]

theorem compact_written (loads : JsonLoads) (toolName content : String) (includeRows : Bool)
    (readable : ObjectOrNone loads content) :
    ∃ fields, compactToolContent loads toolName content includeRows = .ok (dumps compactStyle (.obj fields)) := by
  rcases readable with refused | ⟨payload, loaded⟩
  · exact ⟨_, by rw [compactToolContent, refused]⟩
  · exact ⟨_, by rw [compactToolContent, loaded]⟩

theorem compact_object (toolName content : String) (includeRows : Bool) (readable : ObjectOrNone readJson content) :
    ∃ compacted fields, compactToolContent readJson toolName content includeRows = .ok compacted ∧
      loads compacted = some (.obj fields) := by
  obtain ⟨fields, done⟩ := compact_written readJson toolName content includeRows readable
  obtain ⟨read, object⟩ := object_text fields
  exact ⟨_, read, done, object⟩

theorem compact_ok_iff (loads : JsonLoads) (toolName content : String) (includeRows : Bool) :
    (∃ compacted, compactToolContent loads toolName content includeRows = .ok compacted) ↔ ObjectOrNone loads content := by
  constructor
  · rintro ⟨compacted, done⟩
    unfold compactToolContent at done
    cases loaded : loads content with
    | error failure =>
        cases failure with
        | decode => exact .inl loaded
        | other raised => simp [loaded] at done
    | ok value =>
        cases value with
        | obj fields => exact .inr ⟨fields, loaded⟩
        | _ => simp [loaded] at done
  · intro readable
    obtain ⟨fields, done⟩ := compact_written loads toolName content includeRows readable
    exact ⟨_, done⟩

theorem slice_empty_or_brace (text : String) (stop : Nat) (brace : BraceText text) :
    slice text stop = "" ∨ BraceText (slice text stop) := by
  cases stop with
  | zero => exact .inl rfl
  | succ stop => exact .inr (slice_brace text (stop + 1) brace (Nat.succ_le_succ (Nat.zero_le stop)))

theorem cut_object (style : DumpStyle) (fields : Dict) (stop : Nat) :
    ObjectOrNone readJson (slice (dumps style (.obj fields)) stop) := by
  rcases slice_empty_or_brace _ stop (dumps_brace style fields) with empty | brace
  · exact .inl (by rw [empty, read_json_refused]; decide +kernel)
  · exact brace_object _ brace

def Serialized (content : String) : Prop := ∃ fields stop, content = slice (dumps compactStyle (.obj fields)) stop

theorem serialized_whole (fields : Dict) : Serialized (dumps compactStyle (.obj fields)) :=
  ⟨fields, (dumps compactStyle (.obj fields)).length, (slice_full _ _ (Nat.le_refl _)).symm⟩

theorem serialize_text (config : AgentConfig) (execution : ToolExecution) (content : String)
    (serialized : serializeToolExecution config execution = .ok content) : Serialized content := by
  unfold serializeToolExecution at serialized
  split at serialized
  · cases payload : chartPayload execution with
    | error failure => simp [payload, Except.map] at serialized
    | ok value =>
        simp only [payload, Except.map, Except.ok.injEq] at serialized
        subst serialized
        unfold chartPayload at payload
        dsimp only at payload
        split at payload
        · cases payload
        · cases payload
        · cases payload
          exact serialized_whole _
  · unfold executionPayload at serialized
    cases result : execution.result.jsonable with
    | error failure => simp [result, Except.map] at serialized
    | ok value =>
        simp only [result, Except.map, Except.ok.injEq] at serialized
        exact ⟨_, _, serialized.symm⟩

theorem serialized_object (content : String) (serialized : Serialized content) : ObjectOrNone readJson content := by
  obtain ⟨fields, stop, rfl⟩ := serialized
  exact cut_object compactStyle fields stop

theorem limited_object (fields : Dict) (style : DumpStyle) :
    limitedLoads (dumps style (.obj fields)) = readJson (dumps style (.obj fields)) := by
  obtain ⟨tail, starts⟩ := dumps_brace style fields
  have wordy : ¬ ((dumps style (.obj fields)).toList.all Char.isDigit = true ∧ 4300 < (dumps style (.obj fields)).length) := by
    rw [starts, List.all_cons]
    exact fun both => absurd both.1 (by simp [show Char.isDigit '{' = false from rfl])
  exact if_neg wordy

theorem tool_content_compacts (config : AgentConfig) (execution : ToolExecution) (content toolName : String)
    (includeRows : Bool) (serialized : serializeToolExecution config execution = .ok content) :
    (∃ compacted fields, compactToolContent readJson toolName content includeRows = .ok compacted ∧
      loads compacted = some (.obj fields)) ∧
    ∀ payload stop value, loads (slice (dumps compactStyle (.obj payload)) stop) = some value →
      ∃ fields, value = .obj fields := by
  constructor
  · apply compact_object
    exact serialized_object content (serialize_text config execution content serialized)
  · exact fun payload stop => (object_or_none_iff _).mp (cut_object compactStyle payload stop)

section Sample

-- A query that counts rows, and the least limit on what is kept of a result.
def countExecution : ToolExecution where
  toolCallId := "call-1"
  toolName := "run_sql"
  arguments := [("sql", .str "SELECT 1")]
  result := .dict [("columns", .list [.str "n"]), ("row_count", .int 1), ("truncated", .bool false)]

def countPayload : Dict :=
  [("ok", .bool true), ("result", .obj [("columns", .arr [.str "n"]), ("row_count", .int 1), ("truncated", .bool false)]),
    ("error", .null)]

def countContent : String := dumps compactStyle (.obj countPayload)

def narrowConfig : AgentConfig :=
  { (queryAgent "SELECT 1").config with maxToolResultChars := 256, toolResultChars := Nat.le_refl 256 }

theorem count_serialized : serializeToolExecution narrowConfig countExecution = .ok countContent := by
  have payload : executionPayload countExecution = .ok (.obj countPayload) := rfl
  have fits : countContent.length ≤ narrowConfig.maxToolResultChars := by decide +kernel
  rw [serializeToolExecution, if_neg (by decide), payload, Except.map, ← countContent, slice_full _ _ fits]

end Sample

theorem tool_content_compacts_count :
    (∃ compacted fields, compactToolContent readJson "run_sql" countContent true = .ok compacted ∧
      loads compacted = some (.obj fields)) ∧
    ∀ payload stop value, loads (slice (dumps compactStyle (.obj payload)) stop) = some value →
      ∃ fields, value = .obj fields :=
  tool_content_compacts narrowConfig countExecution countContent "run_sql" true count_serialized

end DataPilot.Agent
