import DataPilot.Base.JsonRoundTrip
import DataPilot.Base.Repr
import DataPilot.Agent.Models

set_option autoImplicit false

namespace DataPilot.Agent

open DataPilot.Base

-- ensure_ascii=False and separators (",", ":").
def compactStyle : DumpStyle := ⟨false, false⟩

def sqlToolNames : List String := ["run_sql", "mcp__query_company_data"]

def pyTypeName : Json → String
  | .null => "NoneType"
  | .bool _ => "bool"
  | .int _ => "int"
  | .float _ => "float"
  | .str _ => "str"
  | .arr _ => "list"
  | .obj _ => "dict"

-- str(value or "")[:500]
def textOrEmpty (value : Json) : String := if value.truthy then slice (pyStr value) 500 else ""

def columnSummary : Json → Option Json
  | .obj column => some (.obj [("name", dictGet "name" column), ("data_type", dictGet "data_type" column)])
  | _ => none

def sampleRows (includeRows : Bool) (result : Dict) : Dict :=
  match includeRows, dictGet "rows" result with
  | true, .arr rows => [("sample_rows", .arr (rows.take 2))]
  | _, _ => []

def listItems : Json → List Json
  | .arr items => items
  | _ => []

-- The summary of a result that is a dict, by tool.
def resultSummary (toolName : String) (result : Dict) (includeRows : Bool) : Json :=
  if toolName ∈ sqlToolNames then
    .obj ([("columns", dictGet "columns" result), ("row_count", dictGet "row_count" result),
      ("truncated", dictGet "truncated" result)] ++ sampleRows includeRows result)
  else if toolName = "get_schema" then
    .obj [("table_name", dictGet "table_name" result),
      ("columns", .arr ((listItems (dictGet "columns" result)).filterMap columnSummary))]
  else if toolName = "list_tables" then
    .obj [("tables", dictGet "tables" result), ("count", dictGet "count" result)]
  else if toolName = "run_python" then
    .obj [("ok", dictGet "ok" result), ("stdout", .str (textOrEmpty (dictGet "stdout" result))),
      ("stderr", .str (textOrEmpty (dictGet "stderr" result))), ("truncated", dictGet "truncated" result),
      ("artifact_count", .int (listItems (dictGet "artifacts" result)).length)]
  else .str (slice (pyStr (.obj result)) 500)

def payloadSummary (toolName : String) (payload : Dict) (includeRows : Bool) : Json :=
  match dictGet "result" payload with
  | .obj result => resultSummary toolName result includeRows
  | result => .str (slice (pyStr result) 500)

variable (loads : JsonLoads)

-- Of what json.loads raises only a JSONDecodeError is caught, and of what it
-- returns only a dict has get.
def compactToolContent (toolName content : String) (includeRows : Bool) : Except PyException String :=
  match loads content with
  | .error .decode =>
      .ok (dumps compactStyle (.obj [("compacted", .bool true), ("tool", .str toolName),
        ("preview", .str (slice content 500))]))
  | .error (.other failure) => .error failure
  | .ok (.obj payload) =>
      .ok (dumps compactStyle (.obj [("compacted", .bool true), ("tool", .str toolName),
        ("ok", dictGet "ok" payload), ("summary", payloadSummary toolName payload includeRows)]))
  | .ok payload => .error ⟨"AttributeError", s!"'{pyTypeName payload}' object has no attribute 'get'"⟩

def compactMessage (message : ChatMessage) (includeRows : Bool) : Except PyException ChatMessage :=
  (compactToolContent loads (orElseText (message.name.getD "") "tool") message.text includeRows).map
    fun content => { message with content := some content }

def rewriteFrom (rewrite : Nat → ChatMessage → Except PyException ChatMessage) (index : Nat) :
    List ChatMessage → Except PyException (List ChatMessage)
  | [] => .ok []
  | message :: rest =>
      match rewrite index message with
      | .error failure => .error failure
      | .ok rewritten => (rewriteFrom rewrite (index + 1) rest).map (rewritten :: ·)

def indexesWhere (test : ChatMessage → Bool) (messages : List ChatMessage) : List Nat :=
  (messages.zipIdx.filter fun entry => test entry.1).map Prod.snd

def isTool (message : ChatMessage) : Bool := message.role = .tool

def oldToolIndexes (config : AgentConfig) (messages : List ChatMessage) : List Nat :=
  let toolIndexes := indexesWhere isTool messages
  toolIndexes.take (toolIndexes.length - config.keepRecentToolResults)

-- sorted(...)[-6:] over the indexes of the messages that are no tool results.
def recentNonTool (messages : List ChatMessage) : List Nat :=
  let indexes := indexesWhere (fun message => !isTool message) messages
  indexes.drop (indexes.length - 6)

def totalChars (messages : List ChatMessage) : Nat := (messages.map fun message => message.text.length).sum

def compactOld (old : List Nat) (index : Nat) (message : ChatMessage) : Except PyException ChatMessage :=
  if index ∈ old then compactMessage loads message true else .ok message

def compactAll (recent : List Nat) (index : Nat) (message : ChatMessage) : Except PyException ChatMessage :=
  if message.role = .tool then compactMessage loads message false
  else if index ∉ recent ∧ message.role ≠ .system ∧ message.text ≠ "" then
    .ok { message with content := some (slice message.text 500) }
  else .ok message

def compactionPasses (config : AgentConfig) (messages : List ChatMessage) :
    Except PyException (List ChatMessage) :=
  match rewriteFrom (compactOld loads (oldToolIndexes config messages)) 0 messages with
  | .error failure => .error failure
  | .ok compacted =>
      if totalChars compacted ≤ config.contextCharBudget then .ok compacted
      else rewriteFrom (compactAll loads (recentNonTool compacted)) 0 compacted

-- What the interpreter does with data of any size: json.loads on a text, and
-- the exception of copy.deepcopy on a message, when there is one.
structure Interpreter where
  loads : JsonLoads
  copyRaises : ChatMessage → Option PyException

-- Agent._compacted_messages: deep copies of the messages, then the two passes.
def compactedMessages (interpreter : Interpreter) (config : AgentConfig) (messages : List ChatMessage) :
    Except PyException (List ChatMessage) :=
  match messages.findSome? interpreter.copyRaises with
  | some failure => .error failure
  | none => compactionPasses interpreter.loads config messages

def SameFrame (before after : ChatMessage) : Prop :=
  after.role = before.role ∧ after.name = before.name ∧ after.toolCallId = before.toolCallId ∧
    after.toolCalls = before.toolCalls

theorem same_frame_refl (message : ChatMessage) : SameFrame message message := ⟨rfl, rfl, rfl, rfl⟩

theorem same_frame_trans (first second third : ChatMessage) (one : SameFrame first second)
    (two : SameFrame second third) : SameFrame first third :=
  ⟨two.1.trans one.1, two.2.1.trans one.2.1, two.2.2.1.trans one.2.2.1, two.2.2.2.trans one.2.2.2⟩

theorem frames_trans (first second third : List ChatMessage) (one : List.Forall₂ SameFrame first second)
    (two : List.Forall₂ SameFrame second third) : List.Forall₂ SameFrame first third := by
  induction one generalizing third with
  | nil => exact two
  | cons head tail ih =>
      cases two with
      | cons head' tail' => exact .cons (same_frame_trans _ _ _ head head') (ih _ tail')

theorem compact_message_ok (message compacted : ChatMessage) (includeRows : Bool)
    (done : compactMessage loads message includeRows = .ok compacted) :
    ∃ text, compactToolContent loads (orElseText (message.name.getD "") "tool") message.text includeRows = .ok text ∧
      compacted = { message with content := some text } := by
  unfold compactMessage at done
  cases content : compactToolContent loads (orElseText (message.name.getD "") "tool") message.text includeRows with
  | error failure =>
      rw [content] at done
      cases done
  | ok text =>
      rw [content] at done
      cases done
      exact ⟨text, rfl, rfl⟩

theorem compact_message_frame (message compacted : ChatMessage) (includeRows : Bool)
    (done : compactMessage loads message includeRows = .ok compacted) : SameFrame message compacted := by
  obtain ⟨text, _, rfl⟩ := compact_message_ok loads message compacted includeRows done
  exact ⟨rfl, rfl, rfl, rfl⟩

theorem compact_old_frame (old : List Nat) (index : Nat) (message compacted : ChatMessage)
    (done : compactOld loads old index message = .ok compacted) : SameFrame message compacted := by
  unfold compactOld at done
  split at done
  · exact compact_message_frame loads message compacted true done
  · cases done
    exact same_frame_refl message

theorem compact_all_frame (recent : List Nat) (index : Nat) (message compacted : ChatMessage)
    (done : compactAll loads recent index message = .ok compacted) : SameFrame message compacted := by
  unfold compactAll at done
  split at done
  · exact compact_message_frame loads message compacted false done
  split at done
  · cases done
    exact ⟨rfl, rfl, rfl, rfl⟩
  · cases done
    exact same_frame_refl message

theorem rewrite_from_frames (rewrite : Nat → ChatMessage → Except PyException ChatMessage)
    (frame : ∀ index before after, rewrite index before = .ok after → SameFrame before after)
    (index : Nat) (messages rewritten : List ChatMessage) (done : rewriteFrom rewrite index messages = .ok rewritten) :
    List.Forall₂ SameFrame messages rewritten := by
  induction messages generalizing index rewritten with
  | nil =>
      cases done
      exact .nil
  | cons message rest ih =>
      unfold rewriteFrom at done
      cases first : rewrite index message with
      | error failure => simp [first] at done
      | ok changed =>
          cases others : rewriteFrom rewrite (index + 1) rest with
          | error failure => simp [first, others, Except.map] at done
          | ok tail =>
              simp only [first, others, Except.map, Except.ok.injEq] at done
              subst done
              exact .cons (frame index message changed first) (ih (index + 1) tail others)

theorem passes_frames (config : AgentConfig) (messages compacted : List ChatMessage)
    (done : compactionPasses loads config messages = .ok compacted) : List.Forall₂ SameFrame messages compacted := by
  unfold compactionPasses at done
  cases first : rewriteFrom (compactOld loads (oldToolIndexes config messages)) 0 messages with
  | error failure => simp [first] at done
  | ok once =>
      have firstFrames := rewrite_from_frames _ (compact_old_frame loads _) 0 messages once first
      simp only [first] at done
      split at done
      · cases done
        exact firstFrames
      · have secondFrames := rewrite_from_frames _ (compact_all_frame loads _) 0 once compacted done
        exact frames_trans messages once compacted firstFrames secondFrames

theorem compacted_copied (interpreter : Interpreter) (config : AgentConfig) (messages compacted : List ChatMessage)
    (done : compactedMessages interpreter config messages = .ok compacted) :
    (∀ message ∈ messages, interpreter.copyRaises message = none) ∧
      compactionPasses interpreter.loads config messages = .ok compacted := by
  unfold compactedMessages at done
  split at done
  · cases done
  · rename_i copied
    exact ⟨List.findSome?_eq_none_iff.mp copied, done⟩

theorem compacted_frames (interpreter : Interpreter) (config : AgentConfig) (messages compacted : List ChatMessage)
    (done : compactedMessages interpreter config messages = .ok compacted) : List.Forall₂ SameFrame messages compacted :=
  passes_frames interpreter.loads config messages compacted
    (compacted_copied interpreter config messages compacted done).2

end DataPilot.Agent
