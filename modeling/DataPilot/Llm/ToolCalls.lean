import DataPilot.Agent.Loop
import DataPilot.Llm.OpenAiCompat

set_option autoImplicit false

namespace DataPilot.Llm

open DataPilot.Base DataPilot.Agent

-- value[key], where none stands for a KeyError or a TypeError.
def itemOf (key : String) : Json → Option Json
  | .obj fields => if dictHas key fields then some (dictGet key fields) else none
  | _ => none

def invalidToolCall : PyException := ⟨"LLMResponseError", "Invalid tool call response."⟩

def loadArguments (function : Dict) : Except PyException Dict :=
  match orElse (dictGet "arguments" function) (.str "\x7b\x7d") with
  | .str text =>
      match loads text with
      | some (.obj arguments) => .ok arguments
      | some _ => .error ⟨"LLMResponseError", "Tool call arguments must be a JSON object."⟩
      | none => .error invalidToolCall
  | _ => .error invalidToolCall

variable (library : Library)

def toolCall (id name : String) (arguments : Dict) : Except PyException ToolCall :=
  if given : id ≠ "" then
    if named : name ≠ "" then .ok ⟨id, name, arguments, given, named⟩
    else .error (validationError library "ToolCall" [.str id, .str name])
  else .error (validationError library "ToolCall" [.str id, .str name])

-- An AttributeError or a ValidationError is not caught.
def parseRawCall (rawCall : Json) : Except PyException ToolCall :=
  match itemOf "function" rawCall with
  | none => .error invalidToolCall
  | some function =>
      match asDict function with
      | .error failure => .error failure
      | .ok function =>
          match loadArguments function with
          | .error failure => .error failure
          | .ok arguments =>
              match itemOf "id" rawCall, itemOf "name" (.obj function) with
              | some id, some name => toolCall library (pyStr id) (pyStr name) arguments
              | _, _ => .error invalidToolCall

def parseToolCalls : List Json → Except PyException (List ToolCall)
  | [] => .ok []
  | rawCall :: rest =>
      match parseRawCall library rawCall with
      | .error failure => .error failure
      | .ok call => (parseToolCalls rest).map (call :: ·)

structure CompleteCall where
  index : Nat
  id : String
  name : String
  arguments : String
  given : id ≠ ""
  named : name ≠ ""

def CompleteCall.raw (call : CompleteCall) : Json :=
  .obj [("index", .int call.index), ("id", .str call.id), ("type", .str "function"),
    ("function", .obj [("name", .str call.name), ("arguments", .str call.arguments)])]

def CompleteCall.builder (call : CompleteCall) : CallBuilder := ⟨call.id, call.name, call.arguments⟩

def objectOf (text : String) : Option Dict :=
  match loads (orElseText text "\x7b\x7d") with
  | some (.obj arguments) => some arguments
  | _ => none

def Fails {α : Type} (result : Except PyException α) : Prop := ∃ failure, result = .error failure

structure Splits (call : CompleteCall) (pieces : List ToolCallDelta) : Prop where
  opening : ∃ first rest, pieces = first :: rest ∧ first.id = some call.id ∧ first.name = some call.name ∧
    ∀ piece ∈ rest, piece.id.getD "" = "" ∧ piece.name.getD "" = ""
  arguments : String.join (pieces.map fun piece => piece.argumentsDelta.getD "") = call.arguments

-- The pieces of the calls in any order that keeps each call's own.
structure Interleaves (calls : List CompleteCall) (deltas : List ToolCallDelta) : Prop where
  each : ∀ call ∈ calls, Splits call (deltas.filter fun delta => delta.index = call.index)
  known : ∀ delta ∈ deltas, ∃ call ∈ calls, call.index = delta.index

def byIndex {α : Type} (a b : CompleteCall × α) : Prop := a.1.index ≤ b.1.index

instance {α : Type} : DecidableRel (byIndex (α := α)) := fun a b => Nat.decLe a.1.index b.1.index

def inIndexOrder (calls : List CompleteCall) (parsed : List ToolCall) : List ToolCall :=
  ((calls.zip parsed).insertionSort byIndex).map Prod.snd

theorem last_text_opening (text : String) (rest : List (Option String)) (given : text ≠ "")
    (silent : ∀ value ∈ rest, value.getD "" = "") : lastText (some text :: rest) = text := by
  have nothing : (rest.map fun value => value.getD "").filter (· ≠ "") = [] := by
    rw [List.filter_eq_nil_iff]
    intro value member
    obtain ⟨source, listed, rfl⟩ := List.mem_map.mp member
    simp [silent source listed]
  unfold lastText
  rw [List.map_cons, List.filter_cons_of_pos (by simpa using given), nothing]
  rfl

theorem assembled_splits (call : CompleteCall) (deltas : List ToolCallDelta)
    (splits : Splits call (deltas.filter fun delta => delta.index = call.index)) :
    assembled deltas call.index = call.builder := by
  obtain ⟨⟨first, rest, pieces, id, name, silent⟩, arguments⟩ := splits
  have ids : lastText ((first :: rest).map ToolCallDelta.id) = call.id := by
    rw [List.map_cons, id]
    apply last_text_opening _ _ call.given
    intro value member
    obtain ⟨piece, listed, rfl⟩ := List.mem_map.mp member
    exact (silent piece listed).1
  have names : lastText ((first :: rest).map ToolCallDelta.name) = call.name := by
    rw [List.map_cons, name]
    apply last_text_opening _ _ call.named
    intro value member
    obtain ⟨piece, listed, rfl⟩ := List.mem_map.mp member
    exact (silent piece listed).2
  rw [pieces] at arguments
  unfold assembled CompleteCall.builder
  dsimp only
  rw [pieces, ids, names, arguments]

theorem object_of_writes (text : String) (arguments : Dict) : objectOf text = some arguments ↔ Writes text arguments := by
  unfold objectOf Writes orElseText
  by_cases silent : text = ""
  · have empty : loads "\x7b\x7d" = some (.obj []) := rfl
    rw [if_pos silent, if_pos silent, empty]
    dsimp only
    rw [Option.some_inj]
    exact eq_comm
  · rw [if_neg silent, if_neg silent]
    constructor
    · intro found
      split at found
      · rename_i loaded
        rw [loaded, Option.some_inj.mp found]
      · cases found
    · intro loaded
      rw [loaded]

theorem no_object (text : String) (object : objectOf text = none) :
    loads (orElseText text "\x7b\x7d") = none ∨
      ∃ value, loads (orElseText text "\x7b\x7d") = some value ∧ ∀ arguments, value ≠ .obj arguments := by
  unfold objectOf at object
  cases loaded : loads (orElseText text "\x7b\x7d") with
  | none => exact .inl rfl
  | some value =>
      refine .inr ⟨value, rfl, ?_⟩
      rintro arguments rfl
      rw [loaded] at object
      cases object

theorem load_arguments_written (function : Dict) (text : String) (written : dictGet "arguments" function = .str text) :
    loadArguments function =
      match loads (orElseText text "\x7b\x7d") with
      | some (.obj arguments) => .ok arguments
      | some _ => .error ⟨"LLMResponseError", "Tool call arguments must be a JSON object."⟩
      | none => .error invalidToolCall := by
  unfold loadArguments orElse orElseText
  rw [written]
  by_cases silent : text = "" <;> simp [Json.truthy, silent]

theorem parse_raw_call_written (call : CompleteCall) (arguments : Dict) (object : objectOf call.arguments = some arguments) :
    parseRawCall library call.raw = .ok ⟨call.id, call.name, arguments, call.given, call.named⟩ := by
  have loaded : loadArguments [("name", .str call.name), ("arguments", .str call.arguments)] = .ok arguments := by
    rw [load_arguments_written _ call.arguments (by simp [dictGet])]
    unfold objectOf at object
    split at object
    · rename_i found
      rw [found, Option.some_inj.mp object]
    · cases object
  simp [parseRawCall, CompleteCall.raw, itemOf, dictHas, dictGet, asDict, loaded, toolCall, pyStr, call.given, call.named]

theorem parse_raw_call_refused (call : CompleteCall) (object : objectOf call.arguments = none) :
    Fails (parseRawCall library call.raw) := by
  have refused : Fails (loadArguments [("name", .str call.name), ("arguments", .str call.arguments)]) := by
    rw [load_arguments_written _ call.arguments (by simp [dictGet])]
    rcases no_object call.arguments object with loaded | ⟨value, loaded, other⟩
    · rw [loaded]
      exact ⟨_, rfl⟩
    · rw [loaded]
      cases value with
      | obj arguments => exact absurd rfl (other arguments)
      | _ => exact ⟨_, rfl⟩
  obtain ⟨failure, refused⟩ := refused
  exact ⟨failure, by simp [parseRawCall, CompleteCall.raw, itemOf, dictHas, dictGet, asDict, refused]⟩

theorem parse_tool_calls_spelled (calls : List CompleteCall) (parsed : List ToolCall)
    (given : parseToolCalls library (calls.map CompleteCall.raw) = .ok parsed) :
    List.Forall₂ (fun call tool => Spells call.builder tool) calls parsed := by
  induction calls generalizing parsed with
  | nil =>
      cases given
      exact .nil
  | cons call rest ih =>
      rw [List.map_cons, parseToolCalls] at given
      cases object : objectOf call.arguments with
      | none =>
          obtain ⟨failure, refused⟩ := parse_raw_call_refused library call object
          rw [refused] at given
          cases given
      | some arguments =>
          rw [parse_raw_call_written library call arguments object] at given
          cases others : parseToolCalls library (rest.map CompleteCall.raw) with
          | error failure =>
              rw [others] at given
              cases given
          | ok later =>
              rw [others] at given
              cases given
              exact .cons ⟨rfl, rfl, (object_of_writes _ _).mp object⟩ (ih later others)

theorem parse_tool_calls_fails (calls : List CompleteCall) :
    Fails (parseToolCalls library (calls.map CompleteCall.raw)) ↔ ∃ call ∈ calls, objectOf call.arguments = none := by
  induction calls with
  | nil =>
      constructor
      · rintro ⟨failure, failed⟩
        cases failed
      · rintro ⟨call, member, _⟩
        cases member
  | cons call rest ih =>
      rw [List.map_cons, parseToolCalls, List.exists_mem_cons_iff, ← ih]
      cases object : objectOf call.arguments with
      | none =>
          obtain ⟨failure, refused⟩ := parse_raw_call_refused library call object
          rw [refused]
          exact ⟨fun _ => .inl rfl, fun _ => ⟨failure, rfl⟩⟩
      | some arguments =>
          rw [parse_raw_call_written library call arguments object]
          cases parseToolCalls library (rest.map CompleteCall.raw) with
          | error failure => exact ⟨fun _ => .inr ⟨failure, rfl⟩, fun _ => ⟨failure, rfl⟩⟩
          | ok later =>
              constructor
              · rintro ⟨failure, failed⟩
                cases failed
              · rintro (absent | ⟨failure, failed⟩)
                · cases absent
                · cases failed

variable (host : Host)

theorem assemble_parts_fails (parts : CallParts) (index : Nat) (builder : CallBuilder) (member : (index, builder) ∈ parts)
    (named : builder.name ≠ "") (object : objectOf builder.arguments = none) : Fails (assembleParts host parts) := by
  induction parts with
  | nil => cases member
  | cons part rest ih =>
      obtain ⟨key, first⟩ := part
      rw [assembleParts]
      rcases List.mem_cons.mp member with here | later
      · cases here
        have refused : Fails (assembleCall host index builder named) := by
          unfold assembleCall
          rcases no_object builder.arguments object with loaded | ⟨value, loaded, other⟩
          · rw [loaded]
            exact ⟨_, rfl⟩
          · rw [loaded]
            cases value with
            | obj arguments => exact absurd rfl (other arguments)
            | _ => exact ⟨_, rfl⟩
        obtain ⟨failure, refused⟩ := refused
        rw [dif_pos named, refused]
        exact ⟨failure, rfl⟩
      · obtain ⟨failure, failed⟩ := ih later
        by_cases kept : first.name ≠ ""
        · rw [dif_pos kept]
          cases assembleCall host key first kept with
          | error early => exact ⟨early, rfl⟩
          | ok call =>
              rw [failed]
              exact ⟨failure, rfl⟩
        · rw [dif_neg kept]
          exact ⟨failure, failed⟩

def streamedCalls (events : List StreamEvent) : Except PyException (List ToolCall) :=
  (streamAnswer host ⟨events, none⟩).response.map LLMResponse.toolCalls

theorem streamed_calls_assembled (events : List StreamEvent) :
    streamedCalls host events = assembleToolCalls host (extendAll (fragments events) []) := by
  have parts : (readEvents {} events).1.toolCallParts = extendAll (fragments events) [] := (read_events_said {} events).2.1
  unfold streamedCalls streamAnswer
  dsimp only
  rw [parts]
  cases assembleToolCalls host (extendAll (fragments events) []) <;> rfl

theorem woven_indexes (calls : List CompleteCall) (deltas : List ToolCallDelta) (woven : Interleaves calls deltas)
    (index : Nat) : index ∈ calls.map CompleteCall.index ↔ index ∈ deltas.map ToolCallDelta.index := by
  constructor
  · intro listed
    obtain ⟨call, member, rfl⟩ := List.mem_map.mp listed
    obtain ⟨first, rest, pieces, _⟩ := (woven.each call member).opening
    have opened : first ∈ deltas.filter fun delta => delta.index = call.index := by
      rw [pieces]
      exact List.mem_cons_self ..
    obtain ⟨given, own⟩ := List.mem_filter.mp opened
    exact List.mem_map.mpr ⟨first, given, of_decide_eq_true own⟩
  · intro listed
    obtain ⟨delta, given, rfl⟩ := List.mem_map.mp listed
    obtain ⟨call, member, same⟩ := woven.known delta given
    exact List.mem_map.mpr ⟨call, member, same⟩

theorem sorted_strictly (indexes : List Nat) (distinct : indexes.Nodup) :
    (indexes.insertionSort (· ≤ ·)).Pairwise (· < ·) := by
  have ordered : (indexes.insertionSort (· ≤ ·)).Pairwise (· ≤ ·) := List.pairwise_insertionSort _ _
  have different : (indexes.insertionSort (· ≤ ·)).Nodup := (List.perm_insertionSort _ _).nodup_iff.mpr distinct
  exact (ordered.and different).imp fun both => Nat.lt_of_le_of_ne both.1 both.2

theorem assembled_in_order (calls : List CompleteCall) (parsed : List ToolCall) (deltas : List ToolCallDelta)
    (distinct : (calls.map CompleteCall.index).Nodup) (woven : Interleaves calls deltas)
    (spelled : List.Forall₂ (fun call tool => Spells call.builder tool) calls parsed) :
    assembleToolCalls host (extendAll deltas []) = .ok (inIndexOrder calls parsed) := by
  obtain ⟨long, pairs⟩ := List.forall₂_iff_zip.mp spelled
  have whole : (calls.zip parsed).map Prod.fst = calls := List.map_fst_zip (Nat.le_of_eq long)
  have perm := List.perm_insertionSort byIndex (calls.zip parsed)
  have indexes : ((calls.zip parsed).insertionSort byIndex).map (fun pair => pair.1.index) =
      (calls.map CompleteCall.index).insertionSort (· ≤ ·) := by
    rw [List.map_insertionSort byIndex (· ≤ ·) _ _ fun _ _ _ _ => Iff.rfl]
    conv_rhs => rw [← whole, List.map_map]
    rfl
  apply assemble_calls_spelled host deltas (((calls.zip parsed).insertionSort byIndex).map fun pair => pair.1.index)
  · rw [indexes]
    exact sorted_strictly _ distinct
  · intro index
    rw [indexes, ← woven_indexes calls deltas woven]
    exact (List.perm_insertionSort _ _).mem_iff
  · unfold inIndexOrder
    rw [List.forall₂_map_left_iff, List.forall₂_map_right_iff, List.forall₂_same]
    intro pair member
    have listed : pair ∈ calls.zip parsed := perm.mem_iff.mp member
    have known : pair.1 ∈ calls := (List.of_mem_zip listed).1
    rw [assembled_splits pair.1 deltas (woven.each pair.1 known)]
    exact pairs listed

theorem assembled_fails (calls : List CompleteCall) (deltas : List ToolCallDelta) (woven : Interleaves calls deltas)
    (call : CompleteCall) (member : call ∈ calls) (object : objectOf call.arguments = none) :
    Fails (assembleToolCalls host (extendAll deltas [])) := by
  have used : call.index ∈ deltas.map ToolCallDelta.index :=
    (woven_indexes calls deltas woven _).mp (List.mem_map_of_mem member)
  have part : (call.index, call.builder) ∈ extendAll deltas [] := by
    rw [buffered_parts, ← assembled_splits call deltas (woven.each call member)]
    exact List.mem_map.mpr ⟨call.index, ((buffered_all deltas).indexes _).mpr used, rfl⟩
  have sorted : (call.index, call.builder) ∈ (extendAll deltas []).insertionSort fun a b => a.1 ≤ b.1 :=
    (List.perm_insertionSort _ _).mem_iff.mpr part
  exact assemble_parts_fails host _ _ _ sorted call.named object

theorem streamed_calls_parsed (calls : List CompleteCall) (events : List StreamEvent)
    (distinct : (calls.map CompleteCall.index).Nodup) (woven : Interleaves calls (fragments events)) :
    (∀ parsed, parseToolCalls library (calls.map CompleteCall.raw) = .ok parsed →
      streamedCalls host events = .ok (inIndexOrder calls parsed)) ∧
    (Fails (streamedCalls host events) ↔ Fails (parseToolCalls library (calls.map CompleteCall.raw))) ∧
    (Fails (streamedCalls host events) ↔ ∃ call ∈ calls, objectOf call.arguments = none) := by
  rw [streamed_calls_assembled]
  have accepted : ∀ parsed, parseToolCalls library (calls.map CompleteCall.raw) = .ok parsed →
      assembleToolCalls host (extendAll (fragments events) []) = .ok (inIndexOrder calls parsed) := fun parsed given =>
    assembled_in_order host calls parsed _ distinct woven (parse_tool_calls_spelled library calls parsed given)
  have refused : Fails (assembleToolCalls host (extendAll (fragments events) [])) ↔
      ∃ call ∈ calls, objectOf call.arguments = none := by
    constructor
    · rintro ⟨failure, failed⟩
      rw [← parse_tool_calls_fails library]
      cases given : parseToolCalls library (calls.map CompleteCall.raw) with
      | error failure => exact ⟨failure, rfl⟩
      | ok parsed =>
          rw [accepted parsed given] at failed
          cases failed
    · rintro ⟨call, member, object⟩
      exact assembled_fails host calls _ woven call member object
  exact ⟨accepted, refused.trans (parse_tool_calls_fails library calls).symm, refused⟩

section Sample

def chartArguments : Dict := [("title", .str "Revenue")]

def sampleCalls : List CompleteCall := [
  ⟨1, "call-b", "plot_chart", dumps ⟨false, false⟩ (.obj chartArguments), by decide, by decide⟩,
  ⟨0, "call-a", "get_schema", "", by decide, by decide⟩]

def sampleEvents : List StreamEvent := [
  .toolCallDelta (some { index := 1, id := some "call-b", name := some "plot_chart", argumentsDelta := some "\x7b\"title\"" }),
  .toolCallDelta (some { index := 0, id := some "call-a", name := some "get_schema" }),
  .toolCallDelta (some { index := 1, id := some "", argumentsDelta := some ":\"Rev" }),
  .textDelta (some "One moment."),
  .toolCallDelta (some { index := 1, argumentsDelta := some "enue\"\x7d" })]

theorem sample_interleaves : Interleaves sampleCalls (fragments sampleEvents) := by
  constructor
  · intro call member
    simp only [sampleCalls, List.mem_cons, List.not_mem_nil, or_false] at member
    rcases member with rfl | rfl
    · exact ⟨⟨_, _, rfl, rfl, rfl, by simp [StreamEvent.fragment]⟩, rfl⟩
    · exact ⟨⟨_, _, rfl, rfl, rfl, by simp [StreamEvent.fragment]⟩, rfl⟩
  · intro delta member
    simp only [sampleEvents, fragments, List.filterMap_cons, StreamEvent.fragment, List.filterMap_nil, List.mem_cons,
      List.not_mem_nil, or_false] at member
    rcases member with rfl | rfl | rfl | rfl
    · exact ⟨_, List.mem_cons_self .., rfl⟩
    · exact ⟨_, List.mem_cons_of_mem _ (List.mem_cons_self ..), rfl⟩
    · exact ⟨_, List.mem_cons_self .., rfl⟩
    · exact ⟨_, List.mem_cons_self .., rfl⟩

theorem sample_objects : ∀ call ∈ sampleCalls, objectOf call.arguments ≠ none := by
  have chart : objectOf (dumps ⟨false, false⟩ (.obj chartArguments)) = some chartArguments := by
    unfold objectOf orElseText
    rw [if_neg (by decide), loads_dumps]
    rfl
  have nothing : objectOf "" = some [] := rfl
  intro call member
  simp only [sampleCalls, List.mem_cons, List.not_mem_nil, or_false] at member
  rcases member with rfl | rfl
  · simp [chart]
  · simp [nothing]

theorem streamed_calls_parsed_sample :
    ∃ parsed, parseToolCalls sampleLibrary (sampleCalls.map CompleteCall.raw) = .ok parsed ∧
      streamedCalls sampleHost sampleEvents = .ok (inIndexOrder sampleCalls parsed) := by
  have equivalent := streamed_calls_parsed sampleLibrary sampleHost sampleCalls sampleEvents (by decide) sample_interleaves
  cases given : parseToolCalls sampleLibrary (sampleCalls.map CompleteCall.raw) with
  | error failure =>
      obtain ⟨call, member, absent⟩ := (parse_tool_calls_fails sampleLibrary sampleCalls).mp ⟨failure, given⟩
      exact absurd absent (sample_objects call member)
  | ok parsed => exact ⟨parsed, rfl, equivalent.1 parsed given⟩

end Sample

end DataPilot.Llm
