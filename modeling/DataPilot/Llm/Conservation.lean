import DataPilot.Llm.StreamChunks

set_option autoImplicit false

namespace DataPilot.Llm

open DataPilot.Base DataPilot.Agent

-- Only the first call fragment of such a chunk becomes an event.
def Chunk.silent (chunk : Chunk) : Bool := chunk.usage.isNone && decide (chunk.text = "")

def Chunk.bare (chunk : Chunk) : Bool := chunk.silent && chunk.calls.isEmpty

def Chunk.passed (chunk : Chunk) : List ToolCallDelta := if chunk.silent then chunk.calls.take 1 else []

def Chunk.lost (chunk : Chunk) : List ToolCallDelta := if chunk.silent then chunk.calls.drop 1 else chunk.calls

def Chunk.marked (chunk : Chunk) : List (Bool × ToolCallDelta) :=
  chunk.passed.map (fun delta => (true, delta)) ++ chunk.lost.map fun delta => (false, delta)

-- The call fragments of an index in order, with what became of each.
def fragmentsAt (chunks : List Chunk) (index : Nat) : List (Bool × ToolCallDelta) :=
  (chunks.flatMap Chunk.marked).filter fun fragment => fragment.2.index = index

-- The last text that is not empty is that of a kept item.
def LastKept {α : Type} (items : List α) (keep : α → Bool) (value : α → Option String) : Prop :=
  lastText ((items.filter keep).map value) = lastText (items.map value)

structure Conserves (events : List StreamEvent) (chunks : List Chunk) : Prop where
  text : spokenText events = String.join (chunks.map Chunk.text)
  calls : ∀ index, assembled (fragments events) index = assembled (chunks.flatMap Chunk.calls) index
  usage : (events.filterMap StreamEvent.reported).getLast? = (chunks.filterMap Chunk.usage).getLast?
  reason : (lastReason events).getD "" = lastText (chunks.map Chunk.finishReason)

structure Lossless (chunks : List Chunk) : Prop where
  texts : ∀ chunk ∈ chunks, chunk.usage.isSome → chunk.text = ""
  arguments : ∀ chunk ∈ chunks, ∀ delta ∈ chunk.lost, delta.argumentsDelta.getD "" = ""
  ids : ∀ index, LastKept (fragmentsAt chunks index) Prod.fst fun fragment => fragment.2.id
  names : ∀ index, LastKept (fragmentsAt chunks index) Prod.fst fun fragment => fragment.2.name
  reasons : LastKept chunks Chunk.bare Chunk.finishReason

theorem join_length (texts : List String) : (String.join texts).length = (texts.map String.length).sum := by
  induction texts with
  | nil => rfl
  | cons text rest ih => rw [String.join_cons, String.length_append, ih, List.map_cons, List.sum_cons]

theorem join_kept_iff {α : Type} (items : List α) (keep : α → Bool) (text : α → String) :
    String.join ((items.filter keep).map text) = String.join (items.map text) ↔
      ∀ item ∈ items, keep item = false → text item = "" := by
  have lengths : (String.join (items.map text)).length = (String.join ((items.filter keep).map text)).length +
      ((items.filter fun item => !keep item).map fun item => (text item).length).sum := by
    rw [join_length, join_length]
    induction items with
    | nil => rfl
    | cons item rest ih => cases kept : keep item <;> simp [kept] at ih ⊢ <;> omega
  constructor
  · intro same item member dropped
    rw [same] at lengths
    have silent : ((items.filter fun item => !keep item).map fun item => (text item).length).sum = 0 := by omega
    have short := List.sum_eq_zero_iff_forall_eq_nat.mp silent (text item).length
      (List.mem_map.mpr ⟨item, List.mem_filter.mpr ⟨member, by simp [dropped]⟩, rfl⟩)
    exact String.length_eq_zero_iff.mp short
  · intro empty
    clear lengths
    induction items with
    | nil => rfl
    | cons item rest ih =>
        have later := ih fun other member => empty other (List.mem_cons_of_mem _ member)
        cases kept : keep item with
        | true => rw [List.filter_cons_of_pos kept, List.map_cons, List.map_cons, String.join_cons, String.join_cons, later]
        | false =>
            rw [List.filter_cons_of_neg (by simp [kept]), List.map_cons, String.join_cons, later,
              empty item (List.mem_cons_self ..) kept, String.empty_append]

theorem event_text (chunk : Chunk) :
    (chunk.event.bind StreamEvent.text).getD "" = if chunk.usage.isNone then chunk.text else "" := by
  unfold Chunk.event
  cases chunk.usage with
  | some usage => rfl
  | none =>
      by_cases spoken : chunk.text = ""
      · dsimp only
        rw [if_pos spoken, spoken]
        split
        · rfl
        · split <;> rfl
      · dsimp only
        rw [if_neg spoken]
        rfl

theorem event_fragment (chunk : Chunk) : (chunk.event.bind StreamEvent.fragment).toList = chunk.passed := by
  unfold Chunk.event Chunk.passed Chunk.silent
  cases chunk.usage with
  | some usage => rfl
  | none =>
      by_cases spoken : chunk.text = ""
      · dsimp only
        rw [if_pos spoken]
        cases chunk.calls with
        | nil => by_cases finished : chunk.finishReason.getD "" = "" <;> simp [finished, StreamEvent.fragment]
        | cons delta rest => simp [spoken, StreamEvent.fragment]
      · simp [spoken, StreamEvent.fragment]

theorem event_usage (chunk : Chunk) : chunk.event.bind StreamEvent.reported = chunk.usage := by
  unfold Chunk.event
  cases chunk.usage with
  | some usage => rfl
  | none =>
      dsimp only
      split
      · split
        · rfl
        · split <;> rfl
      · rfl

theorem event_reason (chunk : Chunk) :
    chunk.event.bind StreamEvent.reason =
      if chunk.bare ∧ chunk.finishReason.getD "" ≠ "" then some chunk.finishReason else none := by
  unfold Chunk.event Chunk.bare Chunk.silent
  cases chunk.usage with
  | some usage => simp [StreamEvent.reason]
  | none =>
      by_cases spoken : chunk.text = ""
      · dsimp only
        rw [if_pos spoken]
        cases chunk.calls with
        | nil => by_cases finished : chunk.finishReason.getD "" = "" <;> simp [spoken, finished, StreamEvent.reason]
        | cons delta rest => simp [StreamEvent.reason]
      · simp [spoken, StreamEvent.reason]

theorem join_given {α : Type} (items : List α) (text : α → Option String) :
    String.join (items.filterMap text) = String.join (items.map fun item => (text item).getD "") := by
  induction items with
  | nil => rfl
  | cons item rest ih =>
      rw [List.map_cons, String.join_cons, ← ih, List.filterMap_cons]
      cases text item with
      | none => exact String.empty_append.symm
      | some given => rw [String.join_cons, Option.getD_some]

theorem join_kept {α : Type} (items : List α) (keep : α → Bool) (text : α → String) :
    String.join ((items.filter keep).map text) = String.join (items.map fun item => if keep item then text item else "") := by
  induction items with
  | nil => rfl
  | cons item rest ih =>
      rw [List.map_cons, String.join_cons, ← ih]
      cases kept : keep item with
      | true => rw [List.filter_cons_of_pos kept, List.map_cons, String.join_cons, if_pos rfl]
      | false => rw [List.filter_cons_of_neg (by simp [kept]), if_neg (by simp), String.empty_append]

theorem events_text (chunks : List Chunk) :
    spokenText (chunks.filterMap Chunk.event) =
      String.join ((chunks.filter fun chunk => chunk.usage.isNone).map Chunk.text) := by
  rw [spokenText, List.filterMap_filterMap, join_given, join_kept]
  exact congrArg _ (List.map_congr_left fun chunk _ => event_text chunk)

theorem marked_passed (chunk : Chunk) : (chunk.marked.filter Prod.fst).map Prod.snd = chunk.passed := by
  simp [Chunk.marked, List.filter_map, Function.comp_def]

theorem marked_calls (chunk : Chunk) : chunk.marked.map Prod.snd = chunk.calls := by
  cases quiet : chunk.silent <;> simp [Chunk.marked, Chunk.passed, Chunk.lost, quiet, Function.comp_def, -List.drop_one]

theorem events_fragments (chunks : List Chunk) :
    fragments (chunks.filterMap Chunk.event) = ((chunks.flatMap Chunk.marked).filter Prod.fst).map Prod.snd := by
  rw [fragments, List.filterMap_filterMap, List.filterMap_eq_flatMap_toList, List.filter_flatMap, List.map_flatMap]
  refine List.flatMap_congr fun chunk _ => ?_
  rw [marked_passed]
  exact event_fragment chunk

theorem chunks_fragments (chunks : List Chunk) :
    chunks.flatMap Chunk.calls = (chunks.flatMap Chunk.marked).map Prod.snd := by
  rw [List.map_flatMap]
  exact List.flatMap_congr fun chunk _ => (marked_calls chunk).symm

theorem assembled_kept_iff (chunks : List Chunk) (index : Nat) :
    assembled (fragments (chunks.filterMap Chunk.event)) index = assembled (chunks.flatMap Chunk.calls) index ↔
      LastKept (fragmentsAt chunks index) Prod.fst (fun fragment => fragment.2.id) ∧
      LastKept (fragmentsAt chunks index) Prod.fst (fun fragment => fragment.2.name) ∧
      ∀ fragment ∈ fragmentsAt chunks index, fragment.1 = false → fragment.2.argumentsDelta.getD "" = "" := by
  have kept : (fragments (chunks.filterMap Chunk.event)).filter (fun delta => delta.index = index) =
      ((fragmentsAt chunks index).filter Prod.fst).map Prod.snd := by
    rw [events_fragments, List.filter_map, fragmentsAt, List.filter_filter, List.filter_filter]
    simp only [Function.comp_def, Bool.and_comm]
  have all : (chunks.flatMap Chunk.calls).filter (fun delta => delta.index = index) =
      (fragmentsAt chunks index).map Prod.snd := by
    rw [chunks_fragments, List.filter_map, fragmentsAt]
    rfl
  rw [assembled, assembled, kept, all, CallBuilder.mk.injEq, ← join_kept_iff]
  simp only [LastKept, List.map_map, Function.comp_def]

theorem events_reason (chunks : List Chunk) :
    (lastReason (chunks.filterMap Chunk.event)).getD "" =
      lastText ((chunks.filter Chunk.bare).map Chunk.finishReason) := by
  rw [lastReason, List.filterMap_filterMap]
  induction chunks using List.reverseRecOn with
  | nil => rfl
  | append_singleton chunks chunk ih =>
      rw [List.filterMap_append, List.filter_append, List.map_append]
      cases bare : chunk.bare with
      | false => simpa [List.filterMap_cons, event_reason, bare] using ih
      | true =>
          have last : ([chunk].filter Chunk.bare).map Chunk.finishReason = [chunk.finishReason] := by simp [bare]
          rw [last, last_text_snoc, ← ih]
          by_cases finished : chunk.finishReason.getD "" = ""
          · simp [event_reason, finished, override, orElseText]
          · simp [event_reason, bare, finished, override, orElseText]

theorem conserves_iff (chunks : List Chunk) : Conserves (chunks.filterMap Chunk.event) chunks ↔ Lossless chunks := by
  have texts := join_kept_iff chunks (fun chunk => chunk.usage.isNone) Chunk.text
  rw [← events_text] at texts
  have reasons := events_reason chunks
  have usage : (chunks.filterMap Chunk.event).filterMap StreamEvent.reported = chunks.filterMap Chunk.usage := by
    rw [List.filterMap_filterMap]
    exact List.filterMap_congr fun chunk _ => event_usage chunk
  constructor
  · intro conserves
    refine ⟨fun chunk member spent => ?_, fun chunk member delta lost => ?_, fun index => ?_, fun index => ?_, ?_⟩
    · refine texts.mp conserves.text chunk member ?_
      simpa using spent
    · refine ((assembled_kept_iff chunks delta.index).mp (conserves.calls delta.index)).2.2 (false, delta) ?_ rfl
      refine List.mem_filter.mpr ⟨List.mem_flatMap.mpr ⟨chunk, member, ?_⟩, by simp⟩
      exact List.mem_append_right _ (List.mem_map_of_mem lost)
    · exact ((assembled_kept_iff chunks index).mp (conserves.calls index)).1
    · exact ((assembled_kept_iff chunks index).mp (conserves.calls index)).2.1
    · exact reasons.symm.trans conserves.reason
  · intro lossless
    refine ⟨texts.mpr fun chunk member spent => ?_, fun index => ?_, by rw [usage], reasons.trans lossless.reasons⟩
    · exact lossless.texts chunk member (by simpa using spent)
    · refine (assembled_kept_iff chunks index).mpr ⟨lossless.ids index, lossless.names index, ?_⟩
      rintro ⟨kept, delta⟩ member rfl
      obtain ⟨chunk, inside, marked⟩ := List.mem_flatMap.mp (List.mem_filter.mp member).1
      refine lossless.arguments chunk inside delta ?_
      simpa [Chunk.marked] using marked

variable (library : Library)

theorem chat_stream_conserves_iff (answers : Nat → Except PyException HttpAnswer) (maxRetries : Nat)
    (chunks : List Chunk) (served : Served library answers maxRetries 0 chunks) :
    (chatStream library answers maxRetries 0).failure = none ∧
      (Conserves (chatStream library answers maxRetries 0).events chunks ↔ Lossless chunks) := by
  rw [chat_stream_served library answers maxRetries 0 chunks served]
  exact ⟨rfl, conserves_iff chunks⟩

section Sample

def chunkLine (payload : Json) : String := "data: " ++ dumps ⟨false, false⟩ payload

def callJson (index : Nat) (id sql : String) : Json :=
  .obj [("index", .int index), ("id", .str id),
    ("function", .obj [("name", .str "run_sql"), ("arguments", .str sql)])]

def callFragment (index : Nat) (id sql : String) : ToolCallDelta :=
  { index, id := some id, name := some "run_sql", argumentsDelta := some sql }

def choicePayload (delta : Dict) : Json := .obj [("choices", .arr [.obj [("delta", .obj delta)]])]

def usagePayload : Json :=
  .obj [("choices", .arr []), ("usage", .obj [("prompt_tokens", .int 5), ("completion_tokens", .int 3)])]

theorem call_json_writes (index : Nat) (id sql : String) : WritesCall (callJson index id sql) (callFragment index id sql) :=
  ⟨_, _, rfl, rfl, rfl, .inl rfl, rfl, rfl⟩

theorem line_data_object (fields : Dict) :
    lineData (chunkLine (.obj fields)) = some (dumps ⟨false, false⟩ (.obj fields)) := by
  obtain ⟨inside, braces⟩ := encode_object_braces ⟨false, false⟩ fields
  have text : (chunkLine (.obj fields)).toList = "data: ".toList ++ ('{' :: inside ++ ['}']) := by
    simp only [chunkLine, String.toList_append, dumps, braces, String.toList_ofList]
  have opened : (' ' :: '{' :: (inside ++ ['}'])).dropWhile isSpace = '{' :: (inside ++ ['}']) := by
    rw [List.dropWhile_cons_of_pos (by decide), List.dropWhile_cons_of_neg (by decide)]
  have closed : ('{' :: (inside ++ ['}'])).reverse.dropWhile isSpace = ('{' :: (inside ++ ['}'])).reverse := by
    rw [List.reverse_cons, List.reverse_append, List.reverse_singleton, List.singleton_append, List.cons_append,
      List.dropWhile_cons_of_neg (by decide)]
  rw [lineData, text]
  change some (strip (String.ofList (' ' :: '{' :: (inside ++ ['}'])))) = _
  rw [strip, String.toList_ofList, opened, closed, List.reverse_reverse, dumps, braces]
  rfl

theorem feeds_line (fields : Dict) (chunk : Chunk) (rest : List String) (chunks : List Chunk)
    (merged : mergeKeys (.obj fields) = .obj fields) (described : Describes (.obj fields) chunk)
    (later : Feeds rest chunks) : Feeds (chunkLine (.obj fields) :: rest) (chunk :: chunks) :=
  .chunk _ _ (.obj fields) chunk rest chunks (line_data_object fields) (by rw [loads_dumps, merged]) described later

def answerOf (payloads : List Json) : Nat → Except PyException HttpAnswer :=
  fun _ => .ok { lines := payloads.map chunkLine ++ ["data: [DONE]"] }

theorem answer_served (payloads : List Json) (chunks : List Chunk)
    (feeds : Feeds (payloads.map chunkLine ++ ["data: [DONE]"]) chunks) :
    Served sampleLibrary (answerOf payloads) 2 0 chunks :=
  ⟨0, by decide, fun _ before => absurd before (Nat.not_lt_zero _), _, rfl, (by decide : 200 ∉ retryableStatusCodes), rfl, rfl,
    feeds⟩

def spokenChunks : List Chunk :=
  [{ content := some "分析" }, { calls := [callFragment 0 "call-1" "\x7b\x7d"] }, { usage := some ⟨5, 3⟩ }]

def spokenPayloads : List Json :=
  [choicePayload [("content", .str "分析")], choicePayload [("tool_calls", .arr [callJson 0 "call-1" "\x7b\x7d"])], usagePayload]

def batchedChunks : List Chunk := [{ calls := [callFragment 0 "call-1" "\x7b\x7d", callFragment 1 "call-2" "\x7b\x7d"] }]

def batchedPayloads : List Json :=
  [choicePayload [("tool_calls", .arr [callJson 0 "call-1" "\x7b\x7d", callJson 1 "call-2" "\x7b\x7d"])]]

theorem spoken_served : Served sampleLibrary (answerOf spokenPayloads) 2 0 spokenChunks := by
  refine answer_served _ _ (feeds_line _ _ _ _ rfl ?_
    (feeds_line _ _ _ _ rfl ?_ (feeds_line _ _ _ _ rfl ?_
      (.done _ _ (by decide +kernel)))))
  · exact ⟨_, rfl, rfl, .inr ⟨_, _, rfl, _, _, rfl, .inl rfl, rfl, .inl ⟨rfl, rfl⟩, rfl⟩⟩
  · exact ⟨_, rfl, rfl, .inr ⟨_, _, rfl, _, _, rfl, .inl rfl, rfl,
      .inr ⟨_, rfl, .cons (call_json_writes ..) .nil⟩, rfl⟩⟩
  · exact ⟨_, rfl, ⟨_, rfl, rfl, rfl⟩, .inl ⟨rfl, rfl, rfl, rfl⟩⟩

theorem batched_served : Served sampleLibrary (answerOf batchedPayloads) 2 0 batchedChunks := by
  refine answer_served _ _ (feeds_line _ _ _ _ rfl ?_ (.done _ _ (by decide +kernel)))
  exact ⟨_, rfl, rfl, .inr ⟨_, _, rfl, _, _, rfl, .inl rfl, rfl,
    .inr ⟨_, rfl, .cons (call_json_writes ..) (.cons (call_json_writes ..) .nil)⟩, rfl⟩⟩

theorem last_kept_all {α : Type} (items : List α) (keep : α → Bool) (value : α → Option String)
    (all : ∀ item ∈ items, keep item = true) : LastKept items keep value := by
  rw [LastKept, List.filter_eq_self.mpr all]

theorem spoken_lossless : Lossless spokenChunks := by
  have kept : ∀ index, ∀ fragment ∈ fragmentsAt spokenChunks index, fragment.1 = true := by
    intro index fragment member
    have all : ∀ fragment ∈ spokenChunks.flatMap Chunk.marked, fragment.1 = true := by decide +kernel
    exact all fragment (List.mem_filter.mp member).1
  refine ⟨by decide +kernel, by decide +kernel, fun index => last_kept_all _ _ _ (kept index),
    fun index => last_kept_all _ _ _ (kept index), ?_⟩
  unfold LastKept
  decide +kernel

end Sample

theorem chat_stream_conserves_iff_spoken :
    Conserves (chatStream sampleLibrary (answerOf spokenPayloads) 2 0).events spokenChunks :=
  (chat_stream_conserves_iff sampleLibrary (answerOf spokenPayloads) 2 spokenChunks spoken_served).2.mpr spoken_lossless

-- The second of two call fragments in one chunk is lost.
theorem batched_call_lost :
    ¬ ∀ (library : Library) (answers : Nat → Except PyException HttpAnswer) (maxRetries : Nat) (chunks : List Chunk),
      Served library answers maxRetries 0 chunks → Conserves (chatStream library answers maxRetries 0).events chunks := by
  intro claim
  have conserves := claim sampleLibrary (answerOf batchedPayloads) 2 batchedChunks batched_served
  rw [chat_stream_served sampleLibrary _ 2 0 batchedChunks batched_served] at conserves
  have same := congrArg CallBuilder.id (conserves.calls 1)
  exact absurd same (by decide +kernel)

end DataPilot.Llm
