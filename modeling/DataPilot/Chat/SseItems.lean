import DataPilot.Base.JsonRoundTrip
import DataPilot.Chat.SseFrames

set_option autoImplicit false

namespace DataPilot.Chat

open DataPilot.Base DataPilot.Agent

-- Standard JSON has no NaN and no infinities.
mutual

def isStandard : Json → Bool
  | .float value => value.text ∉ ["NaN", "Infinity", "-Infinity"]
  | .arr items => standardItems items
  | .obj fields => standardFields fields
  | _ => true

def standardItems : List Json → Bool
  | [] => true
  | item :: rest => isStandard item && standardItems rest

def standardFields : List (String × Json) → Bool
  | [] => true
  | (_, value) :: rest => isStandard value && standardFields rest

end

-- What event_stream yields.
inductive SseItem where
  | ping
  | event (id : Option String) (name : String) (payload : Payload)

def SseItem.text : SseItem → String
  | .ping => pingFrame
  | .event id name payload => encodeSseData name payload.fields id

def itemsText (items : List SseItem) : List Char := (items.map fun item => item.text.toList).flatten

structure SseItem.Encodable (item : SseItem) : Prop where
  id : ∀ id name payload, item = .event (some id) name payload → '\n' ∉ id.toList
  name : ∀ id name payload, item = .event id name payload → '\n' ∉ name.toList
  payload : ∀ id name payload, item = .event id name payload → isStandard (.obj payload.fields) = true

-- An event as it was given to encode_sse_data.
def SseItem.asGiven : SseItem → Option ChatStreamEvent
  | .ping => none
  | .event id name payload => some ⟨id, name, .obj payload.fields⟩

def trimmed (text : String) : String := String.ofList (jsTrim text.toList)

-- An event as onEvent gets it.
def SseItem.received : SseItem → Option ChatStreamEvent
  | .ping => none
  | .event id name payload =>
      some ⟨(id.filter (· ≠ "")).map trimmed, trimmed name, .obj payload.fields⟩

def SseItem.lines : SseItem → List (List Char)
  | .ping => [": ping".toList]
  | .event id name payload =>
      (if id.getD "" = "" then [] else ["id: ".toList ++ (id.getD "").toList]) ++
        ["event: ".toList ++ name.toList, "data: ".toList ++ encode compactStyle (.obj payload.fields)]

theorem to_string_text (text : String) : toString text = text := rfl

theorem item_text (item : SseItem) : item.text.toList = frameText item.lines := by
  cases item with
  | ping => rfl
  | event id name payload =>
      unfold SseItem.text encodeSseData SseItem.lines dumps
      by_cases absent : id.getD "" = "" <;> simp [absent, frameText, joinLines, to_string_text]

theorem labelled_line (label : String) (text : List Char) (given : label.toList ≠ []) (opens : Opens label.toList)
    (unbroken : '\n' ∉ label.toList ++ text) : Line (label.toList ++ text) :=
  ⟨unbroken, by simp [given], opens_append _ _ given opens⟩

theorem encode_unbroken (value : Json) : '\n' ∉ encode compactStyle value := fun broken =>
  absurd (encode_printable compactStyle value '\n' broken) (by decide)

theorem item_frame (item : SseItem) (encodable : item.Encodable) : FrameLines item.lines := by
  cases item with
  | ping =>
      have line : Line ": ping".toList := ⟨by decide, by decide, by simp [Opens]⟩
      refine ⟨List.cons_ne_nil _ _, fun other member => ?_, fun other last => ?_⟩
      · rw [List.mem_singleton.mp member]
        exact line
      · rw [← Option.some.inj last]
        decide
  | event id name payload =>
      have named : Line ("event: ".toList ++ name.toList) :=
        labelled_line "event: " _ (by decide) (by simp [Opens])
          (by simpa using encodable.name id name payload rfl)
      have data : Line ("data: ".toList ++ encode compactStyle (.obj payload.fields)) :=
        labelled_line "data: " _ (by decide) (by simp [Opens]) (by simpa using encode_unbroken _)
      refine ⟨by simp [SseItem.lines], fun line member => ?_, fun line last => ?_⟩
      · rcases List.mem_append.mp member with first | others
        · split_ifs at first with absent
          · cases first
          · rw [List.mem_singleton.mp first]
            cases id with
            | none => exact absurd rfl absent
            | some id =>
                exact labelled_line "id: " _ (by decide) (by simp [Opens])
                  (by simpa using encodable.id id name payload rfl)
        · rcases List.mem_cons.mp others with rfl | last
          · exact named
          · rw [List.mem_singleton.mp last]
            exact data
      · obtain ⟨inside, braces⟩ := encode_object_braces compactStyle payload.fields
        rw [SseItem.lines, List.getLast?_append_of_ne_nil _ (by simp), List.getLast?_cons_cons,
          List.getLast?_singleton] at last
        rw [← Option.some.inj last, braces, ← List.append_assoc, List.getLast?_concat]
        decide

theorem chomp_label (label text : List Char) (plain : label.getLast? ≠ some '\r') :
    chomp (label ++ text) = label ++ chomp text := by
  cases text with
  | nil => simp [chomp, plain]
  | cons c rest =>
      have given : c :: rest ≠ [] := List.cons_ne_nil _ _
      unfold chomp
      rw [List.getLast?_append_of_ne_nil _ given, List.dropLast_append_of_ne_nil given]
      split_ifs <;> rfl

theorem trim_space (text : List Char) : jsTrim (' ' :: text) = jsTrim text := by
  have space : isTrimmed ' ' = true := by decide
  rw [jsTrim, jsTrim, jsTrimStart, List.dropWhile_cons_of_pos space]
  rfl

theorem trim_chomp (text : List Char) : jsTrim (chomp text) = jsTrim text := by
  unfold chomp
  split_ifs with carriage
  · obtain ⟨front, rfl⟩ := List.getLast?_eq_some_iff.mp carriage
    have space : isTrimmed '\r' = true := by decide
    rw [List.dropLast_concat, jsTrim, jsTrim, jsTrimStart, jsTrimStart, List.dropWhile_append]
    cases kept : front.dropWhile isTrimmed with
    | nil => simp [List.dropWhile_cons_of_pos space]
    | cons c rest => simp [List.dropWhile_cons_of_pos space]
  · rfl

theorem read_id (fields : FrameFields) (id : List Char) :
    fields.read (chomp ("id: ".toList ++ id)) = { fields with eventId := some (String.ofList (jsTrim id)) } := by
  rw [chomp_label _ _ (by decide)]
  change { fields with eventId := some (String.ofList (jsTrim (' ' :: chomp id))) } = _
  rw [trim_space, trim_chomp]

theorem read_event (fields : FrameFields) (name : List Char) :
    fields.read (chomp ("event: ".toList ++ name)) = { fields with eventName := String.ofList (jsTrim name) } := by
  rw [chomp_label _ _ (by decide)]
  change { fields with eventName := String.ofList (jsTrim (' ' :: chomp name)) } = _
  rw [trim_space, trim_chomp]

theorem read_data (fields : FrameFields) (inside : List Char) :
    fields.read (chomp ("data: ".toList ++ ('{' :: inside ++ ['}']))) =
      { fields with dataLines := fields.dataLines ++ ['{' :: inside ++ ['}']] } := by
  have plain : chomp ("data: ".toList ++ ('{' :: inside ++ ['}'])) = "data: ".toList ++ ('{' :: inside ++ ['}']) := by
    rw [chomp, if_neg]
    rw [← List.append_assoc, List.getLast?_concat]
    decide
  have space : isTrimmed ' ' = true := by decide
  have brace : isTrimmed '{' = false := by decide
  rw [plain]
  change { fields with dataLines := fields.dataLines ++ [jsTrimStart (' ' :: '{' :: (inside ++ ['}']))] } = _
  rw [jsTrimStart, List.dropWhile_cons_of_pos space, List.dropWhile_cons_of_neg (by simp [brace])]
  rfl

theorem parse_item (parseJson : String → Option Json) (item : SseItem) (encodable : item.Encodable)
    (parses : ∀ payload : Payload, isStandard (.obj payload.fields) = true →
      parseJson (dumps compactStyle (.obj payload.fields)) = some (.obj payload.fields)) :
    parseFrame parseJson (joinLines item.lines) = some item.received := by
  rw [parseFrame, split_lines_join item.lines (item_frame item encodable)]
  cases item with
  | ping => rfl
  | event id name payload =>
      have parsed := parses payload (encodable.payload id name payload rfl)
      obtain ⟨inside, braces⟩ := encode_object_braces compactStyle payload.fields
      have tail : ∀ fields : FrameFields, fields.dataLines = [] →
          (["event: ".toList ++ name.toList, "data: ".toList ++ encode compactStyle (.obj payload.fields)].map
            chomp).foldl FrameFields.read fields =
              ⟨fields.eventId, trimmed name, [encode compactStyle (.obj payload.fields)]⟩ := by
        intro fields blank
        rw [List.map_cons, List.foldl_cons, read_event, List.map_singleton, List.foldl_cons, List.foldl_nil, braces,
          read_data, blank]
        rfl
      have fields : ((SseItem.event id name payload).lines.map chomp).foldl FrameFields.read {} =
          ⟨(id.filter (· ≠ "")).map trimmed, trimmed name, [encode compactStyle (.obj payload.fields)]⟩ := by
        rw [SseItem.lines, List.map_append, List.foldl_append]
        by_cases absent : id.getD "" = ""
        · rw [if_pos absent, List.map_nil, List.foldl_nil, tail {} rfl]
          cases id with
          | none => rfl
          | some id => simp [show id = "" from absent]
        · rw [if_neg absent, List.map_singleton, List.foldl_cons, List.foldl_nil, read_id, tail _ rfl]
          cases id with
          | none => exact absurd rfl absent
          | some id => simp [show id ≠ "" from absent, trimmed]
      rw [fields]
      have whole : ['\n'].intercalate [encode compactStyle (.obj payload.fields)] =
          encode compactStyle (.obj payload.fields) := by simp [List.intercalate]
      dsimp only
      rw [if_neg (List.cons_ne_nil _ _), whole]
      change (parseJson (dumps compactStyle (.obj payload.fields))).map _ = _
      rw [parsed]
      rfl

theorem consume_none (parseJson : String → Option Json) (input : List Char) (found : findSeparator input = none) :
    consumeFrames parseJson input = ⟨[], some input⟩ := by
  rw [consumeFrames]
  split
  · rfl
  · rename_i frame rest other
    rw [found] at other
    cases other

theorem consume_some (parseJson : String → Option Json) (input frame rest : List Char) (event : Option ChatStreamEvent)
    (found : findSeparator input = some (frame, rest)) (parsed : parseFrame parseJson frame = some event) :
    consumeFrames parseJson input =
      ⟨event.toList ++ (consumeFrames parseJson rest).events, (consumeFrames parseJson rest).buffer⟩ := by
  rw [consumeFrames]
  split
  · rename_i other
    rw [found] at other
    cases other
  · rename_i otherFrame otherRest other
    rw [found] at other
    cases other
    rw [parsed]

end DataPilot.Chat
