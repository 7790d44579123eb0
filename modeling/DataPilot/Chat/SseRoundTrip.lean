import DataPilot.Chat.SseItems

set_option autoImplicit false

namespace DataPilot.Chat

open DataPilot.Base DataPilot.Agent

variable (parseJson : String → Option Json)

-- JSON.parse reads what json.dumps writes for standard JSON.
def ParsesDumps : Prop := ∀ payload : Payload, isStandard (.obj payload.fields) = true →
  parseJson (dumps compactStyle (.obj payload.fields)) = some (.obj payload.fields)

-- What the calls of a decoder give for the chunks of a stream.
def TextDecoder.outputs (decoder : TextDecoder) (state : decoder.State) : List (List UInt8) → List (List Char)
  | [] => [decoder.finish state]
  | chunk :: rest => (decoder.decode state chunk).1 :: decoder.outputs (decoder.decode state chunk).2 rest

-- In stream mode a decoder gives the text of a stream, in parts; a byte order
-- mark at the front it would take off.
def TextDecoder.Correct (decoder : TextDecoder) : Prop :=
  ∀ (text : List Char) (chunks : List (List UInt8)), text.head? ≠ some (Char.ofNat 0xfeff) →
    chunks.flatten = utf8 text → (decoder.outputs decoder.fresh chunks).flatten = text

theorem items_text_cons (item : SseItem) (rest : List SseItem) :
    itemsText (item :: rest) = frameText item.lines ++ itemsText rest := by
  rw [itemsText, List.map_cons, List.flatten_cons, item_text]
  rfl

variable {parseJson}

-- consumeFrames on a part of a stream: the items that are whole there are handed
-- on, and the rest stays in the buffer.
theorem consume_part (parses : ParsesDumps parseJson) (items : List SseItem) (part rest : List Char)
    (encodable : ∀ item ∈ items, item.Encodable) (split : part ++ rest = itemsText items) :
    ∃ done left buffer, items = done ++ left ∧
      consumeFrames parseJson part = ⟨done.filterMap SseItem.received, some buffer⟩ ∧
      buffer ++ rest = itemsText left ∧ (rest = [] → left = []) := by
  induction items generalizing part with
  | nil =>
      obtain ⟨rfl, rfl⟩ := List.append_eq_nil_iff.mp split
      exact ⟨[], [], [], rfl, consume_none parseJson [] rfl, rfl, fun _ => rfl⟩
  | cons item others ih =>
      have first := encodable item (List.mem_cons_self ..)
      have frame := item_frame item first
      rw [items_text_cons] at split
      by_cases whole : ∃ after, part = frameText item.lines ++ after ∧ after ++ rest = itemsText others
      · obtain ⟨after, rfl, further⟩ := whole
        obtain ⟨done, left, buffer, rfl, consumed, kept, ends⟩ :=
          ih after (fun other member => encodable other (List.mem_cons_of_mem _ member)) further
        refine ⟨item :: done, left, buffer, rfl, ?_, kept, ends⟩
        rw [consume_some parseJson _ _ after item.received (find_frame item.lines after frame)
          (parse_item parseJson item first parses), consumed]
        cases received : item.received <;> simp [received]
      · rcases List.append_eq_append_iff.mp split with ⟨more, same, left⟩ | ⟨more, same, left⟩
        · have short : more ≠ [] := by
            rintro rfl
            exact whole ⟨[], by simpa using same.symm, by simpa using left⟩
          refine ⟨[], item :: others, part, rfl, consume_none parseJson part ?_, ?_, fun none => ?_⟩
          · exact find_part item.lines part more frame same.symm short
          · rw [items_text_cons]
            exact split
          · rw [none] at left
            exact absurd (List.append_eq_nil_iff.mp left.symm).1 short
        · exact absurd ⟨more, same, left.symm⟩ whole

theorem stream_parts (parses : ParsesDumps parseJson) (decoder : TextDecoder) (chunks : List (List UInt8))
    (state : decoder.State) (buffer : List Char) (items : List SseItem) (encodable : ∀ item ∈ items, item.Encodable)
    (split : buffer ++ (decoder.outputs state chunks).flatten = itemsText items) :
    streamMessage parseJson decoder state buffer chunks = ⟨items.filterMap SseItem.received, some []⟩ := by
  induction chunks generalizing state buffer items with
  | nil =>
      have last : buffer ++ decoder.finish state ++ [] = itemsText items := by simpa [TextDecoder.outputs] using split
      obtain ⟨done, left, kept, rfl, consumed, remaining, ends⟩ := consume_part parses items _ [] encodable last
      obtain rfl := ends rfl
      obtain rfl : kept = [] := by simpa [itemsText] using remaining
      rw [streamMessage, consumed, List.append_nil]
  | cons chunk rest ih =>
      rw [TextDecoder.outputs, List.flatten_cons, ← List.append_assoc] at split
      obtain ⟨done, left, kept, rfl, consumed, remaining, _⟩ := consume_part parses items _ _ encodable split
      have later := ih (decoder.decode state chunk).2 kept left
        (fun item member => encodable item (List.mem_append_right _ member)) remaining
      rw [streamMessage, consumed]
      dsimp only
      rw [later, List.filterMap_append]

variable (parseJson)

theorem item_head (item : SseItem) (rest : List Char) :
    (item.text.toList ++ rest).head? ≠ some (Char.ofNat 0xfeff) := by
  cases item with
  | ping => exact (by decide : some ':' ≠ some (Char.ofNat 0xfeff))
  | event id name payload =>
      rw [SseItem.text, encodeSseData]
      by_cases absent : id.getD "" = "" <;> simp [absent, to_string_text]

theorem items_head (items : List SseItem) : (itemsText items).head? ≠ some (Char.ofNat 0xfeff) := by
  cases items with
  | nil => simp [itemsText]
  | cons item rest => exact item_head item (itemsText rest)

theorem sse_round_trip (decoder : TextDecoder) (items : List SseItem) (chunks : List (List UInt8))
    (parses : ParsesDumps parseJson) (decodes : decoder.Correct) (encodable : ∀ item ∈ items, item.Encodable)
    (cut : chunks.flatten = utf8 (itemsText items)) :
    streamMessage parseJson decoder decoder.fresh [] chunks = ⟨items.filterMap SseItem.received, some []⟩ :=
  stream_parts parses decoder chunks decoder.fresh [] items encodable (decodes _ chunks (items_head items) cut)

section Sample

-- A decoder that keeps the bytes of a character until it has them all.
def utf8Decoder : TextDecoder where
  State := List UInt8
  fresh := []
  decode := decodeChunk
  finish pending := if pending = [] then [] else [Char.ofNat 0xfffd]

theorem utf8_decoder_outputs (chunks : List (List UInt8)) (pending : List UInt8) :
    utf8Decoder.outputs pending chunks =
      (decodeChunks pending chunks).1 ++ [utf8Decoder.finish (decodeChunks pending chunks).2] := by
  induction chunks generalizing pending with
  | nil => rfl
  | cons chunk rest ih =>
      change (decodeChunk pending chunk).1 :: utf8Decoder.outputs (decodeChunk pending chunk).2 rest = _
      rw [ih]
      rfl

theorem utf8_decoder_correct : utf8Decoder.Correct := by
  intro text chunks _ cut
  obtain ⟨done, whole⟩ := decode_chunks chunks [] text rfl cut
  change (utf8Decoder.outputs [] chunks).flatten = text
  rw [utf8_decoder_outputs, done, List.flatten_append, whole]
  simp [utf8Decoder]

theorem loads_parses : ParsesDumps loads := fun payload _ => payload.loads_dumps compactStyle

def spacedItem : SseItem := .event (some "1-0 ") "text" ⟨[("text", .str "é")], rfl⟩

theorem spaced_encodable : spacedItem.Encodable where
  id := by rintro _ _ _ ⟨⟩; decide
  name := by rintro _ _ _ ⟨⟩; decide
  payload := by rintro _ _ _ ⟨⟩; rfl

theorem spaced_received :
    [SseItem.ping, spacedItem].filterMap SseItem.received = [⟨some "1-0", "text", .obj [("text", .str "é")]⟩] := by
  have id : trimmed "1-0 " = "1-0" := by decide +kernel
  have name : trimmed "text" = "text" := by decide +kernel
  have received : spacedItem.received = some ⟨some (trimmed "1-0 "), trimmed "text", .obj [("text", .str "é")]⟩ := rfl
  rw [id, name] at received
  have ping : SseItem.ping.received = none := rfl
  rw [List.filterMap_cons_none ping, List.filterMap_cons_some received, List.filterMap_nil]

theorem spaced_all_encodable : ∀ item ∈ [SseItem.ping, spacedItem], item.Encodable := by
  refine List.forall_mem_cons.mpr ⟨⟨by rintro _ _ _ ⟨⟩, by rintro _ _ _ ⟨⟩, by rintro _ _ _ ⟨⟩⟩, ?_⟩
  exact List.forall_mem_singleton.mpr spaced_encodable

def sampleBytes : List UInt8 := utf8 (itemsText [.ping, spacedItem])

end Sample

-- The chunks part in the middle of the é.
theorem sse_round_trip_split_character :
    streamMessage loads utf8Decoder [] [] [sampleBytes.take 45, sampleBytes.drop 45] =
      ⟨[⟨some "1-0", "text", .obj [("text", .str "é")]⟩], some []⟩ := by
  rw [← spaced_received]
  exact sse_round_trip loads utf8Decoder [.ping, spacedItem] _ loads_parses utf8_decoder_correct spaced_all_encodable
    (by simp [sampleBytes])

-- An id with a space at its end arrives without it.
theorem padded_id_trimmed :
    ¬ ∀ (parseJson : String → Option Json) (decoder : TextDecoder) (items : List SseItem) (chunks : List (List UInt8)),
      ParsesDumps parseJson → decoder.Correct → (∀ item ∈ items, item.Encodable) →
        chunks.flatten = utf8 (itemsText items) →
          streamMessage parseJson decoder decoder.fresh [] chunks = ⟨items.filterMap SseItem.asGiven, some []⟩ := by
  intro claim
  have decoded : (utf8Decoder.outputs utf8Decoder.fresh [sampleBytes]).flatten = itemsText [.ping, spacedItem] :=
    utf8_decoder_correct _ _ (items_head _) (by simp [sampleBytes])
  have given := claim loads utf8Decoder [.ping, spacedItem] [sampleBytes] loads_parses utf8_decoder_correct
    spaced_all_encodable (by simp [sampleBytes])
  have delivered :=
    stream_parts loads_parses utf8Decoder [sampleBytes] utf8Decoder.fresh [] _ spaced_all_encodable decoded
  rw [given, spaced_received] at delivered
  have ping : SseItem.ping.asGiven = none := rfl
  have asked : spacedItem.asGiven = some ⟨some "1-0 ", "text", .obj [("text", .str "é")]⟩ := rfl
  rw [List.filterMap_cons_none ping, List.filterMap_cons_some asked, List.filterMap_nil] at delivered
  simp at delivered

end DataPilot.Chat
