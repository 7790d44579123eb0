import DataPilot.Agent.Compaction
import DataPilot.Base.Utf8

set_option autoImplicit false

namespace DataPilot.Chat

open DataPilot.Base DataPilot.Agent

def encodeSseData (eventName : String) (payload : Dict) (eventId : Option String) : String :=
  let data := dumps compactStyle (.obj payload)
  let idLine := if eventId.getD "" = "" then "" else s!"id: {eventId.getD default}\n"
  idLine ++ s!"event: {eventName}\ndata: {data}\n\n"

def pingFrame : String := ": ping\n\n"

-- The white space and line terminators that trim takes off a JavaScript string.
def isTrimmed (c : Char) : Bool :=
  c.toNat ∈ [9, 10, 11, 12, 13, 32, 160, 0x1680, 0x2028, 0x2029, 0x202f, 0x205f, 0x3000, 0xfeff] ||
    (0x2000 ≤ c.toNat && c.toNat ≤ 0x200a)

def jsTrimStart (text : List Char) : List Char := text.dropWhile isTrimmed

def jsTrim (text : List Char) : List Char := ((jsTrimStart text).reverse.dropWhile isTrimmed).reverse

-- What follows a match of \r?\n at the front.
def lineEnd : List Char → Option (List Char)
  | [] => none
  | c :: rest =>
      if c = '\n' then some rest
      else if c = '\r' ∧ rest.head? = some '\n' then some rest.tail
      else none

-- The first match of \r?\n\r?\n, as the text before it and the text behind it.
def findSeparator : List Char → Option (List Char × List Char)
  | [] => none
  | c :: rest =>
      match (lineEnd (c :: rest)).bind lineEnd with
      | some after => some ([], after)
      | none => (findSeparator rest).map fun found => (c :: found.1, found.2)

-- split(/\r?\n/)
def splitLines : List Char → List (List Char)
  | [] => [[]]
  | c :: rest =>
      if c = '\n' then [] :: splitLines rest
      else if c = '\r' ∧ rest.head? = some '\n' then splitLines rest
      else
        match splitLines rest with
        | [] => [[c]]
        | line :: lines => (c :: line) :: lines

structure ChatStreamEvent where
  id : Option String
  event : String
  data : Json

-- The variables of parseFrame.
structure FrameFields where
  eventId : Option String := none
  eventName : String := "message"
  dataLines : List (List Char) := []

def FrameFields.read (fields : FrameFields) (line : List Char) : FrameFields :=
  if "event:".toList.isPrefixOf line then { fields with eventName := String.ofList (jsTrim (line.drop 6)) }
  else if "id:".toList.isPrefixOf line then { fields with eventId := some (String.ofList (jsTrim (line.drop 3))) }
  else if "data:".toList.isPrefixOf line then
    { fields with dataLines := fields.dataLines ++ [jsTrimStart (line.drop 5)] }
  else fields

-- JSON.parse; none stands for its SyntaxError.
variable (parseJson : String → Option Json)

-- The outer none is the exception of JSON.parse, the inner one a frame without data.
def parseFrame (frame : List Char) : Option (Option ChatStreamEvent) :=
  let fields := (splitLines frame).foldl FrameFields.read {}
  if fields.dataLines = [] then some none
  else
    (parseJson (String.ofList (['\n'].intercalate fields.dataLines))).map fun data =>
      some ⟨fields.eventId, fields.eventName, data⟩

theorem line_end_shorter (text after : List Char) (found : lineEnd text = some after) : after.length < text.length := by
  cases text with
  | nil => cases found
  | cons c rest =>
      rw [lineEnd] at found
      split_ifs at found
      · cases found
        exact Nat.lt_succ_self _
      · cases found
        rw [List.length_tail, List.length_cons]
        omega

theorem find_separator_shorter (text frame rest : List Char) (found : findSeparator text = some (frame, rest)) :
    rest.length < text.length := by
  induction text generalizing frame with
  | nil => cases found
  | cons c tail ih =>
      rw [findSeparator] at found
      split at found
      · rename_i after ends
        cases found
        obtain ⟨middle, first, second⟩ := Option.bind_eq_some_iff.mp ends
        exact Nat.lt_trans (line_end_shorter _ _ second) (line_end_shorter _ _ first)
      · obtain ⟨⟨before, behind⟩, inside, same⟩ := Option.map_eq_some_iff.mp found
        cases same
        exact Nat.lt_succ_of_lt (ih before inside)

-- What a part of the loop hands to onEvent and the buffer it leaves; no buffer
-- stands for an exception.
structure Consumed where
  events : List ChatStreamEvent
  buffer : Option (List Char)

def consumeFrames (input : List Char) : Consumed :=
  match _found : findSeparator input with
  | none => ⟨[], some input⟩
  | some (frame, rest) =>
      match parseFrame parseJson frame with
      | none => ⟨[], none⟩
      | some event =>
          let others := consumeFrames rest
          ⟨event.toList ++ others.events, others.buffer⟩
termination_by input.length
decreasing_by exact find_separator_shorter input frame rest _found

-- TextDecoder in stream mode, and its last call.
structure TextDecoder where
  State : Type
  fresh : State
  decode : State → List UInt8 → List Char × State
  finish : State → List Char

-- streamMessage, once the response is there.
def streamMessage (decoder : TextDecoder) (state : decoder.State) (buffer : List Char) : List (List UInt8) → Consumed
  | [] => consumeFrames parseJson (buffer ++ decoder.finish state)
  | chunk :: rest =>
      let decoded := decoder.decode state chunk
      let consumed := consumeFrames parseJson (buffer ++ decoded.1)
      match consumed.buffer with
      | none => consumed
      | some left =>
          let others := streamMessage decoder decoded.2 left rest
          ⟨consumed.events ++ others.events, others.buffer⟩

end DataPilot.Chat
