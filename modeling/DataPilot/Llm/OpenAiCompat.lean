import DataPilot.Agent.Fragments
import DataPilot.Agent.Compaction

set_option autoImplicit false

namespace DataPilot.Llm

open DataPilot.Base DataPilot.Agent

-- What the parser takes from Python and pydantic: int() of a float and of a
-- text, and the text of a ValidationError of a model.
structure Library where
  truncate : FloatText → Except PyException Int
  parseInt : String → Option Int
  validationText : String → List Json → String

def noGet (value : Json) : PyException := ⟨"AttributeError", s!"'{pyTypeName value}' object has no attribute 'get'"⟩

-- The receiver of a .get call.
def asDict : Json → Except PyException Dict
  | .obj fields => .ok fields
  | value => .error (noGet value)

def dictGetD (key : String) (default : Json) (fields : Dict) : Json :=
  if dictHas key fields then dictGet key fields else default

-- "value or default"
def orElse (value default : Json) : Json := if value.truthy then value else default

-- value[0]
def firstItem : Json → Except PyException Json
  | .arr [] => .error ⟨"IndexError", "list index out of range"⟩
  | .arr (item :: _) => .ok item
  | .str text =>
      match text.toList with
      | [] => .error ⟨"IndexError", "string index out of range"⟩
      | c :: _ => .ok (.str (String.ofList [c]))
  | .obj _ => .error ⟨"KeyError", "0"⟩
  | value => .error ⟨"TypeError", s!"'{pyTypeName value}' object is not subscriptable"⟩

variable (library : Library)

def pyInt : Json → Except PyException Int
  | .int value => .ok value
  | .bool value => .ok (if value then 1 else 0)
  | .float value => library.truncate value
  | .str text =>
      match library.parseInt text with
      | some value => .ok value
      | none => .error ⟨"ValueError", s!"invalid literal for int() with base 10: {String.ofList (reprString text)}"⟩
  | value =>
      .error ⟨"TypeError",
        s!"int() argument must be a string, a bytes-like object or a real number, not '{pyTypeName value}'"⟩

def validationError (model : String) (inputs : List Json) : PyException :=
  ⟨"ValidationError", library.validationText model inputs⟩

-- An "str | None" field; none stands for a value that fails its validation.
def optionalText : Json → Option (Option String)
  | .null => some none
  | .str text => some (some text)
  | _ => none

def tokenUsage (input output : Int) : Except PyException TokenUsage :=
  if 0 ≤ input ∧ 0 ≤ output then .ok ⟨input.toNat, output.toNat⟩
  else .error (validationError library "TokenUsage" [.int input, .int output])

def parseUsage (usage : Dict) : Except PyException StreamEvent :=
  match pyInt library (dictGetD "prompt_tokens" (.int 0) usage),
      pyInt library (dictGetD "completion_tokens" (.int 0) usage) with
  | .error failure, _ => .error failure
  | _, .error failure => .error failure
  | .ok input, .ok output => (tokenUsage library input output).map fun usage => .usage (some usage)

def toolCallDelta (index : Int) (id name arguments : Json) : Except PyException ToolCallDelta :=
  match optionalText id, optionalText name, optionalText arguments with
  | some id, some name, some argumentsDelta =>
      if 0 ≤ index then .ok { index := index.toNat, id, name, argumentsDelta }
      else .error (validationError library "ToolCallDelta" [.int index])
  | _, _, _ => .error (validationError library "ToolCallDelta" [.int index, id, name, arguments])

def parseToolCall (call : Dict) : Except PyException StreamEvent :=
  match pyInt library (dictGetD "index" (.int 0) call), asDict (orElse (dictGet "function" call) (.obj [])) with
  | .error failure, _ => .error failure
  | _, .error failure => .error failure
  | .ok index, .ok function =>
      (toolCallDelta library index (dictGet "id" call) (dictGet "name" function) (dictGet "arguments" function)).map
        fun delta => .toolCallDelta (some delta)

def parseFinish (choice : Dict) : Option StreamEvent :=
  if (dictGet "finish_reason" choice).truthy then some (.finish (some (pyStr (dictGet "finish_reason" choice)))) else none

def parseDelta (choice delta : Dict) : Except PyException (Option StreamEvent) :=
  if (dictGet "content" delta).truthy then .ok (some (.textDelta (some (pyStr (dictGet "content" delta)))))
  else if (dictGet "tool_calls" delta).truthy then
    match firstItem (dictGet "tool_calls" delta) with
    | .error failure => .error failure
    | .ok call =>
        match asDict call with
        | .error failure => .error failure
        | .ok call => (parseToolCall library call).map some
  else .ok (parseFinish choice)

-- The lookup of the first choice is in a try statement, .get of it is not caught.
def parseChoices (payload : Dict) : Except PyException (Option StreamEvent) :=
  if dictHas "choices" payload then
    match firstItem (dictGet "choices" payload) with
    | .error _ => .ok none
    | .ok choice =>
        match asDict choice with
        | .error failure => .error failure
        | .ok choice =>
            match asDict (orElse (dictGet "delta" choice) (.obj [])) with
            | .error failure => .error failure
            | .ok delta => parseDelta library choice delta
  else .ok none

def parsePayload (payload : Json) : Except PyException (Option StreamEvent) :=
  match asDict payload with
  | .error failure => .error failure
  | .ok fields =>
      if (dictGet "usage" fields).truthy then
        match asDict (dictGet "usage" fields) with
        | .error failure => .error failure
        | .ok usage => (parseUsage library usage).map some
      else parseChoices library fields

def parseStreamChunk (data : String) : Except PyException (Option StreamEvent) :=
  match loads data with
  | none => .ok none
  | some payload => parsePayload library payload

-- line.startswith("data:") and line[5:].strip()
def lineData (line : String) : Option String :=
  match line.toList with
  | 'd' :: 'a' :: 't' :: 'a' :: ':' :: rest => some (strip (String.ofList rest))
  | _ => none

-- How the loop over the lines of a response ends.
inductive LinesEnd where
  | returned
  | raised (failure : PyException)
  | exhausted (emittedData : Bool)

def readLines : Bool → List String → List StreamEvent × LinesEnd
  | emitted, [] => ([], .exhausted emitted)
  | emitted, line :: rest =>
      match lineData line with
      | none => readLines emitted rest
      | some data =>
          if data = "" then readLines emitted rest
          else if data = "[DONE]" then ([], .returned)
          else
            match parseStreamChunk library data with
            | .error failure => ([], .raised failure)
            | .ok event => (event.toList ++ (readLines true rest).1, (readLines true rest).2)

def retryableStatusCodes : List Nat := [429, 500, 502, 503, 504]

-- The answer to a request: what raise_for_status raises, the lines of the body
-- and the transport error that cuts them off.
structure HttpAnswer where
  status : Nat := 200
  statusError : Option PyException := none
  lines : List String
  broken : Option PyException := none
  raises : statusError.isNone = (decide (200 ≤ status) && decide (status < 300)) := by rfl

-- What is raised before the lines are read: aread takes the whole body of a
-- retryable status first.
def HttpAnswer.rejection (answer : HttpAnswer) : Option PyException :=
  if answer.status ∈ retryableStatusCodes then answer.broken <|> answer.statusError else answer.statusError

-- One attempt; none stands for another one.
def attemptStream (last : Bool) : Except PyException HttpAnswer → Option ModelStream
  | .error failure => if last then some ⟨[], some failure⟩ else none
  | .ok answer =>
      if answer.status ∈ retryableStatusCodes ∧ last = false then none
      else
        match answer.rejection with
        | some failure => some ⟨[], some failure⟩
        | none =>
            let read := readLines library false answer.lines
            match read.2, answer.broken with
            | .returned, _ => some ⟨read.1, none⟩
            | .raised failure, _ => some ⟨read.1, some failure⟩
            | .exhausted _, none => some ⟨read.1, none⟩
            | .exhausted emitted, some failure =>
                if emitted || last then some ⟨read.1, some failure⟩ else none

-- The retries that are left, and the number of this attempt.
def chatStream (answers : Nat → Except PyException HttpAnswer) : Nat → Nat → ModelStream
  | 0, attempt => (attemptStream library true (answers attempt)).getD ⟨[], none⟩
  | left + 1, attempt =>
      match attemptStream library false (answers attempt) with
      | some stream => stream
      | none => chatStream answers left (attempt + 1)

def sampleLibrary : Library where
  truncate _ := .ok 0
  parseInt _ := none
  validationText model _ := s!"1 validation error for {model}"

end DataPilot.Llm
