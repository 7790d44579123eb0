import DataPilot.Base.Logged
import DataPilot.Sandbox.ArtifactPaths
import DataPilot.Sandbox.InputFiles

set_option autoImplicit false

namespace DataPilot.Sandbox.Runner

open DataPilot.Base

def workspace : List String := ["/", "workspace"]

def mainFile : List String := workspace ++ ["main.py"]

abbrev Writes := Logged (List String × List UInt8)

-- What mkdir and write_bytes do in the container.
structure Disk where
  mkdir : List String → Except PyException Unit
  writeBytes : List String → List UInt8 → Except PyException Unit

-- _safe_relative_path of the runner. The path "." has no parts and ends in an IndexError.
def safeRelativePath (value : String) : Except PyException (List String) :=
  let path := posixPath value
  if path.isAbsolute = true ∨ value = "" ∨ (path.parts.any fun part => part ∈ ["", ".", ".."]) = true then
    .error ⟨"ValueError", s!"Invalid sandbox input path: {value}"⟩
  else
    match path.parts.head? with
    | none => .error ⟨"IndexError", "tuple index out of range"⟩
    | some first =>
        if first = "main.py" then .error ⟨"ValueError", "Input files must not overwrite main.py."⟩
        else .ok (workspace ++ path.parts)

def raising {α : Type} (failure : PyException) : Writes α := Logged.raising (.exception failure)

-- target.write_bytes(base64.b64decode(content))
def Disk.write (disk : Disk) (target : List String) (content : Except PyException (List UInt8)) : Writes Unit :=
  match content with
  | .error failure => raising failure
  | .ok bytes =>
      match disk.writeBytes target bytes with
      | .error failure => raising failure
      | .ok () => ⟨[(target, bytes)], .ok ()⟩

-- The two calls for one file: mkdir of the parent, then the write.
def Disk.save (disk : Disk) (target : List String) (content : Except PyException (List UInt8)) : Writes Unit :=
  match disk.mkdir target.dropLast with
  | .error failure => raising failure
  | .ok () => disk.write target content

def writeEach (disk : Disk) : Dict → Writes Unit
  | [] => Logged.returning ()
  | (relativePath, .str content) :: rest =>
      match safeRelativePath relativePath with
      | .error failure => raising failure
      | .ok target => (disk.save target (b64decode false content)).andThen fun _ => writeEach disk rest
  | _ :: _ => raising ⟨"ValueError", "Sandbox input files must map paths to base64 strings."⟩

-- str of the errors of the two decoders.
variable (decodeText : List UInt8 → String) (jsonText : String → String)

-- json.loads(base64.b64decode(encoded).decode("utf-8"))
def decodedFiles (encoded : String) : Except PyException Json :=
  match b64decode false encoded with
  | .error failure => .error failure
  | .ok bytes =>
      match utf8Decode bytes with
      | none => .error ⟨"UnicodeDecodeError", decodeText bytes⟩
      | some text =>
          match loads text with
          | none => .error ⟨"JSONDecodeError", jsonText text⟩
          | some files => .ok files

def writeInputFiles (disk : Disk) (encoded : String) : Writes Unit :=
  if encoded = "" then Logged.returning ()
  else
    match decodedFiles decodeText jsonText encoded with
    | .error failure => raising failure
    | .ok (.obj fields) => writeEach disk fields
    | .ok _ => raising ⟨"ValueError", "Sandbox input files must be an object."⟩

-- main, up to os.chdir and os.execv of the main file.
def main (disk : Disk) (encodedFiles encodedCode : String) : Writes Unit :=
  if encodedCode = "" then raising ⟨"ValueError", "Missing sandbox code."⟩
  else
    match disk.mkdir workspace with
    | .error failure => raising failure
    | .ok () =>
        (writeInputFiles decodeText jsonText disk encodedFiles).andThen fun _ =>
          disk.write mainFile (b64decode false encodedCode)

-- What the hand-over is for: these files, one after the other.
def saveEach (disk : Disk) : List (List String × List UInt8) → Writes Unit
  | [] => Logged.returning ()
  | (target, bytes) :: rest => (disk.save target (.ok bytes)).andThen fun _ => saveEach disk rest

def inputTarget (path : String) : List String := workspace ++ splitSlash path

def handedOver (files : InputFiles) : List (List String × List UInt8) :=
  files.entries.map fun entry => (inputTarget entry.1, entry.2.raw)

-- The path and the bytes that one field of the decoded object stands for.
def decodedField : String × Json → String × Option (List UInt8)
  | (path, .str content) => (path, (b64decode false content).toOption)
  | (path, _) => (path, none)

theorem safe_input_path (value : String) (input : InputPath value) : safeRelativePath value = .ok (inputTarget value) := by
  have plain : ∀ part ∈ splitSlash value, Plain part := fun part member => (input.plain part member).1
  have read : posixPath value = ⟨"", splitSlash value⟩ := by
    have joined := posix_join (splitSlash value) (split_some value) plain
    rwa [join_split] at joined
  have parts : (posixPath value).parts = splitSlash value := by rw [read, PurePosixPath.parts, if_pos rfl]
  have relative : (posixPath value).isAbsolute = false := by
    rw [read]
    rfl
  have filled : value ≠ "" := by
    rintro rfl
    exact (plain "" (by decide)).filled rfl
  have dots : (splitSlash value).any (fun part => part ∈ ["", ".", ".."]) = false := by
    rw [List.any_eq_false]
    intro part member
    obtain ⟨solid, up⟩ := input.plain part member
    simp [solid.filled, solid.moving, up]
  rw [safeRelativePath, relative, parts, if_neg (by rw [dots]; simp [filled])]
  cases first : (splitSlash value).head? with
  | none => exact absurd (List.head?_eq_none_iff.mp first) (split_some value)
  | some part => exact if_neg fun main => input.first (by rw [first, main])

theorem input_target_inside (value : String) (input : InputPath value) : InsideDirectory workspace (inputTarget value) :=
  ⟨_, split_some value, rfl, input.plain⟩

theorem input_target_not_main (value : String) (input : InputPath value) : inputTarget value ≠ mainFile := by
  intro same
  have parts := List.append_cancel_left same
  exact input.first (by rw [parts]; rfl)

theorem input_targets_distinct (files : InputFiles) : ((handedOver files).map Prod.fst).Nodup := by
  have injective : Function.Injective inputTarget := fun one other same =>
    split_injective one other (List.append_cancel_left same)
  have targets := files.distinct.map injective
  rw [List.map_map] at targets
  rw [handedOver, List.map_map]
  exact targets

theorem encoded_settled (files : InputFiles) : SettledFields (encodedFields files) := by
  constructor
  · rw [encodedFields, List.map_map]
    exact files.distinct
  · intro field member
    obtain ⟨entry, _, rfl⟩ := List.mem_map.mp member
    rfl

theorem decoded_encoded (files : InputFiles) :
    decodedFiles decodeText jsonText (encodeInputFiles files) = .ok (.obj (encodedFields files)) := by
  rw [decodedFiles, encodeInputFiles, encodedText, b64decode_encode]
  dsimp only
  rw [utf8_decode_encode, String.ofList_toList]
  dsimp only
  rw [loads_dumps, settled_merged _ (encoded_settled files)]

theorem encoded_filled (files : InputFiles) : encodeInputFiles files ≠ "" := by
  intro empty
  have decoded := decoded_encoded (fun _ => "") (fun _ => "") files
  rw [empty] at decoded
  exact absurd decoded (by simp [decodedFiles, show b64decode false "" = .ok [] from rfl,
    show utf8Decode [] = some "" from rfl, show loads "" = none from rfl])

theorem write_each_encoded (disk : Disk) (entries : List (String × InputContent))
    (inputs : ∀ entry ∈ entries, InputPath entry.1) :
    writeEach disk (entries.map fun entry => (entry.1, .str (encodedText entry.2.raw))) =
      saveEach disk (entries.map fun entry => (inputTarget entry.1, entry.2.raw)) := by
  induction entries with
  | nil => rfl
  | cons entry rest ih =>
      obtain ⟨input, later⟩ := List.forall_mem_cons.mp inputs
      rw [List.map_cons, List.map_cons, writeEach, safe_input_path entry.1 input, saveEach, ih later]
      dsimp only
      rw [encodedText, b64decode_encode]

theorem write_encoded (disk : Disk) (files : InputFiles) (inputs : ∀ entry ∈ files.entries, InputPath entry.1) :
    writeInputFiles decodeText jsonText disk (encodeInputFiles files) = saveEach disk (handedOver files) := by
  rw [writeInputFiles, if_neg (encoded_filled files), decoded_encoded]
  exact write_each_encoded disk files.entries inputs

theorem decoded_fields (files : InputFiles) :
    (encodedFields files).map decodedField = files.entries.map fun entry => (entry.1, some entry.2.raw) := by
  rw [encodedFields, List.map_map]
  apply List.map_congr_left
  intro entry _
  rw [Function.comp_apply, decodedField, encodedText, b64decode_encode]
  rfl

theorem hand_over_round_trip (limits : PayloadLimits) (code : String) (files : InputFiles)
    (mounts : List SandboxDatasetMount) (accepted : validatePayload limits code files mounts = .ok none) :
    (∃ fields, decodedFiles decodeText jsonText (encodeInputFiles files) = .ok (.obj fields) ∧
        fields.map decodedField = files.entries.map fun entry => (entry.1, some entry.2.raw)) ∧
      (∀ disk, writeInputFiles decodeText jsonText disk (encodeInputFiles files) = saveEach disk (handedOver files)) ∧
      (∀ entry ∈ files.entries, safeRelativePath entry.1 = .ok (inputTarget entry.1) ∧
        InsideDirectory workspace (inputTarget entry.1) ∧ inputTarget entry.1 ≠ mainFile) ∧
      ((handedOver files).map Prod.fst).Nodup := by
  have inputs := accepted_paths limits code files mounts accepted
  refine ⟨⟨_, decoded_encoded decodeText jsonText files, decoded_fields files⟩, ?_, ?_, input_targets_distinct files⟩
  · exact fun disk => write_encoded decodeText jsonText disk files inputs
  · intro entry member
    have input := inputs entry member
    exact ⟨safe_input_path entry.1 input, input_target_inside entry.1 input, input_target_not_main entry.1 input⟩

def sampleInputs : InputFiles where
  entries := [("data\\a.csv", .text "x,y\n"), ("notes/b.bin", .bytes [0, 255])]
  distinct := by decide

theorem sample_hand_over :
    ∃ fields, decodedFiles (fun _ => "") (fun _ => "") (encodeInputFiles sampleInputs) = .ok (.obj fields) ∧
      fields.map decodedField = [("data\\a.csv", some [120, 44, 121, 10]), ("notes/b.bin", some [0, 255])] :=
  (hand_over_round_trip (fun _ => "") (fun _ => "") ⟨80000, 300, 48000⟩ "print(1)" sampleInputs [] (by decide)).1

theorem save_each_working (disk : Disk) (working : ∀ target, disk.mkdir target = .ok ())
    (writing : ∀ target bytes, disk.writeBytes target bytes = .ok ()) (files : List (List String × List UInt8)) :
    saveEach disk files = ⟨files, .ok ()⟩ := by
  induction files with
  | nil => rfl
  | cons file rest ih =>
      rw [saveEach, ih, Disk.save, working, Disk.write, writing]
      rfl

theorem main_writes (disk : Disk) (working : ∀ target, disk.mkdir target = .ok ())
    (writing : ∀ target bytes, disk.writeBytes target bytes = .ok ()) (limits : PayloadLimits) (code : String)
    (files : InputFiles) (mounts : List SandboxDatasetMount)
    (accepted : validatePayload limits code files mounts = .ok none) :
    main decodeText jsonText disk (encodeInputFiles files) (encodeCode code) =
      ⟨handedOver files ++ [(mainFile, utf8 code.toList)], .ok ()⟩ := by
  have filled : encodeCode code ≠ "" := by
    intro empty
    have decoded := b64decode_encode false (utf8 code.toList)
    rw [encodeCode, encodedText] at empty
    rw [empty] at decoded
    have text := utf8_decode_encode code.toList
    rw [← Except.ok.inj decoded, String.ofList_toList] at text
    exact accepted_code limits code files mounts accepted (Option.some.inj text).symm
  rw [main, if_neg filled, working, write_encoded decodeText jsonText disk files
    (accepted_paths limits code files mounts accepted), save_each_working disk working writing]
  dsimp only [Logged.andThen]
  rw [encodeCode, encodedText, b64decode_encode, Disk.write, writing]

end DataPilot.Sandbox.Runner
