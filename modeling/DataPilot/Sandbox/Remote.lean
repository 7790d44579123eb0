import DataPilot.Base.JsonFields
import DataPilot.Datasets.Identifiers
import DataPilot.Sandbox.Collection

set_option autoImplicit false

namespace DataPilot.Sandbox

open DataPilot.Base DataPilot.Datasets

-- What the models take from pydantic: the lax readers of booleans and numbers, which
-- read what a dump wrote, and the bounds of the two float fields.
structure Pydantic where
  readBool : Reader Bool
  readInt : Reader Int
  readFloat : Reader FloatText
  withinMinute : FloatText → Bool
  nonNegative : FloatText → Bool
  bools : ∀ value, readBool (.bool value) = some value
  ints : ∀ value, readInt (.int value) = some value
  floats : ∀ value, readFloat (.float value) = some value
  zeroDuration : FloatText
  zero : nonNegative zeroDuration = true

def nameStart (c : Char) : Bool := c.isAlpha || c = '_'

def namePart (c : Char) : Bool := c.isAlphanum || c = '_'

-- min_length=1, max_length=80, pattern=^[A-Za-z_][A-Za-z0-9_]*$
def validTargetName (name : String) : Bool :=
  match name.toList with
  | [] => false
  | c :: rest => nameStart c && rest.all namePart && decide (rest.length < 80)

structure DatasetMount where
  datasetId : DatasetId
  targetName : String
  named : validTargetName targetName = true

variable {pydantic : Pydantic}

-- The arguments of PythonExecutor.execute, as SandboxRequest has validated them.
structure PythonCall (pydantic : Pydantic) where
  code : String
  inputFiles : List (String × String)
  distinct : (inputFiles.map Prod.fst).Nodup
  dataMounts : List DatasetMount
  timeoutSeconds : Option FloatText
  bounded : ∀ timeout ∈ timeoutSeconds, pydantic.withinMinute timeout = true

-- What the validators of SandboxArtifact leave as it is.
def SandboxArtifact.Checked (artifact : SandboxArtifact) : Prop :=
  artifactPathField artifact.path = .ok artifact.path ∧ mimeTypeField artifact.mimeType = .ok artifact.mimeType

abbrev CheckedArtifact := { artifact : SandboxArtifact // artifact.Checked }

theorem settled_path (value output : String) (accepted : artifactPathField value = .ok output) :
    artifactPathField output = .ok output := by
  obtain ⟨_, _, safe, filled, _, same⟩ := validated_path value output accepted
  obtain ⟨taken, _, _⟩ := validated_path_taken value output accepted
  obtain ⟨_, whole⟩ := contained_join value (posixPath value).tail filled (List.Subset.refl _) safe
  rw [← same] at whole
  unfold safeRelativePath at taken
  dsimp only at taken
  split at taken
  · cases taken
  · rename_i fits
    split at taken
    · cases taken
    · rename_i typed
      obtain ⟨nonempty, rest⟩ := not_or.mp fits
      obtain ⟨short, free⟩ := not_or.mp rest
      have posix : (posixPath output).asPosix = output := by
        rw [whole, PurePosixPath.asPosix, if_pos rfl, if_neg filled, same]
      unfold artifactPathField validateArtifactPath
      dsimp only
      rw [if_neg nonempty, if_neg (show ¬ 240 < output.length from short), if_neg free, if_neg typed, posix]

theorem settled_mime (value output : String) (accepted : mimeTypeField value = .ok output) :
    mimeTypeField output = .ok output := by
  have same : output = value := by
    unfold mimeTypeField at accepted
    split at accepted
    · cases accepted
    · split at accepted
      · cases accepted
      · exact (Except.ok.inj accepted).symm
  rw [same]
  rw [same] at accepted
  exact accepted

structure SandboxResult (pydantic : Pydantic) where
  ok : Bool
  stdout : String := ""
  stderr : String := ""
  truncated : Bool := false
  exitCode : Option Int := none
  timedOut : Bool := false
  durationMs : FloatText := pydantic.zeroDuration
  artifacts : List CheckedArtifact := []
  lasting : pydantic.nonNegative durationMs = true := by exact Pydantic.zero _

def mountJson (mount : DatasetMount) : Json :=
  .obj [("dataset_id", .str (idText mount.datasetId)), ("target_name", .str mount.targetName)]

def floatJson : Option FloatText → Json
  | none => .null
  | some value => .float value

def intJson : Option Int → Json
  | none => .null
  | some value => .int value

def PythonCall.body (call : PythonCall pydantic) : Json :=
  .obj [("code", .str call.code), ("input_files", .obj (call.inputFiles.map fun file => (file.1, .str file.2))),
    ("data_mounts", .arr (call.dataMounts.map mountJson)), ("timeout_seconds", floatJson call.timeoutSeconds)]

def artifactJson (artifact : CheckedArtifact) : Json :=
  .obj [("path", .str artifact.val.path), ("mime_type", .str artifact.val.mimeType), ("size", .int artifact.val.size),
    ("content_base64", .str artifact.val.contentBase64)]

def SandboxResult.body (result : SandboxResult pydantic) : Json :=
  .obj [("ok", .bool result.ok), ("stdout", .str result.stdout), ("stderr", .str result.stderr),
    ("truncated", .bool result.truncated), ("exit_code", intJson result.exitCode), ("timed_out", .bool result.timedOut),
    ("duration_ms", .float result.durationMs), ("artifacts", .arr (result.artifacts.map artifactJson))]

variable (pydantic)

def readMount : Reader DatasetMount
  | .obj fields =>
      match fieldOr none (fun value => (readText value).bind readUuid) "dataset_id" fields,
        fieldOr none readText "target_name" fields with
      | some datasetId, some name => if named : validTargetName name = true then some ⟨datasetId, name, named⟩ else none
      | _, _ => none
  | _ => none

-- SandboxExecuteRequest
def readCall : Reader (PythonCall pydantic)
  | .obj fields =>
      if onlyKeys ["code", "input_files", "data_mounts", "timeout_seconds"] fields = false then none
      else
        match fieldOr none readText "code" fields, fieldOr (some []) (readDict readText) "input_files" fields,
          fieldOr (some []) (readList readMount) "data_mounts" fields,
          fieldOr (some none) (readNullable pydantic.readFloat) "timeout_seconds" fields with
        | some code, some files, some mounts, some timeout =>
            if code = "" then none
            else if distinct : (files.map Prod.fst).Nodup then
              if bounded : ∀ seconds ∈ timeout, pydantic.withinMinute seconds = true then
                some ⟨code, files, distinct, mounts, timeout, bounded⟩
              else none
            else none
        | _, _, _, _ => none
  | _ => none

def readNat : Reader Nat := fun value => (pydantic.readInt value).bind fun number =>
  if 0 ≤ number then some number.toNat else none

def checkArtifact (given mime : String) (size : Nat) (content : String) :
    Option CheckedArtifact :=
  match taken : artifactPathField given, typed : mimeTypeField mime with
  | .ok path, .ok mimeType =>
      some ⟨⟨path, mimeType, size, content⟩, settled_path given path taken, settled_mime mime mimeType typed⟩
  | _, _ => none

def readArtifact : Reader CheckedArtifact
  | .obj fields =>
      match fieldOr none readText "path" fields, fieldOr none readText "mime_type" fields,
        fieldOr none (readNat pydantic) "size" fields, fieldOr none readText "content_base64" fields with
      | some given, some mime, some size, some content => checkArtifact given mime size content
      | _, _, _, _ => none
  | _ => none

-- ExecutionResult.model_validate; fields it does not know are passed over.
def readResult : Reader (SandboxResult pydantic)
  | .obj fields =>
      match fieldOr none pydantic.readBool "ok" fields, fieldOr (some "") readText "stdout" fields,
        fieldOr (some "") readText "stderr" fields, fieldOr (some false) pydantic.readBool "truncated" fields,
        fieldOr (some none) (readNullable pydantic.readInt) "exit_code" fields,
        fieldOr (some false) pydantic.readBool "timed_out" fields,
        fieldOr (some pydantic.zeroDuration) pydantic.readFloat "duration_ms" fields,
        fieldOr (some []) (readList (readArtifact pydantic)) "artifacts" fields with
      | some ok, some stdout, some stderr, some truncated, some exitCode, some timedOut, some durationMs, some artifacts =>
          if lasting : pydantic.nonNegative durationMs = true then
            some ⟨ok, stdout, stderr, truncated, exitCode, timedOut, durationMs, artifacts, lasting⟩
          else none
      | _, _, _, _, _, _, _, _ => none
  | _ => none

structure Response where
  status : Nat
  text : String

-- The runner: the token it expects, the texts of its 422 answers, its executor.
structure RunnerApp where
  expected : String
  problems : Option Json → String
  executor : PythonCall pydantic → Except PyException (SandboxResult pydantic)

def detailResponse (status : Nat) (detail : String) : Response :=
  ⟨status, dumps ⟨false, false⟩ (.obj [("detail", .str detail)])⟩

def serverError : Response := ⟨500, "Internal Server Error"⟩

def isAscii (text : String) : Bool := text.toList.all fun c => c.toNat < 128

-- require_token; hmac.compare_digest raises for texts that are not ASCII.
def requireToken (expected token : String) : Option Response :=
  if expected = "" then some (detailResponse 503 "Sandbox runner token is not configured.")
  else if token = "" then some (detailResponse 401 "Invalid sandbox runner token.")
  else if isAscii token = false ∨ isAscii expected = false then some serverError
  else if token ≠ expected then some (detailResponse 401 "Invalid sandbox runner token.")
  else none

variable {pydantic}

-- The calls that reach the executor, and the answer. The body is parsed before the
-- dependencies run and validated after them.
def RunnerApp.handle (runner : RunnerApp pydantic) (token text : String) : List (PythonCall pydantic) × Response :=
  match loads text with
  | none => ([], ⟨422, runner.problems none⟩)
  | some body =>
      match requireToken runner.expected token with
      | some refusal => ([], refusal)
      | none =>
          match readCall pydantic body with
          | none => ([], ⟨422, runner.problems (some body)⟩)
          | some call =>
              match runner.executor call with
              | .error _ => ([call], serverError)
              | .ok result => ([call], ⟨200, dumps ⟨false, false⟩ result.body⟩)

-- An HTTP error can come before the request has arrived or after it.
inductive Delivery where
  | lost (errorType : String) (arrived : Bool)
  | answered

def runnerUnavailable (errorType : String) : SandboxResult pydantic :=
  { ok := false, stderr := s!"Sandbox runner unavailable: {errorType}" }

def runnerRejected (response : Response) : SandboxResult pydantic :=
  { ok := false, stderr := s!"Sandbox runner rejected execution: {slice response.text 1000}" }

def invalidResponse : PyException := ⟨"SandboxRunnerError", "Sandbox runner returned an invalid response."⟩

def readResponse (response : Response) : Except PyException (SandboxResult pydantic) :=
  if response.status ≠ 200 then .ok (runnerRejected response)
  else
    match loads response.text with
    | none => .error invalidResponse
    | some body =>
        match readResult pydantic body with
        | none => .error invalidResponse
        | some result => .ok result

-- The token of a client, and what its ASCII codec says of a text that it refuses.
structure SandboxClient where
  token : String
  codecRefusal : String → String

def SandboxClient.encodeError (client : SandboxClient) : PyException :=
  ⟨"UnicodeEncodeError", client.codecRefusal client.token⟩

-- SandboxClient.execute against a runner: what the runner's executor is called
-- with, and what the caller gets. A header is encoded before anything is sent, and
-- what that raises is no HTTPError.
def SandboxClient.execute (client : SandboxClient) (runner : RunnerApp pydantic) (delivery : Delivery)
    (call : PythonCall pydantic) : List (PythonCall pydantic) × Except PyException (SandboxResult pydantic) :=
  if isAscii client.token = false then ([], .error client.encodeError)
  else
    let handled := runner.handle client.token (dumps ⟨false, false⟩ call.body)
    match delivery with
    | .lost errorType arrived => (if arrived then handled.1 else [], .ok (runnerUnavailable errorType))
    | .answered => (handled.1, readResponse handled.2)

theorem mount_round_trip (mount : DatasetMount) : readMount (mountJson mount) = some mount := by
  obtain ⟨datasetId, targetName, named⟩ := mount
  simp [mountJson, readMount, fieldOr, dictHas, dictGet, readText, read_id_text, named]

variable (pydantic) in
theorem float_round_trip (value : Option FloatText) : readNullable pydantic.readFloat (floatJson value) = some value := by
  have written := read_nullable_written pydantic.readFloat Json.float value fun inner _ => ⟨pydantic.floats inner, by simp⟩
  cases value <;> exact written

variable (pydantic) in
theorem int_round_trip (value : Option Int) : readNullable pydantic.readInt (intJson value) = some value := by
  have written := read_nullable_written pydantic.readInt Json.int value fun inner _ => ⟨pydantic.ints inner, by simp⟩
  cases value <;> exact written

theorem call_round_trip (call : PythonCall pydantic) (coded : call.code ≠ "") : readCall pydantic call.body = some call := by
  obtain ⟨code, inputFiles, distinct, dataMounts, timeoutSeconds, bounded⟩ := call
  have files := read_entries_written readText Json.str inputFiles fun _ _ => rfl
  have mounts := read_list_written readMount mountJson dataMounts fun mount _ => mount_round_trip mount
  have timeout := float_round_trip pydantic timeoutSeconds
  dsimp only at coded
  simp [PythonCall.body, readCall, onlyKeys, fieldOr, dictHas, dictGet, readText]
  rw [files, mounts, timeout]
  simp [coded, distinct]
  exact bounded

theorem check_checked (artifact : CheckedArtifact) :
    checkArtifact artifact.val.path artifact.val.mimeType artifact.val.size artifact.val.contentBase64 = some artifact := by
  obtain ⟨artifact, taken, typed⟩ := artifact
  unfold checkArtifact
  split
  · rename_i path mimeType accepted known
    have same : path = artifact.path := Except.ok.inj (accepted.symm.trans taken)
    have alike : mimeType = artifact.mimeType := Except.ok.inj (known.symm.trans typed)
    subst same alike
    rfl
  · rename_i refused
    exact (refused _ _ taken typed).elim

theorem artifact_round_trip (artifact : CheckedArtifact) : readArtifact pydantic (artifactJson artifact) = some artifact := by
  have size : readNat pydantic (.int artifact.val.size) = some artifact.val.size := by simp [readNat, pydantic.ints]
  simp [artifactJson, readArtifact, fieldOr, dictHas, dictGet, readText, size, check_checked artifact]

theorem result_round_trip (result : SandboxResult pydantic) : readResult pydantic result.body = some result := by
  obtain ⟨ok, stdout, stderr, truncated, exitCode, timedOut, durationMs, artifacts, lasting⟩ := result
  have files := read_list_written (readArtifact pydantic) artifactJson artifacts fun artifact _ => artifact_round_trip artifact
  have exits := int_round_trip pydantic exitCode
  simp [SandboxResult.body, readResult, fieldOr, dictHas, dictGet, readText, pydantic.bools, pydantic.floats]
  rw [files, exits]
  simp [lasting]

theorem table_name_mountable (id : DatasetId) : validTargetName (tableNameOf id) = true := by
  have digits : ∀ n < 16, namePart (hexDigit n) = true := by decide
  have letters : (tableNameOf id).toList = 'd' :: (['a', 't', 'a', 's', 'e', 't', '_'] ++ (hexText id).toList.take 12) := by
    simp only [tableNameOf, slice, String.toList_append, String.toList_ofList]
    rfl
  have hex : ((hexText id).toList.take 12).all namePart = true := by
    rw [List.all_eq_true]
    intro c member
    have inside := List.mem_of_mem_take member
    rw [hexText, String.toList_ofList] at inside
    obtain ⟨place, _, rfl⟩ := List.mem_map.mp inside
    exact digits _ (Nat.mod_lt _ (by decide))
  have front : ['a', 't', 'a', 's', 'e', 't', '_'].all namePart = true := by decide
  unfold validTargetName
  rw [letters]
  dsimp only
  rw [List.all_append, front, hex, List.length_append, List.length_take, hex_text_length]
  decide

theorem files_merged (files : List (String × String)) (distinct : (files.map Prod.fst).Nodup) :
    mergeKeys (.obj (files.map fun file => (file.1, .str file.2))) = .obj (files.map fun file => (file.1, .str file.2)) := by
  apply settled_merged
  constructor
  · rw [List.map_map]
    exact distinct
  · intro field member
    obtain ⟨file, _, rfl⟩ := List.mem_map.mp member
    rfl

theorem mount_merged (mount : DatasetMount) : mergeKeys (mountJson mount) = mountJson mount := rfl

theorem artifact_merged (artifact : CheckedArtifact) : mergeKeys (artifactJson artifact) = artifactJson artifact := rfl

theorem float_merged (value : Option FloatText) : mergeKeys (floatJson value) = floatJson value := by
  cases value <;> rfl

theorem int_merged (value : Option Int) : mergeKeys (intJson value) = intJson value := by
  cases value <;> rfl

theorem call_merged (call : PythonCall pydantic) : mergeKeys call.body = call.body := by
  apply settled_merged
  constructor
  · simp
  · simp only [List.forall_mem_cons]
    exact ⟨rfl, files_merged call.inputFiles call.distinct, merged_map mountJson call.dataMounts mount_merged,
      float_merged call.timeoutSeconds, by simp⟩

theorem result_merged (result : SandboxResult pydantic) : mergeKeys result.body = result.body := by
  apply settled_merged
  constructor
  · simp
  · simp only [List.forall_mem_cons]
    exact ⟨rfl, rfl, rfl, rfl, int_merged result.exitCode, rfl, rfl,
      merged_map artifactJson result.artifacts artifact_merged, by simp⟩

theorem result_read_back (result : SandboxResult pydantic) :
    readResponse ⟨200, dumps ⟨false, false⟩ result.body⟩ = .ok result := by
  unfold readResponse
  rw [loads_dumps, result_merged]
  dsimp only
  rw [result_round_trip]
  rfl

theorem refusal_not_ok (expected token : String) (refusal : Response) (refused : requireToken expected token = some refusal) :
    refusal.status ≠ 200 := by
  unfold requireToken at refused
  split at refused
  · cases refused
    decide
  · split at refused
    · cases refused
      decide
    · split at refused
      · cases refused
        decide
      · split at refused
        · cases refused
          decide
        · cases refused

theorem rejection_read (response : Response) (failed : response.status ≠ 200) :
    (readResponse response : Except PyException (SandboxResult pydantic)) = .ok (runnerRejected response) := by
  rw [readResponse, if_pos failed]

def Admitted (runner : RunnerApp pydantic) (token : String) : Prop := requireToken runner.expected token = none

theorem handled_call (runner : RunnerApp pydantic) (token : String) (call : PythonCall pydantic) (coded : call.code ≠ "") :
    (Admitted runner token ∧ (runner.handle token (dumps ⟨false, false⟩ call.body)).1 = [call] ∧
      readResponse (runner.handle token (dumps ⟨false, false⟩ call.body)).2 =
        match runner.executor call with
        | .ok result => .ok result
        | .error _ => .ok (runnerRejected serverError)) ∨
    (¬ Admitted runner token ∧ (runner.handle token (dumps ⟨false, false⟩ call.body)).1 = [] ∧
      ∃ refusal, (readResponse (runner.handle token (dumps ⟨false, false⟩ call.body)).2 :
        Except PyException (SandboxResult pydantic)) = .ok (runnerRejected refusal)) := by
  have parsed : loads (dumps ⟨false, false⟩ call.body) = some call.body := by
    rw [loads_dumps, call_merged]
  unfold RunnerApp.handle Admitted
  rw [parsed]
  dsimp only
  cases checked : requireToken runner.expected token with
  | some refusal =>
      refine .inr ⟨by simp, rfl, refusal, ?_⟩
      exact rejection_read refusal (refusal_not_ok runner.expected token refusal checked)
  | none =>
      rw [call_round_trip call coded]
      dsimp only
      cases answered : runner.executor call with
      | error failure => exact .inl ⟨rfl, rfl, rejection_read serverError (by decide)⟩
      | ok result => exact .inl ⟨rfl, rfl, result_read_back result⟩

def Delivery.arrives : Delivery → Bool
  | .lost _ arrived => arrived
  | .answered => true

-- Going through the runner with a token that can be sent is as good as calling its
-- executor: the executor gets the call as it was made, once, or not at all, and a result
-- that is returned comes back as it is. Whatever else happens is told by a result that is not ok.
theorem remote_agrees (runner : RunnerApp pydantic) (client : SandboxClient) (delivery : Delivery) (call : PythonCall pydantic)
    (coded : call.code ≠ "") :
    (isAscii client.token = false → client.execute runner delivery call = ([], .error client.encodeError)) ∧
      (isAscii client.token = true →
        ((client.execute runner delivery call).1 = [call] ↔ Admitted runner client.token ∧ delivery.arrives = true) ∧
        ((client.execute runner delivery call).1 = [call] ∨ (client.execute runner delivery call).1 = []) ∧
        (Admitted runner client.token → delivery = .answered → ∀ result, runner.executor call = .ok result →
          (client.execute runner delivery call).2 = .ok result) ∧
        (¬ (Admitted runner client.token ∧ delivery = .answered ∧ ∃ result, runner.executor call = .ok result) →
          ∃ told, (client.execute runner delivery call).2 = .ok told ∧ told.ok = false)) := by
  refine ⟨fun wide => if_pos wide, fun plain => ?_⟩
  have reached := handled_call runner client.token call coded
  unfold SandboxClient.execute
  rw [if_neg (by simp [plain])]
  dsimp only
  generalize runner.handle client.token (dumps ⟨false, false⟩ call.body) = handled at reached ⊢
  cases delivery with
  | lost errorType arrived =>
      refine ⟨?_, ?_, ?_, fun _ => ⟨_, rfl, rfl⟩⟩
      · cases arrived with
        | false => simp [Delivery.arrives]
        | true =>
            cases reached with
            | inl passed => simp [Delivery.arrives, passed.1, passed.2.1]
            | inr refused => simp [Delivery.arrives, refused.1, refused.2.1]
      · cases arrived with
        | false => exact .inr rfl
        | true =>
            cases reached with
            | inl passed => exact .inl passed.2.1
            | inr refused => exact .inr refused.2.1
      · intro _ same
        cases same
  | answered =>
      dsimp only
      cases reached with
      | inl passed =>
          obtain ⟨admitted, calls, answer⟩ := passed
          refine ⟨?_, .inl calls, ?_, ?_⟩
          · simp [Delivery.arrives, admitted, calls]
          · intro _ _ result executed
            rw [executed] at answer
            exact answer
          · intro failed
            cases executed : runner.executor call with
            | error failure =>
                rw [executed] at answer
                exact ⟨_, answer, rfl⟩
            | ok result => exact (failed ⟨admitted, rfl, result, executed⟩).elim
      | inr refused =>
          obtain ⟨barred, calls, refusal, answer⟩ := refused
          refine ⟨?_, .inr calls, fun admitted => (barred admitted).elim, fun _ => ⟨_, answer, rfl⟩⟩
          simp [Delivery.arrives, barred, calls]

section Sample

def samplePydantic : Pydantic where
  readBool
    | .bool value => some value
    | _ => none
  readInt
    | .int value => some value
    | _ => none
  readFloat
    | .float value => some value
    | _ => none
  withinMinute seconds := seconds.text ∈ ["0.5", "10.0", "60.0"]
  nonNegative milliseconds := milliseconds.text.toList.head? ≠ some '-'
  bools _ := rfl
  ints _ := rfl
  floats _ := rfl
  zeroDuration := ⟨"0.0", by decide⟩
  zero := by decide

def sampleCall : PythonCall samplePydantic where
  code := "print(1)"
  inputFiles := [("notes.txt", "a")]
  distinct := by decide
  dataMounts := [⟨5, "dataset_000000000000", by decide⟩]
  timeoutSeconds := none
  bounded := by simp

def printed : SandboxResult samplePydantic := { ok := true, stdout := "1\n", exitCode := some 0 }

def sampleRunner : RunnerApp samplePydantic := ⟨"secret", fun _ => "", fun _ => .ok printed⟩

def sampleClient (token : String) : SandboxClient := ⟨token, fun _ => "ordinal not in range(128)"⟩

theorem remote_agrees_printed :
    ((sampleClient "secret").execute sampleRunner .answered sampleCall).2 = .ok printed ∧
      (sampleClient "sécret").execute sampleRunner .answered sampleCall = ([], .error (sampleClient "sécret").encodeError) := by
  have plain := (remote_agrees sampleRunner (sampleClient "secret") .answered sampleCall (by decide)).2 (by decide)
  refine ⟨plain.2.2.1 (by unfold Admitted; decide) rfl printed rfl, ?_⟩
  exact (remote_agrees sampleRunner (sampleClient "sécret") .answered sampleCall (by decide)).1 (by decide)

end Sample

end DataPilot.Sandbox
