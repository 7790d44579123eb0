import DataPilot.Artifacts.Store
import DataPilot.Sandbox.InputFiles
import DataPilot.Sandbox.Service
import DataPilot.Tools.InitialTools

set_option autoImplicit false

namespace DataPilot.Tools

open DataPilot.Artifacts DataPilot.Base DataPilot.Datasets DataPilot.Sandbox
open DataPilot.Tools.Shared (pyValue)

def maxGeneratedCodeLines : Nat := 300

-- What build_run_python_tool is given, with the refusals of pydantic, the text of a
-- workspace id and what a call of persist meets.
structure PythonTool (pydantic : Pydantic) where
  refusal : Dict → String
  mountRefusal : Dataset → String
  requestRefusal : String → String
  service : SandboxService pydantic
  workspaceText : Nat → String
  guessType : String → Option String
  batch : List SandboxArtifact → Artifacts.Batch
  batchItems : ∀ artifacts, (batch artifacts).items.map Prod.fst = artifacts
  viewJson : ArtifactView → Json

-- What a call asks of the sandbox, leaves in the archive and returns.
structure PythonOutcome (pydantic : Pydantic) where
  requests : List (SandboxRequest pydantic)
  archive : Archive
  result : Except Thrown PyValue

structure PythonArguments where
  code : String
  datasets : List String

-- The arguments model of run_python.
def readArguments (arguments : Dict) : Option PythonArguments :=
  if onlyKeys ["code", "datasets"] arguments = false then none
  else
    match fieldOr none readText "code" arguments, fieldOr none (readList readText) "datasets" arguments with
    | some code, some datasets =>
        if 1 ≤ code.length ∧ code.length ≤ 80000 ∧ 1 ≤ datasets.length ∧ datasets.length ≤ maxDatasetMounts then
          some ⟨code, datasets⟩
        else none
    | _, _ => none

-- The two checks of the handler before it asks for the workspace.
def checkArguments (arguments : PythonArguments) : Option PyException :=
  if maxGeneratedCodeLines < lineCount arguments.code then
    some ⟨"ValueError",
      s!"Generated Python exceeds {maxGeneratedCodeLines} lines and requires manual review."⟩
  else if ¬ arguments.datasets.Nodup then some ⟨"ValueError", "Dataset names must be unique."⟩
  else none

-- SandboxDatasetMount(dataset_id=dataset.id, target_name=dataset.table_name)
def mountOf (dataset : Dataset) : Option DatasetMount :=
  if named : validTargetName dataset.tableName = true then some ⟨dataset.id, dataset.tableName, named⟩ else none

def mountsOf : List Dataset → Except Dataset (List DatasetMount)
  | [] => .ok []
  | dataset :: rest =>
      match mountOf dataset with
      | none => .error dataset
      | some mount => (mountsOf rest).map (mount :: ·)

variable {pydantic : Pydantic} (tool : PythonTool pydantic)

def pythonRequest (code : String) (dataMounts : List DatasetMount) : SandboxRequest pydantic :=
  { kind := .python, code := some code, dataMounts }

def PythonTool.payload (result : SandboxResult pydantic) (artifacts : List ArtifactView) : Json :=
  .obj [("ok", .bool result.ok), ("stdout", .str result.stdout), ("stderr", .str result.stderr),
    ("truncated", .bool result.truncated), ("timed_out", .bool result.timedOut), ("exit_code", intJson result.exitCode),
    ("duration_ms", .float result.durationMs), ("artifacts", .arr (artifacts.map tool.viewJson))]

def raised (archive : Archive) (failure : PyException) : PythonOutcome pydantic := ⟨[], archive, .error (.exception failure)⟩

-- The handler from the resolved tables on.
def PythonTool.executing (workspaceId : Nat) (code : String) (mounts : List DatasetMount) (archive : Archive) :
    PythonOutcome pydantic :=
  let request := pythonRequest code mounts
  match request.problem with
  | some text => raised archive ⟨"ValidationError", tool.requestRefusal text⟩
  | none =>
      match tool.service.execute request with
      | .error failure => ⟨[request], archive, .error (.exception failure)⟩
      | .ok result =>
          let (next, stored) := persist tool.guessType (tool.workspaceText workspaceId) archive
            (tool.batch (result.artifacts.map Subtype.val))
          ⟨[request], next, stored.map fun artifacts => pyValue (tool.payload result artifacts)⟩

def PythonTool.runPython (workspaceId : Option Nat) (arguments : Dict) (rows : List Dataset) (archive : Archive) :
    PythonOutcome pydantic :=
  match readArguments arguments with
  | none => raised archive ⟨"ValidationError", tool.refusal arguments⟩
  | some given =>
      match checkArguments given with
      | some failure => raised archive failure
      | none =>
          match workspaceId with
          | none => raised archive noActiveWorkspace
          | some workspace =>
              match resolveTables workspace given.datasets rows with
              | .error failure => raised archive failure
              | .ok resolved =>
                  match mountsOf resolved with
                  | .error dataset => raised archive ⟨"ValidationError", tool.mountRefusal dataset⟩
                  | .ok mounts => tool.executing workspace given.code mounts archive

-- The mounts as the executor's own checks see them.
def executorMount (mount : DatasetMount) : SandboxDatasetMount := ⟨idText mount.datasetId, mount.targetName⟩

theorem mounts_named (datasets : List Dataset) (named : ∀ dataset ∈ datasets, dataset.tableName = tableNameOf dataset.id) :
    ∃ mounts, mountsOf datasets = .ok mounts ∧ mounts.map DatasetMount.datasetId = datasets.map Dataset.id ∧
      mounts.map DatasetMount.targetName = datasets.map Dataset.tableName := by
  induction datasets with
  | nil => exact ⟨[], rfl, rfl, rfl⟩
  | cons dataset rest ih =>
      obtain ⟨mounts, mounted, ids, names⟩ := ih fun other member => named other (by simp [member])
      have valid : validTargetName dataset.tableName = true := by
        rw [named dataset (by simp)]
        exact table_name_mountable dataset.id
      refine ⟨⟨dataset.id, dataset.tableName, valid⟩ :: mounts, ?_, ?_, ?_⟩
      · rw [mountsOf, mountOf, dif_pos valid, mounted]
        rfl
      · rw [List.map_cons, List.map_cons, ids]
      · rw [List.map_cons, List.map_cons, names]

theorem id_text_injective (one other : DatasetId) (same : idText one = idText other) : one = other := by
  have read := read_id_text one
  rw [same, read_id_text other] at read
  exact (Option.some.inj read).symm

theorem persisted_each_rows (guessType : String → Option String) (batchDir : List String) (workspaceId : String)
    (items : List Item) (disk next : Artifacts.Disk) (before records : List Artifact)
    (own : ∀ record ∈ before, record.workspaceId = workspaceId)
    (done : persistEach guessType batchDir workspaceId items disk before = (next, .ok records)) :
    ∀ record ∈ records, record.workspaceId = workspaceId := by
  induction items generalizing disk before with
  | nil =>
      cases done
      exact own
  | cons item rest ih =>
      rw [persistEach] at done
      cases stored : storeOne item with
      | error stop =>
          obtain ⟨thrown, left⟩ := stop
          rw [stored] at done
          cases left <;> simp at done
      | ok file =>
          rw [stored] at done
          apply ih _ _ ?_ done
          intro record member
          cases List.mem_append.mp member with
          | inl old => exact own record old
          | inr new =>
              rw [List.mem_singleton.mp new]
              rfl

theorem session_rows (guessType : String → Option String) (batchDir : List String) (workspaceId : String)
    (archive : Archive) (batch : Artifacts.Batch) :
    ∀ record ∈ (persistSession guessType batchDir workspaceId archive batch).1.rows,
      record ∈ archive.rows ∨ record.workspaceId = workspaceId := by
  unfold persistSession
  cases done : persistEach guessType batchDir workspaceId batch.items archive.disk [] with
  | mk disk outcome =>
      cases outcome with
      | error thrown => exact fun record member => .inl member
      | ok records =>
          have own := persisted_each_rows guessType batchDir workspaceId batch.items archive.disk disk [] records (by simp) done
          have added : ∀ record ∈ archive.rows ++ records, record ∈ archive.rows ∨ record.workspaceId = workspaceId := by
            intro record member
            exact (List.mem_append.mp member).imp_right (own record)
          dsimp only
          cases batch.commit with
          | error thrown =>
              dsimp only
              split
              · exact added
              · exact fun record member => .inl member
          | ok _ => exact added

theorem persisted_rows (guessType : String → Option String) (workspaceId : String) (archive : Archive) (batch : Artifacts.Batch) :
    ∀ record ∈ (persist guessType workspaceId archive batch).1.rows,
      record ∈ archive.rows ∨ record.workspaceId = workspaceId := by
  unfold persist
  have session := session_rows guessType (archive.batchDirectory batch) workspaceId archive batch
  split
  · exact fun record member => .inl member
  · cases ended : persistSession guessType (archive.batchDirectory batch) workspaceId archive batch with
    | mk next outcome =>
        rw [ended] at session
        cases outcome with
        | ok records => exact session
        | error thrown => cases thrown <;> exact session

structure Mountable (workspace : Nat) (rows : List Dataset) (mounts : List DatasetMount) : Prop where
  owned : ∀ mount ∈ mounts, ∃ row ∈ rows, row.workspaceId = workspace ∧ row.status = .ready ∧
    row.id = mount.datasetId ∧ row.tableName = mount.targetName
  names : (mounts.map DatasetMount.targetName).Nodup
  ids : (mounts.map DatasetMount.datasetId).Nodup
  some : 1 ≤ mounts.length
  few : mounts.length ≤ maxDatasetMounts

theorem resolved_ids (datasets rows : List Dataset) (listed : ∀ dataset ∈ datasets, dataset ∈ rows)
    (named : (datasets.map Dataset.tableName).Nodup) (uniqueIds : (rows.map Dataset.id).Nodup) :
    (datasets.map Dataset.id).Nodup := by
  have distinct : datasets.Nodup := List.Nodup.of_map _ named
  apply (List.nodup_map_iff_inj_on distinct).mpr
  intro one first other second same
  exact List.inj_on_of_nodup_map uniqueIds (listed one first) (listed other second) same

theorem resolved_mountable (workspace : Nat) (given : List String) (storage : Storage) (named : NamedRows storage)
    (distinct : given.Nodup) (filled : 1 ≤ given.length) (few : given.length ≤ maxDatasetMounts) (resolved : List Dataset)
    (done : resolveTables workspace given storage.rows = .ok resolved) :
    ∃ mounts, mountsOf resolved = .ok mounts ∧ mounts.map DatasetMount.targetName = given ∧
      Mountable workspace storage.rows mounts := by
  obtain ⟨names, own⟩ := resolved_tables workspace given storage.rows resolved done
  obtain ⟨mounts, mounted, ids, targets⟩ := mounts_named resolved fun row member => named row (own row member).1
  have same : mounts.map DatasetMount.targetName = given := targets.trans names
  have many : mounts.length = given.length := by rw [← same, List.length_map]
  refine ⟨mounts, mounted, same, ?_, ?_, ?_, by rw [many]; exact filled, by rw [many]; exact few⟩
  · intro mount member
    obtain ⟨place, inside, rfl⟩ := List.getElem_of_mem member
    have short : place < resolved.length := by
      have lengths := congrArg List.length ids
      rw [List.length_map, List.length_map] at lengths
      omega
    have id := congrArg (fun list => list[place]?) ids
    have target := congrArg (fun list => list[place]?) targets
    simp only [List.getElem?_map, List.getElem?_eq_getElem inside, List.getElem?_eq_getElem short, Option.map_some,
      Option.some.injEq] at id target
    obtain ⟨here, belongs, ready⟩ := own resolved[place] (List.getElem_mem short)
    exact ⟨resolved[place], here, belongs, ready, id.symm, target.symm⟩
  · rw [same]
    exact distinct
  · rw [ids]
    apply resolved_ids resolved storage.rows (fun row member => (own row member).1) ?_ storage.uniqueIds
    rw [names]
    exact distinct

theorem mounts_taken (limits : PayloadLimits) (code : String) (files : InputFiles) (workspace : Nat) (rows : List Dataset)
    (mounts : List DatasetMount) (mountable : Mountable workspace rows mounts) :
    validatePayload limits code files (mounts.map executorMount) = validatePayload limits code files [] := by
  have few : ¬ maxDatasetMounts < (mounts.map executorMount).length := by
    rw [List.length_map]
    exact Nat.not_lt.mpr mountable.few
  have names : ((mounts.map executorMount).map SandboxDatasetMount.targetName).Nodup := by
    rw [List.map_map]
    exact mountable.names
  have ids : ((mounts.map executorMount).map SandboxDatasetMount.datasetId).Nodup := by
    have texts : ((mounts.map DatasetMount.datasetId).map idText).Nodup :=
      mountable.ids.map fun one other same => id_text_injective one other same
    rw [List.map_map] at texts ⊢
    exact texts
  simp only [validatePayload, few, names, ids, List.map_nil, List.nodup_nil, List.length_nil, Nat.not_lt_zero, if_false,
    not_true_eq_false]

theorem given_arguments (arguments : Dict) (given : PythonArguments) (read : readArguments arguments = some given) :
    given.code ≠ "" ∧ 1 ≤ given.datasets.length ∧ given.datasets.length ≤ maxDatasetMounts := by
  unfold readArguments at read
  split at read
  · cases read
  · split at read
    · split at read
      · rename_i code datasets _ _ bounds
        cases read
        refine ⟨fun empty => ?_, bounds.2.2⟩
        dsimp only at empty
        rw [empty] at bounds
        exact absurd bounds.1 (by decide)
      · cases read
    · cases read

theorem checked_arguments (given : PythonArguments) (checked : checkArguments given = none) : given.datasets.Nodup := by
  by_contra repeated
  unfold checkArguments at checked
  rw [if_pos repeated] at checked
  split at checked <;> cases checked

theorem python_request_valid (code : String) (mounts : List DatasetMount) (coded : code ≠ "") :
    (pythonRequest code mounts : SandboxRequest pydantic).problem = none := by
  simp [SandboxRequest.problem, pythonRequest, coded]

theorem executing_request (workspace : Nat) (code : String) (mounts : List DatasetMount) (archive : Archive) (coded : code ≠ "") :
    (tool.executing workspace code mounts archive).requests = [pythonRequest code mounts] ∧
      ∀ record ∈ (tool.executing workspace code mounts archive).archive.rows,
        record ∈ archive.rows ∨ record.workspaceId = tool.workspaceText workspace := by
  unfold PythonTool.executing
  dsimp only
  rw [python_request_valid code mounts coded]
  cases tool.service.execute (pythonRequest code mounts) with
  | error failure => exact ⟨rfl, fun record member => .inl member⟩
  | ok result => exact ⟨rfl, persisted_rows tool.guessType (tool.workspaceText workspace) archive _⟩

theorem python_mounts_own (maxColumns : Nat) (operations : List Operation) (storage : Storage)
    (run : runFrom (Storage.step maxColumns) {} operations = some storage)
    (workspaceId : Option Nat) (arguments : Dict) (archive : Archive) :
    ((tool.runPython workspaceId arguments storage.rows archive).requests = [] ∧
        (tool.runPython workspaceId arguments storage.rows archive).archive = archive ∧
        ∃ failure, (tool.runPython workspaceId arguments storage.rows archive).result = .error (.exception failure)) ∨
      ∃ workspace given mounts, workspaceId = some workspace ∧ readArguments arguments = some given ∧
        (tool.runPython workspaceId arguments storage.rows archive).requests = [pythonRequest given.code mounts] ∧
        mounts.map DatasetMount.targetName = given.datasets ∧ Mountable workspace storage.rows mounts ∧
        (∀ limits code files,
          validatePayload limits code files (mounts.map executorMount) = validatePayload limits code files []) ∧
        ∀ record ∈ (tool.runPython workspaceId arguments storage.rows archive).archive.rows,
          record ∈ archive.rows ∨ record.workspaceId = tool.workspaceText workspace := by
  unfold PythonTool.runPython
  cases read : readArguments arguments with
  | none => exact .inl ⟨rfl, rfl, _, rfl⟩
  | some given =>
      dsimp only
      cases checked : checkArguments given with
      | some failure => exact .inl ⟨rfl, rfl, _, rfl⟩
      | none =>
          cases workspaceId with
          | none => exact .inl ⟨rfl, rfl, _, rfl⟩
          | some workspace =>
              dsimp only
              cases done : resolveTables workspace given.datasets storage.rows with
              | error failure => exact .inl ⟨rfl, rfl, _, rfl⟩
              | ok resolved =>
                  dsimp only
                  obtain ⟨coded, some, few⟩ := given_arguments arguments given read
                  obtain ⟨mounts, mounted, names, mountable⟩ := resolved_mountable workspace given.datasets storage
                    (run_named maxColumns operations storage run) (checked_arguments given checked) some few resolved done
                  rw [mounted]
                  obtain ⟨requests, rows⟩ := executing_request tool workspace given.code mounts archive coded
                  exact .inr ⟨workspace, given, mounts, rfl, rfl, requests, names, mountable,
                    fun limits code files => mounts_taken limits code files workspace storage.rows mounts mountable, rows⟩

section Sample

def salesIngest : Ingest := { id := 5, workspaceId := 1, filename := "sales.csv" }

def numberedRound (index : Nat) : Round := ⟨String.ofList (List.replicate index 'a'), 0, .ok (), .ok (), none⟩

theorem numbered_distinct (artifacts : List SandboxArtifact) :
    ((artifacts.zipIdx.map fun item => (item.1, numberedRound item.2)).map fun item => item.2.artifactId).Nodup := by
  apply List.Nodup.of_map String.length
  rw [List.map_map, List.map_map]
  have numbers : artifacts.zipIdx.map ((String.length ∘ fun item : Item => item.2.artifactId) ∘
      fun item => (item.1, numberedRound item.2)) = artifacts.zipIdx.map Prod.snd := by
    apply List.map_congr_left
    intro item _
    simp [numberedRound]
  rw [numbers, List.zipIdx_map_snd]
  exact List.nodup_range'

def numberedBatch (artifacts : List SandboxArtifact) : Artifacts.Batch where
  batchId := "batch"
  items := artifacts.zipIdx.map fun item => (item.1, numberedRound item.2)
  distinct := numbered_distinct artifacts
  commit := .ok ()
  applied := true
  close := .ok ()
  cleanup := .ok ()
  survives _ := false

theorem numbered_items (artifacts : List SandboxArtifact) : (numberedBatch artifacts).items.map Prod.fst = artifacts := by
  rw [numberedBatch, List.map_map]
  exact List.zipIdx_map_fst 0 artifacts

def printingTool : PythonTool samplePydantic where
  refusal _ := ""
  mountRefusal _ := ""
  requestRefusal _ := ""
  service := ⟨some fun _ => .ok printed, none, none⟩
  workspaceText workspace := toString workspace
  guessType _ := none
  batch := numberedBatch
  batchItems := numbered_items
  viewJson view := .obj [("id", .str view.id)]

def salesArguments : Dict := [("code", .str "print(1)"), ("datasets", .arr [.str "dataset_000000000000"])]

def emptyArchive : Archive := ⟨[], fun _ => none, []⟩

theorem python_mounts_own_sales :
    ∃ storage, runFrom (Storage.step 50) {} [.ingest salesIngest] = some storage ∧
      ∃ (given : PythonArguments) (mounts : List DatasetMount),
        (printingTool.runPython (some 1) salesArguments storage.rows emptyArchive).requests =
          [pythonRequest given.code mounts] ∧ Mountable 1 storage.rows mounts := by
  have ends : (runFrom (Storage.step 50) {} [.ingest salesIngest]).map (fun storage =>
      (printingTool.runPython (some 1) salesArguments storage.rows emptyArchive).requests.length) = some 1 := by
    decide +kernel
  obtain ⟨storage, run, one⟩ := Option.map_eq_some_iff.mp ends
  refine ⟨storage, run, ?_⟩
  obtain ⟨nothing, _⟩ | ⟨workspace, given, mounts, same, _, requests, _, mountable, _⟩ :=
    python_mounts_own printingTool 50 [.ingest salesIngest] storage run (some 1) salesArguments emptyArchive
  · rw [nothing] at one
    cases one
  · cases same
    exact ⟨given, mounts, requests, mountable⟩

end Sample

end DataPilot.Tools
