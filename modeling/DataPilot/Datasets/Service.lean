import Mathlib.Logic.Function.Basic
import DataPilot.Base.CaseFold
import DataPilot.Base.Json
import DataPilot.Base.Runs
import DataPilot.Base.Stages

set_option autoImplicit false

namespace DataPilot.Datasets

open DataPilot.Base

abbrev DatasetId := BitVec 128

-- UUID.hex and str of a UUID.
def hexText (id : DatasetId) : String :=
  String.ofList ((List.range 32).map fun place => hexDigit (id.toNat / 16 ^ (31 - place) % 16))

def idText (id : DatasetId) : String :=
  let hex := (hexText id).toList
  String.ofList (hex.take 8 ++ '-' :: (hex.drop 8).take 4 ++ '-' :: (hex.drop 12).take 4 ++ '-' ::
    (hex.drop 16).take 4 ++ '-' :: hex.drop 20)

def tableNameOf (id : DatasetId) : String := "dataset_" ++ slice (hexText id) 12

-- A file of the directory of a dataset under the upload root.
structure DataPath where
  dataset : DatasetId
  file : String
deriving DecidableEq

def parquetPathOf (id : DatasetId) : DataPath := ⟨id, "data.parquet"⟩

inductive DatasetStatus where
  | processing
  | ready
  | failed
deriving DecidableEq

structure Dataset where
  id : DatasetId
  workspaceId : Nat
  tableName : String
  status : DatasetStatus := .processing
  parquetPath : Option DataPath := none
  errorMessage : Option String := none
deriving DecidableEq

abbrev Directory := List (String × List UInt8)

-- The upload root with its directories, the views of the engine with the files they
-- read, the rows of the database with its unique columns, and the ids issued so far.
structure Storage where
  uploadRoot : String := ""
  directories : DatasetId → Option Directory := fun _ => none
  views : String → Option DataPath := fun _ => none
  rows : List Dataset := []
  issued : List DatasetId := []
  uniqueIds : (rows.map Dataset.id).Nodup := by simp
  uniqueTables : (rows.map Dataset.tableName).Nodup := by simp

def Storage.directoryText (storage : Storage) (id : DatasetId) : String := storage.uploadRoot ++ "/" ++ idText id

def Storage.pathText (storage : Storage) (path : DataPath) : String :=
  storage.directoryText path.dataset ++ "/" ++ path.file

def Storage.isFile (storage : Storage) (path : DataPath) : Bool :=
  ((storage.directories path.dataset).getD []).any fun file => file.1 = path.file

def Storage.setDirectory (storage : Storage) (id : DatasetId) (directory : Option Directory) : Storage :=
  { storage with directories := Function.update storage.directories id directory }

def Storage.setView (storage : Storage) (name : String) (view : Option DataPath) : Storage :=
  { storage with views := Function.update storage.views name view }

-- A call that writes a file leaves it with some content, or has not come to it.
def Storage.writeFile (storage : Storage) (path : DataPath) : Option (List UInt8) → Storage
  | none => storage
  | some content =>
      storage.setDirectory path.dataset
        ((storage.directories path.dataset).map fun files => files.filter (·.1 ≠ path.file) ++ [(path.file, content)])

-- register_file of a .parquet path; failure is what DuckDB raises.
def registerFile (tableName : String) (path : DataPath) (failure : Option PyException) : Stage Storage PyException :=
  fun storage =>
    if storage.isFile path = false then (storage, some ⟨"FileNotFoundError", storage.pathText path⟩)
    else
      match failure with
      | some raised => (storage, some raised)
      | none => (storage.setView tableName (some path), none)

-- DatasetProcessor.remove
def remove (id : DatasetId) (tableName : String) (storage : Storage) : Storage :=
  (storage.setView tableName none).setDirectory id none

-- What the calls of process answer: what has been written to a file, and what
-- was raised.
structure ProcessAnswers where
  mkdir : Option PyException := none
  source : Option (List UInt8) := some []
  upload : Option PyException := none
  normalized : Option (List UInt8) := some []
  normalize : Option PyException := none
  parquet : Option (List UInt8) := some []
  convert : Option PyException := none
  count : Option PyException := none
  register : Option PyException := none
  schema : Except PyException Nat := .ok 1
  validate : Option PyException := none

def supportedExtensions : List String := [".csv", ".tsv", ".xlsx"]

-- Path.suffix of a file name.
def suffix (name : String) : String :=
  let stem := name.toList.reverse.dropWhile (· ≠ '.')
  let extension := name.toList.drop (stem.length - 1)
  if 1 < stem.length ∧ 1 < extension.length then String.ofList extension else ""

def datasetProcessingError (text : String) : PyException := ⟨"DatasetProcessingError", text⟩

-- mkdir(parents=True, exist_ok=False)
def makeDirectory (id : DatasetId) (failure : Option PyException) : Stage Storage PyException := fun storage =>
  if (storage.directories id).isSome then
    (storage, some ⟨"FileExistsError", s!"[Errno 17] File exists: '{storage.directoryText id}'"⟩)
  else
    match failure with
    | some raised => (storage, some raised)
    | none => (storage.setDirectory id (some []), none)

def writing (path : DataPath) (content : Option (List UInt8)) (failure : Option PyException) : Stage Storage PyException :=
  fun storage => (storage.writeFile path content, failure)

def raising (failure : Option PyException) : Stage Storage PyException := fun storage => (storage, failure)

def columnCheck (maxColumns : Nat) : Except PyException Nat → Option PyException
  | .error raised => some raised
  | .ok columns =>
      if maxColumns < columns then some (datasetProcessingError s!"Dataset exceeds {maxColumns} columns.") else none

-- The body of the try statement of process.
def processStages (maxColumns : Nat) (id : DatasetId) (extension : String) (answers : ProcessAnswers) :
    List (Stage Storage PyException) :=
  [writing ⟨id, "source" ++ extension⟩ answers.source answers.upload] ++
    (if extension = ".xlsx" then [writing ⟨id, "normalized.csv"⟩ answers.normalized answers.normalize] else []) ++
    [writing (parquetPathOf id) answers.parquet answers.convert,
      raising answers.count,
      registerFile (tableNameOf id) (parquetPathOf id) answers.register,
      raising (columnCheck maxColumns answers.schema),
      raising answers.validate]

-- DatasetProcessor.process; filename is the last part of the upload's path.
def process (maxColumns : Nat) (id : DatasetId) (filename : String) (answers : ProcessAnswers) :
    Stage Storage PyException :=
  let extension := casefold (suffix filename)
  if extension ∉ supportedExtensions then
    raising (some (datasetProcessingError "Unsupported file type. Allowed: .csv, .tsv, .xlsx."))
  else
    runStages [makeDirectory id answers.mkdir,
      onFailure (runStages (processStages maxColumns id extension answers)) (remove id (tableNameOf id))]

-- How the insert ends: it raises and nothing is committed, or it is committed and
-- the commit, the refresh, the view or the end of the session raises or not.
inductive InsertAnswer where
  | fails (failure : PyException)
  | commits (late : Option PyException)

-- refusal is what the database raises when a unique column is taken.
structure Ingest where
  id : DatasetId
  workspaceId : Nat
  filename : String
  answers : ProcessAnswers := {}
  insert : InsertAnswer := .commits none
  refusal : PyException := ⟨"IntegrityError", ""⟩

def Ingest.row (ingest : Ingest) : Dataset where
  id := ingest.id
  workspaceId := ingest.workspaceId
  tableName := tableNameOf ingest.id
  status := .ready
  parquetPath := some (parquetPathOf ingest.id)

def insertRow (ingest : Ingest) : Stage Storage PyException := fun storage =>
  match ingest.insert with
  | .fails raised => (storage, some raised)
  | .commits late =>
      if free : ingest.row.id ∉ storage.rows.map Dataset.id ∧
          ingest.row.tableName ∉ storage.rows.map Dataset.tableName then
        ({ storage with
          rows := storage.rows ++ [ingest.row]
          uniqueIds := by
            rw [List.map_append, List.nodup_append]
            exact ⟨storage.uniqueIds, List.nodup_singleton _, fun id old new last =>
              fun same => free.1 (by rw [← List.mem_singleton.mp last, ← same]; exact old)⟩
          uniqueTables := by
            rw [List.map_append, List.nodup_append]
            exact ⟨storage.uniqueTables, List.nodup_singleton _, fun name old new last =>
              fun same => free.2 (by rw [← List.mem_singleton.mp last, ← same]; exact old)⟩ }, late)
      else (storage, some ingest.refusal)

-- DatasetService.ingest
def Ingest.run (maxColumns : Nat) (ingest : Ingest) : Stage Storage PyException :=
  runStages [process maxColumns ingest.id ingest.filename ingest.answers,
    onFailure (insertRow ingest) (remove ingest.id (tableNameOf ingest.id))]

-- DatasetService.delete_dataset
def deleteDataset (workspaceId : Nat) (id : DatasetId) (storage : Storage) : Storage × Bool :=
  match storage.rows.find? fun row => row.id = id ∧ row.workspaceId = workspaceId with
  | none => (storage, false)
  | some dataset =>
      (remove id dataset.tableName { storage with
        rows := storage.rows.filter fun row => ¬ (row.id = id ∧ row.workspaceId = workspaceId)
        uniqueIds := storage.uniqueIds.sublist (List.filter_sublist.map _)
        uniqueTables := storage.uniqueTables.sublist (List.filter_sublist.map _) }, true)

def Dataset.fail (dataset : Dataset) (message : String) : Dataset :=
  { dataset with status := .failed, errorMessage := some message }

-- One round of restore_engine; what DuckDB raises for a dataset is given. An
-- absent path is no file.
def restoreRow (failures : DatasetId → Option PyException) (storage : Storage) (dataset : Dataset) : Storage × Dataset :=
  if dataset.status ≠ .ready then (storage, dataset)
  else
    match dataset.parquetPath with
    | none => (storage, dataset.fail "Stored Parquet file is missing.")
    | some path =>
        if storage.isFile path = false then (storage, dataset.fail "Stored Parquet file is missing.")
        else
          match registerFile dataset.tableName path (failures dataset.id) storage with
          | (next, none) => (next, dataset)
          | (next, some raised) => (next, dataset.fail s!"Unable to restore dataset: {raised.text}")

def restoreRows (failures : DatasetId → Option PyException) : List Dataset → Storage → Storage × List Dataset
  | [], storage => (storage, [])
  | dataset :: rest, storage =>
      let first := restoreRow failures storage dataset
      let others := restoreRows failures rest first.1
      (others.1, first.2 :: others.2)

theorem restore_row_names (failures : DatasetId → Option PyException) (storage : Storage) (dataset : Dataset) :
    (restoreRow failures storage dataset).2.id = dataset.id ∧
      (restoreRow failures storage dataset).2.tableName = dataset.tableName := by
  unfold restoreRow
  split
  · exact ⟨rfl, rfl⟩
  · split
    · exact ⟨rfl, rfl⟩
    · split
      · exact ⟨rfl, rfl⟩
      · split <;> exact ⟨rfl, rfl⟩

theorem restore_rows_names (failures : DatasetId → Option PyException) (rows : List Dataset) (storage : Storage) :
    (restoreRows failures rows storage).2.map Dataset.id = rows.map Dataset.id ∧
      (restoreRows failures rows storage).2.map Dataset.tableName = rows.map Dataset.tableName := by
  induction rows generalizing storage with
  | nil => exact ⟨rfl, rfl⟩
  | cons dataset rest ih =>
      obtain ⟨id, name⟩ := restore_row_names failures storage dataset
      obtain ⟨ids, names⟩ := ih (restoreRow failures storage dataset).1
      exact ⟨by simp [restoreRows, id, ids], by simp [restoreRows, name, names]⟩

-- DatasetService.restore_engine; a restart has left the engine without views.
def restoreEngine (restarted : Bool) (failures : DatasetId → Option PyException) (storage : Storage) : Storage :=
  let started := if restarted then { storage with views := fun _ => none } else storage
  let restored := restoreRows failures storage.rows started
  { restored.1 with
    rows := restored.2
    uniqueIds := (restore_rows_names failures storage.rows started).1 ▸ storage.uniqueIds
    uniqueTables := (restore_rows_names failures storage.rows started).2 ▸ storage.uniqueTables }

inductive Operation where
  | ingest (ingest : Ingest)
  | delete (workspaceId : Nat) (id : DatasetId)
  | restore (restarted : Bool) (failures : DatasetId → Option PyException)

-- Each ingest has an id of its own.
def Storage.step (maxColumns : Nat) (storage : Storage) : Operation → Option Storage
  | .ingest ingest =>
      if ingest.id ∈ storage.issued then none
      else some { (ingest.run maxColumns storage).1 with issued := storage.issued ++ [ingest.id] }
  | .delete workspaceId id => some (deleteDataset workspaceId id storage).1
  | .restore restarted failures => some (restoreEngine restarted failures storage)

end DataPilot.Datasets
