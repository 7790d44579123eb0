import DataPilot.Datasets.Service

set_option autoImplicit false

namespace DataPilot.Datasets

open DataPilot.Base

-- What a part of an ingest may touch.
structure Own (id : DatasetId) (before after : Storage) : Prop where
  rows : after.rows = before.rows
  directories : ∀ other, other ≠ id → after.directories other = before.directories other
  views : ∀ name, name ≠ tableNameOf id → after.views name = before.views name

theorem own_same (id : DatasetId) (storage : Storage) : Own id storage storage :=
  ⟨rfl, fun _ _ => rfl, fun _ _ => rfl⟩

theorem own_chain (id : DatasetId) (first second third : Storage) (one : Own id first second) (two : Own id second third) :
    Own id first third where
  rows := two.rows.trans one.rows
  directories other different := (two.directories other different).trans (one.directories other different)
  views name different := (two.views name different).trans (one.views name different)

theorem own_directory (id : DatasetId) (storage : Storage) (directory : Option Directory) :
    Own id storage (storage.setDirectory id directory) :=
  ⟨rfl, fun _ different => Function.update_of_ne different .., fun _ _ => rfl⟩

theorem own_view (id : DatasetId) (storage : Storage) (view : Option DataPath) :
    Own id storage (storage.setView (tableNameOf id) view) :=
  ⟨rfl, fun _ _ => rfl, fun _ different => Function.update_of_ne different ..⟩

theorem own_remove (id : DatasetId) (storage : Storage) : Own id storage (remove id (tableNameOf id) storage) :=
  own_chain id _ _ _ (own_view id storage none) (own_directory id _ none)

theorem own_writing (id : DatasetId) (file : String) (content : Option (List UInt8)) (failure : Option PyException)
    (storage : Storage) : Own id storage (writing ⟨id, file⟩ content failure storage).1 := by
  cases content with
  | none => exact own_same id storage
  | some content => exact own_directory id storage _

theorem own_register (id : DatasetId) (path : DataPath) (failure : Option PyException) (storage : Storage) :
    Own id storage (registerFile (tableNameOf id) path failure storage).1 := by
  unfold registerFile
  split
  · exact own_same id storage
  · split
    · exact own_same id storage
    · exact own_view id storage (some path)

theorem own_process_stages (maxColumns : Nat) (id : DatasetId) (extension : String) (answers : ProcessAnswers)
    (stage : Stage Storage PyException) (member : stage ∈ processStages maxColumns id extension answers)
    (storage : Storage) : Own id storage (stage storage).1 := by
  unfold processStages at member
  simp only [List.mem_append, List.mem_cons, List.not_mem_nil, or_false] at member
  rcases member with (rfl | normalizes) | rfl | rfl | rfl | rfl | rfl
  · exact own_writing ..
  · split at normalizes
    · rw [List.mem_singleton.mp normalizes]
      exact own_writing ..
    · cases normalizes
  · exact own_writing ..
  · exact own_same ..
  · exact own_register ..
  · exact own_same ..
  · exact own_same ..

theorem raising_done (failure : Option PyException) (rest : List (Stage Storage PyException)) (storage final : Storage)
    (done : runStages (raising failure :: rest) storage = (final, none)) : runStages rest storage = (final, none) := by
  cases failure with
  | none => exact done
  | some raised => cases done

theorem register_done (tableName : String) (path : DataPath) (failure : Option PyException) (storage final : Storage)
    (done : registerFile tableName path failure storage = (final, none)) :
    final.views tableName = some path ∧ final.isFile path = true := by
  unfold registerFile at done
  by_cases missing : storage.isFile path = false
  · rw [if_pos missing] at done
    cases done
  · rw [if_neg missing] at done
    cases failure with
    | none =>
        cases done
        exact ⟨Function.update_self .., (Bool.not_eq_false _).mp missing⟩
    | some raised => cases done

theorem process_stages_done (maxColumns : Nat) (id : DatasetId) (extension : String) (answers : ProcessAnswers)
    (storage final : Storage) (done : runStages (processStages maxColumns id extension answers) storage = (final, none)) :
    final.views (tableNameOf id) = some (parquetPathOf id) ∧ final.isFile (parquetPathOf id) = true := by
  obtain ⟨written, _, rest⟩ := stages_done_append _ _ storage final done
  obtain ⟨converted, _, counting⟩ :=
    stages_done_append [writing (parquetPathOf id) answers.parquet answers.convert] _ written final rest
  obtain ⟨registered, register, checking⟩ := stages_done_cons _ _ converted final (raising_done _ _ _ _ counting)
  cases raising_done _ _ _ _ (raising_done _ _ _ _ checking)
  exact register_done _ _ _ _ _ register

structure Undone (id : DatasetId) (before after : Storage) : Prop where
  own : Own id before after
  directory : after.directories id = none
  view : after.views (tableNameOf id) = none

theorem remove_directory (id : DatasetId) (tableName : String) (storage : Storage) :
    (remove id tableName storage).directories id = none := Function.update_self ..

theorem remove_view (id : DatasetId) (tableName : String) (storage : Storage) :
    (remove id tableName storage).views tableName = none := by
  simp [remove, Storage.setView, Storage.setDirectory]

theorem undone_remove (id : DatasetId) (storage left : Storage) (own : Own id storage left) :
    Undone id storage (remove id (tableNameOf id) left) where
  own := own_chain id storage left _ own (own_remove id left)
  directory := remove_directory id _ left
  view := remove_view id _ left

theorem make_directory_cases (id : DatasetId) (failure : Option PyException) (storage : Storage)
    (directory : storage.directories id = none) :
    (∃ raised, failure = some raised ∧ makeDirectory id failure storage = (storage, some raised)) ∨
      failure = none ∧ makeDirectory id failure storage = (storage.setDirectory id (some []), none) := by
  unfold makeDirectory
  rw [directory]
  cases failure with
  | none => exact .inr ⟨rfl, rfl⟩
  | some raised => exact .inl ⟨raised, rfl, rfl⟩

-- The checks before the try statement of process are passed.
def MakesDirectory (filename : String) (answers : ProcessAnswers) : Prop :=
  casefold (suffix filename) ∈ supportedExtensions ∧ answers.mkdir = none

inductive Processed (id : DatasetId) (filename : String) (answers : ProcessAnswers) (storage : Storage) :
    Storage × Option PyException → Prop where
  | refused (raised : PyException) (unmade : ¬ MakesDirectory filename answers) :
      Processed id filename answers storage (storage, some raised)
  | undone (next : Storage) (raised : PyException) (makes : MakesDirectory filename answers)
      (undone : Undone id storage next) : Processed id filename answers storage (next, some raised)
  | done (next : Storage) (makes : MakesDirectory filename answers) (own : Own id storage next)
      (view : next.views (tableNameOf id) = some (parquetPathOf id))
      (file : next.isFile (parquetPathOf id) = true) : Processed id filename answers storage (next, none)

theorem process_processed (maxColumns : Nat) (id : DatasetId) (filename : String) (answers : ProcessAnswers)
    (storage : Storage) (directory : storage.directories id = none) :
    Processed id filename answers storage (process maxColumns id filename answers storage) := by
  rw [process]
  by_cases unsupported : casefold (suffix filename) ∉ supportedExtensions
  · rw [if_pos unsupported]
    exact .refused _ fun makes => unsupported makes.1
  · rw [if_neg unsupported, runStages]
    have supported := Decidable.not_not.mp unsupported
    rcases make_directory_cases id answers.mkdir storage directory with ⟨raised, failure, made⟩ | ⟨failure, made⟩
    · rw [made]
      exact .refused raised fun makes => by simp [makes.2] at failure
    · rw [made]
      dsimp only
      have own := own_chain id _ _ _ (own_directory id storage (some []))
        (stages_keep (Own id) (own_same id) (own_chain id) _
          (own_process_stages maxColumns id (casefold (suffix filename)) answers) (storage.setDirectory id (some [])))
      rw [runStages, onFailure]
      cases body : runStages (processStages maxColumns id (casefold (suffix filename)) answers)
          (storage.setDirectory id (some [])) with
      | mk left outcome =>
          rw [body] at own
          cases outcome with
          | none =>
              obtain ⟨view, file⟩ := process_stages_done maxColumns id _ answers _ left body
              exact .done left ⟨supported, failure⟩ own view file
          | some raised => exact .undone _ raised ⟨supported, failure⟩ (undone_remove id storage left own)

def Ingest.processed (maxColumns : Nat) (ingest : Ingest) : Stage Storage PyException :=
  process maxColumns ingest.id ingest.filename ingest.answers

-- The ingest raises after the commit of its row has taken effect.
def Ingest.RaisesLate (maxColumns : Nat) (ingest : Ingest) (storage : Storage) : Prop :=
  (ingest.processed maxColumns storage).2 = none ∧ ingest.row.id ∉ storage.rows.map Dataset.id ∧
    ingest.row.tableName ∉ storage.rows.map Dataset.tableName ∧ ∃ raised, ingest.insert = .commits (some raised)

theorem insert_row_cases (ingest : Ingest) (storage : Storage) :
    (∃ raised, insertRow ingest storage = (storage, some raised)) ∨
      ∃ next late, insertRow ingest storage = (next, late) ∧ ingest.insert = .commits late ∧
        next.rows = storage.rows ++ [ingest.row] ∧ next.views = storage.views ∧
        next.directories = storage.directories ∧ ingest.row.id ∉ storage.rows.map Dataset.id ∧
        ingest.row.tableName ∉ storage.rows.map Dataset.tableName := by
  unfold insertRow
  cases ingest.insert with
  | fails raised => exact .inl ⟨raised, rfl⟩
  | commits late =>
      dsimp only
      split
      · rename_i free
        exact .inr ⟨_, late, rfl, rfl, rfl, rfl, rfl, free⟩
      · exact .inl ⟨ingest.refusal, rfl⟩

inductive Ingested (maxColumns : Nat) (ingest : Ingest) (storage : Storage) : Storage × Option PyException → Prop where
  | refused (raised : PyException) (unmade : ¬ MakesDirectory ingest.filename ingest.answers) :
      Ingested maxColumns ingest storage (storage, some raised)
  | undone (next : Storage) (raised : PyException) (makes : MakesDirectory ingest.filename ingest.answers)
      (undone : Undone ingest.id storage next) : Ingested maxColumns ingest storage (next, some raised)
  | late (next : Storage) (raised : PyException) (late : ingest.RaisesLate maxColumns storage) :
      Ingested maxColumns ingest storage (next, some raised)
  | done (next : Storage) (rows : next.rows = storage.rows ++ [ingest.row])
      (directories : ∀ other, other ≠ ingest.id → next.directories other = storage.directories other)
      (views : ∀ name, name ≠ tableNameOf ingest.id → next.views name = storage.views name)
      (view : next.views (tableNameOf ingest.id) = some (parquetPathOf ingest.id))
      (file : next.isFile (parquetPathOf ingest.id) = true)
      (free : tableNameOf ingest.id ∉ storage.rows.map Dataset.tableName) :
      Ingested maxColumns ingest storage (next, none)

theorem ingest_ingested (maxColumns : Nat) (ingest : Ingest) (storage : Storage)
    (directory : storage.directories ingest.id = none) :
    Ingested maxColumns ingest storage (ingest.run maxColumns storage) := by
  rw [Ingest.run, runStages]
  have processed := process_processed maxColumns ingest.id ingest.filename ingest.answers storage directory
  cases body : process maxColumns ingest.id ingest.filename ingest.answers storage with
  | mk middle outcome =>
      rw [body] at processed
      cases processed with
      | refused raised unmade => exact .refused raised unmade
      | undone _ raised makes undone => exact .undone middle raised makes undone
      | done _ makes own view file =>
          dsimp only
          rw [runStages, onFailure]
          rcases insert_row_cases ingest middle with
            ⟨raised, inserted⟩ | ⟨final, late, inserted, insert, rows, views, directories, unknown, free⟩
          · rw [inserted]
            exact .undone _ raised makes (undone_remove ingest.id storage middle own)
          · rw [own.rows] at rows unknown free
            rw [inserted]
            cases late with
            | some raised => exact .late _ raised ⟨congrArg Prod.snd body, unknown, free, raised, insert⟩
            | none =>
                exact .done final rows (directories ▸ own.directories) (views ▸ own.views) (views ▸ view)
                  (by rw [Storage.isFile, directories]; exact file) free

theorem raises_late_row (maxColumns : Nat) (ingest : Ingest) (storage : Storage)
    (directory : storage.directories ingest.id = none) (late : ingest.RaisesLate maxColumns storage) :
    ∃ next raised, ingest.run maxColumns storage = (next, some raised) ∧ ingest.row ∈ next.rows := by
  obtain ⟨returns, unknown, free, raised, insert⟩ := late
  have processed := process_processed maxColumns ingest.id ingest.filename ingest.answers storage directory
  rw [Ingest.processed] at returns
  rw [Ingest.run, runStages]
  cases body : process maxColumns ingest.id ingest.filename ingest.answers storage with
  | mk middle outcome =>
      rw [body] at processed returns
      cases processed with
      | refused raised unmade => cases returns
      | undone _ raised makes undone => cases returns
      | done _ makes own view file =>
          rw [← own.rows] at unknown free
          dsimp only
          rw [runStages, onFailure, insertRow, insert]
          dsimp only
          rw [dif_pos ⟨unknown, free⟩]
          exact ⟨_, raised, rfl, List.mem_append_right _ (List.mem_singleton.mpr rfl)⟩

end DataPilot.Datasets
