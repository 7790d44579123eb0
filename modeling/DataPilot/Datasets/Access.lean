import DataPilot.Datasets.Registration

set_option autoImplicit false

namespace DataPilot.Datasets

open DataPilot.Base

-- The selects of DatasetService; a workspace sees its own rows only.
def ownRows (workspaceId : Nat) (rows : List Dataset) : List Dataset := rows.filter fun row => row.workspaceId = workspaceId

def listTableNames (workspaceId : Nat) (rows : List Dataset) : List String :=
  ((ownRows workspaceId rows).filter fun row => row.status = .ready).map Dataset.tableName

-- by_name: of rows of one name the last one stays.
def byName (rows : List Dataset) (name : String) : Option Dataset := rows.reverse.find? fun row => row.tableName = name

def notMounted (names : List String) : PyException :=
  ⟨"ValueError", "Datasets are not available for sandbox mounting: " ++ String.intercalate ", " names ++ "."⟩

def requested (workspaceId : Nat) (tableNames : List String) (rows : List Dataset) : List Dataset :=
  (ownRows workspaceId rows).filter fun row => row.tableName ∈ tableNames

def missing (found : List Dataset) (tableNames : List String) : List String :=
  tableNames.filter fun name => (byName found name).isNone

def unavailable (found : List Dataset) (tableNames : List String) : List String :=
  tableNames.filter fun name => (byName found name).any fun row => row.status ≠ .ready

def resolveTables (workspaceId : Nat) (tableNames : List String) (rows : List Dataset) : Except PyException (List Dataset) :=
  let found := requested workspaceId tableNames rows
  if missing found tableNames = [] ∧ unavailable found tableNames = [] then .ok (tableNames.filterMap (byName found))
  else .error (notMounted (missing found tableNames ++ unavailable found tableNames))

theorem own_rows_member (workspaceId : Nat) (rows : List Dataset) (row : Dataset) :
    row ∈ ownRows workspaceId rows ↔ row ∈ rows ∧ row.workspaceId = workspaceId := by
  rw [ownRows, List.mem_filter, decide_eq_true_iff]

theorem listed_member (workspaceId : Nat) (rows : List Dataset) (name : String) :
    name ∈ listTableNames workspaceId rows ↔
      ∃ row ∈ rows, row.workspaceId = workspaceId ∧ row.status = .ready ∧ row.tableName = name := by
  simp only [listTableNames, ownRows, List.filter_filter, List.mem_map, List.mem_filter, Bool.and_eq_true,
    decide_eq_true_iff]
  constructor
  · rintro ⟨row, ⟨member, ready, own⟩, named⟩
    exact ⟨row, member, own, ready, named⟩
  · rintro ⟨row, member, own, ready, named⟩
    exact ⟨row, ⟨member, ready, own⟩, named⟩

theorem by_name_found (rows : List Dataset) (name : String) (row : Dataset) (found : byName rows name = some row) :
    row ∈ rows ∧ row.tableName = name := by
  constructor
  · exact List.mem_reverse.mp (List.mem_of_find?_eq_some found)
  · simpa using List.find?_some found

theorem all_found (found : List Dataset) (tableNames : List String) (listed : missing found tableNames = []) :
    (tableNames.filterMap (byName found)).map some = tableNames.map (byName found) := by
  rw [missing, List.filter_eq_nil_iff] at listed
  induction tableNames with
  | nil => rfl
  | cons name rest ih =>
      have first := listed name (List.mem_cons_self ..)
      cases here : byName found name with
      | none => simp [here] at first
      | some row =>
          rw [List.filterMap_cons, here]
          simp only [List.map_cons, here, ih fun other member => listed other (List.mem_cons_of_mem name member)]

theorem resolved_tables (workspaceId : Nat) (tableNames : List String) (rows resolved : List Dataset)
    (done : resolveTables workspaceId tableNames rows = .ok resolved) :
    resolved.map Dataset.tableName = tableNames ∧
      ∀ row ∈ resolved, row ∈ rows ∧ row.workspaceId = workspaceId ∧ row.status = .ready := by
  unfold resolveTables at done
  dsimp only at done
  split at done
  · rename_i complete
    obtain ⟨nothing, ready⟩ := complete
    cases done
    constructor
    · have named := congrArg (List.map fun row : Option Dataset => row.map Dataset.tableName) (all_found _ _ nothing)
      rw [List.map_map, List.map_map] at named
      apply List.map_injective_iff.mpr (Option.some_injective String)
      rw [List.map_map]
      refine named.trans (List.map_congr_left fun name member => ?_)
      rw [missing, List.filter_eq_nil_iff] at nothing
      cases found : byName (requested workspaceId tableNames rows) name with
      | none => simpa [found] using nothing name member
      | some row => simp [found, (by_name_found _ name row found).2]
    · intro row member
      obtain ⟨name, asked, found⟩ := List.mem_filterMap.mp member
      obtain ⟨own, _⟩ := by_name_found _ name row found
      obtain ⟨here, belongs⟩ := (own_rows_member workspaceId rows row).mp (List.mem_filter.mp own).1
      rw [unavailable, List.filter_eq_nil_iff] at ready
      have usable := ready name asked
      rw [found] at usable
      exact ⟨here, belongs, by simpa using usable⟩
  · cases done

-- In every run each dataset has the table name that its id gives it.
def NamedRows (storage : Storage) : Prop := ∀ row ∈ storage.rows, row.tableName = tableNameOf row.id

theorem process_keeps (keeps : Storage → Storage → Prop) (same : ∀ storage, keeps storage storage)
    (chain : ∀ first second third, keeps first second → keeps second third → keeps first third) (id : DatasetId)
    (directory : ∀ storage files, keeps storage (storage.setDirectory id files))
    (view : ∀ storage view, (∀ path, view = some path → path = parquetPathOf id) →
      keeps storage (storage.setView (tableNameOf id) view)) (maxColumns : Nat) (filename : String)
    (answers : ProcessAnswers) (storage : Storage) : keeps storage (process maxColumns id filename answers storage).1 := by
  have writes : ∀ file content failure state, keeps state (writing ⟨id, file⟩ content failure state).1 := by
    intro file content failure state
    cases content with
    | none => exact same state
    | some text => exact directory state _
  have body : ∀ stage ∈ processStages maxColumns id (casefold (suffix filename)) answers, ∀ state,
      keeps state (stage state).1 := by
    intro stage member state
    unfold processStages at member
    simp only [List.mem_append, List.mem_cons, List.not_mem_nil, or_false] at member
    rcases member with (rfl | normalizes) | rfl | rfl | rfl | rfl | rfl
    · exact writes ..
    · split at normalizes
      · rw [List.mem_singleton.mp normalizes]
        exact writes ..
      · cases normalizes
    · exact writes ..
    · exact same state
    · unfold registerFile
      split
      · exact same state
      · split
        · exact same state
        · exact view state _ fun path same => (Option.some.inj same).symm
    · exact same state
    · exact same state
  unfold process
  split
  · exact same storage
  · apply stages_keep keeps same chain
    intro stage member state
    cases List.mem_cons.mp member with
    | inl making =>
        rw [making]
        unfold makeDirectory
        split
        · exact same state
        · split
          · exact same state
          · exact directory state (some [])
    | inr later =>
        rw [List.mem_singleton.mp later, onFailure]
        have tried := stages_keep keeps same chain _ body state
        split
        · rename_i next ended
          rw [ended] at tried
          exact tried
        · rename_i next failure ended
          rw [ended] at tried
          exact chain state next _ tried (chain _ _ _ (view next none (by simp)) (directory _ none))

theorem process_own (maxColumns : Nat) (id : DatasetId) (filename : String) (answers : ProcessAnswers) (storage : Storage) :
    Own id storage (process maxColumns id filename answers storage).1 :=
  process_keeps (Own id) (own_same id) (own_chain id) id (own_directory id)
    (fun storage view _ => own_view id storage view) maxColumns filename answers storage

theorem process_rows (maxColumns : Nat) (id : DatasetId) (filename : String) (answers : ProcessAnswers) (storage : Storage) :
    (process maxColumns id filename answers storage).1.rows = storage.rows :=
  (process_own maxColumns id filename answers storage).rows

theorem ingest_named (maxColumns : Nat) (ingest : Ingest) (storage : Storage) (named : NamedRows storage) :
    NamedRows (ingest.run maxColumns storage).1 := by
  apply stages_keep (fun before after => NamedRows before → NamedRows after) (fun _ => id)
    (fun _ _ _ first second => second ∘ first) _ ?_ storage named
  intro stage member state before
  cases List.mem_cons.mp member with
  | inl same =>
      intro row found
      rw [same, process_rows] at found
      exact before row found
  | inr later =>
      rw [List.mem_singleton.mp later, onFailure]
      have inserted : NamedRows (insertRow ingest state).1 := by
        obtain ⟨raised, kept⟩ | ⟨next, late, taken, _, rows, _⟩ := insert_row_cases ingest state
        · rw [kept]
          exact before
        · intro row found
          rw [taken] at found
          dsimp only at found
          rw [rows] at found
          cases List.mem_append.mp found with
          | inl old => exact before row old
          | inr new =>
              rw [List.mem_singleton.mp new]
              rfl
      split
      · rename_i next ended
        rw [ended] at inserted
        exact inserted
      · rename_i next failure ended
        rw [ended] at inserted
        exact inserted

theorem delete_named (workspaceId : Nat) (id : DatasetId) (storage : Storage) (named : NamedRows storage) :
    NamedRows (deleteDataset workspaceId id storage).1 := by
  unfold deleteDataset
  split
  · exact named
  · intro row found
    exact named row (List.mem_of_mem_filter found)

theorem restore_rows_named (failures : DatasetId → Option PyException) (rows : List Dataset) (storage : Storage)
    (named : ∀ row ∈ rows, row.tableName = tableNameOf row.id) :
    ∀ row ∈ (restoreRows failures rows storage).2, row.tableName = tableNameOf row.id := by
  induction rows generalizing storage with
  | nil => simp [restoreRows]
  | cons dataset rest ih =>
      obtain ⟨id, name⟩ := restore_row_names failures storage dataset
      intro row found
      rw [restoreRows] at found
      cases List.mem_cons.mp found with
      | inl same => rw [same, id, name, named dataset (by simp)]
      | inr later => exact ih _ (fun other member => named other (by simp [member])) row later

theorem step_named (maxColumns : Nat) (storage next : Storage) (operation : Operation) (named : NamedRows storage)
    (taken : storage.step maxColumns operation = some next) : NamedRows next := by
  cases operation with
  | ingest ingest =>
      rw [Storage.step] at taken
      split at taken
      · cases taken
      · intro row found
        rw [← Option.some.inj taken] at found
        dsimp only at found
        exact ingest_named maxColumns ingest storage named row found
  | delete workspaceId id =>
      cases taken
      exact delete_named workspaceId id storage named
  | restore restarted failures =>
      cases taken
      exact restore_rows_named failures storage.rows _ named

theorem run_named (maxColumns : Nat) (operations : List Operation) (storage : Storage)
    (run : runFrom (Storage.step maxColumns) {} operations = some storage) : NamedRows storage :=
  run_invariant NamedRows (fun before operation after named taken => step_named maxColumns before after operation named taken)
    {} storage operations (by simp [NamedRows]) run

end DataPilot.Datasets
