import DataPilot.Base.Unwinding
import DataPilot.Datasets.Access
import DataPilot.Datasets.Registered

set_option autoImplicit false

namespace DataPilot.Datasets

open DataPilot.Base

-- Two storages that agree on the directories and the tables of some datasets.
structure Agree (ids : List DatasetId) (full alone : Storage) : Prop where
  root : alone.uploadRoot = full.uploadRoot
  directories : ∀ id ∈ ids, alone.directories id = full.directories id
  views : ∀ id ∈ ids, alone.views (tableNameOf id) = full.views (tableNameOf id)

section Agreement

variable (ids : List DatasetId) (full alone : Storage)

theorem agree_set_directory (id : DatasetId) (directory : Option Directory) (agree : Agree ids full alone) :
    Agree ids (full.setDirectory id directory) (alone.setDirectory id directory) where
  root := agree.root
  directories other member := by
    by_cases same : other = id
    · simp [Storage.setDirectory, same]
    · simp [Storage.setDirectory, same, agree.directories other member]
  views := agree.views

theorem agree_set_view (name : String) (view : Option DataPath) (agree : Agree ids full alone) :
    Agree ids (full.setView name view) (alone.setView name view) where
  root := agree.root
  directories := agree.directories
  views other member := by
    by_cases same : tableNameOf other = name
    · simp [Storage.setView, same]
    · simp [Storage.setView, same, agree.views other member]

theorem agree_remove (id : DatasetId) (name : String) (agree : Agree ids full alone) :
    Agree ids (remove id name full) (remove id name alone) :=
  agree_set_directory ids _ _ id none (agree_set_view ids full alone name none agree)

theorem agree_issued (first second : List DatasetId) (agree : Agree ids full alone) :
    Agree ids { full with issued := first } { alone with issued := second } :=
  ⟨agree.root, agree.directories, agree.views⟩

variable {full alone} (path : DataPath) (own : path.dataset ∈ ids)

include own

theorem agree_file (agree : Agree ids full alone) : alone.isFile path = full.isFile path :=
  file_kept full alone path (agree.directories path.dataset own)

theorem writing_in_step (content : Option (List UInt8)) (failure : Option PyException) :
    InStep (Agree ids) (writing path content failure) := by
  intro full alone agree
  refine ⟨?_, rfl⟩
  cases content with
  | none => exact agree
  | some text =>
      have kept := agree_set_directory ids full alone path.dataset
        ((full.directories path.dataset).map fun files => files.filter (·.1 ≠ path.file) ++ [(path.file, text)]) agree
      rw [writing, writing, Storage.writeFile, Storage.writeFile, agree.directories path.dataset own]
      exact kept

theorem register_in_step (tableName : String) (failure : Option PyException) :
    InStep (Agree ids) (registerFile tableName path failure) := by
  intro full alone agree
  unfold registerFile
  rw [agree_file ids path own agree]
  by_cases missing : full.isFile path = false
  · rw [if_pos missing, if_pos missing, Storage.pathText, Storage.pathText, Storage.directoryText, Storage.directoryText,
      agree.root]
    exact ⟨agree, rfl⟩
  · rw [if_neg missing, if_neg missing]
    cases failure with
    | none => exact ⟨agree_set_view ids full alone tableName (some path) agree, rfl⟩
    | some raised => exact ⟨agree, rfl⟩

end Agreement

section Process

variable (ids : List DatasetId) (id : DatasetId) (own : id ∈ ids)

theorem raising_in_step (failure : Option PyException) : InStep (Agree ids) (raising failure) :=
  fun _ _ agree => ⟨agree, rfl⟩

include own

theorem make_directory_in_step (failure : Option PyException) : InStep (Agree ids) (makeDirectory id failure) := by
  intro full alone agree
  unfold makeDirectory
  rw [agree.directories id own, Storage.directoryText, Storage.directoryText, agree.root]
  by_cases made : (full.directories id).isSome
  · rw [if_pos made, if_pos made]
    exact ⟨agree, rfl⟩
  · rw [if_neg made, if_neg made]
    cases failure with
    | none => exact ⟨agree_set_directory ids full alone id (some []) agree, rfl⟩
    | some raised => exact ⟨agree, rfl⟩

theorem process_in_step (maxColumns : Nat) (filename : String) (answers : ProcessAnswers) :
    InStep (Agree ids) (process maxColumns id filename answers) := by
  unfold process
  dsimp only
  split
  · exact raising_in_step ids _
  · apply stages_in_step
    intro stage member
    cases List.mem_cons.mp member with
    | inl same =>
        rw [same]
        exact make_directory_in_step ids id own answers.mkdir
    | inr later =>
        rw [List.mem_singleton.mp later]
        apply on_failure_in_step _ _ _ _ fun full alone => agree_remove ids full alone id (tableNameOf id)
        apply stages_in_step
        intro stage member
        unfold processStages at member
        simp only [List.mem_append, List.mem_cons, List.not_mem_nil, or_false] at member
        rcases member with (rfl | normalizes) | rfl | rfl | rfl | rfl | rfl
        · exact writing_in_step ids ⟨id, _⟩ own answers.source answers.upload
        · split at normalizes
          · rw [List.mem_singleton.mp normalizes]
            exact writing_in_step ids ⟨id, _⟩ own answers.normalized answers.normalize
          · cases normalizes
        · exact writing_in_step ids (parquetPathOf id) own answers.parquet answers.convert
        · exact raising_in_step ids _
        · exact register_in_step ids (parquetPathOf id) own _ answers.register
        · exact raising_in_step ids _
        · exact raising_in_step ids _

end Process

theorem process_root (maxColumns : Nat) (id : DatasetId) (filename : String) (answers : ProcessAnswers) (storage : Storage) :
    (process maxColumns id filename answers storage).1.uploadRoot = storage.uploadRoot :=
  process_keeps (fun before after => after.uploadRoot = before.uploadRoot) (fun _ => rfl)
    (fun _ _ _ one two => two.trans one) id (fun _ _ => rfl) (fun _ _ _ => rfl) maxColumns filename answers storage

-- A table that reads a file has done so before, or reads the dataset's own Parquet file.
def ReadsOwn (id : DatasetId) (before after : Storage) : Prop :=
  ∀ name path, after.views name = some path → before.views name = some path ∨ name = tableNameOf id ∧ path = parquetPathOf id

theorem set_view_reads_own (id : DatasetId) (view : Option DataPath) (own : ∀ path, view = some path → path = parquetPathOf id)
    (storage : Storage) : ReadsOwn id storage (storage.setView (tableNameOf id) view) := by
  intro name path reads
  by_cases same : name = tableNameOf id
  · have set : (storage.setView (tableNameOf id) view).views (tableNameOf id) = view := by simp [Storage.setView]
    rw [same, set] at reads
    exact .inr ⟨same, own path reads⟩
  · exact .inl ((Function.update_of_ne same ..).symm.trans reads)

theorem reads_own_chain (id : DatasetId) (first second third : Storage) (one : ReadsOwn id first second)
    (two : ReadsOwn id second third) : ReadsOwn id first third := by
  intro name path reads
  rcases two name path reads with earlier | own
  · exact one name path earlier
  · exact .inr own

theorem process_reads_own (maxColumns : Nat) (id : DatasetId) (filename : String) (answers : ProcessAnswers) (storage : Storage) :
    ReadsOwn id storage (process maxColumns id filename answers storage).1 :=
  process_keeps (ReadsOwn id) (fun _ _ _ reads => .inl reads) (reads_own_chain id) id (fun _ _ _ _ reads => .inl reads)
    (fun storage view own => set_view_reads_own id view own storage) maxColumns filename answers storage

theorem remove_reads_own (id : DatasetId) (storage : Storage) : ReadsOwn id storage (remove id (tableNameOf id) storage) :=
  set_view_reads_own id none (by simp) storage

theorem insert_row_root (ingest : Ingest) (storage : Storage) : (insertRow ingest storage).1.uploadRoot = storage.uploadRoot := by
  unfold insertRow
  split
  · rfl
  · split <;> rfl

-- What an ingest may do to the storage: its row may be added, and only its own
-- directory and table are touched.
structure Ingesting (ingest : Ingest) (before after : Storage) : Prop where
  root : after.uploadRoot = before.uploadRoot
  rows : after.rows = before.rows ∨ after.rows = before.rows ++ [ingest.row]
  directories : ∀ other, other ≠ ingest.id → after.directories other = before.directories other
  views : ∀ name, name ≠ tableNameOf ingest.id → after.views name = before.views name
  reads : ReadsOwn ingest.id before after

theorem ingest_ingesting (maxColumns : Nat) (ingest : Ingest) (storage : Storage) :
    Ingesting ingest storage (ingest.run maxColumns storage).1 := by
  have own := process_own maxColumns ingest.id ingest.filename ingest.answers storage
  have root := process_root maxColumns ingest.id ingest.filename ingest.answers storage
  have reads := process_reads_own maxColumns ingest.id ingest.filename ingest.answers storage
  rw [Ingest.run, runStages]
  cases processed : process maxColumns ingest.id ingest.filename ingest.answers storage with
  | mk middle outcome =>
      rw [processed] at own root reads
      cases outcome with
      | some raised => exact ⟨root, .inl own.rows, own.directories, own.views, reads⟩
      | none =>
          dsimp only
          have rooted := (insert_row_root ingest middle).trans root
          rw [runStages, onFailure]
          rcases insert_row_cases ingest middle with
            ⟨raised, inserted⟩ | ⟨next, late, inserted, _, rows, views, directories, _⟩
          · rw [inserted]
            have removed := own_chain ingest.id storage middle _ own (own_remove ingest.id middle)
            exact ⟨root, .inl removed.rows, removed.directories, removed.views,
              reads_own_chain ingest.id storage middle _ reads (remove_reads_own ingest.id middle)⟩
          · rw [inserted] at rooted ⊢
            have removed := own_remove ingest.id next
            have added : next.rows = storage.rows ++ [ingest.row] := by
              rw [← own.rows]
              exact rows
            have viewed : ReadsOwn ingest.id storage next := fun name path read => reads name path (views ▸ read)
            cases late with
            | none => exact ⟨rooted, .inr added, directories ▸ own.directories, views ▸ own.views, viewed⟩
            | some raised =>
                exact ⟨rooted, .inr added,
                  fun other different => (removed.directories other different).trans
                    ((congrFun directories other).trans (own.directories other different)),
                  fun name different => (removed.views name different).trans
                    ((congrFun views name).trans (own.views name different)),
                  reads_own_chain ingest.id storage next _ viewed (remove_reads_own ingest.id next)⟩

-- In every run the rows, directories and tables are those of datasets issued so far.
structure Tracked (storage : Storage) : Prop where
  rows : ∀ row ∈ storage.rows, row.id ∈ storage.issued
  named : NamedRows storage
  paths : ∀ row ∈ storage.rows, ∀ path, row.parquetPath = some path → path.dataset = row.id
  directories : ∀ id, id ∉ storage.issued → storage.directories id = none
  reads : ∀ name path, storage.views name = some path → path.dataset ∈ storage.issued ∧ name = tableNameOf path.dataset

theorem Tracked.views {storage : Storage} (tracked : Tracked storage) (name : String)
    (absent : name ∉ storage.issued.map tableNameOf) : storage.views name = none := by
  cases view : storage.views name with
  | none => rfl
  | some path =>
      obtain ⟨issued, named⟩ := tracked.reads name path view
      rw [named] at absent
      exact absurd (List.mem_map_of_mem issued) absent

theorem ingest_tracked (maxColumns : Nat) (storage next : Storage) (ingest : Ingest) (tracked : Tracked storage)
    (taken : storage.step maxColumns (.ingest ingest) = some next) : Tracked next := by
  have named := step_named maxColumns storage next _ tracked.named taken
  rw [Storage.step] at taken
  split at taken
  · cases taken
  · have after := ingest_ingesting maxColumns ingest storage
    have came : ∀ row ∈ (ingest.run maxColumns storage).1.rows, row ∈ storage.rows ∨ row = ingest.row := by
      intro row member
      cases after.rows with
      | inl same => exact .inl (same ▸ member)
      | inr added =>
          rw [added, List.mem_append, List.mem_singleton] at member
          exact member
    obtain rfl := Option.some.inj taken
    refine ⟨?_, named, ?_, ?_, ?_⟩ <;> dsimp only
    · intro row member
      rcases came row member with old | rfl
      · exact List.mem_append_left _ (tracked.rows row old)
      · exact List.mem_append_right _ (List.mem_singleton.mpr rfl)
    · intro row member path held
      rcases came row member with old | rfl
      · exact tracked.paths row old path held
      · rw [← Option.some.inj held]
        rfl
    · intro other absent
      rw [List.mem_append, not_or, List.mem_singleton] at absent
      exact (after.directories other absent.2).trans (tracked.directories other absent.1)
    · intro name path read
      rcases after.reads name path read with before | ⟨own, parquet⟩
      · exact (tracked.reads name path before).imp_left fun issued => List.mem_append_left _ issued
      · rw [own, parquet]
        exact ⟨List.mem_append_right _ (List.mem_singleton.mpr rfl), rfl⟩

theorem delete_tracked (workspaceId : Nat) (id : DatasetId) (storage : Storage) (tracked : Tracked storage) :
    Tracked (deleteDataset workspaceId id storage).1 := by
  have named := delete_named workspaceId id storage tracked.named
  unfold deleteDataset at named ⊢
  cases found : storage.rows.find? fun row => row.id = id ∧ row.workspaceId = workspaceId with
  | none => exact tracked
  | some dataset =>
      rw [found] at named
      refine ⟨fun row member => tracked.rows row (List.mem_of_mem_filter member), named,
        fun row member => tracked.paths row (List.mem_of_mem_filter member), ?_, ?_⟩
      · intro other absent
        by_cases same : other = id
        · rw [same]
          exact remove_directory id _ _
        · exact (Function.update_of_ne same ..).trans (tracked.directories other absent)
      · intro name path read
        by_cases same : name = dataset.tableName
        · rw [same, remove_view] at read
          cases read
        · exact tracked.reads name path ((Function.update_of_ne same ..).symm.trans read)

theorem restore_tracked (restarted : Bool) (failures : DatasetId → Option PyException) (storage : Storage)
    (tracked : Tracked storage) : Tracked (restoreEngine restarted failures storage) := by
  let started : Storage := if restarted then { storage with views := fun _ => none } else storage
  have directories : started.directories = storage.directories := by cases restarted <;> rfl
  have issued : started.issued = storage.issued := by cases restarted <;> rfl
  have restored := rows_restored failures storage.rows started storage.uniqueTables
  have same : (restoreEngine restarted failures storage).issued = storage.issued := restored.issued.trans issued
  refine ⟨?_, restore_rows_named failures storage.rows _ tracked.named, ?_, ?_, ?_⟩
  · intro row member
    obtain ⟨old, stays, id, _⟩ := restored.sources row member
    rw [same, id]
    exact tracked.rows old stays
  · intro row member path held
    obtain ⟨old, stays, id, _, parquet, _⟩ := restored.sources row member
    rw [id]
    exact tracked.paths old stays path (parquet ▸ held)
  · intro id absent
    rw [same] at absent
    exact (congrFun (restored.directories.trans directories) id).trans (tracked.directories id absent)
  · intro name path read
    rw [same]
    rcases restored.views name path read with before | ⟨row, member, called, parquet⟩
    · cases restarted with
      | false => exact tracked.reads name path before
      | true => cases before
    · have own := tracked.paths row member path parquet
      rw [own, ← called]
      exact ⟨tracked.rows row member, tracked.named row member⟩

theorem step_tracked (maxColumns : Nat) (storage next : Storage) (operation : Operation) (tracked : Tracked storage)
    (taken : storage.step maxColumns operation = some next) : Tracked next := by
  cases operation with
  | ingest ingest => exact ingest_tracked maxColumns storage next ingest tracked taken
  | delete workspaceId id =>
      obtain rfl := Option.some.inj taken
      exact delete_tracked workspaceId id storage tracked
  | restore restarted failures =>
      obtain rfl := Option.some.inj taken
      exact restore_tracked restarted failures storage tracked

-- The owner of an operation; a restart is everybody's.
def Operation.concerns (workspaceId : Nat) : Operation → Bool
  | .ingest upload => upload.workspaceId = workspaceId
  | .delete owner _ => owner = workspaceId
  | .restore _ _ => true

inductive Answer where
  | ingested (failure : Option PyException)
  | deleted (found : Bool)
  | restored
deriving DecidableEq

def Operation.answer (maxColumns : Nat) (storage : Storage) : Operation → Answer
  | .ingest upload => .ingested (upload.run maxColumns storage).2
  | .delete workspaceId id => .deleted (deleteDataset workspaceId id storage).2
  | .restore _ _ => .restored

-- The first twelve digits of a new id are those of no id before it.
def NewName (storage : Storage) : Operation → Prop
  | .ingest ingest => tableNameOf ingest.id ∉ storage.issued.map tableNameOf
  | _ => True

instance (storage : Storage) (operation : Operation) : Decidable (NewName storage operation) :=
  match operation with
  | .ingest upload => inferInstanceAs (Decidable (tableNameOf upload.id ∉ storage.issued.map tableNameOf))
  | .delete _ _ => .isTrue trivial
  | .restore _ _ => .isTrue trivial

-- The storage of a server beside the one that serves a single workspace.
structure Apart (workspaceId : Nat) (full alone : Storage) : Prop where
  tracked : Tracked full
  own : Tracked alone
  distinct : (full.issued.map tableNameOf).Nodup
  issued : ∀ id ∈ alone.issued, id ∈ full.issued
  rows : alone.rows = ownRows workspaceId full.rows
  held : ∀ row ∈ full.rows, row.id ∈ alone.issued → row.workspaceId = workspaceId
  agree : Agree alone.issued full alone

section Apart

variable (workspaceId : Nat) (full next alone : Storage)

theorem own_rows_append (rows : List Dataset) (row : Dataset) :
    ownRows workspaceId (rows ++ [row]) = ownRows workspaceId rows ++ if row.workspaceId = workspaceId then [row] else [] := by
  rw [ownRows, List.filter_append, ownRows]
  by_cases owned : row.workspaceId = workspaceId <;> simp [owned]

theorem names_apart (apart : Apart workspaceId full alone) (id other : DatasetId) (issued : id ∈ full.issued)
    (too : other ∈ full.issued) (different : id ≠ other) : tableNameOf id ≠ tableNameOf other :=
  fun same => different (List.inj_on_of_nodup_map apart.distinct issued too same)

theorem foreign_ingest (maxColumns : Nat) (ingest : Ingest) (foreign : ingest.workspaceId ≠ workspaceId)
    (new : NewName full (.ingest ingest)) (apart : Apart workspaceId full alone)
    (taken : full.step maxColumns (.ingest ingest) = some next) : Apart workspaceId next alone := by
  have tracked := ingest_tracked maxColumns full next ingest apart.tracked taken
  rw [Storage.step] at taken
  split at taken
  · cases taken
  · rename_i fresh
    have after := ingest_ingesting maxColumns ingest full
    obtain rfl := Option.some.inj taken
    have other : ∀ id ∈ alone.issued, id ≠ ingest.id := fun id member same => fresh (same ▸ apart.issued id member)
    refine ⟨tracked, apart.own, ?_, ?_, ?_, ?_, ?_, ?_, ?_⟩ <;> dsimp only
    · rw [List.map_append, List.map_singleton]
      exact List.nodup_append.mpr ⟨apart.distinct, List.nodup_singleton _, fun name listed last own same =>
        new (by rw [← List.mem_singleton.mp own, ← same]; exact listed)⟩
    · exact fun id member => List.mem_append_left _ (apart.issued id member)
    · cases after.rows with
      | inl same => rw [same, apart.rows]
      | inr added =>
          have skipped : (if ingest.row.workspaceId = workspaceId then [ingest.row] else []) = [] := if_neg foreign
          rw [added, own_rows_append, skipped, List.append_nil, apart.rows]
    · intro row member issued
      cases after.rows with
      | inl same => exact apart.held row (same ▸ member) issued
      | inr added =>
          rw [added, List.mem_append, List.mem_singleton] at member
          cases member with
          | inl old => exact apart.held row old issued
          | inr last => exact absurd (congrArg Dataset.id last) (other row.id issued)
    · exact apart.agree.root.trans after.root.symm
    · exact fun id member => (apart.agree.directories id member).trans (after.directories id (other id member)).symm
    · intro id member
      have name : tableNameOf id ≠ tableNameOf ingest.id := by
        intro same
        apply new
        rw [← same]
        exact List.mem_map_of_mem (apart.issued id member)
      exact (apart.agree.views id member).trans (after.views _ name).symm

theorem foreign_delete (owner : Nat) (id : DatasetId) (foreign : owner ≠ workspaceId) (apart : Apart workspaceId full alone) :
    Apart workspaceId (deleteDataset owner id full).1 alone := by
  have tracked := delete_tracked owner id full apart.tracked
  unfold deleteDataset at tracked ⊢
  cases found : full.rows.find? fun row => row.id = id ∧ row.workspaceId = owner with
  | none => exact apart
  | some dataset =>
      rw [found] at tracked
      have member := List.mem_of_find?_eq_some found
      have chosen := List.find?_some found
      simp only [decide_eq_true_eq] at chosen
      have absent : id ∉ alone.issued := by
        intro issued
        have owned := apart.held dataset member (chosen.1 ▸ issued)
        exact foreign (chosen.2 ▸ owned)
      have name : dataset.tableName = tableNameOf id := chosen.1 ▸ apart.tracked.named dataset member
      have known : id ∈ full.issued := chosen.1 ▸ apart.tracked.rows dataset member
      refine ⟨tracked, apart.own, apart.distinct, apart.issued, ?_, ?_, ?_, ?_, ?_⟩
      · rw [apart.rows]
        show ownRows workspaceId full.rows = ownRows workspaceId (full.rows.filter _)
        rw [ownRows, ownRows, List.filter_filter]
        apply List.filter_congr
        intro row _
        by_cases owned : row.workspaceId = workspaceId
        · simp [owned, Ne.symm foreign]
        · simp [owned]
      · exact fun row stays => apart.held row (List.mem_of_mem_filter stays)
      · exact apart.agree.root
      · intro other issued
        have different : other ≠ id := fun same => absent (same ▸ issued)
        exact (apart.agree.directories other issued).trans (Function.update_of_ne different ..).symm
      · intro other issued
        have different : other ≠ id := fun same => absent (same ▸ issued)
        have names := names_apart workspaceId full alone apart other id (apart.issued other issued) known different
        rw [← name] at names
        exact (apart.agree.views other issued).trans (Function.update_of_ne names ..).symm

theorem own_delete (id : DatasetId) (apart : Apart workspaceId full alone) :
    (deleteDataset workspaceId id alone).2 = (deleteDataset workspaceId id full).2 ∧
      Apart workspaceId (deleteDataset workspaceId id full).1 (deleteDataset workspaceId id alone).1 := by
  have tracked := delete_tracked workspaceId id full apart.tracked
  have own := delete_tracked workspaceId id alone apart.own
  have same : (alone.rows.find? fun row => row.id = id ∧ row.workspaceId = workspaceId) =
      full.rows.find? fun row => row.id = id ∧ row.workspaceId = workspaceId := by
    rw [apart.rows, ownRows, List.find?_filter]
    congr 1
    funext row
    by_cases owned : row.workspaceId = workspaceId <;> simp [owned]
  unfold deleteDataset at tracked own ⊢
  rw [same] at own ⊢
  cases found : full.rows.find? fun row => row.id = id ∧ row.workspaceId = workspaceId with
  | none => exact ⟨rfl, apart⟩
  | some dataset =>
      rw [found] at tracked own
      refine ⟨rfl, tracked, own, apart.distinct, apart.issued, ?_, ?_, ?_⟩
      · show alone.rows.filter _ = ownRows workspaceId (full.rows.filter _)
        rw [apart.rows, ownRows, ownRows, List.filter_filter, List.filter_filter]
        exact List.filter_congr fun row _ => Bool.and_comm ..
      · exact fun row stays => apart.held row (List.mem_of_mem_filter stays)
      · exact agree_remove alone.issued _ _ id dataset.tableName ⟨apart.agree.root, apart.agree.directories, apart.agree.views⟩

theorem insert_apart (ids : List DatasetId) (ingest : Ingest) (owned : ingest.workspaceId = workspaceId)
    (rows : alone.rows = ownRows workspaceId full.rows) (fresh : ingest.id ∉ full.rows.map Dataset.id)
    (new : tableNameOf ingest.id ∉ full.rows.map Dataset.tableName) (agree : Agree ids full alone) :
    (insertRow ingest alone).2 = (insertRow ingest full).2 ∧ Agree ids (insertRow ingest full).1 (insertRow ingest alone).1 ∧
      (insertRow ingest alone).1.rows = ownRows workspaceId (insertRow ingest full).1.rows := by
  have part : ∀ {α : Type} (field : Dataset → α) (value : α), value ∉ full.rows.map field → value ∉ alone.rows.map field := by
    intro α field value absent member
    apply absent
    rw [rows] at member
    exact (List.filter_sublist.map field).subset member
  unfold insertRow
  cases ingest.insert with
  | fails raised => exact ⟨rfl, agree, rows⟩
  | commits late =>
      have free : ingest.row.id ∉ full.rows.map Dataset.id ∧ ingest.row.tableName ∉ full.rows.map Dataset.tableName :=
        ⟨fresh, new⟩
      have unused : ingest.row.id ∉ alone.rows.map Dataset.id ∧ ingest.row.tableName ∉ alone.rows.map Dataset.tableName :=
        ⟨part Dataset.id _ fresh, part Dataset.tableName _ new⟩
      dsimp only
      rw [dif_pos free, dif_pos unused]
      refine ⟨rfl, ⟨agree.root, agree.directories, agree.views⟩, ?_⟩
      dsimp only
      rw [own_rows_append, rows, if_pos (show ingest.row.workspaceId = workspaceId from owned)]

theorem ingest_apart (maxColumns : Nat) (ids : List DatasetId) (ingest : Ingest) (own : ingest.id ∈ ids)
    (owned : ingest.workspaceId = workspaceId) (rows : alone.rows = ownRows workspaceId full.rows)
    (fresh : ingest.id ∉ full.rows.map Dataset.id) (new : tableNameOf ingest.id ∉ full.rows.map Dataset.tableName)
    (agree : Agree ids full alone) :
    (ingest.run maxColumns alone).2 = (ingest.run maxColumns full).2 ∧
      Agree ids (ingest.run maxColumns full).1 (ingest.run maxColumns alone).1 ∧
      (ingest.run maxColumns alone).1.rows = ownRows workspaceId (ingest.run maxColumns full).1.rows := by
  obtain ⟨agreed, answers⟩ := process_in_step ids ingest.id own maxColumns ingest.filename ingest.answers full alone agree
  have fullRows := process_rows maxColumns ingest.id ingest.filename ingest.answers full
  have aloneRows := process_rows maxColumns ingest.id ingest.filename ingest.answers alone
  rw [Ingest.run, runStages, runStages]
  cases here : process maxColumns ingest.id ingest.filename ingest.answers full with
  | mk middle outcome =>
      cases there : process maxColumns ingest.id ingest.filename ingest.answers alone with
      | mk other result =>
          rw [here] at agreed answers fullRows
          rw [there] at agreed answers aloneRows
          dsimp only at agreed answers fullRows aloneRows
          subst answers
          have paired : other.rows = ownRows workspaceId middle.rows := by rw [aloneRows, fullRows, rows]
          cases outcome with
          | some raised => exact ⟨rfl, agreed, paired⟩
          | none =>
              obtain ⟨same, inserted, together⟩ := insert_apart workspaceId middle other ids ingest owned paired
                (fullRows.symm ▸ fresh) (fullRows.symm ▸ new) agreed
              dsimp only
              rw [runStages, runStages, onFailure, onFailure]
              cases first : insertRow ingest middle with
              | mk done late =>
                  cases second : insertRow ingest other with
                  | mk finished after =>
                      rw [first, second] at same inserted together
                      dsimp only at same inserted together
                      subst same
                      cases after with
                      | none => exact ⟨rfl, inserted, together⟩
                      | some raised => exact ⟨rfl, agree_remove ids _ _ ingest.id _ inserted, together⟩

theorem own_ingest (maxColumns : Nat) (ingest : Ingest) (owned : ingest.workspaceId = workspaceId)
    (new : NewName full (.ingest ingest)) (apart : Apart workspaceId full alone)
    (taken : full.step maxColumns (.ingest ingest) = some next) :
    (ingest.run maxColumns alone).2 = (ingest.run maxColumns full).2 ∧
      ∃ after, alone.step maxColumns (.ingest ingest) = some after ∧ Apart workspaceId next after := by
  have tracked := ingest_tracked maxColumns full next ingest apart.tracked taken
  rw [Storage.step] at taken
  split at taken
  · cases taken
  · rename_i fresh
    have early : ingest.id ∉ alone.issued := fun issued => fresh (apart.issued ingest.id issued)
    have unnamed : tableNameOf ingest.id ∉ alone.issued.map tableNameOf := by
      intro listed
      obtain ⟨id, issued, name⟩ := List.mem_map.mp listed
      exact new (name ▸ List.mem_map_of_mem (apart.issued id issued))
    have agree : Agree (alone.issued ++ [ingest.id]) full alone := by
      refine ⟨apart.agree.root, ?_, ?_⟩
      · intro id member
        cases List.mem_append.mp member with
        | inl old => exact apart.agree.directories id old
        | inr last =>
            rw [List.mem_singleton.mp last, apart.own.directories _ early, apart.tracked.directories _ fresh]
      · intro id member
        cases List.mem_append.mp member with
        | inl old => exact apart.agree.views id old
        | inr last => rw [List.mem_singleton.mp last, apart.own.views _ unnamed, apart.tracked.views _ new]
    have unknown : ingest.id ∉ full.rows.map Dataset.id := by
      intro listed
      obtain ⟨row, member, same⟩ := List.mem_map.mp listed
      exact fresh (same ▸ apart.tracked.rows row member)
    have free : tableNameOf ingest.id ∉ full.rows.map Dataset.tableName := by
      intro listed
      obtain ⟨row, member, same⟩ := List.mem_map.mp listed
      rw [apart.tracked.named row member] at same
      exact new (same ▸ List.mem_map_of_mem (apart.tracked.rows row member))
    obtain ⟨answers, agreed, rows⟩ := ingest_apart workspaceId full alone maxColumns (alone.issued ++ [ingest.id]) ingest
      (List.mem_append_right _ (List.mem_singleton.mpr rfl)) owned apart.rows unknown free agree
    have moved : alone.step maxColumns (.ingest ingest) =
        some { (ingest.run maxColumns alone).1 with issued := alone.issued ++ [ingest.id] } := by
      rw [Storage.step, if_neg early]
    have own := ingest_tracked maxColumns alone _ ingest apart.own moved
    have after := ingest_ingesting maxColumns ingest full
    obtain rfl := Option.some.inj taken
    refine ⟨answers, _, moved, tracked, own, ?_, ?_, ?_, ?_, ?_⟩ <;> dsimp only
    · rw [List.map_append, List.map_singleton]
      exact List.nodup_append.mpr ⟨apart.distinct, List.nodup_singleton _, fun name listed last own same =>
        new (by rw [← List.mem_singleton.mp own, ← same]; exact listed)⟩
    · intro id member
      cases List.mem_append.mp member with
      | inl old => exact List.mem_append_left _ (apart.issued id old)
      | inr last => exact List.mem_append_right _ last
    · exact rows
    · intro row member issued
      have came : row ∈ full.rows ∨ row = ingest.row := by
        cases after.rows with
        | inl same => exact .inl (same ▸ member)
        | inr added =>
            rw [added, List.mem_append, List.mem_singleton] at member
            exact member
      cases came with
      | inl old =>
          have known : row.id ≠ ingest.id := fun same => fresh (same ▸ apart.tracked.rows row old)
          rw [List.mem_append, List.mem_singleton] at issued
          exact apart.held row old (issued.resolve_right known)
      | inr last =>
          rw [last]
          exact owned
    · exact agree_issued _ _ _ _ _ agreed

end Apart

section Restore

variable (failures : DatasetId → Option PyException) (ids : List DatasetId)

theorem restore_row_workspace (storage : Storage) (dataset : Dataset) :
    (restoreRow failures storage dataset).2.workspaceId = dataset.workspaceId := by
  have restored := restore_row_restored failures storage dataset
  cases taken : restoreRow failures storage dataset with
  | mk next row =>
      rw [taken] at restored
      cases restored <;> rfl

theorem restore_rows_workspace (rows : List Dataset) (storage : Storage) :
    ∀ row ∈ (restoreRows failures rows storage).2, ∃ old ∈ rows, row.id = old.id ∧ row.workspaceId = old.workspaceId := by
  induction rows generalizing storage with
  | nil => simp [restoreRows]
  | cons dataset rest ih =>
      intro row member
      cases List.mem_cons.mp member with
      | inl same =>
          rw [same]
          exact ⟨dataset, List.mem_cons_self, (restore_row_names failures storage dataset).1,
            restore_row_workspace failures storage dataset⟩
      | inr later =>
          obtain ⟨old, stays, same⟩ := ih _ row later
          exact ⟨old, List.mem_cons_of_mem dataset stays, same⟩

theorem restore_row_in_step (full alone : Storage) (dataset : Dataset)
    (paths : ∀ path, dataset.parquetPath = some path → path.dataset ∈ ids) (agree : Agree ids full alone) :
    Agree ids (restoreRow failures full dataset).1 (restoreRow failures alone dataset).1 ∧
      (restoreRow failures alone dataset).2 = (restoreRow failures full dataset).2 := by
  unfold restoreRow
  by_cases ready : dataset.status ≠ .ready
  · rw [if_pos ready, if_pos ready]
    exact ⟨agree, rfl⟩
  · rw [if_neg ready, if_neg ready]
    cases parquet : dataset.parquetPath with
    | none => exact ⟨agree, rfl⟩
    | some path =>
        dsimp only
        have own := paths path parquet
        rw [agree_file ids path own agree]
        by_cases missing : full.isFile path = false
        · rw [if_pos missing, if_pos missing]
          exact ⟨agree, rfl⟩
        · rw [if_neg missing, if_neg missing]
          obtain ⟨kept, same⟩ := register_in_step ids path own dataset.tableName (failures dataset.id) full alone agree
          cases here : registerFile dataset.tableName path (failures dataset.id) full with
          | mk next outcome =>
              cases there : registerFile dataset.tableName path (failures dataset.id) alone with
              | mk after result =>
                  rw [here, there] at kept same
                  dsimp only at kept same
                  subst same
                  cases outcome with
                  | none => exact ⟨kept, rfl⟩
                  | some raised => exact ⟨kept, rfl⟩

theorem restore_rows_apart (workspaceId : Nat) (rows : List Dataset) (full alone : Storage)
    (named : ∀ row ∈ rows, row.tableName = tableNameOf row.id)
    (paths : ∀ row ∈ rows, ∀ path, row.parquetPath = some path → path.dataset = row.id)
    (owned : ∀ row ∈ rows, row.workspaceId = workspaceId → row.id ∈ ids)
    (foreign : ∀ row ∈ rows, row.workspaceId ≠ workspaceId → ∀ id ∈ ids, tableNameOf id ≠ tableNameOf row.id)
    (agree : Agree ids full alone) :
    Agree ids (restoreRows failures rows full).1 (restoreRows failures (ownRows workspaceId rows) alone).1 ∧
      (restoreRows failures (ownRows workspaceId rows) alone).2 = ownRows workspaceId (restoreRows failures rows full).2 := by
  induction rows generalizing full alone with
  | nil => exact ⟨agree, rfl⟩
  | cons dataset rest ih =>
      have later := fun full alone => ih full alone (fun row member => named row (List.mem_cons_of_mem dataset member))
        (fun row member => paths row (List.mem_cons_of_mem dataset member))
        (fun row member => owned row (List.mem_cons_of_mem dataset member))
        (fun row member => foreign row (List.mem_cons_of_mem dataset member))
      have workspace := restore_row_workspace failures full dataset
      by_cases own : dataset.workspaceId = workspaceId
      · obtain ⟨agreed, same⟩ := restore_row_in_step failures ids full alone dataset
          (fun path held => (paths dataset List.mem_cons_self path held).symm ▸ owned dataset List.mem_cons_self own) agree
        obtain ⟨ended, others⟩ := later _ _ agreed
        have split : ownRows workspaceId (dataset :: rest) = dataset :: ownRows workspaceId rest :=
          List.filter_cons_of_pos (decide_eq_true own)
        have kept : ownRows workspaceId (restoreRows failures (dataset :: rest) full).2 =
            (restoreRow failures full dataset).2 ::
              ownRows workspaceId (restoreRows failures rest (restoreRow failures full dataset).1).2 :=
          List.filter_cons_of_pos (decide_eq_true (workspace.trans own))
        rw [split, kept, restoreRows, restoreRows]
        exact ⟨ended, by rw [same, others]⟩
      · have agreed : Agree ids (restoreRow failures full dataset).1 alone := by
          have restored := restore_row_restored failures full dataset
          cases taken : restoreRow failures full dataset with
          | mk next row =>
              rw [taken] at restored
              cases restored with
              | skipped => exact agree
              | failed => exact agree
              | registered path =>
                  refine ⟨agree.root, agree.directories, fun id member => ?_⟩
                  have name := foreign dataset List.mem_cons_self own id member
                  rw [← named dataset List.mem_cons_self] at name
                  exact (agree.views id member).trans (Function.update_of_ne name ..).symm
        obtain ⟨ended, others⟩ := later _ _ agreed
        have split : ownRows workspaceId (dataset :: rest) = ownRows workspaceId rest :=
          List.filter_cons_of_neg (by simpa using own)
        have kept : ownRows workspaceId (restoreRows failures (dataset :: rest) full).2 =
            ownRows workspaceId (restoreRows failures rest (restoreRow failures full dataset).1).2 :=
          List.filter_cons_of_neg (by simpa [workspace] using own)
        rw [split, kept, restoreRows]
        exact ⟨ended, others⟩

theorem restore_apart (workspaceId : Nat) (restarted : Bool) (full alone : Storage) (apart : Apart workspaceId full alone) :
    Apart workspaceId (restoreEngine restarted failures full) (restoreEngine restarted failures alone) := by
  let clear (storage : Storage) : Storage := if restarted then { storage with views := fun _ => none } else storage
  have issued : ∀ storage, (restoreEngine restarted failures storage).issued = storage.issued := by
    intro storage
    have restored := rows_restored failures storage.rows (clear storage) storage.uniqueTables
    exact restored.issued.trans (by cases restarted <;> rfl)
  have cleared : Agree alone.issued (clear full) (clear alone) := by
    cases restarted with
    | false => exact apart.agree
    | true => exact ⟨apart.agree.root, apart.agree.directories, fun _ _ => rfl⟩
  have owned : ∀ row ∈ full.rows, row.workspaceId = workspaceId → row.id ∈ alone.issued := by
    intro row member own
    apply apart.own.rows
    rw [apart.rows]
    exact List.mem_filter.mpr ⟨member, decide_eq_true own⟩
  have foreign : ∀ row ∈ full.rows, row.workspaceId ≠ workspaceId → ∀ id ∈ alone.issued, tableNameOf id ≠ tableNameOf row.id := by
    intro row member other id own
    apply names_apart workspaceId full alone apart id row.id (apart.issued id own) (apart.tracked.rows row member)
    intro same
    exact other (apart.held row member (same ▸ own))
  obtain ⟨agreed, same⟩ := restore_rows_apart failures alone.issued workspaceId full.rows (clear full) (clear alone)
    apart.tracked.named apart.tracked.paths owned foreign cleared
  rw [← apart.rows] at agreed same
  refine ⟨restore_tracked restarted failures full apart.tracked, restore_tracked restarted failures alone apart.own, ?_, ?_, same,
    ?_, ?_⟩
  · rw [issued]
    exact apart.distinct
  · rw [issued, issued]
    exact apart.issued
  · rw [issued]
    intro row member own
    obtain ⟨old, stays, id, workspace⟩ := restore_rows_workspace failures full.rows (clear full) row member
    rw [workspace]
    exact apart.held old stays (id ▸ own)
  · rw [issued]
    exact ⟨agreed.root, agreed.directories, agreed.views⟩

end Restore

theorem apart_empty (workspaceId : Nat) : Apart workspaceId {} {} where
  tracked := ⟨by simp, by simp [NamedRows], by simp, by simp, by simp⟩
  own := ⟨by simp, by simp [NamedRows], by simp, by simp, by simp⟩
  distinct := by simp
  issued := by simp
  rows := rfl
  held := by simp
  agree := ⟨rfl, by simp, by simp⟩

section Steps

variable (maxColumns workspaceId : Nat) (full next alone : Storage) (operation : Operation) (new : NewName full operation)
  (apart : Apart workspaceId full alone) (taken : full.step maxColumns operation = some next)

include new apart taken

theorem foreign_step (foreign : operation.concerns workspaceId = false) : Apart workspaceId next alone := by
  cases operation with
  | ingest ingest =>
      exact foreign_ingest workspaceId full next alone maxColumns ingest (of_decide_eq_false foreign) new apart taken
  | delete owner id =>
      obtain rfl := Option.some.inj taken
      exact foreign_delete workspaceId full alone owner id (of_decide_eq_false foreign) apart
  | restore restarted failures => cases foreign

theorem own_step (own : operation.concerns workspaceId = true) :
    operation.answer maxColumns alone = operation.answer maxColumns full ∧
      ∃ after, alone.step maxColumns operation = some after ∧ Apart workspaceId next after := by
  cases operation with
  | ingest ingest =>
      obtain ⟨answers, moved⟩ := own_ingest workspaceId full next alone maxColumns ingest (of_decide_eq_true own) new apart taken
      exact ⟨congrArg Answer.ingested answers, moved⟩
  | delete owner id =>
      obtain rfl := of_decide_eq_true own
      obtain rfl := Option.some.inj taken
      obtain ⟨answers, kept⟩ := own_delete owner full alone id apart
      exact ⟨congrArg Answer.deleted answers, _, rfl, kept⟩
  | restore restarted failures =>
      obtain rfl := Option.some.inj taken
      exact ⟨rfl, _, rfl, restore_apart failures workspaceId restarted full alone apart⟩

end Steps

-- What the workspace has done so far was answered with.
def ownAnswers (maxColumns workspaceId : Nat) (storage : Storage) (operations : List Operation) : List Answer :=
  runEvents (Storage.step maxColumns) (ownAnswer (Operation.concerns workspaceId) (Operation.answer maxColumns)) storage
    operations

theorem run_apart (maxColumns workspaceId : Nat) (operations : List Operation) (start full alone : Storage)
    (apart : Apart workspaceId start alone) (names : StepsMeet (Storage.step maxColumns) NewName start operations)
    (run : runFrom (Storage.step maxColumns) start operations = some full) :
    ∃ after, runFrom (Storage.step maxColumns) alone (operations.filter (Operation.concerns workspaceId)) = some after ∧
      Apart workspaceId full after ∧
      ownAnswers maxColumns workspaceId alone (operations.filter (Operation.concerns workspaceId)) =
        ownAnswers maxColumns workspaceId start operations :=
  run_purged (Operation.concerns workspaceId) (Operation.answer maxColumns) NewName (Apart workspaceId)
    (fun full next alone operation foreign new apart taken =>
      foreign_step maxColumns workspaceId full next alone operation new apart taken foreign)
    (fun full next alone operation own new apart taken =>
      own_step maxColumns workspaceId full next alone operation new apart taken own)
    start full alone operations apart names run

theorem workspaces_apart (maxColumns workspaceId : Nat) (operations : List Operation) (full : Storage)
    (names : StepsMeet (Storage.step maxColumns) NewName {} operations)
    (run : runFrom (Storage.step maxColumns) {} operations = some full) :
    ∃ alone, runFrom (Storage.step maxColumns) {} (operations.filter (Operation.concerns workspaceId)) = some alone ∧
      alone.rows = ownRows workspaceId full.rows ∧
      (∀ row ∈ alone.rows, alone.directories row.id = full.directories row.id ∧
        alone.views row.tableName = full.views row.tableName) ∧
      ownAnswers maxColumns workspaceId {} (operations.filter (Operation.concerns workspaceId)) =
        ownAnswers maxColumns workspaceId {} operations := by
  obtain ⟨alone, reached, apart, same⟩ :=
    run_apart maxColumns workspaceId operations {} full {} (apart_empty workspaceId) names run
  refine ⟨alone, reached, apart.rows, ?_, same⟩
  intro row member
  have issued := apart.own.rows row member
  rw [apart.own.named row member]
  exact ⟨apart.agree.directories row.id issued, apart.agree.views row.id issued⟩

section Sample

def northUpload : Ingest := { id := 0x1a2b3c4d5e6f40018000000000000001#128, workspaceId := 1, filename := "north.csv" }

def southUpload : Ingest := { id := 0x6f5e4d3c2b1a40018000000000000002#128, workspaceId := 2, filename := "south.csv" }

-- The second workspace uploads, and deletes in vain, between the steps of the first.
def sharedOperations : List Operation :=
  [.ingest southUpload, .ingest northUpload, .delete 2 northUpload.id, .restore true fun _ => none, .delete 1 southUpload.id]

end Sample

theorem workspaces_apart_shared : ∃ alone full, runFrom (Storage.step 100) {} sharedOperations = some full ∧
    runFrom (Storage.step 100) {} [.ingest northUpload, .restore true fun _ => none, .delete 1 southUpload.id] = some alone ∧
    alone.rows = ownRows 1 full.rows ∧ ownRows 1 full.rows = [northUpload.row] := by
  have ends : (runFrom (Storage.step 100) {} sharedOperations).map (fun storage => ownRows 1 storage.rows) =
      some [northUpload.row] := by decide +kernel
  obtain ⟨full, run, rows⟩ := Option.map_eq_some_iff.mp ends
  have counted : countSteps (Storage.step 100) (fun storage operation => !decide (NewName storage operation)) {}
      sharedOperations = 0 := by
    decide +kernel
  have names := steps_meet_mono _ _ _ _ (fun _ _ tested => of_decide_eq_true tested) (steps_meet_of_count _ _ _ counted)
  obtain ⟨alone, reached, same, _⟩ := workspaces_apart 100 1 sharedOperations full names run
  exact ⟨alone, full, run, reached, same, rows⟩

end DataPilot.Datasets
