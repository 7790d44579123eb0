import DataPilot.Datasets.Registration

set_option autoImplicit false

namespace DataPilot.Datasets

open DataPilot.Base

-- Each ready dataset can be queried: its view reads its own file.
def Storage.ReadyRegistered (storage : Storage) : Prop :=
  ∀ row ∈ storage.rows, row.status = .ready →
    storage.views row.tableName = some (parquetPathOf row.id) ∧ storage.isFile (parquetPathOf row.id) = true ∧
      (storage.directories row.id).isSome

-- What an ingest that has raised leaves: the rows, directories and views of the
-- other datasets as they were, and none of its own.
structure LeftClean (id : DatasetId) (before after : Storage) : Prop where
  rows : after.rows = before.rows
  directories : ∀ other, other ≠ id → after.directories other = before.directories other
  views : ∀ name path, path.dataset ≠ id → (after.views name = some path ↔ before.views name = some path)
  ownRows : ∀ row ∈ after.rows, row.id ≠ id
  ownDirectory : after.directories id = none
  ownViews : ∀ name path, after.views name = some path → path.dataset ≠ id

def FailedIngestClean (maxColumns : Nat) (storage : Storage) : Operation → Prop
  | .ingest ingest => ∀ raised, (ingest.run maxColumns storage).2 = some raised →
      LeftClean ingest.id storage (ingest.run maxColumns storage).1
  | .delete _ _ => True
  | .restore _ _ => True

-- An ingest takes no name that a view has, and raises no more once its row is committed.
def Careful (maxColumns : Nat) (storage : Storage) : Operation → Prop
  | .ingest ingest =>
      (MakesDirectory ingest.filename ingest.answers → storage.views (tableNameOf ingest.id) = none) ∧
        ¬ ingest.RaisesLate maxColumns storage
  | .delete _ _ => True
  | .restore _ _ => True

structure Sound (storage : Storage) : Prop where
  registered : ∀ row ∈ storage.rows, row.status = .ready →
    storage.views row.tableName = some (parquetPathOf row.id) ∧ storage.isFile (parquetPathOf row.id) = true
  named : ∀ row ∈ storage.rows, row.tableName = tableNameOf row.id ∧ row.parquetPath = some (parquetPathOf row.id)
  viewed : ∀ name path, storage.views name = some path →
    ∃ row ∈ storage.rows, row.tableName = name ∧ path = parquetPathOf row.id
  stored : ∀ id, storage.directories id ≠ none → ∃ row ∈ storage.rows, row.id = id
  issued : ∀ row ∈ storage.rows, row.id ∈ storage.issued

theorem sound_empty : Sound {} :=
  ⟨by simp, by simp, by simp, by simp, by simp⟩

theorem file_directory (storage : Storage) (path : DataPath) (file : storage.isFile path = true) :
    (storage.directories path.dataset).isSome := by
  unfold Storage.isFile at file
  cases held : storage.directories path.dataset with
  | none => simp [held] at file
  | some files => rfl

theorem file_kept (before after : Storage) (path : DataPath)
    (same : after.directories path.dataset = before.directories path.dataset) : after.isFile path = before.isFile path := by
  rw [Storage.isFile, Storage.isFile, same]

theorem sound_ready (storage : Storage) (sound : Sound storage) : storage.ReadyRegistered := by
  intro row member ready
  obtain ⟨view, file⟩ := sound.registered row member ready
  exact ⟨view, file, file_directory storage _ file⟩

theorem fresh_row (storage : Storage) (id : DatasetId) (sound : Sound storage) (fresh : id ∉ storage.issued)
    (row : Dataset) (member : row ∈ storage.rows) : row.id ≠ id :=
  fun same => fresh (same ▸ sound.issued row member)

theorem fresh_directory (storage : Storage) (id : DatasetId) (sound : Sound storage) (fresh : id ∉ storage.issued) :
    storage.directories id = none := by
  by_contra held
  obtain ⟨row, member, same⟩ := sound.stored id held
  exact fresh_row storage id sound fresh row member same

theorem fresh_views (storage : Storage) (id : DatasetId) (sound : Sound storage) (fresh : id ∉ storage.issued)
    (name : String) (path : DataPath) (view : storage.views name = some path) : path.dataset ≠ id := by
  obtain ⟨row, member, _, rfl⟩ := sound.viewed name path view
  exact fresh_row storage id sound fresh row member

section Ingest

variable (storage next : Storage) (id : DatasetId)

theorem undone_same (sound : Sound storage) (undone : Undone id storage next)
    (free : storage.views (tableNameOf id) = none) (fresh : id ∉ storage.issued) :
    (∀ name, next.views name = storage.views name) ∧ ∀ other, next.directories other = storage.directories other := by
  constructor
  · intro name
    by_cases own : name = tableNameOf id
    · rw [own, undone.view, free]
    · exact undone.own.views name own
  · intro other
    by_cases own : other = id
    · rw [own, undone.directory, fresh_directory storage id sound fresh]
    · exact undone.own.directories other own

theorem sound_kept (sound : Sound storage) (rows : next.rows = storage.rows)
    (views : ∀ name, next.views name = storage.views name)
    (directories : ∀ other, next.directories other = storage.directories other)
    (issued : storage.issued ⊆ next.issued) : Sound next where
  registered row member ready := by
    rw [views, file_kept storage next _ (directories _)]
    exact sound.registered row (rows ▸ member) ready
  named row member := sound.named row (rows ▸ member)
  viewed name path view := by
    rw [rows]
    exact sound.viewed name path (views name ▸ view)
  stored other held := by
    rw [rows]
    exact sound.stored other (directories other ▸ held)
  issued row member := issued (sound.issued row (rows ▸ member))

theorem left_clean_same (sound : Sound storage) (fresh : id ∉ storage.issued) (rows : next.rows = storage.rows)
    (views : ∀ name, next.views name = storage.views name)
    (directories : ∀ other, next.directories other = storage.directories other) : LeftClean id storage next where
  rows := rows
  directories other _ := directories other
  views name path _ := by rw [views]
  ownRows row member := fresh_row storage id sound fresh row (rows ▸ member)
  ownDirectory := by rw [directories, fresh_directory storage id sound fresh]
  ownViews name path view := fresh_views storage id sound fresh name path (views name ▸ view)

end Ingest

theorem ingest_done_sound (ingest : Ingest) (storage next : Storage) (sound : Sound storage)
    (fresh : ingest.id ∉ storage.issued) (rows : next.rows = storage.rows ++ [ingest.row])
    (directories : ∀ other, other ≠ ingest.id → next.directories other = storage.directories other)
    (views : ∀ name, name ≠ tableNameOf ingest.id → next.views name = storage.views name)
    (view : next.views (tableNameOf ingest.id) = some (parquetPathOf ingest.id))
    (file : next.isFile (parquetPathOf ingest.id) = true)
    (free : tableNameOf ingest.id ∉ storage.rows.map Dataset.tableName)
    (issued : next.issued = storage.issued ++ [ingest.id]) : Sound next := by
  have members : ∀ row, row ∈ next.rows ↔ row ∈ storage.rows ∨ row = ingest.row := by
    intro row
    rw [rows, List.mem_append, List.mem_singleton]
  have others : ∀ row ∈ storage.rows, row.tableName ≠ tableNameOf ingest.id :=
    fun row member same => free (same ▸ List.mem_map_of_mem member)
  constructor
  · intro row member ready
    rcases (members row).mp member with old | rfl
    · rw [views _ (others row old), file_kept storage next _ (directories _ (fresh_row storage _ sound fresh row old))]
      exact sound.registered row old ready
    · exact ⟨view, file⟩
  · intro row member
    rcases (members row).mp member with old | rfl
    · exact sound.named row old
    · exact ⟨rfl, rfl⟩
  · intro name path read
    by_cases own : name = tableNameOf ingest.id
    · rw [own, view] at read
      exact ⟨ingest.row, (members _).mpr (.inr rfl), own.symm, (Option.some.inj read).symm⟩
    · obtain ⟨row, old, called, reads⟩ := sound.viewed name path (views name own ▸ read)
      exact ⟨row, (members row).mpr (.inl old), called, reads⟩
  · intro other held
    by_cases own : other = ingest.id
    · exact ⟨ingest.row, (members _).mpr (.inr rfl), own.symm⟩
    · obtain ⟨row, old, same⟩ := sound.stored other (directories other own ▸ held)
      exact ⟨row, (members row).mpr (.inl old), same⟩
  · intro row member
    rw [issued]
    rcases (members row).mp member with old | rfl
    · exact List.mem_append_left _ (sound.issued row old)
    · exact List.mem_append_right _ (List.mem_singleton.mpr rfl)

theorem ingest_sound (maxColumns : Nat) (ingest : Ingest) (storage : Storage) (sound : Sound storage)
    (fresh : ingest.id ∉ storage.issued) (careful : Careful maxColumns storage (.ingest ingest)) :
    Sound { (ingest.run maxColumns storage).1 with issued := storage.issued ++ [ingest.id] } ∧
      FailedIngestClean maxColumns storage (.ingest ingest) := by
  have ingested := ingest_ingested maxColumns ingest storage (fresh_directory storage _ sound fresh)
  rw [FailedIngestClean]
  generalize ingest.run maxColumns storage = result at ingested ⊢
  cases ingested with
  | refused raised unmade =>
      exact ⟨sound_kept storage { storage with issued := storage.issued ++ [ingest.id] } sound rfl (fun _ => rfl)
          (fun _ => rfl) (List.subset_append_left _ _),
        fun _ _ => left_clean_same storage storage ingest.id sound fresh rfl (fun _ => rfl) fun _ => rfl⟩
  | undone next raised makes undone =>
      obtain ⟨views, directories⟩ := undone_same storage next ingest.id sound undone (careful.1 makes) fresh
      exact ⟨sound_kept storage { next with issued := storage.issued ++ [ingest.id] } sound undone.own.rows views
          directories (List.subset_append_left _ _),
        fun _ _ => left_clean_same storage next ingest.id sound fresh undone.own.rows views directories⟩
  | late next raised late => exact absurd late careful.2
  | done next rows directories views view file free =>
      exact ⟨ingest_done_sound ingest storage { next with issued := storage.issued ++ [ingest.id] } sound fresh rows
          directories views view file free rfl,
        fun _ raised => by cases raised⟩

theorem name_taken_unclean (maxColumns : Nat) (ingest : Ingest) (storage : Storage) (sound : Sound storage)
    (fresh : ingest.id ∉ storage.issued) (makes : MakesDirectory ingest.filename ingest.answers)
    (prompt : ¬ ingest.RaisesLate maxColumns storage) (path : DataPath)
    (view : storage.views (tableNameOf ingest.id) = some path) : ¬ FailedIngestClean maxColumns storage (.ingest ingest) := by
  have ingested := ingest_ingested maxColumns ingest storage (fresh_directory storage _ sound fresh)
  rw [FailedIngestClean]
  generalize ingest.run maxColumns storage = result at ingested ⊢
  intro clean
  cases ingested with
  | refused raised unmade => exact unmade makes
  | undone next raised _ undone =>
      have foreign := fresh_views storage ingest.id sound fresh _ path view
      have kept := ((clean raised rfl).views (tableNameOf ingest.id) path foreign).mpr view
      rw [undone.view] at kept
      cases kept
  | late next raised late => exact prompt late
  | done next rows directories views registered file free =>
      obtain ⟨row, member, called, _⟩ := sound.viewed _ path view
      exact free (called ▸ List.mem_map_of_mem member)

theorem late_unclean (maxColumns : Nat) (ingest : Ingest) (storage : Storage) (sound : Sound storage)
    (fresh : ingest.id ∉ storage.issued) (late : ingest.RaisesLate maxColumns storage) :
    ¬ FailedIngestClean maxColumns storage (.ingest ingest) := by
  intro clean
  obtain ⟨next, raised, run, member⟩ := raises_late_row maxColumns ingest storage (fresh_directory storage _ sound fresh) late
  exact (clean raised (congrArg Prod.snd run)).ownRows ingest.row (by rw [run]; exact member) rfl

theorem careless_unclean (maxColumns : Nat) (ingest : Ingest) (storage : Storage) (sound : Sound storage)
    (fresh : ingest.id ∉ storage.issued) (careless : ¬ Careful maxColumns storage (.ingest ingest)) :
    ¬ FailedIngestClean maxColumns storage (.ingest ingest) := by
  by_cases late : ingest.RaisesLate maxColumns storage
  · exact late_unclean maxColumns ingest storage sound fresh late
  · have taken : ¬ (MakesDirectory ingest.filename ingest.answers → storage.views (tableNameOf ingest.id) = none) :=
      fun free => careless ⟨free, late⟩
    obtain ⟨makes, held⟩ := Classical.not_imp.mp taken
    obtain ⟨path, view⟩ := Option.ne_none_iff_exists'.mp held
    exact name_taken_unclean maxColumns ingest storage sound fresh makes late path view

theorem removal_sound (storage cut : Storage) (id : DatasetId) (sound : Sound storage) (views : cut.views = storage.views)
    (directories : cut.directories = storage.directories) (issued : cut.issued = storage.issued)
    (rows : ∀ row, row ∈ cut.rows ↔ row ∈ storage.rows ∧ row.id ≠ id)
    (names : ∀ row ∈ storage.rows, row.id ≠ id → row.tableName ≠ tableNameOf id) :
    Sound (remove id (tableNameOf id) cut) := by
  have own := own_remove id cut
  constructor
  · intro row left ready
    obtain ⟨old, other⟩ := (rows row).mp left
    rw [own.views _ (names row old other), file_kept cut _ _ (own.directories _ other), views,
      file_kept storage cut _ (by rw [directories])]
    exact sound.registered row old ready
  · exact fun row left => sound.named row ((rows row).mp left).1
  · intro name path view
    by_cases same : name = tableNameOf id
    · rw [same, remove_view] at view
      cases view
    · rw [own.views name same, views] at view
      obtain ⟨row, old, called, reads⟩ := sound.viewed name path view
      refine ⟨row, (rows row).mpr ⟨old, fun removed => same ?_⟩, called, reads⟩
      rw [← called, (sound.named row old).1, removed]
  · intro other held
    by_cases same : other = id
    · rw [same, remove_directory] at held
      exact absurd rfl held
    · rw [own.directories other same, directories] at held
      obtain ⟨row, old, rfl⟩ := sound.stored other held
      exact ⟨row, (rows row).mpr ⟨old, same⟩, rfl⟩
  · intro row left
    change row.id ∈ cut.issued
    rw [issued]
    exact sound.issued row ((rows row).mp left).1

theorem delete_sound (storage : Storage) (workspaceId : Nat) (id : DatasetId) (sound : Sound storage) :
    Sound (deleteDataset workspaceId id storage).1 := by
  unfold deleteDataset
  cases found : storage.rows.find? fun row => row.id = id ∧ row.workspaceId = workspaceId with
  | none => exact sound
  | some dataset =>
      have member := List.mem_of_find?_eq_some found
      have chosen := List.find?_some found
      simp only [decide_eq_true_eq] at chosen
      have called : dataset.tableName = tableNameOf id := chosen.1 ▸ (sound.named dataset member).1
      dsimp only
      rw [called]
      refine removal_sound storage _ id sound rfl rfl rfl (fun row => ?_) fun row old other same => other ?_
      · rw [List.mem_filter, decide_eq_true_eq]
        refine and_congr_right fun old => ⟨fun left same => left ?_, fun other left => other left.1⟩
        rw [List.inj_on_of_nodup_map storage.uniqueIds old member (same.trans chosen.1.symm)]
        exact chosen
      · rw [List.inj_on_of_nodup_map storage.uniqueTables old member (same.trans called.symm)]
        exact chosen.1

inductive Restored (storage : Storage) (dataset : Dataset) : Storage × Dataset → Prop where
  | skipped (unready : dataset.status ≠ .ready) : Restored storage dataset (storage, dataset)
  | failed (message : String) : Restored storage dataset (storage, dataset.fail message)
  | registered (path : DataPath) (parquet : dataset.parquetPath = some path) (file : storage.isFile path = true) :
      Restored storage dataset (storage.setView dataset.tableName (some path), dataset)

theorem restore_row_restored (failures : DatasetId → Option PyException) (storage : Storage) (dataset : Dataset) :
    Restored storage dataset (restoreRow failures storage dataset) := by
  unfold restoreRow
  split
  · rename_i unready
    exact .skipped unready
  · split
    · exact .failed _
    · rename_i path parquet
      split
      · exact .failed _
      · rename_i present
        unfold registerFile
        rw [if_neg present]
        cases failures dataset.id with
        | none => exact .registered path parquet ((Bool.not_eq_false _).mp present)
        | some raised => exact .failed _

structure RowsRestored (storage : Storage) (rows : List Dataset) (after : Storage) (restored : List Dataset) : Prop where
  directories : after.directories = storage.directories
  issued : after.issued = storage.issued
  others : ∀ name, name ∉ rows.map Dataset.tableName → after.views name = storage.views name
  views : ∀ name path, after.views name = some path → storage.views name = some path ∨
    ∃ row ∈ rows, row.tableName = name ∧ row.parquetPath = some path
  sources : ∀ row ∈ restored, ∃ old ∈ rows, row.id = old.id ∧ row.tableName = old.tableName ∧
    row.parquetPath = old.parquetPath ∧ (row.status = .ready →
      ∃ path, old.parquetPath = some path ∧ after.views old.tableName = some path ∧ storage.isFile path = true)
  kept : ∀ old ∈ rows, ∃ row ∈ restored, row.id = old.id ∧ row.tableName = old.tableName

theorem rows_restored_one (storage : Storage) (dataset : Dataset) (taken : Storage × Dataset)
    (restored : Restored storage dataset taken) : RowsRestored storage [dataset] taken.1 [taken.2] := by
  have own : dataset ∈ [dataset] := List.mem_singleton.mpr rfl
  cases restored with
  | skipped unready =>
      refine ⟨rfl, rfl, fun _ _ => rfl, fun _ _ view => .inl view, List.forall_mem_singleton.mpr ?_,
        List.forall_mem_singleton.mpr ⟨dataset, own, rfl, rfl⟩⟩
      exact ⟨dataset, own, rfl, rfl, rfl, fun ready => absurd ready unready⟩
  | failed message =>
      refine ⟨rfl, rfl, fun _ _ => rfl, fun _ _ view => .inl view, List.forall_mem_singleton.mpr ?_,
        List.forall_mem_singleton.mpr ⟨dataset.fail message, List.mem_singleton.mpr rfl, rfl, rfl⟩⟩
      exact ⟨dataset, own, rfl, rfl, rfl, fun ready => (by cases ready)⟩
  | registered path parquet file =>
      have reads : (storage.setView dataset.tableName (some path)).views dataset.tableName = some path :=
        Function.update_self ..
      refine ⟨rfl, rfl, fun name other => ?_, fun name read view => ?_, List.forall_mem_singleton.mpr ?_,
        List.forall_mem_singleton.mpr ⟨dataset, own, rfl, rfl⟩⟩
      · rw [List.map_singleton, List.mem_singleton] at other
        exact Function.update_of_ne other ..
      · by_cases same : name = dataset.tableName
        · rw [same, reads] at view
          exact .inr ⟨dataset, own, same.symm, parquet.trans view⟩
        · exact .inl ((Function.update_of_ne same ..).symm.trans view)
      · exact ⟨dataset, own, rfl, rfl, rfl, fun _ => ⟨path, parquet, reads, file⟩⟩

theorem rows_restored_append (storage middle after : Storage) (front back first second : List Dataset)
    (one : RowsRestored storage front middle first) (two : RowsRestored middle back after second)
    (apart : ∀ row ∈ front, row.tableName ∉ back.map Dataset.tableName) :
    RowsRestored storage (front ++ back) after (first ++ second) where
  directories := two.directories.trans one.directories
  issued := two.issued.trans one.issued
  others name absent := by
    rw [List.map_append, List.mem_append, not_or] at absent
    rw [two.others name absent.2, one.others name absent.1]
  views name path view := by
    rcases two.views name path view with earlier | ⟨row, member, called, parquet⟩
    · rcases one.views name path earlier with before | ⟨row, member, called, parquet⟩
      · exact .inl before
      · exact .inr ⟨row, List.mem_append_left _ member, called, parquet⟩
    · exact .inr ⟨row, List.mem_append_right _ member, called, parquet⟩
  sources row member := by
    rcases List.mem_append.mp member with left | right
    · obtain ⟨old, held, id, name, parquet, ready⟩ := one.sources row left
      refine ⟨old, List.mem_append_left _ held, id, name, parquet, fun status => ?_⟩
      rw [two.others _ (apart old held)]
      exact ready status
    · obtain ⟨old, held, id, name, parquet, ready⟩ := two.sources row right
      refine ⟨old, List.mem_append_right _ held, id, name, parquet, fun status => ?_⟩
      obtain ⟨path, stored, view, file⟩ := ready status
      exact ⟨path, stored, view, file_kept storage middle path (by rw [one.directories]) ▸ file⟩
  kept old member := by
    rcases List.mem_append.mp member with left | right
    · obtain ⟨row, held, same⟩ := one.kept old left
      exact ⟨row, List.mem_append_left _ held, same⟩
    · obtain ⟨row, held, same⟩ := two.kept old right
      exact ⟨row, List.mem_append_right _ held, same⟩

-- The table names are distinct, so that no later view replaces an earlier one.
theorem rows_restored (failures : DatasetId → Option PyException) (rows : List Dataset) (storage : Storage)
    (distinct : (rows.map Dataset.tableName).Nodup) :
    RowsRestored storage rows (restoreRows failures rows storage).1 (restoreRows failures rows storage).2 := by
  induction rows generalizing storage with
  | nil => exact ⟨rfl, rfl, fun _ _ => rfl, fun _ _ view => .inl view, fun _ member => (by cases member),
      fun _ member => (by cases member)⟩
  | cons dataset rest ih =>
      obtain ⟨apart, distinct⟩ := List.nodup_cons.mp distinct
      refine rows_restored_append storage _ _ [dataset] rest [_] _
        (rows_restored_one storage dataset _ (restore_row_restored failures storage dataset)) (ih _ distinct) ?_
      intro row member
      rw [List.mem_singleton.mp member]
      exact apart

theorem restore_sound (restarted : Bool) (failures : DatasetId → Option PyException) (storage : Storage)
    (sound : Sound storage) : Sound (restoreEngine restarted failures storage) := by
  let started : Storage := if restarted then { storage with views := fun _ => none } else storage
  have directories : started.directories = storage.directories := by cases restarted <;> rfl
  have issued : started.issued = storage.issued := by cases restarted <;> rfl
  have views : ∀ name path, started.views name = some path → storage.views name = some path := by
    intro name path view
    cases restarted with
    | false => exact view
    | true => cases view
  have restored := rows_restored failures storage.rows started storage.uniqueTables
  have held := restored.directories.trans directories
  constructor
  · intro row member ready
    obtain ⟨old, stays, id, name, _, registered⟩ := restored.sources row member
    obtain ⟨path, stored, view, file⟩ := registered ready
    obtain rfl : parquetPathOf old.id = path := Option.some.inj ((sound.named old stays).2.symm.trans stored)
    rw [id, name]
    exact ⟨view, (file_kept started _ _ (congrFun restored.directories _)).trans file⟩
  · intro row member
    obtain ⟨old, stays, id, name, parquet, _⟩ := restored.sources row member
    rw [id, name, parquet]
    exact sound.named old stays
  · intro name path view
    obtain ⟨old, stays, called, reads⟩ : ∃ old ∈ storage.rows, old.tableName = name ∧ path = parquetPathOf old.id := by
      rcases restored.views name path view with before | ⟨old, stays, called, parquet⟩
      · exact sound.viewed name path (views name path before)
      · exact ⟨old, stays, called, Option.some.inj (parquet.symm.trans (sound.named old stays).2)⟩
    obtain ⟨row, member, id, same⟩ := restored.kept old stays
    exact ⟨row, member, same.trans called, id ▸ reads⟩
  · intro other left
    obtain ⟨old, stays, same⟩ := sound.stored other (congrFun held other ▸ left)
    obtain ⟨row, member, id, _⟩ := restored.kept old stays
    exact ⟨row, member, id.trans same⟩
  · intro row member
    obtain ⟨old, stays, id, _⟩ := restored.sources row member
    rw [id]
    exact (restored.issued.trans issued) ▸ sound.issued old stays

theorem step_sound (maxColumns : Nat) (storage next : Storage) (operation : Operation) (sound : Sound storage)
    (careful : Careful maxColumns storage operation) (taken : storage.step maxColumns operation = some next) :
    Sound next ∧ FailedIngestClean maxColumns storage operation := by
  cases operation with
  | ingest ingest =>
      rw [Storage.step] at taken
      split at taken
      · cases taken
      · rename_i fresh
        rw [← Option.some.inj taken]
        exact ingest_sound maxColumns ingest storage sound fresh careful
  | delete workspaceId id =>
      cases taken
      exact ⟨delete_sound storage workspaceId id sound, trivial⟩
  | restore restarted failures =>
      cases taken
      exact ⟨restore_sound restarted failures storage sound, trivial⟩

theorem clean_careful (maxColumns : Nat) (storage next : Storage) (operation : Operation) (sound : Sound storage)
    (clean : FailedIngestClean maxColumns storage operation) (taken : storage.step maxColumns operation = some next) :
    Careful maxColumns storage operation := by
  cases operation with
  | ingest ingest =>
      rw [Storage.step] at taken
      split at taken
      · cases taken
      · rename_i fresh
        by_contra careless
        exact careless_unclean maxColumns ingest storage sound fresh careless clean
  | delete workspaceId id => trivial
  | restore restarted failures => trivial

def RegisteredThroughout (maxColumns : Nat) (operations : List Operation) : Prop :=
  ∀ first rest middle, operations = first ++ rest → runFrom (Storage.step maxColumns) {} first = some middle →
    middle.ReadyRegistered

theorem registrations_hold_iff (maxColumns : Nat) (operations : List Operation) (final : Storage)
    (run : runFrom (Storage.step maxColumns) {} operations = some final) :
    (RegisteredThroughout maxColumns operations ∧
        StepsMeet (Storage.step maxColumns) (FailedIngestClean maxColumns) {} operations) ↔
      StepsMeet (Storage.step maxColumns) (Careful maxColumns) {} operations := by
  have agree : StepsMeet (Storage.step maxColumns) (FailedIngestClean maxColumns) {} operations ↔
      StepsMeet (Storage.step maxColumns) (Careful maxColumns) {} operations :=
    steps_meet_congr _ _ Sound
      (fun storage operation next sound taken =>
        ⟨fun clean => clean_careful maxColumns storage next operation sound clean taken,
          fun careful => (step_sound maxColumns storage next operation sound careful taken).2⟩)
      (fun storage operation next sound careful taken => (step_sound maxColumns storage next operation sound careful taken).1)
      {} final operations sound_empty run
  refine ⟨fun holds => agree.mp holds.2, fun careful => ⟨fun first rest middle parts reached => ?_, agree.mpr careful⟩⟩
  rw [parts, steps_meet_append _ {} middle first rest reached] at careful
  exact sound_ready middle (run_invariant_meeting (Careful maxColumns) Sound
    (fun storage operation next sound careful taken => (step_sound maxColumns storage next operation sound careful taken).1)
    {} middle first sound_empty careful.1 reached)

section Sample

def ordersId : DatasetId := 0x8a1f03c2d4e64b5a90c1d2e3f4a5b6c7#128

-- The first twelve digits are those of ordersId.
def salesId : DatasetId := 0x8a1f03c2d4e6400180000000000000ff#128

def uploadOrders : Ingest := { id := ordersId, workspaceId := 1, filename := "orders.csv" }

def uploadSales : Ingest := { id := salesId, workspaceId := 2, filename := "sales.csv" }

def uploadBroken : Ingest :=
  { id := 7#128, workspaceId := 1, filename := "Broken.XLSX", answers := { convert := some ⟨"BinderException", ""⟩ } }

def carefulOperations : List Operation :=
  [.ingest uploadOrders, .ingest uploadBroken, .restore true fun _ => none]

def collidingOperations : List Operation := [.ingest uploadOrders, .ingest uploadSales]

end Sample

theorem registrations_hold_iff_restarted :
    ∃ final, runFrom (Storage.step 100) {} carefulOperations = some final ∧ final.rows.map Dataset.id = [ordersId] ∧
      ((RegisteredThroughout 100 carefulOperations ∧
          StepsMeet (Storage.step 100) (FailedIngestClean 100) {} carefulOperations) ↔
        StepsMeet (Storage.step 100) (Careful 100) {} carefulOperations) := by
  have ends : (runFrom (Storage.step 100) {} carefulOperations).map (fun storage => storage.rows.map Dataset.id) =
      some [ordersId] := by decide +kernel
  obtain ⟨final, run, rows⟩ := Option.map_eq_some_iff.mp ends
  exact ⟨final, run, rows, registrations_hold_iff 100 carefulOperations final run⟩

-- The insert of the second dataset is refused, and its cleanup drops the view of the first.
theorem colliding_ingest_drops_view :
    ¬ ∀ (maxColumns : Nat) (operations : List Operation) (final : Storage),
      runFrom (Storage.step maxColumns) {} operations = some final → final.ReadyRegistered := by
  intro claim
  have ends : (runFrom (Storage.step 100) {} collidingOperations).map
      (fun storage => (storage.rows, storage.views uploadOrders.row.tableName)) = some ([uploadOrders.row], none) := by
    decide +kernel
  obtain ⟨final, run, left⟩ := Option.map_eq_some_iff.mp ends
  obtain ⟨rows, view⟩ := Prod.mk.inj left
  obtain ⟨registered, _⟩ := claim 100 collidingOperations final run uploadOrders.row
    (by rw [rows]; exact List.mem_singleton.mpr rfl) rfl
  rw [view] at registered
  cases registered

end DataPilot.Datasets
