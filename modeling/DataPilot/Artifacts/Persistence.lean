import DataPilot.Artifacts.Store

set_option autoImplicit false

namespace DataPilot.Artifacts

open DataPilot.Base DataPilot.Sandbox

variable (guessType : String → Option String) (batchDir : List String) (workspaceId : String)

-- What the store may leave of a batch that raises.
structure Nothing (before after : Archive) : Prop where
  files : ∀ path, batchDir <+: path → after.disk path = none
  records : after.rows = before.rows
  others : ∀ path, ¬ batchDir <+: path → after.disk path = before.disk path

structure Kept (after : Archive) (item : Item) (record : Artifact) : Prop where
  id : record.id = item.2.artifactId
  workspace : record.workspaceId = workspaceId
  decoded : ∃ content, b64decode true item.1.contentBase64 = .ok content ∧ record.size = content.length ∧
    after.disk record.storedPath = some content

-- What it owes for a batch that returns: a row and a file of its own for every item,
-- no other file, and the views of the rows in their order.
structure Everything (before after : Archive) (items : List Item) (views : List ArtifactView) (records : List Artifact) :
    Prop where
  committed : after.rows = before.rows ++ records
  views : views = records.map artifactView
  kept : List.Forall₂ (Kept workspaceId after) items records
  distinct : (records.map Artifact.id).Nodup ∧ (records.map Artifact.storedPath).Nodup
  files : ∀ path, batchDir <+: path → after.disk path ≠ none → path ∈ records.map Artifact.storedPath
  others : ∀ path, ¬ batchDir <+: path → after.disk path = before.disk path

def AllOrNothing (archive : Archive) (batch : Batch) : Prop :=
  match persist guessType workspaceId archive batch with
  | (after, .error _) => Nothing (archive.batchDirectory batch) archive after
  | (after, .ok views) =>
      ∃ records, Everything (archive.batchDirectory batch) workspaceId archive after batch.items views records

-- What the handler sees when the block ends with this.
def Batch.raised (batch : Batch) (thrown : Thrown) : Thrown :=
  match batch.close with
  | .error other => other
  | .ok () => thrown

-- The handler runs, and rmtree gets at the file.
def Batch.removes (batch : Batch) (thrown : Thrown) (path : List String) : Prop :=
  (∃ failure, batch.raised thrown = .exception failure) ∧ batch.survives path = false

-- The courses of a batch that leave nothing half done. Files written before the first
-- round that stops, and by it, are removed; a commit that returns is followed by an
-- orderly exit, and one that raises has not been applied.
structure Clean (batch : Batch) : Prop where
  stopped : ∀ front item back thrown left, batch.items = front ++ item :: back → (∀ earlier ∈ front, Passes earlier) →
    storeOne item = .error (thrown, left) → ∀ path ∈ (written batchDir (front ++ [item])).map Prod.fst, batch.removes thrown path
  committed : batch.items ≠ [] → (∀ item ∈ batch.items, Passes item) → batch.commit = .ok () → batch.close = .ok ()
  uncommitted : batch.items ≠ [] → (∀ item ∈ batch.items, Passes item) → ∀ thrown, batch.commit = .error thrown →
    batch.applied = false ∧ ∀ path ∈ (written batchDir batch.items).map Prod.fst, batch.removes thrown path

-- What the handler makes of the disk.
def settle (batch : Batch) (thrown : Thrown) (disk : Disk) : Disk :=
  match thrown with
  | .exception _ => rmtree batchDir batch.survives disk
  | .interrupt _ => disk

theorem written_by_below (item : Item) :
    ∀ path ∈ (writtenBy batchDir item).map Prod.fst, ∃ rest, path = batchDir ++ item.2.artifactId :: rest := by
  rw [writtenBy]
  split
  · rename_i file _
    exact List.forall_mem_singleton.mpr ⟨file.relativePath, rfl⟩
  · rename_i file _
    exact List.forall_mem_singleton.mpr ⟨file.relativePath, rfl⟩
  · simp

theorem written_below (items : List Item) : ∀ path ∈ (written batchDir items).map Prod.fst,
    ∃ item ∈ items, ∃ rest, path = batchDir ++ item.2.artifactId :: rest := by
  intro path member
  obtain ⟨file, inside, rfl⟩ := List.mem_map.mp member
  obtain ⟨item, present, here⟩ := List.mem_flatMap.mp inside
  exact ⟨item, present, written_by_below batchDir item _ (List.mem_map_of_mem here)⟩

theorem written_inside (items : List Item) (path : List String) (member : path ∈ (written batchDir items).map Prod.fst) :
    batchDir <+: path := by
  obtain ⟨item, _, rest, rfl⟩ := written_below batchDir items path member
  exact List.prefix_append ..

theorem written_distinct (items : List Item) (distinct : (items.map fun item => item.2.artifactId).Nodup) :
    ((written batchDir items).map Prod.fst).Nodup := by
  induction items with
  | nil => exact List.nodup_nil
  | cons item rest ih =>
      obtain ⟨fresh, later⟩ := List.nodup_cons.mp distinct
      rw [written_cons, List.map_append]
      refine List.nodup_append.mpr ⟨?_, ih later, ?_⟩
      · rw [writtenBy]
        split <;> simp
      · rintro path here other there rfl
        obtain ⟨one, same⟩ := written_by_below batchDir item path here
        obtain ⟨another, present, rest, also⟩ := written_below batchDir _ path there
        have ids := List.append_cancel_left (same.symm.trans also)
        rw [List.cons.injEq] at ids
        exact fresh (List.mem_map.mpr ⟨another, present, ids.1.symm⟩)

theorem write_all_outside (items : List Item) (disk : Disk) (path : List String) (outside : ¬ batchDir <+: path) :
    writeAll (written batchDir items) disk path = disk path :=
  write_all_other _ disk path fun member => outside (written_inside batchDir items path member)

theorem settle_outside (batch : Batch) (thrown : Thrown) (disk : Disk) (path : List String) (outside : ¬ batchDir <+: path) :
    settle batchDir batch thrown disk path = disk path := by
  cases thrown with
  | exception failure => exact if_neg fun inside => outside inside.1
  | interrupt cause => rfl

theorem settled_iff (batch : Batch) (thrown : Thrown) (items : List Item) (disk : Disk)
    (fresh : ∀ path, batchDir <+: path → disk path = none) :
    (∀ path, batchDir <+: path →
        settle batchDir batch (batch.raised thrown) (writeAll (written batchDir items) disk) path = none) ↔
      ∀ path ∈ (written batchDir items).map Prod.fst, batch.removes thrown path := by
  constructor
  · intro empty path member
    have inside := written_inside batchDir items path member
    have gone := empty path inside
    obtain ⟨content, there⟩ := write_all_some (written batchDir items) disk path member
    cases seen : batch.raised thrown with
    | interrupt cause =>
        rw [seen, settle, there] at gone
        cases gone
    | exception failure =>
        refine ⟨⟨failure, seen⟩, ?_⟩
        rw [seen, settle, rmtree] at gone
        by_contra survives
        rw [if_neg fun both => survives both.2, there] at gone
        cases gone
  · intro removed path inside
    by_cases member : path ∈ (written batchDir items).map Prod.fst
    · obtain ⟨⟨failure, seen⟩, survives⟩ := removed path member
      rw [seen, settle, rmtree, if_pos ⟨inside, survives⟩]
    · have nothing : writeAll (written batchDir items) disk path = none := by
        rw [write_all_other _ disk path member, fresh path inside]
      cases batch.raised thrown with
      | interrupt cause => exact nothing
      | exception failure => rw [settle, rmtree, nothing, ite_self]

section Run

variable (archive : Archive) (batch : Batch)

theorem closing_error (thrown : Thrown) : closing batch.close (.error thrown) = .error (batch.raised thrown) := by
  rw [closing, Batch.raised]
  cases batch.close with
  | error other => rfl
  | ok done => rfl

theorem persist_raises (next : Archive) (thrown : Thrown) (filled : batch.items ≠ [])
    (session : persistSession guessType (archive.batchDirectory batch) workspaceId archive batch = (next, .error thrown)) :
    ∃ other, persist guessType workspaceId archive batch =
      ({ next with disk := settle (archive.batchDirectory batch) batch thrown next.disk }, .error other) := by
  rw [persist, if_neg filled, session]
  cases thrown with
  | exception failure =>
      dsimp only [settle]
      cases batch.cleanup with
      | error other => exact ⟨other, rfl⟩
      | ok done => exact ⟨_, rfl⟩
  | interrupt cause => exact ⟨_, rfl⟩

theorem persist_stopped (front back : List Item) (item : Item) (thrown : Thrown) (left : Option StoredFile)
    (split : batch.items = front ++ item :: back) (passes : ∀ earlier ∈ front, Passes earlier)
    (stop : storeOne item = .error (thrown, left)) :
    ∃ other, persist guessType workspaceId archive batch =
      ({ archive with
          disk := settle (archive.batchDirectory batch) batch (batch.raised thrown)
            (writeAll (written (archive.batchDirectory batch) (front ++ [item])) archive.disk) }, .error other) := by
  have filled : batch.items ≠ [] := by simp [split]
  refine persist_raises guessType workspaceId archive batch
    { archive with disk := writeAll (written (archive.batchDirectory batch) (front ++ [item])) archive.disk } _ filled ?_
  rw [persistSession, split,
    persist_each_stop guessType (archive.batchDirectory batch) workspaceId front back item archive.disk thrown left passes stop]
  dsimp only
  rw [closing_error]

theorem persist_uncommitted (thrown : Thrown) (filled : batch.items ≠ []) (passes : ∀ item ∈ batch.items, Passes item)
    (failed : batch.commit = .error thrown) :
    ∃ other, persist guessType workspaceId archive batch =
      ({ archive with
          disk := settle (archive.batchDirectory batch) batch (batch.raised thrown)
            (writeAll (written (archive.batchDirectory batch) batch.items) archive.disk)
          rows := if batch.applied then
              archive.rows ++ added guessType (archive.batchDirectory batch) workspaceId batch.items
            else archive.rows }, .error other) := by
  refine persist_raises guessType workspaceId archive batch
    { archive with
        disk := writeAll (written (archive.batchDirectory batch) batch.items) archive.disk
        rows := if batch.applied then archive.rows ++ added guessType (archive.batchDirectory batch) workspaceId batch.items
          else archive.rows } _ filled ?_
  rw [persistSession, persist_each_done guessType (archive.batchDirectory batch) workspaceId batch.items archive.disk passes]
  dsimp only
  rw [failed]
  dsimp only
  rw [closing_error]

theorem persist_committed (passes : ∀ item ∈ batch.items, Passes item)
    (committed : batch.commit = .ok ()) :
    persistSession guessType (archive.batchDirectory batch) workspaceId archive batch =
      ({ archive with
          disk := writeAll (written (archive.batchDirectory batch) batch.items) archive.disk
          rows := archive.rows ++ added guessType (archive.batchDirectory batch) workspaceId batch.items },
        closing batch.close (.ok (added guessType (archive.batchDirectory batch) workspaceId batch.items))) := by
  rw [persistSession, persist_each_done guessType (archive.batchDirectory batch) workspaceId batch.items archive.disk passes]
  dsimp only
  rw [committed]

end Run

theorem store_one_decoded (item : Item) (file : StoredFile) (stored : storeOne item = .ok file) :
    b64decode true item.1.contentBase64 = .ok file.content := by
  rw [storeOne] at stored
  cases path : safeRelativePath item.1.path with
  | error failure =>
      rw [path] at stored
      cases stored
  | ok relativePath =>
      rw [path] at stored
      cases decoded : b64decode true item.1.contentBase64 with
      | error failure =>
          rw [decoded] at stored
          cases stored
      | ok content =>
          rw [decoded] at stored
          dsimp only at stored
          split_ifs at stored with different
          cases made : item.2.mkdir with
          | error thrown =>
              rw [made] at stored
              cases stored
          | ok done =>
              rw [made] at stored
              cases wrote : item.2.write with
              | error thrown =>
                  rw [wrote] at stored
                  cases stored
              | ok done =>
                  rw [wrote] at stored
                  cases stored
                  rfl

theorem kept_added (items : List Item) (after : Archive) (passes : ∀ item ∈ items, Passes item)
    (there : ∀ file ∈ written batchDir items, after.disk file.1 = some file.2) :
    List.Forall₂ (Kept workspaceId after) items (added guessType batchDir workspaceId items) := by
  induction items with
  | nil => exact .nil
  | cons item rest ih =>
      obtain ⟨⟨file, stored⟩, later⟩ := List.forall_mem_cons.mp passes
      rw [written_cons, List.forall_mem_append] at there
      have here := there.1
      rw [writtenBy, stored] at here
      have kept := ih later there.2
      rw [added_cons, addedBy, stored]
      exact .cons ⟨rfl, rfl, file.content, store_one_decoded item file stored, rfl,
        here (targetOf batchDir item file, file.content) (List.mem_singleton_self _)⟩ kept

theorem added_paths (items : List Item) (passes : ∀ item ∈ items, Passes item) :
    (added guessType batchDir workspaceId items).map Artifact.storedPath = (written batchDir items).map Prod.fst := by
  induction items with
  | nil => rfl
  | cons item rest ih =>
      obtain ⟨⟨file, stored⟩, later⟩ := List.forall_mem_cons.mp passes
      rw [added_cons, written_cons, List.map_append, List.map_append, ih later, addedBy, writtenBy, stored]
      rfl

theorem added_ids (items : List Item) (passes : ∀ item ∈ items, Passes item) :
    (added guessType batchDir workspaceId items).map Artifact.id = items.map fun item => item.2.artifactId := by
  induction items with
  | nil => rfl
  | cons item rest ih =>
      obtain ⟨⟨file, stored⟩, later⟩ := List.forall_mem_cons.mp passes
      rw [added_cons, List.map_append, ih later, addedBy, stored]
      rfl

theorem added_some (items : List Item) (filled : items ≠ []) (passes : ∀ item ∈ items, Passes item) :
    added guessType batchDir workspaceId items ≠ [] := by
  intro absent
  have ids := added_ids guessType batchDir workspaceId items passes
  rw [absent] at ids
  exact filled (List.map_eq_nil_iff.mp ids.symm)

section Outcome

variable (archive : Archive) (batch : Batch)
  (fresh : ∀ path, archive.batchDirectory batch <+: path → archive.disk path = none)

include fresh

theorem empty_everything :
    Everything (archive.batchDirectory batch) workspaceId archive archive [] [] [] := by
  refine ⟨by simp, rfl, .nil, by simp, fun path inside there => ?_, fun path outside => rfl⟩
  exact absurd (fresh path inside) there

theorem done_everything (passes : ∀ item ∈ batch.items, Passes item) :
    Everything (archive.batchDirectory batch) workspaceId archive
      { archive with
          disk := writeAll (written (archive.batchDirectory batch) batch.items) archive.disk
          rows := archive.rows ++ added guessType (archive.batchDirectory batch) workspaceId batch.items }
      batch.items ((added guessType (archive.batchDirectory batch) workspaceId batch.items).map artifactView)
      (added guessType (archive.batchDirectory batch) workspaceId batch.items) where
  committed := rfl
  views := rfl
  kept := by
    refine kept_added guessType (archive.batchDirectory batch) workspaceId batch.items _ passes fun file member => ?_
    exact write_all_content _ archive.disk file.1 file.2
      (written_distinct (archive.batchDirectory batch) batch.items batch.distinct) member
  distinct := by
    rw [added_ids guessType (archive.batchDirectory batch) workspaceId batch.items passes,
      added_paths guessType (archive.batchDirectory batch) workspaceId batch.items passes]
    exact ⟨batch.distinct, written_distinct (archive.batchDirectory batch) batch.items batch.distinct⟩
  files := by
    intro path inside there
    rw [added_paths guessType (archive.batchDirectory batch) workspaceId batch.items passes]
    by_contra absent
    exact there ((write_all_other _ archive.disk path absent).trans (fresh path inside))
  others := write_all_outside (archive.batchDirectory batch) batch.items archive.disk

theorem raised_nothing_iff (items : List Item) (thrown : Thrown) (rows : List Artifact) :
    Nothing (archive.batchDirectory batch) archive
        { archive with
            disk := settle (archive.batchDirectory batch) batch (batch.raised thrown)
              (writeAll (written (archive.batchDirectory batch) items) archive.disk)
            rows := rows } ↔
      rows = archive.rows ∧ ∀ path ∈ (written (archive.batchDirectory batch) items).map Prod.fst, batch.removes thrown path := by
  constructor
  · intro nothing
    exact ⟨nothing.records, (settled_iff _ batch thrown items archive.disk fresh).mp nothing.files⟩
  · rintro ⟨same, removed⟩
    refine ⟨(settled_iff _ batch thrown items archive.disk fresh).mpr removed, same, fun path outside => ?_⟩
    dsimp only
    rw [settle_outside _ batch _ _ path outside, write_all_outside _ items archive.disk path outside]

theorem stopped_iff (front back : List Item) (item : Item) (thrown : Thrown) (left : Option StoredFile)
    (split : batch.items = front ++ item :: back) (passes : ∀ earlier ∈ front, Passes earlier)
    (stop : storeOne item = .error (thrown, left)) :
    AllOrNothing guessType workspaceId archive batch ↔
      ∀ path ∈ (written (archive.batchDirectory batch) (front ++ [item])).map Prod.fst, batch.removes thrown path := by
  obtain ⟨other, ends⟩ := persist_stopped guessType workspaceId archive batch front back item thrown left split passes stop
  rw [AllOrNothing, ends]
  exact (raised_nothing_iff archive batch fresh (front ++ [item]) thrown archive.rows).trans (and_iff_right rfl)

theorem uncommitted_iff (thrown : Thrown) (filled : batch.items ≠ []) (passes : ∀ item ∈ batch.items, Passes item)
    (failed : batch.commit = .error thrown) :
    AllOrNothing guessType workspaceId archive batch ↔
      batch.applied = false ∧
        ∀ path ∈ (written (archive.batchDirectory batch) batch.items).map Prod.fst, batch.removes thrown path := by
  obtain ⟨other, ends⟩ := persist_uncommitted guessType workspaceId archive batch thrown filled passes failed
  rw [AllOrNothing, ends]
  refine (raised_nothing_iff archive batch fresh batch.items thrown _).trans (and_congr_left fun _ => ?_)
  cases applied : batch.applied with
  | false => exact iff_of_true rfl rfl
  | true =>
      refine iff_of_false (fun same => ?_) (by simp)
      exact added_some guessType _ workspaceId batch.items filled passes (List.append_right_eq_self.mp same)

theorem committed_iff (filled : batch.items ≠ []) (passes : ∀ item ∈ batch.items, Passes item)
    (committed : batch.commit = .ok ()) :
    AllOrNothing guessType workspaceId archive batch ↔ batch.close = .ok () := by
  have session := persist_committed guessType workspaceId archive batch passes committed
  cases closed : batch.close with
  | ok done =>
      rw [closing, closed] at session
      refine iff_of_true ?_ rfl
      rw [AllOrNothing, persist, if_neg filled, session]
      exact ⟨_, done_everything guessType workspaceId archive batch fresh passes⟩
  | error thrown =>
      rw [closing, closed] at session
      obtain ⟨other, ends⟩ := persist_raises guessType workspaceId archive batch _ thrown filled session
      refine iff_of_false (fun held => ?_) (by simp)
      rw [AllOrNothing, ends] at held
      exact added_some guessType _ workspaceId batch.items filled passes (List.append_right_eq_self.mp held.records)

theorem persist_all_or_nothing_iff :
    AllOrNothing guessType workspaceId archive batch ↔ Clean (archive.batchDirectory batch) batch := by
  constructor
  · intro held
    constructor
    · intro front item back thrown left split passes stop
      exact (stopped_iff guessType workspaceId archive batch fresh front back item thrown left split passes stop).mp held
    · intro filled passes committed
      exact (committed_iff guessType workspaceId archive batch fresh filled passes committed).mp held
    · intro filled passes thrown failed
      exact (uncommitted_iff guessType workspaceId archive batch fresh thrown filled passes failed).mp held
  · intro clean
    rcases first_stop batch.items with passes | ⟨front, item, back, thrown, left, split, passes, stop⟩
    · by_cases empty : batch.items = []
      · rw [AllOrNothing, persist, if_pos empty, empty]
        exact ⟨[], empty_everything workspaceId archive batch fresh⟩
      · cases commit : batch.commit with
        | ok done =>
            exact (committed_iff guessType workspaceId archive batch fresh empty passes commit).mpr
              (clean.committed empty passes commit)
        | error thrown =>
            exact (uncommitted_iff guessType workspaceId archive batch fresh thrown empty passes commit).mpr
              (clean.uncommitted empty passes thrown commit)
    · exact (stopped_iff guessType workspaceId archive batch fresh front back item thrown left split passes stop).mpr
        (clean.stopped front item back thrown left split passes stop)

end Outcome

def sampleArchive : Archive := ⟨["/", "data", "artifacts"], fun _ => none, []⟩

-- Two files; the second is as long as this, and its write ends like this.
def sampleBatch (length : Nat) (write : Except Thrown Unit) : Batch where
  batchId := "b"
  items :=
    [(⟨"result.csv", "text/csv", 2, "NDI="⟩, ⟨"i", 1, .ok (), .ok (), none⟩),
      (⟨"chart.png", "image/png", length, "NDM="⟩, ⟨"j", 2, .ok (), write, none⟩)]
  distinct := (by decide : ["i", "j"].Nodup)
  commit := .ok ()
  applied := false
  close := .ok ()
  cleanup := .ok ()
  survives := fun _ => false

theorem size_mismatch_leaves_nothing : AllOrNothing (fun _ => none) "w" sampleArchive (sampleBatch 100 (.ok ())) := by
  apply (persist_all_or_nothing_iff (fun _ => none) "w" sampleArchive (sampleBatch 100 (.ok ())) fun _ _ => rfl).mpr
  have first : Passes (⟨"result.csv", "text/csv", 2, "NDI="⟩, ⟨"i", 1, .ok (), .ok (), none⟩) := ⟨_, rfl⟩
  have second : storeOne (⟨"chart.png", "image/png", 100, "NDM="⟩, ⟨"j", 2, .ok (), .ok (), none⟩) =
      .error (.exception ⟨"ValueError", "Artifact size mismatch: chart.png"⟩, none) := rfl
  have refused : ¬ ∀ item ∈ (sampleBatch 100 (.ok ())).items, Passes item := by
    intro passes
    obtain ⟨file, stored⟩ := passes _ (List.mem_cons_of_mem _ (List.mem_singleton_self _))
    cases stored.symm.trans second
  constructor
  · intro front item back thrown left split passes stop path _
    have raised : ∃ failure, thrown = .exception failure := by
      rcases front with _ | ⟨one, _ | ⟨other, more⟩⟩
      · cases split
        obtain ⟨file, stored⟩ := first
        cases stored.symm.trans stop
      · cases split
        cases second.symm.trans stop
        exact ⟨_, rfl⟩
      · have length := congrArg List.length split
        simp [sampleBatch] at length
    obtain ⟨failure, rfl⟩ := raised
    exact ⟨⟨failure, rfl⟩, rfl⟩
  · exact fun _ passes => absurd passes refused
  · exact fun _ passes => absurd passes refused

theorem cancelled_write_leaves_file :
    ¬ ∀ guessType workspaceId archive batch, (∀ path, archive.batchDirectory batch <+: path → archive.disk path = none) →
      AllOrNothing guessType workspaceId archive batch := by
  intro always
  have held : Nothing (sampleArchive.batchDirectory (sampleBatch 2 (.error (.interrupt .cancelled)))) sampleArchive
      (persist (fun _ => none) "w" sampleArchive (sampleBatch 2 (.error (.interrupt .cancelled)))).1 :=
    always (fun _ => none) "w" sampleArchive (sampleBatch 2 (.error (.interrupt .cancelled))) fun _ _ => rfl
  have gone := held.files ["/", "data", "artifacts", "b", "i", "result.csv"] ⟨["i", "result.csv"], rfl⟩
  have there : (persist (fun _ => none) "w" sampleArchive (sampleBatch 2 (.error (.interrupt .cancelled)))).1.disk
      ["/", "data", "artifacts", "b", "i", "result.csv"] = some [52, 50] := rfl
  cases gone.symm.trans there

end DataPilot.Artifacts
