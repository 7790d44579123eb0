import DataPilot.Base.Logged
import DataPilot.Sandbox.Collection

set_option autoImplicit false

namespace DataPilot.Artifacts

open DataPilot.Base DataPilot.Sandbox

-- A row; the two fields of metadata_json stand on their own.
structure Artifact where
  id : String
  workspaceId : String
  filename : String
  storedPath : List String
  mimeType : String
  size : Nat
  relativePath : String
  sandboxMimeType : String
  createdAt : Nat

structure ArtifactView where
  id : String
  filename : String
  mimeType : String
  size : Nat
  url : String
  createdAt : Nat

def artifactView (record : Artifact) : ArtifactView where
  id := record.id
  filename := record.filename
  mimeType := record.mimeType
  size := record.size
  url := s!"/api/artifacts/{record.id}"
  createdAt := record.createdAt

-- The files by their components.
abbrev Disk := List String → Option (List UInt8)

def Disk.write (disk : Disk) (path : List String) (content : List UInt8) : Disk := Function.update disk path (some content)

-- The storage root, with all the files there are, and the committed rows.
structure Archive where
  storageRoot : List String
  disk : Disk
  rows : List Artifact

-- What a round meets: the id and the time it draws, how its two awaits end, and what
-- is at the target when the write has not ended well.
structure Round where
  artifactId : String
  createdAt : Nat
  mkdir : Except Thrown Unit
  write : Except Thrown Unit
  left : Option (List UInt8)

abbrev Item := SandboxArtifact × Round

-- A call of persist: its artifacts with their rounds, how the other awaits end,
-- whether a commit that raises has reached the database, and what rmtree cannot remove.
structure Batch where
  batchId : String
  items : List Item
  distinct : (items.map fun item => item.2.artifactId).Nodup
  commit : Except Thrown Unit
  applied : Bool
  close : Except Thrown Unit
  cleanup : Except Thrown Unit
  survives : List String → Bool

structure StoredFile where
  relativePath : List String
  content : List UInt8

-- A round up to its second await. What stops it comes with the file it leaves.
def storeOne (item : Item) : Except (Thrown × Option StoredFile) StoredFile :=
  match safeRelativePath item.1.path with
  | .error failure => .error (.exception failure, none)
  | .ok relativePath =>
      match b64decode true item.1.contentBase64 with
      | .error failure => .error (.exception failure, none)
      | .ok content =>
          if content.length ≠ item.1.size then
            .error (.exception ⟨"ValueError", "Artifact size mismatch: " ++ joinSlash relativePath⟩, none)
          else
            match item.2.mkdir with
            | .error thrown => .error (thrown, none)
            | .ok () =>
                match item.2.write with
                | .error thrown => .error (thrown, item.2.left.map fun bytes => ⟨relativePath, bytes⟩)
                | .ok () => .ok ⟨relativePath, content⟩

def targetOf (batchDir : List String) (item : Item) (file : StoredFile) : List String :=
  artifactTarget batchDir item.2.artifactId file.relativePath

variable (guessType : String → Option String) (batchDir : List String) (workspaceId : String)

def recordOf (item : Item) (file : StoredFile) : Artifact where
  id := item.2.artifactId
  workspaceId := workspaceId
  filename := (⟨"", file.relativePath⟩ : PurePosixPath).name
  storedPath := targetOf batchDir item file
  mimeType := artifactMimeType guessType (⟨"", file.relativePath⟩ : PurePosixPath).name
  size := file.content.length
  relativePath := (⟨"", file.relativePath⟩ : PurePosixPath).asPosix
  sandboxMimeType := item.1.mimeType
  createdAt := item.2.createdAt

-- The loop over the artifacts, with the records of the session.
def persistEach : List Item → Disk → List Artifact → Disk × Except Thrown (List Artifact)
  | [], disk, records => (disk, .ok records)
  | item :: rest, disk, records =>
      match storeOne item with
      | .error (thrown, none) => (disk, .error thrown)
      | .error (thrown, some file) => (disk.write (targetOf batchDir item file) file.content, .error thrown)
      | .ok file =>
          persistEach rest (disk.write (targetOf batchDir item file) file.content)
            (records ++ [recordOf guessType batchDir workspaceId item file])

-- What leaves the "async with": what its exit raises, or else the result of the body.
def closing (close : Except Thrown Unit) (result : Except Thrown (List Artifact)) : Except Thrown (List Artifact) :=
  close.bind fun _ => result

-- The "async with" block. Without a commit the session is rolled back.
def persistSession (archive : Archive) (batch : Batch) : Archive × Except Thrown (List Artifact) :=
  match persistEach guessType batchDir workspaceId batch.items archive.disk [] with
  | (disk, .error thrown) => ({ archive with disk := disk }, closing batch.close (.error thrown))
  | (disk, .ok records) =>
      match batch.commit with
      | .error thrown =>
          ({ archive with disk := disk, rows := if batch.applied then archive.rows ++ records else archive.rows },
            closing batch.close (.error thrown))
      | .ok () =>
          ({ archive with disk := disk, rows := archive.rows ++ records }, closing batch.close (.ok records))

-- shutil.rmtree(batch_dir, ignore_errors=True)
def rmtree (survives : List String → Bool) (disk : Disk) : Disk := fun path =>
  if batchDir <+: path ∧ survives path = false then none else disk path

def Archive.batchDirectory (archive : Archive) (batch : Batch) : List String := archive.storageRoot ++ [batch.batchId]

def persist (archive : Archive) (batch : Batch) : Archive × Except Thrown (List ArtifactView) :=
  if batch.items = [] then (archive, .ok [])
  else
    match persistSession guessType (archive.batchDirectory batch) workspaceId archive batch with
    | (next, .ok records) => (next, .ok (records.map artifactView))
    | (next, .error (.exception failure)) =>
        ({ next with disk := rmtree (archive.batchDirectory batch) batch.survives next.disk },
          batch.cleanup.bind fun _ => .error (.exception failure))
    | (next, .error (.interrupt cause)) => (next, .error (.interrupt cause))

-- What a round leaves on the disk, and the row it adds.
def writtenBy (item : Item) : List (List String × List UInt8) :=
  match storeOne item with
  | .ok file => [(targetOf batchDir item file, file.content)]
  | .error (_, some file) => [(targetOf batchDir item file, file.content)]
  | .error (_, none) => []

def addedBy (item : Item) : List Artifact :=
  match storeOne item with
  | .ok file => [recordOf guessType batchDir workspaceId item file]
  | .error _ => []

def written (items : List Item) : List (List String × List UInt8) := items.flatMap (writtenBy batchDir)

def added (items : List Item) : List Artifact := items.flatMap (addedBy guessType batchDir workspaceId)

def Passes (item : Item) : Prop := ∃ file, storeOne item = .ok file

def writeAll (files : List (List String × List UInt8)) (disk : Disk) : Disk :=
  files.foldl (fun disk file => disk.write file.1 file.2) disk

theorem written_append (front back : List Item) :
    written batchDir (front ++ back) = written batchDir front ++ written batchDir back := List.flatMap_append

theorem written_one (item : Item) : written batchDir [item] = writtenBy batchDir item := List.flatMap_singleton ..

theorem written_cons (item : Item) (rest : List Item) :
    written batchDir (item :: rest) = writtenBy batchDir item ++ written batchDir rest := List.flatMap_cons

theorem added_cons (item : Item) (rest : List Item) :
    added guessType batchDir workspaceId (item :: rest) =
      addedBy guessType batchDir workspaceId item ++ added guessType batchDir workspaceId rest := List.flatMap_cons

theorem persist_each_passing (front rest : List Item) (disk : Disk) (records : List Artifact)
    (passes : ∀ item ∈ front, Passes item) :
    persistEach guessType batchDir workspaceId (front ++ rest) disk records =
      persistEach guessType batchDir workspaceId rest (writeAll (written batchDir front) disk)
        (records ++ added guessType batchDir workspaceId front) := by
  induction front generalizing disk records with
  | nil => rw [List.nil_append, added, List.flatMap_nil, List.append_nil]; rfl
  | cons item others ih =>
      obtain ⟨⟨file, stored⟩, later⟩ := List.forall_mem_cons.mp passes
      rw [List.cons_append, persistEach, stored]
      dsimp only
      rw [ih _ _ later, written_cons, added_cons, writtenBy, addedBy, stored, List.append_assoc]
      rfl

theorem persist_each_done (items : List Item) (disk : Disk) (passes : ∀ item ∈ items, Passes item) :
    persistEach guessType batchDir workspaceId items disk [] =
      (writeAll (written batchDir items) disk, .ok (added guessType batchDir workspaceId items)) := by
  have whole := persist_each_passing guessType batchDir workspaceId items [] disk [] passes
  rwa [List.append_nil] at whole

theorem write_all_append (front back : List (List String × List UInt8)) (disk : Disk) :
    writeAll (front ++ back) disk = writeAll back (writeAll front disk) := List.foldl_append ..

theorem persist_each_stop (front back : List Item) (item : Item) (disk : Disk) (thrown : Thrown) (left : Option StoredFile)
    (passes : ∀ item ∈ front, Passes item) (stop : storeOne item = .error (thrown, left)) :
    persistEach guessType batchDir workspaceId (front ++ item :: back) disk [] =
      (writeAll (written batchDir (front ++ [item])) disk, .error thrown) := by
  rw [persist_each_passing guessType batchDir workspaceId front (item :: back) disk [] passes, persistEach, stop,
    written_append, written_one, write_all_append, writtenBy, stop]
  cases left with
  | none => rfl
  | some file => rfl

theorem first_stop (items : List Item) :
    (∀ item ∈ items, Passes item) ∨ ∃ front item back thrown left, items = front ++ item :: back ∧
      (∀ earlier ∈ front, Passes earlier) ∧ storeOne item = .error (thrown, left) := by
  induction items with
  | nil => exact .inl (by simp)
  | cons item rest ih =>
      cases stored : storeOne item with
      | error stop => exact .inr ⟨[], item, rest, stop.1, stop.2, rfl, by simp, stored⟩
      | ok file =>
          rcases ih with passes | ⟨front, other, back, thrown, left, rfl, passes, stop⟩
          · exact .inl (List.forall_mem_cons.mpr ⟨⟨file, stored⟩, passes⟩)
          · exact .inr ⟨item :: front, other, back, thrown, left, rfl, List.forall_mem_cons.mpr ⟨⟨file, stored⟩, passes⟩, stop⟩

theorem write_all_other (files : List (List String × List UInt8)) (disk : Disk) (path : List String)
    (other : path ∉ files.map Prod.fst) : writeAll files disk path = disk path := by
  induction files generalizing disk with
  | nil => rfl
  | cons file rest ih =>
      rw [List.map_cons, List.mem_cons, not_or] at other
      rw [writeAll, List.foldl_cons, ← writeAll, ih _ other.2, Disk.write, Function.update_of_ne other.1]

theorem write_all_some (files : List (List String × List UInt8)) (disk : Disk) (path : List String)
    (member : path ∈ files.map Prod.fst) : ∃ content, writeAll files disk path = some content := by
  induction files generalizing disk with
  | nil => cases member
  | cons file rest ih =>
      rw [writeAll, List.foldl_cons, ← writeAll]
      by_cases later : path ∈ rest.map Prod.fst
      · exact ih _ later
      · obtain here | there := List.mem_cons.mp member
        · rw [write_all_other rest _ path later, here, Disk.write, Function.update_self]
          exact ⟨file.2, rfl⟩
        · exact absurd there later

theorem write_all_content (files : List (List String × List UInt8)) (disk : Disk) (path : List String) (content : List UInt8)
    (distinct : (files.map Prod.fst).Nodup) (member : (path, content) ∈ files) : writeAll files disk path = some content := by
  induction files generalizing disk with
  | nil => cases member
  | cons file rest ih =>
      rw [List.map_cons, List.nodup_cons] at distinct
      rw [writeAll, List.foldl_cons, ← writeAll]
      rcases List.mem_cons.mp member with rfl | later
      · rw [write_all_other rest _ path distinct.1, Disk.write, Function.update_self]
      · exact ih _ distinct.2 later

end DataPilot.Artifacts
