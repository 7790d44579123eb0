import DataPilot.Artifacts.Store
import DataPilot.Base.Parties

set_option autoImplicit false

namespace DataPilot.Artifacts

open DataPilot.Base DataPilot.Sandbox

-- A call of persist; the batch id is drawn at its start.
structure PersistCall where
  workspaceId : String
  batchId : String
  artifacts : List SandboxArtifact

-- The loop and the commit, the exit of the "async with", the handler, and the end.
inductive PersistPoint where
  | storing
  | leaving (result : Except Thrown Unit)
  | cleaning (failure : PyException)
  | ended (result : Except Thrown (List ArtifactView))

-- A call under way, with the artifacts still to be stored and the rows of the session,
-- each beside the artifact that it is made of.
structure PersistRun where
  call : PersistCall
  waiting : List SandboxArtifact
  stored : List (SandboxArtifact × Artifact) := []
  point : PersistPoint := .storing

-- One await after another: the two of a round together, as only its write is seen outside.
inductive PersistEvent where
  | store (round : Round)
  | commit (outcome : Except Thrown Unit) (applied : Bool)
  | close (outcome : Except Thrown Unit)
  | cleanup (outcome : Except Thrown Unit) (survives : List String → Bool)

def PersistRun.records (run : PersistRun) : List Artifact := run.stored.map Prod.snd

def PersistRun.views (run : PersistRun) : List ArtifactView := run.records.map artifactView

def PersistRun.at (run : PersistRun) (point : PersistPoint) : PersistRun := { run with point := point }

def enterPersist (call : PersistCall) : PersistRun where
  call := call
  waiting := call.artifacts
  point := if call.artifacts = [] then .ended (.ok []) else .storing

def PersistCall.directory (call : PersistCall) (archive : Archive) : List String := archive.storageRoot ++ [call.batchId]

def Archive.write (archive : Archive) (path : List String) (content : List UInt8) : Archive :=
  { archive with disk := archive.disk.write path content }

variable (guessType : String → Option String)

def PersistRun.store (archive : Archive) (run : PersistRun) (artifact : SandboxArtifact) (rest : List SandboxArtifact)
    (round : Round) : Archive × PersistRun :=
  let target := targetOf (run.call.directory archive) (artifact, round)
  match storeOne (artifact, round) with
  | .ok file =>
      let record := recordOf guessType (run.call.directory archive) run.call.workspaceId (artifact, round) file
      (archive.write (target file) file.content, { run with waiting := rest, stored := run.stored ++ [(artifact, record)] })
  | .error (thrown, none) => (archive, run.at (.leaving (.error thrown)))
  | .error (thrown, some file) => (archive.write (target file) file.content, run.at (.leaving (.error thrown)))

def PersistRun.commit (archive : Archive) (run : PersistRun) (applied : Bool) : Except Thrown Unit → Archive × PersistRun
  | .ok () => ({ archive with rows := archive.rows ++ run.records }, run.at (.leaving (.ok ())))
  | .error thrown =>
      ({ archive with rows := if applied then archive.rows ++ run.records else archive.rows },
        run.at (.leaving (.error thrown)))

def PersistRun.close (run : PersistRun) : Except Thrown Unit → PersistRun
  | .ok () => run.at (.ended (.ok run.views))
  | .error (.exception failure) => run.at (.cleaning failure)
  | .error (.interrupt cause) => run.at (.ended (.error (.interrupt cause)))

def PersistRun.act (archive : Archive) (_ : List PersistRun) (run : PersistRun) (event : PersistEvent) :
    Option (Archive × PersistRun) :=
  match run.point, event with
  | .storing, .store round =>
      match run.waiting with
      | [] => none
      | artifact :: rest => some (run.store guessType archive artifact rest round)
  | .storing, .commit outcome applied => if run.waiting = [] then some (run.commit archive applied outcome) else none
  | .leaving result, .close outcome => some (archive, run.close (outcome.bind fun _ => result))
  | .cleaning failure, .cleanup outcome survives =>
      some ({ archive with disk := rmtree (run.call.directory archive) survives archive.disk },
        run.at (.ended (outcome.bind fun _ => .error (.exception failure))))
  | _, _ => none

abbrev Depot := World Archive PersistRun

abbrev DepotLabel := PartyLabel PersistCall PersistEvent

def Depot.step (depot : Depot) (label : DepotLabel) : Option Depot :=
  World.step enterPersist (PersistRun.act guessType) depot label

-- uuid4 draws no identifier twice.
def NewIds (depot : Depot) : DepotLabel → Prop
  | .call call => ∀ run ∈ depot.parties, run.call.batchId ≠ call.batchId
  | .act _ (.store round) => ∀ run ∈ depot.parties, ∀ record ∈ run.records, record.id ≠ round.artifactId
  | _ => True

inductive Download where
  | notFound (detail : String)
  | file (content : List UInt8) (mimeType filename : String)

-- ArtifactService.get
def Archive.get (archive : Archive) (workspaceId artifactId : String) : Option Artifact :=
  archive.rows.find? fun row => decide (row.id = artifactId ∧ row.workspaceId = workspaceId)

def downloadArtifact (archive : Archive) (workspaceId artifactId : String) : Download :=
  match archive.get workspaceId artifactId with
  | none => .notFound "Artifact not found."
  | some artifact =>
      match archive.disk artifact.storedPath with
      | none => .notFound "Artifact file is missing."
      | some content => .file content artifact.mimeType artifact.filename

-- The row that a round has made of an artifact, with the content it has written.
def MadeOf (batchDir : List String) (workspaceId : String) (pair : SandboxArtifact × Artifact) (content : List UInt8) : Prop :=
  ∃ round relativePath, storeOne (pair.1, round) = .ok ⟨relativePath, content⟩ ∧
    pair.2 = recordOf guessType batchDir workspaceId (pair.1, round) ⟨relativePath, content⟩

-- A call that has raised may have removed what it wrote.
def PersistPoint.keeps : PersistPoint → Bool
  | .ended (.error _) => false
  | _ => true

-- The commit has returned, and nothing has been raised since.
def PersistPoint.committed : PersistPoint → Bool
  | .leaving (.ok ()) => true
  | .ended (.ok _) => true
  | _ => false

structure Sound (archive : Archive) (run : PersistRun) : Prop where
  made : ∀ pair ∈ run.stored, ∃ content, MadeOf guessType (run.call.directory archive) run.call.workspaceId pair content ∧
    (archive.disk pair.2.storedPath = some content ∨ (run.point.keeps = false ∧ archive.disk pair.2.storedPath = none))
  order : run.call.artifacts = run.stored.map Prod.fst ++ run.waiting
  committed : run.point.committed = true → run.waiting = [] ∧ ∀ record ∈ run.records, record ∈ archive.rows
  views : ∀ views, run.point = .ended (.ok views) → views = run.views

def heldIds (runs : List PersistRun) : List String := runs.flatMap fun run => run.records.map Artifact.id

structure Filed (depot : Depot) : Prop where
  batches : (depot.parties.map fun run => run.call.batchId).Nodup
  ids : (heldIds depot.parties).Nodup
  sound : ∀ run ∈ depot.parties, Sound guessType depot.shared run
  rows : ∀ row ∈ depot.shared.rows, ∃ run ∈ depot.parties, row ∈ run.records

section Paths

variable {guessType}

theorem made_path (batchDir : List String) (workspaceId : String) (pair : SandboxArtifact × Artifact) (content : List UInt8)
    (made : MadeOf guessType batchDir workspaceId pair content) :
    ∃ relativePath, pair.2.storedPath = artifactTarget batchDir pair.2.id relativePath := by
  obtain ⟨round, relativePath, _, same⟩ := made
  rw [same]
  exact ⟨relativePath, rfl⟩

theorem target_artifact (batchDir : List String) (artifactId other : String) (relativePath otherPath : List String)
    (same : artifactTarget batchDir artifactId relativePath = artifactTarget batchDir other otherPath) : artifactId = other := by
  rw [artifactTarget, artifactTarget, List.append_cancel_left_eq, List.cons.injEq] at same
  exact same.1

theorem target_batch (root : List String) (batchId other artifactId : String) (relativePath : List String)
    (inside : root ++ [batchId] <+: artifactTarget (root ++ [other]) artifactId relativePath) : batchId = other := by
  rw [artifactTarget, List.append_assoc, List.prefix_append_right_inj, List.singleton_append, List.cons_prefix_cons] at inside
  exact inside.1

theorem target_in_batch (batchDir : List String) (artifactId : String) (relativePath : List String) :
    batchDir <+: artifactTarget batchDir artifactId relativePath := List.prefix_append ..

end Paths

-- What an await of a call does, the guards included.
inductive Acted (archive : Archive) (run : PersistRun) : PersistEvent → Archive → PersistRun → Prop where
  | stored (artifact : SandboxArtifact) (rest : List SandboxArtifact) (round : Round) (file : StoredFile)
      (storing : run.point = .storing) (waiting : run.waiting = artifact :: rest) (done : storeOne (artifact, round) = .ok file) :
      Acted archive run (.store round)
        (archive.write (targetOf (run.call.directory archive) (artifact, round) file) file.content)
        { run with
          waiting := rest
          stored := run.stored ++
            [(artifact, recordOf guessType (run.call.directory archive) run.call.workspaceId (artifact, round) file)] }
  | refused (round : Round) (thrown : Thrown) (storing : run.point = .storing) :
      Acted archive run (.store round) archive (run.at (.leaving (.error thrown)))
  | torn (round : Round) (thrown : Thrown) (relativePath : List String) (content : List UInt8)
      (storing : run.point = .storing) :
      Acted archive run (.store round)
        (archive.write (artifactTarget (run.call.directory archive) round.artifactId relativePath) content)
        (run.at (.leaving (.error thrown)))
  | committed (applied : Bool) (storing : run.point = .storing) (waiting : run.waiting = []) :
      Acted archive run (.commit (.ok ()) applied) { archive with rows := archive.rows ++ run.records }
        (run.at (.leaving (.ok ())))
  | uncommitted (applied : Bool) (thrown : Thrown) (storing : run.point = .storing) :
      Acted archive run (.commit (.error thrown) applied)
        { archive with rows := if applied then archive.rows ++ run.records else archive.rows }
        (run.at (.leaving (.error thrown)))
  | closed (result outcome : Except Thrown Unit) (leaving : run.point = .leaving result) :
      Acted archive run (.close outcome) archive (run.close (outcome.bind fun _ => result))
  | cleaned (failure : PyException) (outcome : Except Thrown Unit) (survives : List String → Bool)
      (cleaning : run.point = .cleaning failure) :
      Acted archive run (.cleanup outcome survives)
        { archive with disk := rmtree (run.call.directory archive) survives archive.disk }
        (run.at (.ended (outcome.bind fun _ => .error (.exception failure))))

theorem act_acted (archive next : Archive) (others : List PersistRun) (run after : PersistRun) (event : PersistEvent)
    (taken : run.act guessType archive others event = some (next, after)) : Acted guessType archive run event next after := by
  unfold PersistRun.act at taken
  split at taken
  · rename_i round storing
    cases waiting : run.waiting with
    | nil =>
        rw [waiting] at taken
        cases taken
    | cons artifact rest =>
        rw [waiting] at taken
        have same := Option.some.inj taken
        rw [PersistRun.store] at same
        cases stored : storeOne (artifact, round) with
        | ok file =>
            rw [stored] at same
            cases same
            exact .stored artifact rest round file storing waiting stored
        | error stop =>
            obtain ⟨thrown, left⟩ := stop
            rw [stored] at same
            cases left with
            | none =>
                cases same
                exact .refused round thrown storing
            | some file =>
                cases same
                exact .torn round thrown file.relativePath file.content storing
  · rename_i outcome applied storing
    by_cases waiting : run.waiting = []
    · rw [if_pos waiting] at taken
      have same := Option.some.inj taken
      cases outcome with
      | ok done =>
          cases same
          exact .committed applied storing waiting
      | error thrown =>
          cases same
          exact .uncommitted applied thrown storing
    · rw [if_neg waiting] at taken
      cases taken
  · rename_i result outcome leaving
    cases taken
    exact .closed result outcome leaving
  · rename_i failure outcome survives cleaning
    cases taken
    exact .cleaned failure outcome survives cleaning
  · cases taken

-- What a call leaves alone: the files outside its directory and the rows there are.
structure Confined (archive next : Archive) (run after : PersistRun) : Prop where
  call : after.call = run.call
  root : next.storageRoot = archive.storageRoot
  outside : ∀ path, ¬ run.call.directory archive <+: path → next.disk path = archive.disk path
  kept : ∀ row ∈ archive.rows, row ∈ next.rows
  added : ∀ row ∈ next.rows, row ∈ archive.rows ∨ row ∈ run.records
  records : ∀ record ∈ run.records, record ∈ after.records

theorem write_outside (archive : Archive) (call : PersistCall) (artifactId : String) (relativePath : List String)
    (content : List UInt8) (path : List String) (outside : ¬ call.directory archive <+: path) :
    (archive.write (artifactTarget (call.directory archive) artifactId relativePath) content).disk path = archive.disk path := by
  apply Function.update_of_ne
  intro same
  exact outside (same ▸ target_in_batch (call.directory archive) artifactId relativePath)

theorem acted_confined (archive next : Archive) (run after : PersistRun) (event : PersistEvent)
    (acted : Acted guessType archive run event next after) : Confined archive next run after := by
  have same : ∀ point, Confined archive archive run (run.at point) := by
    intro point
    exact ⟨rfl, rfl, fun _ _ => rfl, fun _ => id, fun _ => .inl, fun _ => id⟩
  cases acted with
  | stored artifact rest round file storing waiting done =>
      refine ⟨rfl, rfl, write_outside archive run.call round.artifactId file.relativePath file.content, fun _ => id,
        fun _ => .inl, ?_⟩
      intro record member
      rw [PersistRun.records, List.map_append]
      exact List.mem_append_left _ member
  | refused round thrown _ => exact same (.leaving (.error thrown))
  | torn round thrown relativePath content _ =>
      exact ⟨rfl, rfl, write_outside archive run.call round.artifactId relativePath content, fun _ => id, fun _ => .inl,
        fun _ => id⟩
  | committed applied _ waiting =>
      exact ⟨rfl, rfl, fun _ _ => rfl, fun row member => List.mem_append_left _ member,
        fun row member => List.mem_append.mp member, fun _ => id⟩
  | uncommitted applied thrown _ =>
      cases applied with
      | false => exact same (.leaving (.error thrown))
      | true =>
          exact ⟨rfl, rfl, fun _ _ => rfl, fun row member => List.mem_append_left _ member,
            fun row member => List.mem_append.mp member, fun _ => id⟩
  | closed result outcome leaving =>
      cases outcome.bind fun _ => result with
      | ok done => exact same (.ended (.ok run.views))
      | error thrown =>
          cases thrown with
          | exception failure => exact same (.cleaning failure)
          | interrupt cause => exact same (.ended (.error (.interrupt cause)))
  | cleaned failure outcome survives cleaning =>
      refine ⟨rfl, rfl, ?_, fun _ => id, fun _ => .inl, fun _ => id⟩
      intro path outside
      exact if_neg fun both => outside both.1

section Frames

variable {guessType} (archive next : Archive) (run : PersistRun)

theorem sound_frame (sound : Sound guessType archive run) (root : next.storageRoot = archive.storageRoot)
    (disk : ∀ record ∈ run.records, next.disk record.storedPath = archive.disk record.storedPath)
    (rows : ∀ row ∈ archive.rows, row ∈ next.rows) : Sound guessType next run := by
  refine ⟨?_, sound.order, ?_, sound.views⟩
  · intro pair member
    obtain ⟨content, made, there⟩ := sound.made pair member
    refine ⟨content, ?_, ?_⟩
    · rw [PersistCall.directory, root]
      exact made
    · rw [disk pair.2 (List.mem_map_of_mem member)]
      exact there
  · intro settled
    obtain ⟨done, present⟩ := sound.committed settled
    exact ⟨done, fun record member => rows record (present record member)⟩

-- Where a call moves on without touching its files, it may give up keeping them.
theorem sound_moved (point : PersistPoint) (sound : Sound guessType archive run) (root : next.storageRoot = archive.storageRoot)
    (disk : ∀ record ∈ run.records, next.disk record.storedPath = archive.disk record.storedPath)
    (rows : ∀ row ∈ archive.rows, row ∈ next.rows) (keeps : point.keeps = true → run.point.keeps = true)
    (committed : point.committed = true → run.waiting = [] ∧ ∀ record ∈ run.records, record ∈ next.rows)
    (views : ∀ views, point = .ended (.ok views) → views = run.views) : Sound guessType next (run.at point) := by
  have framed := sound_frame archive next run sound root disk rows
  refine ⟨?_, sound.order, committed, views⟩
  intro pair member
  obtain ⟨content, made, there⟩ := framed.made pair member
  refine ⟨content, made, ?_⟩
  obtain written | ⟨lost, gone⟩ := there
  · exact .inl written
  · refine .inr ⟨?_, gone⟩
    cases kept : point.keeps with
    | false => exact kept
    | true => exact absurd (keeps kept) (by rw [lost]; exact Bool.noConfusion)

theorem sound_beside (other after : PersistRun) (confined : Confined archive next run after)
    (apart : run.call.batchId ≠ other.call.batchId) (sound : Sound guessType archive other) : Sound guessType next other := by
  apply sound_frame archive next other sound confined.root _ confined.kept
  intro record member
  obtain ⟨pair, held, rfl⟩ := List.mem_map.mp member
  obtain ⟨content, made, _⟩ := sound.made pair held
  obtain ⟨relativePath, stands⟩ := made_path _ _ pair content made
  apply confined.outside
  intro inside
  rw [stands] at inside
  exact apart (target_batch archive.storageRoot _ _ _ relativePath inside)

end Frames

def NewRound (runs : List PersistRun) (event : PersistEvent) : Prop :=
  ∀ round, event = .store round → ∀ run ∈ runs, ∀ record ∈ run.records, record.id ≠ round.artifactId

section Own

variable {guessType} (archive next : Archive) (run after : PersistRun)

theorem write_spares (sound : Sound guessType archive run) (artifactId : String) (relativePath : List String)
    (content : List UInt8) (fresh : ∀ record ∈ run.records, record.id ≠ artifactId) :
    ∀ record ∈ run.records, (archive.write (artifactTarget (run.call.directory archive) artifactId relativePath) content).disk
      record.storedPath = archive.disk record.storedPath := by
  intro record member
  obtain ⟨pair, held, rfl⟩ := List.mem_map.mp member
  obtain ⟨_, made, _⟩ := sound.made pair held
  obtain ⟨otherPath, stands⟩ := made_path _ _ pair _ made
  apply Function.update_of_ne
  rw [stands]
  intro same
  exact fresh pair.2 member (target_artifact _ _ _ _ _ same)

theorem stored_sound (artifact : SandboxArtifact) (rest : List SandboxArtifact) (round : Round) (file : StoredFile)
    (storing : run.point = .storing) (waiting : run.waiting = artifact :: rest) (done : storeOne (artifact, round) = .ok file)
    (fresh : ∀ record ∈ run.records, record.id ≠ round.artifactId) (sound : Sound guessType archive run) :
    Sound guessType (archive.write (targetOf (run.call.directory archive) (artifact, round) file) file.content)
      { run with
        waiting := rest
        stored := run.stored ++
          [(artifact, recordOf guessType (run.call.directory archive) run.call.workspaceId (artifact, round) file)] } := by
  refine ⟨?_, ?_, ?_, ?_⟩
  · intro pair member
    rcases List.mem_append.mp member with old | new
    · obtain ⟨content, made, there⟩ := sound.made pair old
      refine ⟨content, made, ?_⟩
      rw [targetOf, write_spares archive run sound round.artifactId file.relativePath file.content fresh pair.2
        (List.mem_map_of_mem old)]
      exact there
    · rw [List.mem_singleton.mp new]
      exact ⟨file.content, ⟨round, file.relativePath, done, rfl⟩, .inl (Function.update_self ..)⟩
  · rw [sound.order, waiting]
    simp
  · intro settled
    rw [storing] at settled
    cases settled
  · intro views ended
    rw [storing] at ended
    cases ended

-- The files that rmtree removes are those of a call that raises.
theorem cleaned_sound (failure : PyException) (outcome : Except Thrown Unit) (survives : List String → Bool)
    (sound : Sound guessType archive run) :
    Sound guessType { archive with disk := rmtree (run.call.directory archive) survives archive.disk }
      (run.at (.ended (outcome.bind fun _ => .error (.exception failure)))) := by
  obtain ⟨thrown, raised⟩ : ∃ thrown, (outcome.bind fun _ => .error (.exception failure)) =
      (.error thrown : Except Thrown (List ArtifactView)) := by
    cases outcome with
    | ok done => exact ⟨.exception failure, rfl⟩
    | error thrown => exact ⟨thrown, rfl⟩
  rw [raised]
  refine ⟨?_, sound.order, Bool.noConfusion, fun views ended => by cases ended⟩
  intro pair member
  obtain ⟨content, made, there⟩ := sound.made pair member
  refine ⟨content, made, ?_⟩
  dsimp only
  rw [rmtree]
  by_cases removed : run.call.directory archive <+: pair.2.storedPath ∧ survives pair.2.storedPath = false
  · rw [if_pos removed]
    exact .inr ⟨rfl, rfl⟩
  · rw [if_neg removed]
    exact there.imp_right fun lost => ⟨rfl, lost.2⟩

theorem acted_sound (event : PersistEvent) (acted : Acted guessType archive run event next after)
    (fresh : NewRound [run] event) (sound : Sound guessType archive run) : Sound guessType next after := by
  have confined := acted_confined guessType archive next run after event acted
  cases acted with
  | stored artifact rest round file storing waiting done =>
      exact stored_sound archive run artifact rest round file storing waiting done
        (fresh round rfl run (List.mem_singleton_self run)) sound
  | refused round thrown storing =>
      exact sound_moved archive archive run (.leaving (.error thrown)) sound rfl (fun _ _ => rfl) (fun _ => id)
        (fun _ => by rw [storing]; rfl) Bool.noConfusion fun _ ended => by cases ended
  | torn round thrown relativePath content storing =>
      have spares := write_spares archive run sound round.artifactId relativePath content
        (fresh round rfl run (List.mem_singleton_self run))
      exact sound_moved archive _ run (.leaving (.error thrown)) sound rfl spares (fun _ => id)
        (fun _ => by rw [storing]; rfl) Bool.noConfusion fun _ ended => by cases ended
  | committed applied storing waiting =>
      refine sound_moved archive _ run (.leaving (.ok ())) sound rfl (fun _ _ => rfl) confined.kept
        (fun _ => by rw [storing]; rfl) (fun _ => ⟨waiting, ?_⟩) fun _ ended => by cases ended
      exact fun record member => List.mem_append_right _ member
  | uncommitted applied thrown storing =>
      exact sound_moved archive _ run (.leaving (.error thrown)) sound rfl (fun _ _ => rfl) confined.kept
        (fun _ => by rw [storing]; rfl) Bool.noConfusion fun _ ended => by cases ended
  | closed result outcome leaving =>
      have kept : run.point.keeps = true := by
        rw [leaving]
        rfl
      have moved := fun point committed views =>
        sound_moved archive archive run point sound rfl (fun _ _ => rfl) (fun _ => id) (fun _ => kept) committed views
      cases ends : outcome.bind fun _ => result with
      | error thrown =>
          cases thrown with
          | exception failure => exact moved (.cleaning failure) Bool.noConfusion fun _ ended => by cases ended
          | interrupt cause => exact moved (.ended (.error (.interrupt cause))) Bool.noConfusion fun _ ended => by cases ended
      | ok done =>
          have committed : run.point.committed = true := by
            cases outcome with
            | error thrown => cases ends
            | ok closed =>
                have returned : result = .ok () := ends
                rw [leaving, returned]
                rfl
          refine moved (.ended (.ok run.views)) (fun _ => sound.committed committed) fun _ ended => ?_
          cases ended
          rfl
  | cleaned failure outcome survives cleaning => exact cleaned_sound archive run failure outcome survives sound

end Own

theorem held_ids_split (front back : List PersistRun) (run : PersistRun) :
    heldIds (front ++ run :: back) = heldIds front ++ (run.records.map Artifact.id ++ heldIds back) := by
  simp [heldIds]

theorem held_ids_mem (runs : List PersistRun) (id : String) :
    id ∈ heldIds runs ↔ ∃ run ∈ runs, ∃ record ∈ run.records, record.id = id := by
  simp [heldIds]

theorem acted_ids (archive next : Archive) (front back : List PersistRun) (run after : PersistRun) (event : PersistEvent)
    (acted : Acted guessType archive run event next after) (fresh : NewRound (front ++ run :: back) event)
    (distinct : (heldIds (front ++ run :: back)).Nodup) : (heldIds (front ++ after :: back)).Nodup := by
  have same : after.records = run.records → (heldIds (front ++ after :: back)).Nodup := by
    intro records
    rw [held_ids_split, records, ← held_ids_split]
    exact distinct
  cases acted with
  | stored artifact rest round file storing waiting done =>
      have absent : round.artifactId ∉ heldIds (front ++ run :: back) := by
        rw [held_ids_mem]
        rintro ⟨other, member, record, held, named⟩
        exact fresh round rfl other member record held named
      have longer := List.nodup_cons.mpr ⟨absent, distinct⟩
      have moved : (round.artifactId :: heldIds (front ++ run :: back)).Perm (heldIds (front ++
          { run with
            waiting := rest
            stored := run.stored ++
              [(artifact, recordOf guessType (run.call.directory archive) run.call.workspaceId (artifact, round) file)] }
          :: back)) := by
        rw [held_ids_split, held_ids_split, PersistRun.records, PersistRun.records, List.map_append, List.map_append]
        rw [List.append_assoc]
        refine List.perm_middle.symm.trans (List.Perm.append_left _ ?_)
        exact List.perm_middle.symm
      exact moved.nodup_iff.mp longer
  | closed result outcome leaving =>
      apply same
      cases outcome.bind fun _ => result with
      | ok done => rfl
      | error thrown => cases thrown <;> rfl
  | _ => exact same rfl

theorem act_filed (archive next : Archive) (front back : List PersistRun) (run after : PersistRun) (event : PersistEvent)
    (filed : Filed guessType ⟨archive, front ++ run :: back⟩) (acted : Acted guessType archive run event next after)
    (fresh : NewRound (front ++ run :: back) event) : Filed guessType ⟨next, front ++ after :: back⟩ := by
  have confined := acted_confined guessType archive next run after event acted
  have batches := filed.batches
  rw [List.map_append, List.map_cons] at batches
  refine ⟨?_, acted_ids guessType archive next front back run after event acted fresh filed.ids, ?_, ?_⟩
  · rw [List.map_append, List.map_cons, confined.call]
    exact batches
  · intro other member
    rcases mem_moved front back after other member with rfl | beside
    · apply acted_sound archive next run other event acted _ (filed.sound run (by simp))
      intro round same only inside
      rw [List.mem_singleton.mp inside]
      exact fresh round same run (by simp)
    · apply sound_beside archive next run other after confined _ (filed.sound other (mem_others front back run other beside))
      have distinct := List.perm_middle.nodup_iff.mp batches
      rw [List.nodup_cons, ← List.map_append] at distinct
      intro same
      exact distinct.1 (same ▸ List.mem_map_of_mem beside)
  · intro row member
    have held : ∀ other ∈ front ++ run :: back, row ∈ other.records →
        ∃ holder ∈ front ++ after :: back, row ∈ holder.records := by
      intro other inside present
      rcases mem_moved front back run other inside with rfl | beside
      · exact ⟨after, by simp, confined.records row present⟩
      · exact ⟨other, mem_others front back after other beside, present⟩
    rcases confined.added row member with old | own
    · obtain ⟨other, inside, present⟩ := filed.rows row old
      exact held other inside present
    · exact held run (by simp) own

theorem entered_sound (archive : Archive) (call : PersistCall) : Sound guessType archive (enterPersist call) := by
  refine ⟨fun pair member => (List.not_mem_nil member).elim, rfl, ?_, ?_⟩
  · intro settled
    by_cases empty : call.artifacts = []
    · exact ⟨empty, fun record member => by cases member⟩
    · rw [enterPersist, if_neg empty] at settled
      cases settled
  · intro views ended
    by_cases empty : call.artifacts = []
    · rw [enterPersist, if_pos empty] at ended
      cases ended
      rfl
    · rw [enterPersist, if_neg empty] at ended
      cases ended

theorem step_filed (depot next : Depot) (label : DepotLabel) (filed : Filed guessType depot) (fresh : NewIds depot label)
    (taken : depot.step guessType label = some next) : Filed guessType next := by
  rcases world_step_cases depot next label taken with
    ⟨call, rfl, rfl⟩ | ⟨front, run, back, event, archive, after, rfl, parties, acted, rfl⟩
  · refine ⟨?_, ?_, ?_, ?_⟩
    · rw [List.map_append, List.nodup_append]
      refine ⟨filed.batches, List.nodup_singleton _, ?_⟩
      intro batch inside other single same
      obtain ⟨run, member, rfl⟩ := List.mem_map.mp inside
      rw [List.map_singleton, List.mem_singleton] at single
      exact fresh run member (same.trans single)
    · have unchanged : heldIds (depot.parties ++ [enterPersist call]) = heldIds depot.parties := by
        simp [heldIds, enterPersist, PersistRun.records]
      rw [unchanged]
      exact filed.ids
    · intro run member
      rcases List.mem_append.mp member with old | new
      · exact filed.sound run old
      · rw [List.mem_singleton.mp new]
        exact entered_sound guessType depot.shared call
    · intro row member
      obtain ⟨run, inside, present⟩ := filed.rows row member
      exact ⟨run, List.mem_append_left _ inside, present⟩
  · obtain ⟨shared, runs⟩ := depot
    dsimp only at parties
    subst parties
    apply act_filed guessType shared archive front back run after event filed (act_acted guessType _ _ _ _ _ _ acted)
    rintro round rfl
    exact fresh

section Reads

variable {guessType} (depot : Depot)

theorem get_found (archive : Archive) (workspaceId artifactId : String) (artifact : Artifact)
    (found : archive.get workspaceId artifactId = some artifact) :
    artifact ∈ archive.rows ∧ artifact.id = artifactId ∧ artifact.workspaceId = workspaceId := by
  rw [Archive.get] at found
  have matched := List.find?_some found
  exact ⟨List.mem_of_find?_eq_some found, of_decide_eq_true matched⟩

theorem download_held (archive : Archive) (workspaceId artifactId : String) (artifact : Artifact) (content : List UInt8)
    (found : archive.get workspaceId artifactId = some artifact)
    (written : archive.disk artifact.storedPath = some content) :
    downloadArtifact archive workspaceId artifactId = .file content artifact.mimeType artifact.filename := by
  rw [downloadArtifact, found]
  dsimp only
  rw [written]

theorem download_absent (archive : Archive) (workspaceId artifactId : String)
    (absent : archive.get workspaceId artifactId = none) :
    downloadArtifact archive workspaceId artifactId = .notFound "Artifact not found." := by
  rw [downloadArtifact, absent]

theorem held_once (filed : Filed guessType depot) (run other : PersistRun) (record found : Artifact)
    (runIn : run ∈ depot.parties) (otherIn : other ∈ depot.parties) (recordIn : record ∈ run.records)
    (foundIn : found ∈ other.records) (same : record.id = found.id) : record = found := by
  have distinct : ((depot.parties.flatMap PersistRun.records).map Artifact.id).Nodup := by
    rw [List.map_flatMap]
    exact filed.ids
  exact List.inj_on_of_nodup_map distinct (List.mem_flatMap.mpr ⟨run, runIn, recordIn⟩)
    (List.mem_flatMap.mpr ⟨other, otherIn, foundIn⟩) same

theorem get_committed (filed : Filed guessType depot) (run : PersistRun) (record : Artifact) (runIn : run ∈ depot.parties)
    (recordIn : record ∈ run.records) (committed : record ∈ depot.shared.rows) (workspaceId : String) :
    depot.shared.get workspaceId record.id = if record.workspaceId = workspaceId then some record else none := by
  cases found : depot.shared.get workspaceId record.id with
  | some other =>
      obtain ⟨present, named, owned⟩ := get_found depot.shared workspaceId record.id other found
      obtain ⟨holder, holderIn, otherIn⟩ := filed.rows other present
      obtain rfl := held_once depot filed holder run other record holderIn runIn otherIn recordIn named
      rw [if_pos owned]
  | none =>
      by_cases owned : record.workspaceId = workspaceId
      · have missed := List.find?_eq_none.mp found record committed
        exact absurd (decide_eq_true ⟨rfl, owned⟩) missed
      · rw [if_neg owned]

theorem made_artifact (batchDir : List String) (workspaceId : String) (pair : SandboxArtifact × Artifact)
    (content : List UInt8) (made : MadeOf guessType batchDir workspaceId pair content) :
    b64decode true pair.1.contentBase64 = .ok content ∧ content.length = pair.1.size ∧ pair.2.workspaceId = workspaceId ∧
      ∃ relativePath, safeRelativePath pair.1.path = .ok relativePath ∧
        pair.2.filename = (⟨"", relativePath⟩ : PurePosixPath).name ∧
        pair.2.mimeType = artifactMimeType guessType (⟨"", relativePath⟩ : PurePosixPath).name := by
  obtain ⟨round, stands, stored, same⟩ := made
  rw [same]
  rw [storeOne] at stored
  cases path : safeRelativePath pair.1.path with
  | error failure =>
      rw [path] at stored
      cases stored
  | ok relativePath =>
      rw [path] at stored
      cases decoded : b64decode true pair.1.contentBase64 with
      | error failure =>
          rw [decoded] at stored
          cases stored
      | ok bytes =>
          rw [decoded] at stored
          dsimp only at stored
          by_cases different : bytes.length ≠ pair.1.size
          · rw [if_pos different] at stored
            cases stored
          · rw [if_neg different] at stored
            cases made : round.mkdir with
            | error thrown =>
                rw [made] at stored
                cases stored
            | ok done =>
                rw [made] at stored
                cases wrote : round.write with
                | error thrown =>
                    rw [wrote] at stored
                    cases stored
                | ok written =>
                    rw [wrote] at stored
                    cases stored
                    exact ⟨rfl, not_not.mp different, rfl, _, rfl, rfl, rfl⟩

-- What a download may answer with: the bytes of an artifact that the workspace has stored.
variable (guessType) in
structure Served (workspaceId artifactId : String) (content : List UInt8) (mimeType filename : String) (run : PersistRun)
    (artifact : SandboxArtifact) : Prop where
  owner : run.call.workspaceId = workspaceId
  given : artifact ∈ run.call.artifacts
  decoded : b64decode true artifact.contentBase64 = .ok content ∧ content.length = artifact.size
  typed : mimeType = artifactMimeType guessType filename
  named : ∃ relativePath, safeRelativePath artifact.path = .ok relativePath ∧
    filename = (⟨"", relativePath⟩ : PurePosixPath).name
  row : ∃ record ∈ run.records, record.id = artifactId

theorem download_served (filed : Filed guessType depot) (workspaceId artifactId : String) (content : List UInt8)
    (mimeType filename : String)
    (answered : downloadArtifact depot.shared workspaceId artifactId = .file content mimeType filename) :
    ∃ run ∈ depot.parties, ∃ artifact,
      Served guessType workspaceId artifactId content mimeType filename run artifact := by
  unfold downloadArtifact at answered
  cases found : depot.shared.get workspaceId artifactId with
  | none =>
      rw [found] at answered
      cases answered
  | some record =>
      rw [found] at answered
      obtain ⟨present, named, owned⟩ := get_found depot.shared workspaceId artifactId record found
      obtain ⟨run, runIn, recordIn⟩ := filed.rows record present
      obtain ⟨pair, pairIn, rfl⟩ := List.mem_map.mp recordIn
      have sound := filed.sound run runIn
      obtain ⟨bytes, made, there⟩ := sound.made pair pairIn
      obtain ⟨decoded, length, workspace, relativePath, taken, name, type⟩ := made_artifact _ _ pair bytes made
      have given : pair.1 ∈ run.call.artifacts := by
        rw [sound.order]
        exact List.mem_append_left _ (List.mem_map_of_mem pairIn)
      cases disk : depot.shared.disk pair.2.storedPath with
      | none =>
          dsimp only at answered
          rw [disk] at answered
          cases answered
      | some stored =>
          dsimp only at answered
          rw [disk] at answered
          cases answered
          have same : content = bytes := by
            rcases there with written | ⟨_, gone⟩
            · exact Option.some.inj (disk.symm.trans written)
            · exact absurd (disk.symm.trans gone) (Option.some_ne_none content)
          rw [same]
          exact ⟨run, runIn, pair.1, workspace.symm.trans owned, given, ⟨decoded, length⟩, by rw [type, name],
            ⟨relativePath, taken, name⟩, pair.2, recordIn, named⟩

structure Available (archive : Archive) (workspaceId : String) (artifact : SandboxArtifact) (view : ArtifactView) : Prop where
  own : ∃ content, b64decode true artifact.contentBase64 = .ok content ∧ view.size = content.length ∧
    downloadArtifact archive workspaceId view.id = .file content view.mimeType view.filename
  foreign : ∀ other, other ≠ workspaceId → downloadArtifact archive other view.id = .notFound "Artifact not found."

theorem returned_available (filed : Filed guessType depot) (run : PersistRun) (runIn : run ∈ depot.parties)
    (views : List ArtifactView) (ended : run.point = .ended (.ok views)) :
    List.Forall₂ (Available depot.shared run.call.workspaceId) run.call.artifacts views := by
  have sound := filed.sound run runIn
  obtain ⟨done, present⟩ := sound.committed (by rw [ended]; rfl)
  rw [sound.views views ended, sound.order, done, List.append_nil, PersistRun.views, PersistRun.records, List.map_map,
    List.forall₂_map_left_iff, List.forall₂_map_right_iff, List.forall₂_same]
  intro pair pairIn
  have recordIn : pair.2 ∈ run.records := List.mem_map_of_mem pairIn
  obtain ⟨content, made, there⟩ := sound.made pair pairIn
  obtain ⟨decoded, length, workspace, _, _, _, _⟩ := made_artifact _ _ pair content made
  have written : depot.shared.disk pair.2.storedPath = some content := by
    rcases there with written | ⟨lost, _⟩
    · exact written
    · rw [ended] at lost
      cases lost
  have size : pair.2.size = content.length := by
    obtain ⟨_, _, _, same⟩ := made
    rw [same]
    rfl
  have got := get_committed depot filed run pair.2 runIn recordIn (present pair.2 recordIn)
  constructor
  · refine ⟨content, decoded, size, ?_⟩
    have here := got run.call.workspaceId
    rw [if_pos workspace] at here
    exact download_held depot.shared run.call.workspaceId pair.2.id pair.2 content here written
  · intro other foreign
    have elsewhere := got other
    rw [if_neg (by rw [workspace]; exact foreign.symm)] at elsewhere
    exact download_absent depot.shared other pair.2.id elsewhere

end Reads

theorem downloads_faithful (storageRoot : List String) (leftover : Disk) (labels : List DepotLabel) (finish : Depot)
    (fresh : StepsMeet (Depot.step guessType) NewIds ⟨⟨storageRoot, leftover, []⟩, []⟩ labels)
    (run : runFrom (Depot.step guessType) ⟨⟨storageRoot, leftover, []⟩, []⟩ labels = some finish) :
    (∀ workspaceId artifactId content mimeType filename,
      downloadArtifact finish.shared workspaceId artifactId = .file content mimeType filename →
        ∃ call ∈ finish.parties, ∃ artifact,
          Served guessType workspaceId artifactId content mimeType filename call artifact) ∧
      ∀ call ∈ finish.parties, ∀ views, call.point = .ended (.ok views) →
        List.Forall₂ (Available finish.shared call.call.workspaceId) call.call.artifacts views := by
  have filed : Filed guessType finish := by
    apply run_invariant_meeting NewIds (Filed guessType) _ _ finish labels _ fresh run
    · exact fun depot label next => step_filed guessType depot next label
    · refine ⟨List.nodup_nil, List.nodup_nil, ?_, ?_⟩
      · intro call member
        cases member
      · intro row member
        cases member
  exact ⟨download_served finish filed, returned_available finish filed⟩

instance (depot : Depot) : (label : DepotLabel) → Decidable (NewIds depot label)
  | .call call => inferInstanceAs (Decidable (∀ run ∈ depot.parties, run.call.batchId ≠ call.batchId))
  | .act _ (.store round) =>
      inferInstanceAs (Decidable (∀ run ∈ depot.parties, ∀ record ∈ run.records, record.id ≠ round.artifactId))
  | .act _ (.commit ..) => .isTrue trivial
  | .act _ (.close _) => .isTrue trivial
  | .act _ (.cleanup ..) => .isTrue trivial

def sampleResult : PersistCall := ⟨"w", "b", [⟨"result.csv", "text/csv", 2, "NDI="⟩]⟩

def sampleChart : PersistCall := ⟨"w", "c", [⟨"chart.json", "application/json", 2, "e30="⟩]⟩

def sampleTypes (name : String) : Option String := if name = "result.csv" then some "text/csv" else none

def emptyDepot : Depot := ⟨⟨["/", "data"], fun _ => none, []⟩, []⟩

-- Two calls by turns: the rows of the second are there although its commit raises, and its
-- handler removes the file.
def storedBeside : List DepotLabel := [.call sampleResult, .call sampleChart, .act 1 (.store ⟨"j", 1, .ok (), .ok (), none⟩),
  .act 0 (.store ⟨"i", 2, .ok (), .ok (), none⟩),
  .act 1 (.commit (.error (.exception ⟨"OperationalError", "database is locked"⟩)) true),
  .act 0 (.commit (.ok ()) false), .act 1 (.close (.ok ())), .act 0 (.close (.ok ())),
  .act 1 (.cleanup (.ok ()) fun _ => false)]

theorem stored_beside_fresh : StepsMeet (Depot.step sampleTypes) NewIds emptyDepot storedBeside := by
  have passing : countSteps (Depot.step sampleTypes) (fun depot label => !decide (NewIds depot label)) emptyDepot
      storedBeside = 0 := by decide
  exact steps_meet_mono _ _ _ _ (fun _ _ => of_decide_eq_true) (steps_meet_of_count _ _ _ passing)

theorem downloads_faithful_result : ∃ finish,
    runFrom (Depot.step sampleTypes) emptyDepot storedBeside = some finish ∧
      downloadArtifact finish.shared "w" "j" = .notFound "Artifact file is missing." ∧
      (∃ call ∈ finish.parties, ∃ artifact,
        Served sampleTypes "w" "i" [52, 50] "text/csv" "result.csv" call artifact) ∧
      ∀ call ∈ finish.parties, ∀ views, call.point = .ended (.ok views) →
        List.Forall₂ (Available finish.shared call.call.workspaceId) call.call.artifacts views := by
  have faithful := downloads_faithful sampleTypes ["/", "data"] (fun _ => none) storedBeside _ stored_beside_fresh rfl
  exact ⟨_, rfl, rfl, faithful.1 "w" "i" [52, 50] "text/csv" "result.csv" rfl, faithful.2⟩

end DataPilot.Artifacts
