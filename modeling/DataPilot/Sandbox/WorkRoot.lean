import DataPilot.Base.Parties
import Mathlib.Logic.Function.Basic

set_option autoImplicit false

namespace DataPilot.Sandbox

open DataPilot.Base

-- The mkdir that made a directory; one from before the runs has none.
inductive Maker where
  | earlier
  | run (number : Nat)
deriving DecidableEq

abbrev Contents := String → Option (List UInt8)

def noFiles : Contents := fun _ => none

structure WorkDirectory where
  maker : Maker
  contents : Contents

-- A directory that a run swept: the one that the run had made, if it had, and the maker of
-- the one that was there.
structure Removal where
  created : Option Nat
  maker : Maker
deriving DecidableEq

-- What a run found when it collected its artifacts, and what its container had written.
structure Gathering where
  found : Contents
  wrote : Contents

-- The artifact work root, with the number of the next directory and what has been done to it.
structure WorkRoot where
  directories : String → Option WorkDirectory
  next : Nat := 0
  removals : List Removal := []
  gatherings : List Gathering := []

def WorkRoot.before (leftover : String → Option Contents) : WorkRoot where
  directories := fun name => (leftover name).map fun contents => ⟨.earlier, contents⟩

def WorkRoot.put (root : WorkRoot) (name : String) (directory : Option WorkDirectory) : WorkRoot :=
  { root with directories := Function.update root.directories name directory }

-- A container writes or deletes a file in the directory that it mounted; once that is
-- unlinked nothing of it is seen under the name.
def WorkRoot.write (root : WorkRoot) (name : String) (mounted : Maker) (path : String) (content : Option (List UInt8)) :
    WorkRoot :=
  match root.directories name with
  | none => root
  | some directory =>
      if directory.maker = mounted then
        root.put name (some { directory with contents := Function.update directory.contents path content })
      else root

-- What shutil.rmtree with ignore_errors leaves of a directory.
inductive SweepOutcome where
  | gone
  | partly (left : Contents)
  | untouched

def WorkRoot.sweep (root : WorkRoot) (name : String) (created : Option Nat) (outcome : SweepOutcome) : WorkRoot :=
  match root.directories name with
  | none => root
  | some directory =>
      match outcome with
      | .untouched => root
      | .gone => { root.put name none with removals := root.removals ++ [⟨created, directory.maker⟩] }
      | .partly left =>
          { root.put name (some { directory with contents := left }) with
            removals := root.removals ++ [⟨created, directory.maker⟩] }

-- The next call of _execute_sync: images.get, mkdir, chmod, containers.create, start, wait,
-- logs, _collect_artifacts, and in the finally block _remove_quietly and rmtree.
inductive SandboxPhase where
  | checking
  | making
  | opening
  | creating
  | starting
  | waiting
  | reading
  | collecting
  | cleaning
  | sweeping
  | ended
deriving DecidableEq

structure SandboxRun where
  executionId : String
  phase : SandboxPhase := .checking
  created : Option Nat := none
  mount : Option Maker := none
  wrote : Contents := noFiles

-- The pending call returns or raises; where it is _remove_quietly, a Docker error leaves the
-- container running and any other escapes from the block. The container may write until it is gone.
inductive SandboxEvent where
  | proceed
  | fail
  | escape
  | write (path : String) (content : Option (List UInt8))
  | sweep (outcome : SweepOutcome)

-- perf_counter_ns() names the run.
def enter (nanoseconds : Nat) : SandboxRun where
  executionId := s!"execution-{nanoseconds}"

def SandboxRun.proceed (root : WorkRoot) (run : SandboxRun) : Option (WorkRoot × SandboxRun) :=
  match run.phase with
  | .checking => some (root, { run with phase := .making })
  | .making =>
      -- exist_ok=False
      match root.directories run.executionId with
      | some _ => none
      | none =>
          some ({ root.put run.executionId (some ⟨.run root.next, noFiles⟩) with next := root.next + 1 },
            { run with created := some root.next, phase := .opening })
  | .opening => some (root, { run with phase := .creating })
  | .creating => some (root, { run with phase := .starting })
  | .starting =>
      match root.directories run.executionId with
      | none => none
      | some directory => some (root, { run with mount := some directory.maker, phase := .waiting })
  | .waiting => some (root, { run with phase := .reading })
  | .reading => some (root, { run with phase := .collecting })
  | .collecting =>
      let found := ((root.directories run.executionId).map WorkDirectory.contents).getD noFiles
      some ({ root with gatherings := root.gatherings ++ [⟨found, run.wrote⟩] }, { run with phase := .cleaning })
  | .cleaning => some (root, { run with mount := none, phase := .sweeping })
  | .sweeping | .ended => none

def SandboxRun.act (root : WorkRoot) (_ : List SandboxRun) (run : SandboxRun) (event : SandboxEvent) :
    Option (WorkRoot × SandboxRun) :=
  match event with
  | .proceed => run.proceed root
  | .fail =>
      match run.phase with
      | .checking => some (root, { run with phase := .ended })
      | .cleaning => some (root, { run with phase := .sweeping })
      | .sweeping | .ended => none
      | _ => some (root, { run with phase := .cleaning })
  | .escape => if run.phase = .cleaning then some (root, { run with phase := .ended }) else none
  | .write path content =>
      match run.mount with
      | none => none
      | some mounted =>
          some (root.write run.executionId mounted path content, { run with wrote := Function.update run.wrote path content })
  | .sweep outcome =>
      if run.phase = .sweeping then some (root.sweep run.executionId run.created outcome, { run with phase := .ended })
      else none

abbrev SandboxWorld := World WorkRoot SandboxRun

abbrev SandboxLabel := PartyLabel Nat SandboxEvent

def SandboxWorld.step (world : SandboxWorld) (label : SandboxLabel) : Option SandboxWorld :=
  World.step enter SandboxRun.act world label

def Removal.Own (removal : Removal) : Prop := ∃ number, removal = ⟨some number, .run number⟩

-- Whatever was swept its own run had made, and what was collected its own container had written.
structure Undisturbed (root : WorkRoot) : Prop where
  removals : ∀ removal ∈ root.removals, removal.Own
  gatherings : ∀ gathering ∈ root.gatherings, gathering.found = gathering.wrote

def SweepOutcome.touches : SweepOutcome → Bool
  | .untouched => false
  | _ => true

-- A run that has made no directory sweeps only where there is none under its name.
def Sparing (world : SandboxWorld) (label : SandboxLabel) : Prop :=
  ∀ index outcome run, label = .act index (.sweep outcome) → outcome.touches = true → world.parties[index]? = some run →
    run.created = none → world.shared.directories run.executionId = none

-- From the mkdir to the collection.
def SandboxPhase.inside : SandboxPhase → Bool
  | .opening | .creating | .starting | .waiting | .reading | .collecting => true
  | _ => false

def SandboxPhase.early : SandboxPhase → Bool
  | .checking | .making => true
  | _ => false

structure Kept (root : WorkRoot) (run : SandboxRun) : Prop where
  early : run.phase.early = true → run.created = none ∧ run.wrote = noFiles
  inside : run.phase.inside = true → run.created ≠ none
  mount : ∀ mounted, run.mount = some mounted → ∃ number, run.created = some number ∧ mounted = .run number
  directory : ∀ number, run.created = some number → run.phase ≠ .ended →
    root.directories run.executionId = some ⟨.run number, run.wrote⟩

structure Separate (world : SandboxWorld) : Prop where
  drawn : Drawn SandboxRun.created [] world.parties world.shared.next
  kept : ∀ run ∈ world.parties, Kept world.shared run
  undisturbed : Undisturbed world.shared

theorem put_same (root : WorkRoot) (name : String) (directory : Option WorkDirectory) :
    (root.put name directory).directories name = directory := by
  simp only [WorkRoot.put, Function.update_self]

theorem put_other (root : WorkRoot) (name other : String) (directory : Option WorkDirectory) (different : other ≠ name) :
    (root.put name directory).directories other = root.directories other := by
  simp only [WorkRoot.put, Function.update_of_ne different]

theorem kept_frame (root next : WorkRoot) (run : SandboxRun) (kept : Kept root run)
    (same : ∀ number, run.created = some number → run.phase ≠ .ended →
      next.directories run.executionId = root.directories run.executionId) : Kept next run where
  early := kept.early
  inside := kept.inside
  mount := kept.mount
  directory := fun number made standing => (same number made standing).trans (kept.directory number made standing)

theorem other_elsewhere (root : WorkRoot) (front back : List SandboxRun) (run other : SandboxRun) (number next : Nat)
    (drawn : Drawn SandboxRun.created [] (front ++ run :: back) next) (made : run.created = some number)
    (member : other ∈ front ++ back) (kept : Kept root other) (contents : Contents)
    (there : root.directories run.executionId = some ⟨.run number, contents⟩)
    (otherNumber : Nat) (otherMade : other.created = some otherNumber) (standing : other.phase ≠ .ended) :
    other.executionId ≠ run.executionId := by
  intro same
  have found := kept.directory otherNumber otherMade standing
  rw [same, there] at found
  have numbers : number = otherNumber := by
    cases found
    rfl
  exact drawn_distinct number other drawn made member (numbers ▸ otherMade)

theorem sweep_other (root : WorkRoot) (name other : String) (created : Option Nat) (outcome : SweepOutcome)
    (different : other ≠ name) : (root.sweep name created outcome).directories other = root.directories other := by
  rw [WorkRoot.sweep]
  cases root.directories name with
  | none => rfl
  | some directory =>
      cases outcome with
      | untouched => rfl
      | gone => exact put_other _ _ _ _ different
      | partly left => exact put_other _ _ _ _ different

theorem write_logs (root : WorkRoot) (name path : String) (mounted : Maker) (content : Option (List UInt8)) :
    (root.write name mounted path content).next = root.next ∧
      (root.write name mounted path content).removals = root.removals ∧
      (root.write name mounted path content).gatherings = root.gatherings := by
  rw [WorkRoot.write]
  cases root.directories name with
  | none => exact ⟨rfl, rfl, rfl⟩
  | some directory =>
      dsimp only
      by_cases linked : directory.maker = mounted
      · rw [if_pos linked]
        exact ⟨rfl, rfl, rfl⟩
      · rw [if_neg linked]
        exact ⟨rfl, rfl, rfl⟩

theorem sweep_logs (root : WorkRoot) (name : String) (created : Option Nat) (outcome : SweepOutcome) :
    (root.sweep name created outcome).next = root.next ∧ (root.sweep name created outcome).gatherings = root.gatherings := by
  rw [WorkRoot.sweep]
  cases root.directories name with
  | none => exact ⟨rfl, rfl⟩
  | some directory => cases outcome <;> exact ⟨rfl, rfl⟩

theorem sweep_absent (root : WorkRoot) (name : String) (created : Option Nat) (outcome : SweepOutcome)
    (absent : root.directories name = none) : root.sweep name created outcome = root := by
  simp only [WorkRoot.sweep, absent]

theorem sweep_untouched (root : WorkRoot) (name : String) (created : Option Nat) (outcome : SweepOutcome)
    (untouched : outcome.touches = false) : root.sweep name created outcome = root := by
  rw [WorkRoot.sweep]
  cases root.directories name with
  | none => rfl
  | some directory =>
      cases outcome with
      | untouched => rfl
      | gone => cases untouched
      | partly left => cases untouched

theorem sweep_present (root : WorkRoot) (name : String) (created : Option Nat) (outcome : SweepOutcome)
    (directory : WorkDirectory) (present : root.directories name = some directory) (touches : outcome.touches = true) :
    (root.sweep name created outcome).removals = root.removals ++ [⟨created, directory.maker⟩] := by
  rw [WorkRoot.sweep, present]
  cases outcome with
  | untouched => cases touches
  | gone => rfl
  | partly left => rfl

-- What a step of a run does, the guards included.
inductive Acted (root : WorkRoot) (run : SandboxRun) : SandboxEvent → WorkRoot → SandboxRun → Prop where
  | moved (event : SandboxEvent) (phase : SandboxPhase) (mount : Option Maker)
      (early : phase.early = true → run.phase.early = true) (inside : phase.inside = true → run.phase.inside = true)
      (standing : phase ≠ .ended → run.phase ≠ .ended) (mounts : mount = none ∨ mount = run.mount)
      (sweeps : ∀ outcome, event ≠ .sweep outcome) :
      Acted root run event root { run with phase, mount }
  | made (making : run.phase = .making) (free : root.directories run.executionId = none) :
      Acted root run .proceed
        { root.put run.executionId (some ⟨.run root.next, noFiles⟩) with next := root.next + 1 }
        { run with created := some root.next, phase := .opening }
  | started (starting : run.phase = .starting) (directory : WorkDirectory)
      (there : root.directories run.executionId = some directory) :
      Acted root run .proceed root { run with mount := some directory.maker, phase := .waiting }
  | collected (collecting : run.phase = .collecting) :
      Acted root run .proceed
        { root with gatherings := root.gatherings ++
          [⟨((root.directories run.executionId).map WorkDirectory.contents).getD noFiles, run.wrote⟩] }
        { run with phase := .cleaning }
  | wrote (path : String) (content : Option (List UInt8)) (mounted : Maker) (mounts : run.mount = some mounted) :
      Acted root run (.write path content) (root.write run.executionId mounted path content)
        { run with wrote := Function.update run.wrote path content }
  | swept (outcome : SweepOutcome) (sweeping : run.phase = .sweeping) :
      Acted root run (.sweep outcome) (root.sweep run.executionId run.created outcome) { run with phase := .ended }

theorem proceed_acted (root next : WorkRoot) (run after : SandboxRun) (taken : run.proceed root = some (next, after)) :
    Acted root run .proceed next after := by
  have move : ∀ phase mount, (phase.early = true → run.phase.early = true) →
      (phase.inside = true → run.phase.inside = true) → (phase ≠ .ended → run.phase ≠ .ended) →
      (mount = none ∨ mount = run.mount) → Acted root run .proceed root { run with phase, mount } := by
    intro phase mount early inside standing mounts
    exact .moved .proceed phase mount early inside standing mounts (by simp)
  rw [SandboxRun.proceed] at taken
  cases point : run.phase with
  | making =>
      cases there : root.directories run.executionId with
      | some directory => simp [point, there] at taken
      | none =>
          simp only [point, there, Option.some.injEq, Prod.mk.injEq] at taken
          obtain ⟨rfl, rfl⟩ := taken
          exact .made point there
  | starting =>
      cases there : root.directories run.executionId with
      | none => simp [point, there] at taken
      | some directory =>
          simp only [point, there, Option.some.injEq, Prod.mk.injEq] at taken
          obtain ⟨rfl, rfl⟩ := taken
          exact .started point directory there
  | collecting =>
      simp only [point, Option.some.injEq, Prod.mk.injEq] at taken
      obtain ⟨rfl, rfl⟩ := taken
      exact .collected point
  | sweeping => simp [point] at taken
  | ended => simp [point] at taken
  | _ =>
      simp only [point, Option.some.injEq, Prod.mk.injEq] at taken
      obtain ⟨rfl, rfl⟩ := taken
      apply move <;> simp [point, SandboxPhase.early, SandboxPhase.inside]

theorem act_acted (root next : WorkRoot) (others : List SandboxRun) (run after : SandboxRun) (event : SandboxEvent)
    (taken : run.act root others event = some (next, after)) : Acted root run event next after := by
  cases event with
  | proceed => exact proceed_acted root next run after taken
  | fail =>
      have move : ∀ phase, (phase.early = true → run.phase.early = true) →
          (phase.inside = true → run.phase.inside = true) → (phase ≠ .ended → run.phase ≠ .ended) →
          Acted root run .fail root { run with phase } := by
        intro phase early inside standing
        exact .moved .fail phase run.mount early inside standing (.inr rfl) (by simp)
      rw [SandboxRun.act] at taken
      cases point : run.phase with
      | sweeping => simp [point] at taken
      | ended => simp [point] at taken
      | _ =>
          simp only [point, Option.some.injEq, Prod.mk.injEq] at taken
          obtain ⟨rfl, rfl⟩ := taken
          apply move <;> simp [point, SandboxPhase.early, SandboxPhase.inside]
  | escape =>
      rw [SandboxRun.act] at taken
      by_cases point : run.phase = .cleaning
      · simp only [if_pos point, Option.some.injEq, Prod.mk.injEq] at taken
        obtain ⟨rfl, rfl⟩ := taken
        exact .moved .escape .ended run.mount (by simp [SandboxPhase.early]) (by simp [SandboxPhase.inside]) (by simp)
          (.inr rfl) (by simp)
      · simp [point] at taken
  | write path content =>
      rw [SandboxRun.act] at taken
      cases mounts : run.mount with
      | none => simp [mounts] at taken
      | some mounted =>
          simp only [mounts, Option.some.injEq, Prod.mk.injEq] at taken
          obtain ⟨rfl, rfl⟩ := taken
          rw [← mounts]
          exact .wrote path content mounted mounts
  | sweep outcome =>
      rw [SandboxRun.act] at taken
      by_cases point : run.phase = .sweeping
      · simp only [if_pos point, Option.some.injEq, Prod.mk.injEq] at taken
        obtain ⟨rfl, rfl⟩ := taken
        exact .swept outcome point
      · simp [point] at taken

theorem kept_moved (root : WorkRoot) (run : SandboxRun) (phase : SandboxPhase) (mount : Option Maker) (kept : Kept root run)
    (early : phase.early = true → run.phase.early = true) (inside : phase.inside = true → run.phase.inside = true)
    (standing : phase ≠ .ended → run.phase ≠ .ended) (mounts : mount = none ∨ mount = run.mount) :
    Kept root { run with phase, mount } where
  early := fun point => kept.early (early point)
  inside := fun point => kept.inside (inside point)
  mount := by
    intro mounted holds
    rcases mounts with rfl | rfl
    · cases holds
    · exact kept.mount mounted holds
  directory := fun number made alive => kept.directory number made (standing alive)

theorem separate_before (leftover : String → Option Contents) : Separate ⟨WorkRoot.before leftover, []⟩ where
  drawn := ⟨List.nodup_nil, by simp⟩
  kept := by simp
  undisturbed := ⟨by simp [WorkRoot.before], by simp [WorkRoot.before]⟩

section Moves

variable {root : WorkRoot} {front back : List SandboxRun} {run : SandboxRun}

theorem separate_moved (next : WorkRoot) (after : SandboxRun)
    (drawn : Drawn SandboxRun.created [] (front ++ after :: back) next.next) (own : Kept next after)
    (others : ∀ other ∈ front ++ back, Kept next other) (undisturbed : Undisturbed next) :
    Separate ⟨next, front ++ after :: back⟩ := by
  refine ⟨drawn, ?_, undisturbed⟩
  intro other member
  rcases mem_moved front back after other member with rfl | old
  · exact own
  · exact others other old

theorem kept_inside (own : Kept root run) (inside : run.phase.inside = true) :
    ∃ number, run.created = some number ∧ root.directories run.executionId = some ⟨.run number, run.wrote⟩ := by
  obtain ⟨number, made⟩ := Option.ne_none_iff_exists'.mp (own.inside inside)
  refine ⟨number, made, own.directory number made ?_⟩
  intro ended
  rw [ended] at inside
  cases inside

variable (separate : Separate ⟨root, front ++ run :: back⟩) (own : Kept root run)
  (others : ∀ other ∈ front ++ back, Kept root other)

include separate own others

theorem made_separate (making : run.phase = .making) (free : root.directories run.executionId = none) :
    Separate ⟨{ root.put run.executionId (some ⟨.run root.next, noFiles⟩) with next := root.next + 1 },
      front ++ { run with created := some root.next, phase := .opening } :: back⟩ := by
  obtain ⟨bare, empty⟩ := own.early (by rw [making]; rfl)
  refine separate_moved _ _ (drawn_new separate.drawn bare rfl) ⟨by simp [SandboxPhase.early], by simp, ?_, ?_⟩ ?_
    ⟨separate.undisturbed.removals, separate.undisturbed.gatherings⟩
  · intro mounted mounts
    obtain ⟨number, made, _⟩ := own.mount mounted mounts
    rw [bare] at made
    cases made
  · intro number made _
    cases made
    exact (put_same root _ _).trans (by rw [empty])
  · intro other member
    refine kept_frame root _ other (others other member) fun number made standing => put_other _ _ _ _ fun same => ?_
    have there := (others other member).directory number made standing
    rw [same, free] at there
    cases there

theorem started_separate (starting : run.phase = .starting) (directory : WorkDirectory)
    (there : root.directories run.executionId = some directory) :
    Separate ⟨root, front ++ { run with mount := some directory.maker, phase := .waiting } :: back⟩ := by
  obtain ⟨number, made, stands⟩ := kept_inside own (by rw [starting]; rfl)
  refine separate_moved _ _ (drawn_kept separate.drawn rfl) ⟨by simp [SandboxPhase.early], fun _ => ?_, ?_, ?_⟩ others
    separate.undisturbed
  · exact own.inside (by rw [starting]; rfl)
  · rintro _ ⟨⟩
    rw [there] at stands
    cases stands
    exact ⟨number, made, rfl⟩
  · intro number made _
    exact own.directory number made (by rw [starting]; decide)

theorem collected_separate (collecting : run.phase = .collecting) :
    Separate ⟨{ root with gatherings := root.gatherings ++
        [⟨((root.directories run.executionId).map WorkDirectory.contents).getD noFiles, run.wrote⟩] },
      front ++ { run with phase := .cleaning } :: back⟩ := by
  obtain ⟨_, _, there⟩ := kept_inside own (by rw [collecting]; rfl)
  refine separate_moved _ _ (drawn_kept separate.drawn rfl)
    ⟨by simp [SandboxPhase.early], by simp [SandboxPhase.inside], own.mount, ?_⟩ ?_ ⟨separate.undisturbed.removals, ?_⟩
  · intro number made _
    exact own.directory number made (by rw [collecting]; decide)
  · exact fun other member => kept_frame root _ other (others other member) fun _ _ _ => rfl
  · intro gathering member
    rcases List.mem_append.mp member with old | new
    · exact separate.undisturbed.gatherings gathering old
    · rw [List.mem_singleton.mp new, there]
      rfl

theorem wrote_separate (path : String) (content : Option (List UInt8)) (mounted : Maker) (mounts : run.mount = some mounted) :
    Separate ⟨root.write run.executionId mounted path content,
      front ++ { run with wrote := Function.update run.wrote path content } :: back⟩ := by
  obtain ⟨number, made, rfl⟩ := own.mount mounted mounts
  obtain ⟨next, removals, gatherings⟩ := write_logs root run.executionId path (.run number) content
  refine separate_moved _ _ (by rw [next]; exact drawn_kept separate.drawn rfl) ⟨?_, own.inside, own.mount, ?_⟩ ?_
    ⟨by rw [removals]; exact separate.undisturbed.removals, by rw [gatherings]; exact separate.undisturbed.gatherings⟩
  · intro early
    rw [(own.early early).1] at made
    cases made
  · intro other there standing
    obtain rfl : number = other := Option.some.inj (made.symm.trans there)
    rw [WorkRoot.write, own.directory number made standing]
    simp only [if_true, put_same]
  · intro other member
    refine kept_frame root _ other (others other member) fun otherNumber otherMade standing => ?_
    rw [WorkRoot.write]
    cases there : root.directories run.executionId with
    | none => rfl
    | some directory =>
        by_cases linked : directory.maker = .run number
        · obtain ⟨maker, contents⟩ := directory
          cases linked
          have apart := other_elsewhere root front back run other number root.next separate.drawn made member
            (others other member) contents there otherNumber otherMade standing
          simp only [if_true, put_other _ _ _ _ apart]
        · simp only [if_neg linked]

-- A run without a directory sweeps none; one with a directory sweeps its own.
theorem swept_separate (outcome : SweepOutcome) (sweeping : run.phase = .sweeping)
    (sparing : outcome.touches = true → run.created = none → root.directories run.executionId = none) :
    Separate ⟨root.sweep run.executionId run.created outcome, front ++ { run with phase := .ended } :: back⟩ := by
  obtain ⟨next, gatherings⟩ := sweep_logs root run.executionId run.created outcome
  have ended : Kept (root.sweep run.executionId run.created outcome) { run with phase := .ended } :=
    ⟨by simp [SandboxPhase.early], by simp [SandboxPhase.inside], own.mount, fun _ _ alive => absurd rfl alive⟩
  have drawn : Drawn SandboxRun.created [] (front ++ { run with phase := .ended } :: back)
      (root.sweep run.executionId run.created outcome).next := by
    rw [next]
    exact drawn_kept separate.drawn rfl
  by_cases idle : outcome.touches = false ∨ run.created = none
  · have unchanged : root.sweep run.executionId run.created outcome = root := by
      rcases idle with untouched | bare
      · exact sweep_untouched _ _ _ _ untouched
      · by_cases touches : outcome.touches = true
        · exact sweep_absent _ _ _ _ (sparing touches bare)
        · exact sweep_untouched _ _ _ _ (by simpa using touches)
    exact separate_moved _ _ drawn ended (by rw [unchanged]; exact others) (by rw [unchanged]; exact separate.undisturbed)
  · obtain ⟨touches, owned⟩ := not_or.mp idle
    obtain ⟨number, made⟩ := Option.ne_none_iff_exists'.mp owned
    have there := own.directory number made (by rw [sweeping]; decide)
    refine separate_moved _ _ drawn ended ?_ ⟨?_, by rw [gatherings]; exact separate.undisturbed.gatherings⟩
    · intro other member
      refine kept_frame root _ other (others other member) fun otherNumber otherMade standing => sweep_other _ _ _ _ _ ?_
      exact other_elsewhere root front back run other number root.next separate.drawn made member (others other member)
        run.wrote there otherNumber otherMade standing
    · rw [sweep_present root _ _ outcome _ there (by simpa using touches)]
      intro removal member
      rcases List.mem_append.mp member with old | new
      · exact separate.undisturbed.removals removal old
      · exact ⟨number, by rw [List.mem_singleton.mp new, made]⟩

end Moves

theorem act_separate (root next : WorkRoot) (front back : List SandboxRun) (run after : SandboxRun) (event : SandboxEvent)
    (separate : Separate ⟨root, front ++ run :: back⟩) (taken : Acted root run event next after)
    (sparing : ∀ outcome, event = .sweep outcome → outcome.touches = true → run.created = none →
      root.directories run.executionId = none) : Separate ⟨next, front ++ after :: back⟩ := by
  have own : Kept root run := separate.kept run (by simp)
  have others : ∀ other ∈ front ++ back, Kept root other := fun other member =>
    separate.kept other (mem_others front back run other member)
  cases taken with
  | moved event phase mount early inside standing mounts sweeps =>
      exact separate_moved _ _ (drawn_kept separate.drawn rfl)
        (kept_moved root run phase mount own early inside standing mounts) others separate.undisturbed
  | made making free => exact made_separate separate own others making free
  | started starting directory there => exact started_separate separate own others starting directory there
  | collected collecting => exact collected_separate separate own others collecting
  | wrote path content mounted mounts => exact wrote_separate separate own others path content mounted mounts
  | swept outcome sweeping => exact swept_separate separate own others outcome sweeping (sparing outcome rfl)

theorem act_disturbs (root next : WorkRoot) (run after : SandboxRun) (outcome : SweepOutcome)
    (taken : Acted root run (.sweep outcome) next after) (touches : outcome.touches = true) (bare : run.created = none)
    (there : root.directories run.executionId ≠ none) : ¬ Undisturbed next := by
  intro undisturbed
  cases taken with
  | moved event phase mount early inside standing mounts sweeps => exact sweeps outcome rfl
  | swept outcome sweeping =>
      obtain ⟨directory, present⟩ := Option.ne_none_iff_exists'.mp there
      have removal := undisturbed.removals ⟨run.created, directory.maker⟩ (by
        rw [sweep_present root _ _ outcome directory present touches]
        simp)
      obtain ⟨number, same⟩ := removal
      rw [bare] at same
      cases same

theorem step_separate (world next : SandboxWorld) (label : SandboxLabel) (separate : Separate world)
    (sparing : Sparing world label) (taken : world.step label = some next) : Separate next := by
  rcases world_step_cases world next label taken with
    ⟨nanoseconds, _, rfl⟩ | ⟨front, run, back, event, root, after, rfl, parties, acted, rfl⟩
  · refine ⟨drawn_entered _ _ separate.drawn rfl, ?_, separate.undisturbed⟩
    intro run member
    rcases List.mem_append.mp member with old | new
    · exact separate.kept run old
    · rw [List.mem_singleton.mp new]
      exact ⟨fun _ => ⟨rfl, rfl⟩, by simp [enter, SandboxPhase.inside], by simp [enter], by simp [enter]⟩
  · obtain ⟨shared, runs⟩ := world
    dsimp only at parties
    subst parties
    apply act_separate shared root front back run after event separate (act_acted _ _ _ _ _ _ acted)
    rintro outcome rfl touches bare
    exact sparing front.length outcome run rfl touches (by simp) bare

theorem step_disturbs (world next : SandboxWorld) (label : SandboxLabel) (spoils : ¬ Sparing world label)
    (taken : world.step label = some next) : ¬ Undisturbed next.shared := by
  simp only [Sparing, not_forall] at spoils
  obtain ⟨index, outcome, run, rfl, touches, found, bare, there⟩ := spoils
  rcases world_step_cases world next _ taken with
    ⟨_, other, _⟩ | ⟨front, before, back, event, root, after, same, parties, acted, rfl⟩
  · cases other
  · cases same
    rw [parties] at found
    obtain rfl : before = run := by simpa using found
    exact act_disturbs _ _ _ _ outcome (act_acted _ _ _ _ _ _ acted) touches bare there

theorem own_directories_iff (leftover : String → Option Contents) (labels : List SandboxLabel) (finish : SandboxWorld)
    (run : runFrom SandboxWorld.step ⟨WorkRoot.before leftover, []⟩ labels = some finish) :
    StepsMeet SandboxWorld.step Sparing ⟨WorkRoot.before leftover, []⟩ labels ↔
      ∀ front middle, front <+: labels → runFrom SandboxWorld.step ⟨WorkRoot.before leftover, []⟩ front = some middle →
        Undisturbed middle.shared :=
  states_good_iff Sparing Separate (fun world => Undisturbed world.shared) (fun _ separate => separate.undisturbed)
    (fun world label next separate sparing taken => step_separate world next label separate sparing taken)
    (fun world label next _ spoils taken => step_disturbs world next label spoils taken)
    _ finish labels (separate_before leftover) run

-- Two executions with one name: the second finds the directory there and sweeps it.
def collision : List SandboxLabel := [.call 7, .call 7, .act 0 .proceed, .act 0 .proceed, .act 1 .proceed, .act 1 .fail,
  .act 1 .proceed, .act 1 (.sweep .gone)]

theorem collision_sweeps_other : ¬ ∀ (leftover : String → Option Contents) (labels : List SandboxLabel) (finish : SandboxWorld),
    runFrom SandboxWorld.step ⟨WorkRoot.before leftover, []⟩ labels = some finish → Undisturbed finish.shared := by
  intro claimed
  have removals : (runFrom SandboxWorld.step ⟨WorkRoot.before fun _ => none, []⟩ collision).map
      (fun world => world.shared.removals) = some [⟨none, .run 0⟩] := by decide
  obtain ⟨finish, run, swept⟩ := Option.map_eq_some_iff.mp removals
  have undisturbed := claimed _ collision finish run
  obtain ⟨number, same⟩ := undisturbed.removals ⟨none, .run 0⟩ (by rw [swept]; simp)
  cases same

-- Two executions by turns: the second fails before its container is made and sweeps while
-- the first one's container is still writing.
def twoRuns : List SandboxLabel := [.call 7, .call 8, .act 0 .proceed, .act 1 .proceed, .act 0 .proceed, .act 1 .proceed,
  .act 0 .proceed, .act 1 .fail, .act 0 .proceed, .act 0 .proceed, .act 1 .proceed, .act 0 (.write "outputs/a.csv" (some [49])),
  .act 1 (.sweep .gone), .act 0 .proceed, .act 0 .proceed, .act 0 .proceed, .act 0 .proceed, .act 0 (.sweep .gone)]

theorem own_directories_sample :
    ∃ finish, runFrom SandboxWorld.step ⟨WorkRoot.before fun _ => none, []⟩ twoRuns = some finish ∧
      finish.shared.removals = [⟨some 1, .run 1⟩, ⟨some 0, .run 0⟩] ∧
      finish.shared.gatherings.map (fun gathering => gathering.found "outputs/a.csv") = [some [49]] ∧
      (StepsMeet SandboxWorld.step Sparing ⟨WorkRoot.before fun _ => none, []⟩ twoRuns ↔
        ∀ front middle, front <+: twoRuns →
          runFrom SandboxWorld.step ⟨WorkRoot.before fun _ => none, []⟩ front = some middle → Undisturbed middle.shared) :=
  ⟨_, rfl, by decide, by decide, own_directories_iff _ _ _ rfl⟩

end DataPilot.Sandbox
