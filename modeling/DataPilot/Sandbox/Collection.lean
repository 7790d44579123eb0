import DataPilot.Base.Base64
import DataPilot.Sandbox.ArtifactPaths
import DataPilot.Sandbox.PostgresExecutor

set_option autoImplicit false

namespace DataPilot.Sandbox

open DataPilot.Base

-- What rglob yields below the output directory: a relative path, whether a file is
-- there (or a link to one), and what is_file, is_symlink, stat and read_bytes do.
structure Candidate where
  path : List String
  names : path ≠ [] ∧ ∀ part ∈ path, Plain part ∧ part ≠ ".."
  file : Bool
  blocked : Option PyException
  isSymlink : Bool
  size : Except PyException Nat
  content : Except PyException (List UInt8)

-- The walk in its order, each path once, and the OSError that may end it.
structure OutputTree where
  candidates : List Candidate
  ending : Option PyException
  distinct : (candidates.map Candidate.path).Nodup

-- What _collect_artifacts raises: two ValueErrors of its own, a ValidationError of
-- SandboxArtifact with fields and messages, or an OSError, at a path or of the walk.
inductive CollectError where
  | invalidPath (value : String)
  | limits
  | validation (errors : List (String × String))
  | system (path : String) (failure : PyException)
  | walk (failure : PyException)

structure SandboxArtifact where
  path : String
  mimeType : String
  size : Nat
  contentBase64 : String

def mimeTypeField (value : String) : Except String String :=
  if value = "" then .error "String should have at least 1 character"
  else if 128 < value.length then .error "String should have at most 128 characters"
  else .ok value

def sandboxArtifact (path mimeType : String) (content : List UInt8) : Except CollectError SandboxArtifact :=
  match artifactPathField path, mimeTypeField mimeType with
  | .ok path, .ok mimeType => .ok ⟨path, mimeType, content.length, String.ofList (b64encode content)⟩
  | .error message, .ok _ => .error (.validation [("path", message)])
  | .ok _, .error message => .error (.validation [("mime_type", message)])
  | .error first, .error second => .error (.validation [("path", first), ("mime_type", second)])

structure ArtifactLimits where
  maxFiles : Nat
  maxBytes : Nat

def Candidate.text (candidate : Candidate) : String := joinSlash candidate.path

def Candidate.allowed (candidate : Candidate) : Bool := allowedSuffix (posixPath candidate.text)

def Candidate.refused (candidate : Candidate) : Bool := (safeArtifactPath candidate.text).isNone

variable (guessType : String → Option String) (limits : ArtifactLimits)

def artifactMimeType (relativePath : String) : String := textOr (guessType relativePath) "application/octet-stream"

-- One round of the loop: nothing, or an artifact with the length of its content.
def collectOne (candidate : Candidate) (count total : Nat) : Except CollectError (Option (SandboxArtifact × Nat)) :=
  match candidate.blocked with
  | some failure => .error (.system candidate.text failure)
  | none =>
      if candidate.file = false ∨ candidate.isSymlink = true then .ok none
      else
        match safeArtifactPath candidate.text with
        | none => .error (.invalidPath candidate.text)
        | some relativePath =>
            if allowedSuffix (posixPath relativePath) = false then .ok none
            else
              match candidate.size with
              | .error failure => .error (.system candidate.text failure)
              | .ok size =>
                  if (limits.maxBytes : Int) - total < size then .error .limits
                  else
                    match candidate.content with
                    | .error failure => .error (.system candidate.text failure)
                    | .ok content =>
                        if limits.maxFiles ≤ count ∨ limits.maxBytes < total + content.length then .error .limits
                        else
                          (sandboxArtifact relativePath (artifactMimeType guessType relativePath) content).map
                            fun artifact => some (artifact, content.length)

def collectEach (ending : Option PyException) :
    List Candidate → List SandboxArtifact → Nat → Except CollectError (List SandboxArtifact)
  | [], artifacts, _ =>
      match ending with
      | none => .ok artifacts
      | some failure => .error (.walk failure)
  | candidate :: rest, artifacts, total =>
      match collectOne guessType limits candidate artifacts.length total with
      | .error error => .error error
      | .ok none => collectEach ending rest artifacts total
      | .ok (some (artifact, length)) => collectEach ending rest (artifacts ++ [artifact]) (total + length)

def collectArtifacts (tree : OutputTree) : Except CollectError (List SandboxArtifact) :=
  collectEach guessType limits tree.ending tree.candidates [] 0

-- The ExecutionResult of a Python execution; the SQL executors leave artifacts empty.
structure PythonResult extends ExecutionResult where
  artifacts : List SandboxArtifact := []

-- What is known of the container when the collection starts.
structure ContainerRun where
  stdout : String
  stderr : String
  truncated : Bool
  exitCode : Option Int
  timedOut : Bool

-- The end of _execute_sync; validationText is str of a ValidationError.
def executionResult (validationText : List (String × String) → String) (run : ContainerRun) :
    Except CollectError (List SandboxArtifact) → PythonResult
  | .ok artifacts =>
      { ok := !run.timedOut && decide (run.exitCode = some 0), stdout := run.stdout, stderr := run.stderr,
        truncated := run.truncated, exitCode := run.exitCode, timedOut := run.timedOut, artifacts := artifacts }
  | .error (.invalidPath value) => invalid s!"Invalid sandbox artifact path: {value}"
  | .error .limits => invalid "Sandbox artifacts exceed configured limits."
  | .error (.validation errors) => invalid (validationText errors)
  | .error (.system _ failure) => unavailable failure
  | .error (.walk failure) => unavailable failure
where
  invalid (text : String) : PythonResult :=
    { ok := false, stdout := run.stdout, stderr := s!"Artifact validation failed: {text}", truncated := run.truncated,
      exitCode := run.exitCode, timedOut := run.timedOut }
  unavailable (failure : PyException) : PythonResult :=
    { ok := false, stderr := s!"Sandbox artifact workspace is unavailable: {failure.text}" }

-- A file of another type, and one that is collected.
def Candidate.stray (candidate : Candidate) : Bool := candidate.file && !candidate.allowed

def Candidate.kept (candidate : Candidate) : Bool := candidate.file && !candidate.isSymlink && candidate.allowed

def withoutStrays (tree : OutputTree) : OutputTree where
  candidates := tree.candidates.filter fun candidate => !candidate.stray
  ending := tree.ending
  distinct := tree.distinct.sublist (List.filter_sublist.map Candidate.path)

-- A stray file at which the loop raises: it cannot be examined, or it is no link and
-- its path is refused.
def Candidate.disturbs (candidate : Candidate) : Prop :=
  candidate.stray = true ∧ (candidate.blocked.isSome = true ∨ (candidate.isSymlink = false ∧ candidate.refused = true))

def Candidate.contentLength (candidate : Candidate) : Nat :=
  match candidate.content with
  | .ok content => content.length
  | .error _ => 0

def totalBytes (before : List Candidate) : Nat := (before.map Candidate.contentLength).sum

-- Why the loop raises at a file that it would collect, with the files before it.
inductive Fails (before : List Candidate) (candidate : Candidate) : Prop where
  | refused (refused : safeArtifactPath candidate.text = none)
  | unmeasured (failure : PyException) (size : candidate.size = .error failure)
  | large (size : Nat) (measured : candidate.size = .ok size) (exceeds : limits.maxBytes < totalBytes before + size)
  | unread (failure : PyException) (content : candidate.content = .error failure)
  | files (full : limits.maxFiles ≤ before.length)
  | bytes (exceeds : limits.maxBytes < totalBytes before + candidate.contentLength)
  | path (relativePath message : String) (safe : safeArtifactPath candidate.text = some relativePath)
      (wrong : artifactPathField relativePath = .error message)
  | mimeType (relativePath message : String) (safe : safeArtifactPath candidate.text = some relativePath)
      (wrong : mimeTypeField (artifactMimeType guessType relativePath) = .error message)

def Stops (before : List Candidate) (candidate : Candidate) : Prop :=
  candidate.stray = false ∧ (candidate.blocked.isSome = true ∨ (candidate.kept = true ∧ Fails guessType limits before candidate))

-- Every file that would disturb comes after one that ends the collection anyway.
def Sheltered (before tree : List Candidate) : Prop :=
  ∀ front candidate back, tree = front ++ candidate :: back → candidate.disturbs →
    ∃ start earlier between, front = start ++ earlier :: between ∧
      Stops guessType limits (before ++ start.filter Candidate.kept) earlier

theorem sheltered_nil (before : List Candidate) : Sheltered guessType limits before [] := by
  intro front candidate back split
  cases front <;> cases split

theorem sheltered_stop (before rest : List Candidate) (candidate : Candidate)
    (stops : Stops guessType limits before candidate) : Sheltered guessType limits before (candidate :: rest) := by
  intro front other back split disturbs
  cases front with
  | nil =>
      cases split
      exact absurd (stops.1.symm.trans disturbs.1) Bool.false_ne_true
  | cons first others =>
      cases split
      exact ⟨[], candidate, others, rfl, by simpa using stops⟩

theorem sheltered_disturbed (before rest : List Candidate) (candidate : Candidate) (disturbs : candidate.disturbs) :
    ¬ Sheltered guessType limits before (candidate :: rest) := by
  intro sheltered
  obtain ⟨start, _, _, none, _⟩ := sheltered [] candidate rest rfl disturbs
  cases start <;> cases none

theorem sheltered_cons (before rest : List Candidate) (candidate : Candidate) (quiet : ¬ candidate.disturbs)
    (passes : ¬ Stops guessType limits before candidate) :
    Sheltered guessType limits before (candidate :: rest) ↔
      Sheltered guessType limits (before ++ [candidate].filter Candidate.kept) rest := by
  constructor
  · intro sheltered front other back split disturbs
    obtain ⟨start, earlier, between, found, stops⟩ :=
      sheltered (candidate :: front) other back (by rw [split]; rfl) disturbs
    cases start with
    | nil =>
        cases found
        exact absurd (by simpa using stops) passes
    | cons first others =>
        cases found
        refine ⟨others, earlier, between, rfl, ?_⟩
        rwa [List.append_assoc, ← List.filter_append]
  · intro sheltered front other back split disturbs
    cases front with
    | nil =>
        cases split
        exact absurd disturbs quiet
    | cons first others =>
        cases split
        obtain ⟨start, earlier, between, rfl, stops⟩ := sheltered others other back rfl disturbs
        refine ⟨candidate :: start, earlier, between, rfl, ?_⟩
        rwa [List.append_assoc, ← List.filter_append] at stops

def CollectError.path : CollectError → Option String
  | .invalidPath value => some value
  | .system path _ => some path
  | .limits => none
  | .validation _ => none
  | .walk _ => none

theorem sandbox_artifact_error (path mimeType : String) (content : List UInt8) (error : CollectError)
    (failed : sandboxArtifact path mimeType content = .error error) :
    error.path = none ∧ ((∃ message, artifactPathField path = .error message) ∨
      ∃ message, mimeTypeField mimeType = .error message) := by
  rw [sandboxArtifact] at failed
  cases first : artifactPathField path with
  | error message =>
      rw [first] at failed
      refine ⟨?_, .inl ⟨message, rfl⟩⟩
      cases second : mimeTypeField mimeType <;> rw [second] at failed <;> cases failed <;> rfl
  | ok value =>
      rw [first] at failed
      cases second : mimeTypeField mimeType with
      | ok other =>
          rw [second] at failed
          cases failed
      | error message =>
          rw [second] at failed
          cases failed
          exact ⟨rfl, .inr ⟨message, rfl⟩⟩

theorem sandbox_artifact_ok (path mimeType : String) (content : List UInt8) (artifact : SandboxArtifact)
    (built : sandboxArtifact path mimeType content = .ok artifact) :
    artifactPathField path = .ok artifact.path ∧ mimeTypeField mimeType = .ok artifact.mimeType ∧
      artifact.size = content.length ∧ artifact.contentBase64 = String.ofList (b64encode content) := by
  rw [sandboxArtifact] at built
  cases first : artifactPathField path with
  | error message =>
      rw [first] at built
      cases second : mimeTypeField mimeType <;> rw [second] at built <;> cases built
  | ok value =>
      rw [first] at built
      cases second : mimeTypeField mimeType with
      | error message =>
          rw [second] at built
          cases built
      | ok other =>
          rw [second] at built
          cases built
          exact ⟨rfl, rfl, rfl, rfl⟩

section Round

variable (candidate : Candidate) (count total : Nat)

theorem collect_blocked (failure : PyException) (blocked : candidate.blocked = some failure) :
    collectOne guessType limits candidate count total = .error (.system candidate.text failure) := by
  rw [collectOne, blocked]

theorem collect_other (free : candidate.blocked = none) (other : candidate.file = false ∨ candidate.isSymlink = true) :
    collectOne guessType limits candidate count total = .ok none := by
  rw [collectOne, free]
  exact if_pos other

theorem collect_refused (free : candidate.blocked = none) (file : candidate.file = true)
    (own : candidate.isSymlink = false) (refused : candidate.refused = true) :
    collectOne guessType limits candidate count total = .error (.invalidPath candidate.text) := by
  rw [Candidate.refused, Option.isNone_iff_eq_none] at refused
  rw [collectOne, free, refused]
  exact if_neg (by simp [file, own])

theorem collect_different (free : candidate.blocked = none) (taken : candidate.refused = false)
    (different : candidate.allowed = false) : collectOne guessType limits candidate count total = .ok none := by
  by_cases other : candidate.file = false ∨ candidate.isSymlink = true
  · exact collect_other guessType limits candidate count total free other
  · rw [collectOne, free]
    dsimp only
    rw [if_neg other]
    rw [Candidate.refused] at taken
    cases safe : safeArtifactPath candidate.text with
    | none =>
        rw [safe] at taken
        cases taken
    | some relativePath =>
        rw [Candidate.allowed, allowedSuffix, ← safe_path_suffix candidate.text relativePath safe] at different
        exact if_pos different

theorem collect_stray (stray : candidate.stray = true) :
    (candidate.disturbs ∧ ∃ error, collectOne guessType limits candidate count total = .error error ∧
        error.path = some candidate.text) ∨
      (¬ candidate.disturbs ∧ collectOne guessType limits candidate count total = .ok none) := by
  obtain ⟨file, different⟩ := Bool.and_eq_true_iff.mp stray
  rw [Bool.not_eq_true'] at different
  cases blocked : candidate.blocked with
  | some failure =>
      left
      exact ⟨⟨stray, .inl (by rw [blocked]; rfl)⟩, _, collect_blocked guessType limits candidate count total failure blocked,
        rfl⟩
  | none =>
      cases link : candidate.isSymlink with
      | true =>
          right
          refine ⟨?_, collect_other guessType limits candidate count total blocked (.inr link)⟩
          rintro ⟨_, held | ⟨own, _⟩⟩
          · rw [blocked] at held
            cases held
          · rw [link] at own
            cases own
      | false =>
          cases refused : candidate.refused with
          | true =>
              left
              exact ⟨⟨stray, .inr ⟨link, refused⟩⟩, _,
                collect_refused guessType limits candidate count total blocked file link refused, rfl⟩
          | false =>
              right
              refine ⟨?_, collect_different guessType limits candidate count total blocked refused different⟩
              rintro ⟨_, held | ⟨_, wrong⟩⟩
              · rw [blocked] at held
                cases held
              · rw [refused] at wrong
                cases wrong

end Round

-- The collected files before a candidate, seen from the loop.
structure Collected (before : List Candidate) (artifacts : List SandboxArtifact) (total : Nat) : Prop where
  count : artifacts.length = before.length
  total : total = totalBytes before

theorem collect_kept (candidate : Candidate) (before : List Candidate) (artifacts : List SandboxArtifact) (total : Nat)
    (collected : Collected before artifacts total) (free : candidate.blocked = none) (kept : candidate.kept = true) :
    (Fails guessType limits before candidate ∧
        ∃ error, collectOne guessType limits candidate artifacts.length total = .error error) ∨
      (¬ Fails guessType limits before candidate ∧ ∃ artifact,
        collectOne guessType limits candidate artifacts.length total = .ok (some (artifact, candidate.contentLength))) := by
  obtain ⟨regular, allowed⟩ := Bool.and_eq_true_iff.mp kept
  obtain ⟨file, own⟩ := Bool.and_eq_true_iff.mp regular
  rw [Bool.not_eq_true'] at own
  rw [collectOne, free]
  dsimp only
  rw [if_neg (by simp [file, own]), collected.total, collected.count]
  cases safe : safeArtifactPath candidate.text with
  | none => exact .inl ⟨.refused safe, _, rfl⟩
  | some relativePath =>
      have typed : allowedSuffix (posixPath relativePath) = true := by
        rw [allowedSuffix, safe_path_suffix candidate.text relativePath safe]
        exact allowed
      dsimp only
      rw [if_neg (by simp [typed])]
      cases measured : candidate.size with
      | error failure => exact .inl ⟨.unmeasured failure measured, _, rfl⟩
      | ok size =>
          dsimp only
          by_cases large : (limits.maxBytes : Int) - totalBytes before < size
          · rw [if_pos large]
            exact .inl ⟨.large size measured (by omega), _, rfl⟩
          · rw [if_neg large]
            cases read : candidate.content with
            | error failure => exact .inl ⟨.unread failure read, _, rfl⟩
            | ok content =>
                have length : candidate.contentLength = content.length := by rw [Candidate.contentLength, read]
                dsimp only
                by_cases full : limits.maxFiles ≤ before.length ∨ limits.maxBytes < totalBytes before + content.length
                · rw [if_pos full]
                  refine .inl ⟨?_, _, rfl⟩
                  rcases full with files | bytes
                  · exact .files files
                  · exact .bytes (by rw [length]; exact bytes)
                · rw [if_neg full]
                  cases built : sandboxArtifact relativePath (artifactMimeType guessType relativePath) content with
                  | error error =>
                      refine .inl ⟨?_, _, rfl⟩
                      rcases (sandbox_artifact_error _ _ _ _ built).2 with ⟨message, wrong⟩ | ⟨message, wrong⟩
                      · exact .path relativePath message safe wrong
                      · exact .mimeType relativePath message safe wrong
                  | ok artifact =>
                      obtain ⟨path, mimeType, _, _⟩ := sandbox_artifact_ok _ _ _ _ built
                      refine .inr ⟨?_, artifact, by rw [length]; rfl⟩
                      intro fails
                      cases fails with
                      | refused refused =>
                          rw [safe] at refused
                          cases refused
                      | unmeasured failure size =>
                          rw [measured] at size
                          cases size
                      | large other measure exceeds =>
                          rw [measured] at measure
                          cases measure
                          omega
                      | unread failure content =>
                          rw [read] at content
                          cases content
                      | files files => exact full (.inl files)
                      | bytes exceeds => exact full (.inr (by rwa [length] at exceeds))
                      | path other message same wrong =>
                          rw [safe] at same
                          cases same
                          rw [path] at wrong
                          cases wrong
                      | mimeType other message same wrong =>
                          rw [safe] at same
                          cases same
                          rw [mimeType] at wrong
                          cases wrong

theorem collect_one_cases (candidate : Candidate) (count total : Nat) :
    (∃ error, collectOne guessType limits candidate count total = .error error ∧
        (error.path = none ∨ error.path = some candidate.text)) ∨
      collectOne guessType limits candidate count total = .ok none ∨
      ∃ relativePath content artifact, safeArtifactPath candidate.text = some relativePath ∧
        sandboxArtifact relativePath (artifactMimeType guessType relativePath) content = .ok artifact ∧
        collectOne guessType limits candidate count total = .ok (some (artifact, content.length)) := by
  rw [collectOne]
  cases blocked : candidate.blocked with
  | some failure => exact .inl ⟨_, rfl, .inr rfl⟩
  | none =>
      dsimp only
      by_cases other : candidate.file = false ∨ candidate.isSymlink = true
      · rw [if_pos other]
        exact .inr (.inl rfl)
      · rw [if_neg other]
        cases safe : safeArtifactPath candidate.text with
        | none => exact .inl ⟨_, rfl, .inr rfl⟩
        | some relativePath =>
            dsimp only
            by_cases different : allowedSuffix (posixPath relativePath) = false
            · rw [if_pos different]
              exact .inr (.inl rfl)
            · rw [if_neg different]
              cases measured : candidate.size with
              | error failure => exact .inl ⟨_, rfl, .inr rfl⟩
              | ok size =>
                  dsimp only
                  by_cases large : (limits.maxBytes : Int) - total < size
                  · rw [if_pos large]
                    exact .inl ⟨_, rfl, .inl rfl⟩
                  · rw [if_neg large]
                    cases read : candidate.content with
                    | error failure => exact .inl ⟨_, rfl, .inr rfl⟩
                    | ok content =>
                        dsimp only
                        by_cases full : limits.maxFiles ≤ count ∨ limits.maxBytes < total + content.length
                        · rw [if_pos full]
                          exact .inl ⟨_, rfl, .inl rfl⟩
                        · rw [if_neg full]
                          cases built : sandboxArtifact relativePath (artifactMimeType guessType relativePath) content with
                          | error error => exact .inl ⟨_, rfl, .inl (sandbox_artifact_error _ _ _ _ built).1⟩
                          | ok artifact => exact .inr (.inr ⟨relativePath, content, artifact, rfl, built, rfl⟩)

theorem collect_each_path (ending : Option PyException) (rest : List Candidate) (artifacts : List SandboxArtifact)
    (total : Nat) (error : CollectError) (failed : collectEach guessType limits ending rest artifacts total = .error error) :
    error.path = none ∨ ∃ candidate ∈ rest, error.path = some candidate.text := by
  induction rest generalizing artifacts total with
  | nil =>
      cases ending with
      | none => cases failed
      | some failure =>
          cases failed
          exact .inl rfl
  | cons candidate rest ih =>
      rw [collectEach] at failed
      have later : ∀ artifacts total, collectEach guessType limits ending rest artifacts total = .error error →
          error.path = none ∨ ∃ other ∈ candidate :: rest, error.path = some other.text := by
        intro artifacts total failed
        rcases ih artifacts total failed with none | ⟨other, inside, named⟩
        · exact .inl none
        · exact .inr ⟨other, List.mem_cons_of_mem _ inside, named⟩
      cases round : collectOne guessType limits candidate artifacts.length total with
      | error other =>
          rw [round] at failed
          cases failed
          rcases collect_one_cases guessType limits candidate artifacts.length total with
            ⟨_, raised, none | named⟩ | skipped | ⟨_, _, _, _, _, taken⟩
          · exact .inl (Except.error.inj (round.symm.trans raised) ▸ none)
          · exact .inr ⟨candidate, List.mem_cons_self .., Except.error.inj (round.symm.trans raised) ▸ named⟩
          · cases round.symm.trans skipped
          · cases round.symm.trans taken
      | ok found =>
          rw [round] at failed
          cases found with
          | none => exact later _ _ failed
          | some pair => exact later _ _ failed

theorem candidate_text_injective (one other : Candidate) (same : one.text = other.text) : one.path = other.path := by
  rw [← split_join one.path one.names.1 fun part member => (one.names.2 part member).1.solid,
    ← split_join other.path other.names.1 fun part member => (other.names.2 part member).1.solid]
  exact congrArg splitSlash same

-- The two runs of the loop, from the same place, agree exactly when the rest is
-- sheltered. The files collected before are those of the part already walked.
theorem collect_each_agrees (ending : Option PyException) (rest before : List Candidate) (artifacts : List SandboxArtifact)
    (total : Nat) (distinct : (rest.map Candidate.path).Nodup) (collected : Collected before artifacts total) :
    collectEach guessType limits ending rest artifacts total =
        collectEach guessType limits ending (rest.filter fun candidate => !candidate.stray) artifacts total ↔
      Sheltered guessType limits before rest := by
  induction rest generalizing before artifacts total with
  | nil => exact iff_of_true rfl (sheltered_nil guessType limits before)
  | cons candidate rest ih =>
      obtain ⟨fresh, later⟩ := List.nodup_cons.mp distinct
      cases stray : candidate.stray with
      | true =>
          rw [List.filter_cons_of_neg (by simp [stray]), collectEach]
          rcases collect_stray guessType limits candidate artifacts.length total stray with
            ⟨disturbs, error, failed, named⟩ | ⟨quiet, skipped⟩
          · -- The filtered run has no candidate of that path to name.
            rw [failed]
            refine iff_of_false ?_ (sheltered_disturbed guessType limits before rest candidate disturbs)
            intro same
            rcases collect_each_path guessType limits ending _ artifacts total error same.symm with none | ⟨other, inside, also⟩
            · rw [named] at none
              cases none
            · rw [named] at also
              have path := candidate_text_injective candidate other (Option.some.inj also)
              exact fresh (path ▸ List.mem_map_of_mem (List.mem_of_mem_filter inside))
          · have passes : ¬ Stops guessType limits before candidate := fun stops =>
              absurd (stops.1.symm.trans stray) Bool.false_ne_true
            have ignored : [candidate].filter Candidate.kept = [] := by
              obtain ⟨_, different⟩ := Bool.and_eq_true_iff.mp stray
              rw [Bool.not_eq_true'] at different
              simp [Candidate.kept, different]
            rw [skipped, sheltered_cons guessType limits before rest candidate quiet passes, ignored, List.append_nil]
            exact ih before artifacts total later collected
      | false =>
          rw [List.filter_cons_of_pos (by simp [stray]), collectEach, collectEach]
          have quiet : ¬ candidate.disturbs := fun disturbs => absurd (stray.symm.trans disturbs.1) Bool.false_ne_true
          cases blocked : candidate.blocked with
          | some failure =>
              rw [collect_blocked guessType limits candidate artifacts.length total failure blocked]
              exact iff_of_true rfl (sheltered_stop guessType limits before rest candidate
                ⟨stray, .inl (by rw [blocked]; rfl)⟩)
          | none =>
              cases kept : candidate.kept with
              | true =>
                  rcases collect_kept guessType limits candidate before artifacts total collected blocked kept with
                    ⟨fails, error, failed⟩ | ⟨passes, artifact, taken⟩
                  · rw [failed]
                    exact iff_of_true rfl (sheltered_stop guessType limits before rest candidate ⟨stray, .inr ⟨kept, fails⟩⟩)
                  · have through : ¬ Stops guessType limits before candidate := by
                      rintro ⟨_, held | ⟨_, fails⟩⟩
                      · rw [blocked] at held
                        cases held
                      · exact passes fails
                    rw [taken, sheltered_cons guessType limits before rest candidate quiet through,
                      List.filter_cons_of_pos kept, List.filter_nil]
                    refine ih _ _ _ later ⟨?_, ?_⟩
                    · rw [List.length_append, List.length_append, collected.count]
                      rfl
                    · rw [collected.total, totalBytes, totalBytes, List.map_append, List.sum_append]
                      rfl
              | false =>
                  have other : candidate.file = false ∨ candidate.isSymlink = true := by
                    rw [Candidate.kept] at kept
                    rw [Candidate.stray] at stray
                    revert kept stray
                    cases candidate.file <;> cases candidate.isSymlink <;> cases candidate.allowed <;> simp
                  have through : ¬ Stops guessType limits before candidate := by
                    rintro ⟨_, held | ⟨taken, _⟩⟩
                    · rw [blocked] at held
                      cases held
                    · rw [kept] at taken
                      cases taken
                  rw [collect_other guessType limits candidate artifacts.length total blocked other,
                    sheltered_cons guessType limits before rest candidate quiet through,
                    List.filter_cons_of_neg (by simp [kept]), List.filter_nil, List.append_nil]
                  exact ih before artifacts total later collected

theorem refused_iff (candidate : Candidate) :
    candidate.refused = true ↔ '\\' ∈ candidate.text.toList ∨ ':' ∈ candidate.text.toList ∨ candidate.path = ["outputs"] := by
  obtain ⟨filled, plain⟩ := candidate.names
  have read := posix_join candidate.path filled fun part member => (plain part member).1
  have relative : (posixPath candidate.text).isAbsolute = false := by
    rw [Candidate.text, read]
    rfl
  have parts : (posixPath candidate.text).parts = candidate.path := by
    rw [relative_parts candidate.text relative, Candidate.text, read]
  rw [Candidate.refused, safeArtifactPath, parts, Option.isNone_iff_eq_none]
  generalize chosen : (if candidate.path.head? = some "outputs" then candidate.path.tail else candidate.path) = rest
  have bare : rest = [] ↔ candidate.path = ["outputs"] := by
    rw [← chosen]
    cases path : candidate.path with
    | nil => exact absurd path filled
    | cons first others => by_cases outputs : first = "outputs" <;> simp [outputs]
  have inside : ∀ part ∈ rest, part ∈ candidate.path := by
    rw [← chosen]
    split_ifs
    · exact fun part member => List.mem_of_mem_tail member
    · exact fun part member => member
  by_cases away : (escapes candidate.text rest || decide (rest = [])) = true
  · rw [if_pos away]
    refine iff_of_true rfl ?_
    rw [← bare]
    by_contra clean
    rw [not_or, not_or] at clean
    have free : escapes candidate.text rest = false := by
      refine (escapes_false _ _).mpr ⟨clean.1, clean.2.1, relative, fun part member => ?_⟩
      obtain ⟨solid, dots⟩ := plain part (inside part member)
      exact ⟨solid.filled, solid.moving, dots⟩
    rw [free, decide_eq_false clean.2.2] at away
    cases away
  · rw [if_neg away]
    rw [Bool.not_eq_true, Bool.or_eq_false_iff, decide_eq_false_iff_not] at away
    obtain ⟨backslash, drive, _⟩ := (escapes_false _ _).mp away.1
    refine iff_of_false (by simp) ?_
    rw [← bare]
    rintro (wrong | wrong | wrong)
    · exact backslash wrong
    · exact drive wrong
    · exact away.2 wrong

theorem strays_ignored_iff (tree : OutputTree) :
    (collectArtifacts guessType limits tree = collectArtifacts guessType limits (withoutStrays tree) ∧
        ∀ validationText run,
          (executionResult validationText run (collectArtifacts guessType limits (withoutStrays tree))).ok = true →
            (executionResult validationText run (collectArtifacts guessType limits tree)).ok = true) ↔
      Sheltered guessType limits [] tree.candidates := by
  have agrees := collect_each_agrees guessType limits tree.ending tree.candidates [] [] 0 tree.distinct ⟨rfl, rfl⟩
  constructor
  · intro ignored
    exact agrees.mp ignored.1
  · intro sheltered
    have same := agrees.mpr sheltered
    refine ⟨same, fun validationText run succeeded => ?_⟩
    rw [collectArtifacts, same]
    exact succeeded

def sampleFile (name : String) (plain : Plain name ∧ name ≠ "..") (content : List UInt8) : Candidate where
  path := [name]
  names := ⟨List.cons_ne_nil name [], by simpa using plain⟩
  file := true
  blocked := none
  isSymlink := false
  size := .ok content.length
  content := .ok content

def sampleTree : OutputTree where
  candidates :=
    [sampleFile "result.csv" ⟨⟨by decide, by decide, by decide⟩, by decide⟩ [52, 50],
      sampleFile "run-12:30.log" ⟨⟨by decide, by decide, by decide⟩, by decide⟩ [111, 107]]
  ending := none
  distinct := by decide

theorem stray_name_fails_execution :
    ¬ ∀ guessType limits tree,
      collectArtifacts guessType limits tree = collectArtifacts guessType limits (withoutStrays tree) ∧
        ∀ validationText run,
          (executionResult validationText run (collectArtifacts guessType limits (withoutStrays tree))).ok = true →
            (executionResult validationText run (collectArtifacts guessType limits tree)).ok = true := by
  intro always
  have kept := (always (fun _ => some "text/csv") ⟨20, 1024⟩ sampleTree).2 (fun _ => "") ⟨"42\n", "", false, some 0, false⟩
    (by decide)
  revert kept
  decide

-- What the executor promises of an artifact that it hands on.
structure HandedOn (artifact : SandboxArtifact) : Prop where
  path : artifactPathField artifact.path = .ok artifact.path
  contained : Contained artifact.path
  content : ∃ content, artifact.size = content.length ∧ artifact.contentBase64 = String.ofList (b64encode content)

theorem collect_one_artifact (candidate : Candidate) (count total length : Nat) (artifact : SandboxArtifact)
    (round : collectOne guessType limits candidate count total = .ok (some (artifact, length))) : HandedOn artifact := by
  rcases collect_one_cases guessType limits candidate count total with
    ⟨_, raised, _⟩ | skipped | ⟨relativePath, content, found, safe, built, taken⟩
  · cases round.symm.trans raised
  · cases round.symm.trans skipped
  · cases round.symm.trans taken
    obtain ⟨accepted, _, size, encoded⟩ := sandbox_artifact_ok _ _ _ _ built
    have same := safe_path_validated _ _ _ safe accepted
    refine ⟨?_, ?_, content, size, encoded⟩
    · rw [same, accepted, same]
    · obtain ⟨_, taken⟩ := safe_artifact_parts candidate.text relativePath safe
      rw [same]
      exact taken.contained

theorem collect_each_artifacts (ending : Option PyException) (rest : List Candidate) (artifacts result : List SandboxArtifact)
    (total : Nat) (collected : collectEach guessType limits ending rest artifacts total = .ok result)
    (before : ∀ artifact ∈ artifacts, HandedOn artifact) : ∀ artifact ∈ result, HandedOn artifact := by
  induction rest generalizing artifacts total with
  | nil =>
      cases ending with
      | some failure => cases collected
      | none =>
          cases collected
          exact before
  | cons candidate rest ih =>
      rw [collectEach] at collected
      cases round : collectOne guessType limits candidate artifacts.length total with
      | error error =>
          rw [round] at collected
          cases collected
      | ok found =>
          rw [round] at collected
          cases found with
          | none => exact ih artifacts total collected before
          | some pair =>
              refine ih _ _ collected ?_
              rw [List.forall_mem_append, List.forall_mem_singleton]
              exact ⟨before, collect_one_artifact guessType limits candidate _ _ _ _ round⟩

theorem collected_handed_on (tree : OutputTree) (artifacts : List SandboxArtifact)
    (collected : collectArtifacts guessType limits tree = .ok artifacts) : ∀ artifact ∈ artifacts, HandedOn artifact :=
  collect_each_artifacts guessType limits tree.ending tree.candidates [] artifacts 0 collected fun _ none => by cases none

theorem artifact_paths_contained :
    (∀ value output, artifactPathField value = .ok output →
        ∃ relativePath, safeRelativePath output = .ok relativePath ∧ joinSlash relativePath = output ∧
          ∀ batchDir artifactId,
            InsideDirectory (batchDir ++ [artifactId]) (artifactTarget batchDir artifactId relativePath)) ∧
      ∀ tree artifacts, collectArtifacts guessType limits tree = .ok artifacts → ∀ artifact ∈ artifacts,
        artifactPathField artifact.path = .ok artifact.path ∧ Contained artifact.path := by
  constructor
  · intro value output accepted
    obtain ⟨taken, written, _⟩ := validated_path_taken value output accepted
    exact ⟨_, taken, written, fun batchDir artifactId => target_inside batchDir artifactId value output accepted⟩
  · intro tree artifacts collected artifact member
    have handed := collected_handed_on guessType limits tree artifacts collected artifact member
    exact ⟨handed.path, handed.contained⟩

theorem repeated_slash_contained :
    artifactPathField "plots//a.csv" = .ok "plots/a.csv" ∧
      (∃ relativePath, safeRelativePath "plots/a.csv" = .ok relativePath ∧ joinSlash relativePath = "plots/a.csv" ∧
        ∀ batchDir artifactId, InsideDirectory (batchDir ++ [artifactId]) (artifactTarget batchDir artifactId relativePath)) ∧
      ∃ artifacts, collectArtifacts (fun _ => some "text/csv") ⟨20, 1024⟩ (withoutStrays sampleTree) = .ok artifacts ∧
        ∀ artifact ∈ artifacts, artifactPathField artifact.path = .ok artifact.path ∧ Contained artifact.path := by
  have paths := artifact_paths_contained (fun _ => some "text/csv") ⟨20, 1024⟩
  have accepted : artifactPathField "plots//a.csv" = .ok "plots/a.csv" := by rfl
  exact ⟨accepted, paths.1 _ _ accepted, _, rfl, paths.2 (withoutStrays sampleTree) _ rfl⟩

end DataPilot.Sandbox
