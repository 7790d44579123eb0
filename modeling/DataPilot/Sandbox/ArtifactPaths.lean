import DataPilot.Base.PosixPath
import DataPilot.Base.Text

set_option autoImplicit false

namespace DataPilot.Sandbox

open DataPilot.Base

def allowedArtifactSuffixes : List String := [".csv", ".json", ".png"]

def allowedSuffix (path : PurePosixPath) : Bool := casefold path.suffix ∈ allowedArtifactSuffixes

-- The test that the three validators of artifact paths share. The parts are those
-- that each of them looks at.
def escapes (value : String) (parts : List String) : Bool :=
  decide ('\\' ∈ value.toList) || decide (':' ∈ value.toList) || (posixPath value).isAbsolute ||
    parts.any fun part => part ∈ ["", ".", ".."]

-- SandboxArtifact.path: the limits of the field, then validate_artifact_path.
def validateArtifactPath (value : String) : Except String String :=
  let path := posixPath value
  if escapes value path.parts then .error "Artifact path must be a safe relative path."
  else if allowedSuffix path = false then .error "Unsupported artifact type."
  else .ok path.asPosix

def artifactPathField (value : String) : Except String String :=
  if value = "" then .error "String should have at least 1 character"
  else if 240 < value.length then .error "String should have at most 240 characters"
  else validateArtifactPath value

def maxArtifactPathLength : Nat := 240

-- _safe_relative_path of the artifact store; a relative path is the list of its parts.
def safeRelativePath (value : String) : Except PyException (List String) :=
  let path := posixPath value
  if value = "" ∨ maxArtifactPathLength < value.length ∨ escapes value path.parts = true then
    .error ⟨"ValueError", s!"Invalid artifact path: {value}"⟩
  else if allowedSuffix path = false then .error ⟨"ValueError", s!"Unsupported artifact type: {value}"⟩
  else .ok path.parts

-- _safe_artifact_path of the executor. An empty path would be ".", which has no parts.
def safeArtifactPath (value : String) : Option String :=
  let path := posixPath value
  let parts := if path.parts.head? = some "outputs" then path.parts.tail else path.parts
  if escapes value parts || decide (parts = []) then none else some (joinSlash parts)

def InsideDirectory (directory target : List String) : Prop :=
  ∃ rest, rest ≠ [] ∧ target = directory ++ rest ∧ ∀ part ∈ rest, Plain part ∧ part ≠ ".."

-- No absolute, drive, backslash or ".." component, and at least one component.
structure Contained (path : String) : Prop where
  relative : (posixPath path).isAbsolute = false
  plain : ∀ part ∈ (posixPath path).parts, Plain part ∧ part ≠ ".."
  filled : (posixPath path).parts ≠ []
  backslash : '\\' ∉ path.toList
  drive : ':' ∉ path.toList

theorem escapes_false (value : String) (parts : List String) :
    escapes value parts = false ↔
      '\\' ∉ value.toList ∧ ':' ∉ value.toList ∧ (posixPath value).isAbsolute = false ∧ ∀ part ∈ parts, part ≠ "" ∧
        part ≠ "." ∧ part ≠ ".." := by
  rw [escapes, Bool.or_eq_false_iff, Bool.or_eq_false_iff, Bool.or_eq_false_iff, decide_eq_false_iff_not,
    decide_eq_false_iff_not, and_assoc, and_assoc, List.any_eq_false]
  simp

theorem relative_root (value : String) (relative : (posixPath value).isAbsolute = false) : (posixPath value).root = "" := by
  rw [PurePosixPath.isAbsolute, decide_eq_false_iff_not, not_not] at relative
  exact relative

theorem relative_parts (value : String) (relative : (posixPath value).isAbsolute = false) :
    (posixPath value).parts = (posixPath value).tail := by
  rw [PurePosixPath.parts, if_pos (relative_root value relative)]

theorem contained_join (value : String) (parts : List String) (filled : parts ≠ []) (inside : parts ⊆ (posixPath value).tail)
    (safe : escapes value parts = false) : Contained (joinSlash parts) ∧ posixPath (joinSlash parts) = ⟨"", parts⟩ := by
  obtain ⟨backslash, drive, _, dots⟩ := (escapes_false value parts).mp safe
  have plain : ∀ part ∈ parts, Plain part := fun part member => tail_plain value part (inside member)
  have whole := posix_join parts filled plain
  have letters : ∀ c, c ≠ '/' → c ∉ value.toList → c ∉ (joinSlash parts).toList := by
    intro c different absent member
    rcases mem_join parts c member with slash | ⟨part, here, letter⟩
    · exact different slash
    · exact absent (mem_split value part c (List.mem_of_mem_filter (inside here)) letter)
  have same : (posixPath (joinSlash parts)).parts = parts := by
    rw [whole, PurePosixPath.parts, if_pos rfl]
  refine ⟨⟨?_, ?_, ?_, letters '\\' (by decide) backslash, letters ':' (by decide) drive⟩, whole⟩
  · rw [whole]
    rfl
  · rw [same]
    exact fun part member => ⟨plain part member, (dots part member).2.2⟩
  · rw [same]
    exact filled

theorem validated_path (value output : String) (accepted : artifactPathField value = .ok output) :
    value ≠ "" ∧ value.length ≤ 240 ∧ escapes value (posixPath value).tail = false ∧
      (posixPath value).tail ≠ [] ∧ allowedSuffix (posixPath value) = true ∧ output = joinSlash (posixPath value).tail := by
  rw [artifactPathField] at accepted
  by_cases empty : value = ""
  · rw [if_pos empty] at accepted
    cases accepted
  · rw [if_neg empty] at accepted
    by_cases long : 240 < value.length
    · rw [if_pos long] at accepted
      cases accepted
    · rw [if_neg long, validateArtifactPath] at accepted
      by_cases away : escapes value (posixPath value).parts = true
      · rw [if_pos away] at accepted
        cases accepted
      · rw [if_neg away] at accepted
        have safe := Bool.eq_false_of_not_eq_true away
        have relative := ((escapes_false value _).mp safe).2.2.1
        rw [relative_parts value relative] at safe
        by_cases other : allowedSuffix (posixPath value) = false
        · rw [if_pos other] at accepted
          cases accepted
        · rw [if_neg other] at accepted
          have typed := Bool.eq_true_of_not_eq_false other
          have filled : (posixPath value).tail ≠ [] := by
            intro nothing
            rw [allowedSuffix, PurePosixPath.suffix, PurePosixPath.name, nothing] at typed
            revert typed
            decide
          refine ⟨empty, Nat.le_of_not_lt long, safe, filled, typed, ?_⟩
          rw [← Except.ok.inj accepted, PurePosixPath.asPosix, if_pos (relative_root value relative), if_neg filled]

theorem validated_path_taken (value output : String) (accepted : artifactPathField value = .ok output) :
    safeRelativePath output = .ok (posixPath value).tail ∧ joinSlash (posixPath value).tail = output ∧ Contained output := by
  obtain ⟨_, short, safe, some, typed, rfl⟩ := validated_path value output accepted
  obtain ⟨contained, whole⟩ := contained_join value (posixPath value).tail some (List.Subset.refl _) safe
  have fits := Nat.le_trans (posix_length value) short
  have same : (posixPath (joinSlash (posixPath value).tail)).parts = (posixPath value).tail := by
    rw [whole, PurePosixPath.parts, if_pos rfl]
  have free : escapes (joinSlash (posixPath value).tail) (posixPath (joinSlash (posixPath value).tail)).parts = false := by
    apply (escapes_false _ _).mpr ⟨contained.backslash, contained.drive, contained.relative, _⟩
    intro part member
    obtain ⟨plain, dots⟩ := contained.plain part member
    exact ⟨plain.filled, plain.moving, dots⟩
  have kept : allowedSuffix (posixPath (joinSlash (posixPath value).tail)) = true := by
    rw [whole]
    exact typed
  have filled : joinSlash (posixPath value).tail ≠ "" := by
    intro empty
    have nothing := contained.filled
    rw [empty] at nothing
    exact nothing (by decide)
  refine ⟨?_, rfl, contained⟩
  rw [safeRelativePath]
  rw [if_neg (by rw [free]; simp [filled, maxArtifactPathLength, fits]), if_neg (by simp [kept]), same]

-- target = batch_dir / str(artifact_id) / relative_path
def artifactTarget (batchDir : List String) (artifactId : String) (relativePath : List String) : List String :=
  batchDir ++ artifactId :: relativePath

theorem target_inside (batchDir : List String) (artifactId value output : String)
    (accepted : artifactPathField value = .ok output) :
    InsideDirectory (batchDir ++ [artifactId]) (artifactTarget batchDir artifactId (posixPath value).tail) := by
  obtain ⟨_, _, safe, some, _, _⟩ := validated_path value output accepted
  refine ⟨_, some, by simp [artifactTarget], fun part member => ⟨tail_plain value part member, ?_⟩⟩
  exact (((escapes_false value _).mp safe).2.2.2 part member).2.2

-- The parts of a path that the executor takes: all of them, or those after "outputs".
-- It writes them out as a path that has just these parts.
structure Taken (value path : String) (parts : List String) : Prop where
  chosen : parts = (posixPath value).tail ∨ parts = (posixPath value).tail.tail
  filled : parts ≠ []
  written : path = joinSlash parts
  read : posixPath path = ⟨"", parts⟩
  contained : Contained path

theorem safe_artifact_parts (value path : String) (safe : safeArtifactPath value = some path) :
    ∃ parts, Taken value path parts := by
  rw [safeArtifactPath] at safe
  generalize chosen : (if (posixPath value).parts.head? = some "outputs" then (posixPath value).parts.tail
    else (posixPath value).parts) = parts at safe
  by_cases away : (escapes value parts || decide (parts = [])) = true
  · rw [if_pos away] at safe
    cases safe
  · rw [if_neg away] at safe
    rw [Bool.not_eq_true, Bool.or_eq_false_iff, decide_eq_false_iff_not] at away
    obtain ⟨free, filled⟩ := away
    rw [relative_parts value ((escapes_false value _).mp free).2.2.1] at chosen
    have part : parts = (posixPath value).tail ∨ parts = (posixPath value).tail.tail := by
      by_cases outputs : (posixPath value).tail.head? = some "outputs"
      · rw [if_pos outputs] at chosen
        exact .inr chosen.symm
      · rw [if_neg outputs] at chosen
        exact .inl chosen.symm
    have inside : parts ⊆ (posixPath value).tail := by
      rcases part with rfl | rfl
      · exact List.Subset.refl _
      · exact fun part member => List.mem_of_mem_tail member
    obtain ⟨contained, read⟩ := contained_join value parts filled inside free
    cases safe
    exact ⟨parts, part, filled, rfl, read, contained⟩

theorem safe_path_suffix (value path : String) (safe : safeArtifactPath value = some path) :
    (posixPath path).suffix = (posixPath value).suffix := by
  obtain ⟨parts, taken⟩ := safe_artifact_parts value path safe
  rw [taken.read, PurePosixPath.suffix, PurePosixPath.suffix, PurePosixPath.name, PurePosixPath.name]
  rcases taken.chosen with rfl | tail
  · rfl
  · cases whole : (posixPath value).tail with
    | nil =>
        rw [whole] at tail
        exact absurd tail taken.filled
    | cons first rest =>
        rw [whole, List.tail_cons] at tail
        have filled := taken.filled
        rw [tail] at filled ⊢
        rw [List.getLast?_cons_of_ne_nil filled]

theorem safe_path_validated (value path output : String) (safe : safeArtifactPath value = some path)
    (accepted : artifactPathField path = .ok output) : output = path := by
  obtain ⟨parts, taken⟩ := safe_artifact_parts value path safe
  obtain ⟨_, _, _, _, _, written⟩ := validated_path path output accepted
  rw [written, taken.read, taken.written]

end DataPilot.Sandbox
