import DataPilot.Base.Logged
import DataPilot.Sandbox.Collection

set_option autoImplicit false

namespace DataPilot.Sandbox

open DataPilot.Base

-- What _execute_sync asks of Docker and of the artifact work root.
inductive DockerCall where
  | imagesGet
  | mkdir
  | chmod
  | create
  | start
  | wait
  | kill
  | waitKilled
  | logs (stderr : Bool)
  | remove
  | rmtree
deriving DecidableEq

-- The calls made, and whether each has returned.
abbrev Calls := Logged (DockerCall × Bool)

-- How each call would end; wait comes with the StatusCode that int has read.
structure DockerAnswers where
  imagesGet : Except PyException Unit
  mkdir : Except PyException Unit
  chmod : Except PyException Unit
  create : Except PyException Unit
  start : Except PyException Unit
  wait : Except PyException Int
  kill : Except PyException Unit
  waitKilled : Except PyException Unit
  logs : Bool → Except PyException (List UInt8)
  outputs : OutputTree
  remove : Except PyException Unit

-- The classes that the except clauses name: ImageNotFound, DockerException, the Timeout
-- and ConnectionError of requests, and OSError. An exception may be of several.
structure ExceptionClasses where
  imageNotFound : PyException → Bool
  docker : PyException → Bool
  network : PyException → Bool
  system : PyException → Bool

-- The settings of an execution: the image, {effective_timeout:g}, the output limit, and what
-- decoding with errors="replace", guess_type and str of a ValidationError give.
structure Execution where
  image : String
  timeoutText : String
  outputLimitBytes : Nat
  decode : List UInt8 → String
  guessType : String → Option String
  limits : ArtifactLimits
  validationText : List (String × String) → String

def asked {α : Type} (call : DockerCall) : Except PyException α → Calls α
  | .ok value => ⟨[(call, true)], .ok value⟩
  | .error failure => ⟨[(call, false)], .error (.exception failure)⟩

def sandboxUnavailable (text : String) : PyException := ⟨"SandboxUnavailableError", text⟩

variable (classes : ExceptionClasses) (execution : Execution) (answers : DockerAnswers)

def unavailableImage (failure : PyException) : Option (Calls Unit) :=
  if classes.imageNotFound failure then
    some (.raising (.exception (sandboxUnavailable
      ("Sandbox image is not available: " ++ execution.image ++
        ". Run `docker compose --profile sandbox build sandbox`."))))
  else if classes.docker failure then some (.raising (.exception (sandboxUnavailable "Docker daemon is not available.")))
  else none

def checkImage : Calls Unit := (asked .imagesGet answers.imagesGet).catching (unavailableImage classes execution)

def caught {α : Type} (value : α) (failure : PyException) : Option (Calls α) :=
  if classes.network failure || classes.docker failure then some (.returning value) else none

def killQuietly : Calls Unit :=
  ((asked .kill answers.kill).andThen fun _ => asked .waitKilled answers.waitKilled).catching (caught classes ())

-- The exit code, or none after a timeout or an error of Docker.
def waitExit : Calls (Option Int) :=
  ((asked .wait answers.wait).andThen fun code => .returning (some code)).catching fun failure =>
    if classes.network failure || classes.docker failure then
      some ((killQuietly classes answers).andThen fun _ => .returning none)
    else none

def readLogs (stderr : Bool) : Calls (String × Bool) :=
  (asked (.logs stderr) (answers.logs stderr)).andThen fun raw =>
    .returning (execution.decode (raw.take execution.outputLimitBytes), decide (execution.outputLimitBytes < raw.length))

def timeoutMessage (stderr : String) : String :=
  strip (stderr ++ "\n" ++ "Execution timed out after " ++ execution.timeoutText ++ " seconds.")

def containerRun (exitCode : Option Int) (stdout stderr : String × Bool) : ContainerRun where
  stdout := stdout.1
  stderr := if exitCode.isNone then timeoutMessage execution stderr.1 else stderr.1
  truncated := stdout.2 || stderr.2
  exitCode := exitCode
  timedOut := exitCode.isNone

-- From the start of the container to its result.
def runStarted : Calls PythonResult :=
  (waitExit classes answers).andThen fun exitCode =>
    (readLogs execution answers false).andThen fun stdout =>
      (readLogs execution answers true).andThen fun stderr =>
        .returning (executionResult execution.validationText (containerRun execution exitCode stdout stderr)
          (collectArtifacts execution.guessType execution.limits answers.outputs))

def runContainer : Calls PythonResult :=
  (asked .mkdir answers.mkdir).andThen fun _ =>
    (asked .chmod answers.chmod).andThen fun _ =>
      (asked .create answers.create).andThen fun _ =>
        (asked .start answers.start).andThen fun _ => runStarted classes execution answers

-- except OSError, then except DockerException
def failedResult (failure : PyException) : Option (Calls PythonResult) :=
  if classes.system failure then
    some (.returning { ok := false, stderr := s!"Sandbox artifact workspace is unavailable: {failure.text}" })
  else if classes.docker failure then
    some (.returning { ok := false, stderr := s!"Docker sandbox execution failed: {failure.text}" })
  else none

-- NotFound is a DockerException.
def removeQuietly : Calls Unit :=
  (asked .remove answers.remove).catching fun failure => if classes.docker failure then some (.returning ()) else none

-- The container is not None once create has returned.
def cleanUp (log : List (DockerCall × Bool)) : Calls Unit :=
  (if (DockerCall.create, true) ∈ log then removeQuietly classes answers else .returning ()).andThen fun _ =>
    asked .rmtree (.ok ())

def executeSync : Calls PythonResult :=
  (checkImage classes execution answers).andThen fun _ =>
    let body := (runContainer classes execution answers).catching (failedResult classes)
    body.ensuring fun _ => cleanUp classes answers body.log

def Quiet : Prop := ∀ failure, answers.remove = .error failure → classes.docker failure = true

structure Succeeds (stdout stderr : List UInt8) (artifacts : List SandboxArtifact) : Prop where
  imagesGet : answers.imagesGet = .ok ()
  mkdir : answers.mkdir = .ok ()
  chmod : answers.chmod = .ok ()
  create : answers.create = .ok ()
  start : answers.start = .ok ()
  wait : answers.wait = .ok 0
  stdout : answers.logs false = .ok stdout
  stderr : answers.logs true = .ok stderr
  collected : collectArtifacts execution.guessType execution.limits answers.outputs = .ok artifacts
  removed : Quiet classes answers

def successfulResult (stdout stderr : List UInt8) (artifacts : List SandboxArtifact) : PythonResult where
  ok := true
  stdout := execution.decode (stdout.take execution.outputLimitBytes)
  stderr := execution.decode (stderr.take execution.outputLimitBytes)
  truncated := decide (execution.outputLimitBytes < stdout.length) || decide (execution.outputLimitBytes < stderr.length)
  exitCode := some 0
  timedOut := false
  artifacts := artifacts

section Asked

variable {α : Type} (call : DockerCall) (answer : Except PyException α)

theorem asked_ok (value : α) : (asked call answer).result = .ok value ↔ answer = .ok value := by
  cases answer with
  | ok other => simp [asked]
  | error failure => simp [asked]

theorem asked_mem (record : DockerCall × Bool) (member : record ∈ (asked call answer).log) : record.1 = call := by
  cases answer with
  | ok value => rw [List.mem_singleton.mp member]
  | error failure => rw [List.mem_singleton.mp member]

theorem asked_returned : (call, true) ∈ (asked call answer).log ↔ ∃ value, answer = .ok value := by
  cases answer with
  | ok value => exact iff_of_true (List.mem_singleton_self _) ⟨value, rfl⟩
  | error failure =>
      refine iff_of_false (fun member => ?_) ?_
      · cases List.mem_singleton.mp member
      · rintro ⟨value, same⟩
        cases same

theorem asked_made : ∃ returned, (call, returned) ∈ (asked call answer).log := by
  cases answer with
  | ok value => exact ⟨true, List.mem_singleton_self _⟩
  | error failure => exact ⟨false, List.mem_singleton_self _⟩

end Asked

section Stages

variable {classes execution answers}

theorem kill_mem (record : DockerCall × Bool) (member : record ∈ (killQuietly classes answers).log) :
    record.1 = .kill ∨ record.1 = .waitKilled := by
  have inner : record ∈ ((asked .kill answers.kill).andThen fun _ => asked .waitKilled answers.waitKilled).log →
      record.1 = .kill ∨ record.1 = .waitKilled := by
    intro inside
    rcases (mem_and_then _ _ record).mp inside with first | ⟨_, _, second⟩
    · exact .inl (asked_mem _ _ record first)
    · exact .inr (asked_mem _ _ record second)
  rw [killQuietly] at member
  rcases catching_ways ((asked .kill answers.kill).andThen fun _ => asked .waitKilled answers.waitKilled) (caught classes ()) with
    ⟨failure, handled, _, taken, same⟩ | ⟨_, same⟩
  · rw [same] at member
    rw [caught] at taken
    by_cases known : (classes.network failure || classes.docker failure) = true
    · rw [if_pos known] at taken
      cases taken
      exact inner (by simpa [Logged.returning] using member)
    · rw [if_neg known] at taken
      cases taken
  · rw [same] at member
    exact inner member

variable (classes answers) in
theorem kill_made : ∃ returned, (DockerCall.kill, returned) ∈ (killQuietly classes answers).log := by
  obtain ⟨returned, made⟩ := asked_made .kill answers.kill
  refine ⟨returned, ?_⟩
  have inside : (DockerCall.kill, returned) ∈
      ((asked .kill answers.kill).andThen fun _ => asked .waitKilled answers.waitKilled).log :=
    (mem_and_then _ _ _).mpr (.inl made)
  rw [killQuietly]
  rcases catching_ways ((asked .kill answers.kill).andThen fun _ => asked .waitKilled answers.waitKilled) (caught classes ()) with
    ⟨failure, handled, _, taken, same⟩ | ⟨_, same⟩
  · rw [same]
    exact List.mem_append_left _ inside
  · rw [same]
    exact inside

-- Waiting ends with a code, or it raises something that is caught and kills the
-- container, or it raises anything else.
variable (classes answers) in
theorem wait_ways :
    (∃ code, answers.wait = .ok code ∧ waitExit classes answers = ⟨[(.wait, true)], .ok (some code)⟩) ∨
      (∃ failure, answers.wait = .error failure ∧ (classes.network failure || classes.docker failure) = true ∧
        waitExit classes answers =
          ⟨(.wait, false) :: ((killQuietly classes answers).andThen fun _ => (.returning none : Calls (Option Int))).log,
            ((killQuietly classes answers).andThen fun _ => (.returning none : Calls (Option Int))).result⟩) ∨
      ∃ failure, answers.wait = .error failure ∧ (classes.network failure || classes.docker failure) = false ∧
        waitExit classes answers = ⟨[(.wait, false)], .error (.exception failure)⟩ := by
  cases waited : answers.wait with
  | ok code =>
      refine .inl ⟨code, rfl, ?_⟩
      rw [waitExit, waited]
      rfl
  | error failure =>
      refine .inr ?_
      cases known : (classes.network failure || classes.docker failure) with
      | true =>
          refine .inl ⟨failure, rfl, known, ?_⟩
          rw [waitExit, waited]
          simp only [asked, Logged.andThen, Logged.catching, known, if_true, List.singleton_append]
      | false =>
          refine .inr ⟨failure, rfl, known, ?_⟩
          rw [waitExit, waited]
          simp only [asked, Logged.andThen, Logged.catching, known, Bool.false_eq_true, if_false]

theorem read_logs_ok (stderr : Bool) (text : String × Bool) :
    (readLogs execution answers stderr).result = .ok text ↔ ∃ raw, answers.logs stderr = .ok raw ∧
      text = (execution.decode (raw.take execution.outputLimitBytes), decide (execution.outputLimitBytes < raw.length)) := by
  rw [readLogs, and_then_result]
  constructor
  · rintro ⟨raw, read, same⟩
    exact ⟨raw, (asked_ok _ _ raw).mp read, (Except.ok.inj same).symm⟩
  · rintro ⟨raw, read, rfl⟩
    exact ⟨raw, (asked_ok _ _ raw).mpr read, rfl⟩

theorem read_logs_mem (stderr : Bool) (record : DockerCall × Bool) (member : record ∈ (readLogs execution answers stderr).log) :
    record.1 = .logs stderr := by
  rcases (mem_and_then _ _ record).mp member with first | ⟨_, _, second⟩
  · exact asked_mem _ _ record first
  · cases second

end Stages

-- Everything that comes before waiting has returned.
structure Started : Prop where
  mkdir : answers.mkdir = .ok ()
  chmod : answers.chmod = .ok ()
  create : answers.create = .ok ()
  start : answers.start = .ok ()

section Runs

variable {classes execution answers}

theorem started_result (result : PythonResult) :
    (runContainer classes execution answers).result = .ok result ↔
      Started answers ∧ (runStarted classes execution answers).result = .ok result := by
  simp only [runContainer, and_then_result, asked_ok]
  constructor
  · rintro ⟨_, mkdir, _, chmod, _, create, _, start, rest⟩
    exact ⟨⟨mkdir, chmod, create, start⟩, rest⟩
  · rintro ⟨⟨mkdir, chmod, create, start⟩, rest⟩
    exact ⟨(), mkdir, (), chmod, (), create, (), start, rest⟩

theorem container_mem (record : DockerCall × Bool) :
    record ∈ (runContainer classes execution answers).log ↔
      record ∈ (asked .mkdir answers.mkdir).log ∨ (answers.mkdir = .ok () ∧
        (record ∈ (asked .chmod answers.chmod).log ∨ (answers.chmod = .ok () ∧
          (record ∈ (asked .create answers.create).log ∨ (answers.create = .ok () ∧
            (record ∈ (asked .start answers.start).log ∨
              (answers.start = .ok () ∧ record ∈ (runStarted classes execution answers).log))))))) := by
  simp only [runContainer, mem_and_then, asked_ok]
  constructor
  · rintro (one | ⟨_, mkdir, two | ⟨_, chmod, three | ⟨_, create, four | ⟨_, start, five⟩⟩⟩⟩)
    · exact .inl one
    · exact .inr ⟨mkdir, .inl two⟩
    · exact .inr ⟨mkdir, .inr ⟨chmod, .inl three⟩⟩
    · exact .inr ⟨mkdir, .inr ⟨chmod, .inr ⟨create, .inl four⟩⟩⟩
    · exact .inr ⟨mkdir, .inr ⟨chmod, .inr ⟨create, .inr ⟨start, five⟩⟩⟩⟩
  · rintro (one | ⟨mkdir, two | ⟨chmod, three | ⟨create, four | ⟨start, five⟩⟩⟩⟩)
    · exact .inl one
    · exact .inr ⟨(), mkdir, .inl two⟩
    · exact .inr ⟨(), mkdir, .inr ⟨(), chmod, .inl three⟩⟩
    · exact .inr ⟨(), mkdir, .inr ⟨(), chmod, .inr ⟨(), create, .inl four⟩⟩⟩
    · exact .inr ⟨(), mkdir, .inr ⟨(), chmod, .inr ⟨(), create, .inr ⟨(), start, five⟩⟩⟩⟩

theorem started_mem (record : DockerCall × Bool) (member : record ∈ (runStarted classes execution answers).log) :
    record.1 ∈ [.wait, .kill, .waitKilled, .logs false, .logs true] := by
  rcases (mem_and_then _ _ record).mp member with waiting | ⟨_, _, rest⟩
  · rcases wait_ways classes answers with
      ⟨_, _, same⟩ | ⟨_, _, _, same⟩ | ⟨_, _, _, same⟩
    · rw [same] at waiting
      rw [List.mem_singleton.mp waiting]
      exact List.mem_cons_self ..
    · rw [same] at waiting
      rcases List.mem_cons.mp waiting with rfl | killing
      · exact List.mem_cons_self ..
      · rcases (mem_and_then _ _ record).mp killing with first | ⟨_, _, second⟩
        · rcases kill_mem record first with kill | waits
          · simp [kill]
          · simp [waits]
        · cases second
    · rw [same] at waiting
      rw [List.mem_singleton.mp waiting]
      exact List.mem_cons_self ..
  · rcases (mem_and_then _ _ record).mp rest with out | ⟨_, _, later⟩
    · simp [read_logs_mem false record out]
    · rcases (mem_and_then _ _ record).mp later with err | ⟨_, _, none⟩
      · simp [read_logs_mem true record err]
      · cases none

theorem container_calls (record : DockerCall × Bool) (member : record ∈ (runContainer classes execution answers).log) :
    record.1 ∈ [.mkdir, .chmod, .create, .start, .wait, .kill, .waitKilled, .logs false, .logs true] := by
  rcases (container_mem record).mp member with one | ⟨_, two | ⟨_, three | ⟨_, four | ⟨_, five⟩⟩⟩⟩
  · simp [asked_mem _ _ record one]
  · simp [asked_mem _ _ record two]
  · simp [asked_mem _ _ record three]
  · simp [asked_mem _ _ record four]
  · exact List.mem_append_right [.mkdir, .chmod, .create, .start] (started_mem record five)

theorem container_created :
    (DockerCall.create, true) ∈ (runContainer classes execution answers).log ↔
      answers.mkdir = .ok () ∧ answers.chmod = .ok () ∧ answers.create = .ok () := by
  rw [container_mem]
  constructor
  · rintro (one | ⟨mkdir, two | ⟨chmod, three | ⟨create, _⟩⟩⟩)
    · cases asked_mem _ _ _ one
    · cases asked_mem _ _ _ two
    · obtain ⟨_, created⟩ := (asked_returned _ _).mp three
      exact ⟨mkdir, chmod, created⟩
    · exact ⟨mkdir, chmod, create⟩
  · rintro ⟨mkdir, chmod, create⟩
    exact .inr ⟨mkdir, .inr ⟨chmod, .inl ((asked_returned _ _).mpr ⟨(), create⟩)⟩⟩

theorem container_killed :
    (∃ returned, (DockerCall.kill, returned) ∈ (runContainer classes execution answers).log) ↔
      Started answers ∧ ∃ failure, answers.wait = .error failure ∧
        (classes.network failure || classes.docker failure) = true := by
  simp only [container_mem]
  constructor
  · rintro ⟨returned, one | ⟨mkdir, two | ⟨chmod, three | ⟨create, four | ⟨start, five⟩⟩⟩⟩⟩
    · cases asked_mem _ _ _ one
    · cases asked_mem _ _ _ two
    · cases asked_mem _ _ _ three
    · cases asked_mem _ _ _ four
    · refine ⟨⟨mkdir, chmod, create, start⟩, ?_⟩
      rcases (mem_and_then _ _ _).mp five with waiting | ⟨_, _, rest⟩
      · rcases wait_ways classes answers with
          ⟨_, _, same⟩ | ⟨failure, raised, known, _⟩ | ⟨_, _, _, same⟩
        · rw [same] at waiting
          cases List.mem_singleton.mp waiting
        · exact ⟨failure, raised, known⟩
        · rw [same] at waiting
          cases List.mem_singleton.mp waiting
      · rcases (mem_and_then _ _ _).mp rest with out | ⟨_, _, later⟩
        · cases read_logs_mem false _ out
        · rcases (mem_and_then _ _ _).mp later with err | ⟨_, _, none⟩
          · cases read_logs_mem true _ err
          · cases none
  · rintro ⟨⟨mkdir, chmod, create, start⟩, failure, raised, known⟩
    obtain ⟨returned, made⟩ := kill_made classes answers
    refine ⟨returned, .inr ⟨mkdir, .inr ⟨chmod, .inr ⟨create, .inr ⟨start, ?_⟩⟩⟩⟩⟩
    refine (mem_and_then _ _ _).mpr (.inl ?_)
    rcases wait_ways classes answers with
      ⟨code, ended, _⟩ | ⟨_, _, _, same⟩ | ⟨other, raisedOther, unknown, _⟩
    · cases ended.symm.trans raised
    · rw [same]
      exact List.mem_cons_of_mem _ ((mem_and_then _ _ _).mpr (.inl made))
    · cases raisedOther.symm.trans raised
      rw [known] at unknown
      cases unknown

end Runs

-- The calls of the finally block: the container that was created is removed, and the
-- directory with its outputs goes last unless the removal raised what is no Docker error.
inductive Closes : Bool → List (DockerCall × Bool) → Prop where
  | removed (returned : Bool) (quiet : Quiet classes answers) : Closes true [(.remove, returned), (.rmtree, true)]
  | escaped (loud : ¬ Quiet classes answers) : Closes true [(.remove, false)]
  | bare : Closes false [(.rmtree, true)]

section Outcome

variable {classes execution answers}

variable (classes answers) in
theorem remove_ways :
    (Quiet classes answers ∧ ∃ returned, removeQuietly classes answers = ⟨[(.remove, returned)], .ok ()⟩) ∨
      (¬ Quiet classes answers ∧ ∃ failure, classes.docker failure = false ∧
        removeQuietly classes answers = ⟨[(.remove, false)], .error (.exception failure)⟩) := by
  cases removed : answers.remove with
  | ok done =>
      refine .inl ⟨?_, true, ?_⟩
      · intro failure same
        rw [removed] at same
        cases same
      · rw [removeQuietly, removed]
        rfl
  | error failure =>
      cases known : classes.docker failure with
      | true =>
          refine .inl ⟨?_, false, ?_⟩
          · intro other same
            rw [removed] at same
            cases same
            exact known
          · rw [removeQuietly, removed]
            simp only [asked, Logged.catching, known, if_true, Logged.returning, List.append_nil]
      | false =>
          refine .inr ⟨?_, failure, known, ?_⟩
          · intro quiet
            have docker := quiet failure removed
            rw [known] at docker
            cases docker
          · rw [removeQuietly, removed]
            simp only [asked, Logged.catching, known, Bool.false_eq_true, if_false]

variable (classes answers) in
theorem clean_up_ways (log : List (DockerCall × Bool)) :
    Closes classes answers (decide ((DockerCall.create, true) ∈ log)) (cleanUp classes answers log).log ∧
      (((DockerCall.create, true) ∈ log → Quiet classes answers) ↔ (cleanUp classes answers log).result = .ok ()) ∧
      ∀ thrown, (cleanUp classes answers log).result = .error thrown →
        ∃ failure, thrown = .exception failure ∧ classes.docker failure = false := by
  rw [cleanUp]
  by_cases created : (DockerCall.create, true) ∈ log
  · rw [if_pos created, decide_eq_true created]
    rcases remove_ways classes answers with
      ⟨quiet, returned, same⟩ | ⟨loud, failure, unknown, same⟩
    · rw [same]
      exact ⟨.removed returned quiet, iff_of_true (fun _ => quiet) rfl, fun thrown raised => by cases raised⟩
    · rw [same]
      refine ⟨.escaped loud, iff_of_false (fun quiet => loud (quiet created)) (fun ended => by cases ended), ?_⟩
      intro thrown raised
      cases raised
      exact ⟨failure, rfl, unknown⟩
  · rw [if_neg created, decide_eq_false created]
    exact ⟨.bare, iff_of_true (fun there => absurd there created) rfl, fun thrown raised => by cases raised⟩

theorem failed_result (failure : PyException) (handled : Calls PythonResult)
    (taken : failedResult classes failure = some handled) : ∃ result, handled = .returning result ∧ result.ok = false := by
  unfold failedResult at taken
  by_cases system : classes.system failure = true
  · rw [if_pos system] at taken
    exact ⟨_, (Option.some.inj taken).symm, rfl⟩
  · rw [if_neg system] at taken
    by_cases docker : classes.docker failure = true
    · rw [if_pos docker] at taken
      exact ⟨_, (Option.some.inj taken).symm, rfl⟩
    · rw [if_neg docker] at taken
      cases taken

theorem body_ways :
    (((runContainer classes execution answers).catching (failedResult classes)).log =
        (runContainer classes execution answers).log) ∧
      (∀ result, result.ok = true →
        (((runContainer classes execution answers).catching (failedResult classes)).result = .ok result ↔
        (runContainer classes execution answers).result = .ok result)) ∧
      ∀ failure, ((runContainer classes execution answers).catching (failedResult classes)).result = .error (.exception failure) →
        classes.docker failure = false := by
  rcases catching_ways (runContainer classes execution answers) (failedResult classes) with
    ⟨failure, handled, raised, taken, same⟩ | ⟨untaken, same⟩
  · obtain ⟨result, rfl, failed⟩ := failed_result failure handled taken
    rw [same]
    refine ⟨List.append_nil _, ?_, fun other ended => by cases ended⟩
    intro other succeeded
    refine iff_of_false (fun ended => ?_) fun ended => ?_
    · cases ended
      rw [failed] at succeeded
      cases succeeded
    · rw [raised] at ended
      cases ended
  · rw [same]
    refine ⟨rfl, fun _ _ => Iff.rfl, ?_⟩
    intro failure raised
    have taken := untaken failure raised
    unfold failedResult at taken
    by_cases system : classes.system failure = true
    · rw [if_pos system] at taken
      cases taken
    · rw [if_neg system] at taken
      by_cases docker : classes.docker failure = true
      · rw [if_pos docker] at taken
        cases taken
      · exact Bool.eq_false_of_not_eq_true docker

theorem image_found (found : answers.imagesGet = .ok ()) :
    executeSync classes execution answers =
      ⟨(DockerCall.imagesGet, true) :: ((runContainer classes execution answers).log ++
          (cleanUp classes answers (runContainer classes execution answers).log).log),
        (cleanUp classes answers (runContainer classes execution answers).log).result.bind fun _ =>
          ((runContainer classes execution answers).catching (failedResult classes)).result⟩ := by
  have checked : checkImage classes execution answers = ⟨[(.imagesGet, true)], .ok ()⟩ := by
    rw [checkImage, found]
    rfl
  rw [executeSync, checked]
  simp only [Logged.andThen, Logged.ensuring, body_ways.1, List.singleton_append]

variable (classes execution) in
theorem image_missing (failure : PyException) (missing : answers.imagesGet = .error failure) :
    ∃ raised, executeSync classes execution answers = ⟨[(.imagesGet, false)], .error (.exception raised)⟩ := by
  have checked : ∃ raised, checkImage classes execution answers = ⟨[(.imagesGet, false)], .error (.exception raised)⟩ := by
    rw [checkImage, missing]
    rcases catching_ways (asked .imagesGet (.error failure)) (unavailableImage classes execution) with
      ⟨other, handled, _, taken, same⟩ | ⟨_, same⟩
    · rw [same]
      rw [unavailableImage] at taken
      split_ifs at taken <;> cases taken <;> exact ⟨_, rfl⟩
    · rw [same]
      exact ⟨failure, rfl⟩
  obtain ⟨raised, same⟩ := checked
  exact ⟨raised, by rw [executeSync, same]; rfl⟩

theorem started_success (result : PythonResult) (succeeded : result.ok = true) :
    (runStarted classes execution answers).result = .ok result ↔
      ∃ stdout stderr artifacts, answers.wait = .ok 0 ∧ answers.logs false = .ok stdout ∧ answers.logs true = .ok stderr ∧
        collectArtifacts execution.guessType execution.limits answers.outputs = .ok artifacts ∧
        result = successfulResult execution stdout stderr artifacts := by
  simp only [runStarted, and_then_result, read_logs_ok]
  constructor
  · rintro ⟨exitCode, waited, out, ⟨stdout, readOut, rfl⟩, err, ⟨stderr, readErr, rfl⟩, same⟩
    have made := Except.ok.inj same
    cases collected : collectArtifacts execution.guessType execution.limits answers.outputs with
    | error error =>
        rw [collected] at made
        rw [← made] at succeeded
        cases error <;> cases succeeded
    | ok artifacts =>
        rw [collected] at made
        rw [← made] at succeeded
        have exited : (!exitCode.isNone && decide (exitCode = some 0)) = true := succeeded
        obtain rfl : exitCode = some 0 := of_decide_eq_true (Bool.and_eq_true_iff.mp exited).2
        refine ⟨stdout, stderr, artifacts, ?_, readOut, readErr, rfl, made.symm⟩
        rcases wait_ways classes answers with
          ⟨code, ended, run⟩ | ⟨_, _, _, run⟩ | ⟨_, _, _, run⟩
        · rw [run] at waited
          cases waited
          exact ended
        · rw [run] at waited
          obtain ⟨_, _, died⟩ := (and_then_result _ _ _).mp waited
          cases died
        · rw [run] at waited
          cases waited
  · rintro ⟨stdout, stderr, artifacts, waited, readOut, readErr, collected, rfl⟩
    refine ⟨some 0, ?_, _, ⟨stdout, readOut, rfl⟩, _, ⟨stderr, readErr, rfl⟩, ?_⟩
    · rw [waitExit, waited]
      rfl
    · rw [collected]
      rfl

theorem success_iff (result : PythonResult) (succeeded : result.ok = true) :
    (executeSync classes execution answers).result = .ok result ↔
      ∃ stdout stderr artifacts, Succeeds classes execution answers stdout stderr artifacts ∧
        result = successfulResult execution stdout stderr artifacts := by
  cases found : answers.imagesGet with
  | error failure =>
      obtain ⟨raised, same⟩ := image_missing classes execution failure found
      rw [same]
      refine iff_of_false (fun ended => by cases ended) ?_
      rintro ⟨_, _, _, went, _⟩
      cases found.symm.trans went.imagesGet
  | ok done =>
      rw [image_found found]
      obtain ⟨_, cleaned, _⟩ := clean_up_ways classes answers (runContainer classes execution answers).log
      have ends : ((cleanUp classes answers (runContainer classes execution answers).log).result.bind fun _ =>
          ((runContainer classes execution answers).catching (failedResult classes)).result) = .ok result ↔
          (cleanUp classes answers (runContainer classes execution answers).log).result = .ok () ∧
            (runContainer classes execution answers).result = .ok result := by
        rw [← body_ways.2.1 result succeeded]
        cases (cleanUp classes answers (runContainer classes execution answers).log).result with
        | ok _ => exact (and_iff_right rfl).symm
        | error thrown => exact iff_of_false (fun ended => by cases ended) fun both => by cases both.1
      dsimp only
      rw [ends, ← cleaned, started_result, started_success result succeeded]
      constructor
      · rintro ⟨quiet, started, stdout, stderr, artifacts, waited, readOut, readErr, collected, rfl⟩
        have created : (DockerCall.create, true) ∈ (runContainer classes execution answers).log :=
          container_created.mpr ⟨started.mkdir, started.chmod, started.create⟩
        exact ⟨stdout, stderr, artifacts, ⟨found, started.mkdir, started.chmod, started.create, started.start, waited, readOut,
          readErr, collected, quiet created⟩, rfl⟩
      · rintro ⟨stdout, stderr, artifacts, went, rfl⟩
        exact ⟨fun _ => went.removed, ⟨went.mkdir, went.chmod, went.create, went.start⟩, stdout, stderr, artifacts, went.wait,
          went.stdout, went.stderr, went.collected, rfl⟩

end Outcome

theorem execution_settles :
    (answers.imagesGet = .ok () → ∃ front closing,
      (executeSync classes execution answers).log = (.imagesGet, true) :: (front ++ closing) ∧
        (∀ call ∈ front, call.1 ≠ .imagesGet ∧ call.1 ≠ .remove ∧ call.1 ≠ .rmtree) ∧
        Closes classes answers (decide ((DockerCall.create, true) ∈ front)) closing ∧
        ((∃ returned, (DockerCall.kill, returned) ∈ front) ↔ Started answers ∧ ∃ failure, answers.wait = .error failure ∧
          (classes.network failure || classes.docker failure) = true)) ∧
      (answers.imagesGet ≠ .ok () → (executeSync classes execution answers).log = [(.imagesGet, false)]) ∧
      (∀ failure, answers.imagesGet = .ok () →
        (executeSync classes execution answers).result = .error (.exception failure) → classes.docker failure = false) ∧
      ∀ result : PythonResult, result.ok = true → ((executeSync classes execution answers).result = .ok result ↔
        ∃ stdout stderr artifacts, Succeeds classes execution answers stdout stderr artifacts ∧
          result = successfulResult execution stdout stderr artifacts) := by
  refine ⟨?_, ?_, ?_, success_iff⟩
  · intro found
    obtain ⟨closes, _, _⟩ := clean_up_ways classes answers (runContainer classes execution answers).log
    refine ⟨_, _, by rw [image_found found], ?_, closes, container_killed⟩
    intro call member
    have named := container_calls call member
    refine ⟨?_, ?_, ?_⟩ <;> rintro same <;> simp [same] at named
  · intro missing
    cases answered : answers.imagesGet with
    | ok done => exact absurd answered missing
    | error failure =>
        obtain ⟨raised, same⟩ := image_missing classes execution failure answered
        rw [same]
  · intro failure found raised
    rw [image_found found] at raised
    obtain ⟨_, _, escapes⟩ := clean_up_ways classes answers (runContainer classes execution answers).log
    cases cleaned : (cleanUp classes answers (runContainer classes execution answers).log).result with
    | ok done =>
        rw [cleaned] at raised
        exact body_ways.2.2 failure raised
    | error thrown =>
        rw [cleaned] at raised
        cases raised
        obtain ⟨other, same, unknown⟩ := escapes _ cleaned
        cases same
        exact unknown

end DataPilot.Sandbox
