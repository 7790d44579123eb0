import DataPilot.Sandbox.Remote

set_option autoImplicit false

namespace DataPilot.Sandbox

open DataPilot.Base DataPilot.Datasets

inductive SandboxExecutionKind where
  | python
  | duckdb
  | postgres
deriving DecidableEq

variable {pydantic : Pydantic}

-- The fields of SandboxRequest; its dict and its float are validated ones.
structure SandboxRequest (pydantic : Pydantic) where
  kind : SandboxExecutionKind
  code : Option String := none
  sql : Option String := none
  inputFiles : List (String × String) := []
  distinct : (inputFiles.map Prod.fst).Nodup := by simp
  dataMounts : List DatasetMount := []
  timeoutSeconds : Option FloatText := none
  bounded : ∀ timeout ∈ timeoutSeconds, pydantic.withinMinute timeout = true := by simp

-- validate_payload
def SandboxRequest.problem (request : SandboxRequest pydantic) : Option String :=
  if request.kind = .python ∧ request.code.getD "" = "" then some "Python execution requires code."
  else if request.kind = .python then none
  else if request.sql.getD "" = "" then some "SQL execution requires sql."
  else if request.inputFiles ≠ [] then some "SQL execution does not accept input_files."
  else if request.dataMounts ≠ [] then some "SQL execution does not accept data_mounts."
  else none

def SandboxRequest.call (request : SandboxRequest pydantic) : PythonCall pydantic where
  code := request.code.getD ""
  inputFiles := request.inputFiles
  distinct := request.distinct
  dataMounts := request.dataMounts
  timeoutSeconds := request.timeoutSeconds
  bounded := request.bounded

structure SandboxService (pydantic : Pydantic) where
  pythonExecutor : Option (PythonCall pydantic → Except PyException (SandboxResult pydantic))
  duckdbExecutor : Option (String → Except PyException (SandboxResult pydantic))
  postgresExecutor : Option (String → Except PyException (SandboxResult pydantic))

def notConfigured (text : String) : SandboxResult pydantic := { ok := false, stderr := text }

def SandboxService.execute (service : SandboxService pydantic) (request : SandboxRequest pydantic) :
    Except PyException (SandboxResult pydantic) :=
  match request.kind with
  | .python =>
      match service.pythonExecutor with
      | none => .ok (notConfigured "Python sandbox is not configured.")
      | some executor => executor request.call
  | .duckdb =>
      match service.duckdbExecutor with
      | none => .ok (notConfigured "DuckDB executor is not configured.")
      | some executor => executor (request.sql.getD "")
  | .postgres =>
      match service.postgresExecutor with
      | none => .ok (notConfigured "PostgreSQL executor is not configured.")
      | some executor => executor (request.sql.getD "")

theorem executed_payload (request : SandboxRequest pydantic) (valid : request.problem = none) :
    (request.kind = .python → request.call.code ≠ "") ∧
      (request.kind ≠ .python → request.sql.getD "" ≠ "" ∧ request.inputFiles = [] ∧ request.dataMounts = []) := by
  unfold SandboxRequest.problem at valid
  constructor
  · intro python empty
    rw [if_pos ⟨python, empty⟩] at valid
    cases valid
  · intro other
    rw [if_neg (fun both => other both.1), if_neg other] at valid
    split at valid
    · cases valid
    · rename_i filled
      split at valid
      · cases valid
      · rename_i files
        split at valid
        · cases valid
        · rename_i mounts
          exact ⟨filled, not_not.mp files, not_not.mp mounts⟩

end DataPilot.Sandbox
