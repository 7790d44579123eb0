import DataPilot.Base.JsonRoundTrip
import DataPilot.Sql.Guard
import DataPilot.Tools.DuckDbEngine

set_option autoImplicit false

namespace DataPilot.Sandbox

open DataPilot.Base DataPilot.Core DataPilot.Sql DataPilot.Tools

structure ExecutionResult where
  ok : Bool
  stdout : String := ""
  stderr : String := ""
  truncated : Bool := false
  exitCode : Option Int := none
  timedOut : Bool := false

structure PostgresReadOnlyExecutor where
  allowedTables : List String
  statementTimeoutMs : Nat := 10000
  maxRows : Nat := 1000
  timeoutPositive : 1 ≤ statementTimeoutMs := by decide
  rowsPositive : 1 ≤ maxRows := by decide

def PostgresReadOnlyExecutor.statements (executor : PostgresReadOnlyExecutor) (safeSql : String) : List String :=
  ["SET TRANSACTION READ ONLY", s!"SET LOCAL statement_timeout = {executor.statementTimeoutMs}", safeSql]

-- What json.dumps writes for a value that json_safe returns.
def writtenCell (cell : Cell) : Json := cell.written.getD .null

def writtenRow (row : List (String × Cell)) : Json := .obj (row.map fun field => (field.1, writtenCell field.2))

def payload (columns : List String) (rows : List (List (String × Cell))) (truncated : Bool) : Json :=
  .obj [("columns", .arr (columns.map .str)), ("rows", .arr (rows.map writtenRow)), ("row_count", .int rows.length),
    ("truncated", .bool truncated)]

def compactStyle : DumpStyle := ⟨false, false⟩

variable (sqlglot : Sqlglot)

-- The connection is told the statements of its transaction; the last one's
-- result, or an exception, is what it comes to.
def PostgresReadOnlyExecutor.execute (executor : PostgresReadOnlyExecutor)
    (connection : List String → Except PyException ResultSet) (sql : String) : ExecutionResult :=
  match postgresStatement sqlglot executor.allowedTables sql with
  | .error stderr => { ok := false, stderr }
  | .ok safeSql =>
      match connection (executor.statements safeSql) with
      | .error failure => { ok := false, stderr := s!"{failure.typeName}: {failure.text}" }
      | .ok set =>
          let truncated := decide (executor.maxRows < (fetched executor.maxRows set).length)
          let rows := (visibleRows executor.maxRows set).map (safeRow set.columns)
          { ok := true, stdout := dumps compactStyle (payload set.columns rows truncated), truncated }

end DataPilot.Sandbox
