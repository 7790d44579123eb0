import DataPilot.Base.Json
import DataPilot.Sql.Expression

set_option autoImplicit false

namespace DataPilot.Sql

open DataPilot.Base

def readOnlyRoots : List String := ["Select", "Union", "Intersect", "Except"]

def forbiddenNodes : List String := [
  "Alter", "Attach", "Command", "Commit", "Copy", "Create", "Delete", "Detach", "Drop", "Execute", "Grant", "Insert",
  "Into", "Pragma", "Prepare", "Rollback", "Set", "Transaction", "TruncateTable", "Update", "Use"]

def forbiddenFunctions : List String := [
  "currentsetting", "dblink", "dblinkconnect", "getenv", "glob", "installextension", "loexport", "loimport",
  "loadextension", "mysqlscan", "parquetscan", "pgcancelbackend", "pgadvisorylock", "pgadvisorylockshared", "pgnotify",
  "pgreadbinaryfile", "pgreadfile", "pgreadserverfiles", "pgsleep", "pgstatfile", "pgterminatebackend", "postgresscan",
  "query", "querytable", "readblob", "readcsv", "readcsvauto", "readjson", "readjsonauto", "readparquet", "readtext",
  "setconfig", "sqlitescan"]

structure SQLPolicy where
  dialect : String := "duckdb"
  maxLines : Nat := 300
  maxChars : Nat := 100000
  allowQualifiedTables : Bool := false

def sqlValidationError (text : String) : PyException := ⟨"SQLValidationError", text⟩

def functionKey (name : String) : String := casefold (String.ofList (name.toList.filter (· ≠ '_')))

def checkFunction (name : String) : Option PyException :=
  if functionKey name ∈ forbiddenFunctions then some (sqlValidationError s!"SQL function is not allowed: {name}") else none

-- One round of the loop over expression.walk().
def checkNode (node : Expression) : Option PyException :=
  if node.className ∈ forbiddenNodes then
    some (sqlValidationError s!"SQL operation is not allowed: {node.className}.")
  else
    match node with
    | .anonymous this _ => checkFunction this
    | .node cls true _ _ _ => checkFunction cls
    | _ => none

def cteNames (tree : Expression) : List String :=
  ((cteAliases tree).filter fun aliasNode => aliasNode.text ≠ "").map fun aliasNode => casefold aliasNode.text

-- f"{table.db}.{table.name}".casefold(), without the schema when there is none.
def tableName (this db : Expression) : String :=
  if db.text ≠ "" then casefold (db.text ++ "." ++ this.text) else casefold this.text

def isTable : Expression → Bool
  | .table _ _ _ _ => true
  | _ => false

-- One round of the loop over expression.find_all(exp.Table).
def checkTable (policy : SQLPolicy) (ctes allowed : List String) : Expression → Option PyException
  | .table this db catalog _ =>
      if !this.isIdentifier then
        some (sqlValidationError "Table functions and dynamic data sources are not allowed.")
      else if catalog.text ≠ "" then
        some (sqlValidationError "Qualified or external table names are not allowed.")
      else if db.text ≠ "" ∧ policy.allowQualifiedTables = false then
        some (sqlValidationError "Qualified or external table names are not allowed.")
      else if tableName this db ∈ ctes then none
      else if tableName this db ∈ allowed then none
      else some (sqlValidationError s!"Table is not allowed: {tableName this db}")
  | _ => none

def checkTree (policy : SQLPolicy) (tree : Expression) (allowedTables : List String) : Option PyException :=
  if tree.className ∉ readOnlyRoots then some (sqlValidationError "Only SELECT queries are allowed.")
  else
    match (walk tree).findSome? checkNode with
    | some failure => some failure
    | none => ((walk tree).filter isTable).findSome? (checkTable policy (cteNames tree) (allowedTables.map casefold))

variable (sqlglot : Sqlglot)

def validate (policy : SQLPolicy) (sql : String) (allowedTables : List String) : Except PyException String :=
  if strip sql = "" then .error (sqlValidationError "SQL must not be empty.")
  else if policy.maxChars < sql.length then
    .error (sqlValidationError s!"SQL exceeds the maximum length of {policy.maxChars} characters.")
  else if policy.maxLines < lineCount sql then
    .error (sqlValidationError s!"SQL exceeds {policy.maxLines} lines and requires manual review.")
  else
    match sqlglot.parse policy.dialect sql with
    | .error (.parseError text) => .error (sqlValidationError s!"SQL syntax error: {text}")
    | .error failure => .error failure.raised
    | .ok [some statement] =>
        match checkTree policy statement.tree allowedTables with
        | some failure => .error failure
        | none => sqlglot.sql (some policy.dialect) statement
    | .ok _ => .error (sqlValidationError "Only one SQL statement is allowed.")

def postgresPolicy : SQLPolicy := { dialect := "postgres", allowQualifiedTables := true }

-- The statement that PostgresReadOnlyExecutor.execute sends after its two SETs,
-- or the stderr of its failed ExecutionResult.
def postgresStatement (allowedTables : List String) (sql : String) : Except String String :=
  match validate sqlglot postgresPolicy sql allowedTables with
  | .error failure => .error s!"{failure.typeName}: {failure.text}"
  | .ok safeSql => .ok safeSql

theorem validate_ok (policy : SQLPolicy) (sql out : String) (allowedTables : List String)
    (accepted : validate sqlglot policy sql allowedTables = .ok out) :
    ∃ statement, sqlglot.parse policy.dialect sql = .ok [some statement] ∧
      checkTree policy statement.tree allowedTables = none ∧ sqlglot.sql (some policy.dialect) statement = .ok out := by
  unfold validate at accepted
  split at accepted
  · cases accepted
  split at accepted
  · cases accepted
  split at accepted
  · cases accepted
  split at accepted
  · cases accepted
  · cases accepted
  · rename_i statement parsed
    split at accepted
    · cases accepted
    · rename_i passed
      exact ⟨statement, parsed, passed, accepted⟩
  · cases accepted

theorem check_tree_tables (policy : SQLPolicy) (tree : Expression) (allowedTables : List String)
    (passed : checkTree policy tree allowedTables = none) (this db catalog : Expression) (args : Arguments)
    (member : .table this db catalog args ∈ walk tree) :
    this.isIdentifier = true ∧ catalog.text = "" ∧
      (tableName this db ∈ cteNames tree ∨ tableName this db ∈ allowedTables.map casefold) := by
  unfold checkTree at passed
  split at passed
  · cases passed
  split at passed
  · cases passed
  · rw [List.findSome?_eq_none_iff] at passed
    have checked := passed _ (List.mem_filter.mpr ⟨member, rfl⟩)
    simp only [checkTable] at checked
    split at checked
    · cases checked
    rename_i identifier
    split at checked
    · cases checked
    rename_i catalogEmpty
    split at checked
    · cases checked
    refine ⟨by simpa using identifier, by simpa using catalogEmpty, ?_⟩
    split at checked
    · exact .inl (by assumption)
    split at checked
    · exact .inr (by assumption)
    · cases checked

end DataPilot.Sql
