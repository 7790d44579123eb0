import DataPilot.Sandbox.PostgresExecutor

set_option autoImplicit false

namespace DataPilot.Sandbox

open DataPilot.Base DataPilot.Core DataPilot.Sql DataPilot.Tools

structure Table (α : Type) where
  columns : List String
  rows : List (List (String × α))
  truncated : Bool

def tableOf (result : QueryResult) : Table Cell := ⟨result.columns, result.rows, result.truncated⟩

def Table.json (table : Table Json) : Json :=
  .obj [("columns", .arr (table.columns.map .str)), ("rows", .arr (table.rows.map .obj)),
    ("row_count", .int table.rows.length), ("truncated", .bool table.truncated)]

structure Prints (result : ExecutionResult) (table : Table Json) : Prop where
  ok : result.ok = true
  stdout : result.stdout = dumps compactStyle table.json
  truncated : result.truncated = table.truncated

structure FirstRows {α : Type} (shown : Cell → α) (limit : Nat) (set : ResultSet) (table : Table α) : Prop where
  columns : table.columns = set.columns
  length : table.rows.length = min limit set.rows.length
  rows : ∀ (index : Nat) (row : List Cell), index < limit → set.rows[index]? = some row →
    table.rows[index]? = some (rowOf set.columns (row.map shown))
  truncated : table.truncated = true ↔ limit < set.rows.length

def Recoverable {α : Type} (shown : Cell → α) (limit : Nat) (set : ResultSet) : Prop :=
  ∀ row ∈ set.rows.take limit, RowRecoverable shown set.columns row

def safeJson (cell : Cell) : Json := writtenCell (jsonSafe cell)

theorem first_rows_taken {α : Type} (shown : Cell → α) (limit : Nat) (set : ResultSet) :
    FirstRows shown limit set ⟨set.columns, (set.rows.take limit).map fun row => rowOf set.columns (row.map shown),
      decide (limit < (fetched limit set).length)⟩ := by
  constructor
  · rfl
  · simp
  · intro index row before found
    simp [before, found]
  · simpa using fetched_more limit set

theorem recoverable_iff {α : Type} (shown : Cell → α) (first second : Cell) (different : shown first ≠ shown second)
    (limit : Nat) (positive : 1 ≤ limit) (set : ResultSet) :
    Recoverable shown limit set ↔ set.columns.Nodup ∨ set.rows = [] := by
  constructor
  · intro recoverable
    cases listed : set.rows with
    | nil => exact .inr rfl
    | cons row rest =>
        left
        have width : row.length = set.columns.length := set.width row (by rw [listed]; exact List.mem_cons_self ..)
        have seen : row ∈ set.rows.take limit := by
          obtain ⟨left, rfl⟩ := Nat.exists_eq_add_of_le' positive
          rw [listed]
          exact List.mem_cons_self ..
        exact (row_recoverable_iff shown first second different set.columns row width).mp (recoverable row seen)
  · rintro (distinct | nothing) row member
    · exact distinct_recoverable shown set.columns row distinct (set.width row (List.mem_of_mem_take member))
    · rw [nothing, List.take_nil] at member
      cases member

theorem executed_rows (engine : DuckDBAnalyticsEngine) (execute : String → Except PyException ResultSet) (sql : String)
    (maxRows : Option Int) (limit : Nat) (set : ResultSet) (answered : execute sql = .ok set) (positive : 1 ≤ limit)
    (limited : engine.rowLimit maxRows = limit) :
    ∃ result, engine.executeSelect execute sql maxRows = .ok result ∧ FirstRows jsonSafe limit set (tableOf result) := by
  have taken := first_rows_taken jsonSafe limit set
  have allowed : ¬ engine.rowLimit maxRows < 1 := by omega
  refine ⟨⟨set.columns, (set.rows.take limit).map (safeRow set.columns), ((set.rows.take limit).map (safeRow set.columns)).length,
    decide (limit < (fetched limit set).length)⟩, ?_, taken⟩
  rw [DuckDBAnalyticsEngine.executeSelect, if_neg allowed, answered, limited]
  dsimp only
  rw [Int.toNat_natCast, visible_rows_first]

variable (sqlglot : Sqlglot)

theorem printed_rows (executor : PostgresReadOnlyExecutor) (connection : List String → Except PyException ResultSet)
    (sql safeSql : String) (set : ResultSet) (accepted : validate sqlglot postgresPolicy sql executor.allowedTables = .ok safeSql)
    (answered : connection (executor.statements safeSql) = .ok set) :
    ∃ table, Prints (executor.execute sqlglot connection sql) table ∧
      FirstRows safeJson executor.maxRows set table := by
  have rows : ∀ row, writtenRow (safeRow set.columns row) = .obj (rowOf set.columns (row.map safeJson)) := by
    intro row
    rw [writtenRow, safeRow, row_of_map, List.map_map]
    rfl
  refine ⟨_, ?_, first_rows_taken safeJson executor.maxRows set⟩
  have sent : postgresStatement sqlglot executor.allowedTables sql = .ok safeSql := by rw [postgresStatement, accepted]
  have executed : executor.execute sqlglot connection sql =
      { ok := true
        stdout := dumps compactStyle (payload set.columns ((visibleRows executor.maxRows set).map (safeRow set.columns))
          (decide (executor.maxRows < (fetched executor.maxRows set).length)))
        truncated := decide (executor.maxRows < (fetched executor.maxRows set).length) } := by
    rw [PostgresReadOnlyExecutor.execute, sent]
    dsimp only
    rw [answered]
  rw [executed]
  refine ⟨rfl, ?_, rfl⟩
  simp only [payload, Table.json, visible_rows_first, List.map_map, Function.comp_def, rows, List.length_map]

theorem query_results_recoverable_iff (engine : DuckDBAnalyticsEngine) (execute : String → Except PyException ResultSet)
    (maxRows : Option Int) (executor : PostgresReadOnlyExecutor) (connection : List String → Except PyException ResultSet)
    (sql safeSql : String) (set : ResultSet) (limited : engine.rowLimit maxRows = executor.maxRows)
    (answered : execute sql = .ok set)
    (accepted : validate sqlglot postgresPolicy sql executor.allowedTables = .ok safeSql)
    (replied : connection (executor.statements safeSql) = .ok set) :
    (∃ result, engine.executeSelect execute sql maxRows = .ok result ∧
      FirstRows jsonSafe executor.maxRows set (tableOf result) ∧
      (Recoverable jsonSafe executor.maxRows set ↔ set.columns.Nodup ∨ set.rows = [])) ∧
    ∃ table, Prints (executor.execute sqlglot connection sql) table ∧
      FirstRows safeJson executor.maxRows set table ∧
      (Recoverable safeJson executor.maxRows set ↔ set.columns.Nodup ∨ set.rows = []) := by
  obtain ⟨result, executed, shown⟩ := executed_rows engine execute sql maxRows executor.maxRows set answered
    executor.rowsPositive limited
  obtain ⟨table, printed, listed⟩ := printed_rows sqlglot executor connection sql safeSql set accepted replied
  have cells : jsonSafe .null ≠ jsonSafe (.bool true) := by simp [jsonSafe]
  have values : safeJson .null ≠ safeJson (.bool true) := by simp [safeJson, jsonSafe, writtenCell, Cell.written]
  exact ⟨⟨result, executed, shown, recoverable_iff jsonSafe _ _ cells executor.maxRows executor.rowsPositive set⟩,
    table, printed, listed, recoverable_iff _ _ _ values executor.maxRows executor.rowsPositive set⟩

section Sample

def customerId : Expression := .node "Select" false [] .missing (.cons (.literal "1" false) .nil)

def customerSqlglot : Sqlglot where
  parse _ _ := .ok [some ⟨customerId, []⟩]
  parseOne _ _ := .ok ⟨customerId, []⟩
  sql _ _ := .ok "SELECT 1 AS customer_id, 2 AS order_id"

def customerSet : ResultSet := ⟨["customer_id", "order_id"], [[.int 1, .int 2], [.int 1, .int 3]], by decide⟩

theorem query_results_recoverable_customers :
    ∃ result, ({} : DuckDBAnalyticsEngine).executeSelect (fun _ => .ok customerSet) "SELECT 1" (some 1) = .ok result ∧
      FirstRows jsonSafe 1 customerSet (tableOf result) ∧
      (Recoverable jsonSafe 1 customerSet ↔ customerSet.columns.Nodup ∨ customerSet.rows = []) :=
  (query_results_recoverable_iff customerSqlglot {} (fun _ => .ok customerSet) (some 1)
    { allowedTables := [], maxRows := 1 } (fun _ => .ok customerSet) "SELECT 1" "SELECT 1 AS customer_id, 2 AS order_id"
    customerSet rfl rfl rfl rfl).1

-- SELECT * of two tables that are joined on their id.
def joinedSet : ResultSet := ⟨["id", "id"], [[.int 1, .int 2]], by decide⟩

theorem joined_ids_unrecoverable :
    ¬ ∀ (limit : Nat) (set : ResultSet), 1 ≤ limit → Recoverable jsonSafe limit set := by
  intro every
  have repeated : ¬ joinedSet.columns.Nodup := by decide
  have cells : jsonSafe .null ≠ jsonSafe (.bool true) := by simp [jsonSafe]
  rcases (recoverable_iff jsonSafe _ _ cells 1 (Nat.le_refl 1) joinedSet).mp (every 1 joinedSet (Nat.le_refl 1)) with
    distinct | nothing
  · exact repeated distinct
  · cases nothing

end Sample

end DataPilot.Sandbox
