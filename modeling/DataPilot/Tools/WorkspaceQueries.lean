import DataPilot.Sql.Isolation
import DataPilot.Tools.Chart
import DataPilot.Tools.InitialTools

set_option autoImplicit false

namespace DataPilot.Tools

open DataPilot.Base DataPilot.Datasets DataPilot.Sql

-- Every base table that a statement reads is the table of a ready dataset of the workspace.
def ReadsReady (dialect : String) (workspaceId : Nat) (rows : List Dataset) (tree : Expression) : Prop :=
  ∀ reference ∈ baseTables dialect [] tree, ∃ row ∈ rows, row.workspaceId = workspaceId ∧ row.status = .ready ∧
    casefold row.tableName = referenceName reference

theorem reads_ready_iff (dialect : String) (workspaceId : Nat) (rows : List Dataset) (tree : Expression) :
    ReadsReady dialect workspaceId rows tree ↔ Isolated dialect tree (listTableNames workspaceId rows) := by
  have named : ∀ name, name ∈ (listTableNames workspaceId rows).map casefold ↔
      ∃ row ∈ rows, row.workspaceId = workspaceId ∧ row.status = .ready ∧ casefold row.tableName = name := by
    intro name
    rw [List.mem_map]
    constructor
    · rintro ⟨table, listed, rfl⟩
      obtain ⟨row, member, own, ready, rfl⟩ := (listed_member workspaceId rows table).mp listed
      exact ⟨row, member, own, ready, rfl⟩
    · rintro ⟨row, member, own, ready, rfl⟩
      exact ⟨row.tableName, (listed_member workspaceId rows _).mpr ⟨row, member, own, ready, rfl⟩, rfl⟩
  simp only [ReadsReady, Isolated, named]

section Workspace

variable {Shared : Type} (tools : InitialTools Shared)

theorem querying_ways (sql : String) (allowedTables : List String) :
    (∃ failure, tools.querying sql allowedTables = .done (.error failure)) ∨
      ∃ statement safeSql, tools.querying sql allowedTables = tools.executing safeSql ∧
        tools.sqlglot.parse tools.sqlPolicy.dialect sql = .ok [some statement] ∧
        tools.sqlglot.sql (some tools.sqlPolicy.dialect) statement = .ok safeSql ∧
        checkTree tools.sqlPolicy statement.tree allowedTables = none := by
  unfold InitialTools.querying
  cases accepted : validate tools.sqlglot tools.sqlPolicy sql allowedTables with
  | error failure => exact .inl ⟨failure, rfl⟩
  | ok safeSql =>
      obtain ⟨statement, parsed, passed, printed⟩ := validate_ok tools.sqlglot tools.sqlPolicy sql safeSql allowedTables accepted
      exact .inr ⟨statement, safeSql, rfl, parsed, printed, passed⟩

theorem querying_accepted (sql safeSql : String) (allowedTables : List String)
    (accepted : validate tools.sqlglot tools.sqlPolicy sql allowedTables = .ok safeSql) :
    tools.querying sql allowedTables = tools.executing safeSql := by
  rw [InitialTools.querying, accepted]

theorem run_sql_ways (access : Shared → List Dataset) (workspaceId : Nat) (given : tools.datasetAccess = some access)
    (current : tools.workspaceId = some workspaceId) (arguments : Dict) :
    (∃ failure, tools.runSql arguments = .done (.error failure)) ∨
      ∃ sql, tools.textArgument "run_sql" "sql" (some 100000) arguments = .ok sql ∧
        tools.runSql arguments = reading fun shared => tools.querying sql (listTableNames workspaceId (access shared)) := by
  unfold InitialTools.runSql
  cases read : tools.textArgument "run_sql" "sql" (some 100000) arguments with
  | error failure => exact .inl ⟨failure, rfl⟩
  | ok sql =>
      refine .inr ⟨sql, rfl, ?_⟩
      rw [given]
      dsimp only
      rw [InitialTools.accessible, current]

theorem queries_isolated_iff (access : Shared → List Dataset) (workspaceId : Nat) (given : tools.datasetAccess = some access)
    (current : tools.workspaceId = some workspaceId) :
    (∀ sqlglot policy sql out allowedTables statement, validate sqlglot policy sql allowedTables = .ok out →
      sqlglot.parse policy.dialect sql = .ok [some statement] →
        (Isolated policy.dialect statement.tree allowedTables ↔ ScopedUses policy.dialect statement.tree allowedTables)) ∧
    ∀ arguments, (∃ failure, tools.runSql arguments = .done (.error failure)) ∨
      ∃ sql next, tools.textArgument "run_sql" "sql" (some 100000) arguments = .ok sql ∧
        tools.runSql arguments = reading next ∧ ∀ shared, (∃ failure, next shared = .done (.error failure)) ∨
          ∃ statement safeSql, next shared = tools.executing safeSql ∧
            tools.sqlglot.parse tools.sqlPolicy.dialect sql = .ok [some statement] ∧
            tools.sqlglot.sql (some tools.sqlPolicy.dialect) statement = .ok safeSql ∧
            (ReadsReady tools.sqlPolicy.dialect workspaceId (access shared) statement.tree ↔
              ScopedUses tools.sqlPolicy.dialect statement.tree (listTableNames workspaceId (access shared))) := by
  refine ⟨validate_isolated_iff, fun arguments => ?_⟩
  rcases run_sql_ways tools access workspaceId given current arguments with failed | ⟨sql, read, asked⟩
  · exact .inl failed
  · refine .inr ⟨sql, _, read, asked, fun shared => ?_⟩
    rcases querying_ways tools sql (listTableNames workspaceId (access shared)) with failed | ⟨statement, safeSql, rest⟩
    · exact .inl failed
    · obtain ⟨executes, parsed, printed, passed⟩ := rest
      refine .inr ⟨statement, safeSql, executes, parsed, printed, ?_⟩
      rw [reads_ready_iff]
      exact accepted_isolated_iff tools.sqlPolicy statement.tree _ passed

end Workspace

section Sample

def textSchema (key : String) : Dict :=
  [("type", .str "object"), ("properties", .obj [(key, .obj [("type", .str "string")])]), ("required", .arr [.str key])]

theorem counted_width : ∀ row ∈ [[Core.Cell.int 1]], row.length = ["1"].length := by decide

theorem limit_positive : 1 ≤ 1000 := by decide

-- The analysis of workspace 1 over the dataset rows, where a query counts to one.
def sampleTools : InitialTools (List Dataset) where
  sqlglot := twoStatements
  engine := ⟨1000, limit_positive⟩
  connection := {
    tables := fun rows => .ok (rows.map fun row => ⟨row.tableName, "VIEW"⟩)
    describe := fun _ _ => .ok [⟨"region", "VARCHAR", true⟩]
    sample := fun _ _ => .ok ⟨["region"], [], fun _ member => absurd member List.not_mem_nil⟩
    execute := fun _ _ => .ok ⟨["1"], [[.int 1]], counted_width⟩ }
  datasetAccess := some id
  workspaceId := some 1
  schemas name :=
    if name = "list_tables" then some [("type", .str "object"), ("properties", .obj [])]
    else some (textSchema (if name = "get_schema" then "table_name" else if name = "run_sql" then "sql" else "spec"))
  refusal name _ := s!"1 validation error for {name}"
  plotChart := ChartTool.plotChart ⟨fun _ _ => "1 validation error for plot_chart", id⟩

def workspaceRows : List Dataset := [⟨1, 1, "orders", .ready, none, none⟩, ⟨2, 2, "salaries", .ready, none, none⟩]

end Sample

theorem queries_isolated_iff_plain :
    (Isolated "duckdb" plainTree ["ORDERS"] ↔ ScopedUses "duckdb" plainTree ["ORDERS"]) ∧
      ∃ next, sampleTools.runSql [("sql", .str plainText)] = reading next ∧
        ∃ statement safeSql, next workspaceRows = sampleTools.executing safeSql ∧
          twoStatements.parse "duckdb" plainText = .ok [some statement] ∧
          (ReadsReady "duckdb" 1 workspaceRows statement.tree ↔
            ScopedUses "duckdb" statement.tree (listTableNames 1 workspaceRows)) := by
  obtain ⟨guarded, called⟩ := queries_isolated_iff sampleTools id 1 rfl rfl
  refine ⟨guarded twoStatements {} plainText plainText ["ORDERS"] ⟨plainTree, []⟩ (by decide +kernel) (by decide +kernel), ?_⟩
  have given : sampleTools.textArgument "run_sql" "sql" (some 100000) [("sql", .str plainText)] = .ok plainText := by rfl
  have runs : sampleTools.runSql [("sql", .str plainText)] =
      reading fun rows => sampleTools.querying plainText (listTableNames 1 rows) := by rfl
  rcases called [("sql", .str plainText)] with ⟨failure, failed⟩ | ⟨sql, next, read, asked, courses⟩
  · cases failed
  · obtain rfl : plainText = sql := Except.ok.inj (given.symm.trans read)
    refine ⟨next, asked, ?_⟩
    rcases courses workspaceRows with ⟨failure, failed⟩ | ⟨statement, safeSql, executes, parsed, _, reads⟩
    · have accepted : validate twoStatements {} plainText (listTableNames 1 workspaceRows) = .ok plainText := by
        decide +kernel
      obtain ⟨_, rfl⟩ := Routine.step.inj (runs.symm.trans asked)
      cases (querying_accepted sampleTools plainText plainText _ accepted).symm.trans failed
    · exact ⟨statement, safeSql, executes, parsed, reads⟩

end DataPilot.Tools
