import DataPilot.Base.Alnum
import DataPilot.Base.Digits
import DataPilot.Base.Interleaving
import DataPilot.Datasets.Access
import DataPilot.Sandbox.PostgresExecutor
import DataPilot.Tools.DefinitionReads

set_option autoImplicit false

namespace DataPilot.Tools

open DataPilot.Base DataPilot.Core DataPilot.Datasets DataPilot.Sandbox DataPilot.Sql
open DataPilot.Tools.Shared (pyValue)

abbrev Handling (Shared : Type) := Routine Shared (Except PyException PyValue)

-- A registered tool with what its invoke does between its awaits.
structure LiveTool (Shared : Type) where
  name : String
  description : String
  inputSchema : Option Dict
  parallelSafe : Bool
  invoke : Dict → Handling Shared

-- The tool as it answers while nobody changes the state.
def LiveTool.seen {Shared : Type} (shared : Shared) (tool : LiveTool Shared) : RegisteredTool where
  name := tool.name
  description := tool.description
  inputSchema := tool.inputSchema
  parallelSafe := tool.parallelSafe
  invoke _ arguments := ((tool.invoke arguments).run shared).2

structure TableInfo where
  name : String
  tableType : String

structure ColumnInfo where
  name : String
  dataType : String
  nullable : Bool

-- What DuckDB answers, as its catalog stands.
structure DuckDBConnection (Shared : Type) where
  tables : Shared → Except PyException (List TableInfo)
  describe : Shared → String → Except PyException (List ColumnInfo)
  sample : Shared → String → Except PyException ResultSet
  execute : Shared → String → Except PyException ResultSet

-- What build_initial_tools and the tool decorator are given: the library answers
-- of pydantic are its messages for arguments it refuses, and plot_chart's outcome.
structure InitialTools (Shared : Type) where
  sqlglot : Sqlglot
  sqlPolicy : SQLPolicy := {}
  engine : DuckDBAnalyticsEngine := {}
  connection : DuckDBConnection Shared
  datasetAccess : Option (Shared → List Dataset)
  workspaceId : Option Nat
  schemas : String → Option Dict
  refusal : String → Dict → String
  plotChart : Dict → Except PyException PyValue

def validateIdentifier (value : String) : Option PyException :=
  let plain := String.ofList (value.toList.filter (· ≠ '_'))
  if value = "" || !isAlnum plain || value.toList.head?.any isDigitChar then
    some ⟨"ValueError", "Invalid DuckDB identifier."⟩
  else none

def unknownTable (tableName : String) : PyException :=
  ⟨"KeyError", String.ofList (reprString s!"Unknown table: {tableName}")⟩

def noActiveWorkspace : PyException := ⟨"RuntimeError", "No workspace is active for the current operation."⟩

variable {Shared : Type}

def DuckDBConnection.tableNames (connection : DuckDBConnection Shared) (shared : Shared) : Except PyException (List String) :=
  (connection.tables shared).map fun tables => tables.map TableInfo.name

def columnPayload (column : ColumnInfo) : Json :=
  .obj [("name", .str column.name), ("data_type", .str column.dataType), ("nullable", .bool column.nullable)]

def schemaPayload (tableName : String) (columns : List ColumnInfo) (set : ResultSet) : Json :=
  .obj [("table_name", .str tableName), ("columns", .arr (columns.map columnPayload)),
    ("sample_rows", .arr (set.rows.map fun row => writtenRow (safeRow set.columns row)))]

def DuckDBConnection.getSchema (connection : DuckDBConnection Shared) (shared : Shared) (tableName : String) :
    Except PyException Json :=
  match validateIdentifier tableName with
  | some failure => .error failure
  | none =>
      match connection.tableNames shared with
      | .error failure => .error failure
      | .ok names =>
          if casefold tableName ∉ names.map casefold then .error (unknownTable tableName)
          else
            match connection.describe shared tableName, connection.sample shared tableName with
            | .error failure, _ => .error failure
            | .ok _, .error failure => .error failure
            | .ok columns, .ok set => .ok (schemaPayload tableName columns set)

variable (tools : InitialTools Shared)

def InitialTools.refused (tool : String) (arguments : Dict) : PyException :=
  ⟨"ValidationError", tools.refusal tool arguments⟩

-- The arguments model of a tool with one string parameter, and no others.
def InitialTools.textArgument (tool key : String) (longest : Option Nat) (arguments : Dict) : Except PyException String :=
  match arguments with
  | [(name, .str text)] =>
      if name = key ∧ 1 ≤ text.length ∧ ∀ limit ∈ longest, text.length ≤ limit then .ok text
      else .error (tools.refused tool arguments)
  | _ => .error (tools.refused tool arguments)

-- An await hands the state over: what follows reads it as it then stands.
def reading (read : Shared → Handling Shared) : Handling Shared := .step id read

-- await dataset_access.list_table_names(require_workspace_id())
def InitialTools.accessible (access : Shared → List Dataset) (body : List String → Handling Shared) : Handling Shared :=
  match tools.workspaceId with
  | none => .done (.error noActiveWorkspace)
  | some workspaceId => reading fun shared => body (listTableNames workspaceId (access shared))

def tablePayload (tables : List (String × String)) : Json :=
  .obj [("tables", .arr (tables.map fun table => .obj [("name", .str table.1), ("table_type", .str table.2)])),
    ("count", .int tables.length)]

def InitialTools.listTables (arguments : Dict) : Handling Shared :=
  if arguments ≠ [] then .done (.error (tools.refused "list_tables" arguments))
  else
    match tools.datasetAccess with
    | none => reading fun shared => .done ((tools.connection.tables shared).map fun found =>
        pyValue (tablePayload (found.map fun table => (table.name, table.tableType))))
    | some access => tools.accessible access fun names =>
        .done (.ok (pyValue (tablePayload (names.map fun name => (name, "VIEW")))))

def InitialTools.describing (tableName : String) : Handling Shared :=
  reading fun shared => .done ((tools.connection.getSchema shared tableName).map pyValue)

def InitialTools.getSchema (arguments : Dict) : Handling Shared :=
  match tools.textArgument "get_schema" "table_name" none arguments with
  | .error failure => .done (.error failure)
  | .ok tableName =>
      match tools.datasetAccess with
      | none => tools.describing tableName
      | some access => tools.accessible access fun allowedTables =>
          if tableName ∈ allowedTables then tools.describing tableName else .done (.error (unknownTable tableName))

def resultPayload (result : QueryResult) : Json :=
  .obj [("columns", .arr (result.columns.map .str)), ("rows", .arr (result.rows.map writtenRow)),
    ("row_count", .int result.rowCount), ("truncated", .bool result.truncated)]

def InitialTools.executing (safeSql : String) : Handling Shared :=
  reading fun shared =>
    .done ((tools.engine.executeSelect (tools.connection.execute shared) safeSql none).map fun result =>
      pyValue (resultPayload result))

def InitialTools.querying (sql : String) (allowedTables : List String) : Handling Shared :=
  match validate tools.sqlglot tools.sqlPolicy sql allowedTables with
  | .error failure => .done (.error failure)
  | .ok safeSql => tools.executing safeSql

def InitialTools.runSql (arguments : Dict) : Handling Shared :=
  match tools.textArgument "run_sql" "sql" (some 100000) arguments with
  | .error failure => .done (.error failure)
  | .ok sql =>
      match tools.datasetAccess with
      | none => reading fun shared =>
          match tools.connection.tableNames shared with
          | .error failure => .done (.error failure)
          | .ok allowedTables => tools.querying sql allowedTables
      | some access => tools.accessible access fun allowedTables => tools.querying sql allowedTables

def InitialTools.decorated (name description : String) (invoke : Dict → Handling Shared) : LiveTool Shared where
  name := name
  description := description
  inputSchema := tools.schemas name
  parallelSafe := true
  invoke := invoke

def InitialTools.build : List (LiveTool Shared) := [
  tools.decorated "list_tables" ("做什么：列出当前分析库中的全部表。何时使用：用户询问有哪些数据、需要选择分析对象，" ++
    "或在编写 SQL 前确认表名时使用。参数：无。示例：\x7b\x7d。") tools.listTables,
  tools.decorated "get_schema" ("做什么：读取指定表的字段、类型和前几行样例数据。何时使用：生成 SQL 或编写 Python 分析代码前，" ++
    "需要了解列名、字段类型和示例值时使用。参数 table_name：当前分析库中已存在的表名。" ++
    "示例：\x7b\"table_name\":\"sales\"\x7d。") tools.getSchema,
  tools.decorated "run_sql" ("做什么：校验并执行只读 SELECT SQL，返回列名和有限行数的查询结果。" ++
    "何时使用：对已登记的数据表进行筛选、聚合、分组和趋势计算时使用。" ++
    "参数 sql：只能包含一条 SELECT；仅可使用当前分析库中的表，禁止写操作、外部文件函数和多语句。" ++
    "示例：\x7b\"sql\":\"SELECT region, SUM(amount) AS total FROM sales GROUP BY region\"\x7d。") tools.runSql,
  tools.decorated "plot_chart" ("做什么：校验并生成前端 ECharts 可直接渲染的图表配置。" ++
    "何时使用：SQL 或 Python 分析已经产生可用于可视化的结构化数据，" ++
    "且用户需要柱状图、折线图、面积图、饼图或散点图时使用。参数 spec：包含 type、title、x_field、y_fields 和 data；" ++
    "data 中每一行必须包含 x_field 和全部 y_fields，y 值必须为数字。" ++
    "示例：\x7b\"spec\":\x7b\"type\":\"bar\",\"title\":\"区域销售额\",\"x_field\":\"region\",\"y_fields\":[\"total\"]," ++
    "\"data\":[\x7b\"region\":\"East\",\"total\":120\x7d]\x7d\x7d。") fun arguments => .done (tools.plotChart arguments)]

theorem done_read_only (outcome : Except PyException PyValue) : ReadOnly (.done outcome : Handling Shared) := by
  intro effect next occurs
  cases occurs

theorem reading_read_only (read : Shared → Handling Shared) (each : ∀ shared, ReadOnly (read shared)) :
    ReadOnly (reading read) := by
  intro effect next occurs
  cases occurs with
  | here => rfl
  | later _ _ shared later => exact each shared effect next later

theorem accessible_read_only (access : Shared → List Dataset) (body : List String → Handling Shared)
    (each : ∀ names, ReadOnly (body names)) : ReadOnly (tools.accessible access body) := by
  unfold InitialTools.accessible
  cases tools.workspaceId with
  | none => exact done_read_only _
  | some workspaceId => exact reading_read_only _ fun shared => each _

theorem list_tables_read_only (arguments : Dict) : ReadOnly (tools.listTables arguments) := by
  unfold InitialTools.listTables
  split
  · exact done_read_only _
  · cases tools.datasetAccess with
    | none => exact reading_read_only _ fun shared => done_read_only _
    | some access => exact accessible_read_only tools access _ fun names => done_read_only _

theorem describing_read_only (tableName : String) : ReadOnly (tools.describing tableName) :=
  reading_read_only _ fun _ => done_read_only _

theorem get_schema_read_only (arguments : Dict) : ReadOnly (tools.getSchema arguments) := by
  unfold InitialTools.getSchema
  cases tools.textArgument "get_schema" "table_name" none arguments with
  | error failure => exact done_read_only _
  | ok tableName =>
      cases tools.datasetAccess with
      | none => exact describing_read_only tools tableName
      | some access =>
          apply accessible_read_only tools access
          intro allowedTables
          by_cases allowed : tableName ∈ allowedTables
          · rw [if_pos allowed]
            exact describing_read_only tools tableName
          · rw [if_neg allowed]
            exact done_read_only _

theorem querying_read_only (sql : String) (allowedTables : List String) : ReadOnly (tools.querying sql allowedTables) := by
  unfold InitialTools.querying
  cases validate tools.sqlglot tools.sqlPolicy sql allowedTables with
  | error failure => exact done_read_only _
  | ok safeSql => exact reading_read_only _ fun shared => done_read_only _

theorem run_sql_read_only (arguments : Dict) : ReadOnly (tools.runSql arguments) := by
  unfold InitialTools.runSql
  cases tools.textArgument "run_sql" "sql" (some 100000) arguments with
  | error failure => exact done_read_only _
  | ok sql =>
      cases tools.datasetAccess with
      | none =>
          apply reading_read_only
          intro shared
          cases tools.connection.tableNames shared with
          | error failure => exact done_read_only _
          | ok allowedTables => exact querying_read_only tools sql allowedTables
      | some access => exact accessible_read_only tools access _ (querying_read_only tools sql)

theorem initial_tools_read_only (tool : LiveTool Shared) (member : tool ∈ tools.build) (arguments : Dict) :
    ReadOnly (tool.invoke arguments) := by
  simp only [InitialTools.build, List.mem_cons, List.not_mem_nil, or_false] at member
  obtain rfl | rfl | rfl | rfl := member
  · exact list_tables_read_only tools arguments
  · exact get_schema_read_only tools arguments
  · exact run_sql_read_only tools arguments
  · exact done_read_only _

end DataPilot.Tools
