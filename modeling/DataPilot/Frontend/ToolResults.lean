import DataPilot.Tools.Chart

set_option autoImplicit false

namespace DataPilot.Frontend

open DataPilot.Base DataPilot.Tools
open DataPilot.Tools.Shared (pyValue pyItems pyFields)

-- What ToolResultView renders.
inductive ResultView where
  | grid (rows : List Dict) (columns : List String)
  | chart (spec : Dict)
  | python (stdout stderr : String) (artifacts : List Dict)
  | text

def queryResult (value : Dict) : Option ResultView :=
  match readList readRow (dictGet "rows" value), readList readText (dictGet "columns" value) with
  | some rows, some columns => some (.grid rows columns)
  | _, _ => none

def isArray : Json → Bool
  | .arr _ => true
  | _ => false

def chartArtifact (value : Dict) : Option ResultView :=
  match readText (dictGet "kind" value), readRow (dictGet "spec" value) with
  | some kind, some spec =>
      if kind ≠ "chart" then none
      else if (readText (dictGet "type" spec)).isNone || (readText (dictGet "title" spec)).isNone ||
          (readText (dictGet "x_field" spec)).isNone || !isArray (dictGet "y_fields" spec) || !isArray (dictGet "data" spec) then
        none
      else some (.chart spec)
  | _, _ => none

def isArtifact (value : Json) : Option Dict :=
  match readRow value with
  | none => none
  | some fields =>
      if (["id", "filename", "mime_type", "url"].all fun key => (readText (dictGet key fields)).isSome) &&
          isNumber (dictGet "size" fields) then some fields
      else none

def pythonArtifacts (value : Dict) : Option ResultView :=
  match readText (dictGet "stdout" value), readText (dictGet "stderr" value), dictGet "artifacts" value with
  | some stdout, some stderr, .arr artifacts => some (.python stdout stderr (artifacts.filterMap isArtifact))
  | _, _, _ => none

-- The branches of the template.
def resultView (result : Json) : ResultView :=
  match readRow result with
  | none => .text
  | some value => (((queryResult value).or (chartArtifact value)).or (pythonArtifacts value)).getD .text

-- Number and String of a value. They are none where the conversion throws, as it does
-- for an object whose own toString and valueOf are no functions.
structure JsHost (Number : Type) where
  number : Json → Option Number
  text : Json → Option String

structure Series (Number : Type) where
  name : String
  kind : String
  smooth : Bool
  areaStyle : Bool
  data : List Number

-- The option that ECharts is given, as far as it depends on the spec.
inductive Drawing (Number : Type) where
  | pie (title : String) (slices : List (String × Number))
  | axes (title : String) (xType : String) (categories : Option (List String)) (series : List (Series Number))

-- row[field] where it is the row's own. It is none where the read gives undefined or what
-- a prototype has, or throws.
def ownValue (field : String) : Reader Json
  | .obj fields => if dictHas field fields then some (dictGet field fields) else none
  | _ => none

section Rendering

variable {Number : Type} (host : JsHost Number)

def seriesOf (kind : String) (rows : List Json) (field : String) : Option (Series Number) :=
  ((readItems (ownValue field) rows).bind (readItems host.number)).map fun data =>
    { name := field
      kind := if kind = "area" then "line" else kind
      smooth := kind = "line" || kind = "area"
      areaStyle := kind = "area"
      data }

def seriesEach (kind : String) (rows : List Json) : List String → Option (List (Series Number))
  | [] => some []
  | field :: fields => (seriesOf host kind rows field).bind fun first => (seriesEach kind rows fields).map (first :: ·)

-- renderChart of ChartView.
def renderChart (spec : Dict) : Option (Drawing Number) := do
  let kind ← readText (dictGet "type" spec)
  let title ← readText (dictGet "title" spec)
  let xField ← readText (dictGet "x_field" spec)
  let yFields ← readList readText (dictGet "y_fields" spec)
  let rows ← readList some (dictGet "data" spec)
  let names ← (readItems (ownValue xField) rows).bind (readItems host.text)
  if kind = "pie" then
    let yField ← yFields.head?
    let values ← (readItems (ownValue yField) rows).bind (readItems host.number)
    return .pie title (names.zip values)
  else
    let series ← seriesEach host kind rows yFields
    return .axes title (if kind = "scatter" then "value" else "category")
      (if kind = "scatter" then none else some names) series

-- The chart that a spec asks for, from the names and the values that its rows convert to.
-- A scatter chart has the y values without their x values.
def drawingOf (spec : ChartSpec) (names : List String) (points : String → List Number) : Drawing Number :=
  let lines (kind : String) (smooth areaStyle : Bool) : List (Series Number) :=
    spec.yFields.map fun field => ⟨field, kind, smooth, areaStyle, points field⟩
  match spec.chartType with
  | .line => .axes spec.title "category" (some names) (lines "line" true false)
  | .bar => .axes spec.title "category" (some names) (lines "bar" false false)
  | .area => .axes spec.title "category" (some names) (lines "line" true true)
  | .scatter => .axes spec.title "value" none (lines "scatter" false false)
  | .pie => .pie spec.title (spec.yFields.flatMap fun field => names.zip (points field))

-- The conversions of a chart: String of each row's x value, Number of its y values.
structure Converts (tool : ChartTool) (spec : ChartSpec) (names : List String) (points : String → List Number) : Prop where
  names : readItems host.text (spec.data.map fun row => tool.written (dictGet spec.xField row)) = some names
  points : ∀ field ∈ spec.yFields,
    readItems host.number (spec.data.map fun row => tool.written (dictGet field row)) = some (points field)

end Rendering

-- The value of a tool reaches the browser as the JSON it was made of.
mutual

theorem py_value_jsonable (value : Json) : (pyValue value).jsonable = .ok value := by
  cases value with
  | arr items => rw [pyValue, PyValue.jsonable, py_items_jsonable items]; rfl
  | obj fields => rw [pyValue, PyValue.jsonable, py_fields_jsonable fields]; rfl
  | _ => rfl

theorem py_items_jsonable (items : List Json) : jsonableItems (pyItems items) = .ok items := by
  cases items with
  | nil => rfl
  | cons item rest =>
      rw [pyItems, jsonableItems, py_value_jsonable item, py_items_jsonable rest]
      rfl

theorem py_fields_jsonable (fields : Dict) : jsonableFields (pyFields fields) = .ok fields := by
  cases fields with
  | nil => rfl
  | cons field rest =>
      rw [pyFields, jsonableFields, py_value_jsonable field.2, py_fields_jsonable rest]
      rfl

end

section Charts

variable (tool : ChartTool)

theorem written_row_has (field : String) (row : Dict) : dictHas field (tool.writtenRow row) = dictHas field row := by
  rw [dictHas, dictHas, ChartTool.writtenRow, List.any_map]
  rfl

theorem written_row_get (field : String) (row : Dict) (held : dictHas field row = true) :
    dictGet field (tool.writtenRow row) = tool.written (dictGet field row) := by
  induction row with
  | nil => cases held
  | cons entry rest ih =>
      obtain ⟨name, value⟩ := entry
      rw [ChartTool.writtenRow, List.map_cons, dictGet, dictGet]
      by_cases same : name = field
      · rw [if_pos same, if_pos same]
      · rw [if_neg same, if_neg same]
        apply ih
        simpa [dictHas, same] using held

theorem read_own (field : String) (rows : List Dict) (held : ∀ row ∈ rows, dictHas field row = true) :
    readItems (ownValue field) (rows.map fun row => .obj (tool.writtenRow row)) =
      some (rows.map fun row => tool.written (dictGet field row)) := by
  apply read_items_map
  intro row member
  have here := held row member
  rw [ownValue, written_row_has, if_pos here, written_row_get tool field row here]

theorem chart_viewed (spec : ChartSpec) : resultView (tool.artifactJson spec) = .chart (tool.specFields spec) := by
  simp [resultView, ChartTool.artifactJson, readRow, queryResult, chartArtifact, readList, readText, dictGet, isArray,
    ChartTool.specFields]

variable {Number : Type} (host : JsHost Number)

theorem series_each (kind : String) (rows : List Dict) (points : String → List Number) (fields : List String)
    (held : ∀ row ∈ rows, ∀ field ∈ fields, dictHas field row = true)
    (numbers : ∀ field ∈ fields,
      readItems host.number (rows.map fun row => tool.written (dictGet field row)) = some (points field)) :
    seriesEach host kind (rows.map fun row => .obj (tool.writtenRow row)) fields =
      some (fields.map fun field =>
        ⟨field, if kind = "area" then "line" else kind, kind = "line" || kind = "area", kind = "area", points field⟩) := by
  induction fields with
  | nil => rfl
  | cons field fields ih =>
      have own := read_own tool field rows fun row member => held row member field List.mem_cons_self
      have later := ih (fun row member other listed => held row member other (List.mem_cons_of_mem field listed))
        fun other listed => numbers other (List.mem_cons_of_mem field listed)
      rw [seriesEach, seriesOf, own, Option.bind_some, numbers field List.mem_cons_self, later]
      simp

theorem chart_rendered (spec : ChartSpec) (shaped : WellShaped spec) (names : List String) (points : String → List Number)
    (converts : Converts host tool spec names points) :
    renderChart host (tool.specFields spec) = some (drawingOf spec names points) := by
  have own := read_own tool spec.xField spec.data shaped.placed
  have converted := converts.names
  have texts : readItems readText (spec.yFields.map .str) = some spec.yFields :=
    read_items_written readText .str spec.yFields fun _ _ => rfl
  have rows : readItems some (spec.data.map fun row => .obj (tool.writtenRow row)) =
      some (spec.data.map fun row => .obj (tool.writtenRow row)) := by
    have each := read_items_map some id id (spec.data.map fun row => Json.obj (tool.writtenRow row)) fun _ _ => rfl
    rwa [List.map_id] at each
  have series := fun kind => series_each tool host kind spec.data points spec.yFields
    (fun row member field listed => (shaped.measured row member field listed).1) converts.points
  have kind : readText (dictGet "type" (tool.specFields spec)) = some spec.chartType.text := rfl
  have title : readText (dictGet "title" (tool.specFields spec)) = some spec.title := rfl
  have xField : readText (dictGet "x_field" (tool.specFields spec)) = some spec.xField := rfl
  have yFields : readList readText (dictGet "y_fields" (tool.specFields spec)) = some spec.yFields := texts
  have data : readList some (dictGet "data" (tool.specFields spec)) =
      some (spec.data.map fun row => .obj (tool.writtenRow row)) := rows
  simp only [renderChart, kind, title, xField, yFields, data, own, converted, Option.bind_eq_bind, Option.bind_some]
  cases chartType : spec.chartType with
  | pie =>
      obtain ⟨field, one⟩ := List.length_eq_one_iff.mp (shaped.single (.inl chartType))
      have listed : field ∈ spec.yFields := by simp [one]
      have values := read_own tool field spec.data fun row member => (shaped.measured row member field listed).1
      simp [ChartType.text, drawingOf, chartType, one, values, converts.points field listed]
  | line => simp [ChartType.text, drawingOf, chartType, series]
  | bar => simp [ChartType.text, drawingOf, chartType, series]
  | area => simp [ChartType.text, drawingOf, chartType, series]
  | scatter => simp [ChartType.text, drawingOf, chartType, series]

theorem chart_drawn (arguments : Dict) :
    ((∃ value, tool.plotChart arguments = .ok value) ↔ ∃ spec, readChartArguments arguments = some spec ∧ WellShaped spec) ∧
      ∀ value, tool.plotChart arguments = .ok value → ∃ spec result fields, readChartArguments arguments = some spec ∧
        value.jsonable = .ok result ∧ resultView result = .chart fields ∧
        ∀ names points, Converts host tool spec names points →
          renderChart host fields = some (drawingOf spec names points) := by
  constructor
  · constructor
    · intro ⟨value, answered⟩
      obtain ⟨spec, read, shaped, _⟩ := (plot_chart_iff tool arguments value).mp answered
      exact ⟨spec, read, shaped⟩
    · intro ⟨spec, read, shaped⟩
      exact ⟨_, (plot_chart_iff tool arguments _).mpr ⟨spec, read, shaped, rfl⟩⟩
  · intro value answered
    obtain ⟨spec, read, shaped, rfl⟩ := (plot_chart_iff tool arguments value).mp answered
    exact ⟨spec, tool.artifactJson spec, tool.specFields spec, read, py_value_jsonable _, chart_viewed tool spec,
      chart_rendered tool host spec shaped⟩

section Sample

-- Two regions with a number each, for an engine that converts texts and integers.
def totalsSpec : ChartSpec where
  chartType := .bar
  title := "Totals"
  xField := "region"
  yFields := ["total"]
  data := [[("region", .str "East"), ("total", .int 120)], [("region", .str "West"), ("total", .int 80)]]

def plainHost : JsHost Int where
  number
    | .int value => some value
    | _ => none
  text
    | .str value => some value
    | _ => none

def plainTool : ChartTool := ⟨fun _ _ => "1 validation error for plot_chart", id⟩

def totalsArguments : Dict := [("spec", .obj (plainTool.specFields totalsSpec))]

end Sample

theorem chart_drawn_totals :
    ∃ value result fields, plainTool.plotChart totalsArguments = .ok value ∧ value.jsonable = .ok result ∧
      resultView result = .chart fields ∧ renderChart plainHost fields =
        some (.axes "Totals" "category" (some ["East", "West"]) [⟨"total", "bar", false, false, [120, 80]⟩]) := by
  have read : readChartArguments totalsArguments = some totalsSpec := by rfl
  have shaped : WellShaped totalsSpec := (shape_problem_none_iff totalsSpec).mp (by decide +kernel)
  obtain ⟨accepts, draws⟩ := chart_drawn plainTool plainHost totalsArguments
  obtain ⟨value, answered⟩ := accepts.mpr ⟨totalsSpec, read, shaped⟩
  obtain ⟨spec, result, fields, known, written, viewed, rendered⟩ := draws value answered
  obtain rfl : totalsSpec = spec := Option.some.inj (read.symm.trans known)
  refine ⟨value, result, fields, answered, written, viewed, ?_⟩
  refine rendered ["East", "West"] (fun _ => [120, 80]) ⟨rfl, ?_⟩
  intro field listed
  rw [List.mem_singleton.mp listed]
  rfl

end Charts

end DataPilot.Frontend
