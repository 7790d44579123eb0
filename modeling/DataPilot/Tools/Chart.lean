import DataPilot.Base.JsonFields
import DataPilot.Base.Repr
import DataPilot.Tools.DefinitionReads
import Mathlib.Data.List.Dedup

set_option autoImplicit false

namespace DataPilot.Tools

open DataPilot.Base
open DataPilot.Tools.Shared (pyValue pyItems pyFields)

inductive ChartType where
  | line
  | bar
  | area
  | pie
  | scatter
deriving DecidableEq

def ChartType.text : ChartType → String
  | .line => "line"
  | .bar => "bar"
  | .area => "area"
  | .pie => "pie"
  | .scatter => "scatter"

def readChartType : Reader ChartType
  | .str text => [ChartType.line, .bar, .area, .pie, .scatter].find? fun chartType => chartType.text = text
  | _ => none

structure ChartSpec where
  chartType : ChartType
  title : String
  xField : String
  yFields : List String
  data : List Dict

def readShort (longest : Nat) : Reader String
  | .str text => if 1 ≤ text.length ∧ text.length ≤ longest then some text else none
  | _ => none

def readRow : Reader Dict
  | .obj fields => some fields
  | _ => none

def readSome {α : Type} (longest : Nat) (reader : Reader α) : Reader (List α)
  | .arr items => if 1 ≤ items.length ∧ items.length ≤ longest then readItems reader items else none
  | _ => none

-- populate_by_name: the alias is looked up first.
def typeKey (fields : Dict) : String := if dictHas "type" fields then "type" else "chart_type"

-- The fields of ChartSpec.
def readSpec : Reader ChartSpec
  | .obj fields =>
      if onlyKeys [typeKey fields, "title", "x_field", "y_fields", "data"] fields = false then none
      else
        match fieldOr none readChartType (typeKey fields) fields, fieldOr none (readShort 120) "title" fields,
          fieldOr none (readShort 128) "x_field" fields, fieldOr none (readSome 5 readText) "y_fields" fields,
          fieldOr none (readSome 1000 readRow) "data" fields with
        | some chartType, some title, some xField, some yFields, some data => some ⟨chartType, title, xField, yFields, data⟩
        | _, _, _, _, _ => none
  | _ => none

-- isinstance of int or float; bool is turned away first.
def isNumber : Json → Bool
  | .int _ | .float _ => true
  | _ => false

def reprTexts (texts : List String) : String :=
  "[" ++ String.intercalate ", " (texts.map fun text => String.ofList (reprString text)) ++ "]"

namespace ChartSpec

variable (spec : ChartSpec)

-- sorted(required_fields.difference(row))
def missingFields (row : Dict) : List String :=
  ((spec.xField :: spec.yFields).dedup.filter fun field => !dictHas field row).mergeSort fun one other => !decide (other < one)

def rowProblem (rowIndex : Nat) (row : Dict) : Option String :=
  if spec.missingFields row ≠ [] then
    some ("Chart data row " ++ Nat.repr rowIndex ++ " is missing fields: " ++ reprTexts (spec.missingFields row))
  else
    (spec.yFields.find? fun field => !isNumber (dictGet field row)).map fun field =>
      "Chart field '" ++ field ++ "' must contain numeric values."

def rowsProblem : Nat → List Dict → Option String
  | _, [] => none
  | rowIndex, row :: rows =>
      match spec.rowProblem rowIndex row with
      | some text => some text
      | none => rowsProblem (rowIndex + 1) rows

-- validate_chart_shape
def shapeProblem : Option String :=
  if ¬ spec.yFields.Nodup then some "y_fields must be unique."
  else if spec.chartType = .pie ∧ spec.yFields.length ≠ 1 then some "Pie charts require exactly one y field."
  else if spec.chartType = .scatter ∧ spec.yFields.length ≠ 1 then some "Scatter charts require exactly one y field."
  else spec.rowsProblem 0 spec.data

end ChartSpec

-- What pydantic adds to plot_chart: the texts of its refusals, and what model_dump
-- writes for a value that may be any.
structure ChartTool where
  refusal : Dict → Option String → String
  written : Json → Json

variable (tool : ChartTool)

def ChartTool.writtenRow (row : Dict) : Dict := row.map fun field => (field.1, tool.written field.2)

-- The dump of the spec, by its aliases.
def ChartTool.specFields (spec : ChartSpec) : Dict :=
  [("type", .str spec.chartType.text), ("title", .str spec.title), ("x_field", .str spec.xField),
    ("y_fields", .arr (spec.yFields.map .str)), ("data", .arr (spec.data.map fun row => .obj (tool.writtenRow row)))]

-- The dump of a ChartArtifact.
def ChartTool.artifactJson (spec : ChartSpec) : Json := .obj [("kind", .str "chart"), ("spec", .obj (tool.specFields spec))]

-- The arguments model of plot_chart.
def readChartArguments (arguments : Dict) : Option ChartSpec :=
  if onlyKeys ["spec"] arguments = false then none else fieldOr none readSpec "spec" arguments

def ChartTool.plotChart (arguments : Dict) : Except PyException PyValue :=
  match readChartArguments arguments with
  | none => .error ⟨"ValidationError", tool.refusal arguments none⟩
  | some spec =>
      match spec.shapeProblem with
      | some text => .error ⟨"ValidationError", tool.refusal arguments (some text)⟩
      | none => .ok (pyValue (tool.artifactJson spec))

structure WellShaped (spec : ChartSpec) : Prop where
  distinct : spec.yFields.Nodup
  single : spec.chartType = .pie ∨ spec.chartType = .scatter → spec.yFields.length = 1
  placed : ∀ row ∈ spec.data, dictHas spec.xField row = true
  measured : ∀ row ∈ spec.data, ∀ field ∈ spec.yFields, dictHas field row = true ∧ isNumber (dictGet field row) = true

theorem missing_none_iff (spec : ChartSpec) (row : Dict) :
    spec.missingFields row = [] ↔ dictHas spec.xField row = true ∧ ∀ field ∈ spec.yFields, dictHas field row = true := by
  constructor
  · intro unmissed
    have sorted := List.mergeSort_perm ((spec.xField :: spec.yFields).dedup.filter fun field => !dictHas field row)
      fun one other => !decide (other < one)
    rw [ChartSpec.missingFields] at unmissed
    rw [unmissed] at sorted
    have empty := List.filter_eq_nil_iff.mp sorted.symm.eq_nil
    have each : ∀ field ∈ spec.xField :: spec.yFields, dictHas field row = true := by
      intro field member
      simpa using empty field (List.mem_dedup.mpr member)
    exact ⟨each _ List.mem_cons_self, fun field member => each field (List.mem_cons_of_mem _ member)⟩
  · intro held
    have unmissed : ((spec.xField :: spec.yFields).dedup.filter fun field => !dictHas field row) = [] := by
      apply List.filter_eq_nil_iff.mpr
      intro field member
      rcases List.mem_cons.mp (List.mem_dedup.mp member) with rfl | later
      · simp [held.1]
      · simp [held.2 field later]
    rw [ChartSpec.missingFields, unmissed, List.mergeSort_nil]

theorem row_problem_none_iff (spec : ChartSpec) (rowIndex : Nat) (row : Dict) :
    spec.rowProblem rowIndex row = none ↔ dictHas spec.xField row = true ∧
      ∀ field ∈ spec.yFields, dictHas field row = true ∧ isNumber (dictGet field row) = true := by
  unfold ChartSpec.rowProblem
  by_cases missing : spec.missingFields row = []
  · rw [if_neg (not_not.mpr missing), Option.map_eq_none_iff, List.find?_eq_none]
    obtain ⟨placed, held⟩ := (missing_none_iff spec row).mp missing
    constructor
    · exact fun numbers => ⟨placed, fun field member => ⟨held field member, by simpa using numbers field member⟩⟩
    · exact fun facts field member => by simp [(facts.2 field member).2]
  · rw [if_pos missing]
    constructor
    · intro nothing
      cases nothing
    · intro facts
      exact absurd ((missing_none_iff spec row).mpr ⟨facts.1, fun field member => (facts.2 field member).1⟩) missing

theorem rows_problem_none_iff (spec : ChartSpec) (rowIndex : Nat) (rows : List Dict) :
    spec.rowsProblem rowIndex rows = none ↔ ∀ row ∈ rows, dictHas spec.xField row = true ∧
      ∀ field ∈ spec.yFields, dictHas field row = true ∧ isNumber (dictGet field row) = true := by
  induction rows generalizing rowIndex with
  | nil => simp [ChartSpec.rowsProblem]
  | cons row rows ih =>
      rw [ChartSpec.rowsProblem, List.forall_mem_cons, ← row_problem_none_iff spec rowIndex row, ← ih (rowIndex + 1)]
      cases problem : spec.rowProblem rowIndex row with
      | none => simp
      | some text => simp

theorem shape_problem_none_iff (spec : ChartSpec) : spec.shapeProblem = none ↔ WellShaped spec := by
  unfold ChartSpec.shapeProblem
  by_cases distinct : spec.yFields.Nodup
  · rw [if_neg (not_not.mpr distinct)]
    by_cases pie : spec.chartType = .pie ∧ spec.yFields.length ≠ 1
    · rw [if_pos pie]
      exact ⟨fun none => (by cases none), fun shaped => absurd (shaped.single (.inl pie.1)) pie.2⟩
    · rw [if_neg pie]
      by_cases scatter : spec.chartType = .scatter ∧ spec.yFields.length ≠ 1
      · rw [if_pos scatter]
        exact ⟨fun none => (by cases none), fun shaped => absurd (shaped.single (.inr scatter.1)) scatter.2⟩
      · rw [if_neg scatter, rows_problem_none_iff]
        constructor
        · intro rows
          refine ⟨distinct, ?_, fun row member => (rows row member).1, fun row member => (rows row member).2⟩
          rintro (one | one)
          · exact not_not.mp fun other => pie ⟨one, other⟩
          · exact not_not.mp fun other => scatter ⟨one, other⟩
        · exact fun shaped row member => ⟨shaped.placed row member, shaped.measured row member⟩
  · rw [if_pos distinct]
    exact ⟨fun none => (by cases none), fun shaped => absurd shaped.distinct distinct⟩

theorem plot_chart_iff (arguments : Dict) (value : PyValue) :
    tool.plotChart arguments = .ok value ↔
      ∃ spec, readChartArguments arguments = some spec ∧ WellShaped spec ∧ value = pyValue (tool.artifactJson spec) := by
  unfold ChartTool.plotChart
  cases read : readChartArguments arguments with
  | none => simp
  | some spec =>
      dsimp only
      cases problem : spec.shapeProblem with
      | some text =>
          have shapeless : ¬ WellShaped spec := by
            rw [← shape_problem_none_iff, problem]
            simp
          simp [shapeless]
      | none => simp [(shape_problem_none_iff spec).mp problem, eq_comm]

end DataPilot.Tools
