import Mathlib.Logic.Function.Basic
import DataPilot.Tools.Registry

set_option autoImplicit false

-- The tools with the schema dicts that they share: reading a definition changes a
-- dict that later calls validate against.
namespace DataPilot.Tools.Shared

open DataPilot.Base

-- The dict objects, by their identity.
abbrev Memory := Nat → Dict

-- model_json_schema builds a new dict every time, and fails for a type without a
-- JSON schema. A validated object is known by the values of the model's fields.
structure InputModel where
  modelJsonSchema : Except PyException Dict
  modelValidate : Dict → Except PyException (List (String × PyValue))

structure RegisteredTool where
  name : String
  description : String
  inputModel : Option InputModel
  handler : Nat → List (String × PyValue) → Except PyException PyValue
  parallelSafe : Bool := true
  inputSchema : Option Nat := none

-- schema.setdefault("additionalProperties", False)
def closed (schema : Dict) : Dict := setDefault "additionalProperties" (.bool false) schema

def Memory.close (memory : Memory) (address : Nat) : Memory := Function.update memory address (closed (memory address))

def RegisteredTool.defined (tool : RegisteredTool) (schema : Dict) : ToolDefinition :=
  ⟨⟨tool.name, tool.description, schema⟩⟩

def RegisteredTool.noInputSchema (tool : RegisteredTool) : PyException :=
  ⟨"ValueError", s!"Tool '{tool.name}' has no input schema."⟩

def RegisteredTool.definition (tool : RegisteredTool) (memory : Memory) : Memory × Except PyException ToolDefinition :=
  match tool.inputModel with
  | some model =>
      match model.modelJsonSchema with
      | .error failure => (memory, .error failure)
      | .ok schema => (memory, .ok (tool.defined (closed schema)))
  | none =>
      match tool.inputSchema with
      | none => (memory, .error tool.noInputSchema)
      | some address => (memory.close address, .ok (tool.defined (closed (memory address))))

-- Whether the definition can be read, and the dict that it reads.
def RegisteredTool.readable (tool : RegisteredTool) : Bool :=
  match tool.inputModel with
  | some model => model.modelJsonSchema.isOk
  | none => tool.inputSchema.isSome

def RegisteredTool.source (tool : RegisteredTool) : Option Nat :=
  match tool.inputModel with
  | some _ => none
  | none => tool.inputSchema

theorem closed_has (schema : Dict) : dictHas "additionalProperties" (closed schema) = true := by
  unfold closed setDefault
  by_cases has : dictHas "additionalProperties" schema = true
  · rw [if_pos has, has]
  · rw [if_neg has, dictHas, List.any_append]
    simp

theorem closed_same (schema : Dict) : closed schema = schema ↔ dictHas "additionalProperties" schema = true := by
  constructor
  · intro same
    rw [← same]
    exact closed_has schema
  · intro has
    rw [closed, setDefault, if_pos has]

theorem closed_twice (schema : Dict) : closed (closed schema) = closed schema := (closed_same _).mpr (closed_has schema)

def Closes (before after : Memory) : Prop :=
  ∀ address, after address = before address ∨ after address = closed (before address)

theorem closes_same (memory : Memory) : Closes memory memory := fun _ => .inl rfl

theorem closes_trans (first second third : Memory) (one : Closes first second) (other : Closes second third) :
    Closes first third := by
  intro address
  rcases other address with same | shut
  · rw [same]
    exact one address
  · rw [shut]
    rcases one address with same | shut
    · rw [same]
      exact .inr rfl
    · rw [shut, closed_twice]
      exact .inr rfl

theorem closes_close (memory : Memory) (address : Nat) : Closes memory (memory.close address) := by
  intro other
  by_cases here : other = address
  · rw [here, Memory.close, Function.update_self]
    exact .inr rfl
  · rw [Memory.close, Function.update_of_ne here]
    exact .inl rfl

theorem closes_closed (before after : Memory) (address : Nat) (closes : Closes before after) :
    closed (after address) = closed (before address) := by
  rcases closes address with same | shut
  · rw [same]
  · rw [shut, closed_twice]

theorem closes_stays (before after : Memory) (address : Nat) (closes : Closes before after)
    (has : dictHas "additionalProperties" (before address) = true) : after address = before address := by
  rcases closes address with same | shut
  · exact same
  · rw [shut, (closed_same _).mpr has]

theorem close_same (memory : Memory) (address : Nat) (has : dictHas "additionalProperties" (memory address) = true) :
    memory.close address = memory := by
  rw [Memory.close, (closed_same _).mpr has]
  exact Function.update_eq_self address memory

section Definition

variable (tool : RegisteredTool) (memory : Memory)

theorem definition_memory :
    (tool.definition memory).1 = match tool.source with | none => memory | some address => memory.close address := by
  unfold RegisteredTool.definition RegisteredTool.source
  cases tool.inputModel with
  | some model =>
      dsimp only
      cases model.modelJsonSchema <;> rfl
  | none =>
      dsimp only
      cases tool.inputSchema <;> rfl

theorem definition_closes : Closes memory (tool.definition memory).1 := by
  rw [definition_memory]
  cases tool.source with
  | none => exact closes_same memory
  | some address => exact closes_close memory address

theorem definition_steady (after : Memory) (closes : Closes memory after) :
    (tool.definition after).2 = (tool.definition memory).2 := by
  unfold RegisteredTool.definition
  cases tool.inputModel with
  | some model =>
      dsimp only
      cases model.modelJsonSchema <;> rfl
  | none =>
      dsimp only
      cases tool.inputSchema with
      | none => rfl
      | some address =>
          dsimp only
          rw [closes_closed memory after address closes]

theorem definition_readable : tool.readable = true ↔ ∃ definition, (tool.definition memory).2 = .ok definition := by
  unfold RegisteredTool.readable RegisteredTool.definition
  cases tool.inputModel with
  | some model =>
      dsimp only
      cases model.modelJsonSchema with
      | error failure => simp [Except.isOk, Except.toBool]
      | ok schema => simp [Except.isOk, Except.toBool]
  | none =>
      dsimp only
      cases tool.inputSchema with
      | none => simp
      | some address => simp

theorem definition_unreadable (unreadable : tool.readable = false) :
    ∃ failure, (tool.definition memory).2 = .error failure := by
  cases read : (tool.definition memory).2 with
  | error failure => exact ⟨failure, rfl⟩
  | ok definition =>
      have readable := (definition_readable tool memory).mpr ⟨definition, read⟩
      exact Bool.noConfusion (unreadable.symm.trans readable)

theorem unreadable_no_source (unreadable : tool.readable = false) : tool.source = none := by
  unfold RegisteredTool.readable at unreadable
  unfold RegisteredTool.source
  cases model : tool.inputModel with
  | some model => rfl
  | none =>
      rw [model] at unreadable
      exact Option.isSome_eq_false_iff.mp unreadable |> Option.isNone_iff_eq_none.mp

theorem source_schema (address : Nat) (reads : tool.source = some address) : tool.inputSchema = some address := by
  unfold RegisteredTool.source at reads
  cases model : tool.inputModel with
  | some model =>
      rw [model] at reads
      cases reads
  | none =>
      rw [model] at reads
      exact reads

end Definition

-- The tool as the agent sees it at one moment.
def RegisteredTool.view (tool : RegisteredTool) (memory : Memory) (invoke : Nat → Dict → Except PyException PyValue) :
    Tools.RegisteredTool where
  name := tool.name
  description := tool.description
  inputSchema :=
    match tool.inputModel with
    | some model => model.modelJsonSchema.toOption
    | none => tool.inputSchema.map memory
  parallelSafe := tool.parallelSafe
  invoke := invoke

theorem view_definition (tool : RegisteredTool) (memory : Memory) (invoke : Nat → Dict → Except PyException PyValue)
    (readable : tool.readable = true) : (tool.view memory invoke).definition = (tool.definition memory).2 := by
  unfold RegisteredTool.view Tools.RegisteredTool.definition RegisteredTool.definition
  unfold RegisteredTool.readable at readable
  cases given : tool.inputModel with
  | some model =>
      rw [given] at readable
      dsimp only at readable ⊢
      cases schema : model.modelJsonSchema with
      | error failure =>
          rw [schema] at readable
          cases readable
      | ok schema => rfl
  | none =>
      rw [given] at readable
      dsimp only at readable ⊢
      cases schema : tool.inputSchema with
      | none =>
          rw [schema] at readable
          cases readable
      | some address => rfl

end DataPilot.Tools.Shared
