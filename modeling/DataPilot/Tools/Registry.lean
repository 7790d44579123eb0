import DataPilot.Base.PyValue

set_option autoImplicit false

namespace DataPilot.Tools

open DataPilot.Base

structure FunctionDefinition where
  name : String
  description : String
  parameters : Dict

structure ToolDefinition where
  function : FunctionDefinition

-- A registered tool. The input schema is the pydantic model's or the one given
-- at registration. A call validates the arguments and runs the handler; its
-- outcome may differ from one agent step to another.
structure RegisteredTool where
  name : String
  description : String
  inputSchema : Option Dict
  parallelSafe : Bool
  invoke : Nat → Dict → Except PyException PyValue

def setDefault (key : String) (value : Json) (fields : Dict) : Dict :=
  if dictHas key fields then fields else fields ++ [(key, value)]

def RegisteredTool.definition (tool : RegisteredTool) : Except PyException ToolDefinition :=
  match tool.inputSchema with
  | none => .error ⟨"ValueError", s!"Tool '{tool.name}' has no input schema."⟩
  | some schema => .ok ⟨⟨tool.name, tool.description, setDefault "additionalProperties" (.bool false) schema⟩⟩

structure ToolRegistry where
  tools : List RegisteredTool
  distinct : (tools.map RegisteredTool.name).Nodup

def ToolRegistry.get (registry : ToolRegistry) (name : String) : Option RegisteredTool :=
  registry.tools.find? fun tool => tool.name = name

def definitionsOf : List RegisteredTool → Except PyException (List ToolDefinition)
  | [] => .ok []
  | tool :: rest =>
      match tool.definition with
      | .error failure => .error failure
      | .ok first => (definitionsOf rest).map (first :: ·)

def ToolRegistry.definitions (registry : ToolRegistry) : Except PyException (List ToolDefinition) :=
  definitionsOf registry.tools

theorem definitions_of_ok (tools : List RegisteredTool) :
    (∃ defined, definitionsOf tools = .ok defined) ↔ ∀ tool ∈ tools, tool.inputSchema ≠ none := by
  induction tools with
  | nil => simp [definitionsOf]
  | cons tool rest ih =>
      cases schema : tool.inputSchema with
      | none => simp [definitionsOf, RegisteredTool.definition, schema]
      | some fields =>
          simp only [definitionsOf, RegisteredTool.definition, schema, List.forall_mem_cons, ne_eq, reduceCtorEq,
            not_false_eq_true, true_and]
          rw [← ih]
          cases definitionsOf rest <;> simp [Except.map]

theorem registry_get_member (registry : ToolRegistry) (name : String) (tool : RegisteredTool)
    (found : registry.get name = some tool) : tool ∈ registry.tools ∧ tool.name = name := by
  have member := List.mem_of_find?_eq_some found
  have named := List.find?_some found
  exact ⟨member, by simpa using named⟩

end DataPilot.Tools
