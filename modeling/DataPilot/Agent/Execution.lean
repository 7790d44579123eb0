import Mathlib.Data.List.FinRange
import DataPilot.Agent.ModelStream

set_option autoImplicit false

namespace DataPilot.Agent

open DataPilot.Base DataPilot.Tools

def errorText (failure : PyException) : String := s!"{failure.typeName}: {failure.text}"

-- The text of a KeyError is the repr of its argument.
def unknownTool (name : String) : PyException := ⟨"KeyError", String.ofList (reprString s!"Unknown tool: {name}")⟩

def invokeTool (registry : ToolRegistry) (step : Nat) (call : ToolCall) : Except PyException PyValue :=
  match registry.get call.name with
  | none => .error (unknownTool call.name)
  | some tool => tool.invoke step call.arguments

def executeOne (registry : ToolRegistry) (step : Nat) (call : ToolCall) : ToolExecution :=
  match invokeTool registry step call with
  | .ok result => { toolCallId := call.id, toolName := call.name, arguments := call.arguments, result := result }
  | .error failure =>
      { toolCallId := call.id, toolName := call.name, arguments := call.arguments, error := some (errorText failure) }

def canRunInParallel (agent : Agent) (calls : List ToolCall) : Bool :=
  agent.config.parallelToolCalls && decide (calls.length ≤ agent.config.maxParallelTools) &&
    calls.all fun call => (agent.tools.get call.name).any RegisteredTool.parallelSafe

-- asyncio.gather puts each outcome into the slot of its awaitable, whenever it
-- arrives, and returns the slots once all are filled.
def fillSlots {α : Type} {calls : Nat} (outcome : Fin calls → α) (order : List (Fin calls))
    (slots : List (Option α)) : List (Option α) :=
  order.foldl (fun slots index => slots.set index.val (some (outcome index))) slots

def gather {α : Type} {calls : Nat} (outcome : Fin calls → α) (order : List (Fin calls)) : List α :=
  (fillSlots outcome order (List.replicate calls none)).filterMap id

-- The executions in the order in which they end, and what is returned.
structure Batch where
  ended : List ToolExecution
  returned : List ToolExecution

variable (host : Host)

def executeToolCalls (agent : Agent) (step : Nat) (calls : List ToolCall) : Batch :=
  if canRunInParallel agent calls then
    let outcome := fun index : Fin calls.length => executeOne agent.tools step (calls.get index)
    let order := host.completionOrder step calls.length
    ⟨order.map outcome, gather outcome order⟩
  else
    let executions := calls.map (executeOne agent.tools step)
    ⟨executions, executions⟩

def chartPayload (execution : ToolExecution) : Except PyException Json :=
  let spec := (pyGet "spec" execution.result.dictFields).dictFields
  match (pyGet "title" spec).plain, (pyGet "type" spec).plain with
  | .error failure, _ => .error failure
  | _, .error failure => .error failure
  | .ok title, .ok chartType =>
      .ok (.obj [("ok", .bool true),
        ("result", .obj [("kind", .str "chart"), ("title", title), ("chart_type", chartType), ("rendered", .bool true)]),
        ("error", .null)])

def executionPayload (execution : ToolExecution) : Except PyException Json :=
  execution.result.jsonable.map fun result =>
    .obj [("ok", .bool execution.error.isNone), ("result", result),
      ("error", match execution.error with
        | none => .null
        | some text => .str text)]

def serializeToolExecution (config : AgentConfig) (execution : ToolExecution) : Except PyException String :=
  if execution.error = none ∧ execution.toolName = "plot_chart" then
    (chartPayload execution).map (dumps compactStyle)
  else
    (executionPayload execution).map fun payload => slice (dumps compactStyle payload) config.maxToolResultChars

def toolMessage (config : AgentConfig) (execution : ToolExecution) : Except PyException ChatMessage :=
  (serializeToolExecution config execution).map fun content =>
    { role := .tool, name := some execution.toolName, toolCallId := some execution.toolCallId, content := some content }

-- The messages appended before an exception stops the loop are lost with the run.
def toolMessages (config : AgentConfig) : List ToolExecution → Except PyException (List ChatMessage)
  | [] => .ok []
  | execution :: rest =>
      match toolMessage config execution with
      | .error failure => .error failure
      | .ok message => (toolMessages config rest).map (message :: ·)

-- What an execution keeps of its call.
def ExecutesCall (call : ToolCall) (execution : ToolExecution) : Prop :=
  execution.toolCallId = call.id ∧ execution.toolName = call.name ∧ execution.arguments = call.arguments

theorem execute_one_call (registry : ToolRegistry) (step : Nat) (call : ToolCall) :
    ExecutesCall call (executeOne registry step call) := by
  unfold executeOne
  cases invokeTool registry step call <;> exact ⟨rfl, rfl, rfl⟩

theorem fill_slots_length {α : Type} {calls : Nat} (outcome : Fin calls → α) (order : List (Fin calls))
    (slots : List (Option α)) : (fillSlots outcome order slots).length = slots.length := by
  induction order generalizing slots with
  | nil => rfl
  | cons first rest ih =>
      rw [fillSlots, List.foldl_cons]
      exact (ih _).trans List.length_set

theorem fill_slots_slot {α : Type} {calls : Nat} (outcome : Fin calls → α) (order : List (Fin calls))
    (slots : List (Option α)) (sized : slots.length = calls) (index : Fin calls) :
    (fillSlots outcome order slots)[index.val]? =
      if index ∈ order then some (some (outcome index)) else slots[index.val]? := by
  induction order generalizing slots with
  | nil => simp [fillSlots]
  | cons first rest ih =>
      have step := ih (slots.set first.val (some (outcome first))) (by simpa using sized)
      rw [fillSlots, List.foldl_cons, ← fillSlots, step]
      by_cases later : index ∈ rest
      · simp [later]
      · by_cases here : first = index
        · subst here
          simp [later, sized]
        · have apart : first.val ≠ index.val := fun same => here (Fin.ext same)
          have absent : index ∉ first :: rest := by
            rw [List.mem_cons]
            rintro (same | member)
            · exact here same.symm
            · exact later member
          rw [if_neg later, if_neg absent, List.getElem?_set_ne apart]

theorem gather_complete {α : Type} {calls : Nat} (outcome : Fin calls → α) (order : List (Fin calls))
    (everyCallEnds : order.Perm (List.finRange calls)) : gather outcome order = (List.finRange calls).map outcome := by
  have filled : fillSlots outcome order (List.replicate calls none) =
      (List.finRange calls).map fun index => some (outcome index) := by
    apply List.ext_getElem?
    intro index
    by_cases inside : index < calls
    · have member : (⟨index, inside⟩ : Fin calls) ∈ order := everyCallEnds.mem_iff.mpr (List.mem_finRange _)
      have slot := fill_slots_slot outcome order (List.replicate calls none) (by simp) ⟨index, inside⟩
      rw [slot, if_pos member]
      simp [inside]
    · rw [List.getElem?_eq_none (by rw [fill_slots_length]; simpa using inside),
        List.getElem?_eq_none (by simpa using inside)]
  rw [gather, filled, List.filterMap_map]
  simp

theorem returned_executions (agent : Agent) (step : Nat) (calls : List ToolCall) :
    (executeToolCalls host agent step calls).returned = calls.map (executeOne agent.tools step) := by
  unfold executeToolCalls
  split
  · dsimp only
    rw [gather_complete _ _ (host.everyCallEnds step calls.length)]
    conv_rhs => rw [← List.map_get_finRange calls, List.map_map]
    rfl
  · rfl

theorem ended_executions (agent : Agent) (step : Nat) (calls : List ToolCall) :
    (executeToolCalls host agent step calls).ended.Perm (calls.map (executeOne agent.tools step)) := by
  unfold executeToolCalls
  split
  · have ended := (host.everyCallEnds step calls.length).map
      fun index => executeOne agent.tools step (calls.get index)
    refine ended.trans (List.Perm.of_eq ?_)
    conv_rhs => rw [← List.map_get_finRange calls, List.map_map]
    rfl
  · exact List.Perm.refl _

end DataPilot.Agent
