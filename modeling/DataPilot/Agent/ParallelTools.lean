import DataPilot.Agent.Loop
import DataPilot.Tools.WorkspaceQueries

set_option autoImplicit false

namespace DataPilot.Agent

open DataPilot.Base DataPilot.Datasets DataPilot.Sql DataPilot.Tools

variable {Shared : Type}

-- The registry of the application: the initial tools, run_python and the tools of
-- the MCP server, of which only the first are marked as safe side by side.
structure ChatTools (Shared : Type) where
  initial : InitialTools Shared
  others : List (LiveTool Shared)
  cautious : ∀ tool ∈ others, tool.parallelSafe = false
  distinct : ((initial.build ++ others).map LiveTool.name).Nodup

def ChatTools.tools (chat : ChatTools Shared) : List (LiveTool Shared) := chat.initial.build ++ chat.others

def ChatTools.get (chat : ChatTools Shared) (name : String) : Option (LiveTool Shared) :=
  chat.tools.find? fun tool => tool.name = name

-- The registry as its tools answer in a state that stays.
def ChatTools.seen (chat : ChatTools Shared) (shared : Shared) : ToolRegistry where
  tools := chat.tools.map (LiveTool.seen shared)
  distinct := by
    rw [List.map_map]
    exact chat.distinct

def executed (call : ToolCall) : Except PyException PyValue → ToolExecution
  | .ok result => { toolCallId := call.id, toolName := call.name, arguments := call.arguments, result := result }
  | .error failure =>
      { toolCallId := call.id, toolName := call.name, arguments := call.arguments, error := some (errorText failure) }

def ChatTools.executeOne (chat : ChatTools Shared) (call : ToolCall) : Routine Shared ToolExecution :=
  match chat.get call.name with
  | none => .done (executed call (.error (unknownTool call.name)))
  | some tool => (tool.invoke call.arguments).map (executed call)

def ChatTools.canRunInParallel (chat : ChatTools Shared) (config : AgentConfig) (calls : List ToolCall) : Bool :=
  config.parallelToolCalls && decide (calls.length ≤ config.maxParallelTools) &&
    calls.all fun call => (chat.get call.name).any LiveTool.parallelSafe

-- gather runs the coroutines side by side and comes back when all have ended;
-- otherwise each call is awaited before the next.
def ChatTools.executeToolCalls (chat : ChatTools Shared) (config : AgentConfig) (calls : List ToolCall)
    (schedule : List Nat) (shared finish : Shared) (executions : List ToolExecution) : Prop :=
  if chat.canRunInParallel config calls then
    ∃ world, runFrom turn ⟨shared, calls.map chat.executeOne⟩ schedule = some world ∧ Stopped world ∧
      finish = world.shared ∧ executions = results world
  else (finish, executions) = inOrder shared (calls.map chat.executeOne)

variable (chat : ChatTools Shared)

theorem chat_get_member (name : String) (tool : LiveTool Shared) (found : chat.get name = some tool) : tool ∈ chat.tools :=
  List.mem_of_find?_eq_some found

theorem marked_read_only (tool : LiveTool Shared) (member : tool ∈ chat.tools) (marked : tool.parallelSafe = true)
    (arguments : Dict) : ReadOnly (tool.invoke arguments) := by
  cases List.mem_append.mp member with
  | inl initial => exact initial_tools_read_only chat.initial tool initial arguments
  | inr other =>
      rw [chat.cautious tool other] at marked
      cases marked

theorem read_only_map {Result Other : Type} (shown : Result → Other) (routine : Routine Shared Result)
    (readOnly : ReadOnly routine) : ReadOnly (routine.map shown) := by
  intro effect next occurs
  obtain ⟨own, found, _⟩ := occurs_map shown routine effect next occurs
  exact readOnly effect own found

theorem parallel_calls_read_only (config : AgentConfig) (calls : List ToolCall)
    (parallel : chat.canRunInParallel config calls = true) :
    ∀ routine ∈ calls.map chat.executeOne, ReadOnly routine := by
  intro routine member
  obtain ⟨call, called, rfl⟩ := List.mem_map.mp member
  unfold ChatTools.canRunInParallel at parallel
  rw [Bool.and_eq_true] at parallel
  have marked := List.all_eq_true.mp parallel.2 call called
  unfold ChatTools.executeOne
  cases found : chat.get call.name with
  | none => simp [found] at marked
  | some tool =>
      rw [found] at marked
      apply read_only_map
      exact marked_read_only chat tool (chat_get_member chat call.name tool found) marked call.arguments

theorem parallel_calls_independent (config : AgentConfig) (calls : List ToolCall)
    (parallel : chat.canRunInParallel config calls = true) : (calls.map chat.executeOne).Pairwise Independent := by
  have readOnly := parallel_calls_read_only chat config calls parallel
  apply List.Pairwise.imp_of_mem (R := fun _ _ => True) ?_ (List.pairwise_of_forall fun _ _ => trivial)
  intro one other first second _
  exact read_only_independent one other (readOnly one first) (readOnly other second)

theorem seen_get (shared : Shared) (name : String) :
    (chat.seen shared).get name = (chat.get name).map (LiveTool.seen shared) := by
  rw [ToolRegistry.get, ChatTools.seen, ChatTools.get, List.find?_map]
  rfl

theorem seen_parallel (model : ChatModel) (config : AgentConfig) (shared : Shared) (calls : List ToolCall) :
    Agent.canRunInParallel ⟨model, chat.seen shared, config⟩ calls = chat.canRunInParallel config calls := by
  unfold Agent.canRunInParallel ChatTools.canRunInParallel
  congr 1
  congr 1
  funext call
  rw [seen_get]
  cases chat.get call.name <;> rfl

theorem seen_execution (shared : Shared) (step : Nat) (call : ToolCall) :
    ((chat.executeOne call).run shared).2 = Agent.executeOne (chat.seen shared) step call := by
  unfold ChatTools.executeOne Agent.executeOne invokeTool
  rw [seen_get]
  cases chat.get call.name with
  | none => rfl
  | some tool =>
      rw [Option.map_some, run_map]
      dsimp only [LiveTool.seen]
      cases ((tool.invoke call.arguments).run shared).2 <;> rfl

theorem in_order_read_only {Result : Type} (routines : List (Routine Shared Result)) (shared : Shared)
    (readOnly : ∀ routine ∈ routines, ReadOnly routine) :
    inOrder shared routines = (shared, routines.map fun routine => (routine.run shared).2) := by
  induction routines with
  | nil => rfl
  | cons routine rest ih =>
      have first := read_only_run routine shared (readOnly routine (by simp))
      simp only [inOrder, first, ih fun other member => readOnly other (by simp [member]), List.map_cons]

theorem calls_as_in_order (config : AgentConfig) (calls : List ToolCall) (shared finish : Shared) (schedule : List Nat)
    (executions : List ToolExecution)
    (returned : chat.executeToolCalls config calls schedule shared finish executions) :
    (finish, executions) = inOrder shared (calls.map chat.executeOne) := by
  unfold ChatTools.executeToolCalls at returned
  split at returned
  · rename_i parallel
    obtain ⟨world, run, stopped, rfl, rfl⟩ := returned
    exact interleaved_in_order _ shared (parallel_calls_independent chat config calls parallel) schedule world run stopped
  · exact returned

theorem calls_return (config : AgentConfig) (calls : List ToolCall) (shared : Shared) :
    ∃ schedule, chat.executeToolCalls config calls schedule shared (inOrder shared (calls.map chat.executeOne)).1
      (inOrder shared (calls.map chat.executeOne)).2 := by
  by_cases parallel : chat.canRunInParallel config calls = true
  · obtain ⟨schedule, finish, run, stopped⟩ := some_schedule_stops (calls.map chat.executeOne) shared
    have same := interleaved_in_order _ shared (parallel_calls_independent chat config calls parallel) schedule finish
      run stopped
    refine ⟨schedule, ?_⟩
    rw [ChatTools.executeToolCalls, if_pos parallel, ← same]
    exact ⟨finish, run, stopped, rfl, rfl⟩
  · refine ⟨[], ?_⟩
    rw [ChatTools.executeToolCalls, if_neg parallel]

def ChatTools.agent (chat : ChatTools Shared) (model : ChatModel) (config : AgentConfig) (shared : Shared) : Agent :=
  ⟨model, chat.seen shared, config⟩

theorem parallel_calls_agree (config : AgentConfig) (calls : List ToolCall) (shared : Shared) :
    (∃ schedule finish executions, chat.executeToolCalls config calls schedule shared finish executions) ∧
      ∀ schedule finish executions, chat.executeToolCalls config calls schedule shared finish executions →
        (finish, executions) = inOrder shared (calls.map chat.executeOne) ∧
          ∀ host model step, Agent.canRunInParallel (chat.agent model config shared) calls = true →
            finish = shared ∧
              executions = (Agent.executeToolCalls host (chat.agent model config shared) step calls).returned := by
  constructor
  · obtain ⟨schedule, returned⟩ := calls_return chat config calls shared
    exact ⟨schedule, _, _, returned⟩
  · intro schedule finish executions returned
    have same := calls_as_in_order chat config calls shared finish schedule executions returned
    refine ⟨same, fun host model step parallel => ?_⟩
    rw [ChatTools.agent, seen_parallel] at parallel
    rw [in_order_read_only _ shared (parallel_calls_read_only chat config calls parallel), List.map_map] at same
    obtain ⟨rfl, rfl⟩ := Prod.mk.inj same
    rw [returned_executions]
    exact ⟨rfl, List.map_congr_left fun call _ => seen_execution chat finish step call⟩

section Sample

-- run_python, and a tool of an MCP server that drops the dataset rows.
def otherTools : List (LiveTool (List Dataset)) := [
  { name := "run_python", description := "Run Python code.", inputSchema := some (textSchema "code"), parallelSafe := false
    invoke := fun _ => .step id fun rows => .done (.ok (.int rows.length)) },
  { name := "mcp__drop_rows", description := "[MCP] Drop the rows.", inputSchema := some [("type", .str "object")]
    parallelSafe := false, invoke := fun _ => .step (fun _ => []) fun _ => .done (.ok .null) }]

theorem initial_names : sampleTools.build.map LiveTool.name = ["list_tables", "get_schema", "run_sql", "plot_chart"] := rfl

def workspaceTools : ChatTools (List Dataset) where
  initial := sampleTools
  others := otherTools
  cautious := by
    intro tool member
    simp only [otherTools, List.mem_cons, List.not_mem_nil, or_false] at member
    obtain rfl | rfl := member
    · rfl
    · rfl
  distinct := by
    rw [List.map_append, initial_names]
    decide

theorem tables_call_id : "call-2" ≠ "" := by decide

theorem tables_call_name : "list_tables" ≠ "" := by decide

def tableCalls : List ToolCall := [queryCall plainText, ⟨"call-2", "list_tables", [], tables_call_id, tables_call_name⟩]

theorem table_calls_parallel :
    Agent.canRunInParallel (workspaceTools.agent (queryAgent "SELECT 1").model {} workspaceRows) tableCalls = true := by rfl

end Sample

-- Two reads side by side leave the rows alone and answer as one after the other.
theorem parallel_calls_agree_tables :
    (∃ schedule finish executions,
      workspaceTools.executeToolCalls {} tableCalls schedule workspaceRows finish executions) ∧
      ∀ schedule finish executions, workspaceTools.executeToolCalls {} tableCalls schedule workspaceRows finish executions →
        finish = workspaceRows ∧ executions = (Agent.executeToolCalls sampleHost
          (workspaceTools.agent (queryAgent "SELECT 1").model {} workspaceRows) 1 tableCalls).returned := by
  obtain ⟨returns, agrees⟩ := parallel_calls_agree workspaceTools {} tableCalls workspaceRows
  refine ⟨returns, fun schedule finish executions returned => ?_⟩
  exact (agrees schedule finish executions returned).2 sampleHost _ 1 table_calls_parallel

end DataPilot.Agent
