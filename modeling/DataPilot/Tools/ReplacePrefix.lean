import DataPilot.Base.Assignments
import DataPilot.Tools.SharedTools

set_option autoImplicit false

namespace DataPilot.Tools.Shared

open DataPilot.Base

-- The dictionary of a registry: every tool stands under its own name.
structure ToolRegistry where
  tools : List (String × RegisteredTool)
  distinct : (tools.map Prod.fst).Nodup
  named : ∀ entry ∈ tools, entry.2.name = entry.1

def ToolRegistry.empty : ToolRegistry := ⟨[], List.nodup_nil, fun _ member => absurd member List.not_mem_nil⟩

def ToolRegistry.get (registry : ToolRegistry) (name : String) : Option RegisteredTool := getItem name registry.tools

def ToolRegistry.put (registry : ToolRegistry) (tool : RegisteredTool) : ToolRegistry where
  tools := setItem tool.name tool registry.tools
  distinct := set_item_distinct tool.name tool registry.tools registry.distinct
  named := by
    intro entry member
    rcases mem_set_item tool.name tool registry.tools entry member with rfl | old
    · rfl
    · exact registry.named entry old

def ToolRegistry.delete (registry : ToolRegistry) (name : String) : ToolRegistry where
  tools := popItem name registry.tools
  distinct := (List.filter_sublist.map Prod.fst).nodup registry.distinct
  named := fun entry member => registry.named entry (List.mem_of_mem_filter member)

def ToolRegistry.register (registry : ToolRegistry) (tool : RegisteredTool) : Except PyException ToolRegistry :=
  if (registry.get tool.name).isSome then .error ⟨"ValueError", s!"Tool already registered: {tool.name}"⟩
  else .ok (registry.put tool)

def startsWith (name start : String) : Bool := start.toList.isPrefixOf name.toList

def registeredToolsEqual (same : ToolDefinition → ToolDefinition → Bool) (memory : Memory) (left right : RegisteredTool) :
    Memory × Except PyException Bool :=
  match left.definition memory with
  | (next, .error failure) => (next, .error failure)
  | (next, .ok first) =>
      match right.definition next with
      | (last, .error failure) => (last, .error failure)
      | (last, .ok second) => (last, .ok (same first second && left.parallelSafe == right.parallelSafe))

structure ToolRegistrationDiff where
  added : List String := []
  removed : List String := []
  updated : List String := []
  unchanged : List String := []

-- The loop that fills the dict of the incoming tools. A name that is there raises,
-- so the dict lists the tools in their order.
def incomingTools (registry : ToolRegistry) (start : String) :
    List RegisteredTool → List RegisteredTool → Except PyException (List RegisteredTool)
  | incoming, [] => .ok incoming
  | incoming, tool :: rest =>
      if startsWith tool.name start = false then
        .error ⟨"ValueError", s!"Tool '{tool.name}' does not start with prefix '{start}'."⟩
      else if tool.name ∈ incoming.map RegisteredTool.name then
        .error ⟨"ValueError", s!"Duplicate registered tool: {tool.name}"⟩
      else if (registry.get tool.name).isSome ∧ startsWith tool.name start = false then
        .error ⟨"ValueError", s!"Tool already registered: {tool.name}"⟩
      else incomingTools registry start (incoming ++ [tool]) rest

-- Where replace_prefix stands: the dicts, the registry and the report or what it raised.
structure Replacing where
  memory : Memory
  registry : ToolRegistry
  result : Except PyException ToolRegistrationDiff

variable (same : ToolDefinition → ToolDefinition → Bool)

def replaceEach : List RegisteredTool → Memory → ToolRegistry → ToolRegistrationDiff → Replacing
  | [], memory, registry, diff => ⟨memory, registry, .ok diff⟩
  | tool :: rest, memory, registry, diff =>
      match registry.get tool.name with
      | none => replaceEach rest memory (registry.put tool) { diff with added := diff.added ++ [tool.name] }
      | some previous =>
          match registeredToolsEqual same memory previous tool with
          | (next, .error failure) => ⟨next, registry, .error failure⟩
          | (next, .ok true) =>
              replaceEach rest next (registry.put tool) { diff with unchanged := diff.unchanged ++ [tool.name] }
          | (next, .ok false) =>
              replaceEach rest next (registry.put tool) { diff with updated := diff.updated ++ [tool.name] }

def removedNames (registry : ToolRegistry) (start : String) (incoming : List RegisteredTool) : List String :=
  let existingNames := (registry.tools.map Prod.fst).filter fun name => startsWith name start
  existingNames.filter fun name => decide (name ∉ incoming.map RegisteredTool.name)

def ToolRegistry.replacePrefix (memory : Memory) (registry : ToolRegistry) (start : String) (tools : List RegisteredTool) :
    Replacing :=
  if start = "" then ⟨memory, registry, .error ⟨"ValueError", "Tool prefix must not be empty."⟩⟩
  else
    match incomingTools registry start [] tools with
    | .error failure => ⟨memory, registry, .error failure⟩
    | .ok incoming =>
        let removed := removedNames registry start incoming
        replaceEach same incoming memory (removed.foldl ToolRegistry.delete registry) { removed }

-- What the validation at the top of replace_prefix asks for.
structure Admitted (start : String) (tools : List RegisteredTool) : Prop where
  nonempty : start ≠ ""
  starting : ∀ tool ∈ tools, startsWith tool.name start = true
  distinct : (tools.map RegisteredTool.name).Nodup

def ToolRegistry.comparable (registry : ToolRegistry) (tool : RegisteredTool) : Bool :=
  match registry.get tool.name with
  | none => true
  | some previous => previous.readable && tool.readable

def agree (memory : Memory) (previous tool : RegisteredTool) : Bool :=
  match (previous.definition memory).2, (tool.definition memory).2 with
  | .ok first, .ok second => same first second && previous.parallelSafe == tool.parallelSafe
  | _, _ => false

theorem registry_ext (one other : ToolRegistry) (tools : one.tools = other.tools) : one = other := by
  cases one
  cases other
  cases tools
  rfl

theorem get_put (registry : ToolRegistry) (tool : RegisteredTool) (name : String) :
    (registry.put tool).get name = if tool.name = name then some tool else registry.get name :=
  get_set_item tool.name name tool registry.tools

theorem get_delete (registry : ToolRegistry) (name other : String) :
    (registry.delete name).get other = if name = other then none else registry.get other :=
  get_pop_item name other registry.tools

theorem get_deleted (names : List String) (registry : ToolRegistry) (name : String) :
    (names.foldl ToolRegistry.delete registry).get name = if name ∈ names then none else registry.get name := by
  induction names generalizing registry with
  | nil => rfl
  | cons first rest ih =>
      rw [List.foldl_cons, ih, get_delete]
      by_cases later : name ∈ rest
      · rw [if_pos later, if_pos (List.mem_cons_of_mem _ later)]
      · by_cases here : first = name
        · rw [if_neg later, if_pos here, if_pos (List.mem_cons.mpr (.inl here.symm))]
        · have apart : name ∉ first :: rest := by
            intro member
            rcases List.mem_cons.mp member with equal | member
            · exact here equal.symm
            · exact later member
          rw [if_neg later, if_neg here, if_neg apart]

theorem get_some_mem (registry : ToolRegistry) (name : String) :
    (registry.get name).isSome = true ↔ name ∈ registry.tools.map Prod.fst := by
  have absent := get_item_none name registry.tools
  rw [ToolRegistry.get]
  cases found : getItem name registry.tools with
  | none => simpa [found] using absent
  | some tool => simpa [found] using absent

theorem get_named (registry : ToolRegistry) (name : String) (tool : RegisteredTool)
    (found : registry.get name = some tool) : (name, tool) ∈ registry.tools ∧ tool.name = name := by
  have member := get_item_mem name tool registry.tools found
  exact ⟨member, registry.named (name, tool) member⟩

theorem mem_removed (registry : ToolRegistry) (start : String) (incoming : List RegisteredTool) (name : String) :
    name ∈ removedNames registry start incoming ↔
      (registry.get name).isSome = true ∧ startsWith name start = true ∧ name ∉ incoming.map RegisteredTool.name := by
  rw [removedNames, List.mem_filter, List.mem_filter, decide_eq_true_iff, get_some_mem, and_assoc]

theorem get_kept (registry : ToolRegistry) (start : String) (incoming : List RegisteredTool) (tool : RegisteredTool)
    (member : tool ∈ incoming) :
    ((removedNames registry start incoming).foldl ToolRegistry.delete registry).get tool.name = registry.get tool.name := by
  have stays : tool.name ∉ removedNames registry start incoming := by
    rw [mem_removed]
    exact fun removed => removed.2.2 (List.mem_map_of_mem member)
  rw [get_deleted, if_neg stays]

theorem incoming_ok (registry : ToolRegistry) (start : String) (tools incoming : List RegisteredTool)
    (starting : ∀ tool ∈ tools, startsWith tool.name start = true)
    (distinct : ((incoming ++ tools).map RegisteredTool.name).Nodup) :
    incomingTools registry start incoming tools = .ok (incoming ++ tools) := by
  induction tools generalizing incoming with
  | nil => rw [incomingTools, List.append_nil]
  | cons tool rest ih =>
      have starts := starting tool (List.mem_cons_self ..)
      have fresh : tool.name ∉ incoming.map RegisteredTool.name := by
        rw [List.map_append, List.map_cons] at distinct
        exact fun member => (List.nodup_append.mp distinct).2.2 _ member _ (List.mem_cons_self ..) rfl
      have whole : incoming ++ [tool] ++ rest = incoming ++ tool :: rest := by simp
      rw [incomingTools, if_neg (by simp [starts]), if_neg fresh, if_neg (by simp [starts]),
        ih (incoming ++ [tool]) (fun other member => starting other (List.mem_cons_of_mem _ member)) (whole ▸ distinct), whole]

theorem incoming_admitted (registry : ToolRegistry) (start : String) (tools incoming result : List RegisteredTool)
    (fresh : (incoming.map RegisteredTool.name).Nodup)
    (taken : incomingTools registry start incoming tools = .ok result) :
    (∀ tool ∈ tools, startsWith tool.name start = true) ∧ ((incoming ++ tools).map RegisteredTool.name).Nodup := by
  induction tools generalizing incoming with
  | nil =>
      rw [List.append_nil]
      exact ⟨by simp, fresh⟩
  | cons tool rest ih =>
      rw [incomingTools] at taken
      by_cases starts : startsWith tool.name start = false
      · rw [if_pos starts] at taken
        cases taken
      · rw [if_neg starts] at taken
        by_cases twice : tool.name ∈ incoming.map RegisteredTool.name
        · rw [if_pos twice] at taken
          cases taken
        · rw [if_neg twice, if_neg fun conflict => starts conflict.2] at taken
          have longer : ((incoming ++ [tool]).map RegisteredTool.name).Nodup := by
            rw [List.map_append]
            apply List.nodup_append.mpr ⟨fresh, List.pairwise_singleton _ _, _⟩
            rintro name member last single rfl
            exact twice (List.mem_singleton.mp single ▸ member)
          obtain ⟨others, distinct⟩ := ih (incoming ++ [tool]) longer taken
          rw [List.append_assoc, List.singleton_append] at distinct
          exact ⟨List.forall_mem_cons.mpr ⟨Bool.eq_true_of_not_eq_false starts, others⟩, distinct⟩

theorem replace_admitted (memory : Memory) (registry : ToolRegistry) (start : String) (tools : List RegisteredTool)
    (admitted : Admitted start tools) :
    ToolRegistry.replacePrefix same memory registry start tools =
      replaceEach same tools memory ((removedNames registry start tools).foldl ToolRegistry.delete registry)
        { removed := removedNames registry start tools } := by
  have taken : incomingTools registry start [] tools = .ok tools :=
    incoming_ok registry start tools [] admitted.starting admitted.distinct
  rw [ToolRegistry.replacePrefix, if_neg admitted.nonempty, taken]

theorem replace_refused (memory : Memory) (registry : ToolRegistry) (start : String) (tools : List RegisteredTool)
    (refused : ¬ Admitted start tools) :
    ∃ failure, ToolRegistry.replacePrefix same memory registry start tools = ⟨memory, registry, .error failure⟩ := by
  rw [ToolRegistry.replacePrefix]
  by_cases empty : start = ""
  · rw [if_pos empty]
    exact ⟨_, rfl⟩
  · rw [if_neg empty]
    cases taken : incomingTools registry start [] tools with
    | error failure => exact ⟨failure, rfl⟩
    | ok incoming =>
        obtain ⟨starting, distinct⟩ := incoming_admitted registry start tools [] incoming List.nodup_nil taken
        exact absurd ⟨empty, starting, distinct⟩ refused

section Compare

variable (memory : Memory) (previous tool : RegisteredTool)

theorem compare_ok (first : previous.readable = true) (second : tool.readable = true) :
    registeredToolsEqual same memory previous tool =
      ((tool.definition (previous.definition memory).1).1, .ok (agree same memory previous tool)) := by
  obtain ⟨one, left⟩ := (definition_readable previous memory).mp first
  obtain ⟨other, right⟩ := (definition_readable tool memory).mp second
  have later := definition_steady tool memory _ (definition_closes previous memory)
  rw [right] at later
  rw [registeredToolsEqual, agree, left, right]
  cases read : previous.definition memory with
  | mk next result =>
      rw [read] at left later
      dsimp only at left later ⊢
      rw [left]
      dsimp only
      cases second : tool.definition next with
      | mk last result =>
          rw [second] at later
          dsimp only at later ⊢
          rw [later]

theorem compare_fails (fails : (previous.readable && tool.readable) = false) :
    ∃ failure, registeredToolsEqual same memory previous tool = ((previous.definition memory).1, .error failure) := by
  rw [registeredToolsEqual]
  cases first : previous.readable with
  | false =>
      obtain ⟨failure, left⟩ := definition_unreadable previous memory first
      cases read : previous.definition memory with
      | mk next result =>
          rw [read] at left
          dsimp only at left ⊢
          rw [left]
          exact ⟨failure, rfl⟩
  | true =>
      obtain ⟨definition, left⟩ := (definition_readable previous memory).mp first
      rw [first, Bool.true_and] at fails
      cases read : previous.definition memory with
      | mk next result =>
          rw [read] at left
          obtain ⟨failure, right⟩ := definition_unreadable tool next fails
          have still := definition_memory tool next
          rw [unreadable_no_source tool fails] at still
          dsimp only at left still ⊢
          rw [left]
          dsimp only
          cases second : tool.definition next with
          | mk last result =>
              rw [second] at right still
              dsimp only at right still ⊢
              rw [right, still]
              exact ⟨failure, rfl⟩

theorem agree_steady (after : Memory) (closes : Closes memory after) :
    agree same after previous tool = agree same memory previous tool := by
  rw [agree, agree, definition_steady previous memory after closes, definition_steady tool memory after closes]

theorem definition_closed (address : Nat) (reads : tool.source = some address) :
    dictHas "additionalProperties" ((tool.definition memory).1 address) = true := by
  rw [definition_memory, reads]
  dsimp only
  rw [Memory.close, Function.update_self]
  exact closed_has (memory address)

theorem definition_idle (shut : ∀ address, tool.source = some address →
    dictHas "additionalProperties" (memory address) = true) : (tool.definition memory).1 = memory := by
  rw [definition_memory]
  cases reads : tool.source with
  | none => rfl
  | some address => exact close_same memory address (shut address reads)

end Compare

-- What the loop notes about a tool.
def ToolRegistrationDiff.enter (memory : Memory) (registry : ToolRegistry) (diff : ToolRegistrationDiff)
    (tool : RegisteredTool) : ToolRegistrationDiff :=
  match registry.get tool.name with
  | none => { diff with added := diff.added ++ [tool.name] }
  | some previous =>
      if agree same memory previous tool then { diff with unchanged := diff.unchanged ++ [tool.name] }
      else { diff with updated := diff.updated ++ [tool.name] }

section Loop

variable (memory : Memory) (registry : ToolRegistry) (diff : ToolRegistrationDiff)

theorem replace_each_step (tool : RegisteredTool) (rest : List RegisteredTool)
    (comparable : registry.comparable tool = true) :
    ∃ next, Closes memory next ∧
      (∀ previous address, registry.get tool.name = some previous → previous.source = some address →
        dictHas "additionalProperties" (next address) = true) ∧
      replaceEach same (tool :: rest) memory registry diff =
        replaceEach same rest next (registry.put tool) (diff.enter same memory registry tool) := by
  rw [replaceEach, ToolRegistrationDiff.enter]
  rw [ToolRegistry.comparable] at comparable
  cases found : registry.get tool.name with
  | none =>
      refine ⟨memory, closes_same memory, ?_, rfl⟩
      intro previous address absent
      cases absent
  | some previous =>
      rw [found] at comparable
      dsimp only at comparable ⊢
      obtain ⟨first, second⟩ := Bool.and_eq_true_iff.mp comparable
      have left := definition_closes previous memory
      have right := definition_closes tool (previous.definition memory).1
      refine ⟨_, closes_trans _ _ _ left right, ?_, ?_⟩
      · intro other address here reads
        cases here
        have shut := definition_closed memory previous address reads
        rw [closes_stays _ _ address right shut]
        exact shut
      · rw [compare_ok same memory previous tool first second]
        cases agree same memory previous tool <;> rfl

theorem comparable_put (first tool : RegisteredTool) (apart : first.name ≠ tool.name) :
    (registry.put first).comparable tool = registry.comparable tool := by
  rw [ToolRegistry.comparable, ToolRegistry.comparable, get_put, if_neg apart]

theorem enter_later (next : Memory) (first tool : RegisteredTool) (apart : first.name ≠ tool.name)
    (closes : Closes memory next) :
    diff.enter same next (registry.put first) tool = diff.enter same memory registry tool := by
  rw [ToolRegistrationDiff.enter, ToolRegistrationDiff.enter, get_put, if_neg apart]
  cases registry.get tool.name with
  | none => rfl
  | some previous =>
      dsimp only
      rw [agree_steady same memory previous tool next closes]

theorem enters_later (next : Memory) (first : RegisteredTool) (tools : List RegisteredTool)
    (apart : first.name ∉ tools.map RegisteredTool.name) (closes : Closes memory next) :
    tools.foldl (ToolRegistrationDiff.enter same next (registry.put first)) diff =
      tools.foldl (ToolRegistrationDiff.enter same memory registry) diff := by
  induction tools generalizing diff with
  | nil => rfl
  | cons tool rest ih =>
      rw [List.map_cons, List.mem_cons, not_or] at apart
      rw [List.foldl_cons, List.foldl_cons, enter_later same memory registry diff next first tool apart.1 closes,
        ih _ apart.2]

theorem replace_each_goes (front rest : List RegisteredTool) (distinct : (front.map RegisteredTool.name).Nodup)
    (comparable : ∀ tool ∈ front, registry.comparable tool = true) :
    ∃ next, Closes memory next ∧
      (∀ tool ∈ front, ∀ previous address, registry.get tool.name = some previous → previous.source = some address →
        dictHas "additionalProperties" (next address) = true) ∧
      replaceEach same (front ++ rest) memory registry diff =
        replaceEach same rest next (front.foldl ToolRegistry.put registry)
          (front.foldl (ToolRegistrationDiff.enter same memory registry) diff) := by
  induction front generalizing memory registry diff with
  | nil => exact ⟨memory, closes_same memory, by simp, rfl⟩
  | cons tool front ih =>
      rw [List.map_cons, List.nodup_cons] at distinct
      have apart : ∀ later ∈ front, tool.name ≠ later.name := by
        rintro later member same
        exact distinct.1 (same ▸ List.mem_map_of_mem member)
      obtain ⟨middle, one, shut, taken⟩ :=
        replace_each_step same memory registry diff tool (front ++ rest) (comparable tool (List.mem_cons_self ..))
      have later : ∀ other ∈ front, (registry.put tool).comparable other = true := by
        intro other member
        rw [comparable_put registry tool other (apart other member)]
        exact comparable other (List.mem_cons_of_mem _ member)
      obtain ⟨next, other, read, gone⟩ :=
        ih middle (registry.put tool) (diff.enter same memory registry tool) distinct.2 later
      refine ⟨next, closes_trans _ _ _ one other, ?_, ?_⟩
      · intro entry member previous address found reads
        rcases List.mem_cons.mp member with rfl | member
        · have first := shut previous address found reads
          rw [closes_stays _ _ address other first]
          exact first
        · apply read entry member previous address _ reads
          rw [get_put, if_neg (apart entry member)]
          exact found
      · rw [List.cons_append, taken, gone, List.foldl_cons, List.foldl_cons,
          enters_later same memory registry _ middle tool front distinct.1 one]

theorem replace_each_stops (tool : RegisteredTool) (rest : List RegisteredTool)
    (fails : registry.comparable tool = false) :
    ∃ previous failure, registry.get tool.name = some previous ∧
      replaceEach same (tool :: rest) memory registry diff =
        ⟨(previous.definition memory).1, registry, .error failure⟩ := by
  rw [replaceEach]
  rw [ToolRegistry.comparable] at fails
  cases found : registry.get tool.name with
  | none =>
      rw [found] at fails
      cases fails
  | some previous =>
      rw [found] at fails
      dsimp only at fails ⊢
      obtain ⟨failure, compared⟩ := compare_fails same memory previous tool fails
      rw [compared]
      exact ⟨previous, failure, rfl, rfl⟩

theorem get_puts (tools : List RegisteredTool) (distinct : (tools.map RegisteredTool.name).Nodup) (name : String) :
    (tools.foldl ToolRegistry.put registry).get name =
      match tools.find? fun tool => decide (tool.name = name) with
      | none => registry.get name
      | some tool => some tool := by
  induction tools generalizing registry with
  | nil => rfl
  | cons tool rest ih =>
      rw [List.map_cons, List.nodup_cons] at distinct
      rw [List.foldl_cons, ih (registry.put tool) distinct.2, get_put, List.find?_cons]
      by_cases here : tool.name = name
      · have absent : rest.find? (fun later => decide (later.name = name)) = none := by
          rw [List.find?_eq_none]
          intro later member same
          exact distinct.1 (here ▸ of_decide_eq_true same ▸ List.mem_map_of_mem member)
        rw [absent, if_pos here, decide_eq_true here]
      · rw [if_neg here, decide_eq_false here]

end Loop

section Report

variable (memory : Memory) (registry : ToolRegistry)

def ToolRegistrationDiff.names (diff : ToolRegistrationDiff) : List String := diff.added ++ diff.updated ++ diff.unchanged

theorem enter_names (diff : ToolRegistrationDiff) (tool : RegisteredTool) :
    (diff.enter same memory registry tool).names.Perm (diff.names ++ [tool.name]) := by
  unfold ToolRegistrationDiff.enter ToolRegistrationDiff.names
  cases registry.get tool.name with
  | none =>
      dsimp only
      have swapped : ([tool.name] ++ (diff.updated ++ diff.unchanged)).Perm (diff.updated ++ diff.unchanged ++ [tool.name]) :=
        List.perm_append_comm
      have moved := swapped.append_left diff.added
      simpa only [List.append_assoc] using moved
  | some previous =>
      dsimp only
      by_cases equal : agree same memory previous tool = true
      · rw [if_pos equal]
        simp only [List.append_assoc]
        exact List.Perm.refl _
      · rw [if_neg equal]
        have swapped : ([tool.name] ++ diff.unchanged).Perm (diff.unchanged ++ [tool.name]) := List.perm_append_comm
        have moved := swapped.append_left (diff.added ++ diff.updated)
        simpa only [List.append_assoc] using moved

theorem enters_names (diff : ToolRegistrationDiff) (tools : List RegisteredTool) :
    (tools.foldl (ToolRegistrationDiff.enter same memory registry) diff).names.Perm
      (diff.names ++ tools.map RegisteredTool.name) := by
  induction tools generalizing diff with
  | nil =>
      rw [List.map_nil, List.append_nil]
      exact List.Perm.refl _
  | cons tool rest ih =>
      rw [List.foldl_cons, List.map_cons]
      have first := (enter_names same memory registry diff tool).append_right (rest.map RegisteredTool.name)
      rw [List.append_assoc, List.singleton_append] at first
      exact (ih _).trans first

theorem enter_removed (diff : ToolRegistrationDiff) (tool : RegisteredTool) :
    (diff.enter same memory registry tool).removed = diff.removed := by
  unfold ToolRegistrationDiff.enter
  cases registry.get tool.name with
  | none => rfl
  | some previous =>
      dsimp only
      by_cases equal : agree same memory previous tool = true
      · rw [if_pos equal]
      · rw [if_neg equal]

theorem enters_removed (diff : ToolRegistrationDiff) (tools : List RegisteredTool) :
    (tools.foldl (ToolRegistrationDiff.enter same memory registry) diff).removed = diff.removed := by
  induction tools generalizing diff with
  | nil => rfl
  | cons tool rest ih => rw [List.foldl_cons, ih, enter_removed]

theorem enters_added (diff : ToolRegistrationDiff) (tools : List RegisteredTool) (name : String)
    (member : name ∈ (tools.foldl (ToolRegistrationDiff.enter same memory registry) diff).added) :
    name ∈ diff.added ∨ registry.get name = none := by
  induction tools generalizing diff with
  | nil => exact .inl member
  | cons tool rest ih =>
      rw [List.foldl_cons] at member
      rcases ih _ member with here | absent
      · unfold ToolRegistrationDiff.enter at here
        cases found : registry.get tool.name with
        | none =>
            rw [found] at here
            rcases List.mem_append.mp here with old | new
            · exact .inl old
            · exact .inr (List.mem_singleton.mp new ▸ found)
        | some previous =>
            rw [found] at here
            dsimp only at here
            by_cases equal : agree same memory previous tool = true
            · rw [if_pos equal] at here
              exact .inl here
            · rw [if_neg equal] at here
              exact .inl here
      · exact .inr absent

theorem enters_keep (diff : ToolRegistrationDiff) (tools : List RegisteredTool) :
    diff.unchanged ⊆ (tools.foldl (ToolRegistrationDiff.enter same memory registry) diff).unchanged ∧
      diff.updated ⊆ (tools.foldl (ToolRegistrationDiff.enter same memory registry) diff).updated := by
  induction tools generalizing diff with
  | nil => exact ⟨List.Subset.refl _, List.Subset.refl _⟩
  | cons tool rest ih =>
      rw [List.foldl_cons]
      have step : diff.unchanged ⊆ (diff.enter same memory registry tool).unchanged ∧
          diff.updated ⊆ (diff.enter same memory registry tool).updated := by
        unfold ToolRegistrationDiff.enter
        cases registry.get tool.name with
        | none => exact ⟨List.Subset.refl _, List.Subset.refl _⟩
        | some previous =>
            dsimp only
            by_cases equal : agree same memory previous tool = true
            · rw [if_pos equal]
              exact ⟨List.subset_append_left .., List.Subset.refl _⟩
            · rw [if_neg equal]
              exact ⟨List.Subset.refl _, List.subset_append_left ..⟩
      exact ⟨List.Subset.trans step.1 (ih _).1, List.Subset.trans step.2 (ih _).2⟩

theorem enters_compared (diff : ToolRegistrationDiff) (tools : List RegisteredTool) (tool previous : RegisteredTool)
    (member : tool ∈ tools) (found : registry.get tool.name = some previous) :
    if agree same memory previous tool = true then
      tool.name ∈ (tools.foldl (ToolRegistrationDiff.enter same memory registry) diff).unchanged
    else tool.name ∈ (tools.foldl (ToolRegistrationDiff.enter same memory registry) diff).updated := by
  induction tools generalizing diff with
  | nil => cases member
  | cons first rest ih =>
      rw [List.foldl_cons]
      rcases List.mem_cons.mp member with rfl | later
      · have kept := enters_keep same memory registry (diff.enter same memory registry tool) rest
        rw [ToolRegistrationDiff.enter, found] at kept ⊢
        dsimp only at kept ⊢
        by_cases equal : agree same memory previous tool = true
        · rw [if_pos equal] at kept ⊢
          rw [if_pos equal]
          exact kept.1 (by simp)
        · rw [if_neg equal] at kept ⊢
          rw [if_neg equal]
          exact kept.2 (by simp)
      · exact ih _ later

end Report

structure Exact (memory : Memory) (registry : ToolRegistry) (start : String) (tools : List RegisteredTool)
    (final : ToolRegistry) (diff : ToolRegistrationDiff) : Prop where
  outside : ∀ name, startsWith name start = false → final.get name = registry.get name
  inside : ∀ tool ∈ tools, final.get tool.name = some tool
  only : ∀ name, startsWith name start = true → name ∉ tools.map RegisteredTool.name → final.get name = none
  parts : (diff.added ++ diff.updated ++ diff.unchanged).Perm (tools.map RegisteredTool.name)
  removed : ∀ name, name ∈ diff.removed ↔
    (registry.get name).isSome = true ∧ startsWith name start = true ∧ name ∉ tools.map RegisteredTool.name
  once : diff.removed.Nodup
  added : ∀ name ∈ diff.added, registry.get name = none
  compared : ∀ tool ∈ tools, ∀ previous, registry.get tool.name = some previous →
    if agree same memory previous tool = true then tool.name ∈ diff.unchanged else tool.name ∈ diff.updated

section Replace

variable (memory : Memory) (registry : ToolRegistry) (start : String) (tools : List RegisteredTool)

theorem comparable_kept (tool : RegisteredTool) (member : tool ∈ tools) :
    ((removedNames registry start tools).foldl ToolRegistry.delete registry).comparable tool = registry.comparable tool := by
  rw [ToolRegistry.comparable, ToolRegistry.comparable, get_kept registry start tools tool member]

theorem removed_once : (removedNames registry start tools).Nodup := (registry.distinct.filter _).filter _

theorem replaced_registry (admitted : Admitted start tools) (name : String) :
    (tools.foldl ToolRegistry.put ((removedNames registry start tools).foldl ToolRegistry.delete registry)).get name =
      match tools.find? fun tool => decide (tool.name = name) with
      | none => if name ∈ removedNames registry start tools then none else registry.get name
      | some tool => some tool := by
  rw [get_puts _ tools admitted.distinct, get_deleted]

theorem find_tool (admitted : Admitted start tools) (tool : RegisteredTool) (member : tool ∈ tools) :
    tools.find? (fun other => decide (other.name = tool.name)) = some tool := by
  cases found : tools.find? fun other => decide (other.name = tool.name) with
  | none => exact absurd (decide_eq_true rfl) (List.find?_eq_none.mp found tool member)
  | some other =>
      have named := List.find?_some found
      rw [decide_eq_true_iff] at named
      exact congrArg some (List.inj_on_of_nodup_map admitted.distinct (List.mem_of_find?_eq_some found) member named)

theorem find_absent (name : String) (absent : name ∉ tools.map RegisteredTool.name) :
    tools.find? (fun tool => decide (tool.name = name)) = none := by
  rw [List.find?_eq_none]
  intro tool member same
  exact absent (of_decide_eq_true same ▸ List.mem_map_of_mem member)

theorem replace_exact (admitted : Admitted start tools) (comparable : ∀ tool ∈ tools, registry.comparable tool = true) :
    ∃ diff, (ToolRegistry.replacePrefix same memory registry start tools).result = .ok diff ∧
      Exact same memory registry start tools (ToolRegistry.replacePrefix same memory registry start tools).registry diff := by
  let pruned := (removedNames registry start tools).foldl ToolRegistry.delete registry
  have kept : ∀ tool ∈ tools, pruned.comparable tool = true := fun tool member =>
    (comparable_kept registry start tools tool member).trans (comparable tool member)
  obtain ⟨next, _, _, gone⟩ :=
    replace_each_goes same memory pruned { removed := removedNames registry start tools } tools [] admitted.distinct kept
  rw [List.append_nil] at gone
  rw [replace_admitted same memory registry start tools admitted, gone, replaceEach]
  refine ⟨_, rfl, ?_⟩
  dsimp only
  have final := replaced_registry registry start tools admitted
  have old : ∀ tool ∈ tools, pruned.get tool.name = registry.get tool.name := get_kept registry start tools
  constructor
  case outside =>
    intro name elsewhere
    have absent : name ∉ tools.map RegisteredTool.name := by
      rintro member
      obtain ⟨tool, inside, rfl⟩ := List.mem_map.mp member
      exact Bool.noConfusion (elsewhere.symm.trans (admitted.starting tool inside))
    have stays : name ∉ removedNames registry start tools := by
      rw [mem_removed]
      exact fun removed => Bool.noConfusion (elsewhere.symm.trans removed.2.1)
    rw [final, find_absent tools name absent]
    exact if_neg stays
  case inside =>
    intro tool member
    rw [final, find_tool start tools admitted tool member]
  case only =>
    intro name starts absent
    rw [final, find_absent tools name absent]
    dsimp only
    by_cases gone : name ∈ removedNames registry start tools
    · exact if_pos gone
    · rw [if_neg gone]
      rw [mem_removed] at gone
      rw [← Option.not_isSome_iff_eq_none]
      exact fun held => gone ⟨held, starts, absent⟩
  case parts => exact enters_names same memory pruned _ tools
  case removed =>
    intro name
    rw [enters_removed]
    exact mem_removed registry start tools name
  case once =>
    rw [enters_removed]
    exact removed_once registry start tools
  case added =>
    intro name member
    rcases enters_added same memory pruned _ tools name member with none | absent
    · cases none
    · have named : name ∈ tools.map RegisteredTool.name := by
        apply (enters_names same memory pruned { removed := removedNames registry start tools } tools).subset
        exact List.mem_append_left _ (List.mem_append_left _ member)
      obtain ⟨tool, inside, rfl⟩ := List.mem_map.mp named
      rw [← old tool inside]
      exact absent
  case compared =>
    intro tool member previous found
    exact enters_compared same memory pruned _ tools tool previous member ((old tool member).trans found)

theorem first_failure (fails : ¬ ∀ tool ∈ tools, registry.comparable tool = true) :
    ∃ front tool back, tools = front ++ tool :: back ∧ (∀ earlier ∈ front, registry.comparable earlier = true) ∧
      registry.comparable tool = false := by
  cases found : tools.find? fun tool => !registry.comparable tool with
  | none =>
      exfalso
      apply fails
      intro tool member
      have passes := List.find?_eq_none.mp found tool member
      simpa using passes
  | some tool =>
      obtain ⟨failing, front, back, split, passes⟩ := List.find?_eq_some_iff_append.mp found
      refine ⟨front, tool, back, split, ?_, by simpa using failing⟩
      intro earlier member
      have passed := passes earlier member
      simpa using passed

theorem replace_stops (front back : List RegisteredTool) (tool : RegisteredTool) (split : tools = front ++ tool :: back)
    (admitted : Admitted start tools) (passes : ∀ earlier ∈ front, registry.comparable earlier = true)
    (fails : registry.comparable tool = false) :
    ∃ previous failure next, registry.get tool.name = some previous ∧ Closes memory next ∧
      (∀ earlier ∈ front, ∀ old address, registry.get earlier.name = some old → old.source = some address →
        dictHas "additionalProperties" (next address) = true) ∧
      ToolRegistry.replacePrefix same memory registry start tools =
        ⟨(previous.definition next).1,
          front.foldl ToolRegistry.put ((removedNames registry start tools).foldl ToolRegistry.delete registry),
          .error failure⟩ := by
  let pruned := (removedNames registry start tools).foldl ToolRegistry.delete registry
  have distinct := admitted.distinct
  rw [split, List.map_append, List.map_cons] at distinct
  obtain ⟨separate, _, crossing⟩ := List.nodup_append.mp distinct
  have inside : ∀ earlier ∈ front, earlier ∈ tools := fun earlier member => split ▸ List.mem_append_left _ member
  have here : tool ∈ tools := split ▸ List.mem_append_right _ (List.mem_cons_self ..)
  have kept : ∀ earlier ∈ front, pruned.comparable earlier = true := fun earlier member =>
    (comparable_kept registry start tools earlier (inside earlier member)).trans (passes earlier member)
  obtain ⟨next, closes, shut, gone⟩ := replace_each_goes same memory pruned
    { removed := removedNames registry start tools } front (tool :: back) separate kept
  have absent : tool.name ∉ front.map RegisteredTool.name := fun member =>
    crossing tool.name member tool.name (List.mem_cons_self ..) rfl
  have reached : (front.foldl ToolRegistry.put pruned).get tool.name = registry.get tool.name := by
    rw [get_puts pruned front separate, find_absent front tool.name absent]
    exact get_kept registry start tools tool here
  have stuck : (front.foldl ToolRegistry.put pruned).comparable tool = false := by
    rw [ToolRegistry.comparable, reached]
    exact fails
  obtain ⟨previous, failure, found, stopped⟩ := replace_each_stops same next (front.foldl ToolRegistry.put pruned)
    (front.foldl (ToolRegistrationDiff.enter same memory pruned) { removed := removedNames registry start tools })
    tool back stuck
  refine ⟨previous, failure, next, reached.symm.trans found, closes, ?_, ?_⟩
  · intro earlier member old address registered reads
    have same := get_kept registry start tools earlier (inside earlier member)
    exact shut earlier member old address (same.trans registered) reads
  · rw [replace_admitted same memory registry start tools admitted]
    exact (congrArg (fun list => replaceEach same list memory pruned { removed := removedNames registry start tools })
      split).trans (gone.trans stopped)

-- A registered tool that cannot be described spoils the comparison with a tool of its name.
theorem replace_prefix_exact_iff (nonempty : start ≠ "") (distinct : (tools.map RegisteredTool.name).Nodup)
    (starting : ∀ tool ∈ tools, startsWith tool.name start = true) :
    (∃ diff, (ToolRegistry.replacePrefix same memory registry start tools).result = .ok diff ∧
      Exact same memory registry start tools
        (ToolRegistry.replacePrefix same memory registry start tools).registry diff) ↔
      ∀ tool ∈ tools, ∀ previous, registry.get tool.name = some previous →
        previous.readable = true ∧ tool.readable = true := by
  have admitted : Admitted start tools := ⟨nonempty, starting, distinct⟩
  have condition : (∀ tool ∈ tools, registry.comparable tool = true) ↔
      ∀ tool ∈ tools, ∀ previous, registry.get tool.name = some previous →
        previous.readable = true ∧ tool.readable = true := by
    apply forall₂_congr
    intro tool _
    rw [ToolRegistry.comparable]
    cases registry.get tool.name with
    | none => simp
    | some previous => simp
  rw [← condition]
  constructor
  · rintro ⟨diff, done, _⟩
    by_contra fails
    obtain ⟨front, tool, back, split, passes, failing⟩ := first_failure registry tools fails
    obtain ⟨_, failure, _, _, _, _, stopped⟩ :=
      replace_stops same memory registry start tools front back tool split admitted passes failing
    rw [stopped] at done
    cases done
  · exact replace_exact same memory registry start tools admitted

end Replace

section Samples

def sampleTool (name : String) (inputSchema : Option Nat) : RegisteredTool :=
  { name, description := "", inputModel := none, handler := fun _ _ => .ok .null, inputSchema }

def bareRegistry : ToolRegistry := ToolRegistry.empty.put (sampleTool "mcp__a" none)

theorem replace_prefix_not_exact :
    ¬ ∀ (memory : Memory) (registry : ToolRegistry) (start : String) (tools : List RegisteredTool), start ≠ "" →
      (tools.map RegisteredTool.name).Nodup → (∀ tool ∈ tools, startsWith tool.name start = true) →
      (∀ tool ∈ tools, tool.inputModel.isSome = true ∨ tool.inputSchema.isSome = true) →
      ∃ diff, (ToolRegistry.replacePrefix (fun _ _ => true) memory registry start tools).result = .ok diff ∧
        Exact (fun _ _ => true) memory registry start tools
          (ToolRegistry.replacePrefix (fun _ _ => true) memory registry start tools).registry diff := by
  intro always
  obtain ⟨diff, done, _⟩ := always (fun _ => []) bareRegistry "mcp__" [sampleTool "mcp__a" (some 0)] (by decide)
    (by decide) (by decide) (by decide)
  have raised : (ToolRegistry.replacePrefix (fun _ _ => true) (fun _ => []) bareRegistry "mcp__"
      [sampleTool "mcp__a" (some 0)]).result = .error (sampleTool "mcp__a" none).noInputSchema := rfl
  rw [raised] at done
  cases done

def sampleRegistry : ToolRegistry :=
  (ToolRegistry.empty.put (sampleTool "local" (some 0))).put (sampleTool "mcp__a" (some 1))

theorem replace_prefix_exact_sample :
    (∃ diff, (ToolRegistry.replacePrefix (fun _ _ => true) (fun _ => []) sampleRegistry "mcp__"
        [sampleTool "mcp__a" (some 2), sampleTool "mcp__b" (some 3)]).result = .ok diff ∧
      Exact (fun _ _ => true) (fun _ => []) sampleRegistry "mcp__"
        [sampleTool "mcp__a" (some 2), sampleTool "mcp__b" (some 3)]
        (ToolRegistry.replacePrefix (fun _ _ => true) (fun _ => []) sampleRegistry "mcp__"
          [sampleTool "mcp__a" (some 2), sampleTool "mcp__b" (some 3)]).registry diff) ↔
      ∀ tool ∈ [sampleTool "mcp__a" (some 2), sampleTool "mcp__b" (some 3)], ∀ previous,
        sampleRegistry.get tool.name = some previous → previous.readable = true ∧ tool.readable = true :=
  replace_prefix_exact_iff (fun _ _ => true) (fun _ => []) sampleRegistry "mcp__"
    [sampleTool "mcp__a" (some 2), sampleTool "mcp__b" (some 3)] (by decide) (by decide) (by decide)

end Samples

-- Every registry is what its tools make of an empty one when they are registered in turn.
def registerAll (registry : ToolRegistry) : List RegisteredTool → Except PyException ToolRegistry
  | [] => .ok registry
  | tool :: rest =>
      match registry.register tool with
      | .error failure => .error failure
      | .ok next => registerAll next rest

theorem register_fresh (registry : ToolRegistry) (tools : List (String × RegisteredTool))
    (distinct : ((registry.tools ++ tools).map Prod.fst).Nodup) (named : ∀ entry ∈ tools, entry.2.name = entry.1) :
    ∃ final, registerAll registry (tools.map Prod.snd) = .ok final ∧ final.tools = registry.tools ++ tools := by
  induction tools generalizing registry with
  | nil => exact ⟨registry, rfl, (List.append_nil _).symm⟩
  | cons entry rest ih =>
      obtain ⟨name, tool⟩ := entry
      have own : tool.name = name := named (name, tool) (List.mem_cons_self ..)
      have absent : tool.name ∉ registry.tools.map Prod.fst := by
        rw [List.map_append, List.map_cons] at distinct
        rw [own]
        exact fun member => (List.nodup_append.mp distinct).2.2 name member name (List.mem_cons_self ..) rfl
      have free : ¬ (registry.get tool.name).isSome = true := fun some => absent ((get_some_mem registry tool.name).mp some)
      have grown : (registry.put tool).tools = registry.tools ++ [(name, tool)] := by
        rw [← own]
        exact set_item_absent tool.name tool registry.tools absent
      have whole : (registry.put tool).tools ++ rest = registry.tools ++ (name, tool) :: rest := by
        rw [grown, List.append_assoc, List.singleton_append]
      obtain ⟨final, done, held⟩ := ih (registry.put tool) (whole ▸ distinct)
        fun later member => named later (List.mem_cons_of_mem _ member)
      refine ⟨final, ?_, held.trans whole⟩
      rw [List.map_cons, registerAll, ToolRegistry.register, if_neg free]
      exact done

theorem registry_reachable (registry : ToolRegistry) : ∃ tools, registerAll .empty tools = .ok registry := by
  obtain ⟨final, done, held⟩ := register_fresh .empty registry.tools registry.distinct registry.named
  exact ⟨_, done.trans (congrArg Except.ok (registry_ext final registry held))⟩

-- The schema of the tool, if it is a dict, already has the key that a read would add.
def Shut (memory : Memory) (tool : RegisteredTool) : Prop :=
  ∀ address, tool.source = some address → dictHas "additionalProperties" (memory address) = true

structure Untouched (memory : Memory) (registry : ToolRegistry) (after : Replacing) : Prop where
  kept : after.registry = registry
  schemas : ∀ entry ∈ registry.tools, ∀ address, entry.2.inputSchema = some address → after.memory address = memory address

-- What the loop has done by the first comparison that fails has changed nothing.
structure Harmless (memory : Memory) (registry : ToolRegistry) (start : String) (tools front : List RegisteredTool)
    (tool : RegisteredTool) : Prop where
  stays : ∀ name, (registry.get name).isSome = true → startsWith name start = true → name ∈ tools.map RegisteredTool.name
  same : ∀ earlier ∈ front, registry.get earlier.name = some earlier ∧ Shut memory earlier
  shut : ∀ previous, registry.get tool.name = some previous → Shut memory previous

section Atomic

variable (memory : Memory) (registry : ToolRegistry) (start : String) (tools : List RegisteredTool)

theorem put_same (tool : RegisteredTool) (found : registry.get tool.name = some tool) : registry.put tool = registry :=
  registry_ext _ registry (set_item_same tool.name tool registry.tools found)

theorem replace_each_idle (front rest : List RegisteredTool) (diff : ToolRegistrationDiff)
    (comparable : ∀ earlier ∈ front, registry.comparable earlier = true)
    (registered : ∀ earlier ∈ front, registry.get earlier.name = some earlier ∧ Shut memory earlier) :
    ∃ report, replaceEach same (front ++ rest) memory registry diff = replaceEach same rest memory registry report := by
  induction front generalizing diff with
  | nil => exact ⟨diff, rfl⟩
  | cons tool front ih =>
      obtain ⟨found, shut⟩ := registered tool (List.mem_cons_self ..)
      have compared := comparable tool (List.mem_cons_self ..)
      rw [ToolRegistry.comparable, found] at compared
      have readable := (Bool.and_eq_true_iff.mp compared).1
      have idle : (tool.definition memory).1 = memory := definition_idle memory tool shut
      have step := compare_ok same memory tool tool readable readable
      rw [idle, idle] at step
      have later := fun diff => ih diff (fun other member => comparable other (List.mem_cons_of_mem _ member))
        fun other member => registered other (List.mem_cons_of_mem _ member)
      rw [List.cons_append, replaceEach, found]
      dsimp only
      rw [step, put_same registry tool found]
      cases agree same memory tool tool with
      | true => exact later _
      | false => exact later _

theorem untouched_harmless (front back : List RegisteredTool) (tool : RegisteredTool) (split : tools = front ++ tool :: back)
    (admitted : Admitted start tools) (passes : ∀ earlier ∈ front, registry.comparable earlier = true)
    (fails : registry.comparable tool = false)
    (untouched : Untouched memory registry (ToolRegistry.replacePrefix same memory registry start tools)) :
    Harmless memory registry start tools front tool := by
  obtain ⟨previous, failure, next, found, _, read, stopped⟩ :=
    replace_stops same memory registry start tools front back tool split admitted passes fails
  rw [stopped] at untouched
  have separate : (front.map RegisteredTool.name).Nodup := by
    have distinct := admitted.distinct
    rw [split, List.map_append] at distinct
    exact (List.nodup_append.mp distinct).1
  have part : Admitted start front :=
    ⟨admitted.nonempty, fun earlier member => admitted.starting earlier (split ▸ List.mem_append_left _ member), separate⟩
  have after : ∀ name, registry.get name = match front.find? fun tool => decide (tool.name = name) with
      | none => if name ∈ removedNames registry start tools then none else registry.get name
      | some tool => some tool := by
    intro name
    rw [← get_deleted, ← get_puts _ front separate]
    exact congrArg (fun registry => ToolRegistry.get registry name) untouched.kept.symm
  have closes := definition_closes previous next
  constructor
  case stays =>
    intro name registered starts
    by_contra absent
    have gone : name ∈ removedNames registry start tools := (mem_removed ..).mpr ⟨registered, starts, absent⟩
    have apart : name ∉ front.map RegisteredTool.name := by
      intro member
      rw [split, List.map_append] at absent
      exact absent (List.mem_append_left _ member)
    have missing := after name
    rw [find_absent front name apart] at missing
    dsimp only at missing
    rw [if_pos gone] at missing
    rw [missing] at registered
    cases registered
  case same =>
    intro earlier member
    have held := after earlier.name
    rw [find_tool start front part earlier member] at held
    refine ⟨held, fun address reads => ?_⟩
    have has := read earlier member earlier address held reads
    have steady := untouched.schemas _ (get_named registry _ earlier held).1 address (source_schema earlier address reads)
    rw [← steady]
    dsimp only
    rw [closes_stays _ _ address closes has]
    exact has
  case shut =>
    intro old registered address reads
    rw [found] at registered
    cases registered
    have steady := untouched.schemas _ (get_named registry _ previous found).1 address (source_schema previous address reads)
    rw [← steady]
    exact definition_closed next previous address reads

theorem harmless_untouched (front back : List RegisteredTool) (tool : RegisteredTool) (split : tools = front ++ tool :: back)
    (admitted : Admitted start tools) (passes : ∀ earlier ∈ front, registry.comparable earlier = true)
    (fails : registry.comparable tool = false) (harmless : Harmless memory registry start tools front tool) :
    Untouched memory registry (ToolRegistry.replacePrefix same memory registry start tools) := by
  have unremoved : removedNames registry start tools = [] := by
    apply List.eq_nil_iff_forall_not_mem.mpr
    intro name member
    obtain ⟨registered, starts, absent⟩ := (mem_removed ..).mp member
    exact absent (harmless.stays name registered starts)
  rw [replace_admitted same memory registry start tools admitted, unremoved, List.foldl_nil, split]
  obtain ⟨report, idle⟩ := replace_each_idle same memory registry front (tool :: back) {} passes harmless.same
  obtain ⟨previous, failure, found, stopped⟩ := replace_each_stops same memory registry report tool back fails
  have still : (previous.definition memory).1 = memory := definition_idle memory previous (harmless.shut previous found)
  have whole := idle.trans stopped
  rw [still] at whole
  rw [whole]
  exact ⟨rfl, fun _ _ _ _ => rfl⟩

theorem replace_prefix_atomic_iff :
    ((∃ failure, (ToolRegistry.replacePrefix same memory registry start tools).result = .error failure) →
      Untouched memory registry (ToolRegistry.replacePrefix same memory registry start tools)) ↔
      (Admitted start tools → ∀ front tool back, tools = front ++ tool :: back →
        (∀ earlier ∈ front, registry.comparable earlier = true) → registry.comparable tool = false →
        Harmless memory registry start tools front tool) := by
  constructor
  · intro atomic admitted front tool back split passes fails
    obtain ⟨_, failure, _, _, _, _, stopped⟩ :=
      replace_stops same memory registry start tools front back tool split admitted passes fails
    have raised : (ToolRegistry.replacePrefix same memory registry start tools).result = .error failure := by rw [stopped]
    exact untouched_harmless same memory registry start tools front back tool split admitted passes fails
      (atomic ⟨failure, raised⟩)
  · rintro harmless ⟨failure, raised⟩
    by_cases admitted : Admitted start tools
    · by_cases passes : ∀ tool ∈ tools, registry.comparable tool = true
      · obtain ⟨diff, done, _⟩ := replace_exact same memory registry start tools admitted passes
        rw [done] at raised
        cases raised
      · obtain ⟨front, tool, back, split, before, fails⟩ := first_failure registry tools passes
        exact harmless_untouched same memory registry start tools front back tool split admitted before fails
          (harmless admitted front tool back split before fails)
    · obtain ⟨refusal, refused⟩ := replace_refused same memory registry start tools admitted
      rw [refused]
      exact ⟨rfl, fun _ _ _ _ => rfl⟩

end Atomic

-- A tool that is no longer offered is gone although the comparison after it raises.
theorem replace_prefix_not_atomic :
    ¬ ∀ (registered : List RegisteredTool) (registry : ToolRegistry) (memory : Memory) (start : String)
      (tools : List RegisteredTool), registerAll .empty registered = .ok registry →
      (∃ failure, (ToolRegistry.replacePrefix (fun _ _ => true) memory registry start tools).result = .error failure) →
      Untouched memory registry (ToolRegistry.replacePrefix (fun _ _ => true) memory registry start tools) := by
  intro always
  let stale := sampleTool "mcp__stale" (some 0)
  let bare := sampleTool "mcp__a" none
  let registry := (ToolRegistry.empty.put stale).put bare
  let tool := sampleTool "mcp__a" (some 1)
  have admitted : Admitted "mcp__" [tool] := ⟨by decide, by decide, by decide⟩
  have passes : ∀ earlier ∈ ([] : List RegisteredTool), registry.comparable earlier = true := by simp
  obtain ⟨_, failure, _, _, _, _, stopped⟩ := replace_stops (fun _ _ => true) (fun _ => []) registry "mcp__" [tool] [] []
    tool rfl admitted passes rfl
  have untouched := always [stale, bare] registry (fun _ => []) "mcp__" [tool] rfl ⟨failure, by rw [stopped]⟩
  have harmless := untouched_harmless (fun _ _ => true) (fun _ => []) registry "mcp__" [tool] [] [] tool rfl admitted
    passes rfl untouched
  have stays := harmless.stays "mcp__stale" rfl (by decide)
  exact absurd stays (by decide)

end DataPilot.Tools.Shared
