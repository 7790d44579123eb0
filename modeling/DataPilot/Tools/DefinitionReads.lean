import DataPilot.Tools.ReplacePrefix

set_option autoImplicit false

namespace DataPilot.Tools.Shared

open DataPilot.Base

-- A JSON value as the handler of a tool gets it.
mutual

def pyValue : Json → PyValue
  | .null => .null
  | .bool value => .bool value
  | .int value => .int value
  | .float value => .float value
  | .str value => .str value
  | .arr items => .list (pyItems items)
  | .obj fields => .dict (pyFields fields)

def pyItems : List Json → List PyValue
  | [] => []
  | item :: rest => pyValue item :: pyItems rest

def pyFields : Dict → List (String × PyValue)
  | [] => []
  | (key, value) :: rest => (key, pyValue value) :: pyFields rest

end

-- A reference below the definitions of the schema, which cannot lead to its root.
def referenceInside (key : String) (value : Json) : Bool :=
  match value with
  | .str target => decide (key ≠ "$dynamicRef") && (decide (key ≠ "$ref") || startsWith target "#/$defs/")
  | _ => true

mutual

def valueRefersInside : Json → Bool
  | .arr items => itemsReferInside items
  | .obj fields => fieldsReferInside fields
  | _ => true

def itemsReferInside : List Json → Bool
  | [] => true
  | item :: rest => valueRefersInside item && itemsReferInside rest

def fieldsReferInside : Dict → Bool
  | [] => true
  | (key, value) :: rest => referenceInside key value && valueRefersInside value && fieldsReferInside rest

end

def subschemas (key : String) (schema : Dict) : Dict :=
  match dictGet key schema with
  | .obj fields => fields
  | _ => []

-- find_additional_properties: the names that neither properties nor patternProperties
-- covers. The search is re.search, and finds nothing with a pattern that is none.
def additionalNames (search : String → String → Bool) (schema arguments : Dict) : List String :=
  let patterns := "|".intercalate ((subschemas "patternProperties" schema).map Prod.fst)
  (arguments.map Prod.fst).filter fun name =>
    !dictHas name (subschemas "properties" schema) && !(decide (patterns ≠ "") && search patterns name)

-- What the validation of arguments raises: the error that invoke catches, or another one.
inductive SchemaFailure where
  | invalid (message : String)
  | other (failure : PyException)

-- Draft202012Validator(schema).validate(arguments). With additionalProperties set to
-- false it refuses the additional names and keeps its verdict on everything else; a
-- schema that refers to its own root would be closed further down as well.
structure SchemaValidator where
  validate : Dict → Dict → Except SchemaFailure Unit
  search : String → String → Bool
  closing : ∀ schema arguments, dictHas "additionalProperties" schema = false → fieldsReferInside schema = true →
    ((validate (closed schema) arguments).isOk = true ↔
      (validate schema arguments).isOk = true ∧ additionalNames search schema arguments = [])

variable (same : ToolDefinition → ToolDefinition → Bool) (validator : SchemaValidator)

-- invoke up to the call of the handler.
def RegisteredTool.validated (tool : RegisteredTool) (memory : Memory) (arguments : Dict) :
    Except PyException (List (String × PyValue)) :=
  match tool.inputModel with
  | some model => model.modelValidate arguments
  | none =>
      match tool.inputSchema with
      | none => .error tool.noInputSchema
      | some address =>
          match validator.validate (memory address) arguments with
          | .error (.invalid message) =>
              .error ⟨"ValueError", s!"Invalid arguments for tool '{tool.name}': {message}"⟩
          | .error (.other failure) => .error failure
          | .ok () => .ok (pyFields arguments)

def RegisteredTool.invoke (tool : RegisteredTool) (memory : Memory) (step : Nat) (arguments : Dict) :
    Except PyException PyValue :=
  match tool.validated validator memory arguments with
  | .error failure => .error failure
  | .ok kwargs => tool.handler step kwargs

def RegisteredTool.accepts (tool : RegisteredTool) (memory : Memory) (arguments : Dict) : Bool :=
  (tool.validated validator memory arguments).isOk

def definitionsOf : List RegisteredTool → Memory → Memory × Except PyException (List ToolDefinition)
  | [], memory => (memory, .ok [])
  | tool :: rest, memory =>
      match tool.definition memory with
      | (next, .error failure) => (next, .error failure)
      | (next, .ok first) => ((definitionsOf rest next).1, (definitionsOf rest next).2.map (first :: ·))

def ToolRegistry.definitions (registry : ToolRegistry) (memory : Memory) :
    Memory × Except PyException (List ToolDefinition) := definitionsOf (registry.tools.map Prod.snd) memory

-- The operations that read definitions, of this tool or of others.
inductive DefinitionRead where
  | definition (tool : RegisteredTool)
  | definitions (registry : ToolRegistry)
  | replacePrefix (registry : ToolRegistry) (start : String) (tools : List RegisteredTool)

def DefinitionRead.after (memory : Memory) : DefinitionRead → Memory
  | .definition tool => (tool.definition memory).1
  | .definitions registry => (registry.definitions memory).1
  | .replacePrefix registry start tools => (registry.replacePrefix same memory start tools).memory

theorem definitions_close (tools : List RegisteredTool) (memory : Memory) :
    Closes memory (definitionsOf tools memory).1 := by
  induction tools generalizing memory with
  | nil => exact closes_same memory
  | cons tool rest ih =>
      have first := definition_closes tool memory
      rw [definitionsOf]
      cases read : tool.definition memory with
      | mk next result =>
          rw [read] at first
          cases result with
          | error failure => exact first
          | ok definition => exact closes_trans _ _ _ first (ih next)

theorem compare_closes (memory : Memory) (previous tool : RegisteredTool) :
    Closes memory (registeredToolsEqual same memory previous tool).1 := by
  have first := definition_closes previous memory
  rw [registeredToolsEqual]
  cases left : previous.definition memory with
  | mk next result =>
      rw [left] at first
      cases result with
      | error failure => exact first
      | ok definition =>
          have second := definition_closes tool next
          dsimp only
          cases right : tool.definition next with
          | mk last result =>
              rw [right] at second
              cases result with
              | error failure => exact closes_trans _ _ _ first second
              | ok definition => exact closes_trans _ _ _ first second

theorem replace_each_closes (tools : List RegisteredTool) (memory : Memory) (registry : ToolRegistry)
    (diff : ToolRegistrationDiff) : Closes memory (replaceEach same tools memory registry diff).memory := by
  induction tools generalizing memory registry diff with
  | nil => exact closes_same memory
  | cons tool rest ih =>
      rw [replaceEach]
      cases registry.get tool.name with
      | none => exact ih memory _ _
      | some previous =>
          have first := compare_closes same memory previous tool
          dsimp only
          cases compared : registeredToolsEqual same memory previous tool with
          | mk next result =>
              rw [compared] at first
              cases result with
              | error failure => exact first
              | ok equal =>
                  cases equal with
                  | true => exact closes_trans _ _ _ first (ih next _ _)
                  | false => exact closes_trans _ _ _ first (ih next _ _)

theorem read_closes (read : DefinitionRead) (memory : Memory) : Closes memory (read.after same memory) := by
  cases read with
  | definition tool => exact definition_closes tool memory
  | definitions registry => exact definitions_close _ memory
  | replacePrefix registry start tools =>
      by_cases admitted : Admitted start tools
      · rw [DefinitionRead.after, replace_admitted same memory registry start tools admitted]
        exact replace_each_closes same tools memory _ _
      · obtain ⟨failure, refused⟩ := replace_refused same memory registry start tools admitted
        rw [DefinitionRead.after, refused]
        exact closes_same memory

theorem reads_close (reads : List DefinitionRead) (memory : Memory) :
    Closes memory (reads.foldl (DefinitionRead.after same) memory) := by
  induction reads generalizing memory with
  | nil => exact closes_same memory
  | cons read rest ih => exact closes_trans _ _ _ (read_closes same read memory) (ih _)

-- When the verdict on the arguments survives that the schema is closed. A reference to the
-- root applies the closed schema below any keyword, "not" and "anyOf" among them, so that
-- the verdict may turn either way; the document as a whole decides.
def KeepsVerdict (schema arguments : Dict) : Prop :=
  if fieldsReferInside schema = true then
    (validator.validate schema arguments).isOk = false ∨ additionalNames validator.search schema arguments = []
  else (validator.validate (closed schema) arguments).isOk = (validator.validate schema arguments).isOk

theorem keeps_verdict_iff (schema arguments : Dict) (free : dictHas "additionalProperties" schema = false) :
    KeepsVerdict validator schema arguments ↔
      (validator.validate (closed schema) arguments).isOk = (validator.validate schema arguments).isOk := by
  rw [KeepsVerdict]
  by_cases inside : fieldsReferInside schema = true
  · have verdict := validator.closing schema arguments free inside
    rw [if_pos inside]
    cases before : (validator.validate schema arguments).isOk with
    | false =>
        rw [before] at verdict
        have refused : (validator.validate (closed schema) arguments).isOk = false :=
          Bool.eq_false_of_not_eq_true fun accepted => Bool.noConfusion (verdict.mp accepted).1
        simp [refused]
    | true =>
        rw [before] at verdict
        rw [verdict]
        simp
  · rw [if_neg inside]

-- Only a JSON schema has a say in what a read changes.
theorem accepts_source (tool : RegisteredTool) (memory : Memory) (arguments : Dict) :
    tool.accepts validator memory arguments =
      match tool.source with
      | none => tool.accepts validator (fun _ => []) arguments
      | some address => (validator.validate (memory address) arguments).isOk := by
  unfold RegisteredTool.accepts RegisteredTool.validated RegisteredTool.source
  cases tool.inputModel with
  | some model => rfl
  | none =>
      dsimp only
      cases tool.inputSchema with
      | none => rfl
      | some address =>
          dsimp only
          cases validator.validate (memory address) arguments with
          | ok _ => rfl
          | error failure =>
              cases failure with
              | invalid message => rfl
              | other failure => rfl

theorem definition_reads_iff (tool : RegisteredTool) (memory : Memory) (arguments : Dict) :
    (∀ reads : List DefinitionRead, tool.accepts validator (reads.foldl (DefinitionRead.after same) memory) arguments =
        tool.accepts validator memory arguments) ↔
      ∀ address, tool.source = some address → dictHas "additionalProperties" (memory address) = false →
        KeepsVerdict validator (memory address) arguments := by
  constructor
  · intro steady address reads free
    rw [keeps_verdict_iff validator _ arguments free]
    have once := steady [.definition tool]
    rw [accepts_source validator tool memory, accepts_source validator tool, reads] at once
    dsimp only at once
    rw [List.foldl_cons, List.foldl_nil, DefinitionRead.after, definition_memory, reads] at once
    dsimp only at once
    rw [Memory.close, Function.update_self] at once
    exact once
  · intro keeps reads
    rw [accepts_source validator tool memory, accepts_source validator tool]
    cases source : tool.source with
    | none => rfl
    | some address =>
        dsimp only
        have closes := reads_close same reads memory
        cases has : dictHas "additionalProperties" (memory address) with
        | true => rw [closes_stays memory _ address closes has]
        | false =>
            rcases closes address with still | shut
            · rw [still]
            · rw [shut]
              exact (keeps_verdict_iff validator _ arguments has).mp (keeps address source has)

theorem dict_get_append (key : String) (front : Dict) (other : String) (value : Json) (apart : other ≠ key) :
    dictGet key (front ++ [(other, value)]) = dictGet key front := by
  induction front with
  | nil => exact if_neg apart
  | cons field rest ih =>
      obtain ⟨name, first⟩ := field
      rw [List.cons_append, dictGet, dictGet, ih]

theorem dict_get_absent (key : String) (fields : Dict) (absent : dictHas key fields = false) : dictGet key fields = .null := by
  induction fields with
  | nil => rfl
  | cons field rest ih =>
      obtain ⟨name, first⟩ := field
      rw [dictHas, List.any_cons, Bool.or_eq_false_iff, decide_eq_false_iff_not] at absent
      rw [dictGet, if_neg absent.1]
      exact ih absent.2

theorem dict_get_added (key : String) (value : Json) (fields : Dict) (absent : dictHas key fields = false) :
    dictGet key (fields ++ [(key, value)]) = value := by
  induction fields with
  | nil => exact if_pos rfl
  | cons field rest ih =>
      obtain ⟨name, first⟩ := field
      rw [dictHas, List.any_cons, Bool.or_eq_false_iff, decide_eq_false_iff_not] at absent
      rw [List.cons_append, dictGet, if_neg absent.1]
      exact ih absent.2

theorem additional_closed (search : String → String → Bool) (schema arguments : Dict)
    (free : dictHas "additionalProperties" schema = false) :
    additionalNames search (closed schema) arguments = additionalNames search schema arguments := by
  have steady : ∀ key, "additionalProperties" ≠ key → subschemas key (closed schema) = subschemas key schema := by
    intro key apart
    rw [subschemas, subschemas, closed, setDefault, if_neg (by simp [free]), dict_get_append key schema _ _ apart]
  rw [additionalNames, additionalNames, steady "properties" (by decide), steady "patternProperties" (by decide)]

-- A validator of the one keyword that matters to a closed schema.
def sampleValidate (schema arguments : Dict) : Except SchemaFailure Unit :=
  match dictGet "additionalProperties" schema, additionalNames (fun _ _ => false) schema arguments with
  | .bool false, name :: _ =>
      .error (.invalid s!"Additional properties are not allowed ('{name}' was unexpected)")
  | _, _ => .ok ()

def sampleValidator : SchemaValidator where
  validate := sampleValidate
  search := fun _ _ => false
  closing := by
    intro schema arguments free _
    have before : sampleValidate schema arguments = .ok () := by
      rw [sampleValidate, dict_get_absent _ schema free]
    have shut : dictGet "additionalProperties" (closed schema) = .bool false := by
      rw [closed, setDefault, if_neg (by simp [free])]
      exact dict_get_added _ _ schema free
    rw [before, sampleValidate, shut, additional_closed _ schema arguments free]
    cases additionalNames (fun _ _ => false) schema arguments with
    | nil => simp [Except.isOk, Except.toBool]
    | cons name rest => simp [Except.isOk, Except.toBool]

-- A tool that takes an argument its schema does not name until its definition is read.
theorem definition_read_refuses :
    ¬ ∀ (tool : RegisteredTool) (memory : Memory) (arguments : Dict) (reads : List DefinitionRead),
      tool.accepts sampleValidator (reads.foldl (DefinitionRead.after fun _ _ => true) memory) arguments =
        tool.accepts sampleValidator memory arguments := by
  intro always
  let memory : Memory := fun _ => [("type", .str "object"), ("properties", .obj [])]
  have changed := always (sampleTool "mcp__a" (some 0)) memory [("limit", .int 5)] [.definition (sampleTool "mcp__a" (some 0))]
  cases changed

end DataPilot.Tools.Shared
