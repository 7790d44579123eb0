import DataPilot.Agent.Compaction
import DataPilot.Sql.Expression

set_option autoImplicit false

namespace DataPilot.Agent

open DataPilot.Base DataPilot.Sql

-- json.dumps(normalized, ensure_ascii=True, sort_keys=True, default=str)
def dumpSorted (arguments : Dict) : String := dumps ⟨true, true⟩ (sortKeys (.obj arguments))

-- sqlglot, and what json.dumps raises on arguments nested too deep for it.
structure Normalizer extends Sqlglot where
  dumpsRaises : Dict → Option PyException

variable (normalizer : Normalizer)

-- The handler names ParseError only, so every other exception leaves the function.
def normalizedSql (sql : String) : Except PyException String :=
  match normalizer.parseOne "duckdb" sql with
  | .ok statement => (normalizer.sql none statement).map normalText
  | .error (.parseError _) => .ok (normalText sql)
  | .error failure => .error failure.raised

def normalizedDict (name : String) (arguments : Dict) : Except PyException Dict :=
  match dictGet "sql" arguments with
  | .str sql =>
      if name ∈ sqlToolNames then
        (normalizedSql normalizer sql).map fun text => dictSet "sql" (.str text) arguments
      else .ok arguments
  | _ => .ok arguments

def normalizedArguments (name : String) (arguments : Dict) : Except PyException String :=
  match normalizedDict normalizer name arguments with
  | .error failure => .error failure
  | .ok normalized =>
      match normalizer.dumpsRaises normalized with
      | some failure => .error failure
      | none => .ok (dumpSorted normalized)

abbrev Signature := String × String

def callSignature (name : String) (arguments : Dict) : Except PyException Signature :=
  (normalizedArguments normalizer name arguments).map fun text => (name, text)

def callSignatures : List ToolCall → Except PyException (List Signature)
  | [] => .ok []
  | call :: rest =>
      match callSignature normalizer call.name call.arguments with
      | .error failure => .error failure
      | .ok signature => (callSignatures rest).map (signature :: ·)

theorem call_signatures_forall (calls : List ToolCall) (signatures : List Signature)
    (computed : callSignatures normalizer calls = .ok signatures) :
    List.Forall₂ (fun call signature => callSignature normalizer call.name call.arguments = .ok signature)
      calls signatures := by
  induction calls generalizing signatures with
  | nil =>
      cases computed
      exact .nil
  | cons call rest ih =>
      unfold callSignatures at computed
      cases first : callSignature normalizer call.name call.arguments with
      | error failure => simp [first] at computed
      | ok signature =>
          cases others : callSignatures normalizer rest with
          | error failure => simp [first, others, Except.map] at computed
          | ok tail =>
              simp only [first, others, Except.map, Except.ok.injEq] at computed
              subst computed
              exact .cons first (ih tail others)

-- The SQL text that normalising a call parses.
def parsedSql (name : String) (arguments : Dict) : Option String :=
  match dictGet "sql" arguments with
  | .str sql => if name ∈ sqlToolNames then some sql else none
  | _ => none

-- The calls on which the normalisation raises: parse_one refuses the SQL text
-- with anything but a ParseError, the printer refuses its tree, or json.dumps
-- the arguments.
inductive Refused (name : String) (arguments : Dict) : Prop where
  | parsing (sql : String) (failure : SqlglotError) (asked : parsedSql name arguments = some sql)
      (raised : normalizer.parseOne "duckdb" sql = .error failure) (uncaught : ∀ text, failure ≠ .parseError text)
  | printing (sql : String) (statement : Statement) (failure : PyException) (asked : parsedSql name arguments = some sql)
      (parsed : normalizer.parseOne "duckdb" sql = .ok statement) (raised : normalizer.sql none statement = .error failure)
  | dumping (normalized : Dict) (failure : PyException) (normal : normalizedDict normalizer name arguments = .ok normalized)
      (raised : normalizer.dumpsRaises normalized = some failure)

theorem normalized_sql_fails (sql : String) (failure : PyException) (raised : normalizedSql normalizer sql = .error failure) :
    (∃ refusal, normalizer.parseOne "duckdb" sql = .error refusal ∧ ∀ text, refusal ≠ .parseError text) ∨
      ∃ statement, normalizer.parseOne "duckdb" sql = .ok statement ∧ normalizer.sql none statement = .error failure := by
  unfold normalizedSql at raised
  cases parsed : normalizer.parseOne "duckdb" sql with
  | ok statement =>
      cases printed : normalizer.sql none statement with
      | error other => exact .inr ⟨statement, rfl, by simpa [parsed, printed, Except.map] using raised⟩
      | ok text => simp [parsed, printed, Except.map] at raised
  | error refusal =>
      cases refusal with
      | parseError text => simp [parsed] at raised
      | tokenError text => exact .inl ⟨_, rfl, by simp⟩
      | other failure => exact .inl ⟨_, rfl, by simp⟩

theorem normalized_dict_fails (name : String) (arguments : Dict) (failure : PyException)
    (raised : normalizedDict normalizer name arguments = .error failure) : Refused normalizer name arguments := by
  unfold normalizedDict at raised
  cases value : dictGet "sql" arguments with
  | str sql =>
      by_cases sqlTool : name ∈ sqlToolNames
      · have asked : parsedSql name arguments = some sql := by simp [parsedSql, value, sqlTool]
        cases normal : normalizedSql normalizer sql with
        | error other =>
            rcases normalized_sql_fails normalizer sql other normal with ⟨refusal, parsed, uncaught⟩ | ⟨statement, parsed, printed⟩
            · exact .parsing sql refusal asked parsed uncaught
            · exact .printing sql statement other asked parsed printed
        | ok text => simp [value, sqlTool, normal, Except.map] at raised
      · simp [value, sqlTool] at raised
  | _ => simp [value] at raised

theorem asked_sql (name : String) (arguments : Dict) (sql : String) (asked : parsedSql name arguments = some sql) :
    dictGet "sql" arguments = .str sql ∧ name ∈ sqlToolNames := by
  unfold parsedSql at asked
  split at asked
  · split at asked
    · cases asked
      exact ⟨by assumption, by assumption⟩
    · cases asked
  · cases asked

theorem asked_dict (name : String) (arguments : Dict) (sql : String) (asked : parsedSql name arguments = some sql) :
    normalizedDict normalizer name arguments =
      (normalizedSql normalizer sql).map fun text => dictSet "sql" (.str text) arguments := by
  obtain ⟨value, sqlTool⟩ := asked_sql name arguments sql asked
  rw [normalizedDict, value]
  exact if_pos sqlTool

theorem normalized_arguments_fail (name : String) (arguments : Dict) :
    (∃ failure, normalizedArguments normalizer name arguments = .error failure) ↔ Refused normalizer name arguments := by
  constructor
  · rintro ⟨failure, raised⟩
    unfold normalizedArguments at raised
    cases normal : normalizedDict normalizer name arguments with
    | error other => exact normalized_dict_fails normalizer name arguments other normal
    | ok normalized =>
        cases dumped : normalizer.dumpsRaises normalized with
        | some other => exact .dumping normalized other normal dumped
        | none => simp [normal, dumped] at raised
  · intro refused
    cases refused with
    | parsing sql failure asked raised uncaught =>
        refine ⟨failure.raised, ?_⟩
        rw [normalizedArguments, asked_dict normalizer name arguments sql asked, normalizedSql, raised]
        cases failure with
        | parseError text => exact absurd rfl (uncaught text)
        | tokenError text => rfl
        | other failure => rfl
    | printing sql statement failure asked parsed raised =>
        refine ⟨failure, ?_⟩
        rw [normalizedArguments, asked_dict normalizer name arguments sql asked, normalizedSql, parsed]
        dsimp only
        rw [raised]
        rfl
    | dumping normalized failure normal raised =>
        refine ⟨failure, ?_⟩
        rw [normalizedArguments, normal]
        dsimp only
        rw [raised]

theorem call_signatures_fail (calls : List ToolCall) :
    (∃ failure, callSignatures normalizer calls = .error failure) ↔
      ∃ call ∈ calls, Refused normalizer call.name call.arguments := by
  induction calls with
  | nil => simp [callSignatures]
  | cons call rest ih =>
      have head := normalized_arguments_fail normalizer call.name call.arguments
      rw [List.exists_mem_cons_iff, ← head, ← ih]
      rw [callSignatures, callSignature]
      cases normalizedArguments normalizer call.name call.arguments with
      | error failure => simp [Except.map]
      | ok text => cases callSignatures normalizer rest <;> simp [Except.map]

end DataPilot.Agent
