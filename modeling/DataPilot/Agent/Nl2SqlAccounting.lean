import DataPilot.Agent.Nl2Sql

set_option autoImplicit false

namespace DataPilot.Agent

open DataPilot.Base DataPilot.Tools DataPilot.Sql DataPilot.Llm

def Nl2SqlDeed.response : Nl2SqlDeed → Option LLMResponse
  | .responded response => some response
  | .executed _ => none

def Nl2SqlDeed.statement : Nl2SqlDeed → Option String
  | .responded _ => none
  | .executed sql => some sql

def modelResponses (log : List Nl2SqlDeed) : List LLMResponse := log.filterMap Nl2SqlDeed.response

def executedSql (log : List Nl2SqlDeed) : List String := log.filterMap Nl2SqlDeed.statement

theorem model_responses_append (front back : List Nl2SqlDeed) :
    modelResponses (front ++ back) = modelResponses front ++ modelResponses back := List.filterMap_append

theorem model_responses_answer (response : LLMResponse) (log : List Nl2SqlDeed) :
    modelResponses (.responded response :: log) = response :: modelResponses log := rfl

theorem executed_sql_append (front back : List Nl2SqlDeed) :
    executedSql (front ++ back) = executedSql front ++ executedSql back := List.filterMap_append

variable (host : Host) (library : Library) (service : NL2SQLService)

def Accepted (tableNames : List String) (sql : String) : Prop :=
  ∃ candidate, validate host.normalizer.toSqlglot service.sqlPolicy candidate tableNames = .ok sql

-- One error for each failed attempt: the last one counts unless its query was answered.
def ErrorsCounted (result : NL2SQLResult) : Prop :=
  result.errors.length + (if result.status = .failed then 0 else 1) = result.attempts

def RowsReturned (result : NL2SQLResult) : Prop :=
  result.status = .success → ∃ sql set, result.sql = some sql ∧
    service.database.execute result.attempts sql = .ok set ∧ set.rows ≠ []

-- How what is left of a run ends, from an attempt and a usage on.
structure Ends (tableNames : List String) (first : Nat) (usage : TokenUsage) (course : Logged Nl2SqlDeed NL2SQLResult) :
    Prop where
  returned : ∃ result, course.result = .ok result ∧ first ≤ result.attempts ∧ result.attempts ≤ service.maxRetries + 1 ∧
    ErrorsCounted result ∧ RowsReturned service result ∧
    result.usage = ((modelResponses course.log).map LLMResponse.usage).foldl TokenUsage.add usage
  accepted : ∀ sql ∈ executedSql course.log, Accepted host service tableNames sql

theorem executed_answer (attempt : Nat) (sql : String) (result : QueryResult)
    (answered : service.engine.executeSelect (service.database.execute attempt) sql none = .ok result) :
    ∃ set, service.database.execute attempt sql = .ok set ∧
      result.rowCount = min service.engine.maxQueryRows set.rows.length := by
  rw [DuckDBAnalyticsEngine.executeSelect] at answered
  by_cases refused : service.engine.rowLimit none < 1
  · rw [if_pos refused] at answered
    cases answered
  · rw [if_neg refused] at answered
    cases executed : service.database.execute attempt sql with
    | error failure =>
        rw [executed] at answered
        cases answered
    | ok set =>
        rw [executed] at answered
        cases answered
        refine ⟨set, rfl, ?_⟩
        dsimp only
        rw [List.length_map, visible_rows_first, List.length_take]
        rfl

-- The try statement of a round: the statements it sends and what it comes to.
inductive Queried (tableNames : List String) (attempt : Nat) (rawContent : String) :
    List String → Except PyException (String × QueryResult) → Prop where
  | unread (failure : PyException) (unread : extractSql rawContent = .error failure) :
      Queried tableNames attempt rawContent [] (.error failure)
  | refused (candidate : String) (failure : PyException) (extracted : extractSql rawContent = .ok candidate)
      (refused : validate host.normalizer.toSqlglot service.sqlPolicy candidate tableNames = .error failure) :
      Queried tableNames attempt rawContent [] (.error failure)
  | raised (candidate sql : String) (failure : PyException) (extracted : extractSql rawContent = .ok candidate)
      (accepted : validate host.normalizer.toSqlglot service.sqlPolicy candidate tableNames = .ok sql)
      (raised : service.engine.executeSelect (service.database.execute attempt) sql none = .error failure) :
      Queried tableNames attempt rawContent [sql] (.error failure)
  | answered (candidate sql : String) (result : QueryResult) (extracted : extractSql rawContent = .ok candidate)
      (accepted : validate host.normalizer.toSqlglot service.sqlPolicy candidate tableNames = .ok sql)
      (answered : service.engine.executeSelect (service.database.execute attempt) sql none = .ok result) :
      Queried tableNames attempt rawContent [sql] (.ok (sql, result))

theorem queried_query (tableNames : List String) (attempt : Nat) (rawContent : String) (statements : List String)
    (outcome : Except PyException (String × QueryResult))
    (queried : Queried host service tableNames attempt rawContent statements outcome) :
    service.query host tableNames attempt rawContent =
      ⟨statements.map .executed, outcome.mapError Thrown.exception⟩ := by
  unfold NL2SQLService.query
  cases queried with
  | unread failure unread =>
      rw [unread]
      rfl
  | refused candidate failure extracted refused =>
      rw [extracted, Except.bind, refused]
      rfl
  | raised candidate sql failure extracted accepted raised =>
      rw [extracted, Except.bind, accepted]
      dsimp only
      rw [NL2SQLService.run, raised]
      rfl
  | answered candidate sql result extracted accepted answered =>
      rw [extracted, Except.bind, accepted]
      dsimp only
      rw [NL2SQLService.run, answered]
      rfl

theorem some_queried (tableNames : List String) (attempt : Nat) (rawContent : String) :
    ∃ statements outcome, Queried host service tableNames attempt rawContent statements outcome := by
  cases extracted : extractSql rawContent with
  | error failure => exact ⟨_, _, .unread failure extracted⟩
  | ok candidate =>
      cases safe : validate host.normalizer.toSqlglot service.sqlPolicy candidate tableNames with
      | error failure => exact ⟨_, _, .refused candidate failure extracted safe⟩
      | ok sql =>
          cases answered : service.engine.executeSelect (service.database.execute attempt) sql none with
          | error failure => exact ⟨_, _, .raised candidate sql failure extracted safe answered⟩
          | ok result => exact ⟨_, _, .answered candidate sql result extracted safe answered⟩

theorem queried_accepted (tableNames : List String) (attempt : Nat) (rawContent : String) (statements : List String)
    (outcome : Except PyException (String × QueryResult))
    (queried : Queried host service tableNames attempt rawContent statements outcome) :
    ∀ sql ∈ statements, Accepted host service tableNames sql := by
  intro sql member
  cases queried with
  | unread => cases member
  | refused => cases member
  | raised candidate _ _ _ accepted _ =>
      obtain rfl := List.mem_singleton.mp member
      exact ⟨candidate, accepted⟩
  | answered candidate _ _ _ accepted _ =>
      obtain rfl := List.mem_singleton.mp member
      exact ⟨candidate, accepted⟩

-- What json.loads raises on the answer of a classification, and no clause takes.
def Uncaught (answer : LLMResponse) (failure : PyException) : Prop :=
  host.loads (strip (fencedText jsonTag (answer.content.getD ""))) = .error (.other failure) ∧
    failure.typeName ∉ decisionErrors

-- From a round on: attempts fail until a query has no rows, and the answer to its
-- classification is one that json.loads fails on uncaught.
inductive Undecided (tableNames : List String) : Nat → List ChatMessage → Prop where
  | now (attempt : Nat) (messages : List ChatMessage) (response answer : LLMResponse) (statements : List String)
      (sql : String) (result : QueryResult) (failure : PyException)
      (said : service.model.chat attempt messages [] = .ok response)
      (queried : Queried host service tableNames attempt (response.content.getD "") statements (.ok (sql, result)))
      (empty : result.rowCount = 0)
      (classified : service.model.chat (attempt + 1) (classificationMessages messages sql) [] = .ok answer)
      (uncaught : Uncaught host answer failure) : Undecided tableNames attempt messages
  | later (attempt : Nat) (messages : List ChatMessage) (response : LLMResponse) (statements : List String)
      (failure : PyException) (said : service.model.chat attempt messages [] = .ok response)
      (failed : Queried host service tableNames attempt (response.content.getD "") statements (.error failure))
      (allowed : attempt ≤ service.maxRetries)
      (rest : Undecided tableNames (attempt + 1) (correctedMessages messages (response.content.getD "") failure)) :
      Undecided tableNames attempt messages

theorem decision_refused (payload : Json) (failure : PyException)
    (failed : emptyResultDecision library payload = .error failure) :
    failure = validationError library "EmptyResultDecision" [payload] := by
  unfold emptyResultDecision at failed
  cases payload with
  | obj fields =>
      dsimp only at failed
      split at failed
      · split at failed
        · split at failed
          · exact (Except.error.inj failed).symm
          · split at failed
            · cases failed
            · exact (Except.error.inj failed).symm
        · exact (Except.error.inj failed).symm
      · exact (Except.error.inj failed).symm
  | _ => exact (Except.error.inj failed).symm

theorem read_decision_uncaught (answer : LLMResponse) (failure : PyException) :
    readDecision host library (answer.content.getD "") = .error failure ∧ failure.typeName ∉ decisionErrors ↔
      Uncaught host answer failure := by
  rw [Uncaught, readDecision, extractJson]
  constructor
  · rintro ⟨failed, unlisted⟩
    refine ⟨?_, unlisted⟩
    cases loaded : host.loads (strip (fencedText jsonTag (answer.content.getD ""))) with
    | error other =>
        rw [loaded] at failed
        cases other with
        | decode =>
            cases failed
            exact absurd (List.mem_of_elem_eq_true rfl) unlisted
        | other raised =>
            cases failed
            rfl
    | ok payload =>
        rw [loaded] at failed
        obtain rfl := decision_refused library payload failure failed
        exact absurd (List.mem_of_elem_eq_true rfl) unlisted
  · rintro ⟨loaded, unlisted⟩
    rw [loaded]
    exact ⟨rfl, unlisted⟩

theorem ends_earlier (tableNames : List String) (first : Nat) (usage : TokenUsage) (course : Logged Nl2SqlDeed NL2SQLResult)
    (ends : Ends host service tableNames (first + 1) usage course) : Ends host service tableNames first usage course := by
  obtain ⟨⟨result, returned, later, rest⟩, accepted⟩ := ends
  exact ⟨⟨result, returned, Nat.le_of_succ_le later, rest⟩, accepted⟩

theorem ends_after (tableNames : List String) (first : Nat) (usage : TokenUsage) (response : LLMResponse)
    (statements : List String) (sent : ∀ sql ∈ statements, Accepted host service tableNames sql)
    (course : Logged Nl2SqlDeed NL2SQLResult) (ends : Ends host service tableNames first (usage.add response.usage) course) :
    Ends host service tableNames first usage
      ⟨.responded response :: (statements.map .executed ++ course.log), course.result⟩ := by
  obtain ⟨⟨result, returned, first, bounded, counted, rows, spent⟩, accepted⟩ := ends
  have silent : modelResponses (statements.map .executed) = [] := by
    induction statements with
    | nil => rfl
    | cons sql rest ih => exact ih fun other member => sent other (List.mem_cons_of_mem _ member)
  have said : executedSql (statements.map .executed) = statements := by
    clear silent sent
    induction statements with
    | nil => rfl
    | cons sql rest ih =>
        rw [List.map_cons, executedSql, List.filterMap_cons]
        exact congrArg _ ih
  refine ⟨⟨result, returned, first, bounded, counted, rows, ?_⟩, ?_⟩
  · have responses : modelResponses (.responded response :: (statements.map .executed ++ course.log)) =
        response :: modelResponses course.log := by
      rw [model_responses_answer, model_responses_append, silent, List.nil_append]
    rw [spent, responses, List.map_cons, List.foldl_cons]
  · intro sql member
    have same : executedSql (.responded response :: (statements.map .executed ++ course.log)) =
        statements ++ executedSql course.log := by
      rw [executedSql, List.filterMap_cons]
      exact (executed_sql_append ..).trans (congrArg (· ++ _) said)
    rw [same, List.mem_append] at member
    rcases member with now | later
    · exact sent sql now
    · exact accepted sql later

theorem queried_ends (tableNames : List String) (attempt : Nat) (usage : TokenUsage) (response : LLMResponse)
    (statements : List String) (outcome : Except PyException (String × QueryResult))
    (queried : Queried host service tableNames attempt (response.content.getD "") statements outcome)
    (handler : PyException → Logged Nl2SqlDeed NL2SQLResult) (next : String × QueryResult → Logged Nl2SqlDeed NL2SQLResult)
    (failed : ∀ failure, outcome = .error failure →
      Ends host service tableNames attempt (usage.add response.usage) (handler failure))
    (reported : ∀ answer, outcome = .ok answer →
      Ends host service tableNames attempt (usage.add response.usage) (next answer)) :
    Ends host service tableNames attempt usage
      ((⟨[.responded response], .ok response⟩ : Logged Nl2SqlDeed LLMResponse).andThen fun _ =>
        (service.query host tableNames attempt (response.content.getD "")).recovering handler next) := by
  have sent := queried_accepted host service tableNames attempt _ statements outcome queried
  rw [Logged.andThen]
  dsimp only
  rw [queried_query host service tableNames attempt _ statements outcome queried]
  cases outcome with
  | error failure =>
      exact ends_after host service tableNames attempt usage response statements sent (handler failure) (failed failure rfl)
  | ok answer =>
      exact ends_after host service tableNames attempt usage response statements sent (next answer) (reported answer rfl)

theorem returned_ends (tableNames : List String) (usage : TokenUsage) (result : NL2SQLResult)
    (bounded : result.attempts ≤ service.maxRetries + 1) (counted : ErrorsCounted result) (rows : RowsReturned service result)
    (spent : result.usage = usage) : Ends host service tableNames result.attempts usage (.returning result) :=
  ⟨⟨result, rfl, Nat.le_refl _, bounded, counted, rows, spent⟩, fun _ member => absurd member List.not_mem_nil⟩

def recovery (question : String) (tableNames : List String) (attempt : Nat) (later : List Nat) (messages : List ChatMessage)
    (usage : TokenUsage) (errors : List String) (rawContent : String) : PyException → Logged Nl2SqlDeed NL2SQLResult :=
  fun failure =>
    if service.maxRetries < attempt then
      .returning { status := .failed, question, attempts := attempt, errors := errors ++ [errorMessage failure], usage }
    else
      service.rounds host library question tableNames later (correctedMessages messages rawContent failure) usage
        (errors ++ [errorMessage failure])

theorem rounds_round (question : String) (tableNames : List String) (attempt : Nat) (later : List Nat)
    (messages : List ChatMessage) (usage : TokenUsage) (errors : List String) (response : LLMResponse)
    (said : service.model.chat attempt messages [] = .ok response) :
    service.rounds host library question tableNames (attempt :: later) messages usage errors =
      (⟨[.responded response], .ok response⟩ : Logged Nl2SqlDeed LLMResponse).andThen fun _ =>
        (service.query host tableNames attempt (response.content.getD "")).recovering
          (recovery host library service question tableNames attempt later messages (usage.add response.usage) errors
            (response.content.getD ""))
          fun answer => service.report host library question attempt messages (usage.add response.usage) errors answer.1
            answer.2 := by
  rw [NL2SQLService.rounds, NL2SQLService.ask, said]
  delta recovery
  simp only [Logged.andThen]

section Rounds

variable (answers : ∀ call messages, ∃ response, service.model.chat call messages [] = .ok response) (question : String)
  (tableNames : List String)

include answers

theorem report_ends (attempt : Nat) (messages : List ChatMessage) (usage : TokenUsage) (errors : List String) (safeSql : String)
    (result : QueryResult) (bounded : attempt ≤ service.maxRetries + 1) (counted : errors.length + 1 = attempt)
    (answered : service.engine.executeSelect (service.database.execute attempt) safeSql none = .ok result)
    (caught : result.rowCount = 0 → ∀ answer failure,
      service.model.chat (attempt + 1) (classificationMessages messages safeSql) [] = .ok answer →
        ¬ Uncaught host answer failure) :
    Ends host service tableNames attempt usage
      (service.report host library question attempt messages usage errors safeSql result) := by
  obtain ⟨set, executed, rows⟩ := executed_answer service attempt safeSql result answered
  unfold NL2SQLService.report
  by_cases empty : result.rowCount = 0
  · obtain ⟨response, said⟩ := answers (attempt + 1) (classificationMessages messages safeSql)
    rw [if_pos empty, NL2SQLService.classifyEmpty, NL2SQLService.ask, said]
    cases decided : readDecision host library (response.content.getD "") with
    | error failure =>
        have listed : failure.typeName ∈ decisionErrors := by
          by_contra unlisted
          exact caught empty response failure said
            ((read_decision_uncaught host library response failure).mp ⟨decided, unlisted⟩)
        have ends := returned_ends host service tableNames (usage.add response.usage)
          { status := .failed, question, sql := some safeSql, queryResult := some result, attempts := attempt
            errors := errors ++ [orElseText (errorMessage failure) "Invalid empty-result decision."]
            usage := usage.add response.usage }
          bounded (by simpa [ErrorsCounted] using counted) (fun never => NL2SQLStatus.noConfusion never) rfl
        have whole := ends_after host service tableNames attempt usage response [] (by simp) _ ends
        simp only [Logged.andThen, decided, if_pos listed]
        exact whole
    | ok decision =>
        have ends := returned_ends host service tableNames (usage.add response.usage)
          { status := .emptyResult, question, sql := some safeSql, queryResult := some result, reason := some decision.reason
            suggestion := some decision.suggestion, attempts := attempt, errors, usage := usage.add response.usage }
          bounded (by simpa [ErrorsCounted] using counted) (fun never => NL2SQLStatus.noConfusion never) rfl
        have whole := ends_after host service tableNames attempt usage response [] (by simp) _ ends
        simp only [Logged.andThen, decided]
        exact whole
  · rw [if_neg empty]
    have full : set.rows ≠ [] := by
      intro nothing
      rw [nothing, List.length_nil, Nat.min_zero] at rows
      exact empty rows
    exact returned_ends host service tableNames usage
      { status := .success, question, sql := some safeSql, queryResult := some result, attempts := attempt, errors, usage }
      bounded (by simpa [ErrorsCounted] using counted) (fun _ => ⟨safeSql, set, rfl, executed, full⟩) rfl

theorem round_ends (attempt : Nat) (later : List Nat) (messages : List ChatMessage) (usage : TokenUsage) (errors : List String)
    (bounded : attempt ≤ service.maxRetries + 1) (counted : errors.length + 1 = attempt)
    (decided : ¬ Undecided host service tableNames attempt messages)
    (continues : attempt ≤ service.maxRetries → ∀ messages usage errors, errors.length + 1 = attempt + 1 →
      ¬ Undecided host service tableNames (attempt + 1) messages →
        Ends host service tableNames (attempt + 1) usage
          (service.rounds host library question tableNames later messages usage errors)) :
    Ends host service tableNames attempt usage
      (service.rounds host library question tableNames (attempt :: later) messages usage errors) := by
  obtain ⟨response, said⟩ := answers attempt messages
  obtain ⟨statements, outcome, queried⟩ := some_queried host service tableNames attempt (response.content.getD "")
  rw [rounds_round host library service question tableNames attempt later messages usage errors response said]
  refine queried_ends host service tableNames attempt usage response statements outcome queried _ _ ?_ ?_
  · rintro failure rfl
    rw [recovery]
    by_cases spent : service.maxRetries < attempt
    · rw [if_pos spent]
      exact returned_ends host service tableNames (usage.add response.usage)
        { status := .failed, question, attempts := attempt, errors := errors ++ [errorMessage failure]
          usage := usage.add response.usage }
        bounded (by simpa [ErrorsCounted] using counted) (fun never => NL2SQLStatus.noConfusion never) rfl
    · have allowed := Nat.le_of_not_lt spent
      rw [if_neg spent]
      apply ends_earlier
      exact continues allowed _ _ _ (by simpa using counted) fun rest =>
        decided (.later attempt messages response statements failure said queried allowed rest)
  · rintro ⟨sql, result⟩ rfl
    have executed : service.engine.executeSelect (service.database.execute attempt) sql none = .ok result := by
      cases queried with
      | answered _ _ _ _ _ answered => exact answered
    exact report_ends host library service answers question tableNames attempt messages (usage.add response.usage) errors sql
      result bounded counted executed fun empty answer failure classified uncaught =>
        decided (.now attempt messages response answer statements sql result failure said queried empty classified uncaught)

theorem rounds_end (left first : Nat) (messages : List ChatMessage) (usage : TokenUsage) (errors : List String)
    (bound : first + left = service.maxRetries + 1) (counted : errors.length + 1 = first)
    (decided : ¬ Undecided host service tableNames first messages) :
    Ends host service tableNames first usage
      (service.rounds host library question tableNames (List.range' first (left + 1)) messages usage errors) := by
  induction left generalizing first messages usage errors with
  | zero =>
      rw [List.range'_succ]
      apply round_ends host library service answers question tableNames first _ messages usage errors (by omega) counted decided
      intro allowed
      omega
  | succ left ih =>
      rw [List.range'_succ]
      apply round_ends host library service answers question tableNames first _ messages usage errors (by omega) counted decided
      intro _ messages usage errors more decided
      exact ih (first + 1) messages usage errors (by omega) more decided

end Rounds

theorem report_raises (question : String) (attempt : Nat) (messages : List ChatMessage) (usage : TokenUsage)
    (errors : List String) (sql : String) (result : QueryResult) (answer : LLMResponse) (failure : PyException)
    (empty : result.rowCount = 0)
    (classified : service.model.chat (attempt + 1) (classificationMessages messages sql) [] = .ok answer)
    (uncaught : Uncaught host answer failure) :
    (service.report host library question attempt messages usage errors sql result).result = .error (.exception failure) := by
  obtain ⟨failed, unlisted⟩ := (read_decision_uncaught host library answer failure).mpr uncaught
  unfold NL2SQLService.report
  rw [if_pos empty, NL2SQLService.classifyEmpty, NL2SQLService.ask, classified]
  simp only [Logged.andThen, failed, if_neg unlisted]
  rfl

theorem undecided_raises (question : String) (tableNames : List String) (attempt : Nat) (messages : List ChatMessage)
    (undecided : Undecided host service tableNames attempt messages) (bounded : attempt ≤ service.maxRetries + 1)
    (usage : TokenUsage) (errors : List String) :
    ∃ failure, (service.rounds host library question tableNames
      (List.range' attempt (service.maxRetries + 1 - attempt + 1)) messages usage errors).result =
        .error (.exception failure) := by
  induction undecided generalizing usage errors with
  | now attempt messages response answer statements sql result failure said queried empty classified uncaught =>
      refine ⟨failure, ?_⟩
      rw [List.range'_succ, rounds_round host library service question tableNames attempt _ messages usage errors response said,
        Logged.andThen]
      dsimp only
      rw [queried_query host service tableNames attempt _ statements _ queried]
      exact report_raises host library service question attempt messages _ errors sql result answer failure empty classified
        uncaught
  | later attempt messages response statements failure said failed allowed rest ih =>
      obtain ⟨raised, loop⟩ := ih (by omega) (usage.add response.usage) (errors ++ [errorMessage failure])
      have left : service.maxRetries + 1 - attempt = service.maxRetries + 1 - (attempt + 1) + 1 := by omega
      refine ⟨raised, ?_⟩
      rw [List.range'_succ, rounds_round host library service question tableNames attempt _ messages usage errors response said,
        Logged.andThen]
      dsimp only
      rw [queried_query host service tableNames attempt _ statements _ failed]
      simp only [Except.mapError, Logged.recovering, recovery, if_neg (Nat.not_lt.mpr allowed)]
      rw [left]
      exact loop

theorem schemas_read (tableNames : List String)
    (readable : ∀ name ∈ tableNames, ∃ schema, service.database.schema name = .ok schema) :
    ∃ schemas, service.schemas tableNames = .ok schemas := by
  unfold NL2SQLService.schemas
  induction tableNames with
  | nil => exact ⟨[], rfl⟩
  | cons name rest ih =>
      obtain ⟨schema, read⟩ := readable name List.mem_cons_self
      obtain ⟨schemas, others⟩ := ih fun other member => readable other (List.mem_cons_of_mem _ member)
      rw [List.mapM_cons, read]
      simp only [bind, Except.bind, others]
      exact ⟨schema :: schemas, rfl⟩

-- How a run of generate is accounted for by what it returns.
structure Accounted (tableNames : List String) (log : List Nl2SqlDeed) (result : NL2SQLResult) : Prop where
  bounded : modelResponses log ≠ [] → 1 ≤ result.attempts ∧ result.attempts ≤ service.maxRetries + 1
  answered : result.status ≠ .failed → result.errors.length + 1 = result.attempts
  failed : result.status = .failed → modelResponses log ≠ [] → result.errors.length = result.attempts
  spent : result.usage = totalUsage ((modelResponses log).map LLMResponse.usage)
  accepted : ∀ sql ∈ executedSql log, Accepted host service tableNames sql
  rows : RowsReturned service result

theorem refused_accounted (tableNames : List String) (question message : String) :
    ∃ result, (NL2SQLService.refused question message).result = .ok result ∧
      Accounted host service tableNames (NL2SQLService.refused question message).log result := by
  refine ⟨{ status := .failed, question, attempts := 0, errors := [message] }, rfl, ?_⟩
  exact {
    bounded := fun called => absurd rfl called
    answered := fun status => absurd rfl status
    failed := fun _ called => absurd rfl called
    spent := rfl
    accepted := fun _ member => absurd member List.not_mem_nil
    rows := fun status => NL2SQLStatus.noConfusion status }

theorem ends_accounted (tableNames : List String) (course : Logged Nl2SqlDeed NL2SQLResult)
    (ends : Ends host service tableNames 1 {} course) :
    ∃ result, course.result = .ok result ∧ Accounted host service tableNames course.log result := by
  obtain ⟨⟨result, returned, first, bounded, counted, rows, spent⟩, accepted⟩ := ends
  refine ⟨result, returned, ?_⟩
  exact {
    bounded := fun _ => ⟨first, bounded⟩
    answered := by
      intro status
      rw [ErrorsCounted, if_neg status] at counted
      exact counted
    failed := by
      intro status _
      rw [ErrorsCounted, if_pos status] at counted
      exact counted
    spent := spent
    accepted := accepted
    rows := rows }

-- The rounds are reached, and a classification in them is one that json.loads fails on uncaught.
def Unclassified (question : String) (tableNames : List String) : Prop :=
  strip question ≠ "" ∧ ∃ schemas, service.schemas tableNames = .ok schemas ∧ schemas ≠ [] ∧
    Undecided host service tableNames 1 (openingMessages question schemas)

theorem generate_accounted_iff (question : String) (tableNames : List String)
    (answers : ∀ call messages, ∃ response, service.model.chat call messages [] = .ok response)
    (listed : service.database.tableNames = .ok tableNames)
    (readable : ∀ name ∈ tableNames, ∃ schema, service.database.schema name = .ok schema) :
    (∃ result, (service.generate host library question).result = .ok result ∧
      Accounted host service tableNames (service.generate host library question).log result) ↔
        ¬ Unclassified host service question tableNames := by
  unfold NL2SQLService.generate
  by_cases blank : strip question = ""
  · rw [if_pos blank]
    exact iff_of_true (refused_accounted host service tableNames question _) fun unclassified => unclassified.1 blank
  · obtain ⟨schemas, read⟩ := schemas_read service tableNames readable
    rw [if_neg blank, listed]
    dsimp only
    rw [read]
    cases schemas with
    | nil =>
        apply iff_of_true (refused_accounted host service tableNames question _)
        rintro ⟨_, other, same, full, _⟩
        rw [read] at same
        exact full (Except.ok.inj same).symm
    | cons schema rest =>
        dsimp only
        constructor
        · rintro ⟨result, returned, _⟩ ⟨_, other, same, _, undecided⟩
          rw [read] at same
          obtain rfl := Except.ok.inj same
          obtain ⟨failure, raised⟩ := undecided_raises host library service question tableNames 1 _ undecided (by omega) {} []
          rw [Nat.add_sub_cancel, returned] at raised
          cases raised
        · intro decided
          apply ends_accounted
          apply rounds_end host library service answers question tableNames service.maxRetries 1 _ {} [] (Nat.add_comm 1 _) rfl
          exact fun undecided => decided ⟨blank, _, read, List.cons_ne_nil _ _, undecided⟩

-- The model first leaves a quote open; its second statement returns one row.
def sampleService : NL2SQLService where
  model := { chat := fun call _ _ => .ok { content := some (if call = 1 then openQuote else "SELECT 1"), usage := ⟨10, 5⟩ }
             chatStream := none }
  database := {
    tableNames := .ok ["sales"]
    schema := fun name => .ok (.obj [("table", .str name)])
    execute := fun _ _ => .ok ⟨["1"], [[.int 1]], by decide⟩ }

theorem generate_accounted_iff_retry :
    (∃ result, (sampleService.generate sampleHost sampleLibrary "How many regions?").result = .ok result ∧
      Accounted sampleHost sampleService ["sales"] (sampleService.generate sampleHost sampleLibrary "How many regions?").log
        result) ↔ ¬ Unclassified sampleHost sampleService "How many regions?" ["sales"] :=
  generate_accounted_iff sampleHost sampleLibrary sampleService "How many regions?" ["sales"] (fun _ _ => ⟨_, rfl⟩) rfl
    (fun _ _ => ⟨_, rfl⟩)

-- json.loads on a text that opens a thousand arrays, in the interpreter's default limits.
def recursionError : PyException :=
  ⟨"RecursionError", "maximum recursion depth exceeded while decoding a JSON array from a unicode string"⟩

def nestedLoads : JsonLoads := fun text =>
  if 1000 ≤ (text.toList.takeWhile (· = '[')).length then .error (.other recursionError) else readJson text

def nestedHost : Host := { sampleHost with loads := nestedLoads }

def nestedAnswer : String := String.ofList (List.replicate 1000 '[')

-- The first statement returns no row, and the classification is a thousand brackets.
def nestedService : NL2SQLService where
  model := { chat := fun call _ _ => .ok { content := some (if call = 1 then "SELECT 1" else nestedAnswer), usage := ⟨10, 5⟩ }
             chatStream := none }
  database := {
    tableNames := .ok ["sales"]
    schema := fun name => .ok (.obj [("table", .str name)])
    execute := fun _ _ => .ok ⟨["1"], [], fun _ member => absurd member List.not_mem_nil⟩ }

theorem brackets_fenced (count : Nat) (tag : List (List Char)) :
    fencedText tag (String.ofList (List.replicate count '[')) = String.ofList (List.replicate count '[') := by
  have unfenced : afterFence (List.replicate count '[') = none := by
    induction count with
    | zero => rfl
    | succ count ih =>
        rw [List.replicate_succ, afterFence, if_neg (by simp [fence]), ih]
  rw [fencedText, String.toList_ofList, unfenced]

theorem brackets_stripped (count : Nat) :
    strip (String.ofList (List.replicate count '[')) = String.ofList (List.replicate count '[') := by
  have kept : (List.replicate count '[').dropWhile isSpace = List.replicate count '[' := by
    cases count with
    | zero => rfl
    | succ count => rw [List.replicate_succ, List.dropWhile_cons_of_neg (by decide)]
  rw [strip, String.toList_ofList, kept, List.reverse_replicate, kept, List.reverse_replicate]

theorem brackets_raise (count : Nat) (deep : 1000 ≤ count) :
    nestedLoads (String.ofList (List.replicate count '[')) = .error (.other recursionError) := by
  rw [nestedLoads, String.toList_ofList, List.takeWhile_replicate_eq_filter, List.filter_replicate_of_pos (by decide),
    List.length_replicate, if_pos deep]

theorem nested_uncaught (depth : Nat) (deep : 1000 ≤ depth) (usage : TokenUsage) :
    Uncaught nestedHost { content := some (String.ofList (List.replicate depth '[')), usage } recursionError := by
  refine ⟨?_, by decide⟩
  rw [Option.getD_some, brackets_fenced, brackets_stripped]
  exact brackets_raise depth deep

theorem nested_classification_raises :
    ¬ ∃ result, (nestedService.generate nestedHost sampleLibrary "How many regions?").result = .ok result ∧
      Accounted nestedHost nestedService ["sales"] (nestedService.generate nestedHost sampleLibrary "How many regions?").log
        result := by
  have answered : Queried nestedHost nestedService ["sales"] 1 "SELECT 1" ["SELECT 1"]
      (.ok ("SELECT 1", ⟨["1"], [], 0, false⟩)) := .answered "SELECT 1" "SELECT 1" _ (by rfl) (by rfl) rfl
  rintro ⟨result, returned, _⟩
  obtain ⟨failure, raised⟩ := undecided_raises nestedHost sampleLibrary nestedService "How many regions?" ["sales"] 1
    (openingMessages "How many regions?" [.obj [("table", .str "sales")]])
    (.now 1 _ _ _ _ "SELECT 1" _ recursionError rfl answered rfl rfl (nested_uncaught 1000 (Nat.le_refl _) _)) (by decide) {} []
  have same : (nestedService.generate nestedHost sampleLibrary "How many regions?").result = .error (.exception failure) :=
    raised
  rw [same] at returned
  cases returned

end DataPilot.Agent
