import DataPilot.Agent.Guardrails
import DataPilot.Sql.Letters

set_option autoImplicit false

namespace DataPilot.Agent

open DataPilot.Base DataPilot.Tools DataPilot.Sql

def otherArguments (arguments : Dict) : Json := sortKeys (.obj (dictSet "sql" .null arguments))

-- A call as the signature sees it: the tool's name and its arguments.
structure Request where
  name : String
  arguments : Dict

def ToolCall.requested (call : ToolCall) : Request := ⟨call.name, call.arguments⟩

def ToolExecution.requested (execution : ToolExecution) : Request := ⟨execution.toolName, execution.arguments⟩

def Request.sql (request : Request) : Option String := parsedSql request.name request.arguments

section Sorting

theorem dict_get_ordered_insert (key : String) (field : String × Json) (fields : Dict) :
    dictGet key (fields.orderedInsert (fun a b => a.1 ≤ b.1) field) = dictGet key (field :: fields) := by
  induction fields with
  | nil => rfl
  | cons head rest ih =>
      rw [List.orderedInsert]
      split
      · rfl
      · rename_i above
        have apart : head.1 ≠ field.1 := fun same => above (same ▸ String.le_refl _)
        simp only [dictGet] at ih ⊢
        by_cases here : head.1 = key
        · have other : field.1 ≠ key := fun same => apart (here.trans same.symm)
          rw [if_pos here, if_neg other, if_pos here]
        · rw [if_neg here, if_neg here, ih]

-- Sorting is stable, so the first entry of a key stays the first.
theorem dict_get_sorted (key : String) (fields : Dict) :
    dictGet key (fields.insertionSort fun a b => a.1 ≤ b.1) = dictGet key fields := by
  induction fields with
  | nil => rfl
  | cons field rest ih => rw [List.insertionSort_cons, dict_get_ordered_insert, dictGet, dictGet, ih]

theorem dict_set_ordered_insert (key : String) (value : Json) (field : String × Json) (fields : Dict)
    (present : dictHas key (field :: fields) = true) :
    dictSet key value (fields.orderedInsert (fun a b => a.1 ≤ b.1) field) =
      if field.1 = key then fields.orderedInsert (fun a b => a.1 ≤ b.1) (field.1, value)
      else (dictSet key value fields).orderedInsert (fun a b => a.1 ≤ b.1) field := by
  obtain ⟨name, old⟩ := field
  induction fields with
  | nil =>
      have here : name = key := by simpa [dictHas] using present
      simp [dictSet, here]
  | cons head rest ih =>
      obtain ⟨other, item⟩ := head
      by_cases before : name ≤ other
      · by_cases here : name = key
        · subst here
          simp [dictSet, List.orderedInsert, before]
        · simp [dictSet, List.orderedInsert, before, here]
          split <;> simp [before]
      · have apart : other ≠ name := fun same => before (same ▸ String.le_refl _)
        by_cases here : name = key
        · have later : dictHas key ((name, old) :: rest) = true := by simp [dictHas, here]
          have skipped : other ≠ key := here ▸ apart
          have moved := ih later
          simp only [here, if_true] at moved ⊢
          simp [dictSet, List.orderedInsert, here ▸ before, skipped, moved]
        · by_cases there : other = key
          · subst there
            simp [dictSet, List.orderedInsert, before, here]
          · have later : dictHas key ((name, old) :: rest) = true := by
              simpa [dictHas, here, there] using present
            have moved := ih later
            rw [if_neg here] at moved ⊢
            simp [dictSet, List.orderedInsert, before, there, moved]

theorem dict_has_sorted (key : String) (fields : Dict) :
    dictHas key (fields.insertionSort fun a b => a.1 ≤ b.1) = dictHas key fields := by
  rw [dictHas, dictHas, Bool.eq_iff_iff, List.any_eq_true, List.any_eq_true]
  simp only [List.mem_insertionSort]

theorem dict_set_sorted (key : String) (value : Json) (fields : Dict) (present : dictHas key fields = true) :
    (dictSet key value fields).insertionSort (fun a b => a.1 ≤ b.1) =
      dictSet key value (fields.insertionSort fun a b => a.1 ≤ b.1) := by
  induction fields with
  | nil => simp [dictHas] at present
  | cons field rest ih =>
      obtain ⟨name, old⟩ := field
      have sorted : dictHas key ((name, old) :: rest.insertionSort fun a b => a.1 ≤ b.1) = true := by
        have kept := dict_has_sorted key rest
        simp only [dictHas, List.any_cons] at present kept ⊢
        rw [kept]
        exact present
      rw [List.insertionSort_cons, dict_set_ordered_insert key value (name, old) _ sorted, dictSet]
      by_cases here : name = key
      · rw [if_pos here, if_pos here, List.insertionSort_cons]
      · have later : dictHas key rest = true := by simpa [dictHas, here] using present
        rw [if_neg here, if_neg here, List.insertionSort_cons, ih later]

theorem sort_fields_set (key : String) (value : Json) (fields : Dict) :
    sortFields (dictSet key value fields) = dictSet key (sortKeys value) (sortFields fields) := by
  induction fields with
  | nil => rfl
  | cons field rest ih =>
      obtain ⟨name, old⟩ := field
      by_cases here : name = key
      · simp [dictSet, sortFields, here]
      · simp [dictSet, sortFields, here, ih]

theorem dict_has_sort_fields (key : String) (fields : Dict) : dictHas key (sortFields fields) = dictHas key fields := by
  induction fields with
  | nil => rfl
  | cons field rest ih =>
      obtain ⟨name, old⟩ := field
      simp only [sortFields, dictHas, List.any_cons] at ih ⊢
      rw [ih]

theorem dict_get_sort_fields (key : String) (fields : Dict) :
    dictGet key (sortFields fields) = sortKeys (dictGet key fields) := by
  induction fields with
  | nil => rfl
  | cons field rest ih =>
      obtain ⟨name, value⟩ := field
      rw [sortFields, dictGet, dictGet, ih]
      split <;> rfl

theorem sorted_get (first second : Dict) (same : sortKeys (.obj first) = sortKeys (.obj second)) (key : String) :
    sortKeys (dictGet key first) = sortKeys (dictGet key second) := by
  rw [sortKeys, sortKeys, Json.obj.injEq] at same
  rw [← dict_get_sort_fields, ← dict_get_sort_fields, ← dict_get_sorted, same, dict_get_sorted]

theorem dict_set_twice (key : String) (first second : Json) (fields : Dict) :
    dictSet key second (dictSet key first fields) = dictSet key second fields := by
  induction fields with
  | nil => simp [dictSet]
  | cons field rest ih =>
      obtain ⟨name, old⟩ := field
      by_cases here : name = key <;> simp [dictSet, here, ih]

theorem sort_keys_set (key : String) (value : Json) (fields : Dict) (present : dictHas key fields = true) :
    sortKeys (.obj (dictSet key value fields)) =
      .obj (dictSet key (sortKeys value) ((sortFields fields).insertionSort fun a b => a.1 ≤ b.1)) := by
  rw [sortKeys, sort_fields_set, dict_set_sorted key _ _ (by rw [dict_has_sort_fields, present])]

end Sorting

variable (normalizer : Normalizer) (tokenizer : Tokenizer)

def SameCall (first second : Request) : Prop :=
  first.name = second.name ∧
    match first.sql, second.sql with
    | some one, some two =>
        otherArguments first.arguments = otherArguments second.arguments ∧ SameQuery normalizer.toSqlglot tokenizer one two
    | _, _ => sortKeys (.obj first.arguments) = sortKeys (.obj second.arguments)

def Request.signature (request : Request) : Except PyException Signature :=
  callSignature normalizer request.name request.arguments

-- Two requests of one tool with the same other arguments whose SQL texts merge
-- in the normal form although they are not one query.
def Confused (first second : Request) : Prop :=
  first.name = second.name ∧ otherArguments first.arguments = otherArguments second.arguments ∧
    ∃ one two, first.sql = some one ∧ second.sql = some two ∧ Confusable normalizer.toSqlglot tokenizer one two

theorem dump_sorted_injective (first second : Dict) (same : dumpSorted first = dumpSorted second) :
    sortKeys (.obj first) = sortKeys (.obj second) :=
  dumps_injective ⟨true, true⟩ _ _ same

theorem signature_ok (request : Request) (signature : Signature) (signed : request.signature normalizer = .ok signature) :
    ∃ normalized, normalizedDict normalizer request.name request.arguments = .ok normalized ∧
      signature = (request.name, dumpSorted normalized) := by
  unfold Request.signature callSignature normalizedArguments at signed
  cases normal : normalizedDict normalizer request.name request.arguments with
  | error failure => simp [normal, Except.map] at signed
  | ok normalized =>
      refine ⟨normalized, rfl, ?_⟩
      cases dumped : normalizer.dumpsRaises normalized with
      | some failure => simp [normal, dumped, Except.map] at signed
      | none => simpa [normal, dumped, Except.map] using signed.symm

theorem signature_sql (request : Request) (sql : String) (signature : Signature) (parsed : request.sql = some sql)
    (signed : request.signature normalizer = .ok signature) :
    ∃ text, normalizedSql normalizer sql = .ok text ∧ dictGet "sql" request.arguments = .str sql ∧
      signature = (request.name, dumpSorted (dictSet "sql" (.str text) request.arguments)) := by
  obtain ⟨normalized, normal, rfl⟩ := signature_ok normalizer request signature signed
  rw [asked_dict normalizer request.name request.arguments sql parsed] at normal
  cases folded : normalizedSql normalizer sql with
  | error failure => simp [folded, Except.map] at normal
  | ok text =>
      refine ⟨text, rfl, (asked_sql request.name request.arguments sql parsed).1, ?_⟩
      simp only [folded, Except.map, Except.ok.injEq] at normal
      rw [normal]

theorem signature_plain (request : Request) (signature : Signature) (unparsed : request.sql = none)
    (signed : request.signature normalizer = .ok signature) :
    signature = (request.name, dumpSorted request.arguments) := by
  obtain ⟨normalized, normal, rfl⟩ := signature_ok normalizer request signature signed
  unfold Request.sql parsedSql at unparsed
  unfold normalizedDict at normal
  cases value : dictGet "sql" request.arguments with
  | str given =>
      rw [value] at unparsed normal
      dsimp only at unparsed normal
      split at unparsed
      · cases unparsed
      · rename_i otherTool
        rw [if_neg otherTool, Except.ok.injEq] at normal
        rw [normal]
  | _ =>
      rw [value, Except.ok.injEq] at normal
      rw [normal]

theorem dict_get_string_present (key value : String) (fields : Dict) (found : dictGet key fields = .str value) :
    dictHas key fields = true := by
  induction fields with
  | nil => cases found
  | cons field rest ih =>
      obtain ⟨name, item⟩ := field
      rw [dictGet] at found
      split at found
      · rename_i here
        simp [dictHas, here]
      · have later := ih found
        simp only [dictHas, List.any_cons] at later ⊢
        rw [later, Bool.or_true]

theorem dict_set_text (first second : Dict) (one two : String) (firstHas : dictHas "sql" first = true)
    (secondHas : dictHas "sql" second = true) :
    sortKeys (.obj (dictSet "sql" (.str one) first)) = sortKeys (.obj (dictSet "sql" (.str two) second)) ↔
      one = two ∧ otherArguments first = otherArguments second := by
  constructor
  · intro same
    have texts := sorted_get _ _ same "sql"
    rw [dict_get_set, dict_get_set] at texts
    refine ⟨by simpa [sortKeys] using texts, ?_⟩
    rw [sort_keys_set _ _ _ firstHas, sort_keys_set _ _ _ secondHas, Json.obj.injEq] at same
    rw [otherArguments, otherArguments, sort_keys_set _ _ _ firstHas, sort_keys_set _ _ _ secondHas,
      ← dict_set_twice "sql" (sortKeys (.str one)), same, dict_set_twice]
  · rintro ⟨rfl, others⟩
    rw [otherArguments, otherArguments, sort_keys_set _ _ _ firstHas, sort_keys_set _ _ _ secondHas,
      Json.obj.injEq] at others
    rw [sort_keys_set _ _ _ firstHas, sort_keys_set _ _ _ secondHas, ← dict_set_twice "sql" (sortKeys .null), others,
      dict_set_twice]

theorem normalized_ways (sql text : String) (normal : normalizedSql normalizer sql = .ok text) :
    (∃ statement printed, normalizer.parseOne "duckdb" sql = .ok statement ∧
      normalizer.sql none statement = .ok printed ∧ text = normalText printed) ∨
    ∃ failure, normalizer.parseOne "duckdb" sql = .error failure ∧ text = normalText sql := by
  unfold normalizedSql at normal
  cases parsed : normalizer.parseOne "duckdb" sql with
  | ok statement =>
      cases printed : normalizer.sql none statement with
      | error failure => simp [parsed, printed, Except.map] at normal
      | ok written =>
          refine .inl ⟨statement, written, rfl, printed, ?_⟩
          simpa [parsed, printed, Except.map] using normal.symm
  | error failure =>
      cases failure with
      | parseError message => exact .inr ⟨_, rfl, by simpa [parsed] using normal.symm⟩
      | tokenError message => simp [parsed] at normal
      | other raised => simp [parsed] at normal

section Merging

variable {normalizer tokenizer} {reader : String → Option Expression} (printing : Printing normalizer.toSqlglot reader)
  (tokenizes : Tokenizes tokenizer)

include printing tokenizes

theorem one_query_iff (first second one two : String) (normalFirst : normalizedSql normalizer first = .ok one)
    (normalSecond : normalizedSql normalizer second = .ok two) :
    (one = two → SameQuery normalizer.toSqlglot tokenizer first second) ↔
      ¬ Confusable normalizer.toSqlglot tokenizer first second := by
  unfold SameQuery Confusable
  rcases normalized_ways normalizer first one normalFirst with
    ⟨left, leftText, parsedFirst, printedFirst, rfl⟩ | ⟨failure, refusedFirst, rfl⟩
  · rcases normalized_ways normalizer second two normalSecond with
      ⟨right, rightText, parsedSecond, printedSecond, rfl⟩ | ⟨failure, refusedSecond, rfl⟩
    · simp only [parsedFirst, parsedSecond, printedFirst, printedSecond, Except.ok.injEq, exists_eq_left', normal_text_iff]
      by_cases alike : FoldAlike leftText rightText
      · rw [imp_iff_right alike]
        exact printed_merge_iff printing first second left right leftText rightText parsedFirst parsedSecond printedFirst
          printedSecond alike
      · exact iff_of_true (fun same => absurd same alike) fun merged => alike merged.1
    · simp only [parsedFirst, refusedSecond, printedFirst, Except.ok.injEq, exists_eq_left', normal_text_iff, imp_false]
  · rcases normalized_ways normalizer second two normalSecond with
      ⟨right, rightText, parsedSecond, printedSecond, rfl⟩ | ⟨other, refusedSecond, rfl⟩
    · simp only [refusedFirst, parsedSecond, printedSecond, Except.ok.injEq, exists_eq_left', normal_text_iff, imp_false]
    · simp only [refusedFirst, refusedSecond, normal_text_iff]
      by_cases alike : FoldAlike first second
      · rw [imp_iff_right alike]
        exact raw_merge_iff tokenizes first second alike
      · refine iff_of_true (fun same => absurd same alike) ?_
        split
        · exact fun merged => alike merged.1
        · exact fun merged => alike merged.1

end Merging

theorem sort_keys_text (text : String) : sortKeys (.str text) = .str text := by simp [sortKeys]

theorem sort_keys_string (value : Json) (text : String) (sorted : sortKeys value = .str text) : value = .str text := by
  cases value <;> simp_all [sortKeys]

theorem signature_mixed (first second : Request) (signature : Signature) (sql : String) (parsed : first.sql = some sql)
    (unparsed : second.sql = none) (signedFirst : first.signature normalizer = .ok signature)
    (signedSecond : second.signature normalizer = .ok signature) : False := by
  obtain ⟨text, _, found, rfl⟩ := signature_sql normalizer first sql signature parsed signedFirst
  have plain := signature_plain normalizer second _ unparsed signedSecond
  rw [Prod.mk.injEq] at plain
  have entries := sorted_get _ _ (dump_sorted_injective _ _ plain.2) "sql"
  rw [dict_get_set, sort_keys_text] at entries
  have string := sort_keys_string _ _ entries.symm
  have sqlTool : first.name ∈ sqlToolNames := by
    unfold Request.sql parsedSql at parsed
    rw [found] at parsed
    dsimp only at parsed
    split at parsed
    · assumption
    · cases parsed
  rw [plain.1] at sqlTool
  unfold Request.sql parsedSql at unparsed
  rw [string] at unparsed
  simp [sqlTool] at unparsed

section Signing

variable {normalizer tokenizer} {reader : String → Option Expression} (printing : Printing normalizer.toSqlglot reader)
  (tokenizes : Tokenizes tokenizer)

include printing tokenizes

theorem same_signature_iff (first second : Request) (one two : Signature)
    (signedFirst : first.signature normalizer = .ok one) (signedSecond : second.signature normalizer = .ok two) :
    (one = two → SameCall normalizer tokenizer first second) ↔ ¬ Confused normalizer tokenizer first second := by
  constructor
  · rintro sound ⟨name, others, sqlFirst, sqlSecond, parsedFirst, parsedSecond, confusable⟩
    obtain ⟨text, normalFirst, foundFirst, rfl⟩ := signature_sql normalizer first sqlFirst one parsedFirst signedFirst
    obtain ⟨text', normalSecond, foundSecond, rfl⟩ := signature_sql normalizer second sqlSecond two parsedSecond signedSecond
    refine (one_query_iff printing tokenizes sqlFirst sqlSecond text text' normalFirst normalSecond).mp ?_ confusable
    rintro rfl
    have written := (dict_set_text first.arguments second.arguments text text
      (dict_get_string_present _ _ _ foundFirst) (dict_get_string_present _ _ _ foundSecond)).mpr ⟨rfl, others⟩
    obtain ⟨_, calls⟩ := sound (by rw [name, dumpSorted, dumpSorted, written])
    rw [parsedFirst, parsedSecond] at calls
    exact calls.2
  · rintro clear rfl
    cases parsedFirst : first.sql with
    | none =>
        cases parsedSecond : second.sql with
        | none =>
            have plainFirst := signature_plain normalizer first one parsedFirst signedFirst
            have plainSecond := signature_plain normalizer second one parsedSecond signedSecond
            rw [plainFirst, Prod.mk.injEq] at plainSecond
            refine ⟨plainSecond.1, ?_⟩
            rw [parsedFirst, parsedSecond]
            exact dump_sorted_injective _ _ plainSecond.2
        | some sqlSecond =>
            exact (signature_mixed normalizer second first one sqlSecond parsedSecond parsedFirst signedSecond signedFirst).elim
    | some sqlFirst =>
        cases parsedSecond : second.sql with
        | none =>
            exact (signature_mixed normalizer first second one sqlFirst parsedFirst parsedSecond signedFirst signedSecond).elim
        | some sqlSecond =>
            obtain ⟨text, normalFirst, foundFirst, rfl⟩ := signature_sql normalizer first sqlFirst one parsedFirst signedFirst
            obtain ⟨text', normalSecond, foundSecond, same⟩ :=
              signature_sql normalizer second sqlSecond _ parsedSecond signedSecond
            rw [Prod.mk.injEq] at same
            obtain ⟨rfl, others⟩ := (dict_set_text first.arguments second.arguments text text'
              (dict_get_string_present _ _ _ foundFirst) (dict_get_string_present _ _ _ foundSecond)).mp
              (dump_sorted_injective _ _ same.2)
            refine ⟨same.1, ?_⟩
            rw [parsedFirst, parsedSecond]
            refine ⟨others, (one_query_iff printing tokenizes sqlFirst sqlSecond text text normalFirst normalSecond).mpr ?_ rfl⟩
            exact fun confusable => clear ⟨same.1, others, sqlFirst, sqlSecond, parsedFirst, parsedSecond, confusable⟩

end Signing

def Repeats (earlier : List Action) (calls : List ToolCall) : Prop :=
  (∃ execution ∈ executions earlier, ∃ call ∈ calls,
    SameCall normalizer tokenizer execution.requested call.requested) ∨
  ¬ calls.Pairwise fun first second => ¬ SameCall normalizer tokenizer first.requested second.requested

def StopsOnRepeat (run : AgentRun) : Prop :=
  ∀ before round after, run.rounds = before ++ round :: after → ∀ result response,
    .emit (.completed result) ∈ round → result.status = .loopDetected → .respond response ∈ round →
    Repeats normalizer tokenizer before.flatten response.toolCalls

def NeverConfused (run : AgentRun) : Prop :=
  ∀ response, .respond response ∈ run.actions →
    (∀ execution ∈ executions run.actions, ∀ call ∈ response.toolCalls,
      ¬ Confused normalizer tokenizer execution.requested call.requested) ∧
    response.toolCalls.Pairwise fun first second =>
      ¬ Confused normalizer tokenizer first.requested second.requested

theorem distinct_calls_nodup {reader : String → Option Expression} (printing : Printing normalizer.toSqlglot reader)
    (tokenizes : Tokenizes tokenizer) (calls : List ToolCall) (signatures : List Signature)
    (signed : List.Forall₂ (fun call signature => call.requested.signature normalizer = .ok signature) calls signatures)
    (alike : calls.Pairwise fun first second => ¬ Confused normalizer tokenizer first.requested second.requested)
    (distinct : calls.Pairwise fun first second => ¬ SameCall normalizer tokenizer first.requested second.requested) :
    signatures.Nodup := by
  induction signed with
  | nil => exact List.nodup_nil
  | @cons call signature calls signatures head tail ih =>
      rw [List.pairwise_cons] at alike distinct
      rw [List.nodup_cons]
      refine ⟨?_, ih alike.2 distinct.2⟩
      intro member
      obtain ⟨other, inside, signedOther⟩ : ∃ other ∈ calls, other.requested.signature normalizer = .ok signature := by
        clear ih alike distinct head
        induction tail with
        | nil => cases member
        | cons first _ later =>
            rcases List.mem_cons.mp member with rfl | further
            · exact ⟨_, by simp, first⟩
            · obtain ⟨other, inside, signedOther⟩ := later further
              exact ⟨other, by simp [inside], signedOther⟩
      have same := (same_signature_iff printing tokenizes _ _ _ _ head signedOther).mpr
        (alike.1 other inside) rfl
      exact distinct.1 other inside same

section Stopping

variable (host : Host)

theorem act_loop_detected (agent : Agent) (step : Nat) (state : LoopState) (response : LLMResponse) (verdict : Verdict)
    (result : AgentRunResult) (stopped : result.status = .loopDetected)
    (member : .emit (.completed result) ∈ (act host agent step state response verdict).actions) :
    ∃ duplicates, verdict = .loopDetected duplicates := by
  cases verdict with
  | loopDetected duplicates => exact ⟨duplicates, rfl⟩
  | completed =>
      simp [act, finish] at member
      simp [member, LoopState.result] at stopped
  | tokenBudgetExceeded =>
      simp [act, stopWith, finish] at member
      simp [member, LoopState.result] at stopped
  | toolBudgetExceeded =>
      simp [act, stopWith, finish] at member
      simp [member, LoopState.result] at stopped
  | replan => simp [act] at member
  | accepted signatures => simp [act, executeBatch] at member

theorem opening_emits (messages : List ChatMessage) (events : List AgentStreamEvent)
    (texts : ∀ event ∈ events, event.isText = true) (result : AgentRunResult) :
    Action.emit (.completed result) ∉ opening messages events := by
  intro member
  simpa [Action.isCompleted] using (opening_quiet messages events texts _ member).2.2.2

theorem round_loop_detected (agent : Agent) (definitions : List ToolDefinition) (step : Nat) (state : LoopState)
    (result : AgentRunResult) (response : LLMResponse) (stopped : result.status = .loopDetected)
    (emitted : .emit (.completed result) ∈ (agentRound host agent definitions step state).actions)
    (responded : .respond response ∈ (agentRound host agent definitions step state).actions) :
    ∃ current, callSignatures host.normalizer response.toolCalls = .ok current ∧
      ((∃ signature ∈ current, signature ∈ state.executedSignatures) ∨ ¬ current.Nodup) := by
  rcases agent_round_ways host agent definitions step state with
    ⟨failure, _, round⟩ | ⟨messages, failure, _, _, round⟩ | ⟨messages, answer, _, _, round⟩
  · simp [round] at emitted
  · rw [round] at emitted
    exact absurd emitted (opening_emits messages _ (model_answer_texts host agent definitions step messages) result)
  · have texts := model_answer_texts host agent definitions step messages
    rw [round] at emitted responded
    have settled : .emit (.completed result) ∈ (settle host agent step state answer).actions := by
      rcases List.mem_append.mp emitted with earlier | later
      · exact absurd earlier (opening_emits messages _ texts result)
      · simpa using later
    rcases settle_ways host agent step state answer with ⟨failure, _, _, settling⟩ | ⟨verdict, justified, settling⟩
    · simp [settling] at settled
    rw [settling] at settled responded
    obtain ⟨duplicates, rfl⟩ := act_loop_detected host agent step _ answer verdict result stopped settled
    obtain rfl : response = answer := by
      rcases List.mem_append.mp responded with earlier | later
      · simp at earlier
      · simpa [act, stopWith, finish] using later
    exact justified

theorem round_completed (agent : Agent) (definitions : List ToolDefinition) (step : Nat) (state : LoopState)
    (continues : (agentRound host agent definitions step state).next ≠ .ok none) :
    (agentRound host agent definitions step state).actions.countP Action.isCompleted = 0 := by
  rcases agent_round_ways host agent definitions step state with
    ⟨failure, _, round⟩ | ⟨messages, failure, _, _, round⟩ | ⟨messages, response, _, _, round⟩
  · rw [round]
    rfl
  · rw [round]
    exact opening_completed messages _ (model_answer_texts host agent definitions step messages)
  · have texts := model_answer_texts host agent definitions step messages
    rw [round] at continues ⊢
    rcases settle_ways host agent step state response with ⟨failure, _, _, settling⟩ | ⟨verdict, _, settling⟩
    · rw [settling] at continues ⊢
      rw [List.countP_append, ← opening, opening_completed messages _ texts]
      rfl
    · rw [settling] at continues ⊢
      rw [List.countP_append, ← opening, opening_completed messages _ texts, List.countP_cons,
        act_completed host agent step _ response verdict continues]
      rfl

theorem uncompleted_stops (tokenizer : Tokenizer) (run : AgentRun)
    (uncompleted : run.rounds.flatten.countP Action.isCompleted = 0) :
    StopsOnRepeat host.normalizer tokenizer run := by
  intro before round after split result response emitted
  have member : .emit (.completed result) ∈ run.rounds.flatten :=
    List.mem_flatten.mpr ⟨round, by simp [split], emitted⟩
  exact absurd rfl ((List.countP_eq_zero.mp uncompleted) _ member)

theorem tied_repeats (tokenizer : Tokenizer) (reader : String → Option Expression)
    (printing : Printing host.normalizer.toSqlglot reader) (tokenizes : Tokenizes tokenizer) (config : AgentConfig) (step : Nat)
    (past : List (List Action))
    (state : LoopState) (calls : List ToolCall) (current : List Signature) (tied : Tied host.normalizer config step past state)
    (computed : callSignatures host.normalizer calls = .ok current)
    (repeated : (∃ signature ∈ current, signature ∈ state.executedSignatures) ∨ ¬ current.Nodup)
    (met : ∀ execution ∈ executions past.flatten, ∀ call ∈ calls,
      ¬ Confused host.normalizer tokenizer execution.requested call.requested)
    (alike : calls.Pairwise fun first second =>
      ¬ Confused host.normalizer tokenizer first.requested second.requested) :
    Repeats host.normalizer tokenizer past.flatten calls := by
  have signed := call_signatures_forall host.normalizer calls current computed
  rcases repeated with ⟨signature, member, executed⟩ | duplicated
  · have listed : (Except.ok signature : Except PyException Signature) ∈
        (executions past.flatten).map (executionSignature host.normalizer) :=
      tied.signatures.mem_iff.mpr (List.mem_map_of_mem executed)
    obtain ⟨execution, inside, signedExecution⟩ := List.mem_map.mp listed
    obtain ⟨call, among, signedCall⟩ : ∃ call ∈ calls,
        callSignature host.normalizer call.name call.arguments = .ok signature := by
      obtain ⟨place, bound, found⟩ := List.mem_iff_getElem.mp member
      have fits : place < calls.length := by rw [signed.length_eq]; exact bound
      refine ⟨calls[place], List.getElem_mem fits, ?_⟩
      rw [← found]
      exact signed.get fits bound
    refine .inl ⟨execution, inside, call, among, ?_⟩
    exact (same_signature_iff printing tokenizes execution.requested call.requested signature
      signature signedExecution signedCall).mpr (met execution inside call among) rfl
  · refine .inr fun distinct => duplicated ?_
    exact distinct_calls_nodup host.normalizer tokenizer printing tokenizes calls current signed alike distinct

-- Detection is sound exactly where the normal form confuses nothing, and a run
-- in which it never does stops over real repeats only.
structure DetectsByLetters (tokenizer : Tokenizer) : Prop where
  calls : ∀ first second : Request, ∀ one two, first.signature host.normalizer = .ok one →
    second.signature host.normalizer = .ok two →
    ((one = two → SameCall host.normalizer tokenizer first second) ↔ ¬ Confused host.normalizer tokenizer first second)
  letters : ∀ first second : Request, ∀ one two, SameCall host.normalizer tokenizer first second → first.sql = some one →
    second.sql = some two → SameLetters host.normalizer.toSqlglot tokenizer one two
  runs : ∀ agent userInput systemPrompt history,
    NeverConfused host.normalizer tokenizer (stream host agent userInput systemPrompt history) →
    StopsOnRepeat host.normalizer tokenizer (stream host agent userInput systemPrompt history)

end Stopping

section Regions

-- WHERE region = 'East' and WHERE region = 'east' select different rows.
def regionTree (region : String) : Expression :=
  .node "Select" false [] .missing
    (.cons (.node "Star" false [] .missing .nil)
      (.cons (.node "From" false [] .missing (.cons (.table (.identifier "sales" false) .absent .absent .nil) .nil))
        (.cons (.node "Where" false [] .missing
          (.cons (.node "EQ" false [] .missing
            (.cons (.node "Column" false [] .missing (.cons (.identifier "region" false) .nil))
              (.cons (.literal region true) .nil))) .nil)) .nil)))

def regionText (region : String) : String := "SELECT * FROM sales WHERE region = '" ++ region ++ "'"

def regionNormalizer : Normalizer where
  parse _ _ := .error (.tokenError "Error tokenizing")
  parseOne _ sql :=
    if sql = regionText "East" then .ok ⟨regionTree "East", []⟩
    else if sql = regionText "east" then .ok ⟨regionTree "east", []⟩
    else .error (.tokenError "Error tokenizing")
  sql _ statement := if statement.tree = regionTree "East" then .ok (regionText "East") else .ok (regionText "east")
  dumpsRaises _ := none

def regionReader (printed : String) : Option Expression :=
  if printed = regionText "East" then some (regionTree "East")
  else if printed = regionText "east" then some (regionTree "east")
  else none

def regionTokens (region : String) : List Token :=
  ["SELECT", "*", "FROM", "sales", "WHERE", "region", "="].map .word ++ [.exact region]

def regionTokenizer : Tokenizer where
  tokens text := if text = regionText "East" then regionTokens "East" else regionTokens "east"
  standard text := text = regionText "East" || text = regionText "east"

def regionHost : Host := { sampleHost with normalizer := regionNormalizer }

theorem region_parsed (sql : String) (statement : Statement)
    (parsed : regionNormalizer.parseOne "duckdb" sql = .ok statement) :
    statement = ⟨regionTree "East", []⟩ ∨ statement = ⟨regionTree "east", []⟩ := by
  simp only [regionNormalizer] at parsed
  split at parsed
  · exact .inl (by simpa using parsed.symm)
  split at parsed
  · exact .inr (by simpa using parsed.symm)
  · cases parsed

theorem region_read (printed : String) (tree : Expression) (read : regionReader printed = some tree) :
    (printed = regionText "East" ∧ tree = regionTree "East") ∨ (printed = regionText "east" ∧ tree = regionTree "east") := by
  unfold regionReader at read
  split at read
  · exact .inl ⟨by assumption, by simpa using read.symm⟩
  split at read
  · exact .inr ⟨by assumption, by simpa using read.symm⟩
  · cases read

theorem regions_spelled : spelled (regionText "East") ≠ spelled (regionText "east") := by decide +kernel

theorem region_printing : Printing regionNormalizer.toSqlglot regionReader := by
  have printsEast : regionNormalizer.sql none ⟨regionTree "East", []⟩ = .ok (regionText "East") := by decide +kernel
  have printsLower : regionNormalizer.sql none ⟨regionTree "east", []⟩ = .ok (regionText "east") := by decide +kernel
  have treesDiffer : caseless (regionTree "East") ≠ caseless (regionTree "east") := by decide +kernel
  constructor
  · intro sql statement printed parsed written
    rcases region_parsed sql statement parsed with rfl | rfl
    · obtain rfl := Except.ok.inj (printsEast.symm.trans written)
      rfl
    · obtain rfl := Except.ok.inj (printsLower.symm.trans written)
      rfl
  · intro first second one two alike readFirst readSecond
    rcases region_read first one readFirst with ⟨rfl, rfl⟩ | ⟨rfl, rfl⟩ <;>
      rcases region_read second two readSecond with ⟨rfl, rfl⟩ | ⟨rfl, rfl⟩
    · rfl
    · exact absurd alike regions_spelled
    · exact absurd alike.symm regions_spelled
    · rfl
  · intro first second one two left right parsedFirst parsedSecond printedFirst printedSecond same _
    rcases region_parsed first one parsedFirst with rfl | rfl <;>
      rcases region_parsed second two parsedSecond with rfl | rfl
    · rw [Except.ok.inj (printedFirst.symm.trans printedSecond)]
    · exact absurd same treesDiffer
    · exact absurd same.symm treesDiffer
    · rw [Except.ok.inj (printedFirst.symm.trans printedSecond)]

theorem region_tokenizes : Tokenizes regionTokenizer := by
  have tokensDiffer : ¬ SameTokens regionTokenizer (regionText "East") (regionText "east") := by
    unfold SameTokens
    decide +kernel
  have named : ∀ text, regionTokenizer.standard text = true → text = regionText "East" ∨ text = regionText "east" :=
    fun text standard => by simpa [regionTokenizer] using standard
  intro first second standardFirst standardSecond _
  rcases named first standardFirst with rfl | rfl <;> rcases named second standardSecond with rfl | rfl
  · exact iff_of_true rfl rfl
  · exact iff_of_false tokensDiffer regions_spelled
  · exact iff_of_false (fun same => tokensDiffer same.symm) fun same => regions_spelled same.symm
  · exact iff_of_true rfl rfl

def regionRequest (region : String) : Request := ⟨"run_sql", [("sql", .str (regionText region))]⟩

end Regions

end DataPilot.Agent
