import DataPilot.Observability.Repository
import Mathlib.Data.Multiset.Defs

set_option autoImplicit false

namespace DataPilot.Observability

open DataPilot.Base DataPilot.Chat DataPilot.Llm DataPilot.Agent

-- The arguments of _usage_filters.
structure UsageQuery where
  workspaceId : Uuid
  startAt : Option Nat := none
  endAt : Option Nat := none
  conversationId : Option Uuid := none

-- The filters but that of the conversation.
def UsageQuery.takes (query : UsageQuery) (posting : Posting) : Bool :=
  posting.workspaceId = query.workspaceId && query.startAt.all (fun start => start ≤ posting.createdAt) &&
    query.endAt.all fun ending => posting.createdAt ≤ ending

def usageFilters (query : UsageQuery) (row : LLMUsageRecord) : Bool :=
  query.takes row.posting && query.conversationId.all fun conversationId => row.conversationId = some conversationId

def selected (tables : Tables) (query : UsageQuery) : List LLMUsageRecord := tables.usage.filter (usageFilters query)

-- The costs in the last decimal of the column.
structure UsageSummary where
  callCount : Nat
  inputTokens : Nat
  outputTokens : Nat
  totalTokens : Nat
  estimatedCost : Nat
  averageLatencyMs : FloatText
  errorCount : Nat
deriving DecidableEq

structure UsagePage where
  items : List LLMUsageRecord
  total : Nat
  limit : Nat
  offset : Nat

section Queries

-- How the column stores a cost, and coalesce(avg(...), 0) of the latencies.
variable (numeric : FloatText → Nat) (average : Multiset FloatText → FloatText)

def summarize (postings : List Posting) : UsageSummary where
  callCount := postings.length
  inputTokens := (postings.map fun posting => posting.usage.inputTokens).sum
  outputTokens := (postings.map fun posting => posting.usage.outputTokens).sum
  totalTokens := (postings.map fun posting => posting.usage.inputTokens).sum +
    (postings.map fun posting => posting.usage.outputTokens).sum
  estimatedCost := (postings.map fun posting => numeric posting.usage.estimatedCostUsd).sum
  averageLatencyMs := average (postings.map Posting.latencyMs)
  errorCount := postings.countP fun posting => !posting.usage.success

def summary (tables : Tables) (query : UsageQuery) : UsageSummary :=
  summarize numeric average ((selected tables query).map LLMUsageRecord.posting)

def listUsage (order : List LLMUsageRecord → List LLMUsageRecord) (tables : Tables) (query : UsageQuery) (limit offset : Nat) :
    UsagePage where
  items := ((order (selected tables query)).drop offset).take limit
  total := (selected tables query).length
  limit := limit
  offset := offset

-- ORDER BY created_at DESC; rows of one time may come in any order.
structure NewestFirst (order : List LLMUsageRecord → List LLMUsageRecord) : Prop where
  same : ∀ rows, (order rows).Perm rows
  sorted : ∀ rows, (order rows).Pairwise fun one other => other.createdAt ≤ one.createdAt

structure ToolMetrics where
  callCount : Nat
  failedCallCount : Nat
deriving DecidableEq

structure TraceView where
  traceId : Uuid
  conversationId : Option Uuid
  assistantMessage : Option Message
  usageRecords : List LLMUsageRecord
  toolMetrics : ToolMetrics

def toolMetrics (message : Option Message) : ToolMetrics :=
  let executions := ((message.map Message.steps).getD []).flatMap AgentStep.toolExecutions
  ⟨executions.length, executions.countP fun execution => execution.error.getD "" ≠ ""⟩

def multipleRows : PyException :=
  ⟨"MultipleResultsFound", "Multiple rows were found when one or none was required"⟩

def scalarOneOrNone {α : Type} : List α → Except PyException (Option α)
  | [] => .ok none
  | [row] => .ok (some row)
  | _ :: _ :: _ => .error multipleRows

def traceUsage (tables : Tables) (workspaceId traceId : Uuid) : List LLMUsageRecord :=
  tables.usage.filter fun row => row.usage.traceId = some traceId ∧ row.workspaceId = workspaceId

def traceView (traceId : Uuid) (usageRecords : List LLMUsageRecord) (found : Option (Message × Conversation)) : TraceView where
  traceId := traceId
  conversationId := found.map fun row => row.2.id
  assistantMessage := found.map Prod.fst
  usageRecords := usageRecords
  toolMetrics := toolMetrics (found.map Prod.fst)

def getTrace (order : List LLMUsageRecord → List LLMUsageRecord) (tables : Tables) (workspaceId traceId : Uuid) :
    Except PyException (Option TraceView) :=
  match scalarOneOrNone ((traced tables.store traceId).filter fun row => row.2.workspaceId = workspaceId) with
  | .error failure => .error failure
  | .ok found =>
      let records := order (traceUsage tables workspaceId traceId)
      if found.isNone && records.isEmpty then .ok none else .ok (some (traceView traceId records found))

end Queries

section Totals

variable (numeric : FloatText → Nat) (average : Multiset FloatText → FloatText)

theorem summarize_perm (one other : List Posting) (same : one.Perm other) :
    summarize numeric average one = summarize numeric average other := by
  have latencies : (↑(one.map Posting.latencyMs) : Multiset FloatText) = other.map Posting.latencyMs :=
    Multiset.coe_eq_coe.mpr (same.map _)
  simp only [summarize, same.length_eq, (same.map _).sum_nat, same.countP_eq, latencies]

theorem usage_booked (labels : List LedgerLabel) (finish : Ledger) (run : runFrom Ledger.step opening labels = some finish) :
    (∀ query : UsageQuery, query.conversationId = none →
      summary numeric average finish.shared query = summarize numeric average ((postings labels).filter query.takes)) ∧
      ((postings labels).map Posting.requestId).Nodup ∧
      ∀ row ∈ finish.shared.usage, Located finish.shared.store row := by
  obtain ⟨sound, written⟩ := run_sound labels finish run
  refine ⟨fun query whole => ?_, ?_, fun row member => row_located finish sound row member⟩
  · have filters : usageFilters query = query.takes ∘ LLMUsageRecord.posting := by
      funext row
      simp [usageFilters, whole]
    rw [summary, selected, filters, ← List.filter_map, written]
  · rw [← written, List.map_map]
    exact sound.requests

end Totals

section Pages

variable {α : Type}

theorem sorted_once (column : α → Nat) (one other : List α) (same : one.Perm other) (distinct : (one.map column).Nodup)
    (oneSorted : one.Pairwise fun a b => column b ≤ column a) (otherSorted : other.Pairwise fun a b => column b ≤ column a) :
    one = other := by
  apply same.eq_of_pairwise ?_ oneSorted otherSorted
  intro a b first second forward backward
  exact List.inj_on_of_nodup_map distinct first (same.mem_iff.mpr second) (Nat.le_antisymm backward forward)

theorem pages_take (rows : List α) (limit pages : Nat) :
    ((List.range pages).flatMap fun page => (rows.drop (page * limit)).take limit) = rows.take (pages * limit) := by
  induction pages with
  | zero => simp
  | succ pages ih =>
      rw [List.range_succ, List.flatMap_append, ih, Nat.succ_mul, List.take_add]
      simp

end Pages

theorem pages_complete (numeric : FloatText → Nat) (average : Multiset FloatText → FloatText) (tables : Tables)
    (query : UsageQuery) (limit pages : Nat)
    (orders : Nat → List LLMUsageRecord → List LLMUsageRecord) (each : ∀ page, NewestFirst (orders page))
    (distinct : ((selected tables query).map LLMUsageRecord.createdAt).Nodup)
    (enough : (selected tables query).length ≤ pages * limit) :
    let listed := (List.range pages).flatMap fun page => (listUsage (orders page) tables query limit (page * limit)).items
    listed.Perm (selected tables query) ∧ listed.Pairwise (fun one other => other.createdAt < one.createdAt) ∧
      summary numeric average tables query = summarize numeric average (listed.map LLMUsageRecord.posting) ∧
      ∀ page, (listUsage (orders page) tables query limit (page * limit)).total =
        (summary numeric average tables query).callCount := by
  let rows := selected tables query
  have orderDistinct : ((orders 0 rows).map LLMUsageRecord.createdAt).Nodup :=
    (((each 0).same rows).map _).nodup_iff.mpr distinct
  have one : ∀ page, orders page rows = orders 0 rows := by
    intro page
    apply sorted_once LLMUsageRecord.createdAt _ _ (((each page).same rows).trans ((each 0).same rows).symm)
    · exact (((each page).same rows).map _).nodup_iff.mpr distinct
    · exact (each page).sorted rows
    · exact (each 0).sorted rows
  have listed : ((List.range pages).flatMap fun page => (listUsage (orders page) tables query limit (page * limit)).items) =
      orders 0 rows := by
    have same : ∀ page ∈ List.range pages, (listUsage (orders page) tables query limit (page * limit)).items =
        ((orders 0 rows).drop (page * limit)).take limit := by
      intro page _
      rw [listUsage, ← one page]
    rw [List.flatMap_congr same, pages_take]
    apply List.take_of_length_le
    rw [((each 0).same rows).length_eq]
    exact enough
  dsimp only
  rw [listed]
  refine ⟨(each 0).same rows, ?_, ?_, ?_⟩
  · have apart := List.pairwise_map.mp orderDistinct
    exact (((each 0).sorted rows).and apart).imp fun both => Nat.lt_of_le_of_ne both.1 (Ne.symm both.2)
  · exact summarize_perm numeric average _ _ (((each 0).same rows).map _).symm
  · intro page
    simp [listUsage, summary, summarize]

section Traces

def traces (store : Store) : List Uuid := store.rows.filterMap Message.traceId

-- A message is stored under a new trace, or under none.
def FreshTrace (ledger : Ledger) : LedgerLabel → Prop
  | .perform _ _ (.appendMessage _ new) => ∀ traceId ∈ new.traceId, traceId ∉ traces ledger.shared.store
  | _ => True

theorem filter_map_traces (messages : List Message) :
    messages.filterMap Message.traceId = (messages.map Message.traceId).filterMap id := by
  rw [List.filterMap_map]
  rfl

theorem perform_traces (store : Store) (workspaceId nextId : Uuid) (now : Nat) (call : StoreCall)
    (distinct : (traces store).Nodup)
    (fresh : ∀ conversationId new, call = .appendMessage conversationId new → ∀ traceId ∈ new.traceId, traceId ∉ traces store) :
    (traces (store.perform workspaceId nextId now call).1).Nodup := by
  cases call with
  | createConversation =>
      rw [Store.perform, Store.createConversation]
      split
      · exact distinct
      · rename_i created
        split at created <;> cases created
        rwa [traces, Store.rows, rows_opened]
  | appendMessage conversationId new =>
      rw [Store.perform]
      split
      · exact distinct
      · rename_i appended
        obtain ⟨conversation, _, _, rfl, added, _⟩ := append_message_ok _ _ _ _ _ _ _ _ appended
        rw [traces, (added.filterMap Message.traceId).nodup_iff, List.filterMap_cons]
        cases given : new.traceId with
        | none =>
            simp only [NewMessage.message, given]
            exact distinct
        | some traceId =>
            simp only [NewMessage.message, given]
            exact List.nodup_cons.mpr ⟨fresh conversationId new rfl traceId given, distinct⟩
  | completeAssistantMessage messageId completion =>
      rw [Store.perform]
      split
      · exact distinct
      · rename_i completed
        obtain ⟨changed, _⟩ := complete_ok _ _ _ _ _ _ _ completed
        rw [traces, Store.rows, filter_map_traces, changed,
          rows_map_keeps _ _ _ Message.traceId fun _ => complete_in_keeps _ _ _ _ fun _ => rfl, ← filter_map_traces]
        exact distinct
  | archiveConversation conversationId archived =>
      rw [Store.perform, Store.archiveConversation]
      split
      · exact distinct
      · have kept := rows_map_keeps (belongs workspaceId conversationId) (Conversation.archive archived now)
          store.conversations Message.traceId fun _ => rfl
        rw [traces, filter_map_traces]
        refine Eq.subst (motive := fun found => (found.filterMap id).Nodup) kept.symm ?_
        rw [← filter_map_traces]
        exact distinct
  | deleteConversation conversationId =>
      rw [Store.perform, Store.deleteConversation]
      split
      · exact distinct
      · exact ((rows_filter _ _).filterMap Message.traceId).nodup distinct
  | listConversations => exact distinct
  | getConversation conversationId => exact distinct
  | getHistory conversationId => exact distinct
  | getAssistantByRequestId conversationId requestId => exact distinct
  | getMessage messageId => exact distinct

theorem record_store (ledger next : Ledger) (label : PartyLabel RecordCall RecordEvent)
    (taken : Ledger.step ledger (.record label) = some next) : next.shared.store = ledger.shared.store := by
  rcases world_step_cases ledger next label taken with
    ⟨call, _, rfl⟩ | ⟨front, state, back, event, changed, after, _, _, acted, rfl⟩
  · rfl
  · rcases act_records ledger.shared changed (front ++ back) state after event acted with
      ⟨rfl, _⟩ | ⟨_, _, _, _, _, _, rfl, _⟩ <;> rfl

theorem run_traces (labels : List LedgerLabel) (finish : Ledger) (run : runFrom Ledger.step opening labels = some finish)
    (fresh : StepsMeet Ledger.step FreshTrace opening labels) : (traces finish.shared.store).Nodup := by
  refine run_invariant_meeting FreshTrace (fun ledger => (traces ledger.shared.store).Nodup) ?_ opening finish labels
    List.nodup_nil fresh run
  intro ledger label next distinct met taken
  cases label with
  | record label =>
      rw [record_store ledger next label taken]
      exact distinct
  | perform workspaceId now call =>
      cases taken
      refine perform_traces _ _ _ _ call distinct ?_
      rintro conversationId new rfl
      exact met

theorem traced_one (store : Store) (traceId : Uuid) (distinct : (traces store).Nodup) (conversation : Conversation)
    (message : Message) (present : conversation ∈ store.conversations) (held : message ∈ conversation.messages)
    (trace : message.traceId = some traceId) : traced store traceId = [(message, conversation)] := by
  have firsts : (traced store traceId).map Prod.fst = store.rows.filter fun message => message.traceId = some traceId := by
    simp only [traced, Store.rows, Chat.rows, List.map_flatMap, List.filter_flatMap, List.map_map]
    exact List.flatMap_congr fun other _ => List.map_id'' (fun _ => rfl) _
  have single : (store.rows.filter fun message => message.traceId = some traceId).length ≤ 1 := by
    have count := List.nodup_iff_count_le_one.mp distinct traceId
    rw [traces, List.count_filterMap, List.countP_eq_length_filter] at count
    rwa [List.filter_congr fun message _ => (beq_eq_decide (message.traceId) (some traceId)).symm]
  have member : (message, conversation) ∈ traced store traceId :=
    List.mem_flatMap.mpr
      ⟨conversation, present, List.mem_map.mpr ⟨message, List.mem_filter.mpr ⟨held, decide_eq_true trace⟩, rfl⟩⟩
  have short : (traced store traceId).length ≤ 1 := by
    rw [← List.length_map Prod.fst, firsts]
    exact single
  have long : 0 < (traced store traceId).length := List.length_pos_of_mem member
  obtain ⟨row, found⟩ := List.length_eq_one_iff.mp (Nat.le_antisymm short long)
  rw [found] at member ⊢
  rw [List.mem_singleton.mp member]

theorem trace_shown (labels : List LedgerLabel) (finish : Ledger) (run : runFrom Ledger.step opening labels = some finish)
    (fresh : StepsMeet Ledger.step FreshTrace opening labels) (order : List LLMUsageRecord → List LLMUsageRecord)
    (same : ∀ rows, (order rows).Perm rows) (row : LLMUsageRecord) (member : row ∈ finish.shared.usage) (traceId messageId : Uuid)
    (trace : row.usage.traceId = some traceId) (named : row.messageId = some messageId) :
    (∃ view message, getTrace order finish.shared row.workspaceId traceId = .ok (some view) ∧ row ∈ view.usageRecords ∧
        view.conversationId = row.conversationId ∧ view.assistantMessage = some message ∧ message.id = messageId) ∧
      ∀ workspaceId, workspaceId ≠ row.workspaceId → ∃ found, getTrace order finish.shared workspaceId traceId = .ok found ∧
        ∀ view ∈ found, view.assistantMessage = none ∧ row ∉ view.usageRecords := by
  obtain ⟨sound, _⟩ := run_sound labels finish run
  obtain ⟨conversation, present, whose, workspace, message, held, rfl, sameTrace⟩ :=
    (row_located finish sound row member).message messageId named
  have one := traced_one finish.shared.store traceId (run_traces labels finish run fresh) conversation message present held
    (sameTrace.trans trace)
  constructor
  · have inside : row ∈ order (traceUsage finish.shared row.workspaceId traceId) :=
      (same _).mem_iff.mpr (List.mem_filter.mpr ⟨member, by simp [trace]⟩)
    refine ⟨traceView traceId (order (traceUsage finish.shared row.workspaceId traceId)) (some (message, conversation)), message,
      ?_, inside, whose.symm, rfl, rfl⟩
    simp [getTrace, one, workspace, scalarOneOrNone]
  · intro workspaceId other
    have unseen : conversation.workspaceId ≠ workspaceId := fun same => other (same.symm.trans workspace)
    have outside : row ∉ order (traceUsage finish.shared workspaceId traceId) := by
      rw [(same _).mem_iff, traceUsage, List.mem_filter]
      rintro ⟨_, facts⟩
      exact other (of_decide_eq_true facts).2.symm
    have got : getTrace order finish.shared workspaceId traceId =
        .ok (if (order (traceUsage finish.shared workspaceId traceId)).isEmpty then none
          else some (traceView traceId (order (traceUsage finish.shared workspaceId traceId)) none)) := by
      simp only [getTrace, one, List.filter_cons, unseen, decide_false, Bool.false_eq_true, if_false, List.filter_nil,
        scalarOneOrNone, Option.isNone_none, Bool.true_and]
      split <;> rfl
    refine ⟨_, got, fun view shown => ?_⟩
    split at shown
    · cases shown
    · cases shown
      exact ⟨rfl, outside⟩

end Traces

def sampleUsage (traceId : Option Uuid) (inputTokens : Nat) : UsageRecord where
  traceId := traceId
  task := "agent"
  provider := "provider"
  model := "model"
  inputTokens := inputTokens
  outputTokens := 5
  estimatedCostUsd := ⟨"0.25", by decide⟩
  success := true
  errorType := none
  costValid := by decide

def halfSecond : FloatText := ⟨"500.0", by decide⟩

-- Two calls of a model, one for a message and one after its conversation is gone.
def sampleMonth : List LedgerLabel := [
  .perform 7 1 .createConversation,
  .perform 7 2 (.appendMessage 0 { role := .assistant, content := some "", traceId := some 42 }),
  .record (.call { requestId := "first", usage := sampleUsage (some 42) 10, latencyMs := halfSecond, workspaceId := some 7 }),
  .record (.act 0 (.proceed 0 3)),
  .record (.act 0 (.proceed 0 4)),
  .perform 7 5 (.deleteConversation 0),
  .record (.call { requestId := "second", usage := sampleUsage (some 42) 20, latencyMs := halfSecond, workspaceId := some 7 }),
  .record (.act 1 (.proceed 0 6)),
  .record (.act 1 (.proceed 0 7))]

-- How Numeric(18, 8) stores the sample's cost.
def sampleNumeric (_ : FloatText) : Nat := 25000000

def sampleAverage (_ : Multiset FloatText) : FloatText := halfSecond

theorem usage_booked_month :
    ∃ finish, runFrom Ledger.step opening sampleMonth = some finish ∧
      summary sampleNumeric sampleAverage finish.shared { workspaceId := 7 } =
        summarize sampleNumeric sampleAverage ((postings sampleMonth).filter (UsageQuery.takes { workspaceId := 7 })) ∧
      summary sampleNumeric sampleAverage finish.shared { workspaceId := 7 } = ⟨2, 30, 10, 40, 50000000, halfSecond, 0⟩ :=
  ⟨_, rfl, (usage_booked sampleNumeric sampleAverage sampleMonth _ rfl).1 { workspaceId := 7 } rfl, by decide⟩

def newestFirst (rows : List LLMUsageRecord) : List LLMUsageRecord :=
  rows.mergeSort fun one other => other.createdAt ≤ one.createdAt

theorem newest_first : NewestFirst newestFirst where
  same rows := List.mergeSort_perm rows _
  sorted rows := by
    have ordered := @List.pairwise_mergeSort _ (fun one other : LLMUsageRecord => decide (other.createdAt ≤ one.createdAt))
      (by intro a b c; simp only [decide_eq_true_eq]; omega) (by intro a b; simp only [Bool.or_eq_true, decide_eq_true_eq]; omega)
      rows
    exact ordered.imp of_decide_eq_true

theorem pages_complete_month :
    ∃ finish, runFrom Ledger.step opening sampleMonth = some finish ∧
      ((List.range 2).flatMap fun page => (listUsage newestFirst finish.shared { workspaceId := 7 } 1 (page * 1)).items).Perm
        (selected finish.shared { workspaceId := 7 }) :=
  ⟨_, rfl, (pages_complete sampleNumeric sampleAverage _ { workspaceId := 7 } 1 2 (fun _ => newestFirst) (fun _ => newest_first)
    (by decide) (by decide)).1⟩

theorem trace_shown_month :
    ∃ finish row, runFrom Ledger.step opening (sampleMonth.take 5) = some finish ∧ row ∈ finish.shared.usage ∧
      ∃ view message, getTrace newestFirst finish.shared row.workspaceId 42 = .ok (some view) ∧ row ∈ view.usageRecords ∧
        view.conversationId = row.conversationId ∧ view.assistantMessage = some message ∧ message.id = 1 := by
  refine ⟨_, _, rfl, List.mem_singleton_self _, ?_⟩
  have fresh : StepsMeet Ledger.step FreshTrace opening (sampleMonth.take 5) := by
    refine ⟨trivial, fun _ taken => ?_⟩
    cases taken
    refine ⟨fun _ _ => List.not_mem_nil, fun _ _ => ⟨trivial, fun _ _ => ⟨trivial, fun _ _ => ⟨trivial, fun _ _ => trivial⟩⟩⟩⟩
  exact (trace_shown (sampleMonth.take 5) _ rfl fresh newestFirst newest_first.same _ (List.mem_singleton_self _) 42 1 rfl rfl).1

end DataPilot.Observability
