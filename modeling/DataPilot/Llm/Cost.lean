import DataPilot.Base.Logged
import DataPilot.Chat.Models
import DataPilot.Llm.OpenAiCompat

set_option autoImplicit false

namespace DataPilot.Llm

open DataPilot.Base DataPilot.Agent DataPilot.Chat

-- Field(ge=0) of a float; nan is not above any number, and -0.0 is 0.
def nonNegative (value : FloatText) : Bool :=
  value.text ≠ "NaN" && !((Json.float value).truthy && value.text.toList.head? = some '-')

structure UsageRecord where
  traceId : Option Uuid
  task : String
  provider : String
  model : String
  inputTokens : Nat
  outputTokens : Nat
  estimatedCostUsd : FloatText
  success : Bool
  errorType : Option String
  costValid : nonNegative estimatedCostUsd = true

structure EmbeddingResult where
  model : String
  embeddings : List (List FloatText)
  usage : TokenUsage := {}

-- The prices are floats, so the estimate is taken as a function of the usage.
structure UsageTrackingProvider where
  providerName : String
  estimateCost : TokenUsage → FloatText

-- The arguments of a call that its record repeats.
structure CallContext where
  task : String := "default"
  model : Option String := none
  traceId : Option Uuid := none

variable (library : Library) (tracking : UsageTrackingProvider) (context : CallContext)

def UsageTrackingProvider.usageRecord (usage : TokenUsage) (success : Bool) (errorType : Option String) :
    Except PyException UsageRecord :=
  if costValid : nonNegative (tracking.estimateCost usage) = true then
    .ok {
      traceId := context.traceId
      task := context.task
      provider := tracking.providerName
      model := orElseText (context.model.getD "") "default"
      inputTokens := usage.inputTokens
      outputTokens := usage.outputTokens
      estimatedCostUsd := tracking.estimateCost usage
      success
      errorType
      costValid }
  else .error (validationError library "UsageRecord" [.float (tracking.estimateCost usage)])

-- UsageTrackingProvider._record, by how the recorder's call ends. Only that
-- call is in the try statement.
def UsageTrackingProvider.record (recorder : Except Thrown Unit) (usage : TokenUsage) (success : Bool)
    (errorType : Option String) :
    Logged UsageRecord Unit :=
  match tracking.usageRecord library context usage success errorType with
  | .error failure => .raising (.exception failure)
  | .ok written =>
      match recorder with
      | .error (.exception _) => ⟨[written], .ok ()⟩
      | result => ⟨[written], result⟩

-- The calls that return one result: by how the provider's call ends.
def UsageTrackingProvider.trackedCall {α : Type} (reported : α → TokenUsage) (provider : Except Thrown α)
    (recorder : Except Thrown Unit) :
    Logged UsageRecord α :=
  let answered := (Logged.awaiting provider).onException fun failure =>
    tracking.record library context recorder {} false (some failure.typeName)
  answered.andThen fun response =>
    (tracking.record library context recorder (reported response) true none).andThen fun _ => .returning response

def UsageTrackingProvider.chat (provider : Except Thrown LLMResponse) (recorder : Except Thrown Unit) :
    Logged UsageRecord LLMResponse :=
  tracking.trackedCall library context LLMResponse.usage provider recorder

def UsageTrackingProvider.embed (provider : Except Thrown EmbeddingResult) (recorder : Except Thrown Unit) :
    Logged UsageRecord EmbeddingResult :=
  tracking.trackedCall library context EmbeddingResult.usage provider recorder

-- What the provider yields before the loop over it ends, and how it ends: by
-- itself, by an exception, by a cancellation, or by a close at a yield.
structure ProviderStream where
  events : List StreamEvent
  ending : Except Thrown Unit
  closedAtYield : ending = .error (.interrupt .closed) → events ≠ []

def streamUsage : TokenUsage → List StreamEvent → TokenUsage
  | usage, [] => usage
  | usage, event :: rest => streamUsage (event.reported.getD usage) rest

def errorTypeOf {α : Type} : Except Thrown α → Option String
  | .ok _ => none
  | .error thrown => some thrown.typeName

-- The events pass on as they come.
def UsageTrackingProvider.chatStream (stream : ProviderStream) (recorder : Except Thrown Unit) : Logged UsageRecord Unit :=
  (Logged.awaiting stream.ending).ensuring fun ending =>
    tracking.record library context recorder (streamUsage {} stream.events) (errorTypeOf ending).isNone (errorTypeOf ending)

-- One record was written, it tells how the call ended and what was last reported,
-- and an exception of the recorder changes nothing.
structure Accounted {α : Type} (usage : TokenUsage) (call : Except Thrown Unit → Logged UsageRecord α)
    (recorder : Except Thrown Unit) : Prop where
  once : ∃ written, (call recorder).log = [written] ∧
    (written.success = true ↔ ∃ value, (call recorder).result = .ok value) ∧
    written.inputTokens = usage.inputTokens ∧ written.outputTokens = usage.outputTokens
  harmless : ∀ failure, recorder = .error (.exception failure) → (call recorder).result = (call (.ok ())).result

def reportedBy {α : Type} (reported : α → TokenUsage) : Except Thrown α → TokenUsage
  | .ok response => reported response
  | .error _ => {}

-- The recorder's call as _record passes it on.
def forgiven : Except Thrown Unit → Except Thrown Unit
  | .error (.exception _) => .ok ()
  | result => result

theorem forgiven_passes (recorder : Except Thrown Unit) (calm : ¬ Interrupted recorder) : forgiven recorder = .ok () := by
  cases recorder with
  | ok => rfl
  | error thrown =>
      cases thrown with
      | exception failure => rfl
      | interrupt cause => exact absurd ⟨cause, rfl⟩ calm

structure Tells (written : UsageRecord) (success : Bool) (usage : TokenUsage) : Prop where
  success : written.success = success
  input : written.inputTokens = usage.inputTokens
  output : written.outputTokens = usage.outputTokens

theorem record_written (recorder : Except Thrown Unit) (usage : TokenUsage) (success : Bool) (errorType : Option String)
    (valid : nonNegative (tracking.estimateCost usage) = true) :
    ∃ written, tracking.record library context recorder usage success errorType = ⟨[written], forgiven recorder⟩ ∧
      Tells written success usage := by
  unfold UsageTrackingProvider.record UsageTrackingProvider.usageRecord
  rw [dif_pos valid]
  cases recorder with
  | ok => exact ⟨_, rfl, rfl, rfl, rfl⟩
  | error thrown => cases thrown <;> exact ⟨_, rfl, rfl, rfl, rfl⟩

theorem record_refused (recorder : Except Thrown Unit) (usage : TokenUsage) (success : Bool) (errorType : Option String)
    (invalid : nonNegative (tracking.estimateCost usage) ≠ true) :
    (tracking.record library context recorder usage success errorType).log = [] := by
  unfold UsageTrackingProvider.record UsageTrackingProvider.usageRecord
  rw [dif_neg invalid]
  rfl

theorem unwritten_not_accounted {α : Type} (usage : TokenUsage) (call : Except Thrown Unit → Logged UsageRecord α)
    (recorder : Except Thrown Unit) (unwritten : (call recorder).log = []) : ¬ Accounted usage call recorder := by
  intro accounted
  obtain ⟨written, log, _⟩ := accounted.once
  rw [unwritten] at log
  cases log

theorem written_accounted_iff {α : Type} (usage : TokenUsage) (call : Except Thrown Unit → Logged UsageRecord α)
    (ending : Except Thrown α) (success : Bool) (tells : success = true ↔ ∃ value, ending = .ok value)
    (course : ∀ recorder, ∃ written, call recorder = ⟨[written], (forgiven recorder).bind fun _ => ending⟩ ∧
      Tells written success usage) (recorder : Except Thrown Unit) :
    Accounted usage call recorder ↔ ((∃ value, ending = .ok value) → ¬ Interrupted recorder) := by
  obtain ⟨written, wrote, told⟩ := course recorder
  constructor
  · rintro accounted ended ⟨cause, rfl⟩
    obtain ⟨other, log, returned, _⟩ := accounted.once
    rw [wrote] at log returned
    obtain rfl := (List.cons.inj log).1
    obtain ⟨value, result⟩ := returned.mp (told.success.trans (tells.mpr ended))
    cases result
  · intro calm
    have result : written.success = true ↔ ∃ value, (call recorder).result = .ok value := by
      rw [told.success, tells, wrote]
      constructor
      · rintro ⟨value, rfl⟩
        exact ⟨value, by rw [forgiven_passes recorder (calm ⟨value, rfl⟩)]; rfl⟩
      · rintro ⟨value, returned⟩
        cases passed : forgiven recorder with
        | ok =>
            rw [passed] at returned
            exact ⟨value, returned⟩
        | error thrown =>
            rw [passed] at returned
            cases returned
    constructor
    · exact ⟨written, by rw [wrote], result, told.input, told.output⟩
    · rintro failure rfl
      obtain ⟨_, untroubled, _⟩ := course (.ok ())
      rw [wrote, untroubled]
      rfl

section Calls

variable {α : Type} (reported : α → TokenUsage)

theorem answered_course (response : α) (valid : nonNegative (tracking.estimateCost (reported response)) = true)
    (recorder : Except Thrown Unit) :
    ∃ written, tracking.trackedCall library context reported (.ok response) recorder =
        ⟨[written], (forgiven recorder).bind fun _ => .ok response⟩ ∧ Tells written true (reported response) := by
  obtain ⟨written, wrote, told⟩ := record_written library tracking context recorder (reported response) true none valid
  refine ⟨written, ?_, told⟩
  simp only [UsageTrackingProvider.trackedCall, Logged.awaiting, Logged.onException, Logged.andThen, wrote]
  cases forgiven recorder <;> rfl

theorem failed_course (failure : PyException) (valid : nonNegative (tracking.estimateCost {}) = true)
    (recorder : Except Thrown Unit) :
    ∃ written, tracking.trackedCall library context reported (.error (.exception failure)) recorder =
        ⟨[written], (forgiven recorder).bind fun _ => .error (.exception failure)⟩ ∧ Tells written false {} := by
  obtain ⟨written, wrote, told⟩ := record_written library tracking context recorder {} false (some failure.typeName) valid
  refine ⟨written, ?_, told⟩
  simp only [UsageTrackingProvider.trackedCall, Logged.awaiting, Logged.onException, Logged.andThen, wrote]
  cases forgiven recorder <;> rfl

theorem tracked_call_unwritten (provider : Except Thrown α) (recorder : Except Thrown Unit)
    (lost : Interrupted provider ∨ nonNegative (tracking.estimateCost (reportedBy reported provider)) ≠ true) :
    (tracking.trackedCall library context reported provider recorder).log = [] := by
  cases provider with
  | ok response =>
      rcases lost with ⟨cause, interrupted⟩ | invalid
      · cases interrupted
      · have refused := record_refused library tracking context recorder (reported response) true none invalid
        simp only [UsageTrackingProvider.trackedCall, Logged.awaiting, Logged.onException, Logged.andThen]
        split <;> simp [refused, Logged.returning]
  | error thrown =>
      cases thrown with
      | interrupt cause => rfl
      | exception failure =>
          rcases lost with ⟨cause, interrupted⟩ | invalid
          · cases interrupted
          · have refused := record_refused library tracking context recorder {} false (some failure.typeName) invalid
            simp only [UsageTrackingProvider.trackedCall, Logged.awaiting, Logged.onException, Logged.andThen, refused]
            split
            · rfl
            · rename_i returned
              generalize (tracking.record library context recorder {} false (some failure.typeName)).result = result at returned
              cases result <;> cases returned

theorem tracked_call_accounted_iff (provider : Except Thrown α) (recorder : Except Thrown Unit) :
    Accounted (reportedBy reported provider) (tracking.trackedCall library context reported provider) recorder ↔
      ¬ Interrupted provider ∧ nonNegative (tracking.estimateCost (reportedBy reported provider)) = true ∧
        ((∃ response, provider = .ok response) → ¬ Interrupted recorder) := by
  by_cases lost : Interrupted provider ∨ nonNegative (tracking.estimateCost (reportedBy reported provider)) ≠ true
  · have unwritten := tracked_call_unwritten library tracking context reported provider recorder lost
    constructor
    · intro accounted
      exact absurd accounted (unwritten_not_accounted _ _ _ unwritten)
    · rintro ⟨calm, valid, _⟩
      rcases lost with interrupted | invalid
      · exact absurd interrupted calm
      · exact absurd valid invalid
  · obtain ⟨calm, valid⟩ := not_or.mp lost
    rw [not_not] at valid
    have course : Accounted (reportedBy reported provider) (tracking.trackedCall library context reported provider) recorder ↔
        ((∃ response, provider = .ok response) → ¬ Interrupted recorder) := by
      cases provider with
      | ok response =>
          have tells : true = true ↔ ∃ value, Except.ok (ε := Thrown) response = .ok value := ⟨fun _ => ⟨_, rfl⟩, fun _ => rfl⟩
          exact written_accounted_iff _ _ _ true tells (answered_course library tracking context reported response valid) _
      | error thrown =>
          cases thrown with
          | interrupt cause => exact absurd ⟨cause, rfl⟩ calm
          | exception failure =>
              have tells : false = true ↔ ∃ value : α, Except.error (Thrown.exception failure) = .ok value := by simp
              exact written_accounted_iff _ _ _ false tells (failed_course library tracking context reported failure valid) _
    rw [course]
    exact ⟨fun returned => ⟨calm, valid, returned⟩, fun all => all.2.2⟩

end Calls

theorem stream_usage_last (usage : TokenUsage) (events : List StreamEvent) :
    streamUsage usage events = (events.filterMap StreamEvent.reported).getLastD usage := by
  induction events generalizing usage with
  | nil => rfl
  | cons event rest ih =>
      rw [streamUsage, ih, List.filterMap_cons]
      cases event.reported with
      | none => rfl
      | some spent => rw [List.getLastD_cons]; rfl

theorem chat_stream_accounted_iff (stream : ProviderStream) (recorder : Except Thrown Unit) :
    Accounted (lastUsage stream.events) (tracking.chatStream library context stream) recorder ↔
      nonNegative (tracking.estimateCost (lastUsage stream.events)) = true ∧
        ((∃ value, stream.ending = .ok value) → ¬ Interrupted recorder) := by
  have last : streamUsage {} stream.events = lastUsage stream.events := stream_usage_last {} stream.events
  by_cases valid : nonNegative (tracking.estimateCost (lastUsage stream.events)) = true
  · have tells : (errorTypeOf stream.ending).isNone = true ↔ ∃ value, stream.ending = .ok value := by
      cases stream.ending <;> simp [errorTypeOf]
    have course : ∀ recorder, ∃ written, tracking.chatStream library context stream recorder =
        ⟨[written], (forgiven recorder).bind fun _ => stream.ending⟩ ∧
          Tells written (errorTypeOf stream.ending).isNone (lastUsage stream.events) := by
      intro recorder
      obtain ⟨written, wrote, told⟩ := record_written library tracking context recorder (lastUsage stream.events)
        (errorTypeOf stream.ending).isNone (errorTypeOf stream.ending) valid
      refine ⟨written, ?_, told⟩
      simp only [UsageTrackingProvider.chatStream, Logged.awaiting, Logged.ensuring, last, wrote]
      rfl
    rw [written_accounted_iff _ _ stream.ending _ tells course recorder]
    exact ⟨fun calm => ⟨valid, calm⟩, fun both => both.2⟩
  · have unwritten : (tracking.chatStream library context stream recorder).log = [] := by
      have refused := record_refused library tracking context recorder (lastUsage stream.events)
        (errorTypeOf stream.ending).isNone (errorTypeOf stream.ending) valid
      rw [UsageTrackingProvider.chatStream, ensuring_log, last]
      exact refused
    exact ⟨fun accounted => absurd accounted (unwritten_not_accounted _ _ _ unwritten), fun both => absurd both.1 valid⟩

theorem model_calls_accounted_iff (recorder : Except Thrown Unit) :
    (∀ provider : Except Thrown LLMResponse,
      Accounted (reportedBy LLMResponse.usage provider) (tracking.chat library context provider) recorder ↔
        ¬ Interrupted provider ∧ nonNegative (tracking.estimateCost (reportedBy LLMResponse.usage provider)) = true ∧
          ((∃ response, provider = .ok response) → ¬ Interrupted recorder)) ∧
    (∀ provider : Except Thrown EmbeddingResult,
      Accounted (reportedBy EmbeddingResult.usage provider) (tracking.embed library context provider) recorder ↔
        ¬ Interrupted provider ∧ nonNegative (tracking.estimateCost (reportedBy EmbeddingResult.usage provider)) = true ∧
          ((∃ response, provider = .ok response) → ¬ Interrupted recorder)) ∧
    ∀ stream : ProviderStream,
      Accounted (lastUsage stream.events) (tracking.chatStream library context stream) recorder ↔
        nonNegative (tracking.estimateCost (lastUsage stream.events)) = true ∧
          ((∃ value, stream.ending = .ok value) → ¬ Interrupted recorder) :=
  ⟨fun provider => tracked_call_accounted_iff library tracking context LLMResponse.usage provider recorder,
    fun provider => tracked_call_accounted_iff library tracking context EmbeddingResult.usage provider recorder,
    fun stream => chat_stream_accounted_iff library tracking context stream recorder⟩

-- A call that its user aborts while the provider answers leaves no record.
theorem cancelled_chat_unrecorded :
    ¬ ∀ (library : Library) (tracking : UsageTrackingProvider) (context : CallContext) (provider : Except Thrown LLMResponse)
      (recorder : Except Thrown Unit),
      Accounted (reportedBy LLMResponse.usage provider) (tracking.chat library context provider) recorder := by
  intro every
  have accounted := every sampleLibrary ⟨"openai_compatible", fun _ => ⟨"0.0", by decide⟩⟩ {} (.error (.interrupt .cancelled))
    (.ok ())
  exact unwritten_not_accounted _ _ _ rfl accounted

end DataPilot.Llm
