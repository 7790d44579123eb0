import DataPilot.Chat.MessageExchange

set_option autoImplicit false

namespace DataPilot.Chat

open DataPilot.Base DataPilot.Agent

def BrokerEvent.isDone : BrokerEvent → Bool
  | .done _ _ _ => true
  | _ => false

def Mirrors (state : WorkerState) (events : List BrokerEvent) : Prop :=
  foldText "" (events.filterMap brokerChange) = state.accumulatedText ∧ events.filterMap brokerStep = state.steps

def Unsettled (row : Message) : Prop := row.status = .streaming ∧ row.content.getD "" = "" ∧ row.steps = []

def Kept (state : WorkerState) (row : Message) : Prop :=
  row.content.getD "" = state.accumulatedText ∧ row.steps = state.steps

-- A worker that can still end in done, with what it has published and its row.
structure OnCourse (state : WorkerState) (events : List BrokerEvent) (row : Message) : Prop where
  status : state.messageStatus = .completed
  unpublished : state.terminalPublished = false
  point : match state.point with
    | .publishEvent event =>
        Underway events ∧ (BrokerEvent.runtime event).isTerminal = false ∧ Mirrors state (events ++ [.runtime event]) ∧
          Unsettled row
    | .publishTerminal _ => Underway events ∧ Mirrors state events ∧ Kept state row
    | .finished => Concluded events ∧ Mirrors state events ∧ Kept state row
    | .publishError _ => False
    | .publishAborted => False
    | .publishFailure _ => False
    | _ => Underway events ∧ Mirrors state events ∧ Unsettled row

def WorkerState.pending (state : WorkerState) : Option BrokerEvent :=
  match state.point with
  | .publishStart =>
      some (.start state.arguments.conversationId state.arguments.assistantMessageId state.arguments.requestId
        state.arguments.traceId)
  | .publishEvent event => some (.runtime event)
  | .publishError event => some event
  | .publishAborted => some (abortedEvent state.arguments)
  | .publishFailure failure => some (failureEvent state.arguments failure)
  | .publishTerminal persisted => some (terminalEvent state persisted)
  | _ => none

def Failed (state : WorkerState) : Prop :=
  state.point = .finished ∨ state.messageStatus ≠ .completed ∧ ∀ event, state.pending = some event → event.isDone = false

def OffCourse (state : WorkerState) (events : List BrokerEvent) : Prop :=
  (∀ event ∈ events, event.isDone = false) ∧ Failed state

theorem underway_undone (events : List BrokerEvent) (underway : Underway events) : ∀ event ∈ events, event.isDone = false := by
  intro event member
  have plain := underway event member
  cases event with
  | done => simp [BrokerEvent.isTerminal, BrokerEvent.name, terminalNames] at plain
  | _ => rfl

theorem undone_snoc (events : List BrokerEvent) (event : BrokerEvent) (undone : ∀ event ∈ events, event.isDone = false)
    (other : event.isDone = false) : ∀ one ∈ events ++ [event], one.isDone = false := by
  intro one member
  rcases List.mem_append.mp member with earlier | last
  · exact undone one earlier
  · obtain rfl := List.mem_singleton.mp last
    exact other

def written (row : Message) (effects : List Effect) : Message := effects.foldl Effect.write row

theorem course_quiet (next : WorkerState) (effects : List Effect) (events : List BrokerEvent) (row after : Message)
    (silent : published effects = []) (writes : written row effects = after)
    (goes : OnCourse next events after ∨ OffCourse next events) :
    OnCourse next (events ++ published effects) (written row effects) ∨ OffCourse next (events ++ published effects) := by
  rw [silent, writes, List.append_nil]
  exact goes

theorem mirrors_snoc (state : WorkerState) (events : List BrokerEvent) (event : BrokerEvent) (mirrors : Mirrors state events)
    (unread : brokerChange event = none) (stepless : brokerStep event = none) : Mirrors state (events ++ [event]) := by
  unfold Mirrors at mirrors ⊢
  simpa [unread, stepless] using mirrors

theorem mirrors_event (state next : WorkerState) (events : List BrokerEvent) (event : RuntimeEvent)
    (mirrors : Mirrors state events)
    (text : next.accumulatedText = foldText state.accumulatedText (brokerChange (.runtime event)).toList)
    (steps : next.steps = state.steps ++ (brokerStep (.runtime event)).toList) :
    Mirrors next (events ++ [.runtime event]) := by
  obtain ⟨read, collected⟩ := mirrors
  constructor
  · rw [List.filterMap_append, fold_text_append, read, text]
    cases change : brokerChange (.runtime event) <;> simp [change]
  · rw [List.filterMap_append, collected, steps]
    cases step : brokerStep (.runtime event) <;> simp [step]

theorem failed_fail (state : WorkerState) (failure : PyException) : Failed (state.fail failure) := by
  refine .inr ⟨by simp [WorkerState.fail], fun event pending => ?_⟩
  cases pending
  rfl

theorem failed_abort (state : WorkerState) : Failed state.abort := by
  refine .inr ⟨by simp [WorkerState.abort], fun event pending => ?_⟩
  cases pending
  rfl

theorem failed_error (state : WorkerState) (text : String) (event : BrokerEvent) (other : event.isDone = false) :
    Failed { state with messageStatus := .error, accumulatedText := text, point := .publishError event } := by
  refine .inr ⟨by simp, fun pending same => ?_⟩
  cases same
  exact other

theorem receive_course (state : WorkerState) (event : RuntimeEvent) (events : List BrokerEvent) (row : Message)
    (here : state.point = .nextEvent) (course : OnCourse state events row) :
    OnCourse (state.receive event) events row ∨ OffCourse (state.receive event) events := by
  obtain ⟨status, unpublished, point⟩ := course
  rw [here] at point
  obtain ⟨underway, mirrors, unsettled⟩ := point
  have waits : OnCourse state events row := ⟨status, unpublished, by rw [here]; exact ⟨underway, mirrors, unsettled⟩⟩
  have stops := underway_undone events underway
  unfold WorkerState.receive
  cases type : event.type with
  | step =>
      cases carried : event.step with
      | none => exact .inl waits
      | some step =>
          refine .inl ⟨status, unpublished, underway, ?_, mirrors_event state _ events event mirrors ?_ ?_, unsettled⟩
          · simp [BrokerEvent.isTerminal, BrokerEvent.name, type, RuntimeEventType.value, terminalNames]
          · simp [brokerChange, type, foldText]
          · simp [brokerStep, RuntimeEvent.carriedStep, type, carried]
  | text =>
      by_cases empty : event.text.getD "" = ""
      · simp only [empty, if_true]
        exact .inl waits
      · simp only [empty, if_false]
        refine .inl ⟨status, unpublished, underway, ?_, mirrors_event state _ events event mirrors ?_ ?_, unsettled⟩
        · simp [BrokerEvent.isTerminal, BrokerEvent.name, type, RuntimeEventType.value, terminalNames]
        · simp [brokerChange, type, foldText, TextChange.apply]
        · simp [brokerStep, RuntimeEvent.carriedStep, type]
  | textReset =>
      refine .inl ⟨status, unpublished, underway, ?_, mirrors_event state _ events event mirrors ?_ ?_, unsettled⟩
      · simp [BrokerEvent.isTerminal, BrokerEvent.name, type, RuntimeEventType.value, terminalNames]
      · simp [brokerChange, type, foldText, TextChange.apply]
      · simp [brokerStep, RuntimeEvent.carriedStep, type]
  | error => exact .inr ⟨stops, failed_error state _ _ rfl⟩
  | done =>
      by_cases completed : doneStatus event = "completed"
      · simp only [completed, if_true]
        exact .inl ⟨status, unpublished, underway, mirrors, unsettled⟩
      · simp only [completed, if_false]
        exact .inr ⟨stops, failed_error state _ _ rfl⟩

theorem persist_course (state : WorkerState) (events : List BrokerEvent) (row : Message) (done : Bool)
    (status : state.messageStatus = .completed) (unpublished : state.terminalPublished = false) (underway : Underway events)
    (mirrors : Mirrors state events) (kept : Kept state row) : OnCourse (state.persisted done) events row := by
  have next : state.persisted done = state.at (.publishTerminal done) := by
    rw [WorkerState.persisted, unpublished]
    rfl
  rw [next]
  exact ⟨status, unpublished, underway, mirrors, kept⟩

theorem off_course_publishing (next : WorkerState) (events : List BrokerEvent) (performed : Bool) (event : BrokerEvent)
    (underway : Underway events) (other : event.isDone = false)
    (strays : Failed next) :
    OffCourse next (events ++ published (publishing performed event)) := by
  refine ⟨?_, strays⟩
  cases performed with
  | false => simpa [publishing, published] using underway_undone events underway
  | true => exact undone_snoc events event (underway_undone events underway) other

theorem written_publishing (row : Message) (performed : Bool) (event : BrokerEvent) :
    written row (publishing performed event) = row := by
  cases performed <;> rfl

theorem terminal_event_done (state : WorkerState) (persisted : Bool) (status : state.messageStatus = .completed) :
    terminalEvent state persisted =
      .done state.arguments.conversationId state.arguments.assistantMessageId persisted := by
  rw [terminalEvent, if_pos status]

theorem concluded_course (state : WorkerState) (events : List BrokerEvent) (row : Message) (persisted : Bool)
    (status : state.messageStatus = .completed) (unpublished : state.terminalPublished = false) (underway : Underway events)
    (mirrors : Mirrors state events) (kept : Kept state row) :
    OnCourse (state.at .finished) (events ++ [terminalEvent state persisted]) row := by
  refine ⟨status, unpublished, concluded_snoc events _ underway (terminal_event_terminal state persisted), ?_, kept⟩
  rw [terminal_event_done state persisted status]
  exact mirrors_snoc state events _ mirrors rfl rfl

theorem course_step (state next : WorkerState) (input : WorkerInput) (effects : List Effect) (events : List BrokerEvent)
    (row : Message) (course : OnCourse state events row)
    (kept : ∀ failure, input = .fails failure false → state.point = .persist →
      state.accumulatedText = "" ∧ state.steps = [])
    (taken : workerStep state input = some (next, effects)) :
    OnCourse next (events ++ published effects) (written row effects) ∨ OffCourse next (events ++ published effects) := by
  have whole := course
  obtain ⟨arguments, point, text, steps, status, terminal⟩ := state
  obtain ⟨status, unpublished, course⟩ := course
  cases point with
  | unstarted =>
      cases input with
      | begin =>
          cases taken
          exact course_quiet _ _ events row _ rfl rfl (.inl ⟨status, unpublished, course⟩)
      | cancelled performed =>
          cases taken
          exact course_quiet _ _ events row _ rfl rfl (.inr ⟨underway_undone events course.1, .inl rfl⟩)
      | _ => cases taken
  | publishStart =>
      obtain ⟨underway, mirrors, unsettled⟩ := course
      cases input with
      | completes =>
          cases taken
          exact .inl ⟨status, unpublished, underway_snoc events _ underway rfl, mirrors_snoc _ events _ mirrors rfl rfl,
            unsettled⟩
      | fails failure performed =>
          cases taken
          exact .inr (off_course_publishing _ events performed _ underway rfl (.inl rfl))
      | cancelled performed =>
          cases taken
          exact .inr (off_course_publishing _ events performed _ underway rfl (.inl rfl))
      | _ => cases taken
  | nextEvent =>
      cases input with
      | event event =>
          cases taken
          exact course_quiet _ _ events row _ rfl rfl (receive_course _ event events row rfl whole)
      | ended =>
          cases taken
          exact course_quiet _ _ events row _ rfl rfl (.inl ⟨status, unpublished, course⟩)
      | raised failure =>
          cases taken
          exact course_quiet _ _ events row _ rfl rfl
            (.inr ⟨underway_undone events course.1, failed_fail _ _⟩)
      | cancelled performed =>
          cases taken
          exact course_quiet _ _ events row _ rfl rfl
            (.inr ⟨underway_undone events course.1, failed_abort _⟩)
      | _ => cases taken
  | publishEvent event =>
      obtain ⟨underway, plain, mirrors, unsettled⟩ := course
      cases input with
      | completes =>
          cases taken
          exact .inl ⟨status, unpublished, underway_snoc events _ underway plain, mirrors, unsettled⟩
      | fails failure performed =>
          cases taken
          exact .inr (off_course_publishing _ events performed _ underway rfl (failed_fail _ _))
      | cancelled performed =>
          cases taken
          exact .inr (off_course_publishing _ events performed _ underway rfl (failed_abort _))
      | _ => cases taken
  | publishError event => exact course.elim
  | publishAborted => exact course.elim
  | publishFailure failure => exact course.elim
  | persist =>
      obtain ⟨underway, mirrors, settling, content, empty⟩ := course
      cases input with
      | completes =>
          cases taken
          exact course_quiet _ _ events row _ rfl rfl
            (.inl (persist_course _ events _ true status unpublished underway mirrors ⟨rfl, rfl⟩))
      | fails failure performed =>
          cases performed with
          | true =>
              cases taken
              exact course_quiet _ _ events row _ rfl rfl
                (.inl (persist_course _ events _ false status unpublished underway mirrors ⟨rfl, rfl⟩))
          | false =>
              cases taken
              obtain ⟨textless, stepless⟩ := kept failure rfl rfl
              exact course_quiet _ _ events row _ rfl rfl (.inl (persist_course _ events row false status unpublished underway
                mirrors ⟨content.trans textless.symm, empty.trans stepless.symm⟩))
      | cancelled performed =>
          cases performed <;> cases taken <;>
            exact course_quiet _ _ events row _ rfl rfl (.inr ⟨underway_undone events underway, .inl rfl⟩)
      | _ => cases taken
  | publishTerminal persisted =>
      obtain ⟨underway, mirrors, holds⟩ := course
      have concluded := concluded_course _ events row persisted status unpublished underway mirrors holds
      have stops := underway_undone events underway
      cases input with
      | completes =>
          cases taken
          exact .inl concluded
      | fails failure performed =>
          cases performed with
          | true =>
              cases taken
              exact .inl concluded
          | false =>
              cases taken
              exact course_quiet _ _ events row _ rfl rfl (.inr ⟨stops, .inl rfl⟩)
      | cancelled performed =>
          cases performed with
          | true =>
              cases taken
              exact .inl concluded
          | false =>
              cases taken
              exact course_quiet _ _ events row _ rfl rfl (.inr ⟨stops, .inl rfl⟩)
      | _ => cases taken
  | finished => cases input <;> cases taken

theorem publishing_pending (performed : Bool) (event : BrokerEvent) :
    ∀ other ∈ published (publishing performed event), some event = some other := by
  intro other member
  cases performed with
  | false => cases member
  | true => rw [List.mem_singleton.mp member]

theorem published_pending (state next : WorkerState) (input : WorkerInput) (effects : List Effect)
    (taken : workerStep state input = some (next, effects)) : ∀ event ∈ published effects, state.pending = some event := by
  obtain ⟨arguments, point, text, steps, status, out⟩ := state
  cases point with
  | unstarted => cases input <;> cases taken <;> exact fun _ member => (by cases member)
  | nextEvent => cases input <;> cases taken <;> exact fun _ member => (by cases member)
  | finished => cases input <;> cases taken
  | persist =>
      cases input with
      | completes => cases taken; exact fun _ member => (by cases member)
      | fails failure performed => cases performed <;> cases taken <;> exact fun _ member => (by cases member)
      | cancelled performed => cases performed <;> cases taken <;> exact fun _ member => (by cases member)
      | _ => cases taken
  | _ =>
      cases input with
      | completes => cases taken; exact publishing_pending true _
      | fails failure performed => cases taken; exact publishing_pending performed _
      | cancelled performed => cases taken; exact publishing_pending performed _
      | _ => cases taken

theorem failed_persisted (state : WorkerState) (done : Bool) (failed : state.messageStatus ≠ .completed) :
    Failed (state.persisted done) := by
  unfold WorkerState.persisted
  split
  · exact .inl rfl
  · refine .inr ⟨failed, fun event pending => ?_⟩
    have error : terminalEvent (state.at (.publishTerminal done)) done =
        .error state.arguments.assistantMessageId "Agent task ended without a terminal event." none (some done) :=
      if_neg failed
    obtain rfl := Option.some.inj (pending.symm.trans (congrArg some error))
    rfl

theorem failed_received (state : WorkerState) (event : RuntimeEvent) (here : state.point = .nextEvent)
    (status : state.messageStatus ≠ .completed) : Failed (state.receive event) := by
  have waits : Failed state := .inr ⟨status, fun other pending => by simp [WorkerState.pending, here] at pending⟩
  have publishes : ∀ next : WorkerState, next.messageStatus = state.messageStatus → next.point = .publishEvent event →
      Failed next := by
    refine fun next same there => .inr ⟨same ▸ status, fun other pending => ?_⟩
    rw [WorkerState.pending, there] at pending
    cases pending
    rfl
  unfold WorkerState.receive
  split
  · split
    · exact publishes _ rfl rfl
    · exact waits
  · split
    · exact waits
    · exact publishes _ rfl rfl
  · exact publishes _ rfl rfl
  · exact failed_error state _ _ rfl
  · split
    · exact .inr ⟨status, fun other pending => (by cases pending)⟩
    · exact failed_error state _ _ rfl

theorem failed_step (state next : WorkerState) (input : WorkerInput) (effects : List Effect)
    (status : state.messageStatus ≠ .completed) (taken : workerStep state input = some (next, effects)) : Failed next := by
  have idle : ∀ other : WorkerState, other.messageStatus = state.messageStatus → other.pending = none → Failed other :=
    fun other same none => .inr ⟨same ▸ status, fun event pending => by simp [none] at pending⟩
  obtain ⟨arguments, point, text, steps, reached, out⟩ := state
  cases point with
  | unstarted =>
      cases input with
      | begin =>
          cases taken
          refine .inr ⟨status, fun event pending => ?_⟩
          cases pending
          rfl
      | cancelled performed => cases taken; exact .inl rfl
      | _ => cases taken
  | publishStart =>
      cases input with
      | completes => cases taken; exact idle _ rfl rfl
      | fails failure performed => cases taken; exact .inl rfl
      | cancelled performed => cases taken; exact .inl rfl
      | _ => cases taken
  | nextEvent =>
      cases input with
      | event event => cases taken; exact failed_received _ event rfl status
      | ended => cases taken; exact idle _ rfl rfl
      | raised failure => cases taken; exact failed_fail _ failure
      | cancelled performed => cases taken; exact failed_abort _
      | _ => cases taken
  | publishEvent event =>
      cases input with
      | completes => cases taken; exact idle _ rfl rfl
      | fails failure performed => cases taken; exact failed_fail _ failure
      | cancelled performed => cases taken; exact failed_abort _
      | _ => cases taken
  | publishError event =>
      cases input with
      | completes => cases taken; exact idle _ rfl rfl
      | fails failure performed => cases taken; exact failed_fail _ failure
      | cancelled performed => cases taken; exact failed_abort _
      | _ => cases taken
  | persist =>
      cases input with
      | completes => cases taken; exact failed_persisted _ true status
      | fails failure performed => cases taken; exact failed_persisted _ false status
      | cancelled performed => cases performed <;> cases taken <;> exact .inl rfl
      | _ => cases taken
  | publishTerminal persisted => cases input <;> cases taken <;> exact .inl rfl
  | finished => cases input <;> cases taken
  | _ => cases input <;> cases taken <;> exact idle _ rfl rfl

theorem off_course_step (state next : WorkerState) (input : WorkerInput) (effects : List Effect) (events : List BrokerEvent)
    (off : OffCourse state events) (taken : workerStep state input = some (next, effects)) :
    OffCourse next (events ++ published effects) := by
  obtain ⟨undone, finished | ⟨status, pending⟩⟩ := off
  · obtain ⟨arguments, point, text, steps, status, out⟩ := state
    obtain rfl : point = .finished := finished
    cases input <;> cases taken
  · refine ⟨fun event member => ?_, failed_step state next input effects status taken⟩
    rcases List.mem_append.mp member with earlier | new
    · exact undone event earlier
    · exact pending event (published_pending state next input effects taken event new)

theorem finished_stops (state next : WorkerState) (input : WorkerInput) (effects : List Effect)
    (taken : workerStep state input = some (next, effects)) : state.point.isFinished = false := by
  obtain ⟨arguments, point, text, steps, status, out⟩ := state
  cases point with
  | finished => cases input <;> cases taken
  | _ => rfl

theorem settled_row_stays (state next : WorkerState) (input : WorkerInput) (effects : List Effect) (events : List BrokerEvent)
    (row : Message) (course : OnCourse state events row) (settled : row.status ≠ .streaming)
    (taken : workerStep state input = some (next, effects)) : written row effects = row := by
  obtain ⟨arguments, point, text, steps, status, out⟩ := state
  have course := course.point
  cases point with
  | publishTerminal persisted =>
      cases input with
      | completes => cases taken; rfl
      | fails failure performed => cases taken; exact written_publishing row performed _
      | cancelled performed => cases taken; exact written_publishing row performed _
      | _ => cases taken
  | finished => cases input <;> cases taken
  | publishEvent event => exact absurd course.2.2.2.1 settled
  | publishError event => exact course.elim
  | publishAborted => exact course.elim
  | publishFailure failure => exact course.elim
  | _ => exact absurd course.2.2.1 settled

theorem underway_concluded (events : List BrokerEvent) (underway : Underway events) (concluded : Concluded events) : False := by
  obtain ⟨before, last, rfl, _, terminal⟩ := concluded
  rw [underway last (by simp)] at terminal
  cases terminal

theorem publishing_unshielded (performed : Bool) (event : BrokerEvent) :
    (publishing performed event).filterMap Effect.later = [] := by
  cases performed <;> rfl

theorem course_unshielded (state next : WorkerState) (input : WorkerInput) (effects : List Effect) (events : List BrokerEvent)
    (row : Message) (course : OnCourse state events row)
    (goes : OnCourse next (events ++ published effects) (written row effects))
    (taken : workerStep state input = some (next, effects)) : effects.filterMap Effect.later = [] := by
  obtain ⟨arguments, point, text, steps, status, out⟩ := state
  have course := course.point
  cases point with
  | unstarted => cases input <;> cases taken <;> rfl
  | nextEvent => cases input <;> cases taken <;> rfl
  | finished => cases input <;> cases taken
  | persist =>
      cases input with
      | completes => cases taken; rfl
      | fails failure performed => cases performed <;> cases taken <;> rfl
      | cancelled performed =>
          cases performed with
          | true => cases taken; rfl
          | false =>
              cases taken
              have concluded : Concluded (events ++ []) := goes.point.1
              rw [List.append_nil] at concluded
              exact (underway_concluded events course.1 concluded).elim
      | _ => cases taken
  | _ =>
      cases input with
      | completes => cases taken; rfl
      | fails failure performed => cases taken; exact publishing_unshielded performed _
      | cancelled performed => cases taken; exact publishing_unshielded performed _
      | _ => cases taken

end DataPilot.Chat
