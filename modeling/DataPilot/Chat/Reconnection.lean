import DataPilot.Chat.WorkerCourse

set_option autoImplicit false

namespace DataPilot.Chat

open DataPilot.Base DataPilot.Agent

variable {κ : Type}

theorem opening_point (stream : EventStream κ) (opening : stream.point.isOpening = true) : stream.point = .opening := by
  cases point : stream.point with
  | opening => rfl
  | _ =>
      rw [point] at opening
      cases opening

theorem concluded_read (log before rest : List (κ × BrokerEvent)) (last : κ × BrokerEvent)
    (concluded : Concluded (log.map Prod.snd)) (split : log = before ++ [last] ++ rest) (terminal : last.2.isTerminal = true) :
    rest = [] := by
  obtain ⟨earlier, final, events, underway, _⟩ := concluded
  cases rest using List.reverseRecOn with
  | nil => rfl
  | append_singleton rest entry =>
      rw [split, ← List.append_assoc, List.map_append] at events
      have same : (before ++ [last] ++ rest).map Prod.snd = earlier := (List.append_inj' events rfl).1
      have plain := underway last.2 (by rw [← same]; simp)
      rw [plain] at terminal
      cases terminal

variable [LinearOrder κ] (broker : RetainingBroker κ)

theorem log_append (events more : List BrokerEvent) :
    ∃ added, broker.log (events ++ more) = broker.log events ++ added := ⟨_, List.mapIdx_append⟩

theorem log_events (events : List BrokerEvent) : (broker.log events).map Prod.snd = events := by
  induction events using List.reverseRecOn with
  | nil => rfl
  | append_singleton events event ih =>
      rw [RetainingBroker.log, List.mapIdx_concat, List.map_append]
      exact congrArg (· ++ [event]) ih

theorem log_keys (events : List BrokerEvent) (entry : κ × BrokerEvent) (member : entry ∈ broker.log events) :
    ∃ index < events.length, entry.1 = broker.key index := by
  obtain ⟨index, bound, rfl⟩ := List.mem_mapIdx.mp member
  exact ⟨index, bound, rfl⟩

theorem log_above (events : List BrokerEvent) : ∀ entry ∈ broker.log events, broker.zero < entry.1 := by
  intro entry member
  obtain ⟨index, _, same⟩ := log_keys broker events entry member
  rw [same]
  exact lt_of_lt_of_le broker.positive (broker.increasing.monotone (Nat.zero_le index))

theorem log_ordered (events : List BrokerEvent) : Ordered (broker.log events) := by
  induction events using List.reverseRecOn with
  | nil => exact List.Pairwise.nil
  | append_singleton events event ih =>
      rw [RetainingBroker.log, List.mapIdx_concat]
      refine ordered_snoc _ _ ih fun old member => ?_
      obtain ⟨index, bound, same⟩ := log_keys broker events old member
      rw [same]
      exact broker.increasing bound

-- What a reader holds who has seen a message while the row is what it is now.
def Faithful (message row : Message) : Prop :=
  message.status = .streaming ∨
    row.status ≠ .streaming ∧ message.content.getD "" = row.content.getD "" ∧ message.steps = row.steps

def collected (handled : List (String × ServerEvent)) : AssistantView := ({} : AssistantView).handleAll (handled.map Prod.snd)

def TerminalLast (handled : List (String × ServerEvent)) : Prop :=
  ∃ before last, handled = before ++ [last] ∧ isTerminalEvent last = true

def Informed (exchange : MessageExchange κ) : Prop :=
  match exchange.connection with
  | .found message => Faithful message exchange.row
  | .recovering _ => exchange.running = false
  | .streaming stream _ => Faithful stream.message exchange.row
  | _ => True

-- The client has handled a part of the log, a part is on its way, and its stream
-- stands before the rest.
structure Live (exchange : MessageExchange κ) (seen flying rest : List (κ × BrokerEvent)) : Prop where
  split : broker.log exchange.events = seen ++ flying ++ rest
  handled : exchange.handled = seen.map (asSent broker.ids)
  inFlight : exchange.inFlight.filterMap SseFrame.received = flying.map (asSent broker.ids)
  connection : match exchange.connection with
    | .streaming stream opened =>
        Position broker.ids broker.zero (seen ++ flying) rest stream ∧ (stream.point.isOpening = true → flying = []) ∧
          ∀ found, opened = some found →
            stream.point.isOpening = true ∧ found <+: broker.log exchange.events ∧ seen <+: found
    | .closed => False
    | _ => flying = []

structure Showing (exchange : MessageExchange κ) (seen rest : List (κ × BrokerEvent)) (shown : List (String × ServerEvent))
    (stream : EventStream κ) (frames : List SseFrame) : Prop where
  split : broker.log exchange.events = seen ++ rest
  handled : exchange.handled = seen.map (asSent broker.ids) ++ shown
  stopped : exchange.running = false
  connection : exchange.connection = .streaming stream none
  point : stream.point = .snapshot frames ∨ stream.point = .returned ∧ frames = []
  parts : shown ++ exchange.inFlight.filterMap SseFrame.received ++ frames.filterMap SseFrame.received =
    snapshotSent stream.conversationId stream.message
  unread : stream.message.status ≠ .streaming →
    (collected (seen.map (asSent broker.ids))).content = "" ∧ (collected (seen.map (asSent broker.ids))).steps = []

-- The last event the client has handled is of a snapshot: no broker reads on there.
structure Stuck (exchange : MessageExchange κ) : Prop where
  foreign : broker.ids.parse exchange.lastEventId = none
  inFlight : exchange.inFlight = []
  connection : match exchange.connection with
    | .streaming stream _ =>
        stream.point = .raised ∨ stream.point = .opening ∧ stream.cursor = exchange.lastEventId
    | .closed => False
    | _ => True

structure Ended (exchange : MessageExchange κ) : Prop where
  connection : exchange.connection = .closed
  inFlight : exchange.inFlight = []
  stopped : exchange.running = false
  agrees : TerminalLast exchange.handled →
    exchange.view.content = exchange.row.content.getD "" ∧ exchange.view.steps = exchange.row.steps

inductive Standing (exchange : MessageExchange κ) : Prop where
  | live (seen flying rest : List (κ × BrokerEvent)) (live : Live broker exchange seen flying rest)
  | showing (seen rest : List (κ × BrokerEvent)) (shown : List (String × ServerEvent)) (stream : EventStream κ)
      (frames : List SseFrame) (showing : Showing broker exchange seen rest shown stream frames)
  | stuck (stuck : Stuck broker exchange)
  | ended (ended : Ended exchange)

structure Sound (exchange : MessageExchange κ) : Prop where
  course : OnCourse exchange.worker exchange.events exchange.row
  unshielded : exchange.shielded = []
  informed : Informed exchange
  standing : Standing broker exchange

theorem faithful_row (row : Message) : Faithful row row := by
  by_cases streaming : row.status = .streaming
  · exact .inl streaming
  · exact .inr ⟨streaming, rfl, rfl⟩

theorem later_log (events : List BrokerEvent) : later (broker.log events) broker.zero = broker.log events :=
  later_all _ _ (log_above broker events)

theorem last_event_id_parsed (exchange : MessageExchange κ) (seen : List (κ × BrokerEvent))
    (handled : exchange.handled = seen.map (asSent broker.ids)) :
    broker.ids.parse exchange.lastEventId = some (cursorAfter broker.zero seen) := by
  rw [MessageExchange.lastEventId, handled]
  cases seen using List.reverseRecOn with
  | nil => exact broker.origin
  | append_singleton seen entry => simpa [asSent] using broker.ids.parse_render entry.1

theorem stream_step_opened (ids : EventIds κ) (stream : EventStream κ) (here : Surroundings κ) :
    (stream.step ids here).1.point.isOpening = false := by
  unfold EventStream.step
  split
  · split
    · rfl
    · split <;> rfl
  · split
    · rfl
    · split <;> rfl
  · split <;> rfl
  · rfl
  · dsimp only
    split <;> rfl
  · rfl
  · rfl
  · rename_i returned
    rw [returned]
    rfl
  · rename_i raised
    rw [raised]
    rfl

theorem work_kept (exchange next : MessageExchange κ) (input : WorkerInput) (sound : Sound broker exchange)
    (careful : exchange.Careful broker (.work input)) (taken : exchange.step broker (.work input) = some next) :
    Sound broker next ∨ OffCourse next.worker next.events := by
  obtain ⟨course, unshielded, informed, standing⟩ := sound
  obtain ⟨⟨worker, effects⟩, stepped, rfl⟩ := Option.map_eq_some_iff.mp taken
  have kept : ∀ failure, input = .fails failure false → exchange.worker.point = .persist →
      exchange.worker.accumulatedText = "" ∧ exchange.worker.steps = [] := by
    rintro failure rfl
    exact careful
  have running : exchange.running = true := by
    rw [MessageExchange.running, finished_stops _ _ _ _ stepped]
    rfl
  refine (course_step _ _ _ _ _ exchange.row course kept stepped).imp (fun goes => ?_) id
  have faithful : ∀ message, Faithful message exchange.row → Faithful message (written exchange.row effects) := by
    rintro message (streaming | ⟨settled, same⟩)
    · exact .inl streaming
    · rw [settled_row_stays _ _ _ _ _ _ course settled stepped]
      exact .inr ⟨settled, same⟩
  obtain ⟨added, log⟩ := log_append broker exchange.events (published effects)
  refine ⟨goes, ?_, ?_, ?_⟩
  · rw [unshielded]
    exact course_unshielded _ _ _ _ _ _ course goes stepped
  · unfold Informed at informed ⊢
    cases connected : exchange.connection with
    | found message =>
        rw [connected] at informed
        exact faithful message informed
    | recovering message =>
        rw [connected] at informed
        rw [informed] at running
        cases running
    | streaming stream opened =>
        rw [connected] at informed
        exact faithful stream.message informed
    | _ => trivial
  · cases standing with
    | live seen flying rest live =>
        refine .live seen flying (rest ++ added) ⟨?_, live.handled, live.inFlight, ?_⟩
        · rw [← List.append_assoc, ← live.split]
          exact log
        · have there := live.connection
          cases connected : exchange.connection with
          | streaming stream opened =>
              rw [connected] at there
              obtain ⟨position, opening, read⟩ := there
              refine ⟨position_extends _ _ rest added stream position, opening, fun found given => ?_⟩
              obtain ⟨first, held, past⟩ := read found given
              exact ⟨first, log ▸ held.trans (List.prefix_append _ _), past⟩
          | _ =>
              rw [connected] at there
              exact there
    | showing seen rest shown stream frames showing =>
        rw [showing.stopped] at running
        cases running
    | stuck stuck => exact .stuck ⟨stuck.foreign, stuck.inFlight, stuck.connection⟩
    | ended ended =>
        rw [ended.stopped] at running
        cases running

-- No response is open and the exchange goes on.
def Connection.Waits : Connection κ → Prop
  | .streaming _ _ => False
  | .closed => False
  | _ => True

theorem waiting_standing (exchange next : MessageExchange κ) (before : exchange.connection.Waits) (after : next.connection.Waits)
    (events : next.events = exchange.events) (handled : next.handled = exchange.handled)
    (inFlight : next.inFlight = exchange.inFlight) (standing : Standing broker exchange) : Standing broker next := by
  cases standing with
  | live seen flying rest live =>
      have there := live.connection
      have split := (congrArg broker.log events).trans live.split
      have flight := (congrArg (List.filterMap SseFrame.received) inFlight).trans live.inFlight
      refine .live seen flying rest ⟨split, handled.trans live.handled, flight, ?_⟩
      split at there
      · rename_i connected
        rw [connected] at before
        exact before.elim
      · exact there.elim
      · split
        · rename_i connected
          rw [connected] at after
          exact after.elim
        · rename_i connected
          rw [connected] at after
          exact after.elim
        · exact there
  | showing seen rest shown stream frames showing =>
      rw [showing.connection] at before
      exact before.elim
  | stuck stuck =>
      refine .stuck ⟨?_, inFlight.trans stuck.inFlight, ?_⟩
      · rw [MessageExchange.lastEventId, handled]
        exact stuck.foreign
      · split
        · rename_i connected
          rw [connected] at after
          exact after.elim
        · rename_i connected
          rw [connected] at after
          exact after.elim
        · trivial
  | ended ended =>
      rw [ended.connection] at before
      exact before.elim

theorem open_standing (exchange : MessageExchange κ) (message : Message) (before : exchange.connection.Waits)
    (standing : Standing broker exchange) : Standing broker (exchange.open message) := by
  cases standing with
  | live seen flying rest live =>
      have there := live.connection
      split at there
      · rename_i connected
        rw [connected] at before
        exact before.elim
      · exact there.elim
      · subst there
        refine .live seen [] rest ⟨live.split, live.handled, live.inFlight, ⟨?_, trivial⟩, fun _ => rfl,
          fun found none => by cases none⟩
        rw [List.append_nil]
        exact last_event_id_parsed broker exchange seen live.handled
  | showing seen rest shown stream frames showing =>
      rw [showing.connection] at before
      exact before.elim
  | stuck stuck => exact .stuck ⟨stuck.foreign, stuck.inFlight, .inr ⟨rfl, rfl⟩⟩
  | ended ended =>
      rw [ended.connection] at before
      exact before.elim

theorem retry_kept (exchange next : MessageExchange κ) (sound : Sound broker exchange)
    (taken : exchange.step broker .retry = some next) : Sound broker next := by
  obtain ⟨course, unshielded, informed, standing⟩ := sound
  rw [MessageExchange.step] at taken
  split at taken
  · rename_i connected
    split at taken
    · cases taken
      exact ⟨course, unshielded, trivial,
        waiting_standing broker exchange _ (by rw [connected]; trivial) trivial rfl rfl rfl standing⟩
    · cases taken
  · cases taken

theorem find_kept (exchange next : MessageExchange κ) (sound : Sound broker exchange)
    (taken : exchange.step broker .find = some next) : Sound broker next := by
  obtain ⟨course, unshielded, informed, standing⟩ := sound
  rw [MessageExchange.step] at taken
  split at taken
  · rename_i connected
    cases taken
    exact ⟨course, unshielded, faithful_row exchange.row,
      waiting_standing broker exchange _ (by rw [connected]; trivial) trivial rfl rfl rfl standing⟩
  · cases taken

theorem proceed_kept (exchange next : MessageExchange κ) (sound : Sound broker exchange)
    (taken : exchange.step broker .proceed = some next) : Sound broker next := by
  obtain ⟨course, unshielded, informed, standing⟩ := sound
  rw [MessageExchange.step] at taken
  split at taken
  · rename_i message connected
    rw [Informed, connected] at informed
    have waits : exchange.connection.Waits := by rw [connected]; trivial
    split at taken
    · rename_i stopped
      cases taken
      exact ⟨course, unshielded, stopped.2, waiting_standing broker exchange _ waits trivial rfl rfl rfl standing⟩
    · cases taken
      exact ⟨course, unshielded, informed, open_standing broker exchange message waits standing⟩
  · cases taken

theorem recover_course (state : WorkerState) (events : List BrokerEvent) (row : Message) (completion : Completion)
    (course : OnCourse state events row) (finished : state.point.isFinished = true)
    (content : completion.content.getD "" = row.content.getD "") (steps : completion.steps = row.steps) :
    OnCourse state events (row.complete completion) := by
  obtain ⟨status, unpublished, there⟩ := course
  refine ⟨status, unpublished, ?_⟩
  cases point : state.point with
  | finished =>
      rw [point] at there
      obtain ⟨concluded, mirrors, kept⟩ := there
      exact ⟨concluded, mirrors, content.trans kept.1, steps.trans kept.2⟩
  | _ =>
      rw [point] at finished
      cases finished

theorem recover_kept (exchange next : MessageExchange κ) (sound : Sound broker exchange)
    (careful : exchange.Careful broker .recover) (taken : exchange.step broker .recover = some next) :
    Sound broker next := by
  obtain ⟨course, unshielded, informed, standing⟩ := sound
  rw [MessageExchange.step] at taken
  split at taken
  · rename_i message connected
    obtain ⟨content, steps⟩ := careful message connected
    rw [Informed, connected] at informed
    cases taken
    have finished : exchange.worker.point.isFinished = true := by simpa [MessageExchange.running] using informed
    refine ⟨recover_course _ _ _ _ course finished content steps, unshielded, faithful_row _, ?_⟩
    have waits : exchange.connection.Waits := by rw [connected]; trivial
    exact open_standing broker _ _ waits (waiting_standing broker exchange _ waits waits rfl rfl rfl standing)
  · cases taken

theorem look_kept (exchange next : MessageExchange κ) (sound : Sound broker exchange)
    (taken : exchange.step broker .look = some next) : Sound broker next := by
  obtain ⟨course, unshielded, informed, standing⟩ := sound
  rw [MessageExchange.step] at taken
  split at taken
  · rename_i stream connected
    rw [Informed, connected] at informed
    split at taken
    · rename_i opening
      cases taken
      refine ⟨course, unshielded, informed, ?_⟩
      cases standing with
      | live seen flying rest live =>
          have there := live.connection
          rw [connected] at there
          obtain ⟨position, empty, _⟩ := there
          refine .live seen flying rest ⟨live.split, live.handled, live.inFlight, position, empty, fun found given => ?_⟩
          cases given
          refine ⟨opening, List.prefix_refl _, ?_⟩
          rw [live.split, List.append_assoc]
          exact List.prefix_append _ _
      | showing seen rest shown other frames showing =>
          cases connected.symm.trans showing.connection
          rcases showing.point with snapshot | ⟨returned, _⟩
          · rw [snapshot] at opening
            cases opening
          · rw [returned] at opening
            cases opening
      | stuck stuck =>
          have there := stuck.connection
          rw [connected] at there
          exact .stuck ⟨stuck.foreign, stuck.inFlight, there⟩
      | ended ended => cases connected.symm.trans ended.connection
    · cases taken
  · cases taken

theorem drop_kept (exchange next : MessageExchange κ) (sound : Sound broker exchange)
    (taken : exchange.step broker .drop = some next) : Sound broker next := by
  obtain ⟨course, unshielded, informed, standing⟩ := sound
  rw [MessageExchange.step] at taken
  split at taken
  · rename_i stream opened connected
    cases taken
    refine ⟨course, unshielded, trivial, ?_⟩
    cases standing with
    | live seen flying rest live =>
        refine .live seen [] (flying ++ rest) ⟨?_, live.handled, rfl, rfl⟩
        rw [List.append_nil, ← List.append_assoc]
        exact live.split
    | showing seen rest shown other frames showing =>
        cases shown using List.reverseRecOn with
        | nil =>
            refine .live seen [] rest ⟨?_, ?_, rfl, rfl⟩
            · rw [List.append_nil]
              exact showing.split
            · rw [← List.append_nil (seen.map _)]
              exact showing.handled
        | append_singleton shown last =>
            refine .stuck ⟨?_, rfl, trivial⟩
            obtain ⟨text, same⟩ := snapshot_sent_ids other.conversationId other.message last
              (by rw [← showing.parts]; simp)
            have id : exchange.lastEventId = last.1 := by
              rw [MessageExchange.lastEventId, showing.handled]
              simp
            change broker.ids.parse exchange.lastEventId = none
            rw [id, same]
            exact broker.foreign text
    | stuck stuck => exact .stuck ⟨stuck.foreign, rfl, trivial⟩
    | ended ended => cases connected.symm.trans ended.connection
  · cases taken

theorem deliver_kept (exchange next : MessageExchange κ) (sound : Sound broker exchange)
    (taken : exchange.step broker .deliver = some next) : Sound broker next := by
  obtain ⟨course, unshielded, informed, standing⟩ := sound
  rw [MessageExchange.step] at taken
  cases flight : exchange.inFlight with
  | nil => simp [flight] at taken
  | cons frame frames =>
      rw [flight] at taken
      cases taken
      refine ⟨course, unshielded, informed, ?_⟩
      cases standing with
      | live seen flying rest live =>
          have inFlight := live.inFlight
          rw [flight, List.filterMap_cons] at inFlight
          cases got : frame.received with
          | none =>
              rw [got] at inFlight
              exact .live seen flying rest ⟨live.split, by rw [← live.handled]; exact List.append_nil _, inFlight,
                live.connection⟩
          | some received =>
              rw [got] at inFlight
              cases flying with
              | nil => cases inFlight
              | cons entry flying =>
                  obtain ⟨same, others⟩ := List.cons.inj inFlight
                  have moved : seen ++ [entry] ++ flying = seen ++ entry :: flying := by simp
                  refine .live (seen ++ [entry]) flying rest ⟨?_, ?_, others, ?_⟩
                  · rw [moved]
                    exact live.split
                  · simp [live.handled, same]
                  · have there := live.connection
                    cases connected : exchange.connection with
                    | streaming stream opened =>
                        rw [connected] at there
                        obtain ⟨position, empty, read⟩ := there
                        have further : stream.point.isOpening = true → False := fun opening => by cases empty opening
                        exact ⟨moved ▸ position, fun opening => (further opening).elim,
                          fun found given => (further (read found given).1).elim⟩
                    | closed =>
                        rw [connected] at there
                        exact there.elim
                    | _ =>
                        rw [connected] at there
                        cases there
      | showing seen rest shown stream left showing =>
          have parts := showing.parts
          rw [flight] at parts
          refine .showing seen rest (shown ++ frame.received.toList) stream left ⟨showing.split, ?_, showing.stopped,
            showing.connection, showing.point, ?_, showing.unread⟩
          · rw [← List.append_assoc, ← showing.handled]
          · rw [← parts]
            cases got : frame.received <;> simp [got]
      | stuck stuck => cases flight.symm.trans stuck.inFlight
      | ended ended => cases flight.symm.trans ended.inFlight

theorem opening_snapshot (ids : EventIds κ) (stream : EventStream κ) (found : List (κ × BrokerEvent))
    (opening : stream.point = .opening) (nothing : brokerRead ids found stream.cursor = some []) :
    stream.step ids ⟨found, false, true⟩ =
      (stream.at (.snapshot (snapshotFrames stream.conversationId stream.message)), []) := by
  simp [EventStream.step, opening, nothing]

theorem step_message (ids : EventIds κ) (stream : EventStream κ) (here : Surroundings κ) :
    (stream.step ids here).1.message = stream.message := by
  unfold EventStream.step
  split
  · split
    · rfl
    · split <;> rfl
  · split
    · rfl
    · split <;> rfl
  · split <;> rfl
  all_goals rfl

theorem live_sends (exchange : MessageExchange κ) (seen flying front added found : List (κ × BrokerEvent))
    (stream : EventStream κ)
    (split : broker.log exchange.events = seen ++ flying ++ (front ++ added))
    (handled : exchange.handled = seen.map (asSent broker.ids))
    (inFlight : exchange.inFlight.filterMap SseFrame.received = flying.map (asSent broker.ids)) (ordered : Ordered found)
    (reads : later found broker.zero = seen ++ flying ++ front)
    (opens : stream.point.isOpening = true → exchange.running = true ∨ front ≠ [])
    (position : Position broker.ids broker.zero (seen ++ flying) front stream) :
    Standing broker { exchange with
      connection := .streaming (stream.step broker.ids ⟨found, exchange.running, true⟩).1 none
      inFlight := exchange.inFlight ++ (stream.step broker.ids ⟨found, exchange.running, true⟩).2 } := by
  obtain ⟨sent, left, rfl, received, placed⟩ := position_step ⟨found, ordered⟩ broker.zero (seen ++ flying) front
    exchange.running stream reads opens position
  refine .live seen (flying ++ sent) (left ++ added) ⟨?_, handled, ?_, ?_, fun opening => ?_, fun _ none => by cases none⟩
  · rw [← List.append_assoc seen, List.append_assoc (seen ++ flying), ← List.append_assoc sent]
    exact split
  · rw [List.filterMap_append, inFlight, List.map_append, ← received]
  · rw [← List.append_assoc]
    exact position_extends _ _ left added _ placed
  · rw [stream_step_opened] at opening
    cases opening

theorem advance_live (exchange : MessageExchange κ) (seen flying rest : List (κ × BrokerEvent)) (stream : EventStream κ)
    (opened : Option (List (κ × BrokerEvent))) (live : Live broker exchange seen flying rest)
    (connected : exchange.connection = .streaming stream opened) (careful : exchange.Careful broker .advance)
    (read : ¬ (stream.point.isOpening = true ∧ opened = none)) :
    Standing broker { exchange with
      connection := .streaming
        (stream.step broker.ids ⟨opened.getD (broker.log exchange.events), exchange.running, true⟩).1 none
      inFlight := exchange.inFlight ++
        (stream.step broker.ids ⟨opened.getD (broker.log exchange.events), exchange.running, true⟩).2 } := by
  have there := live.connection
  rw [connected] at there
  obtain ⟨position, empty, reading⟩ := there
  cases opened with
  | none =>
      have past : stream.point.isOpening = true → exchange.running = true ∨ rest ≠ [] :=
        fun opening => absurd ⟨opening, rfl⟩ read
      exact live_sends broker exchange seen flying rest [] _ stream (by rw [List.append_nil]; exact live.split) live.handled
        live.inFlight (log_ordered broker exchange.events) ((later_log broker exchange.events).trans live.split) past position
  | some found =>
      obtain ⟨opening, ⟨added, held⟩, front, past⟩ := reading found rfl
      obtain rfl := empty opening
      have point := opening_point stream opening
      have log : broker.log exchange.events = found ++ added := held.symm
      have whole : found = seen ++ [] ++ front := by rw [List.append_nil]; exact past.symm
      have remaining : rest = front ++ added := by
        have joined : seen ++ [] ++ rest = seen ++ [] ++ (front ++ added) := by
          rw [← live.split, log, ← List.append_assoc, ← whole]
        exact List.append_cancel_left joined
      have above : ∀ entry ∈ found, broker.zero < entry.1 := fun entry member =>
        log_above broker exchange.events entry (log ▸ List.mem_append_left _ member)
      have ordered : Ordered found := (log_ordered broker exchange.events).sublist (log ▸ List.sublist_append_left _ _)
      have reads : later found broker.zero = seen ++ [] ++ front := (later_all found broker.zero above).trans whole
      by_cases going : exchange.running = true ∨ front ≠ []
      · exact live_sends broker exchange seen [] front added found stream (by rw [← remaining]; exact live.split) live.handled
          live.inFlight ordered reads (fun _ => going) ⟨position.1, by rw [point]; trivial⟩
      · obtain ⟨stopped, bare⟩ := not_or.mp going
        have stopped : exchange.running = false := (Bool.not_eq_true _).mp stopped
        have bare : front = [] := Decidable.not_not.mp bare
        have nothing : brokerRead broker.ids found stream.cursor = some [] := by
          rw [brokerRead, position.1, Option.map_some, page, later_cursor_after found _ front broker.zero ordered reads, bare]
          rfl
        rw [Option.getD_some, stopped, opening_snapshot broker.ids stream found point nothing]
        refine .showing seen rest [] _ _ ⟨?_, ?_, stopped, rfl, .inl rfl, ?_, fun settled => ?_⟩
        · rw [← List.append_nil seen]
          exact live.split
        · exact live.handled.trans (List.append_nil _).symm
        · rw [List.append_nil, live.inFlight]
          rfl
        · have fresh := careful stream found connected nothing stopped settled
          rw [MessageExchange.view, live.handled] at fresh
          exact fresh

theorem advance_showing (exchange : MessageExchange κ) (seen rest : List (κ × BrokerEvent)) (shown : List (String × ServerEvent))
    (stream : EventStream κ) (frames : List SseFrame) (showing : Showing broker exchange seen rest shown stream frames)
    (here : Surroundings κ) :
    Standing broker { exchange with
      connection := .streaming (stream.step broker.ids here).1 none
      inFlight := exchange.inFlight ++ (stream.step broker.ids here).2 } := by
  rcases showing.point with point | ⟨point, none⟩
  · cases frames with
    | nil =>
        have stepped : stream.step broker.ids here = (stream.at .returned, []) := by simp [EventStream.step, point]
        rw [stepped, List.append_nil]
        exact .showing seen rest shown _ [] ⟨showing.split, showing.handled, showing.stopped, rfl, .inr ⟨rfl, rfl⟩,
          showing.parts, showing.unread⟩
    | cons frame frames =>
        have stepped : stream.step broker.ids here = (stream.at (.snapshot frames), [frame]) := by
          simp [EventStream.step, point]
        rw [stepped]
        refine .showing seen rest shown _ frames ⟨showing.split, showing.handled, showing.stopped, rfl, .inl rfl, ?_,
          showing.unread⟩
        refine Eq.trans ?_ showing.parts
        rw [List.filterMap_append, List.append_assoc, List.append_assoc, List.append_assoc, ← List.filterMap_append]
        rfl
  · have stepped : stream.step broker.ids here = (stream, []) := by simp [EventStream.step, point]
    rw [stepped, List.append_nil]
    exact .showing seen rest shown stream frames ⟨showing.split, showing.handled, showing.stopped, rfl, .inr ⟨point, none⟩,
      showing.parts, showing.unread⟩

theorem stuck_step (exchange : MessageExchange κ) (stream : EventStream κ) (opened : Option (List (κ × BrokerEvent)))
    (stuck : Stuck broker exchange) (connected : exchange.connection = .streaming stream opened) (here : Surroundings κ) :
    stream.step broker.ids here = (stream.at .raised, []) := by
  have there := stuck.connection
  rw [connected] at there
  rcases there with raised | ⟨opening, cursor⟩
  · have same : stream.at .raised = stream := by rw [EventStream.at, ← raised]
    rw [same]
    simp [EventStream.step, raised]
  · simp [EventStream.step, opening, brokerRead, cursor, stuck.foreign]

theorem advance_kept (exchange next : MessageExchange κ) (sound : Sound broker exchange)
    (careful : exchange.Careful broker .advance) (taken : exchange.step broker .advance = some next) :
    Sound broker next := by
  obtain ⟨course, unshielded, informed, standing⟩ := sound
  rw [MessageExchange.step] at taken
  split at taken
  · rename_i stream opened connected
    rw [Informed, connected] at informed
    split at taken
    · cases taken
    · rename_i read
      cases taken
      refine ⟨course, unshielded, ?_, ?_⟩
      · change Faithful (stream.step _ _).1.message exchange.row
        rw [step_message]
        exact informed
      · cases standing with
        | live seen flying rest live =>
            exact advance_live broker exchange seen flying rest stream opened live connected careful read
        | showing seen rest shown other frames showing =>
            cases connected.symm.trans showing.connection
            exact advance_showing broker exchange seen rest shown stream frames showing _
        | stuck stuck =>
            refine .stuck ⟨stuck.foreign, ?_, .inl ?_⟩ <;> rw [stuck_step broker exchange stream opened stuck connected]
            · exact (List.append_nil _).trans stuck.inFlight
            · rfl
        | ended ended => cases connected.symm.trans ended.connection
  · cases taken

theorem collected_log (state : WorkerState) (events : List BrokerEvent) (mirrors : Mirrors state events) :
    (collected ((broker.log events).map (asSent broker.ids))).content = state.accumulatedText ∧
      (collected ((broker.log events).map (asSent broker.ids))).steps = state.steps := by
  have sent : ((broker.log events).map (asSent broker.ids)).map Prod.snd = events.map .broker := by
    rw [List.map_map, ← log_events broker events, List.map_map, log_events]
    rfl
  obtain ⟨content, steps⟩ := handle_all_broker {} events
  rw [collected, sent, content, steps]
  exact ⟨mirrors.1, mirrors.2⟩

theorem course_concluded (state : WorkerState) (events : List BrokerEvent) (row : Message) (course : OnCourse state events row)
    (event : BrokerEvent) (member : event ∈ events) (terminal : event.isTerminal = true) :
    state.point.isFinished = true ∧ Concluded events ∧ Mirrors state events ∧ Kept state row := by
  have plain : Underway events → False := fun underway => by simp [underway event member] at terminal
  have there := course.point
  cases point : state.point with
  | finished =>
      rw [point] at there
      exact ⟨rfl, there⟩
  | publishError error =>
      rw [point] at there
      exact there.elim
  | publishAborted =>
      rw [point] at there
      exact there.elim
  | publishFailure failure =>
      rw [point] at there
      exact there.elim
  | _ =>
      rw [point] at there
      exact (plain there.1).elim

theorem snapshot_settled (seen : List (String × ServerEvent)) (conversationId : Uuid) (message : Message)
    (handled : List (String × ServerEvent)) (parts : handled = seen ++ snapshotSent conversationId message)
    (ends : TerminalLast handled) : message.status ≠ .streaming := by
  intro streaming
  obtain ⟨before, last, same, terminal⟩ := ends
  obtain ⟨front, sent⟩ := snapshot_sent_last conversationId message
  rw [parts, sent, ← List.append_assoc] at same
  obtain rfl := List.singleton_injective (List.append_inj' same rfl).2
  simp [isTerminalEvent, ServerEvent.name, streaming, snapshotTerminalName, MessageStatus.text, terminalNames] at terminal

theorem close_kept (exchange next : MessageExchange κ) (sound : Sound broker exchange)
    (taken : exchange.step broker .close = some next) : Sound broker next := by
  obtain ⟨course, unshielded, informed, standing⟩ := sound
  rw [MessageExchange.step] at taken
  split at taken
  · rename_i conversationId message cursor opened connected flight
    cases taken
    refine ⟨course, unshielded, trivial, .ended ?_⟩
    cases standing with
    | live seen flying rest live =>
        have there := live.connection
        rw [connected] at there
        obtain ⟨⟨_, before, last, read, terminal⟩, _⟩ := there
        have landed := live.inFlight
        rw [flight] at landed
        obtain rfl : flying = [] := List.map_eq_nil_iff.mp landed.symm
        rw [List.append_nil] at read
        have split := live.split
        rw [List.append_nil, read] at split
        have member : last.2 ∈ exchange.events := by
          rw [← log_events broker exchange.events, split]
          simp
        obtain ⟨finished, concluded, mirrors, kept⟩ := course_concluded _ _ _ course last.2 member terminal
        obtain rfl := concluded_read (broker.log exchange.events) before rest last
          (by rw [log_events]; exact concluded) split terminal
        obtain ⟨content, steps⟩ := collected_log broker exchange.worker exchange.events mirrors
        rw [List.append_nil, ← read] at split
        rw [split, ← live.handled] at content steps
        exact ⟨rfl, flight, by rw [MessageExchange.running, finished]; rfl,
          fun _ => ⟨content.trans kept.1.symm, steps.trans kept.2.symm⟩⟩
    | showing seen rest shown other frames showing =>
        cases connected.symm.trans showing.connection
        obtain ⟨_, rfl⟩ : _ ∧ frames = [] := showing.point.resolve_left (by simp)
        have parts := showing.parts
        rw [flight, List.filterMap_nil, List.append_nil, List.append_nil] at parts
        refine ⟨rfl, flight, showing.stopped, fun ends => ?_⟩
        have handled := showing.handled
        rw [parts] at handled
        have settled := snapshot_settled _ _ _ exchange.handled handled ends
        rw [Informed, connected] at informed
        obtain ⟨_, content, steps⟩ := informed.resolve_left settled
        obtain ⟨textless, stepless⟩ := showing.unread settled
        obtain ⟨text, added⟩ := handle_snapshot (collected (seen.map (asSent broker.ids))) conversationId message
        rw [textless] at text
        rw [stepless] at added
        have view : exchange.view = (collected (seen.map (asSent broker.ids))).handleAll
            ((snapshotSent conversationId message).map Prod.snd) := by
          rw [MessageExchange.view, handled, List.map_append, handle_all_append]
          rfl
        change exchange.view.content = _ ∧ exchange.view.steps = _
        rw [view, text, added]
        exact ⟨(String.empty_append ..).trans content, (List.nil_append _).trans steps⟩
    | stuck stuck =>
        have there := stuck.connection
        rw [connected] at there
        rcases there with raised | ⟨opening, _⟩
        · cases raised
        · cases opening
    | ended ended => cases connected.symm.trans ended.connection
  · cases taken

theorem off_course_kept (exchange next : MessageExchange κ) (label : ExchangeLabel)
    (off : OffCourse exchange.worker exchange.events) (taken : exchange.step broker label = some next) :
    OffCourse next.worker next.events := by
  cases label with
  | work input =>
      obtain ⟨⟨worker, effects⟩, stepped, rfl⟩ := Option.map_eq_some_iff.mp taken
      exact off_course_step _ _ _ _ _ off stepped
  | _ =>
      rw [MessageExchange.step] at taken
      repeat' split at taken
      all_goals cases taken <;> exact off

theorem step_kept (exchange next : MessageExchange κ) (label : ExchangeLabel)
    (sound : Sound broker exchange ∨ OffCourse exchange.worker exchange.events) (careful : exchange.Careful broker label)
    (taken : exchange.step broker label = some next) : Sound broker next ∨ OffCourse next.worker next.events := by
  rcases sound with sound | off
  · cases label with
    | work input => exact work_kept broker exchange next input sound careful taken
    | shield =>
        rw [MessageExchange.step, sound.unshielded] at taken
        cases taken
    | find => exact .inl (find_kept broker exchange next sound taken)
    | proceed => exact .inl (proceed_kept broker exchange next sound taken)
    | recover => exact .inl (recover_kept broker exchange next sound careful taken)
    | look => exact .inl (look_kept broker exchange next sound taken)
    | advance => exact .inl (advance_kept broker exchange next sound careful taken)
    | deliver => exact .inl (deliver_kept broker exchange next sound taken)
    | drop => exact .inl (drop_kept broker exchange next sound taken)
    | retry => exact .inl (retry_kept broker exchange next sound taken)
    | close => exact .inl (close_kept broker exchange next sound taken)
  · exact .inr (off_course_kept broker exchange next label off taken)

theorem fresh_sound (arguments : WorkerArguments) (sequence : Nat) : Sound broker (MessageExchange.fresh arguments sequence) := by
  refine ⟨⟨rfl, rfl, fun _ member => (by cases member), ⟨rfl, rfl⟩, rfl, rfl, rfl⟩, rfl, .inl rfl,
    .live [] [] [] ⟨rfl, rfl, rfl, ⟨broker.origin, trivial⟩, fun _ => rfl, fun _ none => by cases none⟩⟩

theorem reconnection_transparent (arguments : WorkerArguments) (sequence : Nat) (labels : List ExchangeLabel)
    (final : MessageExchange κ)
    (run : runFrom (MessageExchange.step broker) (MessageExchange.fresh arguments sequence) labels = some final)
    (careful : StepsMeet (MessageExchange.step broker) (MessageExchange.Careful broker)
      (MessageExchange.fresh arguments sequence) labels)
    (done : ∃ event ∈ final.events, event.isDone = true) (closed : final.connection = .closed)
    (ends : TerminalLast final.handled) :
    final.view.content = final.row.content.getD "" ∧ final.view.steps = final.row.steps := by
  have kept := run_invariant_meeting (MessageExchange.Careful broker)
    (fun exchange => Sound broker exchange ∨ OffCourse exchange.worker exchange.events)
    (fun exchange label next sound careful taken => step_kept broker exchange next label sound careful taken)
    (MessageExchange.fresh arguments sequence) final labels (.inl (fresh_sound broker arguments sequence)) careful run
  rcases kept with sound | off
  · cases sound.standing with
    | live seen flying rest live =>
        have there := live.connection
        rw [closed] at there
        exact there.elim
    | showing seen rest shown stream frames showing => cases closed.symm.trans showing.connection
    | stuck stuck =>
        have there := stuck.connection
        rw [closed] at there
        exact there.elim
    | ended ended => exact ended.agrees ends
  · obtain ⟨event, member, happened⟩ := done
    rw [off.1 event member] at happened
    cases happened

section Sample

def everyKey : RetainingBroker Nat := inMemoryRetaining (· + 1) (by decide) fun _ _ less => Nat.succ_lt_succ less

def textPublished : List ExchangeLabel :=
  [.work .begin, .work .completes, .work (.event { type := .text, text := some "3" }), .work .completes]

def answerEnds : List ExchangeLabel := [.work (.event { type := .done }), .work .completes, .work .completes]

-- The connection drops in the middle; the rest comes after the worker has ended.
def droppedMidway : List ExchangeLabel :=
  textPublished ++ [.look, .advance, .advance, .advance, .advance, .deliver, .deliver, .drop] ++ answerEnds ++
    [.retry, .find, .proceed, .look, .advance, .advance, .advance, .deliver, .close]

-- The connection drops behind the done event, before the response closes.
def droppedBehindDone : List ExchangeLabel :=
  textPublished ++ answerEnds ++
    [.look, .advance, .advance, .advance, .advance, .advance, .deliver, .deliver, .deliver, .drop, .retry, .find, .proceed,
      .look, .advance, .advance, .advance, .advance, .advance, .deliver, .deliver, .deliver, .close]

def Connection.isClosed : Connection Nat → Bool
  | .closed => true
  | _ => false

def concludes (exchange : MessageExchange Nat) : Bool :=
  exchange.connection.isClosed && exchange.events.any BrokerEvent.isDone && exchange.handled.getLast?.any isTerminalEvent

theorem concludes_parts (exchange : MessageExchange Nat) (concluded : concludes exchange = true) :
    exchange.connection = .closed ∧ (∃ event ∈ exchange.events, event.isDone = true) ∧ TerminalLast exchange.handled := by
  rw [concludes, Bool.and_eq_true, Bool.and_eq_true, List.any_eq_true, Option.any_eq_true_iff_get] at concluded
  obtain ⟨⟨closed, done⟩, some, terminal⟩ := concluded
  refine ⟨?_, done, ?_⟩
  · cases connected : exchange.connection with
    | closed => rfl
    | _ =>
        rw [connected] at closed
        cases closed
  · obtain ⟨before, last⟩ := List.getLast?_eq_some_iff.mp (Option.some_get some).symm
    exact ⟨before, _, last, terminal⟩

-- No first read finds nothing while no task runs, and nothing is rewritten.
def reads (exchange : MessageExchange Nat) : ExchangeLabel → Bool
  | .work (.fails _ _) => false
  | .recover => false
  | .advance =>
      match exchange.connection with
      | .streaming stream (some found) => exchange.running || !(brokerRead everyKey.ids found stream.cursor).any List.isEmpty
      | _ => true
  | _ => true

theorem reads_careful (exchange : MessageExchange Nat) (label : ExchangeLabel) (passed : reads exchange label = true) :
    exchange.Careful everyKey label := by
  cases label with
  | work input =>
      cases input with
      | fails failure performed => cases passed
      | _ => trivial
  | recover => cases passed
  | advance =>
      intro stream found connected nothing stopped
      simp [reads, connected, stopped, nothing] at passed
  | _ => trivial

end Sample

theorem reconnection_transparent_midway :
    ∃ final, runFrom (MessageExchange.step everyKey) (MessageExchange.fresh followedArguments 2) droppedMidway = some final ∧
      final.view.content = "3" ∧ final.view.content = final.row.content.getD "" ∧ final.view.steps = final.row.steps := by
  have ended : (runFrom (MessageExchange.step everyKey) (MessageExchange.fresh followedArguments 2) droppedMidway).map
      (fun final => (concludes final, final.view.content)) = some (true, "3") := by decide +kernel
  have careful : countSteps (MessageExchange.step everyKey) (fun exchange label => !reads exchange label)
      (MessageExchange.fresh followedArguments 2) droppedMidway = 0 := by decide +kernel
  obtain ⟨final, run, parts⟩ := Option.map_eq_some_iff.mp ended
  obtain ⟨concluded, content⟩ := Prod.mk.inj parts
  obtain ⟨closed, done, ends⟩ := concludes_parts final concluded
  exact ⟨final, run, content, reconnection_transparent everyKey followedArguments 2 droppedMidway final run
    (steps_meet_mono _ _ _ _ reads_careful (steps_meet_of_count reads _ _ careful)) done closed ends⟩

-- A connection that drops behind the done event brings the whole answer once more.
theorem dropped_behind_done_repeats :
    ¬ ∀ (broker : RetainingBroker Nat) (arguments : WorkerArguments) (sequence : Nat) (labels : List ExchangeLabel)
      (final : MessageExchange Nat),
      runFrom (MessageExchange.step broker) (MessageExchange.fresh arguments sequence) labels = some final →
        (∃ event ∈ final.events, event.isDone = true) → final.connection = .closed → TerminalLast final.handled →
          final.view.content = final.row.content.getD "" ∧ final.view.steps = final.row.steps := by
  intro claim
  have ended : (runFrom (MessageExchange.step everyKey) (MessageExchange.fresh followedArguments 2) droppedBehindDone).map
      (fun final => (concludes final, final.view.content, final.row.content.getD "")) = some (true, "33", "3") := by
    decide +kernel
  obtain ⟨final, run, parts⟩ := Option.map_eq_some_iff.mp ended
  obtain ⟨concluded, contents⟩ := Prod.mk.inj parts
  obtain ⟨shown, kept⟩ := Prod.mk.inj contents
  obtain ⟨closed, done, ends⟩ := concludes_parts final concluded
  obtain ⟨same, _⟩ := claim everyKey followedArguments 2 droppedBehindDone final run done closed ends
  rw [shown, kept] at same
  exact absurd same (by decide)

end DataPilot.Chat
