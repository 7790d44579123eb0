import DataPilot.Chat.MessageExchange

set_option autoImplicit false

namespace DataPilot.Chat

open DataPilot.Base DataPilot.Agent

-- The ids of a broker whose parser refuses the ids of a snapshot.
structure CursorIds (κ : Type) extends EventIds κ where
  foreign : ∀ text, parse ("snapshot-" ++ text) = none
  given : ∀ key, render key ≠ ""

theorem event_id_given (sequence : Nat) : eventId sequence ≠ "" := by simp [eventId, ← String.toList_inj]

def inMemoryCursorIds : CursorIds Nat := { inMemoryIds with foreign := in_memory_foreign, given := event_id_given }

variable {κ : Type}

-- The stream of a request: request.headers.get("Last-Event-ID") or "0-0".
def respond (conversationId : Uuid) (message : Message) (header : Option String) : EventStream κ :=
  { conversationId, message, cursor := orElseText (header.getD "") "0-0" }

theorem respond_cursor (conversationId : Uuid) (message : Message) (id : String) (given : id ≠ "") :
    (respond conversationId message (some id) : EventStream κ).cursor = id := if_neg given

variable [LinearOrder κ] (ids : CursorIds κ)

-- A stream over what each of its steps finds.
def EventStream.serve (ids : EventIds κ) (stream : EventStream κ) : List (Surroundings κ) → EventStream κ × List SseFrame
  | [] => (stream, [])
  | here :: rest =>
      let next := stream.step ids here
      let later := next.1.serve ids rest
      (later.1, next.2 ++ later.2)

-- A frame that is no event, or an event of the broker behind the id.
def ComesAfter (id : String) : SseFrame → Prop
  | .ping => True
  | .event next sent => ∃ key following event, ids.parse id = some key ∧ next = ids.render following ∧
      sent = .broker event ∧ key < following

-- A request with the id as its Last-Event-ID, however it goes on: no read
-- raises, and the stream sends only what follows.
def Resumes (conversationId : Uuid) (message : Message) (id : String) (here : Surroundings κ) : Prop :=
  ∀ rest : List (Surroundings κ),
    ((respond conversationId message (some id) : EventStream κ).serve ids.toEventIds (here :: rest)).1.point ≠ .raised ∧
      ∀ frame ∈ ((respond conversationId message (some id) : EventStream κ).serve ids.toEventIds (here :: rest)).2,
        ComesAfter ids id frame

-- A frame with an event of the broker, or one of a snapshot.
def FromBroker : SseFrame → Prop
  | .ping => True
  | .event id sent => ∃ key event, id = ids.render key ∧ sent = .broker event

def FromSnapshot : SseFrame → Prop
  | .ping => False
  | .event id sent => (∃ text, id = "snapshot-" ++ text) ∧ ∀ event, sent ≠ .broker event

theorem snapshot_frames_foreign (conversationId : Uuid) (message : Message) :
    ∀ frame ∈ snapshotFrames conversationId message, FromSnapshot frame := by
  intro frame member
  simp only [snapshotFrames, List.cons_append, List.mem_cons, List.mem_append, List.mem_map, List.not_mem_nil, or_false] at member
  rcases member with rfl | (⟨step, _, rfl⟩ | text) | rfl
  · exact ⟨⟨"start", rfl⟩, fun _ => ServerEvent.noConfusion⟩
  · have prefixed : "snapshot-" ++ "step-" = "snapshot-step-" := by decide
    exact ⟨⟨"step-" ++ toString step.step, by rw [← String.append_assoc, prefixed]; rfl⟩, fun _ => ServerEvent.noConfusion⟩
  · by_cases empty : message.content.getD "" = ""
    · rw [if_pos empty] at text
      cases text
    · rw [if_neg empty] at text
      rw [List.mem_singleton.mp text]
      exact ⟨⟨"text", rfl⟩, fun _ => ServerEvent.noConfusion⟩
  · exact ⟨⟨snapshotTerminalName message.status, rfl⟩, fun _ => ServerEvent.noConfusion⟩

-- What a stream has to send yet is of its snapshot if it has one.
def SendsKnown (stream : EventStream κ) : Prop :=
  match stream.point with
  | .snapshot frames => ∀ frame ∈ frames, FromSnapshot frame
  | _ => True

theorem known_step (stream : EventStream κ) (here : Surroundings κ) (known : SendsKnown stream) :
    SendsKnown (stream.step ids.toEventIds here).1 ∧
      ∀ frame ∈ (stream.step ids.toEventIds here).2, FromBroker ids frame ∨ FromSnapshot frame := by
  have quiet : ∀ frame ∈ ([] : List SseFrame), FromBroker ids frame ∨ FromSnapshot frame :=
    fun frame member => absurd member List.not_mem_nil
  unfold EventStream.step
  cases point : stream.point with
  | opening =>
      cases brokerRead ids.toEventIds here.log stream.cursor with
      | none => exact ⟨trivial, quiet⟩
      | some events =>
          dsimp only
          by_cases nothing : events = [] ∧ here.running = false
          · rw [if_pos nothing]
            exact ⟨snapshot_frames_foreign stream.conversationId stream.message, quiet⟩
          · rw [if_neg nothing]
            exact ⟨trivial, quiet⟩
  | checking buffered =>
      dsimp only
      by_cases gone : here.connected = false
      · rw [if_pos gone]
        exact ⟨trivial, quiet⟩
      · by_cases empty : buffered = []
        · rw [if_neg gone, if_pos empty]
          exact ⟨trivial, quiet⟩
        · rw [if_neg gone, if_neg empty]
          exact ⟨trivial, quiet⟩
  | reading =>
      cases brokerRead ids.toEventIds here.log stream.cursor with
      | none => exact ⟨trivial, quiet⟩
      | some events =>
          cases events with
          | nil => exact ⟨trivial, List.forall_mem_singleton.mpr (.inl trivial)⟩
          | cons first more => exact ⟨trivial, quiet⟩
  | sending events =>
      cases events with
      | nil => exact ⟨trivial, quiet⟩
      | cons entry rest =>
          obtain ⟨key, event⟩ := entry
          refine ⟨?_, List.forall_mem_singleton.mpr (.inl ⟨key, event, rfl, rfl⟩)⟩
          unfold SendsKnown
          dsimp only
          split
          · rename_i frames same
            split at same <;> cases same
          · trivial
  | snapshot frames =>
      rw [SendsKnown, point] at known
      cases frames with
      | nil => exact ⟨trivial, quiet⟩
      | cons frame rest =>
          exact ⟨fun other member => known other (List.mem_cons_of_mem _ member),
            List.forall_mem_singleton.mpr (.inr (known frame List.mem_cons_self))⟩
  | returned => exact ⟨known, quiet⟩
  | raised => exact ⟨known, quiet⟩

theorem known_serve (seen : List (Surroundings κ)) (stream : EventStream κ) (known : SendsKnown stream) :
    ∀ frame ∈ (stream.serve ids.toEventIds seen).2, FromBroker ids frame ∨ FromSnapshot frame := by
  induction seen generalizing stream with
  | nil => exact fun frame member => absurd member List.not_mem_nil
  | cons here rest ih =>
      obtain ⟨next, sent⟩ := known_step ids stream here known
      intro frame member
      rcases List.mem_append.mp member with now | later
      · exact sent frame now
      · exact ih _ next frame later

-- A stream that reads on behind an event and has read nothing else.
def Beyond (key : κ) (stream : EventStream κ) : Prop :=
  ∃ cursor, ids.parse stream.cursor = some cursor ∧ key ≤ cursor ∧
    match stream.point with
    | .checking events => ∀ entry ∈ events, key < entry.1
    | .sending events => ∀ entry ∈ events, key < entry.1
    | .reading => True
    | .returned => True
    | _ => False

theorem page_beyond (log : List (κ × BrokerEvent)) (key cursor : κ) (reached : key ≤ cursor) :
    ∀ entry ∈ page log cursor pageSize, key < entry.1 := by
  intro entry member
  exact lt_of_le_of_lt reached ((mem_later log cursor entry).mp ((page_front log cursor pageSize).subset member)).2

theorem beyond_step (id : String) (key : κ) (parsed : ids.parse id = some key) (stream : EventStream κ) (here : Surroundings κ)
    (beyond : Beyond ids key stream) :
    Beyond ids key (stream.step ids.toEventIds here).1 ∧
      ∀ frame ∈ (stream.step ids.toEventIds here).2, ComesAfter ids id frame := by
  obtain ⟨cursor, at_cursor, reached, there⟩ := beyond
  have read : brokerRead ids.toEventIds here.log stream.cursor = some (page here.log cursor pageSize) := by
    rw [brokerRead, at_cursor, Option.map_some]
  have quiet : ∀ frame ∈ ([] : List SseFrame), ComesAfter ids id frame := fun frame member => absurd member List.not_mem_nil
  cases point : stream.point with
  | checking events =>
      rw [point] at there
      by_cases gone : here.connected = false
      · simp only [EventStream.step, point, if_pos gone]
        exact ⟨⟨cursor, at_cursor, reached, trivial⟩, quiet⟩
      · by_cases empty : events = []
        · simp only [EventStream.step, point, if_neg gone, if_pos empty]
          exact ⟨⟨cursor, at_cursor, reached, trivial⟩, quiet⟩
        · simp only [EventStream.step, point, if_neg gone, if_neg empty]
          exact ⟨⟨cursor, at_cursor, reached, there⟩, quiet⟩
  | reading =>
      cases paged : page here.log cursor pageSize with
      | nil =>
          simp only [EventStream.step, point, read, paged]
          exact ⟨⟨cursor, at_cursor, reached, fun entry member => absurd member List.not_mem_nil⟩,
            List.forall_mem_singleton.mpr trivial⟩
      | cons first more =>
          simp only [EventStream.step, point, read, paged]
          exact ⟨⟨cursor, at_cursor, reached, paged ▸ page_beyond here.log key cursor reached⟩, quiet⟩
  | sending events =>
      rw [point] at there
      cases events with
      | nil =>
          simp only [EventStream.step, point]
          exact ⟨⟨cursor, at_cursor, reached, fun entry member => absurd member List.not_mem_nil⟩, quiet⟩
      | cons entry rest =>
          obtain ⟨following, event⟩ := entry
          have above : key < following := there (following, event) List.mem_cons_self
          simp only [EventStream.step, point]
          refine ⟨⟨following, ids.parse_render following, le_of_lt above, ?_⟩,
            List.forall_mem_singleton.mpr ⟨key, following, event, parsed, rfl, rfl, above⟩⟩
          dsimp only
          by_cases ends : (SseFrame.event (ids.render following) (.broker event)).isTerminal = true
          · rw [if_pos ends]
            trivial
          · rw [if_neg ends]
            exact fun other member => there other (List.mem_cons_of_mem _ member)
  | returned =>
      simp only [EventStream.step, point]
      refine ⟨⟨cursor, at_cursor, reached, ?_⟩, quiet⟩
      rw [point]
      trivial
  | _ =>
      rw [point] at there
      exact there.elim

theorem beyond_serve (id : String) (key : κ) (parsed : ids.parse id = some key) (seen : List (Surroundings κ))
    (stream : EventStream κ) (beyond : Beyond ids key stream) :
    (stream.serve ids.toEventIds seen).1.point ≠ .raised ∧
      ∀ frame ∈ (stream.serve ids.toEventIds seen).2, ComesAfter ids id frame := by
  induction seen generalizing stream with
  | nil =>
      refine ⟨fun raised => ?_, fun frame member => absurd member List.not_mem_nil⟩
      obtain ⟨_, _, _, there⟩ := beyond
      rw [EventStream.serve] at raised
      rw [raised] at there
      exact there
  | cons here rest ih =>
      obtain ⟨next, sent⟩ := beyond_step ids id key parsed stream here beyond
      obtain ⟨fine, later⟩ := ih _ next
      refine ⟨fine, fun frame member => ?_⟩
      rcases List.mem_append.mp member with now | after
      · exact sent frame now
      · exact later frame after

theorem broker_id_resumes (conversationId : Uuid) (row : Message) (key : κ) (here : Surroundings κ)
    (going : later here.log key ≠ [] ∨ here.running = true) : Resumes ids conversationId row (ids.render key) here := by
  intro rest
  have cursor := respond_cursor (κ := κ) conversationId row (ids.render key) (ids.given key)
  have read : brokerRead ids.toEventIds here.log (ids.render key) = some (page here.log key pageSize) := by
    rw [brokerRead, ids.parse_render, Option.map_some]
  have goes : ¬ (page here.log key pageSize = [] ∧ here.running = false) := by
    rintro ⟨empty, idle⟩
    rcases going with given | running
    · exact given ((page_nil_iff _ _ _ (by decide)).mp empty)
    · rw [idle] at running
      cases running
  have opened : (respond conversationId row (some (ids.render key)) : EventStream κ).step ids.toEventIds here =
      ((respond conversationId row (some (ids.render key))).at (.checking (page here.log key pageSize)), []) := by
    simp only [EventStream.step, respond, orElseText, Option.getD_some, if_neg (ids.given key), read, if_neg goes]
  rw [EventStream.serve, opened]
  refine beyond_serve ids (ids.render key) key (ids.parse_render key) rest _ ⟨key, ?_, le_rfl, page_beyond _ key key le_rfl⟩
  rw [EventStream.at, cursor]
  exact ids.parse_render key

theorem broker_id_repeats (conversationId : Uuid) (row : Message) (key : κ) (here : Surroundings κ)
    (nothing : later here.log key = []) (idle : here.running = false) :
    ¬ Resumes ids conversationId row (ids.render key) here := by
  intro resumes
  have read : brokerRead ids.toEventIds here.log (ids.render key) = some [] := by
    rw [brokerRead, ids.parse_render, Option.map_some, (page_nil_iff _ _ _ (by decide)).mpr nothing]
  have opened : (respond conversationId row (some (ids.render key)) : EventStream κ).step ids.toEventIds here =
      ((respond conversationId row (some (ids.render key))).at (.snapshot (snapshotFrames conversationId row)), []) := by
    simp only [EventStream.step, respond, orElseText, Option.getD_some, if_neg (ids.given key), read, idle, and_self, if_true]
  have shown := (resumes [here]).2 (.event "snapshot-start" (.snapshotStart conversationId row.id))
  rw [EventStream.serve, opened] at shown
  obtain ⟨_, _, _, _, _, never, _⟩ := shown List.mem_cons_self
  cases never

theorem snapshot_id_raises (conversationId : Uuid) (row : Message) (text : String) (here : Surroundings κ) :
    ¬ Resumes ids conversationId row ("snapshot-" ++ text) here := by
  intro resumes
  have given : "snapshot-" ++ text ≠ "" := by simp [← String.toList_inj]
  have read : brokerRead ids.toEventIds here.log ("snapshot-" ++ text) = none := by
    rw [brokerRead, ids.foreign, Option.map_none]
  have raised := (resumes []).1
  rw [EventStream.serve, EventStream.step, respond_cursor conversationId row _ given, read] at raised
  exact raised rfl

theorem sent_id_resumes_iff (conversationId : Uuid) (message row : Message) (header : Option String)
    (seen : List (Surroundings κ)) (id : String) (sent : ServerEvent) (here : Surroundings κ)
    (delivered : .event id sent ∈ ((respond conversationId message header).serve ids.toEventIds seen).2) :
    Resumes ids conversationId row id here ↔
      ∃ key event, id = ids.render key ∧ sent = .broker event ∧ (later here.log key ≠ [] ∨ here.running = true) := by
  rcases known_serve ids seen (respond conversationId message header) trivial _ delivered with
    ⟨key, event, rfl, rfl⟩ | ⟨⟨text, rfl⟩, foreign⟩
  · constructor
    · intro resumes
      refine ⟨key, event, rfl, rfl, ?_⟩
      by_contra stopped
      rw [not_or, not_not, Bool.not_eq_true] at stopped
      exact broker_id_repeats ids conversationId row key here stopped.1 stopped.2 resumes
    · rintro ⟨other, _, same, _, going⟩
      obtain rfl := ids.render_injective key other same
      exact broker_id_resumes ids conversationId row key here going
  · refine iff_of_false (snapshot_id_raises ids conversationId row text here) ?_
    rintro ⟨_, event, _, broker, _⟩
    exact foreign event broker

section Sample

-- A settled answer whose events the broker does not hold any more, and the events of a running one.
def settledRow : Message where
  id := 16
  sequence := 2
  role := .assistant
  content := some "3"
  status := .completed

def forgotten : Surroundings Nat := ⟨[], false, true⟩

def startedLog : Surroundings Nat := ⟨[(1, .start 1 16 7 8)], true, true⟩

end Sample

theorem sent_id_resumes_iff_started :
    Resumes inMemoryCursorIds 1 settledRow (eventId 1) startedLog := by
  have opened : (respond 1 settledRow none : EventStream Nat).step inMemoryIds startedLog =
      ((respond 1 settledRow none).at (.checking startedLog.log), []) := by
    simp [EventStream.step, respond, orElseText, brokerRead, in_memory_origin, startedLog, page, later, pageSize]
  have delivered : .event (eventId 1) (.broker (.start 1 16 7 8)) ∈
      ((respond 1 settledRow none).serve inMemoryIds [startedLog, startedLog, startedLog]).2 := by
    rw [EventStream.serve, opened]
    exact List.mem_singleton.mpr rfl
  exact (sent_id_resumes_iff inMemoryCursorIds 1 settledRow settledRow none [startedLog, startedLog, startedLog] (eventId 1)
    (.broker (.start 1 16 7 8)) startedLog delivered).mpr ⟨1, .start 1 16 7 8, rfl, rfl, .inr rfl⟩

-- A snapshot is served once; its ids are refused.
theorem snapshot_start_refused :
    ¬ ∀ (conversationId : Uuid) (message row : Message) (header : Option String) (seen : List (Surroundings Nat)) (id : String)
        (sent : ServerEvent) (here : Surroundings Nat),
        .event id sent ∈ ((respond conversationId message header).serve inMemoryIds seen).2 →
          Resumes inMemoryCursorIds conversationId row id here := by
  intro claim
  have opened : (respond 1 settledRow none : EventStream Nat).step inMemoryIds forgotten =
      ((respond 1 settledRow none).at (.snapshot (snapshotFrames 1 settledRow)), []) := by
    simp [EventStream.step, respond, orElseText, brokerRead, in_memory_origin, forgotten, page, later]
  have delivered : .event "snapshot-start" (.snapshotStart 1 16) ∈
      ((respond 1 settledRow none).serve inMemoryIds [forgotten, forgotten]).2 := by
    rw [EventStream.serve, opened]
    exact List.mem_singleton.mpr rfl
  have resumes := claim 1 settledRow settledRow none [forgotten, forgotten] "snapshot-start" (.snapshotStart 1 16) forgotten
    delivered
  exact snapshot_id_raises inMemoryCursorIds 1 settledRow "start" forgotten resumes

end DataPilot.Chat
