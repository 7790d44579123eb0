import DataPilot.Chat.EventStream
import DataPilot.Chat.Store
import DataPilot.Chat.WorkerProtocol

set_option autoImplicit false

namespace DataPilot.Chat

open DataPilot.Base DataPilot.Agent

variable {κ : Type} [LinearOrder κ] (ids : EventIds κ)

def stopped (log : BrokerLog κ) : Surroundings κ := ⟨log.entries, false, true⟩

def EventStream.run (stream : EventStream κ) (here : Surroundings κ) : Nat → EventStream κ × List SseFrame
  | 0 => (stream, [])
  | steps + 1 =>
      let next := stream.step ids here
      let rest := next.1.run here steps
      (rest.1, next.2 ++ rest.2)

def EndsTerminal (here : Surroundings κ) (stream : EventStream κ) : Prop :=
  ∃ steps, (stream.run ids here steps).1.point = .returned ∧
    ∃ frame, (stream.run ids here steps).2.getLast? = some frame ∧ frame.isTerminal = true

def recovered (message : Message) : Message :=
  if message.status = .streaming then { message with status := .error } else message

def openedStream (conversationId : Uuid) (message : Message) (lastEventId : String) : EventStream κ :=
  { conversationId, message := recovered message, cursor := lastEventId }

def Terminal (entry : κ × BrokerEvent) : Prop := entry.2.name ∈ terminalNames

instance (entry : κ × BrokerEvent) : Decidable (Terminal entry) := inferInstanceAs (Decidable (_ ∈ _))

theorem recovered_settled (message : Message) : (recovered message).status ≠ .streaming := by
  unfold recovered
  by_cases streaming : message.status = .streaming
  · rw [if_pos streaming]
    intro same
    cases same
  · rw [if_neg streaming]
    exact streaming

theorem recovery_answers (store : Store) (workspaceId : Uuid) (message : Message) (now : Nat)
    (streaming : message.status = .streaming) (found : store.getMessage workspaceId message.id = some message) :
    ∃ after, store.completeAssistantMessage workspaceId message.id ⟨message.content, .error, message.steps⟩ now =
      .ok (after, recovered message) := by
  rw [Store.completeAssistantMessage, found, recovered, if_pos streaming]
  exact ⟨_, rfl⟩

theorem ends_step (here : Surroundings κ) (stream : EventStream κ)
    (ends : EndsTerminal ids here (stream.step ids here).1) : EndsTerminal ids here stream := by
  obtain ⟨steps, returned, frame, last, terminal⟩ := ends
  refine ⟨steps + 1, returned, frame, ?_, terminal⟩
  rw [EventStream.run]
  dsimp only
  rw [List.getLast?_append, last]
  rfl

theorem ends_snapshot (here : Surroundings κ) (stream : EventStream κ) (frames : List SseFrame) (last : SseFrame)
    (point : stream.point = .snapshot (frames ++ [last])) (terminal : last.isTerminal = true) :
    EndsTerminal ids here stream := by
  induction frames generalizing stream with
  | nil =>
      refine ⟨2, ?_, last, ?_, terminal⟩ <;>
        simp [EventStream.run, EventStream.step, EventStream.at, point]
  | cons frame rest ih =>
      refine ends_step ids here stream (ih _ ?_)
      rw [EventStream.step, point]
      rfl

theorem ends_sending (log : BrokerLog κ) (todo : List (κ × BrokerEvent)) (stream : EventStream κ)
    (events : List (κ × BrokerEvent)) (cursor : κ) (point : stream.point = .sending events)
    (at_cursor : ids.parse stream.cursor = some cursor) (left : later log.entries cursor = todo)
    (begins : events <+: todo) (given : events ≠ []) (terminal : ∃ entry ∈ todo, Terminal entry) :
    EndsTerminal ids (stopped log) stream := by
  induction todo generalizing stream events cursor with
  | nil => simp at terminal
  | cons entry rest ih =>
      obtain ⟨events, rfl⟩ : ∃ more, events = entry :: more := by
        cases events with
        | nil => exact absurd rfl given
        | cons first more =>
            obtain ⟨rfl, _⟩ := List.cons_prefix_cons.mp begins
            exact ⟨more, rfl⟩
      obtain ⟨key, event⟩ := entry
      have following : later log.entries key = rest := by
        have split := later_cursor_after log.entries [(key, event)] rest cursor log.ordered left
        simpa [cursorAfter] using split
      by_cases ends : Terminal (key, event)
      · have shown : (SseFrame.event (ids.render key) (.broker event)).isTerminal = true :=
          decide_eq_true ends
        refine ⟨1, ?_, _, ?_, shown⟩
        · simp [EventStream.run, EventStream.step, point, shown]
        · simp [EventStream.run, EventStream.step, point]
      · have shown : (SseFrame.event (ids.render key) (.broker event)).isTerminal = false :=
          decide_eq_false ends
        have later_terminal : ∃ entry ∈ rest, Terminal entry := by
          obtain ⟨entry, member, found⟩ := terminal
          rcases List.mem_cons.mp member with rfl | inside
          · exact absurd found ends
          · exact ⟨entry, inside, found⟩
        have next : (stream.step ids (stopped log)).1 = { stream with cursor := ids.render key, point := .sending events } := by
          simp [EventStream.step, point, shown]
        refine ends_step ids _ stream ?_
        rw [next]
        cases events with
        | cons first more =>
            exact ih _ (first :: more) key rfl (ids.parse_render key) following (List.cons_prefix_cons.mp begins).2
              (List.cons_ne_nil _ _) later_terminal
        | nil =>
            -- The page is through: the client is checked and the next page is read.
            have read : brokerRead ids log.entries (ids.render key) = some (page log.entries key pageSize) := by
              rw [brokerRead, ids.parse_render, Option.map_some]
            have nonempty : page log.entries key pageSize ≠ [] := by
              rw [ne_eq, page_nil_iff _ _ _ (by decide), following]
              rintro rfl
              simp at later_terminal
            refine ends_step ids _ _ (ends_step ids _ _ (ends_step ids _ _ ?_))
            obtain ⟨first, more, paged⟩ := List.exists_cons_of_ne_nil nonempty
            refine ih _ (page log.entries key pageSize) key ?_ ?_ following ?_ nonempty later_terminal
            · simp [EventStream.step, EventStream.at, stopped, read, paged]
            · simp [EventStream.step, EventStream.at, stopped, read, paged, ids.parse_render]
            · exact following ▸ page_front log.entries key pageSize

theorem snapshot_terminal (conversationId : Uuid) (message : Message) :
    ∃ frames last, snapshotFrames conversationId (recovered message) = frames ++ [last] ∧ last.isTerminal = true :=
  ⟨_, _, rfl, decide_eq_true (settled_terminal _ (recovered_settled message))⟩

-- Where a stream is that has nothing terminal to read after its first cursor.
def Waiting (log : BrokerLog κ) (start : κ) (stream : EventStream κ) : Prop :=
  ∃ cursor, ids.parse stream.cursor = some cursor ∧ start ≤ cursor ∧
    match stream.point with
    | .opening => later log.entries cursor ≠ []
    | .checking events => ∀ entry ∈ events, entry ∈ later log.entries start
    | .sending events => ∀ entry ∈ events, entry ∈ later log.entries start
    | .reading => True
    | _ => False

theorem page_later (log : BrokerLog κ) (start cursor : κ) (reached : start ≤ cursor) (entry : κ × BrokerEvent)
    (member : entry ∈ page log.entries cursor pageSize) : entry ∈ later log.entries start := by
  have inside := (mem_later log.entries cursor entry).mp ((page_front log.entries cursor pageSize).subset member)
  exact (mem_later log.entries start entry).mpr ⟨inside.1, lt_of_le_of_lt reached inside.2⟩

theorem waiting_step (log : BrokerLog κ) (start : κ) (stream : EventStream κ)
    (silent : ∀ entry ∈ later log.entries start, ¬ Terminal entry) (waiting : Waiting ids log start stream) :
    Waiting ids log start (stream.step ids (stopped log)).1 := by
  obtain ⟨cursor, at_cursor, reached, there⟩ := waiting
  have read : brokerRead ids log.entries stream.cursor = some (page log.entries cursor pageSize) := by
    rw [brokerRead, at_cursor, Option.map_some]
  cases point : stream.point with
  | opening =>
      rw [point] at there
      have nonempty : page log.entries cursor pageSize ≠ [] := by
        rwa [ne_eq, page_nil_iff _ _ _ (by decide)]
      refine ⟨cursor, ?_, reached, ?_⟩ <;>
        simp only [EventStream.step, point, stopped, read, nonempty, false_and, if_false, EventStream.at]
      · exact at_cursor
      · exact fun entry member => page_later log start cursor reached entry member
  | checking events =>
      rw [point] at there
      by_cases empty : events = []
      · exact ⟨cursor, by simpa [EventStream.step, point, stopped, empty, EventStream.at] using at_cursor, reached,
          by simp [EventStream.step, point, stopped, empty, EventStream.at]⟩
      · refine ⟨cursor, ?_, reached, ?_⟩ <;> simp only [EventStream.step, point, stopped, empty, if_false, EventStream.at]
        · exact at_cursor
        · exact there
  | reading =>
      cases paged : page log.entries cursor pageSize with
      | nil =>
          refine ⟨cursor, ?_, reached, ?_⟩ <;>
            simp only [EventStream.step, point, stopped, read, paged, EventStream.at]
          · exact at_cursor
          · simp
      | cons first more =>
          refine ⟨cursor, ?_, reached, ?_⟩ <;>
            simp only [EventStream.step, point, stopped, read, paged, EventStream.at]
          · exact at_cursor
          · exact fun entry member => page_later log start cursor reached entry (paged ▸ member)
  | sending events =>
      rw [point] at there
      cases events with
      | nil =>
          refine ⟨cursor, ?_, reached, ?_⟩ <;> simp only [EventStream.step, point, EventStream.at]
          · exact at_cursor
          · simp
      | cons entry rest =>
          obtain ⟨key, event⟩ := entry
          have inside := there (key, event) (List.mem_cons_self ..)
          have shown : (SseFrame.event (ids.render key) (.broker event)).isTerminal = false :=
            decide_eq_false (silent _ inside)
          refine ⟨key, ?_, le_of_lt ((mem_later _ _ _).mp inside).2, ?_⟩ <;>
            simp only [EventStream.step, point, shown, Bool.false_eq_true, if_false]
          · exact ids.parse_render key
          · exact fun other member => there other (List.mem_cons_of_mem _ member)
  | snapshot frames =>
      rw [point] at there
      exact there.elim
  | returned =>
      rw [point] at there
      exact there.elim
  | raised =>
      rw [point] at there
      exact there.elim

theorem waiting_run (log : BrokerLog κ) (start : κ) (stream : EventStream κ) (steps : Nat)
    (silent : ∀ entry ∈ later log.entries start, ¬ Terminal entry) (waiting : Waiting ids log start stream) :
    Waiting ids log start (stream.run ids (stopped log) steps).1 := by
  induction steps generalizing stream with
  | zero => exact waiting
  | succ steps ih => exact ih _ (waiting_step ids log start stream silent waiting)

theorem raised_run (here : Surroundings κ) (stream : EventStream κ) (steps : Nat) (point : stream.point = .raised) :
    (stream.run ids here steps).1 = stream := by
  induction steps with
  | zero => rfl
  | succ steps ih =>
      have stays : stream.step ids here = (stream, []) := by rw [EventStream.step, point]
      rw [EventStream.run, stays]
      exact ih

-- A cursor that is an id, with nothing to read after it or something terminal.
def Readable (log : BrokerLog κ) (lastEventId : String) : Prop :=
  ∃ cursor, ids.parse lastEventId = some cursor ∧
    (later log.entries cursor = [] ∨ ∃ entry ∈ later log.entries cursor, Terminal entry)

theorem ends_readable (log : BrokerLog κ) (conversationId : Uuid) (message : Message) (lastEventId : String)
    (ends : EndsTerminal ids (stopped log) (openedStream conversationId message lastEventId)) :
    Readable ids log lastEventId := by
  obtain ⟨steps, returned, frame, last, _⟩ := ends
  cases parsed : ids.parse lastEventId with
  | none =>
      cases steps with
      | zero => cases returned
      | succ steps =>
          have raised : ((openedStream conversationId message lastEventId).step ids (stopped log)).1.point = .raised := by
            simp [EventStream.step, openedStream, EventStream.at, brokerRead, parsed]
          rw [EventStream.run] at returned
          dsimp only at returned
          rw [raised_run ids _ _ steps raised, raised] at returned
          cases returned
  | some cursor =>
      refine ⟨cursor, parsed, ?_⟩
      by_contra neither
      rw [not_or, not_exists] at neither
      obtain ⟨given, silent⟩ := neither
      obtain ⟨_, _, _, there⟩ := waiting_run ids log cursor (openedStream conversationId message lastEventId) steps
        (fun entry member ends => silent entry ⟨member, ends⟩) ⟨cursor, parsed, le_rfl, given⟩
      rw [returned] at there
      exact there

theorem readable_ends (log : BrokerLog κ) (conversationId : Uuid) (message : Message) (lastEventId : String)
    (readable : Readable ids log lastEventId) :
    EndsTerminal ids (stopped log) (openedStream conversationId message lastEventId) := by
  obtain ⟨cursor, parsed, nothing | terminal⟩ := readable
  · have empty : page log.entries cursor pageSize = [] := (page_nil_iff _ _ _ (by decide)).mpr nothing
    obtain ⟨frames, last, shot, ends⟩ := snapshot_terminal conversationId message
    refine ends_step ids _ _ (ends_snapshot ids _ _ frames last ?_ ends)
    rw [← shot]
    simp [EventStream.step, openedStream, stopped, EventStream.at, brokerRead, parsed, empty]
  · have nonempty : page log.entries cursor pageSize ≠ [] := by
      rw [ne_eq, page_nil_iff _ _ _ (by decide)]
      obtain ⟨entry, member, _⟩ := terminal
      exact List.ne_nil_of_mem member
    refine ends_step ids _ _ (ends_step ids _ _ ?_)
    refine ends_sending ids log _ _ (page log.entries cursor pageSize) cursor ?_ ?_ rfl (page_front ..) nonempty terminal
    · simp [EventStream.step, openedStream, stopped, EventStream.at, brokerRead, parsed, nonempty]
    · simp [EventStream.step, openedStream, stopped, EventStream.at, brokerRead, parsed, nonempty]

theorem stopped_stream_ends_iff (log : BrokerLog κ) (conversationId : Uuid) (message : Message) (lastEventId : String) :
    EndsTerminal ids (stopped log) (openedStream conversationId message lastEventId) ↔ Readable ids log lastEventId :=
  ⟨ends_readable ids log conversationId message lastEventId, readable_ends ids log conversationId message lastEventId⟩

def LeftBehind (log : BrokerLog κ) : Prop :=
  ∃ arguments inputs left, runFrom WorkerRun.step ⟨{ arguments }, [], none⟩ inputs = some left ∧
    log.entries.map Prod.snd <+: left.published

section Sample

def strandedRow : Message where
  id := 16
  sequence := 2
  role := .assistant
  content := some ""
  status := .streaming

def strandedEvent : BrokerEvent := .start 1 16 7 8

def strandedBroker : InMemoryEventBroker := InMemoryEventBroker.publish {} 16 strandedEvent

theorem stranded_left_behind : LeftBehind (strandedBroker.log 16) :=
  ⟨⟨16, 2, 1, 7, 8, "How many rows?"⟩, [.begin, .cancelled true], _, rfl, List.prefix_rfl⟩

end Sample

-- A start event with no terminal event after it keeps the stream in its ping loop.
theorem stranded_stream_pings :
    ¬ ∀ (broker : InMemoryEventBroker) (messageId conversationId : Uuid) (message : Message) (lastEventId : String),
      LeftBehind (broker.log messageId) →
        EndsTerminal inMemoryIds (stopped (broker.log messageId)) (openedStream conversationId message lastEventId) := by
  intro claim
  have ends := claim strandedBroker 16 1 strandedRow "0-0" stranded_left_behind
  obtain ⟨cursor, parsed, left⟩ := ends_readable _ _ _ _ _ ends
  have zero : inMemoryIds.parse "0-0" = some 0 := by decide +kernel
  obtain rfl : cursor = 0 := by simpa [zero] using parsed.symm
  have entries : later (strandedBroker.log 16).entries 0 = [(1, strandedEvent)] := rfl
  rw [entries] at left
  rcases left with nothing | ⟨entry, member, ends⟩
  · cases nothing
  · obtain rfl := List.mem_singleton.mp member
    exact absurd ends (by decide)

end DataPilot.Chat
