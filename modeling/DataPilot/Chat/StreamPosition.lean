import DataPilot.Chat.Publishing

set_option autoImplicit false

namespace DataPilot.Chat

open DataPilot.Base DataPilot.Agent

def StreamPoint.isOpening {κ : Type} : StreamPoint κ → Bool
  | .opening => true
  | _ => false

def SseFrame.received : SseFrame → Option (String × ServerEvent)
  | .ping => none
  | .event id sent => some (id, sent)

variable {κ : Type} (ids : EventIds κ)

def asSent (entry : κ × BrokerEvent) : String × ServerEvent := (ids.render entry.1, .broker entry.2)

def Position (start : κ) (read rest : List (κ × BrokerEvent)) (stream : EventStream κ) : Prop :=
  ids.parse stream.cursor = some (cursorAfter start read) ∧
    match stream.point with
    | .opening => True
    | .reading => True
    | .checking events => events <+: rest
    | .sending events => events <+: rest
    | .returned => ∃ before last, read = before ++ [last] ∧ last.2.isTerminal = true
    | _ => False

variable {ids}

theorem position_extends (start : κ) (read rest added : List (κ × BrokerEvent)) (stream : EventStream κ)
    (position : Position ids start read rest stream) : Position ids start read (rest ++ added) stream := by
  obtain ⟨cursor, there⟩ := position
  refine ⟨cursor, ?_⟩
  cases point : stream.point with
  | checking events =>
      rw [point] at there
      exact there.trans (List.prefix_append _ _)
  | sending events =>
      rw [point] at there
      exact there.trans (List.prefix_append _ _)
  | _ =>
      rw [point] at there
      exact there

variable [LinearOrder κ]

theorem position_step (log : BrokerLog κ) (start : κ) (read rest : List (κ × BrokerEvent)) (running : Bool)
    (stream : EventStream κ) (split : later log.entries start = read ++ rest)
    (opens : stream.point.isOpening = true → running = true ∨ rest ≠ []) (position : Position ids start read rest stream) :
    ∃ sent left, rest = sent ++ left ∧
      (stream.step ids ⟨log.entries, running, true⟩).2.filterMap SseFrame.received = sent.map (asSent ids) ∧
      Position ids start (read ++ sent) left (stream.step ids ⟨log.entries, running, true⟩).1 := by
  obtain ⟨cursor, there⟩ := position
  have following := later_cursor_after log.entries read rest start log.ordered split
  have found : brokerRead ids log.entries stream.cursor = some (rest.take pageSize) := by
    rw [brokerRead, cursor, Option.map_some, page, following]
  have stays : ∀ point, stream.step ids ⟨log.entries, running, true⟩ = (stream.at point, []) →
      Position ids start read rest (stream.at point) → ∃ sent left, rest = sent ++ left ∧
        (stream.step ids ⟨log.entries, running, true⟩).2.filterMap SseFrame.received = sent.map (asSent ids) ∧
        Position ids start (read ++ sent) left (stream.step ids ⟨log.entries, running, true⟩).1 := by
    intro point taken placed
    refine ⟨[], rest, rfl, ?_, ?_⟩ <;> rw [taken]
    · rfl
    · simpa using placed
  cases point : stream.point with
  | opening =>
      have going : ¬ (rest.take pageSize = [] ∧ running = false) := by
        rintro ⟨empty, stopped⟩
        rcases opens (by rw [point]; rfl) with runs | given
        · rw [stopped] at runs
          cases runs
        · exact (List.take_eq_nil_iff.mp empty).elim (by decide) given
      refine stays (.checking (rest.take pageSize)) ?_ ⟨cursor, List.take_prefix ..⟩
      simp only [EventStream.step, point, found, going, if_false]
  | checking events =>
      rw [point] at there
      by_cases empty : events = []
      · refine stays .reading ?_ ⟨cursor, trivial⟩
        simp [EventStream.step, point, empty]
      · refine stays (.sending events) ?_ ⟨cursor, there⟩
        simp [EventStream.step, point, empty]
  | reading =>
      cases paged : rest.take pageSize with
      | nil =>
          refine ⟨[], rest, rfl, ?_, ?_⟩ <;> simp only [EventStream.step, point, found, paged]
          · rfl
          · rw [List.append_nil]
            exact ⟨cursor, List.nil_prefix⟩
      | cons first more =>
          refine stays (.sending (first :: more)) ?_ ⟨cursor, paged ▸ List.take_prefix ..⟩
          simp only [EventStream.step, point, found, paged]
  | sending events =>
      rw [point] at there
      cases events with
      | nil =>
          refine stays (.checking []) ?_ ⟨cursor, List.nil_prefix⟩
          simp only [EventStream.step, point]
      | cons entry events =>
          obtain ⟨key, event⟩ := entry
          obtain ⟨left, rfl⟩ := there
          refine ⟨[(key, event)], events ++ left, rfl, ?_, ?_⟩ <;> simp only [EventStream.step, point]
          · rfl
          · refine ⟨by simpa using ids.parse_render key, ?_⟩
            dsimp only
            cases ends : (SseFrame.event (ids.render key) (.broker event)).isTerminal with
            | true => exact ⟨read, (key, event), rfl, ends⟩
            | false => exact List.prefix_append _ _
  | returned =>
      refine ⟨[], rest, rfl, ?_, ?_⟩ <;> simp only [EventStream.step, point]
      · rfl
      · rw [List.append_nil]
        exact ⟨cursor, by rw [point] at there ⊢; exact there⟩
  | snapshot frames =>
      rw [point] at there
      exact there.elim
  | raised =>
      rw [point] at there
      exact there.elim

end DataPilot.Chat
