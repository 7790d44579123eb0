import DataPilot.Chat.RedisBroker

set_option autoImplicit false

namespace DataPilot.Chat

open DataPilot.Base DataPilot.Agent

variable {κ : Type}

-- An event of the message as a read returns it.
def asRead (ids : EventIds κ) (payload : BrokerEvent → Payload) (entry : κ × BrokerEvent) : ReadEvent :=
  ⟨ids.render entry.1, entry.2.name, (payload entry.2).fields⟩

theorem read_stored (ids : EventIds κ) (payload : BrokerEvent → Payload) (entry : κ × BrokerEvent) :
    readEntry ids (stored payload entry) = some (asRead ids payload entry) := by
  have name : (stored payload entry).2.lookup "event" = some entry.2.name := rfl
  have data : (stored payload entry).2.lookup "data" = some (dumps compactStyle (.obj (payload entry.2).fields)) := rfl
  rw [readEntry, name, data]
  dsimp only
  rw [Payload.loads_dumps]
  rfl

theorem map_read_stored (ids : EventIds κ) (payload : BrokerEvent → Payload) (entries : List (κ × BrokerEvent)) :
    (entries.map (stored payload)).mapM (readEntry ids) = some (entries.map (asRead ids payload)) := by
  induction entries with
  | nil => rfl
  | cons entry rest ih => rw [List.map_cons, List.mapM_cons, ih, read_stored]; rfl

theorem read_entry_id (ids : EventIds κ) (entry : κ × StreamFields) (event : ReadEvent)
    (read : readEntry ids entry = some event) : event.id = ids.render entry.1 := by
  unfold readEntry at read
  split at read
  · split at read
    · cases read
      rfl
    · cases read
  · cases read

theorem map_read_ids (ids : EventIds κ) (entries : List (κ × StreamFields)) (events : List ReadEvent)
    (read : entries.mapM (readEntry ids) = some events) : events.map ReadEvent.id = entries.map (ids.render ·.1) := by
  induction entries generalizing events with
  | nil =>
      cases read
      rfl
  | cons entry rest ih =>
      rw [List.mapM_cons] at read
      obtain ⟨event, first, others⟩ := Option.bind_eq_some_iff.mp read
      obtain ⟨more, following, same⟩ := Option.bind_eq_some_iff.mp others
      cases same
      rw [List.map_cons, List.map_cons, ih more following, read_entry_id ids entry event first]

-- A stream that keeps the newest entries only.
def RedisStream.Newest (maxEvents : Nat) (payload : BrokerEvent → Payload) (stream : RedisStream κ) : Prop :=
  stream.entries = (stream.added.map (stored payload)).drop (stream.added.length - maxEvents)

theorem newest_empty (maxEvents : Nat) (payload : BrokerEvent → Payload) :
    ({} : RedisStream κ).Newest maxEvents payload := by
  simp [RedisStream.Newest]

variable [LinearOrder κ] {ids : EventIds κ} (redis : Redis ids) (maxEvents : Nat) (payload : BrokerEvent → Payload)

-- A stream keeps of what was added at least all that is less than the limit behind.
structure RedisStream.Consistent (stream : RedisStream κ) : Prop where
  numbered : stream.added.map Prod.fst = (List.range stream.added.length).map redis.id
  kept : stream.entries.Sublist (stream.added.map (stored payload))
  near : ∀ cursor, (later stream.added cursor).length ≤ maxEvents →
    later stream.entries cursor = (later stream.added cursor).map (stored payload)

variable {redis maxEvents payload}

theorem later_stored (log : List (κ × BrokerEvent)) (cursor : κ) :
    later (log.map (stored payload)) cursor = (later log cursor).map (stored payload) :=
  later_map (stored payload) (fun _ => rfl) log cursor

theorem RedisStream.Consistent.key {stream : RedisStream κ} (consistent : stream.Consistent redis maxEvents payload)
    (entry : κ × BrokerEvent) (member : entry ∈ stream.added) :
    ∃ count < stream.added.length, redis.id count = entry.1 := by
  have listed : entry.1 ∈ stream.added.map Prod.fst := List.mem_map_of_mem member
  rw [consistent.numbered] at listed
  simpa using listed

theorem RedisStream.Consistent.old {stream : RedisStream κ} (consistent : stream.Consistent redis maxEvents payload)
    (entry : κ × BrokerEvent) (member : entry ∈ stream.added) : entry.1 < redis.id stream.added.length := by
  obtain ⟨count, below, same⟩ := consistent.key entry member
  rw [← same]
  exact redis.increasing below

theorem RedisStream.Consistent.ordered {stream : RedisStream κ}
    (consistent : stream.Consistent redis maxEvents payload) : Ordered stream.added := by
  have sorted : ((List.range stream.added.length).map redis.id).Pairwise (· < ·) :=
    List.Pairwise.map _ (fun _ _ less => redis.increasing less) List.pairwise_lt_range
  rw [← consistent.numbered] at sorted
  exact List.pairwise_map.mp sorted

theorem consistent_empty : RedisStream.Consistent redis maxEvents payload {} :=
  ⟨rfl, List.Sublist.refl _, fun _ _ => rfl⟩

theorem publish_consistent (stream : RedisStream κ) (event : BrokerEvent)
    (consistent : stream.Consistent redis maxEvents payload) :
    (stream.publish redis maxEvents payload event).Consistent redis maxEvents payload := by
  have grown : (stream.publish redis maxEvents payload event).added =
      stream.added ++ [(redis.id stream.added.length, event)] := rfl
  have kept : (stream.entries ++ [stored payload (redis.id stream.added.length, event)]).Sublist
      ((stream.added ++ [(redis.id stream.added.length, event)]).map (stored payload)) := by
    rw [List.map_append]
    exact consistent.kept.append (List.Sublist.refl _)
  have grownOrdered : Ordered (stream.added ++ [(redis.id stream.added.length, event)]) :=
    ordered_snoc _ _ consistent.ordered consistent.old
  refine ⟨?_, (trim_sublist ..).trans kept, fun cursor near => ?_⟩
  · rw [grown, List.map_append, consistent.numbered, List.length_append, List.length_singleton, List.range_succ,
      List.map_append]
    rfl
  · rw [grown] at near ⊢
    have same : later (stream.entries ++ [stored payload (redis.id stream.added.length, event)]) cursor =
        (later (stream.added ++ [(redis.id stream.added.length, event)]) cursor).map (stored payload) := by
      by_cases passed : cursor < redis.id stream.added.length
      · rw [later_snoc _ _ _ passed, later_snoc _ _ _ passed, List.map_append, consistent.near]
        · rfl
        · rw [later_snoc _ _ _ passed, List.length_append] at near
          omega
      · have nothing : later (stream.added ++ [(redis.id stream.added.length, event)]) cursor = [] := by
          refine later_none _ _ fun entry member => ?_
          rcases List.mem_append.mp member with old | new
          · exact le_trans (le_of_lt (consistent.old entry old)) (not_lt.mp passed)
          · rw [List.mem_singleton.mp new]
            exact not_lt.mp passed
        have sub := later_sublist _ _ cursor kept
        rw [later_stored, nothing] at sub
        rw [nothing, List.sublist_nil.mp sub]
        rfl
    have sorted := ordered_sublist _ _ kept (List.pairwise_map.mpr grownOrdered)
    have short : (later (stream.entries ++ [stored payload (redis.id stream.added.length, event)]) cursor).length ≤
        maxEvents := by
      rw [same, List.length_map]
      exact near
    exact (later_trim maxEvents _ _ cursor sorted short).trans same

theorem publish_newest (stream : RedisStream κ) (event : BrokerEvent) (exact : redis.Exact)
    (newest : stream.Newest maxEvents payload) :
    (stream.publish redis maxEvents payload event).Newest maxEvents payload := by
  unfold RedisStream.Newest at newest ⊢
  have grown : (stream.publish redis maxEvents payload event).added =
      stream.added ++ [(redis.id stream.added.length, event)] := rfl
  have entries : (stream.publish redis maxEvents payload event).entries =
      trim maxEvents (redis.keep stream.added.length)
        (stream.entries ++ [stored payload (redis.id stream.added.length, event)]) := rfl
  have joined : stream.entries ++ [stored payload (redis.id stream.added.length, event)] =
      ((stream.added ++ [(redis.id stream.added.length, event)]).map (stored payload)).drop
        (stream.added.length - maxEvents) := by
    rw [newest, List.map_append, List.drop_append_of_le_length (by simp)]
    rfl
  rw [entries, exact, trim_exactly, joined, List.drop_drop, grown]
  congr 1
  simp only [List.length_drop, List.length_map, List.length_append, List.length_singleton]
  omega

theorem publish_entries (stream : RedisStream κ) (event : BrokerEvent) (entry : κ × StreamFields)
    (member : entry ∈ (stream.publish redis maxEvents payload event).entries) :
    entry ∈ stream.entries ∨ entry.1 = redis.id stream.added.length := by
  rcases List.mem_append.mp ((trim_sublist ..).subset member) with old | new
  · exact .inl old
  · rw [List.mem_singleton.mp new]
    exact .inr rfl

theorem publish_all (events : List BrokerEvent) (stream : RedisStream κ)
    (consistent : stream.Consistent redis maxEvents payload) :
    (stream.publishAll redis maxEvents payload events).Consistent redis maxEvents payload ∧
      (redis.Exact → stream.Newest maxEvents payload →
        (stream.publishAll redis maxEvents payload events).Newest maxEvents payload) ∧
      (∃ fresh, (stream.publishAll redis maxEvents payload events).added = stream.added ++ fresh ∧
        fresh.map Prod.snd = events ∧ ∀ entry ∈ fresh, redis.id stream.added.length ≤ entry.1) ∧
      ∀ entry ∈ (stream.publishAll redis maxEvents payload events).entries,
        entry ∈ stream.entries ∨ redis.id stream.added.length ≤ entry.1 := by
  induction events generalizing stream with
  | nil =>
      exact ⟨consistent, fun _ newest => newest, ⟨[], by simp [RedisStream.publishAll], rfl, by simp⟩, fun _ => .inl⟩
  | cons event rest ih =>
      obtain ⟨done, newest, ⟨fresh, grown, same, above⟩, kept⟩ := ih _ (publish_consistent stream event consistent)
      have further : redis.id stream.added.length ≤
          redis.id (stream.publish redis maxEvents payload event).added.length :=
        redis.increasing.monotone (by simp [RedisStream.publish])
      refine ⟨done, fun exact given => newest exact (publish_newest stream event exact given),
        ⟨(redis.id stream.added.length, event) :: fresh, grown.trans (List.append_assoc _ _ _), ?_, ?_⟩, ?_⟩
      · rw [List.map_cons, same]
      · exact List.forall_mem_cons.mpr ⟨le_rfl, fun entry member => le_trans further (above entry member)⟩
      · intro entry member
        rcases kept entry member with old | new
        · exact (publish_entries stream event entry old).imp_right (fun same => le_of_eq same.symm)
        · exact .inr (le_trans further new)

variable (ids payload)

-- A reader that started at a cursor has read one part of what was added behind
-- it and has the rest before it.
structure ReaderAt (added : List (κ × BrokerEvent)) (start : κ) (seen rest : List (κ × BrokerEvent))
    (reader : RedisReader) : Prop where
  started : ids.parse reader.start = some start
  split : later added start = seen ++ rest
  cursor : ids.parse reader.lastEventId = some (cursorAfter start seen)
  received : reader.received = seen.map (asRead ids payload)

variable {ids payload}

theorem reader_remaining (stream : RedisStream κ) (start : κ) (seen rest : List (κ × BrokerEvent))
    (reader : RedisReader) (consistent : stream.Consistent redis maxEvents payload)
    (placed : ReaderAt ids payload stream.added start seen rest reader) :
    later stream.added (cursorAfter start seen) = rest :=
  later_cursor_after stream.added seen rest start consistent.ordered placed.split

theorem reader_reads (stream : RedisStream κ) (start : κ) (seen rest : List (κ × BrokerEvent))
    (reader : RedisReader) (count : Nat) (consistent : stream.Consistent redis maxEvents payload)
    (placed : ReaderAt ids payload stream.added start seen rest reader) (near : rest.length ≤ maxEvents) :
    ∃ next, reader.read ids stream count = some next ∧
      ReaderAt ids payload stream.added start (seen ++ rest.take count) (rest.drop count) next := by
  have remaining := reader_remaining stream start seen rest reader consistent placed
  have found : stream.read ids reader.lastEventId count = some ((rest.take count).map (asRead ids payload)) := by
    rw [RedisStream.read, placed.cursor, Option.bind_some, page, consistent.near _ (by rw [remaining]; exact near),
      remaining, ← List.map_take, map_read_stored]
  let events := (rest.take count).map (asRead ids payload)
  refine ⟨⟨reader.start, (events.map ReadEvent.id).getLastD reader.lastEventId, reader.received ++ events⟩, ?_,
    placed.started, ?_, ?_, ?_⟩
  · rw [RedisReader.read, found]
    rfl
  · rw [List.append_assoc, List.take_append_drop]
    exact placed.split
  · dsimp only [events]
    cases page : rest.take count using List.reverseRecOn with
    | nil => simpa using placed.cursor
    | append_singleton front entry =>
        rw [← List.append_assoc, cursor_after_snoc]
        simpa [asRead] using ids.parse_render entry.1
  · dsimp only [events]
    rw [List.map_append, placed.received]

theorem reader_reads_all (stream : RedisStream κ) (start : κ) (count rounds : Nat) (positive : 0 < count)
    (consistent : stream.Consistent redis maxEvents payload) (seen rest : List (κ × BrokerEvent)) (reader : RedisReader)
    (placed : ReaderAt ids payload stream.added start seen rest reader) (near : rest.length ≤ maxEvents)
    (enough : rest.length ≤ rounds) :
    ∃ final, reader.reads ids stream count rounds = some final ∧
      final.received = (later stream.added start).map (asRead ids payload) := by
  induction rounds generalizing seen rest reader with
  | zero =>
      obtain rfl := List.eq_nil_of_length_eq_zero (Nat.le_zero.mp enough)
      refine ⟨reader, rfl, ?_⟩
      rw [placed.received, placed.split, List.append_nil]
  | succ rounds ih =>
      obtain ⟨next, read, further⟩ := reader_reads stream start seen rest reader count consistent placed near
      have fewer : (rest.drop count).length ≤ rounds := by
        rw [List.length_drop]
        omega
      obtain ⟨final, reads, received⟩ := ih _ _ next further (by rw [List.length_drop]; omega) fewer
      exact ⟨final, by rw [RedisReader.reads, read]; exact reads, received⟩

theorem read_keeps_lost (stream : RedisStream κ) (reader next : RedisReader) (key : κ) (count : Nat)
    (gone : key ∉ stream.entries.map Prod.fst) (unread : ids.render key ∉ reader.received.map ReadEvent.id)
    (read : reader.read ids stream count = some next) :
    next.start = reader.start ∧ ids.render key ∉ next.received.map ReadEvent.id := by
  obtain ⟨events, found, rfl⟩ := Option.map_eq_some_iff.mp read
  obtain ⟨cursor, _, paged⟩ := Option.bind_eq_some_iff.mp found
  refine ⟨rfl, fun got => ?_⟩
  rw [List.map_append, map_read_ids ids _ _ paged] at got
  rcases List.mem_append.mp got with old | new
  · exact unread old
  · obtain ⟨entry, member, same⟩ := List.mem_map.mp new
    refine gone (ids.render_injective entry.1 key same ▸ List.mem_map_of_mem ?_)
    exact ((mem_later _ _ _).mp ((page_front ..).subset member)).1

end DataPilot.Chat
