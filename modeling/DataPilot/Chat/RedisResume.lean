import DataPilot.Chat.RedisStream

set_option autoImplicit false

namespace DataPilot.Chat

open DataPilot.Base DataPilot.Agent

variable {κ : Type} [LinearOrder κ] {ids : EventIds κ} {redis : Redis ids} {maxEvents : Nat}
  {payload : BrokerEvent → Payload}

-- How many events of the message have been added behind the reader's last one.
def RedisSession.lag (ids : EventIds κ) (session : RedisSession κ) : Nat :=
  match session.reader.bind fun reader => ids.parse reader.lastEventId with
  | none => 0
  | some cursor => (later session.stream.added cursor).length

variable (redis maxEvents payload)

def RedisSession.KeepsUp (session : RedisSession κ) (label : RedisLabel) : Prop :=
  ∀ next, session.step redis maxEvents payload label = some next → next.lag ids ≤ maxEvents

variable (ids)

-- Reading on, the reader gets every event added behind the cursor it started from.
def RedisSession.Complete (session : RedisSession κ) : Prop :=
  ∀ reader, session.reader = some reader → ∃ start, ids.parse reader.start = some start ∧
    ∀ count, 0 < count → ∃ enough, ∀ rounds, enough ≤ rounds →
      ∃ final, reader.reads ids session.stream count rounds = some final ∧
        final.received = (later session.stream.added start).map (asRead ids payload)

variable {ids}

structure RedisSession.Placed (session : RedisSession κ) : Prop where
  consistent : session.stream.Consistent redis maxEvents payload
  placed : ∀ reader, session.reader = some reader → ∃ start seen rest,
    start < redis.id session.stream.added.length ∧ ReaderAt ids payload session.stream.added start seen rest reader

variable {redis maxEvents payload}

theorem lag_rest (session : RedisSession κ) (reader : RedisReader) (start : κ) (seen rest : List (κ × BrokerEvent))
    (consistent : session.stream.Consistent redis maxEvents payload) (reading : session.reader = some reader)
    (placed : ReaderAt ids payload session.stream.added start seen rest reader) : session.lag ids = rest.length := by
  rw [RedisSession.lag, reading, Option.bind_some, placed.cursor]
  dsimp only
  rw [reader_remaining session.stream start seen rest reader consistent placed]

theorem placed_complete (session : RedisSession κ) (placed : session.Placed redis maxEvents payload)
    (near : session.lag ids ≤ maxEvents) : session.Complete ids payload := by
  intro reader reading
  obtain ⟨start, seen, rest, _, here⟩ := placed.placed reader reading
  rw [lag_rest session reader start seen rest placed.consistent reading here] at near
  exact ⟨start, here.started, fun count some => ⟨rest.length, fun rounds enough =>
    reader_reads_all session.stream start count rounds some placed.consistent seen rest reader here near enough⟩⟩

theorem placed_step (session next : RedisSession κ) (label : RedisLabel)
    (placed : session.Placed redis maxEvents payload) (near : session.lag ids ≤ maxEvents)
    (taken : session.step redis maxEvents payload label = some next) : next.Placed redis maxEvents payload := by
  obtain ⟨consistent, reading⟩ := placed
  cases label with
  | work input =>
      obtain ⟨⟨worker, effects⟩, _, rfl⟩ := Option.map_eq_some_iff.mp taken
      obtain ⟨done, _, ⟨fresh, grown, _, above⟩, _⟩ := publish_all (published effects) session.stream consistent
      refine ⟨done, fun reader given => ?_⟩
      obtain ⟨start, seen, rest, below, started, split, cursor, received⟩ := reading reader given
      have longer : start < redis.id (session.stream.added ++ fresh).length :=
        lt_of_lt_of_le below (redis.increasing.monotone (by simp))
      refine ⟨start, seen, rest ++ fresh, ?_, started, ?_, cursor, received⟩
      · dsimp only
        rw [grown]
        exact longer
      · dsimp only
        rw [grown, later_append, split, List.append_assoc,
          later_all fresh start fun entry member => lt_of_lt_of_le below (above entry member)]
  | resume lastEventId =>
      rw [RedisSession.step] at taken
      split_ifs at taken with free
      cases taken
      have below : ∃ start, ids.parse lastEventId = some start ∧ start < redis.id session.stream.added.length := by
        rcases free.2 with rfl | delivered
        · exact ⟨redis.zero, redis.origin,
            lt_of_lt_of_le redis.positive (redis.increasing.monotone (Nat.zero_le _))⟩
        · obtain ⟨entry, member, rfl⟩ := List.mem_map.mp delivered
          exact ⟨entry.1, ids.parse_render entry.1, consistent.old entry member⟩
      obtain ⟨start, parsed, below⟩ := below
      refine ⟨consistent, fun reader opened => ?_⟩
      obtain rfl := Option.some.inj opened
      exact ⟨start, [], later session.stream.added start, below, parsed, rfl, parsed, rfl⟩
  | read count =>
      rw [RedisSession.step] at taken
      split_ifs at taken with none
      cases given : session.reader with
      | none => simp [given] at taken
      | some reader =>
          rw [given] at taken
          obtain ⟨after, read, rfl⟩ := Option.map_eq_some_iff.mp taken
          obtain ⟨start, seen, rest, below, here⟩ := reading reader given
          rw [lag_rest session reader start seen rest consistent given here] at near
          obtain ⟨found, reads, further⟩ :=
            reader_reads session.stream start seen rest reader count consistent here near
          obtain rfl : found = after := by simpa [read] using reads.symm
          refine ⟨consistent, fun other same => ?_⟩
          obtain rfl := Option.some.inj same
          exact ⟨start, _, _, below, further⟩

-- An event behind the cursor that the reader started from is in the stream no
-- more, and the reader has not got it.
def RedisSession.Lost (ids : EventIds κ) (session : RedisSession κ) : Prop :=
  ∃ reader start key, session.reader = some reader ∧ ids.parse reader.start = some start ∧
    key ∈ (later session.stream.added start).map Prod.fst ∧ key ∉ session.stream.entries.map Prod.fst ∧
    ids.render key ∉ reader.received.map ReadEvent.id

theorem far_lost (session : RedisSession κ) (placed : session.Placed redis maxEvents payload)
    (newest : session.stream.Newest maxEvents payload) (far : maxEvents < session.lag ids) : session.Lost ids := by
  obtain ⟨consistent, reading⟩ := placed
  cases given : session.reader with
  | none => simp [RedisSession.lag, given] at far
  | some reader =>
      obtain ⟨start, seen, rest, _, here⟩ := reading reader given
      have remaining := reader_remaining session.stream start seen rest reader consistent here
      rw [lag_rest session reader start seen rest consistent given here, ← remaining] at far
      have sorted : Ordered (session.stream.added.map (stored payload)) := List.pairwise_map.mpr consistent.ordered
      rw [← List.length_map (stored payload), ← later_stored] at far
      obtain ⟨entry, member, lost⟩ := exact_trim_loses maxEvents _ _ sorted far
      rw [later_stored, remaining] at member
      obtain ⟨event, unread, rfl⟩ := List.mem_map.mp member
      have sorted := later_ordered session.stream.added start consistent.ordered
      rw [Ordered, here.split, List.pairwise_append] at sorted
      refine ⟨reader, start, event.1, given, here.started, ?_, fun kept => ?_, fun got => ?_⟩
      · rw [here.split]
        exact List.mem_map_of_mem (List.mem_append_right _ unread)
      · obtain ⟨other, inside, same⟩ := List.mem_map.mp kept
        rw [newest, ← List.length_map (stored payload)] at inside
        exact absurd (lost other inside) (by rw [same]; exact lt_irrefl _)
      · rw [here.received, List.map_map] at got
        obtain ⟨old, read, same⟩ := List.mem_map.mp got
        have before := sorted.2.2 old read event unread
        rw [ids.render_injective old.1 event.1 same] at before
        exact lt_irrefl _ before

theorem lost_step (session next : RedisSession κ) (label : RedisLabel)
    (consistent : session.stream.Consistent redis maxEvents payload) (lost : session.Lost ids)
    (taken : session.step redis maxEvents payload label = some next) :
    next.stream.Consistent redis maxEvents payload ∧ next.Lost ids := by
  obtain ⟨reader, start, key, reading, started, added, gone, unread⟩ := lost
  cases label with
  | work input =>
      obtain ⟨⟨worker, effects⟩, _, rfl⟩ := Option.map_eq_some_iff.mp taken
      obtain ⟨done, _, ⟨fresh, grown, _, _⟩, kept⟩ := publish_all (published effects) session.stream consistent
      refine ⟨done, reader, start, key, reading, started, ?_, fun back => ?_, unread⟩
      · dsimp only
        rw [grown, later_append, List.map_append]
        exact List.mem_append_left _ added
      · obtain ⟨entry, member, rfl⟩ := List.mem_map.mp back
        rcases kept entry member with old | new
        · exact gone (List.mem_map_of_mem old)
        · obtain ⟨event, inside, same⟩ := List.mem_map.mp added
          have older := consistent.old event ((mem_later _ _ _).mp inside).1
          rw [same] at older
          exact absurd new (not_le_of_gt older)
  | resume lastEventId =>
      rw [RedisSession.step] at taken
      simp [reading] at taken
  | read count =>
      rw [RedisSession.step, reading] at taken
      split_ifs at taken with none
      obtain ⟨after, read, rfl⟩ := Option.map_eq_some_iff.mp taken
      obtain ⟨same, still⟩ := read_keeps_lost session.stream reader after key count gone unread read
      exact ⟨consistent, after, start, key, rfl, by rw [same]; exact started, added, gone, still⟩

theorem lost_incomplete (session : RedisSession κ) (lost : session.Lost ids) : ¬ session.Complete ids payload := by
  obtain ⟨reader, start, key, reading, started, added, gone, unread⟩ := lost
  have never : ∀ rounds (reader final : RedisReader), ids.render key ∉ reader.received.map ReadEvent.id →
      reader.reads ids session.stream 1 rounds = some final → ids.render key ∉ final.received.map ReadEvent.id := by
    intro rounds
    induction rounds with
    | zero =>
        rintro reader _ unread ⟨⟩
        exact unread
    | succ rounds ih =>
        intro reader final unread reads
        obtain ⟨next, read, further⟩ := Option.bind_eq_some_iff.mp reads
        exact ih next final (read_keeps_lost session.stream reader next key 1 gone unread read).2 further
  intro complete
  obtain ⟨origin, parsed, gets⟩ := complete reader reading
  obtain rfl : origin = start := by simpa [started] using parsed.symm
  obtain ⟨enough, reads⟩ := gets 1 Nat.one_pos
  obtain ⟨final, read, all⟩ := reads enough le_rfl
  refine never enough reader final unread read ?_
  rw [all, List.map_map]
  obtain ⟨entry, member, rfl⟩ := List.mem_map.mp added
  exact List.mem_map_of_mem member

def RedisSession.fresh (arguments : WorkerArguments) : RedisSession κ := { worker := { arguments } }

theorem placed_fresh (arguments : WorkerArguments) : (RedisSession.fresh arguments).Placed redis maxEvents payload :=
  ⟨consistent_empty, fun _ given => by cases given⟩

theorem newest_step (session next : RedisSession κ) (label : RedisLabel) (exact : redis.Exact)
    (consistent : session.stream.Consistent redis maxEvents payload) (newest : session.stream.Newest maxEvents payload)
    (taken : session.step redis maxEvents payload label = some next) : next.stream.Newest maxEvents payload := by
  cases label with
  | work input =>
      obtain ⟨⟨worker, effects⟩, _, rfl⟩ := Option.map_eq_some_iff.mp taken
      exact (publish_all (published effects) session.stream consistent).2.1 exact newest
  | resume lastEventId =>
      rw [RedisSession.step] at taken
      split_ifs at taken
      cases taken
      exact newest
  | read count =>
      rw [RedisSession.step] at taken
      split_ifs at taken
      split at taken
      · cases taken
      · obtain ⟨_, _, rfl⟩ := Option.map_eq_some_iff.mp taken
        exact newest

variable (redis maxEvents payload)

theorem kept_up_complete (arguments : WorkerArguments) (labels : List RedisLabel) (final : RedisSession κ)
    (run : runFrom (RedisSession.step redis maxEvents payload) (.fresh arguments) labels = some final)
    (meets : StepsMeet (RedisSession.step redis maxEvents payload) (RedisSession.KeepsUp redis maxEvents payload)
      (.fresh arguments) labels) : final.Complete ids payload := by
  obtain ⟨placed, near⟩ := run_invariant_meeting (RedisSession.KeepsUp redis maxEvents payload)
    (fun session => session.Placed redis maxEvents payload ∧ session.lag ids ≤ maxEvents)
    (fun session label next good keeps taken =>
      ⟨placed_step session next label good.1 good.2 taken, keeps next taken⟩)
    _ final labels ⟨placed_fresh arguments, Nat.zero_le _⟩ meets run
  exact placed_complete final placed near

theorem overrun_incomplete (arguments : WorkerArguments) (labels : List RedisLabel) (final : RedisSession κ)
    (exact : redis.Exact)
    (run : runFrom (RedisSession.step redis maxEvents payload) (.fresh arguments) labels = some final)
    (misses : ¬ StepsMeet (RedisSession.step redis maxEvents payload) (RedisSession.KeepsUp redis maxEvents payload)
      (.fresh arguments) labels) : ¬ final.Complete ids payload := by
  let good : RedisSession κ → Prop := fun session =>
    session.Placed redis maxEvents payload ∧ session.lag ids ≤ maxEvents ∧ session.stream.Newest maxEvents payload
  let bad : RedisSession κ → Prop := fun session =>
    session.stream.Consistent redis maxEvents payload ∧ session.Lost ids
  have grows : ∀ session label next, good session → session.step redis maxEvents payload label = some next →
      next.Placed redis maxEvents payload ∧ next.stream.Newest maxEvents payload :=
    fun session label next given taken => ⟨placed_step session next label given.1 given.2.1 taken,
      newest_step session next label exact given.1.consistent given.2.2 taken⟩
  have decided := run_good_or_bad (fun _ => True) (RedisSession.KeepsUp redis maxEvents payload) good bad
    (fun session label next _ given keeps taken =>
      have ⟨placed, newest⟩ := grows session label next given taken
      ⟨placed, keeps next taken, newest⟩)
    (fun session label next _ given breaks taken => by
      obtain ⟨placed, newest⟩ := grows session label next given taken
      refine ⟨placed.consistent, far_lost next placed newest (not_le.mp fun near => breaks ?_)⟩
      intro other same
      obtain rfl : next = other := by simpa [taken] using same
      exact near)
    (fun session label next _ given taken => lost_step session next label given.1 given.2 taken)
    _ final labels (fun _ _ => trivial) ⟨placed_fresh arguments, Nat.zero_le _, newest_empty ..⟩ run
  exact lost_incomplete final (decided.resolve_left fun kept => misses kept.1).2.2

theorem redis_resume_complete (arguments : WorkerArguments) (labels : List RedisLabel) (final : RedisSession κ)
    (run : runFrom (RedisSession.step redis maxEvents payload) (.fresh arguments) labels = some final) :
    (StepsMeet (RedisSession.step redis maxEvents payload) (RedisSession.KeepsUp redis maxEvents payload)
        (.fresh arguments) labels → final.Complete ids payload) ∧
      (redis.Exact → ¬ StepsMeet (RedisSession.step redis maxEvents payload)
        (RedisSession.KeepsUp redis maxEvents payload) (.fresh arguments) labels → ¬ final.Complete ids payload) :=
  ⟨kept_up_complete redis maxEvents payload arguments labels final run,
    fun exact => overrun_incomplete redis maxEvents payload arguments labels final exact run⟩

section Sample

def sampleRedis : Redis inMemoryIds where
  zero := 0
  id count := count + 1
  keep _ _ := false
  origin := by decide +kernel
  positive := Nat.one_pos
  increasing _ _ less := Nat.succ_lt_succ less

def samplePayload : BrokerEvent → Payload
  | .runtime event => ⟨[("type", .str event.type.value), ("text", .str (event.text.getD ""))], rfl⟩
  | event => ⟨[("type", .str event.name)], rfl⟩

def sampleArguments : WorkerArguments := ⟨16, 2, 1, 7, 8, "How many rows?"⟩

def sampleText : RuntimeEvent := { type := .text, text := some "x" }

def textLabels : Nat → List RedisLabel
  | 0 => []
  | count + 1 => .work (.event sampleText) :: .work .completes :: textLabels count

def startedLabels : List RedisLabel :=
  [.work .begin, .work .completes, .resume "0-0", .work (.event sampleText), .work .completes]

theorem started_run :
    ∃ final, runFrom (RedisSession.step sampleRedis 2000 samplePayload) (.fresh sampleArguments) startedLabels =
      some final := ⟨_, rfl⟩

theorem started_keeps_up :
    StepsMeet (RedisSession.step sampleRedis 2000 samplePayload) (RedisSession.KeepsUp sampleRedis 2000 samplePayload)
      (.fresh sampleArguments) startedLabels := by
  refine steps_meet_cons _ _ _ _ _ rfl ?_ (steps_meet_cons _ _ _ _ _ rfl ?_ (steps_meet_cons _ _ _ _ _ rfl ?_
    (steps_meet_cons _ _ _ _ _ rfl ?_ (steps_meet_cons _ _ _ _ _ rfl ?_ trivial)))) <;>
  · rintro _ ⟨⟩
    decide +kernel

end Sample

-- A reader that comes after the start event, before a text.
theorem redis_resume_complete_started :
    ∃ final, runFrom (RedisSession.step sampleRedis 2000 samplePayload) (.fresh sampleArguments) startedLabels =
        some final ∧ final.Complete inMemoryIds samplePayload := by
  obtain ⟨final, run⟩ := started_run
  exact ⟨final, run, (redis_resume_complete sampleRedis 2000 samplePayload sampleArguments startedLabels final run).1
    started_keeps_up⟩

theorem text_run (count : Nat) (session : RedisSession κ) (waits : session.worker.point = .nextEvent) :
    ∃ worker, runFrom (RedisSession.step redis maxEvents payload) session (textLabels count) =
      some { session with
        worker
        stream := session.stream.publishAll redis maxEvents payload (List.replicate count (.runtime sampleText)) } := by
  induction count generalizing session with
  | zero => exact ⟨session.worker, rfl⟩
  | succ count ih =>
      obtain ⟨⟨arguments, point, text, steps, status, terminal⟩, stream, reader⟩ := session
      cases waits
      obtain ⟨worker, run⟩ := ih ⟨⟨arguments, .nextEvent, text ++ "x", steps, status, terminal⟩,
        stream.publish redis maxEvents payload (.runtime sampleText), reader⟩ rfl
      exact ⟨worker, run⟩

theorem late_reader_incomplete (limit : Nat) :
    ∃ final, runFrom (RedisSession.step sampleRedis limit samplePayload) (.fresh sampleArguments)
        ([.work .begin, .work .completes] ++ (textLabels limit ++ [.resume "0-0"])) = some final ∧
      ¬ final.Complete inMemoryIds samplePayload := by
  obtain ⟨started, first, waits, stream, reader⟩ : ∃ started,
      runFrom (RedisSession.step sampleRedis limit samplePayload) (.fresh sampleArguments)
          [.work .begin, .work .completes] = some started ∧
        started.worker.point = .nextEvent ∧
        started.stream = RedisStream.publishAll sampleRedis limit samplePayload {} [.start 1 16 7 8] ∧
        started.reader = none := ⟨_, rfl, rfl, rfl, rfl⟩
  obtain ⟨worker, texts⟩ := text_run sampleRedis limit samplePayload limit started waits
  let events : List BrokerEvent := .start 1 16 7 8 :: List.replicate limit (.runtime sampleText)
  have joined : started.stream.publishAll sampleRedis limit samplePayload (List.replicate limit (.runtime sampleText)) =
      RedisStream.publishAll sampleRedis limit samplePayload {} events := by
    rw [stream]
    rfl
  rw [joined, reader] at texts
  obtain ⟨consistent, newest, ⟨fresh, grown, same, above⟩, _⟩ :=
    @publish_all Nat _ inMemoryIds sampleRedis limit samplePayload events {} consistent_empty
  rw [List.nil_append] at grown
  let before : RedisSession Nat := ⟨worker, RedisStream.publishAll sampleRedis limit samplePayload {} events, none⟩
  let final : RedisSession Nat := { before with reader := some { start := "0-0", lastEventId := "0-0" } }
  have resumed : before.step sampleRedis limit samplePayload (.resume "0-0") = some final := by
    simp [RedisSession.step, before, final]
  have placed : final.Placed sampleRedis limit samplePayload :=
    placed_step before final _ ⟨consistent, fun _ given => by cases given⟩ (Nat.zero_le _) resumed
  have all : later final.stream.added 0 = fresh :=
    (congrArg (later · 0) grown).trans
      (later_all fresh 0 fun entry member => lt_of_lt_of_le sampleRedis.positive (above entry member))
  have far : limit < final.lag inMemoryIds := by
    have lag : final.lag inMemoryIds = (later final.stream.added 0).length := by
      simp [RedisSession.lag, final, sampleRedis.origin, sampleRedis]
    have count := congrArg List.length same
    rw [List.length_map, List.length_cons, List.length_replicate] at count
    rw [lag, all, count]
    exact Nat.lt_succ_self limit
  have cut : final.stream.Newest limit samplePayload := newest (fun _ => rfl) (newest_empty ..)
  refine ⟨final, ?_, lost_incomplete final (far_lost final placed cut far)⟩
  rw [run_append, first, Option.bind_some, run_append, texts, Option.bind_some, runFrom, resumed]
  rfl

theorem late_reader_misses_start :
    ¬ ∀ (redis : Redis inMemoryIds) (payload : BrokerEvent → Payload) (arguments : WorkerArguments)
        (labels : List RedisLabel) (final : RedisSession Nat),
      runFrom (RedisSession.step redis defaultMaxEvents payload) (.fresh arguments) labels = some final →
        final.Complete inMemoryIds payload := by
  intro claim
  obtain ⟨final, run, incomplete⟩ := late_reader_incomplete defaultMaxEvents
  exact incomplete (claim sampleRedis samplePayload sampleArguments _ final run)

end DataPilot.Chat
