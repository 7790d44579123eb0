import DataPilot.Base.JsonRoundTrip
import DataPilot.Base.Runs
import DataPilot.Base.TrimmedLog
import DataPilot.Chat.Broker
import DataPilot.Chat.Runtime

set_option autoImplicit false

namespace DataPilot.Chat

open DataPilot.Base DataPilot.Agent

abbrev StreamFields := List (String × String)

-- The fields publish gives to XADD.
def streamFields (event : String) (data : Payload) : StreamFields :=
  [("event", event), ("data", dumps compactStyle (.obj data.fields))]

-- BrokerEvent of events.py
structure ReadEvent where
  id : String
  event : String
  data : Dict

variable {κ : Type} [LinearOrder κ] (ids : EventIds κ)

-- One entry of an XREAD; none stands for a KeyError, a JSONDecodeError or a
-- ValidationError.
def readEntry (entry : κ × StreamFields) : Option ReadEvent :=
  match entry.2.lookup "event", entry.2.lookup "data" with
  | some event, some data =>
      match loads data with
      | some (.obj fields) => some ⟨ids.render entry.1, event, fields⟩
      | _ => none
  | _, _ => none

-- What Redis is free to choose: the id of each XADD, above all earlier ones, and
-- which of the entries beyond the limit a trim keeps.
structure Redis where
  zero : κ
  id : Nat → κ
  keep : Nat → κ → Bool
  origin : ids.parse "0-0" = some zero
  positive : zero < id 0
  increasing : StrictMono id

variable {ids}

-- A trim that keeps the newest entries only.
def Redis.Exact (redis : Redis ids) : Prop := ∀ count, redis.keep count = fun _ => false

-- The stream of a message, and what has been added to it since it was empty.
structure RedisStream (κ : Type) where
  added : List (κ × BrokerEvent) := []
  entries : List (κ × StreamFields) := []

def defaultMaxEvents : Nat := 2000

variable (redis : Redis ids) (maxEvents : Nat) (payload : BrokerEvent → Payload)

def stored (entry : κ × BrokerEvent) : κ × StreamFields := (entry.1, streamFields entry.2.name (payload entry.2))

-- RedisEventBroker.publish: XADD with MAXLEN ~ max_events. The key lives on for
-- 24 hours after each publish.
def RedisStream.publish (stream : RedisStream κ) (event : BrokerEvent) : RedisStream κ :=
  let key := redis.id stream.added.length
  { added := stream.added ++ [(key, event)]
    entries := trim maxEvents (redis.keep stream.added.length) (stream.entries ++ [stored payload (key, event)]) }

def RedisStream.publishAll (stream : RedisStream κ) (events : List BrokerEvent) : RedisStream κ :=
  events.foldl (fun stream event => stream.publish redis maxEvents payload event) stream

variable (ids)

-- RedisEventBroker.read
def RedisStream.read (stream : RedisStream κ) (lastEventId : String) (count : Nat) : Option (List ReadEvent) :=
  (ids.parse lastEventId).bind fun cursor => (page stream.entries cursor count).mapM (readEntry ids)

-- A client that reads the stream from a cursor on.
structure RedisReader where
  start : String
  lastEventId : String
  received : List ReadEvent := []

def RedisReader.read (reader : RedisReader) (stream : RedisStream κ) (count : Nat) : Option RedisReader :=
  (stream.read ids reader.lastEventId count).map fun events =>
    { reader with
      lastEventId := (events.map ReadEvent.id).getLastD reader.lastEventId
      received := reader.received ++ events }

-- The same read again and again, with the id of the last event it returned.
def RedisReader.reads (stream : RedisStream κ) (count : Nat) : Nat → RedisReader → Option RedisReader
  | 0, reader => some reader
  | rounds + 1, reader => (reader.read ids stream count).bind (RedisReader.reads stream count rounds)

-- A worker that publishes to Redis, and one reader of its message.
structure RedisSession (κ : Type) where
  worker : WorkerState
  stream : RedisStream κ := {}
  reader : Option RedisReader := none

inductive RedisLabel where
  | work (input : WorkerInput)
  | resume (lastEventId : String)
  | read (count : Nat)

variable {ids}

def RedisSession.step (session : RedisSession κ) : RedisLabel → Option (RedisSession κ)
  | .work input =>
      (workerStep session.worker input).map fun next =>
        { session with
          worker := next.1
          stream := session.stream.publishAll redis maxEvents payload (published next.2) }
  | .resume lastEventId =>
      if session.reader.isNone ∧
          (lastEventId = "0-0" ∨ lastEventId ∈ session.stream.added.map (ids.render ·.1)) then
        some { session with reader := some { start := lastEventId, lastEventId } }
      else none
  | .read count =>
      if count = 0 then none
      else
        match session.reader with
        | none => none
        | some reader => (reader.read ids session.stream count).map fun next => { session with reader := some next }

end DataPilot.Chat
