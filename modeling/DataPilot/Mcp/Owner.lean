import DataPilot.Base.PyValue
import DataPilot.Base.Runs

set_option autoImplicit false

namespace DataPilot.Mcp

open DataPilot.Base

inductive RequestKind where
  | call
  | refresh
  | ping
  | shutdown
deriving DecidableEq

-- _PendingRequest; a future is known by its number.
structure PendingRequest where
  kind : RequestKind
  future : Nat
  name : Option String := none
  arguments : Option Dict := none

abbrev Outcome := Except PyException PyValue

-- The awaits of _owner_loop.
inductive OwnerPoint where
  | connecting
  | waiting
  | maintaining
  | serving (request : PendingRequest)
  | closing (request : PendingRequest)
  | disconnecting
  | finished

-- The awaits of a close that has not returned.
inductive Closer where
  | future (number : Nat)
  | task

-- A client whose start has created the owner task, with the requests it has
-- accepted and the results and exceptions that were set, in their order.
structure MCPClient where
  closed : Bool := false
  queue : List PendingRequest := []
  owner : OwnerPoint := .connecting
  closers : List Closer := []
  accepted : List PendingRequest := []
  settled : List (Nat × Outcome) := []

-- A call of a method, a close that goes on, and what ends an await of the owner:
-- a request, a timeout of wait_for, or the end of what it does.
inductive OwnerLabel where
  | callTool (name : String) (arguments : Dict)
  | refreshTools
  | health
  | close
  | proceed (index : Nat)
  | get
  | timeout
  | ends (outcome : Outcome)

def OwnerPoint.isFinished : OwnerPoint → Bool
  | .finished => true
  | _ => false

def MCPClient.isSettled (client : MCPClient) (future : Nat) : Bool := future ∈ client.settled.map Prod.fst

-- set_result or set_exception, unless the future is done.
def MCPClient.settle (client : MCPClient) (future : Nat) (outcome : Outcome) : MCPClient :=
  if client.isSettled future then client else { client with settled := client.settled ++ [(future, outcome)] }

-- queue.put of a request with a new future.
def MCPClient.put (client : MCPClient) (kind : RequestKind) (name : Option String) (arguments : Option Dict) :
    MCPClient :=
  let request := { kind, future := client.accepted.length, name, arguments }
  { client with queue := client.queue ++ [request], accepted := client.accepted ++ [request] }

-- _submit up to its await; a closed client raises MCPConnectionError.
def MCPClient.submit (client : MCPClient) (kind : RequestKind) (name : Option String) (arguments : Option Dict) :
    MCPClient :=
  if client.closed then client else client.put kind name arguments

-- close up to its first await.
def MCPClient.close (client : MCPClient) : MCPClient :=
  if client.closed then client
  else if client.owner.isFinished then { client with closers := client.closers ++ [.task] }
  else { client.put .shutdown none none with closers := client.closers ++ [.future client.accepted.length] }

-- The head of the loop.
def MCPClient.loop (client : MCPClient) : MCPClient :=
  { client with owner := if client.closed then .disconnecting else .waiting }

def MCPClient.step (client : MCPClient) : OwnerLabel → Option MCPClient
  | .callTool name arguments => some (client.submit .call (some name) (some arguments))
  | .refreshTools => some (client.submit .refresh none none)
  | .health => some (client.submit .ping none none)
  | .close => some client.close
  | .proceed index =>
      match client.closers[index]? with
      | none => none
      | some (.future number) =>
          if client.isSettled number then some { client with closers := client.closers.set index .task } else none
      | some .task =>
          if client.owner.isFinished then some { client with closers := client.closers.eraseIdx index, closed := true }
          else none
  | .get =>
      match client.owner, client.queue with
      | .waiting, request :: rest =>
          some { client with
            queue := rest
            owner := if request.kind = .shutdown then .closing request else .serving request }
      | _, _ => none
  | .timeout =>
      match client.owner with
      | .waiting => some { client with owner := .maintaining }
      | _ => none
  | .ends outcome =>
      match client.owner with
      | .connecting => some client.loop
      | .maintaining => some client.loop
      | .serving request => some (client.settle request.future outcome).loop
      -- The finally block sets the result, however _disconnect ends.
      | .closing request => some { client.settle request.future (.ok .null) with owner := .disconnecting }
      | .disconnecting => some { client with owner := .finished }
      | _ => none

end DataPilot.Mcp
