import Mathlib.Data.List.Induction
import Mathlib.Data.List.Nodup
import DataPilot.Mcp.Owner

set_option autoImplicit false

namespace DataPilot.Mcp

open DataPilot.Base

-- The request that the owner has taken and not settled.
def OwnerPoint.inHand : OwnerPoint → List PendingRequest
  | .serving request => [request]
  | .closing request => [request]
  | _ => []

def NoShutdown (requests : List PendingRequest) : Prop := ∀ request ∈ requests, request.kind ≠ .shutdown

-- What the owner has served says where it can be.
def Stands (served : List PendingRequest) : OwnerPoint → Prop
  | .serving request => NoShutdown served ∧ request.kind ≠ .shutdown
  | .closing request => NoShutdown served ∧ request.kind = .shutdown
  | .disconnecting => ∃ before last, served = before ++ [last] ∧ NoShutdown before ∧ last.kind = .shutdown
  | .finished => ∃ before last, served = before ++ [last] ∧ NoShutdown before ∧ last.kind = .shutdown
  | _ => NoShutdown served

-- Every accepted request is settled, in the owner's hand or in the queue.
structure Accounted (client : MCPClient) (served : List PendingRequest) : Prop where
  order : client.accepted = served ++ client.owner.inHand ++ client.queue
  numbered : client.accepted.map PendingRequest.future = List.range client.accepted.length
  settled : client.settled.map Prod.fst = served.map PendingRequest.future
  closed : client.closed = true → client.owner = .finished
  stands : Stands served client.owner

theorem accounted_fresh : Accounted {} [] :=
  ⟨rfl, rfl, rfl, fun closed => (by cases closed), fun _ none => (by cases none)⟩

theorem futures_nodup (client : MCPClient) (served : List PendingRequest) (accounted : Accounted client served) :
    (client.accepted.map PendingRequest.future).Nodup := by
  rw [accounted.numbered]
  exact List.nodup_range

theorem accounted_put (client : MCPClient) (served : List PendingRequest) (kind : RequestKind) (name : Option String)
    (arguments : Option Dict) (closers : List Closer) (accounted : Accounted client served) :
    Accounted { client.put kind name arguments with closers } served := by
  obtain ⟨order, numbered, settled, closed, stands⟩ := accounted
  refine ⟨?_, ?_, settled, closed, stands⟩
  · change client.accepted ++ [_] = served ++ client.owner.inHand ++ (client.queue ++ [_])
    rw [order, List.append_assoc, List.append_assoc, List.append_assoc]
  · change (client.accepted ++ [_]).map _ = List.range (client.accepted ++ [_]).length
    rw [List.map_append, numbered, List.length_append, List.length_singleton, List.range_succ]
    rfl

theorem accounted_submit (client : MCPClient) (served : List PendingRequest) (kind : RequestKind)
    (name : Option String) (arguments : Option Dict) (accounted : Accounted client served) :
    Accounted (client.submit kind name arguments) served := by
  unfold MCPClient.submit
  split
  · exact accounted
  · exact accounted_put client served kind name arguments client.closers accounted

theorem settle_in_hand (client : MCPClient) (served : List PendingRequest) (request : PendingRequest)
    (outcome : Outcome) (accounted : Accounted client served) (hand : client.owner.inHand = [request]) :
    (client.settle request.future outcome) =
      { client with settled := client.settled ++ [(request.future, outcome)] } := by
  have distinct := futures_nodup client served accounted
  rw [accounted.order, hand, List.append_assoc, List.map_append, List.nodup_append] at distinct
  rw [MCPClient.settle, if_neg]
  rw [MCPClient.isSettled, accounted.settled, decide_eq_true_eq]
  exact fun before => distinct.2.2 _ before request.future (by simp) rfl

theorem accounted_settled (client : MCPClient) (served : List PendingRequest) (request : PendingRequest)
    (outcome : Outcome) (point : OwnerPoint) (accounted : Accounted client served)
    (hand : client.owner.inHand = [request]) (going : client.closed = false) (empty : point.inHand = [])
    (stands : Stands (served ++ [request]) point) :
    Accounted { client.settle request.future outcome with owner := point } (served ++ [request]) := by
  obtain ⟨order, numbered, settled, _, _⟩ := id accounted
  rw [settle_in_hand client served request outcome accounted hand]
  refine ⟨?_, numbered, ?_, fun closed => ?_, stands⟩
  · rw [hand] at order
    simp [order, empty]
  · simp [settled]
  · rw [going] at closed
    cases closed

theorem settle_closed (client : MCPClient) (future : Nat) (outcome : Outcome) :
    (client.settle future outcome).closed = client.closed := by
  unfold MCPClient.settle
  split <;> rfl

theorem loop_open (client : MCPClient) (going : client.closed = false) :
    client.loop = { client with owner := .waiting } := by
  rw [MCPClient.loop, going]
  rfl

theorem accounted_loop (client : MCPClient) (served : List PendingRequest) (accounted : Accounted client served)
    (hand : client.owner.inHand = []) (going : client.closed = false) (plain : NoShutdown served) :
    Accounted client.loop served := by
  obtain ⟨order, numbered, settled, _, _⟩ := accounted
  rw [loop_open client going]
  refine ⟨?_, numbered, settled, fun closed => ?_, plain⟩
  · rw [hand] at order
    exact order
  · rw [going] at closed
    cases closed

theorem accounted_step (client next : MCPClient) (label : OwnerLabel) (served : List PendingRequest)
    (accounted : Accounted client served) (taken : client.step label = some next) :
    ∃ served, Accounted next served := by
  obtain ⟨order, numbered, settled, closed, stands⟩ := id accounted
  have running : client.owner ≠ .finished → client.closed = false := fun going =>
    Bool.eq_false_iff.mpr fun shut => going (closed shut)
  cases label with
  | callTool name arguments =>
      cases taken
      exact ⟨served, accounted_submit client served _ _ _ accounted⟩
  | refreshTools =>
      cases taken
      exact ⟨served, accounted_submit client served _ _ _ accounted⟩
  | health =>
      cases taken
      exact ⟨served, accounted_submit client served _ _ _ accounted⟩
  | close =>
      cases taken
      refine ⟨served, ?_⟩
      unfold MCPClient.close
      split
      · exact accounted
      · split
        · exact ⟨order, numbered, settled, closed, stands⟩
        · exact accounted_put client served _ _ _ _ accounted
  | proceed index =>
      rw [MCPClient.step] at taken
      split at taken
      · cases taken
      · split_ifs at taken
        cases taken
        exact ⟨served, order, numbered, settled, closed, stands⟩
      · split_ifs at taken with done
        cases taken
        refine ⟨served, order, numbered, settled, fun _ => ?_, stands⟩
        cases owner : client.owner <;> simp [owner, OwnerPoint.isFinished] at done ⊢
  | get =>
      rw [MCPClient.step] at taken
      split at taken
      · rename_i request rest owner queue
        cases taken
        rw [owner] at order stands
        rw [queue] at order
        refine ⟨served, ?_, numbered, settled, fun shut => ?_, ?_⟩
        · by_cases last : request.kind = .shutdown <;> simp [order, last, OwnerPoint.inHand]
        · rw [running (by simp [owner])] at shut
          cases shut
        · by_cases last : request.kind = .shutdown
          · simpa [last] using ⟨stands, last⟩
          · simpa [last] using ⟨stands, last⟩
      · cases taken
  | timeout =>
      rw [MCPClient.step] at taken
      split at taken
      · rename_i owner
        cases taken
        rw [owner] at order stands
        refine ⟨served, order, numbered, settled, fun shut => ?_, stands⟩
        rw [running (by simp [owner])] at shut
        cases shut
      · cases taken
  | ends outcome =>
      rw [MCPClient.step] at taken
      cases owner : client.owner with
      | connecting =>
          rw [owner] at taken order stands
          cases taken
          exact ⟨served, accounted_loop client served accounted (by rw [owner]; rfl) (running (by simp [owner])) stands⟩
      | maintaining =>
          rw [owner] at taken order stands
          cases taken
          exact ⟨served, accounted_loop client served accounted (by rw [owner]; rfl) (running (by simp [owner])) stands⟩
      | serving request =>
          rw [owner] at taken stands
          cases taken
          have going := running (by simp [owner])
          refine ⟨served ++ [request], ?_⟩
          rw [loop_open _ (by rw [settle_closed]; exact going)]
          refine accounted_settled client served request outcome .waiting accounted (by rw [owner]; rfl) going rfl ?_
          exact List.forall_mem_append.mpr ⟨stands.1, List.forall_mem_singleton.mpr stands.2⟩
      | closing request =>
          rw [owner] at taken stands
          cases taken
          exact ⟨served ++ [request], accounted_settled client served request (.ok .null) .disconnecting accounted
            (by rw [owner]; rfl) (running (by simp [owner])) rfl ⟨served, request, rfl, stands⟩⟩
      | disconnecting =>
          rw [owner] at taken order stands
          cases taken
          exact ⟨served, order, numbered, settled, fun _ => rfl, stands⟩
      | waiting =>
          rw [owner] at taken
          cases taken
      | finished =>
          rw [owner] at taken
          cases taken

def ShutdownLast (requests : List PendingRequest) : Prop := NoShutdown requests.dropLast

theorem finished_resolved_iff (client : MCPClient) (served : List PendingRequest) (accounted : Accounted client served)
    (finished : client.owner = .finished) :
    (∀ request ∈ client.accepted, (client.settled.map Prod.fst).count request.future = 1) ↔
      ShutdownLast client.accepted := by
  have distinct := futures_nodup client served accounted
  obtain ⟨order, numbered, settled, _, stands⟩ := accounted
  rw [finished] at order stands
  obtain ⟨before, last, rfl, plain, shutdown⟩ := stands
  have empty : OwnerPoint.finished.inHand = [] := rfl
  rw [empty, List.append_nil] at order
  rw [settled, order]
  rw [order, List.map_append, List.nodup_append] at distinct
  cases queue : client.queue with
  | nil =>
      rw [ShutdownLast, List.append_nil, List.dropLast_concat]
      exact ⟨fun _ => plain, fun _ request member =>
        List.count_eq_one_of_mem distinct.1 (List.mem_map_of_mem member)⟩
  | cons request rest =>
      rw [queue] at distinct
      constructor
      · intro resolved
        have one := resolved request (by simp)
        have absent : request.future ∉ (before ++ [last]).map PendingRequest.future := fun early =>
          distinct.2.2 _ early request.future (by simp) rfl
        rw [List.count_eq_zero_of_not_mem absent] at one
        cases one
      · intro sealed
        refine absurd shutdown (sealed last ?_)
        rw [List.dropLast_append_of_ne_nil (List.cons_ne_nil _ _)]
        simp

def MCPClient.accepts (client : MCPClient) : OwnerLabel → Bool
  | .callTool _ _ => !client.closed
  | .refreshTools => !client.closed
  | .health => !client.closed
  | .close => !client.closed && !client.owner.isFinished
  | _ => false

theorem submit_accepted (client : MCPClient) (kind : RequestKind) (name : Option String) (arguments : Option Dict) :
    ∃ fresh : List PendingRequest, (client.submit kind name arguments).accepted = client.accepted ++ fresh ∧
      fresh.length = (!client.closed).toNat := by
  unfold MCPClient.submit
  cases client.closed with
  | true => exact ⟨[], by simp, rfl⟩
  | false => exact ⟨[_], rfl, rfl⟩

theorem settle_accepted (client : MCPClient) (future : Nat) (outcome : Outcome) :
    (client.settle future outcome).accepted = client.accepted := by
  unfold MCPClient.settle
  split <;> rfl

theorem step_accepted (client next : MCPClient) (label : OwnerLabel) (taken : client.step label = some next) :
    ∃ fresh, next.accepted = client.accepted ++ fresh ∧ fresh.length = (client.accepts label).toNat := by
  have same : ∀ other : MCPClient, client.accepts label = false → other.accepted = client.accepted →
      ∃ fresh, other.accepted = client.accepted ++ fresh ∧ fresh.length = (client.accepts label).toNat :=
    fun other quiet kept => ⟨[], by simp [kept], by rw [quiet]; rfl⟩
  cases label with
  | callTool name arguments =>
      cases taken
      exact submit_accepted client _ _ _
  | refreshTools =>
      cases taken
      exact submit_accepted client _ _ _
  | health =>
      cases taken
      exact submit_accepted client _ _ _
  | close =>
      cases taken
      unfold MCPClient.close MCPClient.accepts
      cases client.closed with
      | true => exact ⟨[], by simp, rfl⟩
      | false =>
          cases client.owner.isFinished with
          | true => exact ⟨[], by simp, rfl⟩
          | false => exact ⟨[_], rfl, rfl⟩
  | proceed index =>
      refine same next rfl ?_
      rw [MCPClient.step] at taken
      split at taken
      · cases taken
      · split_ifs at taken
        cases taken
        rfl
      · split_ifs at taken
        cases taken
        rfl
  | get =>
      refine same next rfl ?_
      rw [MCPClient.step] at taken
      split at taken <;> cases taken
      rfl
  | timeout =>
      refine same next rfl ?_
      rw [MCPClient.step] at taken
      split at taken <;> cases taken
      rfl
  | ends outcome =>
      refine same next rfl ?_
      rw [MCPClient.step] at taken
      split at taken <;> cases taken
      · rfl
      · rfl
      · exact settle_accepted client _ _
      · exact settle_accepted client _ _
      · rfl

def BeforeShutdown (client : MCPClient) (label : OwnerLabel) : Prop :=
  client.accepts label = true → NoShutdown client.accepted

theorem shutdown_last_step (client next : MCPClient) (label : OwnerLabel) (last : ShutdownLast client.accepted)
    (taken : client.step label = some next) : ShutdownLast next.accepted ↔ BeforeShutdown client label := by
  obtain ⟨fresh, grown, count⟩ := step_accepted client next label taken
  rw [grown, BeforeShutdown]
  cases accepts : client.accepts label with
  | false =>
      rw [accepts] at count
      obtain rfl := List.eq_nil_of_length_eq_zero count
      simpa using last
  | true =>
      rw [accepts] at count
      obtain ⟨request, rfl⟩ := List.length_eq_one_iff.mp count
      rw [ShutdownLast, List.dropLast_concat]
      exact ⟨fun plain _ => plain, fun plain => plain rfl⟩

theorem shutdown_early_step (client next : MCPClient) (label : OwnerLabel) (early : ¬ ShutdownLast client.accepted)
    (taken : client.step label = some next) : ¬ ShutdownLast next.accepted := by
  obtain ⟨fresh, grown, _⟩ := step_accepted client next label taken
  refine fun last => early fun request member => last request ?_
  rw [grown]
  cases fresh using List.reverseRecOn with
  | nil => simpa using member
  | append_singleton front final =>
      rw [← List.append_assoc, List.dropLast_concat]
      exact List.mem_append_left _ (List.dropLast_subset _ member)

section Sample

def outcomeOk : Outcome := .ok (.bool true)

def closedAfter : List OwnerLabel :=
  [.ends outcomeOk, .health, .get, .ends outcomeOk, .close, .get, .ends outcomeOk, .ends outcomeOk, .proceed 0,
    .proceed 0]

def askedBehind : List OwnerLabel :=
  [.ends outcomeOk, .close, .health, .get, .ends outcomeOk, .ends outcomeOk]

end Sample

end DataPilot.Mcp
