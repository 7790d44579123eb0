import DataPilot.Api.Gate

set_option autoImplicit false

namespace DataPilot.Api

open DataPilot.Auth DataPilot.Base
open DataPilot.Chat (Uuid)
open DataPilot.Tools.Shared (startsWith)

variable (gate : Gate)

-- The rate of an identity: only the routes of the auth service are open to clients
-- without a workspace.
def Gate.rates (key : String) : Rate where
  limit := if startsWith key "ip:" then gate.loginLimit else gate.requestLimit
  windowSeconds := gate.windowSeconds
  positive := gate.positive

structure Checked where
  call : RateCall
  passed : Bool

def Checked.inBucket (key : String) (bucket : Nat) (checked : Checked) : Bool :=
  checked.call.inBucket gate.rates key bucket

def Gate.rateCall (request : Request) (auth : Option RequestAuth) : RateCall := ⟨gate.identity request auth, request.second⟩

def Gate.counted (state : ServerState) : ServerLabel → Option Checked
  | .registering _ _ => none
  | .request request =>
      match gate.authMiddleware state.auth.shared request with
      | .unauthorized => none
      | .inner auth =>
          if shouldLimit request.method request.path then
            some ⟨gate.rateCall request auth, (gate.rateMiddleware request auth state.store).1.isNone⟩
          else none

structure Entry where
  workspaceId : Uuid
  second : Nat

def Entry.inBucket (workspaceId : Uuid) (bucket : Nat) (entry : Entry) : Bool :=
  entry.workspaceId = workspaceId ∧ entry.second / gate.windowSeconds = bucket

def Gate.entry (state : ServerState) : ServerLabel → Option Entry
  | .registering _ _ => none
  | .request request =>
      match (gate.course state.auth.shared state.store request).1 with
      | .entered handler (some auth) => if handler.workspaceBound then some ⟨auth.workspaceId, request.second⟩ else none
      | _ => none

def Gate.checks (start : Nat) (labels : List ServerLabel) : List Checked :=
  runEvents gate.step gate.counted { auth := { shared := migrated start } } labels

def Gate.entries (start : Nat) (labels : List ServerLabel) : List Entry :=
  runEvents gate.step gate.entry { auth := { shared := migrated start } } labels

def ServerLabel.answered : ServerLabel → Prop
  | .registering _ _ => True
  | .request asked => asked.store = .answers

theorem auth_endpoint_public (path : String) (endpoint : isAuthEndpoint path = true) : isPublic path = true := by
  rw [isAuthEndpoint, decide_eq_true_eq] at endpoint
  simp only [List.mem_cons, List.not_mem_nil, or_false] at endpoint
  rcases endpoint with rfl | rfl <;> rfl

theorem limited_public (method path : String) (counts : shouldLimit method path = true) (known : isPublic path = true) :
    upper method ≠ "OPTIONS" ∧ isAuthEndpoint path = true := by
  unfold shouldLimit at counts
  split at counts
  · cases counts
  · rename_i other
    simp only [Bool.or_eq_true, decide_eq_true_eq, Bool.not_eq_true', not_or, Bool.not_eq_false] at other
    simp only [List.any_cons, List.any_nil, Bool.or_false, Bool.not_eq_true', Bool.or_eq_false_iff] at counts
    obtain ⟨health, docs, redoc, openapi⟩ := counts
    refine ⟨other.1, ?_⟩
    have json : path ≠ "/openapi.json" := by
      rintro rfl
      exact absurd openapi (by decide)
    simp only [isPublic, other.2, docs, redoc, json, decide_false, Bool.or_false, Bool.not_true, decide_eq_true_eq] at known
    simp only [publicPaths, List.mem_cons, List.not_mem_nil, or_false] at known
    rcases known with rfl | rfl | rfl | rfl
    · rfl
    · rfl
    · exact absurd health (by decide)
    · exact absurd health (by decide)

theorem client_key (text : String) : startsWith ("ip:" ++ text) "ip:" = true :=
  (starts_with_iff _ _).mpr ⟨text.toList, String.toList_append⟩

theorem workspace_key (text : String) : startsWith ("workspace:" ++ text) "ip:" = false := by
  rw [Bool.eq_false_iff]
  intro started
  obtain ⟨rest, same⟩ := (starts_with_iff _ _).mp started
  rw [String.toList_append] at same
  exact absurd (List.cons.inj same).1 (by decide)

section Enabled

variable {gate} (enabled : gate.authEnabled = true)

include enabled

theorem limit_by_identity (database : Database) (request : Request) (auth : Option RequestAuth)
    (passes : gate.authMiddleware database request = .inner auth) (counts : shouldLimit request.method request.path = true) :
    gate.limitOf request = (gate.rates (gate.identity request auth)).limit := by
  unfold Gate.authMiddleware at passes
  rw [if_neg (by simp [enabled])] at passes
  by_cases unasked : upper request.method = "OPTIONS" ∨ isPublic request.path = true
  · rw [if_pos unasked] at passes
    cases passes
    have known : isPublic request.path = true := by
      rcases unasked with options | known
      · simp [shouldLimit, options] at counts
      · exact known
    simp only [Gate.limitOf, Gate.rates, Gate.identity, client_key, (limited_public _ _ counts known).2, if_true]
  · rw [if_neg unasked] at passes
    have guarded : isAuthEndpoint request.path = false := by
      rw [Bool.eq_false_iff]
      exact fun endpoint => unasked (.inr (auth_endpoint_public _ endpoint))
    cases asked : gate.asks request with
    | none =>
        rw [asked] at passes
        cases passes
    | some token =>
        rw [asked] at passes
        dsimp only at passes
        cases known : (authenticate gate.host database token request.now).2 with
        | none =>
            rw [known] at passes
            cases passes
        | some context =>
            rw [known] at passes
            cases passes
            simp only [Gate.limitOf, Gate.rates, Gate.identity, workspace_key, guarded, Bool.false_eq_true, if_false]

theorem checked_call (database : Database) (store : RateLimitStore) (request : Request) (auth : Option RequestAuth)
    (passes : gate.authMiddleware database request = .inner auth) (counts : shouldLimit request.method request.path = true) :
    gate.checked request auth store = (gate.rateCall request auth).check gate.rates store := by
  rw [Gate.checked, RateCall.check, limit_by_identity enabled database request auth passes counts]
  rfl

end Enabled

theorem course_store (database : Database) (store : RateLimitStore) (request : Request) :
    (gate.course database store request).2 =
      match gate.authMiddleware database request with
      | .unauthorized => store
      | .inner auth => (gate.rateMiddleware request auth store).2 := by
  unfold Gate.course
  cases gate.authMiddleware database request with
  | unauthorized => rfl
  | inner auth =>
      dsimp only
      cases limited : gate.rateMiddleware request auth store with
      | mk verdict next =>
          cases verdict with
          | some result => rfl
          | none =>
              dsimp only
              cases route request.method request.path with
              | none => rfl
              | some handler =>
                  dsimp only
                  split <;> rfl

-- The store is what the checks so far make of it, and lets as many pass.
structure Counts (state : ServerState) (seen : List Checked) : Prop where
  store : state.store = storeAfter gate.rates (seen.map Checked.call) fun _ => none
  passed : ∀ key bucket, (seen.filter (Checked.inBucket gate key bucket)).map Checked.passed =
    admissions gate.rates key bucket (seen.map Checked.call)

theorem counts_checked (state : ServerState) (seen : List Checked) (call : RateCall) (counts : Counts gate state seen)
    (next : ServerState) (stored : next.store = (call.check gate.rates state.store).2) :
    Counts gate next (seen ++ [⟨call, (call.check gate.rates state.store).1.allowed⟩]) := by
  constructor
  · rw [List.map_append, store_after_append, ← counts.store, stored]
    rfl
  · intro key bucket
    rw [List.filter_append, List.map_append, counts.passed key bucket, List.map_append, List.map_singleton, admissions_snoc,
      result, ← counts.store]
    congr 1
    by_cases inside : call.inBucket gate.rates key bucket = true
    · simp [Checked.inBucket, inside]
    · simp [Checked.inBucket, inside]

theorem rate_skipped (request : Request) (auth : Option RequestAuth) (store : RateLimitStore)
    (free : shouldLimit request.method request.path = false) : gate.rateMiddleware request auth store = (none, store) := by
  rw [Gate.rateMiddleware, if_pos free]

theorem rate_answered (request : Request) (auth : Option RequestAuth) (store : RateLimitStore)
    (limited : shouldLimit request.method request.path = true) (asks : request.store = .answers) :
    (gate.rateMiddleware request auth store).1.isNone = (gate.checked request auth store).1.allowed ∧
      (gate.rateMiddleware request auth store).2 = (gate.checked request auth store).2 := by
  have counts : ¬ shouldLimit request.method request.path = false := by simp [limited]
  rw [Gate.rateMiddleware, if_neg counts, asks]
  dsimp only
  cases (gate.checked request auth store).1.allowed <;> exact ⟨rfl, rfl⟩

theorem step_counts (enabled : gate.authEnabled = true) (state : ServerState) (seen : List Checked) (label : ServerLabel)
    (next : ServerState) (answered : label.answered) (counts : Counts gate state seen)
    (taken : gate.step state label = some next) : Counts gate next (seen ++ (gate.counted state label).toList) := by
  obtain ⟨auth, _, rfl⟩ := Option.map_eq_some_iff.mp taken
  have unseen : gate.storeAfter state label = state.store → gate.counted state label = none →
      Counts gate ⟨auth, gate.storeAfter state label⟩ (seen ++ (gate.counted state label).toList) := by
    intro kept nothing
    rw [nothing, Option.toList_none, List.append_nil]
    exact ⟨kept.trans counts.store, counts.passed⟩
  cases label with
  | registering index event => exact unseen rfl rfl
  | request request =>
      have stored := course_store gate state.auth.shared state.store request
      cases passes : gate.authMiddleware state.auth.shared request with
      | unauthorized =>
          rw [passes] at stored
          exact unseen stored (by simp only [Gate.counted, passes])
      | inner inside =>
          rw [passes] at stored
          cases limited : shouldLimit request.method request.path with
          | false =>
              dsimp only at stored
              rw [rate_skipped gate request inside state.store limited] at stored
              exact unseen stored (by simp [Gate.counted, passes, limited])
          | true =>
              obtain ⟨verdict, left⟩ := rate_answered gate request inside state.store limited answered
              rw [checked_call enabled _ state.store request inside passes limited] at verdict left
              have seenNow : gate.counted state (.request request) = some ⟨gate.rateCall request inside,
                  ((gate.rateCall request inside).check gate.rates state.store).1.allowed⟩ := by
                simp only [Gate.counted, passes, limited, if_true, verdict]
              rw [seenNow, Option.toList_some]
              exact counts_checked gate state seen _ counts _ (stored.trans left)

theorem run_counts (enabled : gate.authEnabled = true) (start : Nat) (labels : List ServerLabel) (finish : ServerState)
    (run : runFrom gate.step { auth := { shared := migrated start } } labels = some finish)
    (answered : ∀ label ∈ labels, label.answered) : Counts gate finish (gate.checks start labels) :=
  run_history_meeting ServerLabel.answered gate.counted (Counts gate)
    (fun state seen label next met counts taken => step_counts gate enabled state seen label next met counts taken)
    _ finish [] labels answered ⟨rfl, fun _ _ => rfl⟩ run

theorem entry_counted (state : ServerState) (label : ServerLabel) (entry : Entry) (workspaceId : Uuid) (bucket : Nat)
    (enters : gate.entry state label = some entry) (inside : entry.inBucket gate workspaceId bucket = true) :
    ∃ checked, gate.counted state label = some checked ∧
      (Checked.inBucket gate ("workspace:" ++ gate.uuidText workspaceId) bucket checked && checked.passed) = true := by
  cases label with
  | registering index event => cases enters
  | request request =>
      unfold Gate.entry at enters
      dsimp only at enters
      split at enters
      · rename_i handler auth ends
        by_cases bound : handler.workspaceBound = true
        · rw [if_pos bound] at enters
          cases enters
          obtain ⟨passes, goes, routed, _⟩ := entered_cases gate _ _ request handler (some auth) ends
          obtain ⟨_, _, counts⟩ := bound_guarded request.method request.path handler routed bound
          have facts := of_decide_eq_true inside
          simp only [Gate.counted, passes, counts, if_true, goes]
          refine ⟨_, rfl, ?_⟩
          rw [Option.isNone_none, Bool.and_true]
          exact decide_eq_true ⟨congrArg (fun id => "workspace:" ++ gate.uuidText id) facts.1, facts.2⟩
        · rw [if_neg bound] at enters
          cases enters
      · cases enters

theorem passed_at_most (key : String) (bucket : Nat) (checks : List Checked)
    (passed : (checks.filter (Checked.inBucket gate key bucket)).map Checked.passed =
      admissions gate.rates key bucket (checks.map Checked.call)) :
    (checks.countP fun checked => Checked.inBucket gate key bucket checked && checked.passed) ≤ (gate.rates key).limit.toNat := by
  have split : (checks.countP fun checked => Checked.inBucket gate key bucket checked && checked.passed) =
      ((checks.filter (Checked.inBucket gate key bucket)).map Checked.passed).count true := by
    rw [List.count, List.countP_map, List.countP_filter]
    refine List.countP_congr fun checked _ => ?_
    simp [and_comm]
  rw [split, passed, admissions_limited, List.count_append, List.count_replicate_self, List.count_replicate,
    if_neg (by decide), Nat.add_zero]
  exact Nat.min_le_left _ _

theorem requests_throttled (enabled : gate.authEnabled = true) (start : Nat) (labels : List ServerLabel) (finish : ServerState)
    (run : runFrom gate.step { auth := { shared := migrated start } } labels = some finish)
    (answered : ∀ label ∈ labels, label.answered) :
    (∀ key bucket,
      let checks := (gate.checks start labels).filter (Checked.inBucket gate key bucket)
      checks.map Checked.passed =
        List.replicate (min (gate.rates key).limit.toNat checks.length) true ++
          List.replicate (checks.length - (gate.rates key).limit.toNat) false) ∧
      ∀ workspaceId bucket,
        (gate.entries start labels).countP (Entry.inBucket gate workspaceId bucket) ≤ gate.requestLimit.toNat := by
  have counts := run_counts gate enabled start labels finish run answered
  constructor
  · intro key bucket
    dsimp only
    have number : ((gate.checks start labels).map Checked.call).countP (fun call => call.inBucket gate.rates key bucket) =
        ((gate.checks start labels).filter (Checked.inBucket gate key bucket)).length := by
      rw [List.countP_map, List.countP_eq_length_filter]
      rfl
    rw [counts.passed key bucket, admissions_limited, number]
  · intro workspaceId bucket
    have fewer := @run_events_count _ _ gate.step _ _ gate.entry gate.counted (Entry.inBucket gate workspaceId bucket)
      (fun checked => Checked.inBucket gate ("workspace:" ++ gate.uuidText workspaceId) bucket checked && checked.passed)
      (fun state label entry enters inside => entry_counted gate state label entry workspaceId bucket enters inside)
      { auth := { shared := migrated start } } labels
    have most := passed_at_most gate _ bucket _ (counts.passed ("workspace:" ++ gate.uuidText workspaceId) bucket)
    have limit : (gate.rates ("workspace:" ++ gate.uuidText workspaceId)).limit = gate.requestLimit := by
      rw [Gate.rates, workspace_key]
      rfl
    rw [limit] at most
    exact Nat.le_trans fewer most

-- One request in a window, and two of them.
def strictGate : Gate := { sampleGate with requestLimit := 1 }

theorem requests_throttled_listing :
    (∃ finish, runFrom strictGate.step { auth := { shared := migrated 0 } } (joining ++ [.request listing, .request listing]) =
        some finish) ∧
      (strictGate.entries 0 (joining ++ [.request listing, .request listing])).countP
        (Entry.inBucket strictGate defaultWorkspaceId 0) ≤ strictGate.requestLimit.toNat := by
  refine ⟨⟨_, rfl⟩, ?_⟩
  have facts := requests_throttled strictGate rfl 0 (joining ++ [.request listing, .request listing]) _ rfl
    (by simp [joining, ServerLabel.answered, registration, listing])
  exact facts.2 defaultWorkspaceId 0

end DataPilot.Api
