import DataPilot.Api.Routes
import DataPilot.Auth.RateLimit
import DataPilot.Auth.Sessions

set_option autoImplicit false

namespace DataPilot.Api

open DataPilot.Auth DataPilot.Base
open DataPilot.Chat (Uuid)
open DataPilot.Tools.Shared (startsWith)

-- The body of a request to the auth routes, as its model has validated it.
inductive Body where
  | none
  | credentials (username password : String)
  | registration (call : RegisterCall)

-- What the rate limit store answers: the check, or an exception after some of its
-- commands, with the store they leave.
inductive StoreAnswer where
  | answers
  | raises (left : RateLimitStore)

-- A request of the scope type http, its headers in Latin-1, with the clock in
-- microseconds and what the handler and the store meet.
structure Request where
  method : String
  path : String
  headers : List (String × String) := []
  client : Option String := none
  body : Body := .none
  now : Nat
  pick : Nat := 0
  supply : Supply := { now := 0 }
  store : StoreAnswer := .answers

-- Header lines by name, the last of a name first; SimpleCookie is a parameter.
structure Gate where
  host : Host
  authEnabled : Bool := true
  cookieName : String := "datapilot_session"
  loadCookies : String → Option (List (String × String))
  uuidText : Uuid → String
  requestLimit : Int := 120
  loginLimit : Int := 10
  windowSeconds : Nat := 60
  positive : 0 < windowSeconds := by decide

structure RequestAuth where
  userId : Option Uuid
  workspaceId : Uuid
  sessionId : Option Uuid
  username : Option String
  displayName : Option String
  authenticated : Bool

def lowerName (name : String) : String := String.ofList (name.toList.map Char.toLower)

def header (headers : List (String × String)) (name : String) : Option String :=
  (headers.reverse.find? fun line => lowerName line.1 = name).map Prod.snd

def bearer (authorization : String) : String := strip (String.ofList (authorization.toList.drop 7))

variable (gate : Gate)

def Gate.cookieToken (headers : List (String × String)) : Option String :=
  match header headers "cookie" with
  | none => none
  | some text =>
      if text = "" then none
      else (gate.loadCookies text).bind fun cookies => (cookies.find? fun cookie => cookie.1 = gate.cookieName).map Prod.snd

def Gate.extractToken (headers : List (String × String)) : Option String :=
  let authorization := (header headers "authorization").getD ""
  if startsWith (casefold authorization) "bearer " && bearer authorization ≠ "" then some (bearer authorization)
  else gate.cookieToken headers

def requestAuth (context : AuthContext) : RequestAuth where
  userId := some context.userId
  workspaceId := context.workspaceId
  sessionId := some context.sessionId
  username := some context.username
  displayName := some context.displayName
  authenticated := true

def defaultAuth : RequestAuth where
  userId := none
  workspaceId := defaultWorkspaceId
  sessionId := none
  username := none
  displayName := none
  authenticated := false

-- What AuthMiddleware makes of a request: 401, or a state for the inner application.
inductive Passage where
  | unauthorized
  | inner (auth : Option RequestAuth)

-- The token it asks the service about, if it asks.
def Gate.asks (request : Request) : Option String :=
  if gate.authEnabled = false ∨ upper request.method = "OPTIONS" ∨ isPublic request.path = true then none
  else (gate.extractToken request.headers).bind fun token => if token = "" then none else some token

def Gate.authMiddleware (database : Database) (request : Request) : Passage :=
  if gate.authEnabled = false then .inner (some defaultAuth)
  else if upper request.method = "OPTIONS" ∨ isPublic request.path = true then .inner none
  else
    match gate.asks request with
    | none => .unauthorized
    | some token =>
        match (authenticate gate.host database token request.now).2 with
        | none => .unauthorized
        | some context => .inner (some (requestAuth context))

def Gate.identity (request : Request) (auth : Option RequestAuth) : String :=
  match auth with
  | some auth => "workspace:" ++ gate.uuidText auth.workspaceId
  | none => "ip:" ++ request.client.getD "unknown"

def Gate.limitOf (request : Request) : Int := if isAuthEndpoint request.path then gate.loginLimit else gate.requestLimit

-- time.time() in whole seconds
def Request.second (request : Request) : Nat := request.now / 1000000

def Gate.checked (request : Request) (auth : Option RequestAuth) (store : RateLimitStore) : RateLimitResult × RateLimitStore :=
  check ⟨gate.limitOf request, gate.windowSeconds, gate.positive⟩ (gate.identity request auth) request.second store

-- RateLimitMiddleware: none for a request that goes on, and the store afterwards.
def Gate.rateMiddleware (request : Request) (auth : Option RequestAuth) (store : RateLimitStore) :
    Option RateLimitResult × RateLimitStore :=
  if shouldLimit request.method request.path = false then (none, store)
  else
    match request.store with
    | .raises left => (none, left)
    | .answers =>
        let (result, next) := gate.checked request auth store
        (if result.allowed then none else some result, next)

-- Where a request ends: with a status of the middlewares, unrouted, or in a handler
-- that is given the workspace of the request if it depends on it.
inductive Course where
  | unauthorized
  | limited (result : RateLimitResult)
  | unrouted
  | refused
  | entered (handler : Handler) (auth : Option RequestAuth)

def Gate.course (database : Database) (store : RateLimitStore) (request : Request) : Course × RateLimitStore :=
  match gate.authMiddleware database request with
  | .unauthorized => (.unauthorized, store)
  | .inner auth =>
      match gate.rateMiddleware request auth store with
      | (some result, next) => (.limited result, next)
      | (none, next) =>
          match route request.method request.path with
          | none => (.unrouted, next)
          | some handler =>
              if handler.workspaceBound && auth.isNone then (.refused, next) else (.entered handler auth, next)

-- What the handler calls the auth service for.
def handlerLabels (request : Request) : Course → List AuthLabel
  | .entered .login _ =>
      match request.body with
      | .credentials username password => [.login username password request.pick request.supply]
      | _ => []
  | .entered .register _ =>
      match request.body with
      | .registration call => [.register (.call call)]
      | _ => []
  | .entered .logout (some auth) =>
      match auth.sessionId with
      | some sessionId => [.logout sessionId]
      | none => []
  | _ => []

structure ServerState where
  auth : AuthWorld
  store : RateLimitStore := fun _ => none

-- A request is served, or a pending registration goes on with its next statement.
inductive ServerLabel where
  | request (request : Request)
  | registering (index : Nat) (event : RegisterEvent)

def Gate.authLabels (state : ServerState) : ServerLabel → List AuthLabel
  | .registering index event => [.register (.act index event)]
  | .request request =>
      ((gate.asks request).toList.map fun token => .authenticate token request.now) ++
        handlerLabels request (gate.course state.auth.shared state.store request).1

def Gate.storeAfter (state : ServerState) : ServerLabel → RateLimitStore
  | .registering _ _ => state.store
  | .request request => (gate.course state.auth.shared state.store request).2

def Gate.step (state : ServerState) (label : ServerLabel) : Option ServerState :=
  (runFrom (AuthWorld.step gate.host) state.auth (gate.authLabels state label)).map fun auth =>
    ⟨auth, gate.storeAfter state label⟩

def Gate.allLabels (state : ServerState) : List ServerLabel → List AuthLabel
  | [] => []
  | label :: rest =>
      match gate.step state label with
      | none => []
      | some next => gate.authLabels state label ++ Gate.allLabels next rest

def Gate.history (start : Nat) (labels : List ServerLabel) : List AuthEvent :=
  authHistory gate.host { shared := migrated start } (gate.allLabels { auth := { shared := migrated start } } labels)

theorem server_run (state finish : ServerState) (labels : List ServerLabel)
    (run : runFrom gate.step state labels = some finish) :
    runFrom (AuthWorld.step gate.host) state.auth (gate.allLabels state labels) = some finish.auth := by
  induction labels generalizing state with
  | nil =>
      cases run
      rfl
  | cons label rest ih =>
      obtain ⟨next, taken, remaining⟩ := run_cons state finish label rest run
      obtain ⟨auth, moved, same⟩ := Option.map_eq_some_iff.mp taken
      rw [Gate.allLabels, taken]
      dsimp only
      rw [run_append, moved, Option.bind_some]
      rw [← same] at remaining ⊢
      exact ih _ remaining

theorem server_tracked (start : Nat) (labels : List ServerLabel) (finish : ServerState)
    (run : runFrom gate.step { auth := { shared := migrated start } } labels = some finish) :
    Tracked gate.host finish.auth.shared (gate.history start labels) :=
  run_tracked gate.host start _ finish.auth (server_run gate _ finish labels run)

theorem entered_cases (database : Database) (store : RateLimitStore) (request : Request) (handler : Handler)
    (auth : Option RequestAuth) (ends : (gate.course database store request).1 = .entered handler auth) :
    gate.authMiddleware database request = .inner auth ∧ (gate.rateMiddleware request auth store).1 = none ∧
      route request.method request.path = some handler ∧ (handler.workspaceBound = true → auth.isSome = true) := by
  unfold Gate.course at ends
  cases passage : gate.authMiddleware database request with
  | unauthorized =>
      rw [passage] at ends
      cases ends
  | inner inside =>
      rw [passage] at ends
      dsimp only at ends
      cases limited : gate.rateMiddleware request inside store with
      | mk verdict next =>
          rw [limited] at ends
          cases verdict with
          | some result => cases ends
          | none =>
              dsimp only at ends
              cases routed : route request.method request.path with
              | none =>
                  rw [routed] at ends
                  cases ends
              | some found =>
                  rw [routed] at ends
                  dsimp only at ends
                  split at ends
                  · cases ends
                  · rename_i admitted
                    cases ends
                    refine ⟨rfl, by rw [limited], rfl, fun bound => ?_⟩
                    cases auth with
                    | none => simp [bound] at admitted
                    | some auth => rfl

theorem passed_token (database : Database) (request : Request) (auth : RequestAuth) (enabled : gate.authEnabled = true)
    (passes : gate.authMiddleware database request = .inner (some auth)) :
    ∃ token context, gate.extractToken request.headers = some token ∧ auth = requestAuth context ∧
      (authenticate gate.host database token request.now).2 = some context := by
  unfold Gate.authMiddleware at passes
  rw [if_neg (by simp [enabled])] at passes
  split at passes
  · cases passes
  · rename_i guarded
    obtain ⟨options, hidden⟩ := not_or.mp guarded
    cases asked : gate.asks request with
    | none =>
        rw [asked] at passes
        cases passes
    | some token =>
        rw [asked] at passes
        dsimp only at passes
        cases known : (authenticate gate.host database token request.now).2 with
        | none =>
            rw [known] at passes
            cases passes
        | some context =>
            rw [known] at passes
            cases passes
            rw [Gate.asks, if_neg (by simp [enabled, options, hidden])] at asked
            obtain ⟨given, extracted, kept⟩ := Option.bind_eq_some_iff.mp asked
            split at kept
            · cases kept
            · cases kept
              exact ⟨token, context, extracted, rfl, known⟩

theorem context_standing (host : Host) (database : Database) (events : List AuthEvent) (tracked : Tracked host database events)
    (token : String) (now : Nat) (context : AuthContext) (known : (authenticate host database token now).2 = some context) :
    ∃ issue ∈ standing events, host.hashSessionToken issue.token = host.hashSessionToken token ∧
      now < expiresAt host issue.issuedAt ∧ issue.workspaceId = context.workspaceId ∧ issue.userId = context.userId ∧
      ∃ member ∈ database.members, member.workspaceId = context.workspaceId ∧ member.userId = context.userId := by
  cases live : liveSession host database token now with
  | none =>
      rw [authenticate_none host database token now live] at known
      cases known
  | some session =>
      have stored := List.mem_of_find?_eq_some live
      have passes := List.find?_some live
      rw [decide_eq_true_iff] at passes
      obtain ⟨issue, issued, opened, same⟩ := mem_session tracked session stored
      obtain ⟨users, joined⟩ := tracked.belongs issue issued
      obtain ⟨sameUser, sameWorkspace⟩ := core_context host session issue same
      rw [← sameUser] at users joined
      rw [← sameWorkspace] at joined
      obtain ⟨other, found, user, workspace, _⟩ := authenticate_live host database token now session live users joined
      obtain rfl := Option.some.inj (found.symm.trans known)
      have hash : session.tokenHash = host.hashSessionToken issue.token := congrArg SessionCore.tokenHash same
      have expiry : session.expiresAt = expiresAt host issue.issuedAt := congrArg SessionCore.expiresAt same
      refine ⟨issue, (mem_standing events issue).mpr ⟨issued, opened⟩, hash.symm.trans passes.1, expiry ▸ passes.2,
        sameWorkspace.symm.trans workspace.symm, sameUser.symm.trans user.symm, ?_⟩
      rw [workspace, user]
      exact joined

theorem workspace_entered (start : Nat) (labels : List ServerLabel) (state : ServerState)
    (run : runFrom gate.step { auth := { shared := migrated start } } labels = some state)
    (enabled : gate.authEnabled = true) (request : Request) (handler : Handler) (auth : Option RequestAuth)
    (bound : handler.workspaceBound = true)
    (ends : (gate.course state.auth.shared state.store request).1 = .entered handler auth) :
    ∃ token inside, gate.extractToken request.headers = some token ∧ auth = some inside ∧
      ∃ issue ∈ standing (gate.history start labels), gate.host.hashSessionToken issue.token = gate.host.hashSessionToken token ∧
        request.now < expiresAt gate.host issue.issuedAt ∧ inside.workspaceId = issue.workspaceId ∧
        inside.userId = some issue.userId ∧
        ∃ member ∈ state.auth.shared.members, member.workspaceId = inside.workspaceId ∧ member.userId = issue.userId := by
  obtain ⟨passes, _, _, filled⟩ := entered_cases gate state.auth.shared state.store request handler auth ends
  obtain ⟨inside, rfl⟩ := Option.isSome_iff_exists.mp (filled bound)
  obtain ⟨token, context, extracted, rfl, known⟩ := passed_token gate state.auth.shared request inside enabled passes
  obtain ⟨issue, stands, hashed, valid, workspace, user, member⟩ := context_standing gate.host state.auth.shared _
    (server_tracked gate start labels state run) token request.now context known
  refine ⟨token, _, extracted, rfl, issue, stands, hashed, valid, workspace.symm, congrArg some user.symm, ?_⟩
  rw [user]
  exact member

def sampleUuid (id : Uuid) : String :=
  let digits := (toString id).toList
  "00000000-0000-0000-0000-" ++ String.ofList (List.replicate (12 - digits.length) '0' ++ digits)

def sampleGate : Gate where
  host := sampleHost
  loadCookies := fun _ => none
  uuidText := sampleUuid

def registration : Request where
  method := "POST"
  path := "/api/auth/register"
  client := some "10.0.0.7"
  body := .registration { username := "ada", password := "password1", displayName := "Ada" }
  now := 1000000

def listing : Request where
  method := "GET"
  path := "/api/conversations"
  headers := [("Authorization", "Bearer first")]
  client := some "10.0.0.7"
  now := 9000000

def joining : List ServerLabel :=
  [.request registration, .registering 0 (.proceed { now := 1000000 }), .registering 0 (.proceed { now := 2000000 }),
    .registering 0 (.proceed { now := 3000000, token := "first" }), .registering 0 (.proceed { now := 4000000 })]

theorem workspace_entered_listing :
    ∃ state inside, runFrom sampleGate.step { auth := { shared := migrated 0 } } joining = some state ∧
      (sampleGate.course state.auth.shared state.store listing).1 = .entered .listConversations (some inside) ∧
      ∃ token auth, sampleGate.extractToken listing.headers = some token ∧ some inside = some auth ∧
        ∃ issue ∈ standing (sampleGate.history 0 joining),
          sampleGate.host.hashSessionToken issue.token = sampleGate.host.hashSessionToken token ∧
          listing.now < expiresAt sampleGate.host issue.issuedAt ∧ auth.workspaceId = issue.workspaceId ∧
          auth.userId = some issue.userId ∧ ∃ member ∈ state.auth.shared.members,
            member.workspaceId = auth.workspaceId ∧ member.userId = issue.userId :=
  ⟨_, _, rfl, rfl, workspace_entered sampleGate 0 joining _ rfl rfl listing .listConversations _ rfl rfl⟩

end DataPilot.Api
