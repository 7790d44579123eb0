import DataPilot.Auth.Models
import DataPilot.Base.Consecutive
import DataPilot.Base.Parties

set_option autoImplicit false

namespace DataPilot.Auth

open DataPilot.Base
open DataPilot.Chat (Uuid)

-- The awaits of register. The user is inserted but not committed from claiming
-- on; a claimed default workspace is locked by committing.
inductive RegisterPoint where
  | checking
  | inserting (passwordHash : String)
  | claiming (user : UserRow)
  | founding (user : UserRow)
  | committing (user : UserRow) (workspace : WorkspaceRow) (claimed : Bool) (token : String) (issuedAt : Nat)
  | refreshing (result : AuthResult)
  | registered (result : AuthResult)
  | refused (error : AuthError)
  | failed

-- A call of register, with the number of users that its check has seen.
structure RegisterState where
  call : RegisterCall
  seen : Nat := 0
  point : RegisterPoint := .checking

-- The pending statement is answered, or fails and the transaction with it.
inductive RegisterEvent where
  | proceed (supply : Supply)
  | rollback

def RegisterPoint.isFinished : RegisterPoint → Bool
  | .registered _ => true
  | .refused _ => true
  | .failed => true
  | _ => false

def RegisterState.pendingUser (state : RegisterState) : Option UserRow :=
  match state.point with
  | .claiming user => some user
  | .founding user => some user
  | .committing user _ _ _ _ => some user
  | _ => none

def RegisterState.holdsDefault (state : RegisterState) : Bool :=
  match state.point with
  | .committing _ _ claimed _ _ => claimed
  | _ => false

def expiresAt (host : Host) (issuedAt : Nat) : Nat := issuedAt + host.sessionTtlSeconds * 1000000

def AuthError.registeredName : AuthError := ⟨"Username is already registered."⟩

def AuthError.invalidLogin : AuthError := ⟨"Invalid username or password."⟩

def takenName (host : Host) (database : Database) (username : String) : Bool :=
  database.users.any fun user => decide (host.lower user.username = casefold (strip username))

def AuthResult.of (user : UserRow) (workspace : WorkspaceRow) (role token : String) : AuthResult where
  token := token
  session := { user := userView user, workspace := workspaceView workspace role }

-- Row by row what commit flushes: the user, the workspace or its new owner, the
-- membership and the session.
def Database.commit (database : Database) (host : Host) (user : UserRow) (workspace : WorkspaceRow) (claimed : Bool)
    (token : String) (issuedAt now : Nat) : Database where
  users := database.users ++ [user]
  workspaces :=
    if claimed then
      database.workspaces.map fun row =>
        if row.id = workspace.id then { row with ownerId := workspace.ownerId, updatedAt := workspace.updatedAt } else row
    else database.workspaces ++ [workspace]
  members := database.members ++ [{
    workspaceId := workspace.id
    userId := user.id
    role := "owner"
    createdAt := now }]
  sessions := database.sessions ++ [{
    id := database.nextId
    userId := user.id
    workspaceId := workspace.id
    tokenHash := host.hashSessionToken token
    expiresAt := expiresAt host issuedAt
    lastSeenAt := issuedAt }]
  nextId := database.nextId + 1

def RegisterState.newUser (state : RegisterState) (id : Uuid) (passwordHash : String) (now : Nat) : UserRow where
  id := id
  username := strip state.call.username
  displayName := state.call.displayName
  passwordHash := passwordHash
  createdAt := now

def RegisterState.newWorkspace (state : RegisterState) (id userId : Uuid) (supply : Supply) : WorkspaceRow where
  id := id
  name := state.call.displayName ++ " 的工作空间"
  slug := "workspace-" ++ slice supply.hex 12
  ownerId := some userId
  updatedAt := supply.now

def unclaimed (workspace : WorkspaceRow) : Bool :=
  decide (workspace.id = defaultWorkspaceId ∧ workspace.ownerId = none)

def RegisterState.at (state : RegisterState) (point : RegisterPoint) : RegisterState := { state with point := point }

-- An INSERT waits for the transactions that have inserted the same username; a
-- SELECT FOR UPDATE waits for the lock and then reads the row again.
def RegisterState.proceed (host : Host) (database : Database) (others : List RegisterState) (state : RegisterState)
    (supply : Supply) : Option (Database × RegisterState) :=
  match state.point with
  | .checking =>
      if takenName host database state.call.username then some (database, state.at (.refused .registeredName))
      else
        some (database, { state with
          seen := database.users.length
          point := .inserting (host.hashPassword state.call.password supply.salt) })
  | .inserting passwordHash =>
      let user := state.newUser database.nextId passwordHash supply.now
      if others.any fun other => decide (other.pendingUser.map UserRow.username = some user.username) then none
      else if database.users.any fun row => decide (row.username = user.username) then some (database, state.at .failed)
      else some ({ database with nextId := database.nextId + 1 }, state.at (.claiming user))
  | .claiming user =>
      match database.workspaces.find? unclaimed with
      | none => some (database, state.at (.founding user))
      | some workspace =>
          if others.any RegisterState.holdsDefault then none
          else
            some (database, state.at (.committing user
              { workspace with ownerId := some user.id, updatedAt := supply.now } true supply.token supply.now))
  | .founding user =>
      some ({ database with nextId := database.nextId + 1 }, state.at (.committing user
        (state.newWorkspace database.nextId user.id supply) false supply.token supply.now))
  | .committing user workspace claimed token issuedAt =>
      some (database.commit host user workspace claimed token issuedAt supply.now,
        state.at (.refreshing (.of user workspace "owner" token)))
  | .refreshing result => some (database, state.at (.registered result))
  | _ => none

def RegisterState.act (host : Host) (database : Database) (others : List RegisterState) (state : RegisterState) :
    RegisterEvent → Option (Database × RegisterState)
  | .proceed supply => state.proceed host database others supply
  | .rollback => if state.point.isFinished then none else some (database, state.at .failed)

-- session.scalar of a query without an order: any of its rows may be the first.
def scalar {α : Type} (pick : Nat) (rows : List α) : Option α := rows[pick % rows.length]?

def foundBy (host : Host) (database : Database) (username : String) : List UserRow :=
  database.users.filter fun user => decide (host.lower user.username = casefold (strip username))

def memberships (database : Database) (userId : Uuid) : List MemberRow :=
  orderBy (fun membership => (membership.createdAt : Int))
    (database.members.filter fun membership => decide (membership.userId = userId))

def Database.openSession (database : Database) (host : Host) (userId workspaceId : Uuid) (supply : Supply) : Database :=
  { database with
    sessions := database.sessions ++ [{
      id := database.nextId
      userId := userId
      workspaceId := workspaceId
      tokenHash := host.hashSessionToken supply.token
      expiresAt := expiresAt host supply.now
      lastSeenAt := supply.now }]
    nextId := database.nextId + 1 }

def login (host : Host) (database : Database) (username password : String) (pick : Nat) (supply : Supply) :
    Except AuthError (Database × AuthResult) :=
  match scalar pick (foundBy host database username) with
  | none => .error .invalidLogin
  | some user =>
      if host.verifyPassword password user.passwordHash then
        match (memberships database user.id).head? with
        | none => .error ⟨"User has no workspace membership."⟩
        | some membership =>
            match database.workspaces.find? fun workspace => decide (workspace.id = membership.workspaceId) with
            | none => .error ⟨"Workspace not found."⟩
            | some workspace =>
                .ok (database.openSession host user.id workspace.id supply,
                  .of user workspace membership.role supply.token)
      else .error .invalidLogin

def liveSession (host : Host) (database : Database) (token : String) (now : Nat) : Option SessionRow :=
  database.sessions.find? fun session =>
    decide (session.tokenHash = host.hashSessionToken token ∧ now < session.expiresAt)

def touched (sessions : List SessionRow) (sessionId : Uuid) (now : Nat) : List SessionRow :=
  sessions.map fun session => if session.id = sessionId then { session with lastSeenAt := now } else session

def authenticate (host : Host) (database : Database) (token : String) (now : Nat) : Database × Option AuthContext :=
  match liveSession host database token now with
  | none => (database, none)
  | some session =>
      match database.users.find? (fun user => decide (user.id = session.userId)),
          database.members.find? (fun membership =>
            decide (membership.workspaceId = session.workspaceId ∧ membership.userId = session.userId)) with
      | some user, some _ =>
          ({ database with sessions := touched database.sessions session.id now }, some {
            userId := user.id
            workspaceId := session.workspaceId
            sessionId := session.id
            username := user.username
            displayName := user.displayName })
      | _, _ => (database, none)

def logout (database : Database) (sessionId : Uuid) : Database :=
  { database with sessions := database.sessions.filter fun session => decide (session.id ≠ sessionId) }

-- The calls of register go on statement by statement; the others write once, at
-- their end, and are taken as one step.
inductive AuthLabel where
  | register (label : PartyLabel RegisterCall RegisterEvent)
  | login (username password : String) (pick : Nat) (supply : Supply)
  | authenticate (token : String) (now : Nat)
  | logout (sessionId : Uuid)

abbrev AuthWorld := World Database RegisterState

def AuthWorld.step (host : Host) (world : AuthWorld) : AuthLabel → Option AuthWorld
  | .register label => World.step (fun call => { call }) (RegisterState.act host) world label
  | .login username password pick supply =>
      match login host world.shared username password pick supply with
      | .error _ => some world
      | .ok (database, _) => some { world with shared := database }
  | .authenticate token now => some { world with shared := (authenticate host world.shared token now).1 }
  | .logout sessionId => some { world with shared := logout world.shared sessionId }

-- The identifiers of rows that are inserted and not committed.
def RegisterState.userId (state : RegisterState) : Option Uuid := state.pendingUser.map UserRow.id

def RegisterState.ownWorkspace (state : RegisterState) : Option Uuid :=
  match state.point with
  | .committing _ workspace false _ _ => some workspace.id
  | _ => none

def RegisterState.isCommitting (state : RegisterState) : Bool :=
  match state.point with
  | .committing _ _ _ _ _ => true
  | _ => false

section Moves

variable (host : Host) (database : Database) (others : List RegisterState) (state : RegisterState) (event : RegisterEvent)

inductive Registers : Database → RegisterState → Prop where
  | stops (point : RegisterPoint) (ended : point = .failed ∨ ∃ error, point = .refused error)
      (uncommitted : event = .rollback ∨ state.isCommitting = false) : Registers database (state.at point)
  | checked (salt : String) (reached : state.point = .checking)
      (free : takenName host database state.call.username = false) :
      Registers database { state with
        seen := database.users.length
        point := .inserting (host.hashPassword state.call.password salt) }
  | inserted (passwordHash : String) (now : Nat) (reached : state.point = .inserting passwordHash)
      (absent : ∀ row ∈ database.users, row.username ≠ strip state.call.username) :
      Registers { database with nextId := database.nextId + 1 }
        (state.at (.claiming (state.newUser database.nextId passwordHash now)))
  | founded (user : UserRow) (reached : state.point = .claiming user) : Registers database (state.at (.founding user))
  | claimed (user : UserRow) (workspace : WorkspaceRow) (supply : Supply) (reached : state.point = .claiming user)
      (found : database.workspaces.find? unclaimed = some workspace) (free : ∀ other ∈ others, other.holdsDefault = false) :
      Registers database (state.at (.committing user
        { workspace with ownerId := some user.id, updatedAt := supply.now } true supply.token supply.now))
  | inserts (user : UserRow) (supply : Supply) (reached : state.point = .founding user) :
      Registers { database with nextId := database.nextId + 1 } (state.at (.committing user
        (state.newWorkspace database.nextId user.id supply) false supply.token supply.now))
  | commits (user : UserRow) (workspace : WorkspaceRow) (claimed : Bool) (token : String) (issuedAt : Nat) (supply : Supply)
      (reached : state.point = .committing user workspace claimed token issuedAt) (answered : event = .proceed supply) :
      Registers (database.commit host user workspace claimed token issuedAt supply.now)
        (state.at (.refreshing (.of user workspace "owner" token)))
  | returns (result : AuthResult) (reached : state.point = .refreshing result) :
      Registers database (state.at (.registered result))

theorem act_registers (changed : Database) (after : RegisterState)
    (acted : state.act host database others event = some (changed, after)) :
    state.point.isFinished = false ∧ Registers host database others state event changed after := by
  cases event with
  | rollback =>
      cases ended : state.point.isFinished with
      | true => simp [RegisterState.act, ended] at acted
      | false =>
          simp only [RegisterState.act, ended, Bool.false_eq_true, if_false, Option.some.injEq, Prod.mk.injEq] at acted
          obtain ⟨rfl, rfl⟩ := acted
          exact ⟨rfl, .stops .failed (.inl rfl) (.inl rfl)⟩
  | proceed supply =>
      simp only [RegisterState.act, RegisterState.proceed] at acted
      cases reached : state.point with
      | checking =>
          cases taken : takenName host database state.call.username with
          | true =>
              simp only [reached, taken, if_true, Option.some.injEq, Prod.mk.injEq] at acted
              obtain ⟨rfl, rfl⟩ := acted
              exact ⟨rfl, .stops _ (.inr ⟨_, rfl⟩) (.inr (by simp [RegisterState.isCommitting, reached]))⟩
          | false =>
              simp only [reached, taken, Bool.false_eq_true, if_false, Option.some.injEq, Prod.mk.injEq] at acted
              obtain ⟨rfl, rfl⟩ := acted
              exact ⟨rfl, .checked supply.salt reached taken⟩
      | inserting passwordHash =>
          simp only [reached] at acted
          split at acted
          · cases acted
          · split at acted
            · cases acted
              exact ⟨rfl, .stops _ (.inl rfl) (.inr (by simp [RegisterState.isCommitting, reached]))⟩
            · rename_i absent
              cases acted
              refine ⟨rfl, .inserted passwordHash supply.now reached fun row member same => absent ?_⟩
              exact List.any_eq_true.mpr ⟨row, member, decide_eq_true same⟩
      | claiming user =>
          simp only [reached] at acted
          cases found : database.workspaces.find? unclaimed with
          | none =>
              simp only [found] at acted
              cases acted
              exact ⟨rfl, .founded user reached⟩
          | some workspace =>
              simp only [found] at acted
              split at acted
              · cases acted
              · rename_i free
                cases acted
                exact ⟨rfl, .claimed user workspace supply reached found (by simpa using free)⟩
      | founding user =>
          simp only [reached] at acted
          cases acted
          exact ⟨rfl, .inserts user supply reached⟩
      | committing user workspace claimed token issuedAt =>
          simp only [reached] at acted
          cases acted
          exact ⟨rfl, .commits user workspace claimed token issuedAt supply reached rfl⟩
      | refreshing result =>
          simp only [reached] at acted
          cases acted
          exact ⟨rfl, .returns result reached⟩
      | registered result => simp [reached] at acted
      | refused error => simp [reached] at acted
      | failed => simp [reached] at acted

theorem registers_call (changed : Database) (after : RegisterState)
    (registers : Registers host database others state event changed after) : after.call = state.call := by
  cases registers <;> rfl

theorem registers_tables (changed : Database) (after : RegisterState)
    (registers : Registers host database others state event changed after) :
    (∃ next, database.nextId ≤ next ∧ changed = { database with nextId := next } ∧
        (state.isCommitting = false ∨ event = .rollback)) ∨
      ∃ user workspace claimed token issuedAt supply, event = .proceed supply ∧
        state.point = .committing user workspace claimed token issuedAt ∧
        changed = database.commit host user workspace claimed token issuedAt supply.now := by
  have waits (reached : state.isCommitting = false) : ∃ next, database.nextId ≤ next ∧
      database = { database with nextId := next } ∧ (state.isCommitting = false ∨ event = .rollback) :=
    ⟨database.nextId, Nat.le_refl _, rfl, .inl reached⟩
  have draws (reached : state.isCommitting = false) : ∃ next, database.nextId ≤ next ∧
      { database with nextId := database.nextId + 1 } = { database with nextId := next } ∧
        (state.isCommitting = false ∨ event = .rollback) :=
    ⟨database.nextId + 1, Nat.le_succ _, rfl, .inl reached⟩
  cases registers with
  | stops point ended uncommitted => exact .inl ⟨database.nextId, Nat.le_refl _, rfl, uncommitted.symm⟩
  | checked salt reached free => exact .inl (waits (by simp [RegisterState.isCommitting, reached]))
  | inserted passwordHash now reached absent => exact .inl (draws (by simp [RegisterState.isCommitting, reached]))
  | founded user reached => exact .inl (waits (by simp [RegisterState.isCommitting, reached]))
  | claimed user workspace supply reached found free =>
      exact .inl (waits (by simp [RegisterState.isCommitting, reached]))
  | inserts user supply reached => exact .inl (draws (by simp [RegisterState.isCommitting, reached]))
  | commits user workspace claimed token issuedAt supply reached answered =>
      exact .inr ⟨user, workspace, claimed, token, issuedAt, supply, answered, reached, rfl⟩
  | returns result reached => exact .inl (waits (by simp [RegisterState.isCommitting, reached]))

end Moves

inductive Changes (host : Host) (database : Database) : Database → Prop where
  | same : Changes host database database
  | opens (user : UserRow) (member : MemberRow) (supply : Supply) (known : user ∈ database.users)
      (joined : member ∈ database.members) (whose : member.userId = user.id) :
      Changes host database (database.openSession host user.id member.workspaceId supply)
  | touches (sessionId : Uuid) (now : Nat) :
      Changes host database { database with sessions := touched database.sessions sessionId now }
  | deletes (sessionId : Uuid) : Changes host database (logout database sessionId)

theorem scalar_mem {α : Type} (pick : Nat) (rows : List α) (row : α) (found : scalar pick rows = some row) : row ∈ rows :=
  List.mem_of_getElem? found

theorem login_found (host : Host) (database changed : Database) (username password : String) (pick : Nat) (supply : Supply)
    (result : AuthResult) (succeeds : login host database username password pick supply = .ok (changed, result)) :
    ∃ user member workspace, scalar pick (foundBy host database username) = some user ∧
      host.verifyPassword password user.passwordHash = true ∧ (memberships database user.id).head? = some member ∧
      database.workspaces.find? (fun workspace => decide (workspace.id = member.workspaceId)) = some workspace ∧
      changed = database.openSession host user.id workspace.id supply ∧
      result = .of user workspace member.role supply.token := by
  simp only [login] at succeeds
  split at succeeds
  · cases succeeds
  · rename_i user found
    split at succeeds
    · rename_i verified
      split at succeeds
      · cases succeeds
      · rename_i member joined
        split at succeeds
        · cases succeeds
        · rename_i workspace present
          cases succeeds
          exact ⟨user, member, workspace, found, verified, joined, present, rfl, rfl⟩
    · cases succeeds

theorem membership_mem (database : Database) (userId : Uuid) (member : MemberRow)
    (first : (memberships database userId).head? = some member) : member ∈ database.members ∧ member.userId = userId := by
  have listed := (order_by_perm _ _).mem_iff.mp (List.mem_of_head? first)
  obtain ⟨inTable, whose⟩ := List.mem_filter.mp listed
  exact ⟨inTable, of_decide_eq_true whose⟩

theorem login_changes (host : Host) (database changed : Database) (username password : String) (pick : Nat) (supply : Supply)
    (result : AuthResult) (succeeds : login host database username password pick supply = .ok (changed, result)) :
    Changes host database changed := by
  obtain ⟨user, member, workspace, found, _, first, present, rfl, _⟩ :=
    login_found host database changed username password pick supply result succeeds
  obtain ⟨joined, whose⟩ := membership_mem database user.id member first
  have same : workspace.id = member.workspaceId := by simpa using List.find?_some present
  rw [same]
  exact .opens user member supply (List.mem_of_mem_filter (scalar_mem pick _ user found)) joined whose

theorem authenticate_tables (host : Host) (database : Database) (token : String) (now : Nat) :
    (authenticate host database token now).1 = database ∨
      ∃ sessionId, (authenticate host database token now).1 =
        { database with sessions := touched database.sessions sessionId now } := by
  simp only [authenticate]
  split
  · exact .inl rfl
  · split
    · exact .inr ⟨_, rfl⟩
    · exact .inl rfl

theorem authenticate_changes (host : Host) (database : Database) (token : String) (now : Nat) :
    Changes host database (authenticate host database token now).1 := by
  rcases authenticate_tables host database token now with same | ⟨sessionId, touches⟩
  · rw [same]
    exact .same
  · rw [touches]
    exact .touches sessionId now

theorem auth_step_cases (host : Host) (world next : AuthWorld) (label : AuthLabel)
    (taken : AuthWorld.step host world label = some next) :
    (∃ call, label = .register (.call call) ∧ next = { world with parties := world.parties ++ [{ call }] }) ∨
      (∃ front state back event changed after, label = .register (.act front.length event) ∧
        world.parties = front ++ state :: back ∧ state.act host world.shared (front ++ back) event = some (changed, after) ∧
        next = { shared := changed, parties := front ++ after :: back }) ∨
      ∃ changed, (∀ inner, label ≠ .register inner) ∧ Changes host world.shared changed ∧
        next = { world with shared := changed } := by
  cases label with
  | register label =>
      rcases world_step_cases world next label taken with
        ⟨call, rfl, rfl⟩ | ⟨front, state, back, event, changed, after, rfl, parties, acted, rfl⟩
      · exact .inl ⟨call, rfl, rfl⟩
      · exact .inr (.inl ⟨front, state, back, event, changed, after, rfl, parties, acted, rfl⟩)
  | login username password pick supply =>
      simp only [AuthWorld.step] at taken
      split at taken
      · cases taken
        exact .inr (.inr ⟨_, fun _ => AuthLabel.noConfusion, .same, rfl⟩)
      · rename_i changed result succeeds
        cases taken
        exact .inr (.inr ⟨changed, fun _ => AuthLabel.noConfusion,
          login_changes host _ changed username password pick supply result succeeds, rfl⟩)
  | authenticate token now =>
      cases taken
      exact .inr (.inr ⟨_, fun _ => AuthLabel.noConfusion, authenticate_changes host world.shared token now, rfl⟩)
  | logout sessionId =>
      cases taken
      exact .inr (.inr ⟨_, fun _ => AuthLabel.noConfusion, .deletes sessionId, rfl⟩)

end DataPilot.Auth
