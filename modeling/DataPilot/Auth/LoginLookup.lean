import DataPilot.Auth.Membership
import DataPilot.Auth.Security

set_option autoImplicit false

namespace DataPilot.Auth

open DataPilot.Base
open DataPilot.Chat (Uuid)

def Carries (host : Host) (call : RegisterCall) (user : UserRow) : Prop :=
  user.username = strip call.username ∧ ∃ salt, user.passwordHash = host.hashPassword call.password salt

-- What a call of register has written or returned is its own.
def Faithful (host : Host) (users : List UserRow) (state : RegisterState) : Prop :=
  match state.point with
  | .inserting passwordHash => ∃ salt, passwordHash = host.hashPassword state.call.password salt
  | .claiming user => Carries host state.call user
  | .founding user => Carries host state.call user
  | .committing user _ _ _ _ => Carries host state.call user
  | .refreshing result => ∃ user ∈ users, user.id = result.session.user.id ∧ Carries host state.call user
  | .registered result => ∃ user ∈ users, user.id = result.session.user.id ∧ Carries host state.call user
  | _ => True

theorem faithful_later (host : Host) (users later : List UserRow) (state : RegisterState) (grown : users <+: later)
    (faithful : Faithful host users state) : Faithful host later state := by
  obtain ⟨call, seen, point⟩ := state
  cases point with
  | refreshing result =>
      obtain ⟨user, known, facts⟩ := faithful
      exact ⟨user, grown.subset known, facts⟩
  | registered result =>
      obtain ⟨user, known, facts⟩ := faithful
      exact ⟨user, grown.subset known, facts⟩
  | _ => exact faithful

theorem registers_faithful (host : Host) (database changed : Database) (others : List RegisterState)
    (state after : RegisterState) (event : RegisterEvent) (faithful : Faithful host database.users state)
    (registers : Registers host database others state event changed after) : Faithful host changed.users after := by
  cases registers with
  | stops point ended _ => rcases ended with rfl | ⟨error, rfl⟩ <;> exact trivial
  | checked salt reached free => exact ⟨salt, rfl⟩
  | inserted passwordHash now reached absent =>
      rw [Faithful, reached] at faithful
      exact ⟨rfl, faithful⟩
  | founded user reached =>
      rw [Faithful, reached] at faithful
      exact faithful
  | claimed user workspace supply reached found free =>
      rw [Faithful, reached] at faithful
      exact faithful
  | inserts user supply reached =>
      rw [Faithful, reached] at faithful
      exact faithful
  | commits user workspace claimed token issuedAt supply reached answered =>
      rw [Faithful, reached] at faithful
      exact ⟨user, List.mem_append_right _ (List.mem_singleton_self user), rfl, faithful⟩
  | returns result reached =>
      rw [Faithful, reached] at faithful
      exact faithful

theorem step_faithful (host : Host) (world : AuthWorld) (label : AuthLabel) (next : AuthWorld)
    (faithful : ∀ state ∈ world.parties, Faithful host world.shared.users state)
    (taken : AuthWorld.step host world label = some next) :
    ∀ state ∈ next.parties, Faithful host next.shared.users state := by
  have grown := (step_members host world label next taken).1
  rcases auth_step_cases host world next label taken with
    ⟨call, _, rfl⟩ | ⟨front, state, back, event, changed, after, _, parties, acted, rfl⟩ | ⟨changed, _, changes, rfl⟩
  · intro found member
    rcases List.mem_append.mp member with old | new
    · exact faithful found old
    · obtain rfl := List.mem_singleton.mp new
      exact trivial
  · rw [parties] at faithful
    obtain ⟨_, registers⟩ := act_registers host world.shared (front ++ back) state event changed after acted
    intro found member
    rcases mem_replaced front back state after found member with rfl | old
    · have before := faithful state (List.mem_append_right _ (List.mem_cons_self ..))
      exact registers_faithful host world.shared changed (front ++ back) state found event before registers
    · exact faithful_later host world.shared.users changed.users found grown (faithful found old)
  · intro found member
    exact faithful_later host world.shared.users changed.users found grown (faithful found member)

theorem run_faithful (host : Host) (now : Nat) (labels : List AuthLabel) (finish : AuthWorld)
    (run : runFrom (AuthWorld.step host) { shared := migrated now } labels = some finish) :
    ∀ state ∈ finish.parties, Faithful host finish.shared.users state :=
  run_invariant (fun world => ∀ state ∈ world.parties, Faithful host world.shared.users state) (step_faithful host) _ finish
    labels (by simp) run

def Finds (host : Host) (database : Database) (username password : String) (userId : Uuid) : Prop :=
  ∀ pick supply, ∃ changed result, login host database username password pick supply = .ok (changed, result) ∧
    result.session.user.id = userId

def Refuses (host : Host) (database : Database) (username : String) : Prop :=
  ∀ call others supply, call.username = username →
    RegisterState.proceed host database others { call := call } supply =
      some (database, { call := call, point := .refused .registeredName })

theorem scalar_reaches {α : Type} (rows : List α) (row : α) (member : row ∈ rows) : ∃ pick, scalar pick rows = some row := by
  obtain ⟨index, inside, rfl⟩ := List.getElem_of_mem member
  refine ⟨index, ?_⟩
  rw [scalar, Nat.mod_eq_of_lt inside, List.getElem?_eq_getElem inside]

theorem scalar_only {α : Type} (pick : Nat) (rows : List α) (row : α) (member : row ∈ rows)
    (only : ∀ other ∈ rows, other = row) : scalar pick rows = some row := by
  have inside : pick % rows.length < rows.length := Nat.mod_lt pick (List.length_pos_of_mem member)
  rw [scalar, List.getElem?_eq_getElem inside]
  exact congrArg some (only _ (List.getElem_mem inside))

theorem mem_found (host : Host) (database : Database) (username : String) (user : UserRow) :
    user ∈ foundBy host database username ↔
      user ∈ database.users ∧ host.lower user.username = casefold (strip username) := by
  rw [foundBy, List.mem_filter, decide_eq_true_iff]

theorem user_unique (database : Database) (parties : List RegisterState) (owned : Owned database parties)
    (one other : UserRow) (oneIn : one ∈ database.users) (otherIn : other ∈ database.users) (same : one.id = other.id) :
    one = other :=
  List.inj_on_of_nodup_map (List.nodup_append.mp owned.userIds.1).1 oneIn otherIn same

theorem login_succeeds (host : Host) (database : Database) (parties : List RegisterState) (owned : Owned database parties)
    (username password : String) (pick : Nat) (supply : Supply) (user : UserRow)
    (found : scalar pick (foundBy host database username) = some user)
    (verified : host.verifyPassword password user.passwordHash = true) :
    ∃ changed result, login host database username password pick supply = .ok (changed, result) ∧
      result.session.user.id = user.id := by
  have known := ((mem_found host database username user).mp (scalar_mem pick _ user found)).1
  obtain ⟨member, joined, whose, single⟩ := membership_of database parties owned user known
  have first : (memberships database user.id).head? = some member := by
    rw [memberships, single, List.perm_singleton.mp (order_by_perm _ [member])]
    rfl
  obtain ⟨home, present, same, _⟩ := owned.owners member joined
  have exists_home : (database.workspaces.find? fun workspace => decide (workspace.id = member.workspaceId)).isSome := by
    rw [List.find?_isSome]
    exact ⟨home, present, decide_eq_true same⟩
  obtain ⟨workspace, located⟩ := Option.isSome_iff_exists.mp exists_home
  refine ⟨database.openSession host user.id workspace.id supply, .of user workspace member.role supply.token, ?_, rfl⟩
  simp only [login, found, verified, if_true, first, located]

theorem checked_value (bounds : Option FieldError) (validator : Except FieldError String) (value : String)
    (checked : checkField bounds validator = .ok value) : validator = .ok value := by
  cases bounds with
  | none => exact checked
  | some error => cases checked

theorem checked_username (username name : String)
    (checked : checkField (lengthError "username" 3 64 username) (validateUsername username) = .ok name) :
    name = strip username := by
  have valid := checked_value _ _ name checked
  simp only [validateUsername] at valid
  split at valid
  · exact (Except.ok.inj valid).symm
  · cases valid

theorem accepted_username (username password displayName : String) (call : RegisterCall)
    (accepted : registerRequest username password displayName = .ok call) :
    call.username = strip username ∧ call.password = password := by
  simp only [registerRequest] at accepted
  split at accepted
  · rename_i name secret display checkedName checkedSecret _
    cases accepted
    exact ⟨checked_username username name checkedName, (Except.ok.inj (checked_value _ _ _ checkedSecret)).symm⟩
  · cases accepted

section Lookup

variable {host : Host} {database : Database} {parties : List RegisterState} (owned : Owned database parties)
variable (username password : String) (user : UserRow) (known : user ∈ database.users)

include owned known

theorem finds_iff (verified : host.verifyPassword password user.passwordHash = true) :
    Finds host database username password user.id ↔
      user ∈ foundBy host database username ∧ ∀ other ∈ foundBy host database username, other = user := by
  constructor
  · intro finds
    have certain : ∀ other ∈ foundBy host database username, other = user := by
      intro other inFound
      obtain ⟨pick, picked⟩ := scalar_reaches _ other inFound
      obtain ⟨changed, session, succeeds, whose⟩ := finds pick { now := 0 }
      obtain ⟨chosen, _, _, chosenFound, _, _, _, _, rfl⟩ :=
        login_found host database changed username password pick _ session succeeds
      obtain rfl := Option.some.inj (picked.symm.trans chosenFound)
      have inTable := ((mem_found host database username other).mp inFound).1
      exact user_unique database parties owned other user inTable known whose
    obtain ⟨changed, session, succeeds, _⟩ := finds 0 { now := 0 }
    obtain ⟨chosen, _, _, chosenFound, _⟩ := login_found host database changed username password 0 _ session succeeds
    have inFound := scalar_mem 0 _ chosen chosenFound
    obtain rfl := certain chosen inFound
    exact ⟨inFound, certain⟩
  · rintro ⟨inFound, only⟩ pick supply
    have found := scalar_only pick (foundBy host database username) user inFound only
    exact login_succeeds host database parties owned username password pick supply user found verified

omit owned

theorem found_alone_iff (named : user.username = strip username) :
    (user ∈ foundBy host database username ∧ ∀ other ∈ foundBy host database username, other = user) ↔
      host.lower (strip username) = casefold (strip username) ∧
        ∀ one ∈ database.users, ∀ other ∈ database.users, host.lower one.username = casefold (strip username) →
          host.lower other.username = casefold (strip username) → one = other := by
  constructor
  · rintro ⟨inFound, only⟩
    have hit := ((mem_found host database username user).mp inFound).2
    rw [named] at hit
    refine ⟨hit, fun one oneIn other otherIn oneHit otherHit => ?_⟩
    have first := only one ((mem_found host database username one).mpr ⟨oneIn, oneHit⟩)
    have second := only other ((mem_found host database username other).mpr ⟨otherIn, otherHit⟩)
    exact first.trans second.symm
  · rintro ⟨agree, alone⟩
    have hit : host.lower user.username = casefold (strip username) := by rwa [named]
    refine ⟨(mem_found host database username user).mpr ⟨known, hit⟩, fun other otherFound => ?_⟩
    obtain ⟨inTable, otherHit⟩ := (mem_found host database username other).mp otherFound
    exact alone other inTable user known otherHit hit

omit known

theorem found_refuses (inFound : user ∈ foundBy host database username) : Refuses host database (strip username) := by
  intro second others supply repeated
  obtain ⟨known, hit⟩ := (mem_found host database username user).mp inFound
  have taken : takenName host database second.username = true := by
    refine List.any_eq_true.mpr ⟨user, known, decide_eq_true ?_⟩
    rwa [repeated, strip_twice]
  simp only [RegisterState.proceed, taken, if_true, RegisterState.at]

end Lookup

theorem registered_logs_in_iff (host : Host)
    (verifies : ∀ password salt, host.verifyPassword password (host.hashPassword password salt) = true)
    (username password displayName : String) (call : RegisterCall)
    (accepted : registerRequest username password displayName = .ok call) (now : Nat) (labels : List AuthLabel)
    (finish : AuthWorld) (run : runFrom (AuthWorld.step host) { shared := migrated now } labels = some finish)
    (state : RegisterState) (member : state ∈ finish.parties) (same : state.call = call) (result : AuthResult)
    (registered : state.point = .registered result) :
    (Finds host finish.shared username password result.session.user.id ∧ Refuses host finish.shared call.username) ↔
      host.lower (strip username) = casefold (strip username) ∧
        ∀ one ∈ finish.shared.users, ∀ other ∈ finish.shared.users, host.lower one.username = casefold (strip username) →
          host.lower other.username = casefold (strip username) → one = other := by
  have owned := run_owned host now labels finish run
  have faithful := run_faithful host now labels finish run state member
  rw [Faithful, registered] at faithful
  obtain ⟨user, known, identified, named, salt, hashed⟩ := faithful
  obtain ⟨stripped, kept⟩ := accepted_username username password displayName call accepted
  rw [same, stripped, strip_twice] at named
  rw [same, kept] at hashed
  have verified : host.verifyPassword password user.passwordHash = true := by
    rw [hashed]
    exact verifies password salt
  rw [← identified, stripped, finds_iff owned username password user known verified,
    ← found_alone_iff username user known named]
  exact ⟨And.left, fun alone => ⟨alone, found_refuses username user alone.1⟩⟩

-- A registration from its call to its reply, then another that gets as far as it can.
def registeredTwice (username : String) : List AuthLabel :=
  [.register (.call { username, password := "password1", displayName := "Ada" }), proceeding 0 1 "", proceeding 0 2 "",
    proceeding 0 3 "first", proceeding 0 4 "", proceeding 0 5 "",
    .register (.call { username, password := "password1", displayName := "Ada" }), proceeding 1 6 "", proceeding 1 7 ""]

-- A host whose passwords go through the security module.
def derivingHost : Host :=
  securityHost sampleHost.lower (fun password salt _ => salt ++ 0 :: password) sampleHost.hashSessionToken 604800

theorem registered_logs_in_iff_ada :
    ∃ call finish result, registerRequest "Ada_1" "password1" "Ada" = .ok call ∧
      runFrom (AuthWorld.step derivingHost) { shared := migrated 0 } ((registeredTwice "Ada_1").take 7) = some finish ∧
      finish.parties.head?.map RegisterState.point = some (.registered result) ∧
      ((Finds derivingHost finish.shared "Ada_1" "password1" result.session.user.id ∧
          Refuses derivingHost finish.shared call.username) ↔
        derivingHost.lower (strip "Ada_1") = casefold (strip "Ada_1") ∧
          ∀ one ∈ finish.shared.users, ∀ other ∈ finish.shared.users,
            derivingHost.lower one.username = casefold (strip "Ada_1") →
            derivingHost.lower other.username = casefold (strip "Ada_1") → one = other) :=
  ⟨_, _, _, rfl, rfl, rfl,
    registered_logs_in_iff derivingHost (security_host_verifies _ _ _ _) "Ada_1" "password1" "Ada" _ rfl 0
      ((registeredTwice "Ada_1").take 7) _ rfl _ (List.mem_cons_self ..) rfl _ rfl⟩

theorem sharp_s_locked_out :
    ∃ call finish result, registerRequest "straße" "password1" "Ada" = .ok call ∧
      runFrom (AuthWorld.step sampleHost) { shared := migrated 0 } (registeredTwice "straße") = some finish ∧
      finish.parties.map RegisterState.call = [call, call] ∧
      finish.parties.map RegisterState.point = [.registered result, .failed] ∧
      login sampleHost finish.shared "straße" "password1" 0 { now := 8 } = .error .invalidLogin ∧
      ¬ (Finds sampleHost finish.shared "straße" "password1" result.session.user.id ∧
        Refuses sampleHost finish.shared call.username) := by
  refine ⟨_, _, _, rfl, rfl, rfl, rfl, rfl, ?_⟩
  rintro ⟨finds, _⟩
  obtain ⟨changed, session, succeeds, _⟩ := finds 0 { now := 8 }
  cases succeeds

end DataPilot.Auth
