import DataPilot.Auth.Service

set_option autoImplicit false

namespace DataPilot.Auth

open DataPilot.Base
open DataPilot.Chat (Uuid)

section Steps

variable {host : Host} {database changed : Database} {others : List RegisterState} {state after : RegisterState}
variable {event : RegisterEvent}

theorem changes_keep (changes : Changes host database changed) :
    changed.users = database.users ∧ changed.workspaces = database.workspaces ∧ changed.members = database.members ∧
      database.nextId ≤ changed.nextId := by
  cases changes with
  | same => exact ⟨rfl, rfl, rfl, Nat.le_refl _⟩
  | opens user member supply known joined whose => exact ⟨rfl, rfl, rfl, Nat.le_succ _⟩
  | touches sessionId now => exact ⟨rfl, rfl, rfl, Nat.le_refl _⟩
  | deletes sessionId => exact ⟨rfl, rfl, rfl, Nat.le_refl _⟩

theorem default_taken (registers : Registers host database others state event changed after) (holds : after.holdsDefault = true) :
    state.holdsDefault = true ∨ ∀ other ∈ others, other.holdsDefault = false := by
  cases registers with
  | stops point ended _ =>
      rcases ended with rfl | ⟨error, rfl⟩ <;> cases holds
  | claimed user workspace supply reached found free => exact .inr free
  | _ => cases holds

end Steps

theorem default_exclusive (host : Host) (world next : AuthWorld) (label : AuthLabel)
    (exclusive : Exclusive RegisterState.holdsDefault world.parties) (taken : AuthWorld.step host world label = some next) :
    Exclusive RegisterState.holdsDefault next.parties := by
  cases label with
  | register label =>
      apply exclusive_kept RegisterState.holdsDefault (fun _ => rfl) ?_ world next label exclusive taken
      intro database others state event changed after acted holds
      exact default_taken (act_registers host database others state event changed after acted).2 holds
  | _ =>
      rcases auth_step_cases host world next _ taken with
        ⟨_, same, _⟩ | ⟨_, _, _, _, _, _, same, _⟩ | ⟨changed, _, _, rfl⟩
      · cases same
      · cases same
      · exact exclusive

-- Every user owns the one workspace that the user is a member of; a workspace
-- about to be claimed is still free.
structure Owned (database : Database) (parties : List RegisterState) : Prop where
  userIds : Drawn RegisterState.userId (database.users.map UserRow.id) parties database.nextId
  workspaceIds : Drawn RegisterState.ownWorkspace (database.workspaces.map WorkspaceRow.id) parties database.nextId
  exclusive : Exclusive RegisterState.holdsDefault parties
  members : database.members.map MemberRow.userId = database.users.map UserRow.id
  roles : ∀ member ∈ database.members, member.role = "owner"
  owners : ∀ member ∈ database.members, ∃ workspace ∈ database.workspaces,
    workspace.id = member.workspaceId ∧ workspace.ownerId = some member.userId
  pending : ∀ state ∈ parties, ∀ user workspace claimed token issuedAt,
    state.point = .committing user workspace claimed token issuedAt → workspace.ownerId = some user.id ∧
      (claimed = true → ∃ row ∈ database.workspaces, row.id = workspace.id ∧ row.ownerId = none)

theorem owned_migrated (now : Nat) : Owned (migrated now) [] where
  userIds := ⟨List.nodup_nil, by simp [migrated]⟩
  workspaceIds := ⟨List.nodup_singleton _, by simp [migrated, defaultWorkspaceId]⟩
  exclusive := Nat.zero_le 1
  members := rfl
  roles := by simp [migrated]
  owners := by simp [migrated]
  pending := by simp

theorem owned_entered (database : Database) (parties : List RegisterState) (call : RegisterCall)
    (owned : Owned database parties) : Owned database (parties ++ [{ call := call }]) := by
  refine ⟨drawn_entered parties _ owned.userIds rfl, drawn_entered parties _ owned.workspaceIds rfl, ?_, owned.members,
    owned.roles, owned.owners, ?_⟩
  · have exclusive := owned.exclusive
    rw [Exclusive] at exclusive ⊢
    rw [List.countP_append]
    exact exclusive
  · intro state member user workspace claimed token issuedAt reached
    rcases List.mem_append.mp member with old | new
    · exact owned.pending state old user workspace claimed token issuedAt reached
    · obtain rfl := List.mem_singleton.mp new
      cases reached

theorem owned_changed (host : Host) (database changed : Database) (parties : List RegisterState)
    (changes : Changes host database changed) (owned : Owned database parties) : Owned changed parties := by
  obtain ⟨users, workspaces, members, grown⟩ := changes_keep changes
  refine ⟨?_, ?_, owned.exclusive, ?_, ?_, ?_, ?_⟩
  · rw [users]
    exact drawn_later parties _ owned.userIds grown
  · rw [workspaces]
    exact drawn_later parties _ owned.workspaceIds grown
  · rw [users, members]
    exact owned.members
  · rw [members]
    exact owned.roles
  · rw [members, workspaces]
    exact owned.owners
  · rw [workspaces]
    exact owned.pending

section Moving

variable {host : Host} {database changed : Database} {front back : List RegisterState} {state after : RegisterState}
variable {event : RegisterEvent}

theorem owned_moved (next : Uuid) (owned : Owned database (front ++ state :: back))
    (userIds : Drawn RegisterState.userId (database.users.map UserRow.id) (front ++ after :: back) next)
    (workspaceIds : Drawn RegisterState.ownWorkspace (database.workspaces.map WorkspaceRow.id) (front ++ after :: back) next)
    (exclusive : Exclusive RegisterState.holdsDefault (front ++ after :: back))
    (mine : ∀ user workspace claimed token issuedAt, after.point = .committing user workspace claimed token issuedAt →
      workspace.ownerId = some user.id ∧
        (claimed = true → ∃ row ∈ database.workspaces, row.id = workspace.id ∧ row.ownerId = none)) :
    Owned { database with nextId := next } (front ++ after :: back) := by
  refine ⟨userIds, workspaceIds, exclusive, owned.members, owned.roles, owned.owners, ?_⟩
  intro found member user workspace claimed token issuedAt reached
  rcases mem_replaced front back state after found member with rfl | old
  · exact mine user workspace claimed token issuedAt reached
  · exact owned.pending found old user workspace claimed token issuedAt reached

theorem claimed_rows (user : UserRow) (workspace : WorkspaceRow) (claimed : Bool) (token : String) (issuedAt now : Nat) :
    (database.commit host user workspace claimed token issuedAt now).workspaces.map WorkspaceRow.id =
      database.workspaces.map WorkspaceRow.id ++ if claimed then [] else [workspace.id] := by
  cases claimed with
  | false => simp [Database.commit]
  | true =>
      simp only [Database.commit, if_true, List.map_map, List.append_nil]
      refine List.map_congr_left fun row _ => ?_
      by_cases hit : row.id = workspace.id <;> simp [hit]

theorem commit_owners (host : Host) (user : UserRow) (workspace : WorkspaceRow) (claimed : Bool) (token : String)
    (issuedAt now : Nat) (owner : workspace.ownerId = some user.id) (distinct : (database.workspaces.map WorkspaceRow.id).Nodup)
    (free : claimed = true → ∃ row ∈ database.workspaces, row.id = workspace.id ∧ row.ownerId = none) :
    (∃ row ∈ (database.commit host user workspace claimed token issuedAt now).workspaces,
      row.id = workspace.id ∧ row.ownerId = some user.id) ∧
      ∀ row ∈ database.workspaces, row.ownerId ≠ none ∨ row.id ≠ workspace.id →
        row ∈ (database.commit host user workspace claimed token issuedAt now).workspaces := by
  cases claimed with
  | false =>
      refine ⟨⟨workspace, List.mem_append_right _ (List.mem_singleton_self _), rfl, owner⟩, ?_⟩
      intro row member _
      exact List.mem_append_left _ member
  | true =>
      obtain ⟨row, member, same, unowned⟩ := free rfl
      refine ⟨⟨_, List.mem_map_of_mem member, ?_⟩, ?_⟩
      · simp [same, owner]
      · intro other inTable kept
        have different : other.id ≠ workspace.id := by
          rcases kept with owned | different
          · intro hit
            obtain rfl := List.inj_on_of_nodup_map distinct inTable member (hit.trans same.symm)
            exact owned unowned
          · exact different
        refine List.mem_map.mpr ⟨other, inTable, ?_⟩
        simp [different]

theorem owned_committed (user : UserRow) (workspace : WorkspaceRow) (claimed : Bool) (token : String) (issuedAt now : Nat)
    (reached : state.point = .committing user workspace claimed token issuedAt) (result : AuthResult)
    (owned : Owned database (front ++ state :: back))
    (exclusive : Exclusive RegisterState.holdsDefault (front ++ state.at (.refreshing result) :: back)) :
    Owned (database.commit host user workspace claimed token issuedAt now)
      (front ++ state.at (.refreshing result) :: back) := by
  have member : state ∈ front ++ state :: back := List.mem_append_right _ (List.mem_cons_self ..)
  obtain ⟨owner, free⟩ := owned.pending state member user workspace claimed token issuedAt reached
  have userId : state.userId = some user.id := by simp [RegisterState.userId, RegisterState.pendingUser, reached]
  have distinct : (database.workspaces.map WorkspaceRow.id).Nodup := (List.nodup_append.mp owned.workspaceIds.1).1
  obtain ⟨mine, kept⟩ := commit_owners host user workspace claimed token issuedAt now owner distinct free
  refine ⟨?_, ?_, exclusive, ?_, ?_, ?_, ?_⟩
  · have settled : Drawn RegisterState.userId (database.users.map UserRow.id ++ [user.id])
        (front ++ state.at (.refreshing result) :: back) database.nextId := drawn_settled user.id owned.userIds userId rfl
    have later := drawn_later _ (database.nextId + 1) settled (Nat.le_succ _)
    simpa [Database.commit] using later
  · rw [claimed_rows]
    apply drawn_later _ _ ?_ (Nat.le_succ database.nextId)
    cases claimed with
    | true =>
        rw [if_pos rfl, List.append_nil]
        exact drawn_released owned.workspaceIds rfl
    | false =>
        have own : state.ownWorkspace = some workspace.id := by simp [RegisterState.ownWorkspace, reached]
        exact drawn_settled workspace.id owned.workspaceIds own rfl
  · simp only [Database.commit, List.map_append, owned.members]
    rfl
  · intro row inTable
    rcases List.mem_append.mp inTable with old | new
    · exact owned.roles row old
    · rw [List.mem_singleton.mp new]
  · intro row inTable
    rcases List.mem_append.mp inTable with old | new
    · obtain ⟨home, present, same, ownerOf⟩ := owned.owners row old
      exact ⟨home, kept home present (.inl (by simp [ownerOf])), same, ownerOf⟩
    · rw [List.mem_singleton.mp new]
      exact mine
  · intro found inParties otherUser otherWorkspace otherClaimed otherToken otherAt otherReached
    rcases mem_moved front back _ found inParties with rfl | old
    · cases otherReached
    · obtain ⟨otherOwner, otherFree⟩ := owned.pending found (mem_others front back state found old) otherUser
        otherWorkspace otherClaimed otherToken otherAt otherReached
      refine ⟨otherOwner, fun otherHolds => ?_⟩
      cases claimed with
      | true =>
          have holds : state.holdsDefault = true := by simp [RegisterState.holdsDefault, reached]
          have alone := exclusive_others RegisterState.holdsDefault front back state owned.exclusive holds found old
          simp [RegisterState.holdsDefault, otherReached, otherHolds] at alone
      | false =>
          obtain ⟨row, present, facts⟩ := otherFree otherHolds
          exact ⟨row, List.mem_append_left _ present, facts⟩

theorem owned_registers (owned : Owned database (front ++ state :: back))
    (exclusive : Exclusive RegisterState.holdsDefault (front ++ after :: back))
    (registers : Registers host database (front ++ back) state event changed after) : Owned changed (front ++ after :: back) := by
  have users := owned.userIds
  have workspaces := owned.workspaceIds
  cases registers with
  | stops point ended _ =>
      have released : (state.at point).userId = none ∧ (state.at point).ownWorkspace = none := by
        rcases ended with rfl | ⟨error, rfl⟩ <;> exact ⟨rfl, rfl⟩
      apply owned_moved database.nextId owned (drawn_released users released.1) (drawn_released workspaces released.2) exclusive
      intro user workspace claimed token issuedAt reached
      have point : point = .committing user workspace claimed token issuedAt := reached
      rcases ended with rfl | ⟨error, rfl⟩ <;> cases point
  | checked salt reached free =>
      exact owned_moved database.nextId owned (drawn_released users rfl) (drawn_released workspaces rfl) exclusive
        fun _ _ _ _ _ reached => RegisterPoint.noConfusion reached
  | inserted passwordHash now reached absent =>
      have bare : state.userId = none := by simp [RegisterState.userId, RegisterState.pendingUser, reached]
      refine owned_moved _ owned (drawn_new users bare rfl) ?_ exclusive
        fun _ _ _ _ _ reached => RegisterPoint.noConfusion reached
      exact drawn_later _ _ (drawn_released workspaces rfl) (Nat.le_succ _)
  | founded user reached =>
      have same : (state.at (.founding user)).userId = state.userId := by
        simp [RegisterState.userId, RegisterState.pendingUser, reached, RegisterState.at]
      exact owned_moved database.nextId owned (drawn_kept users same) (drawn_released workspaces rfl) exclusive
        fun _ _ _ _ _ reached => RegisterPoint.noConfusion reached
  | claimed user workspace supply reached found free =>
      refine owned_moved database.nextId owned (drawn_kept users ?_) (drawn_released workspaces rfl) exclusive ?_
      · simp [RegisterState.userId, RegisterState.pendingUser, reached, RegisterState.at]
      · intro owner home holds token issuedAt point
        cases point
        have unowned := List.find?_some found
        rw [unclaimed, decide_eq_true_iff] at unowned
        exact ⟨rfl, fun _ => ⟨workspace, List.mem_of_find?_eq_some found, rfl, unowned.2⟩⟩
  | inserts user supply reached =>
      have bare : state.ownWorkspace = none := by simp [RegisterState.ownWorkspace, reached]
      refine owned_moved _ owned (drawn_later _ _ (drawn_kept users ?_) (Nat.le_succ _)) (drawn_new workspaces bare rfl) exclusive
        ?_
      · simp [RegisterState.userId, RegisterState.pendingUser, reached, RegisterState.at]
      · intro owner home holds token issuedAt point
        cases point
        exact ⟨rfl, Bool.noConfusion⟩
  | commits user workspace claimed token issuedAt supply reached answered =>
      exact owned_committed user workspace claimed token issuedAt supply.now reached _ owned exclusive
  | returns result reached =>
      exact owned_moved database.nextId owned (drawn_released users rfl) (drawn_released workspaces rfl) exclusive
        fun _ _ _ _ _ reached => RegisterPoint.noConfusion reached

end Moving

theorem step_owned (host : Host) (world : AuthWorld) (label : AuthLabel) (next : AuthWorld)
    (owned : Owned world.shared world.parties) (taken : AuthWorld.step host world label = some next) :
    Owned next.shared next.parties := by
  have exclusive := default_exclusive host world next label owned.exclusive taken
  rcases auth_step_cases host world next label taken with
    ⟨call, _, rfl⟩ | ⟨front, state, back, event, changed, after, _, parties, acted, rfl⟩ | ⟨changed, _, changes, rfl⟩
  · exact owned_entered world.shared world.parties call owned
  · rw [parties] at owned
    obtain ⟨_, registers⟩ := act_registers host world.shared (front ++ back) state event changed after acted
    exact owned_registers owned exclusive registers
  · exact owned_changed host world.shared changed world.parties changes owned

theorem run_owned (host : Host) (now : Nat) (labels : List AuthLabel) (finish : AuthWorld)
    (run : runFrom (AuthWorld.step host) { shared := migrated now } labels = some finish) :
    Owned finish.shared finish.parties :=
  run_invariant (fun world => Owned world.shared world.parties) (step_owned host) _ finish labels (owned_migrated now) run

theorem step_members (host : Host) (world : AuthWorld) (label : AuthLabel) (next : AuthWorld)
    (taken : AuthWorld.step host world label = some next) :
    world.shared.users <+: next.shared.users ∧ world.shared.members <+: next.shared.members := by
  rcases auth_step_cases host world next label taken with
    ⟨call, _, rfl⟩ | ⟨front, state, back, event, changed, after, _, parties, acted, rfl⟩ | ⟨changed, _, changes, rfl⟩
  · exact ⟨List.prefix_refl _, List.prefix_refl _⟩
  · cases (act_registers host world.shared (front ++ back) state event changed after acted).2 with
    | commits user workspace claimed token issuedAt supply reached answered =>
        exact ⟨List.prefix_append _ _, List.prefix_append _ _⟩
    | _ => exact ⟨List.prefix_refl _, List.prefix_refl _⟩
  · obtain ⟨users, _, members, _⟩ := changes_keep changes
    exact ⟨users ▸ List.prefix_refl _, members ▸ List.prefix_refl _⟩

theorem run_members (host : Host) (start finish : AuthWorld) (labels : List AuthLabel)
    (run : runFrom (AuthWorld.step host) start labels = some finish) :
    start.shared.users <+: finish.shared.users ∧ start.shared.members <+: finish.shared.members := by
  apply run_invariant
    (fun world => start.shared.users <+: world.shared.users ∧ start.shared.members <+: world.shared.members)
    ?_ start finish labels ⟨List.prefix_refl _, List.prefix_refl _⟩ run
  intro world label next kept taken
  obtain ⟨users, members⟩ := step_members host world label next taken
  exact ⟨kept.1.trans users, kept.2.trans members⟩

theorem owner_unique (database : Database) (parties : List RegisterState) (owned : Owned database parties)
    (one other : MemberRow) (oneIn : one ∈ database.members) (otherIn : other ∈ database.members)
    (shared : one.workspaceId = other.workspaceId) : one.userId = other.userId := by
  obtain ⟨first, firstIn, firstId, firstOwner⟩ := owned.owners one oneIn
  obtain ⟨second, secondIn, secondId, secondOwner⟩ := owned.owners other otherIn
  have distinct := (List.nodup_append.mp owned.workspaceIds.1).1
  obtain rfl := List.inj_on_of_nodup_map distinct firstIn secondIn (firstId.trans (shared.trans secondId.symm))
  exact Option.some.inj (firstOwner.symm.trans secondOwner)

theorem filter_unique {α : Type} (key : α → Uuid) (rows : List α) (row : α) (distinct : (rows.map key).Nodup)
    (member : row ∈ rows) : rows.filter (fun other => decide (key other = key row)) = [row] := by
  induction rows with
  | nil => cases member
  | cons first rest ih =>
      rw [List.map_cons, List.nodup_cons] at distinct
      obtain ⟨absent, later⟩ := distinct
      rcases List.mem_cons.mp member with rfl | inRest
      · have unshared : rest.filter (fun other => decide (key other = key row)) = [] := by
          refine List.filter_eq_nil_iff.mpr fun other inside same => absent ?_
          exact of_decide_eq_true same ▸ List.mem_map_of_mem inside
        simp only [List.filter_cons, decide_true, if_true, unshared]
      · have different : key first ≠ key row := fun same => absent (same ▸ List.mem_map_of_mem inRest)
        simp only [List.filter_cons, different, decide_false, Bool.false_eq_true, if_false]
        exact ih later inRest

theorem membership_of (database : Database) (parties : List RegisterState) (owned : Owned database parties)
    (user : UserRow) (known : user ∈ database.users) :
    ∃ member ∈ database.members, member.userId = user.id ∧
      database.members.filter (fun other => decide (other.userId = user.id)) = [member] := by
  have listed : user.id ∈ database.members.map MemberRow.userId := owned.members ▸ List.mem_map_of_mem known
  obtain ⟨member, joined, whose⟩ := List.mem_map.mp listed
  have distinct : (database.members.map MemberRow.userId).Nodup :=
    owned.members ▸ (List.nodup_append.mp owned.userIds.1).1
  refine ⟨member, joined, whose, ?_⟩
  rw [← whose]
  exact filter_unique MemberRow.userId database.members member distinct joined

theorem workspaces_claimed_once (host : Host) (now : Nat) (first rest : List AuthLabel) (middle finish : AuthWorld)
    (reached : runFrom (AuthWorld.step host) { shared := migrated now } first = some middle)
    (run : runFrom (AuthWorld.step host) middle rest = some finish) :
    (∀ one ∈ middle.shared.members, ∀ other ∈ finish.shared.members, one.workspaceId = defaultWorkspaceId →
        other.workspaceId = defaultWorkspaceId → one.userId = other.userId) ∧
      (∀ user ∈ finish.shared.users, ∃ member workspace,
        finish.shared.members.filter (fun other => decide (other.userId = user.id)) = [member] ∧ member.role = "owner" ∧
          finish.shared.workspaces.filter (fun other => decide (other.id = member.workspaceId)) = [workspace] ∧
          workspace.ownerId = some user.id) ∧
      ∀ one ∈ finish.shared.members, ∀ other ∈ finish.shared.members,
        one.workspaceId = other.workspaceId → one.userId = other.userId := by
  have whole : runFrom (AuthWorld.step host) { shared := migrated now } (first ++ rest) = some finish := by
    rw [run_append, reached]
    exact run
  have owned := run_owned host now (first ++ rest) finish whole
  have stayed := (run_members host middle finish rest run).2
  refine ⟨?_, ?_, ?_⟩
  · intro one oneIn other otherIn oneDefault otherDefault
    exact owner_unique finish.shared finish.parties owned one other (stayed.subset oneIn) otherIn
      (oneDefault.trans otherDefault.symm)
  · intro user known
    obtain ⟨member, joined, whose, single⟩ := membership_of finish.shared finish.parties owned user known
    obtain ⟨workspace, present, same, owner⟩ := owned.owners member joined
    have distinct := (List.nodup_append.mp owned.workspaceIds.1).1
    have alone := filter_unique WorkspaceRow.id finish.shared.workspaces workspace distinct present
    rw [same] at alone
    exact ⟨member, workspace, single, owned.roles member joined, alone, whose ▸ owner⟩
  · intro one oneIn other otherIn shared
    exact owner_unique finish.shared finish.parties owned one other oneIn otherIn shared

def sampleHost : Host where
  lower := fun text => String.ofList (text.toList.map fun c => if c.isUpper then Char.ofNat (c.toNat + 32) else c)
  hashPassword := fun password _ => "pbkdf2_sha256$" ++ password
  verifyPassword := fun password encoded => decide (encoded = "pbkdf2_sha256$" ++ password)
  hashSessionToken := fun token => "sha256:" ++ token
  sessionTtlSeconds := 604800

def proceeding (index now : Nat) (token : String) : AuthLabel := .register (.act index (.proceed { now, token }))

-- Two calls of register that both pass their check before either is committed.
def race (one other : String) : List AuthLabel :=
  [.register (.call { username := one, password := "password1", displayName := "One" }),
    .register (.call { username := other, password := "password2", displayName := "Other" }),
    proceeding 0 1 "", proceeding 1 2 "", proceeding 0 3 "", proceeding 1 4 "", proceeding 0 5 "first", proceeding 0 6 "",
    proceeding 1 7 "", proceeding 1 8 "second", proceeding 1 9 ""]

theorem workspaces_claimed_once_race :
    ∃ middle finish, runFrom (AuthWorld.step sampleHost) { shared := migrated 0 } ((race "ada" "bob").take 8) = some middle ∧
      runFrom (AuthWorld.step sampleHost) middle ((race "ada" "bob").drop 8) = some finish ∧
      middle.shared.members.map MemberRow.workspaceId = [defaultWorkspaceId] ∧
      finish.shared.members.map MemberRow.workspaceId = [defaultWorkspaceId, 5] ∧
      ∀ one ∈ finish.shared.members, ∀ other ∈ finish.shared.members,
        one.workspaceId = other.workspaceId → one.userId = other.userId :=
  ⟨_, _, rfl, rfl, rfl, rfl,
    (workspaces_claimed_once sampleHost 0 ((race "ada" "bob").take 8) ((race "ada" "bob").drop 8) _ _ rfl rfl).2.2⟩

end DataPilot.Auth
