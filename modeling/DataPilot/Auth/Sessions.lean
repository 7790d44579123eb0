import DataPilot.Auth.Membership

set_option autoImplicit false

namespace DataPilot.Auth

open DataPilot.Base
open DataPilot.Chat (Uuid)

-- A token of register or login, from the time its expiry is counted from.
structure Issue where
  sessionId : Uuid
  userId : Uuid
  workspaceId : Uuid
  token : String
  issuedAt : Nat

inductive AuthEvent where
  | issued (issue : Issue)
  | loggedOut (sessionId : Uuid)

def observed (host : Host) (world : AuthWorld) : AuthLabel → Option AuthEvent
  | .register (.act index (.proceed _)) =>
      match (world.parties[index]?).map RegisterState.point with
      | some (.committing user workspace _ token issuedAt) =>
          some (.issued { sessionId := world.shared.nextId, userId := user.id, workspaceId := workspace.id, token, issuedAt })
      | _ => none
  | .register _ => none
  | .login username password pick supply =>
      match login host world.shared username password pick supply with
      | .error _ => none
      | .ok (_, result) =>
          some (.issued {
            sessionId := world.shared.nextId
            userId := result.session.user.id
            workspaceId := result.session.workspace.id
            token := result.token
            issuedAt := supply.now })
  | .authenticate _ _ => none
  | .logout sessionId =>
      if world.shared.sessions.any fun session => decide (session.id = sessionId) then some (.loggedOut sessionId) else none

def authHistory (host : Host) (start : AuthWorld) (labels : List AuthLabel) : List AuthEvent :=
  runEvents (AuthWorld.step host) (observed host) start labels

def issues (events : List AuthEvent) : List Issue :=
  events.filterMap fun event =>
    match event with
    | .issued issue => some issue
    | .loggedOut _ => none

def logouts (events : List AuthEvent) : List Uuid :=
  events.filterMap fun event =>
    match event with
    | .issued _ => none
    | .loggedOut sessionId => some sessionId

def standing (events : List AuthEvent) : List Issue :=
  (issues events).filter fun issue => decide (issue.sessionId ∉ logouts events)

section Events

variable (events : List AuthEvent)

theorem issues_append (more : List AuthEvent) : issues (events ++ more) = issues events ++ issues more := List.filterMap_append

theorem logouts_append (more : List AuthEvent) : logouts (events ++ more) = logouts events ++ logouts more :=
  List.filterMap_append

theorem standing_issued (issue : Issue) (new : issue.sessionId ∉ logouts events) :
    standing (events ++ [.issued issue]) = standing events ++ [issue] := by
  have same : logouts (events ++ [.issued issue]) = logouts events := by
    rw [logouts_append]
    exact List.append_nil _
  have grown : issues (events ++ [.issued issue]) = issues events ++ [issue] := issues_append events _
  rw [standing, same, grown, List.filter_append]
  simp [standing, new]

theorem standing_logged_out (sessionId : Uuid) :
    standing (events ++ [.loggedOut sessionId]) =
      (standing events).filter fun issue => decide (issue.sessionId ≠ sessionId) := by
  have same : issues (events ++ [.loggedOut sessionId]) = issues events := by
    rw [issues_append]
    exact List.append_nil _
  have grown : logouts (events ++ [.loggedOut sessionId]) = logouts events ++ [sessionId] := logouts_append events _
  rw [standing, same, grown, standing, List.filter_filter]
  refine List.filter_congr fun issue _ => ?_
  simp [List.mem_append, and_comm]

theorem mem_standing (issue : Issue) :
    issue ∈ standing events ↔ issue ∈ issues events ∧ issue.sessionId ∉ logouts events := by
  rw [standing, List.mem_filter, decide_eq_true_iff]

end Events

structure SessionCore where
  id : Uuid
  userId : Uuid
  workspaceId : Uuid
  tokenHash : String
  expiresAt : Nat

def SessionRow.core (session : SessionRow) : SessionCore where
  id := session.id
  userId := session.userId
  workspaceId := session.workspaceId
  tokenHash := session.tokenHash
  expiresAt := session.expiresAt

def Issue.core (host : Host) (issue : Issue) : SessionCore where
  id := issue.sessionId
  userId := issue.userId
  workspaceId := issue.workspaceId
  tokenHash := host.hashSessionToken issue.token
  expiresAt := Auth.expiresAt host issue.issuedAt

def Belongs (database : Database) (issue : Issue) : Prop :=
  (∃ user ∈ database.users, user.id = issue.userId) ∧
    ∃ member ∈ database.members, member.workspaceId = issue.workspaceId ∧ member.userId = issue.userId

-- The sessions stored are the issues that stand, each of a user in a workspace
-- of the user.
structure Tracked (host : Host) (database : Database) (events : List AuthEvent) : Prop where
  sessions : database.sessions.map SessionRow.core = (standing events).map (Issue.core host)
  issued : ∀ issue ∈ issues events, issue.sessionId < database.nextId
  closed : ∀ sessionId ∈ logouts events, sessionId < database.nextId
  belongs : ∀ issue ∈ issues events, Belongs database issue

theorem tracked_migrated (host : Host) (now : Nat) : Tracked host (migrated now) [] :=
  ⟨rfl, by simp [issues], by simp [logouts], by simp [issues]⟩

section Steps

variable {host : Host} {database changed : Database} {events : List AuthEvent} (tracked : Tracked host database events)

include tracked

theorem tracked_later (sessions : changed.sessions.map SessionRow.core = database.sessions.map SessionRow.core)
    (users : database.users <+: changed.users) (members : database.members <+: changed.members)
    (grown : database.nextId ≤ changed.nextId) : Tracked host changed events := by
  refine ⟨sessions.trans tracked.sessions, ?_, ?_, ?_⟩
  · intro issue member
    exact Nat.lt_of_lt_of_le (tracked.issued issue member) grown
  · intro sessionId member
    exact Nat.lt_of_lt_of_le (tracked.closed sessionId member) grown
  · intro issue member
    obtain ⟨⟨user, known, same⟩, membership, joined, facts⟩ := tracked.belongs issue member
    exact ⟨⟨user, users.subset known, same⟩, membership, members.subset joined, facts⟩

theorem tracked_issued (issue : Issue) (fresh : issue.sessionId = database.nextId) (next : changed.nextId = database.nextId + 1)
    (session : SessionRow) (sessions : changed.sessions = database.sessions ++ [session])
    (same : session.core = issue.core host) (users : database.users <+: changed.users)
    (members : database.members <+: changed.members) (belongs : Belongs changed issue) :
    Tracked host changed (events ++ [.issued issue]) := by
  have new : issue.sessionId ∉ logouts events := by
    intro member
    exact Nat.lt_irrefl _ (fresh ▸ tracked.closed issue.sessionId member)
  have grown : issues (events ++ [.issued issue]) = issues events ++ [issue] := issues_append events _
  have closedSame : logouts (events ++ [.issued issue]) = logouts events := by
    rw [logouts_append]
    exact List.append_nil _
  refine ⟨?_, ?_, ?_, ?_⟩
  · rw [sessions, standing_issued events issue new, List.map_append, List.map_append, tracked.sessions]
    simp [same]
  · intro other member
    rw [grown] at member
    rcases List.mem_append.mp member with old | last
    · rw [next]
      exact Nat.lt_succ_of_lt (tracked.issued other old)
    · rw [List.mem_singleton.mp last, fresh, next]
      exact Nat.lt_succ_self _
  · intro sessionId member
    rw [closedSame] at member
    rw [next]
    exact Nat.lt_succ_of_lt (tracked.closed sessionId member)
  · intro other member
    rw [grown] at member
    rcases List.mem_append.mp member with old | last
    · obtain ⟨⟨user, known, sameUser⟩, membership, joined, facts⟩ := tracked.belongs other old
      exact ⟨⟨user, users.subset known, sameUser⟩, membership, members.subset joined, facts⟩
    · rw [List.mem_singleton.mp last]
      exact belongs

theorem mem_session (session : SessionRow) (stored : session ∈ database.sessions) :
    ∃ issue ∈ issues events, issue.sessionId ∉ logouts events ∧ session.core = issue.core host := by
  have listed := List.mem_map_of_mem (f := SessionRow.core) stored
  rw [tracked.sessions] at listed
  obtain ⟨issue, stands, same⟩ := List.mem_map.mp listed
  obtain ⟨issued, opened⟩ := (mem_standing events issue).mp stands
  exact ⟨issue, issued, opened, same.symm⟩

theorem mem_issue (issue : Issue) (issued : issue ∈ issues events) (opened : issue.sessionId ∉ logouts events) :
    ∃ session ∈ database.sessions, session.core = issue.core host := by
  have listed := List.mem_map_of_mem (f := Issue.core host) ((mem_standing events issue).mpr ⟨issued, opened⟩)
  rw [← tracked.sessions] at listed
  obtain ⟨session, stored, same⟩ := List.mem_map.mp listed
  exact ⟨session, stored, same⟩

theorem tracked_logout (sessionId : Uuid) (stored : ∃ session ∈ database.sessions, session.id = sessionId) :
    Tracked host (logout database sessionId) (events ++ [.loggedOut sessionId]) := by
  obtain ⟨session, inTable, whose⟩ := stored
  obtain ⟨issue, issued, _, same⟩ := mem_session tracked session inTable
  have bound : sessionId < database.nextId := by
    have core : session.id = issue.sessionId := congrArg SessionCore.id same
    rw [← whose, core]
    exact tracked.issued issue issued
  have issuesSame : issues (events ++ [.loggedOut sessionId]) = issues events := by
    rw [issues_append]
    exact List.append_nil _
  have grown : logouts (events ++ [.loggedOut sessionId]) = logouts events ++ [sessionId] := logouts_append events _
  refine ⟨?_, ?_, ?_, ?_⟩
  · rw [standing_logged_out, logout]
    have left : (database.sessions.filter fun session => decide (session.id ≠ sessionId)).map SessionRow.core =
        (database.sessions.map SessionRow.core).filter fun core => decide (core.id ≠ sessionId) := by
      rw [List.filter_map]
      rfl
    have right : ((standing events).filter fun issue => decide (issue.sessionId ≠ sessionId)).map (Issue.core host) =
        ((standing events).map (Issue.core host)).filter fun core => decide (core.id ≠ sessionId) := by
      rw [List.filter_map]
      rfl
    rw [left, right, tracked.sessions]
  · rw [issuesSame]
    exact tracked.issued
  · intro id member
    rw [grown] at member
    rcases List.mem_append.mp member with old | last
    · exact tracked.closed id old
    · exact List.mem_singleton.mp last ▸ bound
  · rw [issuesSame]
    exact tracked.belongs

end Steps

theorem touched_cores (sessions : List SessionRow) (sessionId : Uuid) (now : Nat) :
    (touched sessions sessionId now).map SessionRow.core = sessions.map SessionRow.core := by
  rw [touched, List.map_map]
  refine List.map_congr_left fun session _ => ?_
  by_cases hit : session.id = sessionId <;> simp [hit, SessionRow.core]

section Moving

variable {host : Host} {events : List AuthEvent}

theorem step_tracked (world next : AuthWorld) (label : AuthLabel)
    (tracked : Tracked host world.shared events) (taken : AuthWorld.step host world label = some next) :
    Tracked host next.shared (events ++ (observed host world label).toList) := by
  obtain ⟨users, members⟩ := step_members host world label next taken
  cases label with
  | register inner =>
      rcases world_step_cases world next inner taken with
        ⟨call, rfl, rfl⟩ | ⟨front, state, back, event, changed, after, rfl, parties, acted, rfl⟩
      · simpa [observed] using tracked
      · have here : world.parties[front.length]? = some state := by
          rw [parties]
          exact (replaced_at front back state state).1
        obtain ⟨_, registers⟩ := act_registers host world.shared (front ++ back) state event changed after acted
        rcases registers_tables host world.shared (front ++ back) state event changed after registers with
          ⟨id, grown, rfl, quiet⟩ | ⟨user, workspace, claimed, token, issuedAt, supply, rfl, reached, rfl⟩
        · have unseen : observed host world (.register (.act front.length event)) = none := by
            cases event with
            | rollback => rfl
            | proceed supply =>
                rcases quiet with waiting | rollback
                · simp only [observed, here, Option.map_some]
                  split
                  · rename_i reached
                    simp [RegisterState.isCommitting, Option.some.inj reached] at waiting
                  · rfl
                · cases rollback
          rw [unseen, Option.toList_none, List.append_nil]
          exact tracked_later tracked rfl users members grown
        · have seen : observed host world (.register (.act front.length (.proceed supply))) =
              some (.issued {
                sessionId := world.shared.nextId, userId := user.id, workspaceId := workspace.id, token, issuedAt }) := by
            simp only [observed, here, Option.map_some, reached]
          rw [seen, Option.toList_some]
          refine tracked_issued tracked _ rfl rfl _ rfl rfl users members ⟨?_, ?_⟩
          · exact ⟨user, List.mem_append_right _ (List.mem_singleton_self user), rfl⟩
          · exact ⟨_, List.mem_append_right _ (List.mem_singleton_self _), rfl, rfl⟩
  | login username password pick supply =>
      cases outcome : login host world.shared username password pick supply with
      | error error =>
          simp only [AuthWorld.step, outcome, Option.some.injEq] at taken
          subst taken
          simpa [observed, outcome] using tracked
      | ok opened =>
          obtain ⟨changed, result⟩ := opened
          simp only [AuthWorld.step, outcome, Option.some.injEq] at taken
          subst taken
          obtain ⟨user, member, workspace, found, _, first, present, rfl, rfl⟩ :=
            login_found host world.shared changed username password pick supply result outcome
          obtain ⟨joined, whose⟩ := membership_mem world.shared user.id member first
          have same : workspace.id = member.workspaceId := by simpa using List.find?_some present
          simp only [observed, outcome, Option.toList_some]
          refine tracked_issued tracked _ rfl rfl _ rfl rfl users members ⟨?_, ?_⟩
          · exact ⟨user, List.mem_of_mem_filter (scalar_mem pick _ user found), rfl⟩
          · exact ⟨member, joined, same.symm, whose⟩
  | authenticate token now =>
      cases taken
      simp only [observed, Option.toList_none, List.append_nil]
      rcases authenticate_tables host world.shared token now with same | ⟨sessionId, touches⟩
      · rw [same]
        exact tracked
      · rw [touches]
        exact tracked_later tracked (touched_cores _ sessionId now) (List.prefix_refl _) (List.prefix_refl _) (Nat.le_refl _)
  | logout sessionId =>
      cases taken
      by_cases stored : world.shared.sessions.any (fun session => decide (session.id = sessionId)) = true
      · simp only [observed, if_pos stored, Option.toList_some]
        apply tracked_logout tracked sessionId
        obtain ⟨session, inTable, whose⟩ := List.any_eq_true.mp stored
        exact ⟨session, inTable, of_decide_eq_true whose⟩
      · simp only [observed, if_neg stored, Option.toList_none, List.append_nil]
        have same : logout world.shared sessionId = world.shared := by
          have kept : world.shared.sessions.filter (fun session => decide (session.id ≠ sessionId)) = world.shared.sessions := by
            simpa [List.filter_eq_self] using stored
          rw [logout, kept]
        rw [same]
        exact tracked

end Moving

theorem run_tracked (host : Host) (now : Nat) (labels : List AuthLabel) (finish : AuthWorld)
    (run : runFrom (AuthWorld.step host) { shared := migrated now } labels = some finish) :
    Tracked host finish.shared (authHistory host { shared := migrated now } labels) :=
  run_history (observed host) (fun world events => Tracked host world.shared events)
    (fun world _ label next tracked taken => step_tracked world next label tracked taken) _ finish [] labels
    (tracked_migrated host now) run

def Accepts (host : Host) (events : List AuthEvent) (token : String) (now : Nat) (issue : Issue) : Prop :=
  issue ∈ issues events ∧ issue.token = token ∧ now < expiresAt host issue.issuedAt ∧ issue.sessionId ∉ logouts events

section Acceptance

variable {host : Host} {database : Database} {events : List AuthEvent} (tracked : Tracked host database events)
variable (token : String) (now : Nat)
variable (injective : ∀ issue ∈ issues events, host.hashSessionToken issue.token = host.hashSessionToken token →
  issue.token = token)

include tracked injective

theorem live_accepted (session : SessionRow) (live : liveSession host database token now = some session) :
    ∃ issue, Accepts host events token now issue ∧ session.core = issue.core host := by
  have stored := List.mem_of_find?_eq_some live
  have passes := List.find?_some live
  rw [decide_eq_true_iff] at passes
  obtain ⟨hashed, valid⟩ := passes
  obtain ⟨issue, issued, opened, same⟩ := mem_session tracked session stored
  have hash : session.tokenHash = host.hashSessionToken issue.token := congrArg SessionCore.tokenHash same
  have expiry : session.expiresAt = expiresAt host issue.issuedAt := congrArg SessionCore.expiresAt same
  have token := injective issue issued (hash.symm.trans hashed)
  exact ⟨issue, ⟨issued, token, expiry ▸ valid, opened⟩, same⟩

end Acceptance

theorem accepted_live (host : Host) (database : Database) (events : List AuthEvent) (tracked : Tracked host database events)
    (token : String) (now : Nat) (issue : Issue) (accepts : Accepts host events token now issue) :
    ∃ session, liveSession host database token now = some session := by
  obtain ⟨issued, rfl, valid, opened⟩ := accepts
  obtain ⟨session, stored, same⟩ := mem_issue tracked issue issued opened
  have hash : session.tokenHash = host.hashSessionToken issue.token := congrArg SessionCore.tokenHash same
  have expiry : session.expiresAt = expiresAt host issue.issuedAt := congrArg SessionCore.expiresAt same
  apply Option.isSome_iff_exists.mp
  rw [liveSession, List.find?_isSome]
  exact ⟨session, stored, decide_eq_true ⟨hash, expiry ▸ valid⟩⟩

theorem authenticate_live (host : Host) (database : Database) (token : String) (now : Nat) (session : SessionRow)
    (live : liveSession host database token now = some session)
    (known : ∃ user ∈ database.users, user.id = session.userId)
    (joined : ∃ member ∈ database.members, member.workspaceId = session.workspaceId ∧ member.userId = session.userId) :
    ∃ context, (authenticate host database token now).2 = some context ∧ context.userId = session.userId ∧
      context.workspaceId = session.workspaceId ∧ context.sessionId = session.id := by
  obtain ⟨user, inTable, same⟩ := known
  obtain ⟨member, inMembers, facts⟩ := joined
  have someUser : (database.users.find? fun user => decide (user.id = session.userId)).isSome :=
    List.find?_isSome.mpr ⟨user, inTable, decide_eq_true same⟩
  have someMember : (database.members.find? fun membership =>
      decide (membership.workspaceId = session.workspaceId ∧ membership.userId = session.userId)).isSome :=
    List.find?_isSome.mpr ⟨member, inMembers, decide_eq_true facts⟩
  obtain ⟨first, found⟩ := Option.isSome_iff_exists.mp someUser
  obtain ⟨membership, present⟩ := Option.isSome_iff_exists.mp someMember
  have whose : first.id = session.userId := by simpa using List.find?_some found
  simp only [authenticate, live, found, present]
  exact ⟨_, rfl, whose, rfl, rfl⟩

theorem authenticate_none (host : Host) (database : Database) (token : String) (now : Nat)
    (dead : liveSession host database token now = none) : (authenticate host database token now).2 = none := by
  simp only [authenticate, dead]

theorem core_context (host : Host) (session : SessionRow) (issue : Issue) (same : session.core = issue.core host) :
    session.userId = issue.userId ∧ session.workspaceId = issue.workspaceId :=
  ⟨congrArg SessionCore.userId same, congrArg SessionCore.workspaceId same⟩

section Contexts

variable {host : Host} {database : Database} {events : List AuthEvent} (tracked : Tracked host database events)
variable (token : String) (now : Nat)
variable (injective : ∀ issue ∈ issues events, host.hashSessionToken issue.token = host.hashSessionToken token →
  issue.token = token)

include tracked injective

theorem context_accepted (context : AuthContext) (returned : (authenticate host database token now).2 = some context) :
    ∃ issue, Accepts host events token now issue ∧ issue.userId = context.userId ∧
      issue.workspaceId = context.workspaceId := by
  cases live : liveSession host database token now with
  | none =>
      rw [authenticate_none host database token now live] at returned
      cases returned
  | some session =>
      obtain ⟨issue, accepts, same⟩ := live_accepted tracked token now injective session live
      obtain ⟨sameUser, sameWorkspace⟩ := core_context host session issue same
      obtain ⟨known, joined⟩ := tracked.belongs issue accepts.1
      rw [← sameUser] at known joined
      rw [← sameWorkspace] at joined
      obtain ⟨other, found, whose, whereTo, _⟩ := authenticate_live host database token now session live known joined
      obtain rfl := Option.some.inj (found.symm.trans returned)
      exact ⟨issue, accepts, sameUser.symm.trans whose.symm, sameWorkspace.symm.trans whereTo.symm⟩

theorem accepted_context (distinct : ((issues events).map Issue.token).Nodup) (issue : Issue)
    (accepts : Accepts host events token now issue) :
    ∃ context, (authenticate host database token now).2 = some context ∧ context.userId = issue.userId ∧
      context.workspaceId = issue.workspaceId := by
  obtain ⟨session, live⟩ := accepted_live host database events tracked token now issue accepts
  obtain ⟨other, otherAccepts, same⟩ := live_accepted tracked token now injective session live
  obtain rfl : other = issue :=
    List.inj_on_of_nodup_map distinct otherAccepts.1 accepts.1 (otherAccepts.2.1.trans accepts.2.1.symm)
  obtain ⟨sameUser, sameWorkspace⟩ := core_context host session other same
  obtain ⟨known, joined⟩ := tracked.belongs other accepts.1
  rw [← sameUser] at known joined
  rw [← sameWorkspace] at joined
  obtain ⟨context, found, whose, whereTo, _⟩ := authenticate_live host database token now session live known joined
  exact ⟨context, found, whose.trans sameUser, whereTo.trans sameWorkspace⟩

end Contexts

theorem authenticates_iff (host : Host) (start : Nat) (first rest : List AuthLabel) (middle finish : AuthWorld)
    (reached : runFrom (AuthWorld.step host) { shared := migrated start } first = some middle)
    (run : runFrom (AuthWorld.step host) middle rest = some finish) (events : List AuthEvent)
    (history : authHistory host { shared := migrated start } (first ++ rest) = events) (token : String)
    (distinct : ((issues events).map Issue.token).Nodup)
    (injective : ∀ one ∈ token :: (issues events).map Issue.token, ∀ other ∈ token :: (issues events).map Issue.token,
      host.hashSessionToken one = host.hashSessionToken other → one = other) :
    (∀ now userId workspaceId,
      (∃ context, (authenticate host finish.shared token now).2 = some context ∧ context.userId = userId ∧
          context.workspaceId = workspaceId) ↔
        ∃ issue, Accepts host events token now issue ∧ issue.userId = userId ∧ issue.workspaceId = workspaceId) ∧
      (∀ now context, (authenticate host finish.shared token now).2 = some context →
        ∃ member ∈ finish.shared.members, member.workspaceId = context.workspaceId ∧ member.userId = context.userId) ∧
      ∀ issue ∈ issues (authHistory host { shared := migrated start } first), issue.token = token →
        ∀ before now, before ≤ now →
          expiresAt host issue.issuedAt ≤ before ∨
            issue.sessionId ∈ logouts (authHistory host { shared := migrated start } first) →
          (authenticate host finish.shared token now).2 = none := by
  have whole : runFrom (AuthWorld.step host) { shared := migrated start } (first ++ rest) = some finish := by
    rw [run_append, reached]
    exact run
  have tracked := run_tracked host start (first ++ rest) finish whole
  rw [history] at tracked
  have one : ∀ issue ∈ issues events, host.hashSessionToken issue.token = host.hashSessionToken token →
      issue.token = token := by
    intro issue issued same
    exact injective issue.token (List.mem_cons_of_mem token (List.mem_map_of_mem issued)) token (List.mem_cons_self ..) same
  refine ⟨?_, ?_, ?_⟩
  · intro now userId workspaceId
    constructor
    · rintro ⟨context, returned, rfl, rfl⟩
      exact context_accepted tracked token now one context returned
    · rintro ⟨issue, accepts, rfl, rfl⟩
      exact accepted_context tracked token now one distinct issue accepts
  · intro now context returned
    obtain ⟨issue, accepts, whose, whereTo⟩ := context_accepted tracked token now one context returned
    rw [← whose, ← whereTo]
    exact (tracked.belongs issue accepts.1).2
  · intro issue issued same before now later ended
    have longer := run_events_append (observed host) { shared := migrated start } middle first rest reached
    rw [← authHistory, history] at longer
    have known : issue ∈ issues events := by
      rw [longer, issues_append]
      exact List.mem_append_left _ issued
    cases returned : (authenticate host finish.shared token now).2 with
    | none => rfl
    | some context =>
        obtain ⟨other, ⟨otherIssued, otherSame, valid, opened⟩, _⟩ :=
          context_accepted tracked token now one context returned
        obtain rfl : other = issue := List.inj_on_of_nodup_map distinct otherIssued known (otherSame.trans same.symm)
        rcases ended with expired | closed
        · exact absurd valid (Nat.not_lt.mpr (Nat.le_trans expired later))
        · rw [longer, logouts_append] at opened
          exact absurd (List.mem_append_left _ closed) opened

-- Two registrations and a logout of the first session.
def visit : List AuthLabel := race "ada" "bob" ++ [.logout 4]

def visitEvents : List AuthEvent :=
  [.issued { sessionId := 4, userId := 2, workspaceId := defaultWorkspaceId, token := "first", issuedAt := 5 },
    .issued { sessionId := 6, userId := 3, workspaceId := 5, token := "second", issuedAt := 8 },
    .loggedOut 4]

theorem sample_injective (one other : String)
    (same : sampleHost.hashSessionToken one = sampleHost.hashSessionToken other) : one = other := by
  have chars := congrArg String.toList same
  simp only [sampleHost, String.toList_append] at chars
  exact String.toList_inj.mp (List.append_cancel_left chars)

theorem authenticates_iff_visit :
    ∃ finish, runFrom (AuthWorld.step sampleHost) { shared := migrated 0 } visit = some finish ∧
      authHistory sampleHost { shared := migrated 0 } visit = visitEvents ∧
      (authenticate sampleHost finish.shared "first" 9).2 = none ∧
      ∃ context, (authenticate sampleHost finish.shared "second" 9).2 = some context ∧ context.userId = 3 ∧
        context.workspaceId = 5 := by
  refine ⟨_, rfl, rfl, ?_, ?_⟩
  · have facts := authenticates_iff sampleHost 0 visit [] _ _ rfl rfl visitEvents rfl "first" (by decide)
      fun one _ other _ => sample_injective one other
    exact facts.2.2 _ (List.mem_cons_self ..) rfl 9 9 (Nat.le_refl 9) (.inr (List.mem_cons_self ..))
  · have facts := authenticates_iff sampleHost 0 visit [] _ _ rfl rfl visitEvents rfl "second" (by decide)
      fun one _ other _ => sample_injective one other
    refine (facts.1 9 3 5).mpr ⟨_, ⟨List.mem_cons_of_mem _ (List.mem_cons_self ..), rfl, ?_, ?_⟩, rfl, rfl⟩
    · decide
    · decide

end DataPilot.Auth
