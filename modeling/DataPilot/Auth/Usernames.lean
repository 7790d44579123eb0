import DataPilot.Auth.LoginLookup

set_option autoImplicit false

namespace DataPilot.Auth

open DataPilot.Base
open DataPilot.Chat (Uuid)

def Ascii (text : String) : Prop := (text.toList.all fun c => decide (c.toNat < 128)) = true

def AuthLabel.Ascii : AuthLabel → Prop
  | .register (.call call) => Auth.Ascii call.username
  | _ => True

-- No two names are equal ignoring case.
def UniqueNames (users : List UserRow) : Prop :=
  users.Pairwise fun one other => casefold one.username ≠ casefold other.username

-- Between the check of a registration and its commit no user is committed
-- whose name is equal ignoring case.
def Unraced (world : AuthWorld) : AuthLabel → Prop
  | .register (.act index (.proceed _)) => ∀ state, world.parties[index]? = some state → state.isCommitting = true →
      ∀ row ∈ world.shared.users.drop state.seen, casefold row.username ≠ casefold (strip state.call.username)
  | _ => True

def RegisterState.hasChecked (state : RegisterState) : Bool :=
  match state.point with
  | .inserting _ => true
  | .claiming _ => true
  | .founding _ => true
  | .committing _ _ _ _ _ => true
  | _ => false

def Seen (users : List UserRow) (state : RegisterState) : Prop :=
  state.hasChecked = true → state.seen ≤ users.length ∧
    ∀ row ∈ users.take state.seen, casefold row.username ≠ casefold (strip state.call.username)

theorem seen_later (users later : List UserRow) (state : RegisterState) (grown : users <+: later) (seen : Seen users state) :
    Seen later state := by
  obtain ⟨more, rfl⟩ := grown
  intro checked
  obtain ⟨inside, different⟩ := seen checked
  refine ⟨by rw [List.length_append]; omega, ?_⟩
  rw [List.take_append_of_le_length inside]
  exact different

theorem ascii_strip (text : String) (ascii : Ascii text) : Ascii (strip text) :=
  List.all_eq_true.mpr fun c member => List.all_eq_true.mp ascii c (mem_strip text c member)

theorem commit_unique_iff (users : List UserRow) (state : RegisterState) (user : UserRow) (unique : UniqueNames users)
    (checked : state.hasChecked = true) (seen : Seen users state) (named : user.username = strip state.call.username) :
    UniqueNames (users ++ [user]) ↔
      ∀ row ∈ users.drop state.seen, casefold row.username ≠ casefold (strip state.call.username) := by
  have apart : UniqueNames (users ++ [user]) ↔
      ∀ row ∈ users, casefold row.username ≠ casefold (strip state.call.username) := by
    rw [UniqueNames, List.pairwise_append]
    constructor
    · rintro ⟨_, _, across⟩ row member
      have different := across row member user (List.mem_singleton_self user)
      rwa [named] at different
    · intro different
      refine ⟨unique, List.pairwise_singleton _ _, ?_⟩
      intro row member other last
      rw [List.mem_singleton.mp last, named]
      exact different row member
  rw [apart]
  constructor
  · intro different row member
    exact different row (List.mem_of_mem_drop member)
  · intro different row member
    rw [← List.take_append_drop state.seen users] at member
    rcases List.mem_append.mp member with old | new
    · exact (seen checked).2 row old
    · exact different row new

section Races

variable {host : Host} (lowers : ∀ text, Ascii text → host.lower text = casefold text)
variable {database changed : Database} {others : List RegisterState} {state after : RegisterState} {event : RegisterEvent}

include lowers

theorem registers_seen (asciiUsers : ∀ user ∈ database.users, Ascii user.username) (seen : Seen database.users state)
    (registers : Registers host database others state event changed after) : Seen changed.users after := by
  cases registers with
  | stops point ended _ => rcases ended with rfl | ⟨error, rfl⟩ <;> exact fun checked => Bool.noConfusion checked
  | checked salt reached free =>
      refine fun _ => ⟨Nat.le_refl _, fun row member => ?_⟩
      rw [List.take_length] at member
      rw [← lowers row.username (asciiUsers row member)]
      intro same
      have taken : takenName host database state.call.username = true :=
        List.any_eq_true.mpr ⟨row, member, decide_eq_true same⟩
      rw [taken] at free
      cases free
  | inserted passwordHash now reached absent =>
      have checked : state.hasChecked = true := by simp [RegisterState.hasChecked, reached]
      exact fun _ => seen checked
  | founded user reached =>
      have checked : state.hasChecked = true := by simp [RegisterState.hasChecked, reached]
      exact fun _ => seen checked
  | claimed user workspace supply reached found free =>
      have checked : state.hasChecked = true := by simp [RegisterState.hasChecked, reached]
      exact fun _ => seen checked
  | inserts user supply reached =>
      have checked : state.hasChecked = true := by simp [RegisterState.hasChecked, reached]
      exact fun _ => seen checked
  | commits user workspace claimed token issuedAt supply reached answered => exact fun checked => Bool.noConfusion checked
  | returns result reached => exact fun checked => Bool.noConfusion checked

end Races

-- The names are unique so far, and every call that has checked has seen so.
structure Unambiguous (host : Host) (world : AuthWorld) : Prop where
  unique : UniqueNames world.shared.users
  asciiUsers : ∀ user ∈ world.shared.users, Ascii user.username
  asciiCalls : ∀ state ∈ world.parties, Ascii state.call.username
  faithful : ∀ state ∈ world.parties, Faithful host world.shared.users state
  seen : ∀ state ∈ world.parties, Seen world.shared.users state

theorem registers_users (host : Host) (database changed : Database) (others : List RegisterState)
    (state after : RegisterState) (event : RegisterEvent)
    (registers : Registers host database others state event changed after) :
    changed.users = database.users ∧ (state.isCommitting = false ∨ event = .rollback) ∨
      ∃ user workspace claimed token issuedAt supply, event = .proceed supply ∧
        state.point = .committing user workspace claimed token issuedAt ∧ changed.users = database.users ++ [user] := by
  rcases registers_tables host database others state event changed after registers with
    ⟨next, _, rfl, quiet⟩ | ⟨user, workspace, claimed, token, issuedAt, supply, answered, reached, rfl⟩
  · exact .inl ⟨rfl, quiet⟩
  · exact .inr ⟨user, workspace, claimed, token, issuedAt, supply, answered, reached, rfl⟩

theorem step_unique_iff (host : Host) (world : AuthWorld) (label : AuthLabel) (next : AuthWorld)
    (good : Unambiguous host world) (taken : AuthWorld.step host world label = some next) :
    UniqueNames next.shared.users ↔ Unraced world label := by
  rcases auth_step_cases host world next label taken with
    ⟨call, rfl, rfl⟩ | ⟨front, state, back, event, changed, after, rfl, parties, acted, rfl⟩ |
      ⟨changed, other, changes, rfl⟩
  · exact iff_of_true good.unique trivial
  · have member : state ∈ world.parties := by
      rw [parties]
      exact List.mem_append_right _ (List.mem_cons_self ..)
    have here : world.parties[front.length]? = some state := by
      rw [parties]
      exact (replaced_at front back state state).1
    obtain ⟨_, registers⟩ := act_registers host world.shared (front ++ back) state event changed after acted
    rcases registers_users host world.shared changed (front ++ back) state after event registers with
      ⟨users, quiet⟩ | ⟨user, workspace, claimed, token, issuedAt, supply, rfl, reached, users⟩
    · refine iff_of_true (users ▸ good.unique) ?_
      cases event with
      | rollback => exact trivial
      | proceed supply =>
          intro found lookup committing
          obtain rfl := Option.some.inj (here.symm.trans lookup)
          rcases quiet with waiting | rollback
          · rw [waiting] at committing
            cases committing
          · cases rollback
    · have checked : state.hasChecked = true := by simp [RegisterState.hasChecked, reached]
      have committing : state.isCommitting = true := by simp [RegisterState.isCommitting, reached]
      have faithful := good.faithful state member
      rw [Faithful, reached] at faithful
      have grown := commit_unique_iff world.shared.users state user good.unique checked (good.seen state member) faithful.1
      rw [← users] at grown
      refine grown.trans ⟨fun different found lookup _ => ?_, fun unraced => unraced state here committing⟩
      obtain rfl := Option.some.inj (here.symm.trans lookup)
      exact different
  · refine iff_of_true ((changes_keep changes).1 ▸ good.unique) ?_
    cases label with
    | register inner => exact absurd rfl (other inner)
    | _ => exact trivial

theorem step_unambiguous (host : Host) (lowers : ∀ text, Ascii text → host.lower text = casefold text) (world : AuthWorld)
    (label : AuthLabel) (next : AuthWorld) (ascii : label.Ascii) (good : Unambiguous host world)
    (unraced : Unraced world label) (taken : AuthWorld.step host world label = some next) : Unambiguous host next := by
  have unique := (step_unique_iff host world label next good taken).mpr unraced
  have faithful := step_faithful host world label next good.faithful taken
  have grown := (step_members host world label next taken).1
  rcases auth_step_cases host world next label taken with
    ⟨call, rfl, rfl⟩ | ⟨front, state, back, event, changed, after, _, parties, acted, rfl⟩ | ⟨changed, _, changes, rfl⟩
  · refine ⟨unique, good.asciiUsers, ?_, faithful, ?_⟩
    · intro found member
      rcases List.mem_append.mp member with old | new
      · exact good.asciiCalls found old
      · obtain rfl := List.mem_singleton.mp new
        exact ascii
    · intro found member
      rcases List.mem_append.mp member with old | new
      · exact good.seen found old
      · obtain rfl := List.mem_singleton.mp new
        exact fun checked => Bool.noConfusion checked
  · have member : state ∈ world.parties := by
      rw [parties]
      exact List.mem_append_right _ (List.mem_cons_self ..)
    have asciiCall := good.asciiCalls state member
    obtain ⟨_, registers⟩ := act_registers host world.shared (front ++ back) state event changed after acted
    refine ⟨unique, ?_, ?_, faithful, ?_⟩
    · intro user known
      rcases registers_users host world.shared changed (front ++ back) state after event registers with
        ⟨users, _⟩ | ⟨new, workspace, claimed, token, issuedAt, supply, _, reached, users⟩
      · exact good.asciiUsers user (users ▸ known)
      · have both : user ∈ world.shared.users ++ [new] := users ▸ known
        rcases List.mem_append.mp both with old | last
        · exact good.asciiUsers user old
        · have carried := good.faithful state member
          rw [Faithful, reached] at carried
          rw [List.mem_singleton.mp last, carried.1]
          exact ascii_strip state.call.username asciiCall
    · intro found inParties
      rcases mem_replaced front back state after found inParties with rfl | old
      · rw [registers_call host world.shared (front ++ back) state event changed found registers]
        exact asciiCall
      · exact good.asciiCalls found (parties ▸ old)
    · intro found inParties
      rcases mem_replaced front back state after found inParties with rfl | old
      · exact registers_seen lowers good.asciiUsers (good.seen state member) registers
      · exact seen_later world.shared.users changed.users found grown (good.seen found (parties ▸ old))
  · have users := (changes_keep changes).1
    refine ⟨unique, ?_, good.asciiCalls, faithful, ?_⟩
    · intro user known
      exact good.asciiUsers user (users ▸ known)
    · intro found member
      exact seen_later world.shared.users changed.users found grown (good.seen found member)

theorem unambiguous_migrated (host : Host) (now : Nat) : Unambiguous host { shared := migrated now } :=
  ⟨List.Pairwise.nil, by simp [migrated], by simp, by simp, by simp⟩

theorem found_at_most_once (host : Host) (lowers : ∀ text, Ascii text → host.lower text = casefold text)
    (database : Database) (unique : UniqueNames database.users) (ascii : ∀ user ∈ database.users, Ascii user.username)
    (username : String) : (foundBy host database username).length ≤ 1 := by
  have apart : UniqueNames (foundBy host database username) := List.Pairwise.filter _ unique
  have hit : ∀ user ∈ foundBy host database username, casefold user.username = casefold (strip username) := by
    intro user inFound
    obtain ⟨known, same⟩ := (mem_found host database username user).mp inFound
    rwa [lowers user.username (ascii user known)] at same
  cases found : foundBy host database username with
  | nil => exact Nat.zero_le 1
  | cons first rest =>
      cases rest with
      | nil => exact Nat.le_refl 1
      | cons second rest =>
          rw [found] at apart hit
          have different := (List.pairwise_cons.mp apart).1 second (List.mem_cons_self ..)
          exact absurd ((hit first (by simp)).trans (hit second (by simp)).symm) different

theorem unique_names_iff (host : Host) (lowers : ∀ text, Ascii text → host.lower text = casefold text) (now : Nat)
    (labels : List AuthLabel) (ascii : ∀ label ∈ labels, label.Ascii) (finish : AuthWorld)
    (run : runFrom (AuthWorld.step host) { shared := migrated now } labels = some finish) :
    (UniqueNames finish.shared.users ∧ ∀ username, (foundBy host finish.shared username).length ≤ 1) ↔
      StepsMeet (AuthWorld.step host) Unraced { shared := migrated now } labels := by
  have decided := run_good_or_bad AuthLabel.Ascii Unraced (Unambiguous host) (fun world => ¬ UniqueNames world.shared.users)
    (fun world label next ascii good unraced taken => step_unambiguous host lowers world label next ascii good unraced taken)
    (fun world label next _ good raced taken unique => raced ((step_unique_iff host world label next good taken).mp unique))
    (fun world label next _ spoilt taken unique =>
      spoilt (unique.sublist (step_members host world label next taken).1.sublist))
    _ finish labels ascii (unambiguous_migrated host now) run
  rcases decided with ⟨meets, good⟩ | ⟨raced, spoilt⟩
  · refine iff_of_true ⟨good.unique, ?_⟩ meets
    exact found_at_most_once host lowers finish.shared good.unique good.asciiUsers
  · exact iff_of_false (fun claimed => spoilt claimed.1) raced

theorem sample_lowers (text : String) (ascii : Ascii text) : sampleHost.lower text = casefold text := by
  have folded : ∀ chars : List Char, (chars.all fun c => decide (c.toNat < 128)) = true →
      chars.map (fun c => if c.isUpper then Char.ofNat (c.toNat + 32) else c) = chars.flatMap casefoldChar := by
    intro chars
    induction chars with
    | nil => exact fun _ => rfl
    | cons c rest ih =>
        intro ascii
        rw [List.all_cons, Bool.and_eq_true, decide_eq_true_iff] at ascii
        rw [List.map_cons, List.flatMap_cons, ih ascii.2, casefoldChar, if_pos ascii.1]
        rfl
  exact congrArg String.ofList (folded text.toList ascii)

theorem race_ascii (one other : String) (oneAscii : Ascii one) (otherAscii : Ascii other) :
    ∀ label ∈ race one other, label.Ascii := by
  simp [race, proceeding, AuthLabel.Ascii, oneAscii, otherAscii]

theorem unique_names_iff_ada :
    ∃ finish, runFrom (AuthWorld.step sampleHost) { shared := migrated 0 } (race "ada" "Bob") = some finish ∧
      ((UniqueNames finish.shared.users ∧ ∀ username, (foundBy sampleHost finish.shared username).length ≤ 1) ↔
        StepsMeet (AuthWorld.step sampleHost) Unraced { shared := migrated 0 } (race "ada" "Bob")) :=
  ⟨_, rfl, unique_names_iff sampleHost sample_lowers 0 (race "ada" "Bob") (race_ascii "ada" "Bob" rfl rfl) _ rfl⟩

theorem twice_named (users : List UserRow) (one other : String) (names : users.map UserRow.username = [one, other])
    (same : casefold one = casefold other) : ¬ UniqueNames users := by
  intro unique
  rw [UniqueNames, ← List.pairwise_map (f := UserRow.username) (R := fun one other => casefold one ≠ casefold other), names]
    at unique
  exact (List.pairwise_cons.mp unique).1 other (List.mem_singleton_self other) same

theorem bob_registers_twice :
    ∃ finish, (∀ label ∈ race "Bob" "bob", label.Ascii) ∧
      runFrom (AuthWorld.step sampleHost) { shared := migrated 0 } (race "Bob" "bob") = some finish ∧
      finish.shared.users.map UserRow.username = ["Bob", "bob"] ∧ ¬ UniqueNames finish.shared.users ∧
      (foundBy sampleHost finish.shared "bob").length = 2 :=
  ⟨_, race_ascii "Bob" "bob" rfl rfl, rfl, rfl, twice_named _ "Bob" "bob" rfl rfl, rfl⟩

end DataPilot.Auth
