import DataPilot.Base.Pages
import DataPilot.Base.Parties
import DataPilot.Chat.Store
import Mathlib.Data.List.Sort

set_option autoImplicit false

namespace DataPilot.Frontend

open DataPilot.Base DataPilot.Chat

-- What the sidebar asks for, the same through all loads: the workspace of the session, the
-- trimmed query, which is not sent when it is empty, and whether archived ones are shown.
structure Listing where
  workspaceId : Uuid
  query : String := ""
  includeArchived : Bool := false

structure ConversationSummary where
  id : Uuid
  title : String
  messageCount : Nat
  updatedAt : Nat
  archivedAt : Option Nat
deriving DecidableEq

def summary (conversation : Conversation) : ConversationSummary where
  id := conversation.id
  title := conversation.title
  messageCount := conversation.messages.length
  updatedAt := conversation.updatedAt
  archivedAt := conversation.archivedAt

def pageSize : Nat := 20

-- ORDER BY updated_at DESC; how rows of one time come is up to the database, each time anew.
def Before (ties : Uuid → Int) (one other : Conversation) : Prop :=
  other.updatedAt < one.updatedAt ∨ one.updatedAt = other.updatedAt ∧ ties one.id ≤ ties other.id

instance (ties : Uuid → Int) : DecidableRel (Before ties) := fun _ _ => inferInstanceAs (Decidable (_ ∨ _))

def newestFirst (ties : Uuid → Int) (conversations : List Conversation) : List Conversation :=
  conversations.insertionSort (Before ties)

-- What the list held and what the filter admitted when loadMoreConversations stopped.
structure Stop where
  listed : List Uuid
  admitted : List Uuid
deriving DecidableEq

-- The tables of the server and the list of the client, with the conversations that the filter admitted
-- when the rows of its last page were read.
structure Sidebar where
  store : Chat.Store
  conversations : List ConversationSummary := []
  conversationTotal : Nat := 0
  read : Option (List Uuid) := none
  stops : List Stop := []

def Sidebar.listed (sidebar : Sidebar) : List Uuid := sidebar.conversations.map ConversationSummary.id

-- An update on the server, or a load: called, sent, its rows read, its total counted too, or ended.
inductive PagingParty where
  | updating (workspaceId : Uuid) (call : StoreCall)
  | resetting
  | loadingMore
  | requested (reset : Bool) (offset : Nat)
  | counting (reset : Bool) (items : List ConversationSummary) (admitted : List Uuid)
  | answered (reset : Bool) (items : List ConversationSummary) (total : Nat) (admitted : List Uuid)
  | ended

inductive PagingCall where
  | update (workspaceId : Uuid) (call : StoreCall)
  | loadConversations
  | loadMoreConversations

def PagingCall.party : PagingCall → PagingParty
  | .update workspaceId call => .updating workspaceId call
  | .loadConversations => .resetting
  | .loadMoreConversations => .loadingMore

inductive PagingEvent where
  | perform (id : Uuid) (now : Nat)
  | rows (ties : Uuid → Int)
  | proceed
  | fail

section Paging

-- ILIKE, by the pattern and the text.
variable (ilike : String → String → Bool) (listing : Listing)

def Listing.admits (conversation : Conversation) : Bool :=
  conversation.workspaceId = listing.workspaceId && (listing.includeArchived || conversation.archivedAt.isNone) &&
    (listing.query = "" || ilike ("%" ++ strip listing.query ++ "%") conversation.title)

def admitted (store : Chat.Store) : List Conversation := store.conversations.filter (listing.admits ilike)

def admittedIds (store : Chat.Store) : List Uuid := (admitted ilike listing store).map Conversation.id

-- The rows statement of list_conversations.
def pageRows (ties : Uuid → Int) (store : Chat.Store) (limit offset : Nat) : List ConversationSummary :=
  (((newestFirst ties (admitted ilike listing store)).drop offset).take limit).map summary

def PagingParty.act (sidebar : Sidebar) (_ : List PagingParty) (party : PagingParty) (event : PagingEvent) :
    Option (Sidebar × PagingParty) :=
  match party, event with
  | .updating workspaceId call, .perform id now =>
      some ({ sidebar with store := (sidebar.store.perform workspaceId id now call).1 }, .ended)
  | .resetting, .proceed => some (sidebar, .requested true 0)
  | .loadingMore, .proceed =>
      if sidebar.conversationTotal ≤ sidebar.conversations.length then
        some ({ sidebar with stops := sidebar.stops ++ [⟨sidebar.listed, admittedIds ilike listing sidebar.store⟩] }, .ended)
      else some (sidebar, .requested false sidebar.conversations.length)
  | .requested reset offset, .rows ties =>
      some (sidebar, .counting reset (pageRows ilike listing ties sidebar.store pageSize offset)
        (admittedIds ilike listing sidebar.store))
  | .counting reset items read, .proceed =>
      some (sidebar, .answered reset items (admitted ilike listing sidebar.store).length read)
  | .answered reset items total read, .proceed =>
      some ({ sidebar with
        conversations := if reset then items else sidebar.conversations ++ items
        conversationTotal := total
        read := some read }, .ended)
  | .requested _ _, .fail => some (sidebar, .ended)
  | .counting _ _ _, .fail => some (sidebar, .ended)
  | .answered _ _ _ _, .fail => some (sidebar, .ended)
  | _, _ => none

abbrev PagingWorld := World Sidebar PagingParty

abbrev PagingLabel := PartyLabel PagingCall PagingEvent

def pagingStep (world : PagingWorld) (label : PagingLabel) : Option PagingWorld :=
  World.step PagingCall.party (PagingParty.act ilike listing) world label

structure Sound (sidebar : Sidebar) : Prop where
  distinct : sidebar.listed.Nodup
  complete : ∀ stop ∈ sidebar.stops, ∀ id ∈ stop.admitted, id ∈ stop.listed

def PagingParty.underWay : PagingParty → Bool
  | .requested _ _ => true
  | .counting _ _ _ => true
  | .answered _ _ _ _ => true
  | _ => false

def Calm (others : List PagingParty) : Prop := ∀ other ∈ others, other.underWay = false

-- A load is called while no other is under way. No listed conversation is behind the offset when the rows of
-- a further page are read. When a load stops, the filter admits no conversation that is neither listed nor was
-- admitted when the rows of the last page were read, and those were not more than the total.
def Steady (sidebar : Sidebar) (others : List PagingParty) : PagingParty → PagingEvent → Prop
  | .resetting, _ => Calm others
  | .loadingMore, _ => Calm others ∧ (sidebar.conversationTotal ≤ sidebar.conversations.length →
      ∃ read, sidebar.read = some read ∧ read.length ≤ sidebar.conversationTotal ∧
        ∀ id ∈ admittedIds ilike listing sidebar.store, id ∈ sidebar.listed ∨ id ∈ read)
  | .requested false offset, .rows ties => ∀ id ∈ sidebar.listed,
      id ∈ ((newestFirst ties (admitted ilike listing sidebar.store)).take offset).map Conversation.id
  | _, _ => True

def SteadyStep (world : PagingWorld) (label : PagingLabel) : Prop :=
  ∀ index event party, label = .act index event → world.parties[index]? = some party →
    Steady ilike listing world.shared (world.parties.eraseIdx index) party event

theorem newest_first_perm (ties : Uuid → Int) (conversations : List Conversation) :
    (newestFirst ties conversations).Perm conversations := List.perm_insertionSort (Before ties) conversations

theorem newest_first_ordered (ties : Uuid → Int) (conversations : List Conversation) :
    (newestFirst ties conversations).Pairwise fun one other => other.updatedAt ≤ one.updatedAt := by
  have total : Std.Total (Before ties) := ⟨fun one other => by simp only [Before]; omega⟩
  have trans : IsTrans Conversation (Before ties) := ⟨fun one other third => by simp only [Before]; omega⟩
  refine (List.pairwise_insertionSort (Before ties) conversations).imp fun {one other} before => ?_
  rcases before with later | ⟨same, _⟩
  · exact Nat.le_of_lt later
  · exact Nat.le_of_eq same.symm

theorem admitted_distinct (store : Chat.Store) : (admittedIds ilike listing store).Nodup :=
  (List.filter_sublist.map Conversation.id).nodup store.conversationIds

theorem page_ids (ties : Uuid → Int) (store : Chat.Store) (limit offset : Nat) :
    (pageRows ilike listing ties store limit offset).map ConversationSummary.id =
      (((newestFirst ties (admitted ilike listing store)).map Conversation.id).drop offset).take limit := by
  rw [pageRows, List.map_map, List.map_take, List.map_drop]
  rfl

theorem rows_cover (ties : Uuid → Int) (store : Chat.Store) (listed : List Uuid) (limit : Nat) (distinct : listed.Nodup)
    (inside : ∀ id ∈ listed, id ∈ ((newestFirst ties (admitted ilike listing store)).take listed.length).map Conversation.id) :
    Covers (listed ++ (pageRows ilike listing ties store limit listed.length).map ConversationSummary.id)
      (admittedIds ilike listing store) := by
  have same := (newest_first_perm ties (admitted ilike listing store)).map Conversation.id
  rw [page_ids]
  refine page_covers listed _ _ limit distinct (same.nodup_iff.mpr (admitted_distinct ilike listing store)) same ?_
  intro id member
  rw [← List.map_take]
  exact inside id member

def Continues (sidebar : Sidebar) : PagingParty → Prop
  | .requested reset offset => offset = if reset then 0 else sidebar.conversations.length
  | .counting reset items read => Covers ((if reset then [] else sidebar.listed) ++ items.map ConversationSummary.id) read
  | .answered reset items _ read => Covers ((if reset then [] else sidebar.listed) ++ items.map ConversationSummary.id) read
  | _ => True

structure Paged (world : PagingWorld) : Prop where
  exclusive : Exclusive PagingParty.underWay world.parties
  continues : ∀ party ∈ world.parties, Continues world.shared party
  read : ∀ read, world.shared.read = some read → Covers world.shared.listed read
  sound : Sound world.shared

theorem continues_idle (sidebar : Sidebar) (party : PagingParty) (idle : party.underWay = false) : Continues sidebar party := by
  cases party <;> trivial

inductive Taken (sidebar : Sidebar) : PagingParty → PagingEvent → Sidebar → PagingParty → Prop where
  | performed (workspaceId id : Uuid) (call : StoreCall) (now : Nat) :
      Taken sidebar (.updating workspaceId call) (.perform id now)
        { sidebar with store := (sidebar.store.perform workspaceId id now call).1 } .ended
  | called (before : PagingParty) (reset : Bool)
      (begins : before = .resetting ∧ reset = true ∨ before = .loadingMore ∧ reset = false) :
      Taken sidebar before .proceed sidebar (.requested reset (if reset then 0 else sidebar.conversations.length))
  | stopped (full : sidebar.conversationTotal ≤ sidebar.conversations.length) :
      Taken sidebar .loadingMore .proceed
        { sidebar with stops := sidebar.stops ++ [⟨sidebar.listed, admittedIds ilike listing sidebar.store⟩] } .ended
  | selected (reset : Bool) (offset : Nat) (ties : Uuid → Int) :
      Taken sidebar (.requested reset offset) (.rows ties) sidebar
        (.counting reset (pageRows ilike listing ties sidebar.store pageSize offset) (admittedIds ilike listing sidebar.store))
  | counted (reset : Bool) (items : List ConversationSummary) (read : List Uuid) :
      Taken sidebar (.counting reset items read) .proceed sidebar
        (.answered reset items (admitted ilike listing sidebar.store).length read)
  | received (reset : Bool) (items : List ConversationSummary) (total : Nat) (read : List Uuid) :
      Taken sidebar (.answered reset items total read) .proceed
        { sidebar with
          conversations := if reset then items else sidebar.conversations ++ items
          conversationTotal := total
          read := some read } .ended
  | failed (before : PagingParty) (loads : before.underWay = true) : Taken sidebar before .fail sidebar .ended

theorem act_taken (sidebar next : Sidebar) (others : List PagingParty) (before after : PagingParty) (event : PagingEvent)
    (acted : before.act ilike listing sidebar others event = some (next, after)) :
    Taken ilike listing sidebar before event next after := by
  cases before with
  | updating workspaceId call =>
      cases event with
      | perform id now =>
          cases acted
          exact .performed workspaceId id call now
      | _ => cases acted
  | resetting =>
      cases event with
      | proceed =>
          cases acted
          exact .called .resetting true (.inl ⟨rfl, rfl⟩)
      | _ => cases acted
  | loadingMore =>
      cases event with
      | proceed =>
          rw [PagingParty.act] at acted
          by_cases full : sidebar.conversationTotal ≤ sidebar.conversations.length
          · rw [if_pos full] at acted
            cases acted
            exact .stopped full
          · rw [if_neg full] at acted
            cases acted
            exact .called .loadingMore false (.inr ⟨rfl, rfl⟩)
      | _ => cases acted
  | requested reset offset =>
      cases event with
      | rows ties =>
          cases acted
          exact .selected reset offset ties
      | fail =>
          cases acted
          exact .failed _ rfl
      | _ => cases acted
  | counting reset items read =>
      cases event with
      | proceed =>
          cases acted
          exact .counted reset items read
      | fail =>
          cases acted
          exact .failed _ rfl
      | _ => cases acted
  | answered reset items total read =>
      cases event with
      | proceed =>
          cases acted
          exact .received reset items total read
      | fail =>
          cases acted
          exact .failed _ rfl
      | _ => cases acted
  | ended => cases event <;> cases acted

theorem paged_moved (next : Sidebar) (front back : List PagingParty) (before after : PagingParty)
    (exclusive : Exclusive PagingParty.underWay (front ++ before :: back))
    (begins : after.underWay = true → before.underWay = true ∨ Calm (front ++ back)) (own : Continues next after)
    (others : ∀ other ∈ front ++ back, Continues next other)
    (read : ∀ read, next.read = some read → Covers next.listed read) (sound : Sound next) :
    Paged ⟨next, front ++ after :: back⟩ := by
  refine ⟨exclusive_moved PagingParty.underWay front back before after exclusive begins, ?_, read, sound⟩
  intro other member
  rcases mem_moved front back after other member with rfl | old
  · exact own
  · exact others other old

theorem continues_frame (sidebar next : Sidebar) (party : PagingParty) (same : next.conversations = sidebar.conversations)
    (continues : Continues sidebar party) : Continues next party := by
  cases party with
  | requested reset offset => simpa only [Continues, same] using continues
  | counting reset items read => simpa only [Continues, Sidebar.listed, same] using continues
  | answered reset items total read => simpa only [Continues, Sidebar.listed, same] using continues
  | _ => trivial

theorem stop_complete (sidebar : Sidebar) (read : List Uuid) (covers : Covers sidebar.listed read)
    (short : read.length ≤ sidebar.conversationTotal) (full : sidebar.conversationTotal ≤ sidebar.conversations.length) :
    ∀ id ∈ read, id ∈ sidebar.listed := by
  apply covers.complete
  rw [Sidebar.listed, List.length_map]
  exact Nat.le_trans short full

theorem selected_covers (sidebar : Sidebar) (others : List PagingParty) (reset : Bool) (offset : Nat) (ties : Uuid → Int)
    (distinct : sidebar.listed.Nodup) (own : Continues sidebar (.requested reset offset))
    (steady : Steady ilike listing sidebar others (.requested reset offset) (.rows ties)) :
    Covers ((if reset then [] else sidebar.listed) ++
        (pageRows ilike listing ties sidebar.store pageSize offset).map ConversationSummary.id)
      (admittedIds ilike listing sidebar.store) := by
  cases reset with
  | true =>
      obtain rfl : offset = 0 := own
      exact rows_cover ilike listing ties sidebar.store [] pageSize List.nodup_nil (by simp)
  | false =>
      obtain rfl : offset = sidebar.conversations.length := own
      have length : sidebar.listed.length = sidebar.conversations.length := List.length_map _
      have covers := rows_cover ilike listing ties sidebar.store sidebar.listed pageSize distinct (by
        rw [length]
        exact steady)
      rw [length] at covers
      exact covers

theorem received_listed (sidebar : Sidebar) (reset : Bool) (items : List ConversationSummary) (total : Nat) (read : List Uuid) :
    Sidebar.listed { sidebar with
      conversations := if reset then items else sidebar.conversations ++ items
      conversationTotal := total
      read := some read } = (if reset then [] else sidebar.listed) ++ items.map ConversationSummary.id := by
  cases reset <;> simp [Sidebar.listed]

theorem taken_paged (sidebar next : Sidebar) (front back : List PagingParty) (before after : PagingParty) (event : PagingEvent)
    (paged : Paged ⟨sidebar, front ++ before :: back⟩) (taken : Taken ilike listing sidebar before event next after)
    (steady : Steady ilike listing sidebar (front ++ back) before event) : Paged ⟨next, front ++ after :: back⟩ := by
  obtain ⟨exclusive, continues, read, sound⟩ := paged
  dsimp only at continues read sound
  have own := continues before (by simp)
  have rest : ∀ other ∈ front ++ back, Continues sidebar other := fun other member =>
    continues other (mem_others front back before other member)
  have moved := fun next after => paged_moved next front back before after exclusive
  cases taken with
  | performed workspaceId id call now =>
      refine moved _ _ (by simp [PagingParty.underWay]) trivial ?_ read ⟨sound.distinct, sound.complete⟩
      exact fun other member => continues_frame sidebar _ other rfl (rest other member)
  | called before reset begins =>
      refine moved _ _ (fun _ => ?_) rfl rest read sound
      rcases begins with ⟨rfl, _⟩ | ⟨rfl, _⟩
      · exact .inr steady
      · exact .inr steady.1
  | stopped full =>
      obtain ⟨earlier, found, short, known⟩ := steady.2 full
      have complete := stop_complete sidebar earlier (read earlier found) short full
      refine moved _ _ (by simp [PagingParty.underWay]) trivial ?_ read ⟨sound.distinct, ?_⟩
      · exact fun other member => continues_frame sidebar _ other rfl (rest other member)
      · intro stop member
        rcases List.mem_append.mp member with old | new
        · exact sound.complete stop old
        · rw [List.mem_singleton.mp new]
          intro id inside
          rcases known id inside with listed | admitted
          · exact listed
          · exact complete id admitted
  | selected reset offset ties =>
      have covers := selected_covers ilike listing sidebar _ reset offset ties sound.distinct own steady
      exact moved _ _ (fun _ => .inl rfl) covers rest read sound
  | counted reset items pageRead => exact moved _ _ (fun _ => .inl rfl) own rest read sound
  | received reset items total pageRead =>
      have idle := exclusive_others PagingParty.underWay front back _ exclusive rfl
      have covers : Covers ((if reset then [] else sidebar.listed) ++ items.map ConversationSummary.id) pageRead := own
      rw [← received_listed sidebar reset items total pageRead] at covers
      refine moved _ _ (by simp [PagingParty.underWay]) trivial
        (fun other member => continues_idle _ other (idle other member)) ?_
        ⟨covers.distinct, sound.complete⟩
      rintro _ ⟨⟩
      exact covers
  | failed before loads => exact moved _ _ (by simp [PagingParty.underWay]) trivial rest read sound

theorem step_paged (world next : PagingWorld) (label : PagingLabel) (paged : Paged world)
    (steady : SteadyStep ilike listing world label) (taken : pagingStep ilike listing world label = some next) : Paged next := by
  rcases world_step_cases world next label taken with
    ⟨call, _, rfl⟩ | ⟨front, before, back, event, sidebar, after, rfl, parties, acted, rfl⟩
  · obtain ⟨exclusive, continues, read, sound⟩ := paged
    have idle : call.party.underWay = false := by cases call <;> rfl
    refine ⟨?_, ?_, read, sound⟩
    · simpa [Exclusive, List.countP_append, idle] using exclusive
    · intro party member
      rcases List.mem_append.mp member with old | new
      · exact continues party old
      · rw [List.mem_singleton.mp new]
        exact continues_idle _ _ idle
  · obtain ⟨shared, all⟩ := world
    dsimp only at parties
    subst parties
    have keeping := steady front.length event before rfl (by simp)
    rw [erase_acting] at keeping
    exact taken_paged ilike listing shared sidebar front back before after event paged
      (act_taken ilike listing _ _ _ _ _ _ acted) keeping

theorem start_paged (store : Chat.Store) : Paged ⟨{ store }, []⟩ where
  exclusive := Nat.zero_le 1
  continues := by simp
  read := by simp
  sound := ⟨List.nodup_nil, by simp⟩

theorem steady_paging_sound (store : Chat.Store) (labels : List PagingLabel) (finish : PagingWorld)
    (steady : StepsMeet (pagingStep ilike listing) (SteadyStep ilike listing) ⟨{ store }, []⟩ labels)
    (run : runFrom (pagingStep ilike listing) ⟨{ store }, []⟩ labels = some finish) : Sound finish.shared :=
  (run_invariant_meeting (SteadyStep ilike listing) Paged
    (fun world label next paged met taken => step_paged ilike listing world next label paged met taken)
    ⟨{ store }, []⟩ finish labels (start_paged store) steady run).sound

end Paging

section Sample

variable (ilike : String → String → Bool) (listing : Listing)

theorem steady_call (world : PagingWorld) (call : PagingCall) : SteadyStep ilike listing world (.call call) := by
  intro index event party same
  cases same

theorem steady_act (world : PagingWorld) (index : Nat) (event : PagingEvent) (party : PagingParty)
    (found : world.parties[index]? = some party)
    (steady : Steady ilike listing world.shared (world.parties.eraseIdx index) party event) :
    SteadyStep ilike listing world (.act index event) := by
  rintro _ _ other ⟨⟩ there
  obtain rfl : party = other := Option.some.inj (found.symm.trans there)
  exact steady

end Sample

def twentyOne : Chat.Store where
  conversations := (List.range 21).map fun number => Chat.opened 1 (number + 1) number
  conversationIds := by decide
  messageIds := by decide
  requestIds := by decide

def createdBetween : List PagingLabel := [.call .loadConversations, .act 0 .proceed, .act 0 (.rows fun _ => 0), .act 0 .proceed,
  .act 0 .proceed, .call (.update 1 .createConversation), .act 1 (.perform 22 50), .call .loadMoreConversations, .act 2 .proceed,
  .act 2 (.rows fun _ => 0), .act 2 .proceed, .act 2 .proceed]

theorem created_between_repeats : ¬ ∀ (ilike : String → String → Bool) (listing : Listing) (store : Chat.Store)
    (labels : List PagingLabel) (finish : PagingWorld),
    runFrom (pagingStep ilike listing) ⟨{ store }, []⟩ labels = some finish → Sound finish.shared := by
  intro claimed
  have listed : (runFrom (pagingStep (fun _ _ => true) { workspaceId := 1 }) ⟨{ store := twentyOne }, []⟩ createdBetween).map
      (fun world => world.shared.listed) = some ((List.range 20).map (fun place => 21 - place) ++ [2, 1]) := by decide
  obtain ⟨finish, run, twice⟩ := Option.map_eq_some_iff.mp listed
  have distinct := (claimed _ _ twentyOne createdBetween finish run).distinct
  rw [twice] at distinct
  exact absurd distinct (by decide)

-- The same where a listed conversation gets a message instead.
def bumpedBetween : List PagingLabel := [.call .loadConversations, .act 0 .proceed, .act 0 (.rows fun _ => 0), .act 0 .proceed,
  .act 0 .proceed, .call (.update 1 (.appendMessage 5 { role := .user, content := none })), .act 1 (.perform 22 50),
  .call .loadMoreConversations, .act 2 .proceed, .act 2 (.rows fun _ => 0), .act 2 .proceed, .act 2 .proceed,
  .call .loadMoreConversations, .act 3 .proceed]

theorem steady_paging_sample : ∃ finish, runFrom (pagingStep (fun _ _ => true) { workspaceId := 1 }) ⟨{ store := twentyOne }, []⟩
    bumpedBetween = some finish ∧ Sound finish.shared := by
  have calm : ∀ others : List PagingParty, (others.all fun other => !other.underWay) = true → Calm others := by
    intro others all other member
    simpa using List.all_eq_true.mp all other member
  have steady : StepsMeet (pagingStep (fun _ _ => true) { workspaceId := 1 }) (SteadyStep (fun _ _ => true) { workspaceId := 1 })
      ⟨{ store := twentyOne }, []⟩ bumpedBetween := by
    refine steps_meet_cons _ _ _ _ _ rfl (steady_call _ _ _ _) ?_
    refine steps_meet_cons _ _ _ _ _ rfl (steady_act _ _ _ _ _ _ rfl (calm [] (by decide))) ?_
    refine steps_meet_cons _ _ _ _ _ rfl (steady_act _ _ _ _ _ _ rfl trivial) ?_
    refine steps_meet_cons _ _ _ _ _ rfl (steady_act _ _ _ _ _ _ rfl trivial) ?_
    refine steps_meet_cons _ _ _ _ _ rfl (steady_act _ _ _ _ _ _ rfl trivial) ?_
    refine steps_meet_cons _ _ _ _ _ rfl (steady_call _ _ _ _) ?_
    refine steps_meet_cons _ _ _ _ _ rfl (steady_act _ _ _ _ _ _ rfl trivial) ?_
    refine steps_meet_cons _ _ _ _ _ rfl (steady_call _ _ _ _) ?_
    refine steps_meet_cons _ _ _ _ _ rfl (steady_act _ _ _ _ _ _ rfl ⟨calm [.ended, .ended] (by decide), by decide⟩) ?_
    refine steps_meet_cons _ _ _ _ _ rfl (steady_act _ _ _ _ _ _ rfl
      (show ∀ id ∈ Sidebar.listed _, id ∈ List.map _ (List.take _ (newestFirst _ (admitted _ _ _))) from by decide)) ?_
    refine steps_meet_cons _ _ _ _ _ rfl (steady_act _ _ _ _ _ _ rfl trivial) ?_
    refine steps_meet_cons _ _ _ _ _ rfl (steady_act _ _ _ _ _ _ rfl trivial) ?_
    refine steps_meet_cons _ _ _ _ _ rfl (steady_call _ _ _ _) ?_
    refine steps_meet_cons _ _ _ _ _ rfl (steady_act _ _ _ _ _ _ rfl
      ⟨calm [.ended, .ended, .ended] (by decide), fun _ => ⟨_, rfl, by decide, by decide⟩⟩) ?_
    trivial
  exact ⟨_, rfl, steady_paging_sound (fun _ _ => true) { workspaceId := 1 } twentyOne bumpedBetween _ steady rfl⟩

end DataPilot.Frontend
