import DataPilot.Chat.Allocation

set_option autoImplicit false

namespace DataPilot.Chat

open DataPilot.Base DataPilot.Agent

-- Where a conversation begins its life with next_sequence.
inductive Starts : ConversationRow → Prop where
  | fresh (workspaceId id : Uuid) (now : Nat) : Starts (opened workspaceId id now).row
  | migrated (legacy : LegacyConversation) (row : ConversationRow) (upgraded : upgrade legacy = some row) : Starts row

-- A call gets its number: UPDATE ... RETURNING is answered.
def allocation (calls : Calls) : PartyLabel ConversationCall CallEvent → Option Nat
  | .call _ => none
  | .act index event =>
      match calls.step (.act index event) with
      | none => none
      | some next => if ((next.parties[index]?).bind CallState.reserved).isSome then some index else none

def allocations (row : ConversationRow) (labels : List (PartyLabel ConversationCall CallEvent)) : List Nat :=
  runEvents Calls.step allocation { shared := row } labels

-- The keys of the messages that the calls at these indices have committed.
def Calls.appended (calls : Calls) (indices : List Nat) : List (Uuid × Int) :=
  indices.filterMap fun index => (calls.parties[index]?).bind CallState.appended

theorem starts_numbered (row : ConversationRow) (starts : Starts row) :
    (row.messages.map MessageRow.sequence).Nodup ∧ row.nextSequence = nextAfter row.messages := by
  cases starts with
  | fresh workspaceId id now => exact ⟨List.nodup_nil, rfl⟩
  | migrated legacy row upgraded =>
      by_cases fits : nextAfter legacy.messages ≤ largestInteger
      · simp only [upgrade, if_pos fits, Option.some.injEq] at upgraded
        subst upgraded
        exact ⟨legacy.sequenced, rfl⟩
      · simp [upgrade, fits] at upgraded

theorem reserved_holds (state : CallState) (number : Int) (reserved : state.reserved = some number) :
    state.holdsRow = true := by
  obtain ⟨call, point⟩ := state
  cases point <;> simp_all [CallState.reserved, CallState.holdsRow]

theorem appended_releases (state : CallState) (key : Uuid × Int) (appended : state.appended = some key) :
    state.holdsRow = false := by
  obtain ⟨call, point⟩ := state
  cases point <;> simp_all [CallState.appended, CallState.holdsRow]

theorem act_takes (row : ConversationRow) (others : List CallState) (state : CallState) (event : CallEvent)
    (changed : ConversationRow) (after : CallState) (acted : state.act row others event = some (changed, after))
    (holds : after.holdsRow = true) : state.holdsRow = true ∨ ∀ other ∈ others, other.holdsRow = false := by
  cases (act_moves event after acted).2 with
  | quiet _ _ _ _ _ _ takes => exact takes holds
  | allocates _ free => exact .inr free
  | appends key _ _ _ _ appended =>
      rw [appended_releases after key appended] at holds
      cases holds

theorem row_exclusive (calls next : Calls) (label : PartyLabel ConversationCall CallEvent)
    (exclusive : Exclusive CallState.holdsRow calls.parties) (taken : calls.step label = some next) :
    Exclusive CallState.holdsRow next.parties :=
  exclusive_kept CallState.holdsRow (fun _ => rfl)
    (fun shared others party event changed after => act_takes shared others party event changed after)
    calls next label exclusive taken

-- The numbers handed out and used since the start, with the one in use.
structure Allocated (start : ConversationRow) (calls : Calls) (allocated : List Nat) : Prop where
  exclusive : Exclusive CallState.holdsRow calls.parties
  keys : calls.shared.keys = start.keys ++ calls.appended allocated
  numbers : (calls.appended allocated).map Prod.snd = consecutive start.nextSequence (calls.appended allocated).length
  next : calls.shared.nextSequence = start.nextSequence + (calls.appended allocated).length
  once : allocated.Nodup
  spent : ∀ index ∈ allocated, ∃ state, calls.parties[index]? = some state ∧ state.spent = true
  reserved : ∀ index state number, calls.parties[index]? = some state → state.reserved = some number →
    number = calls.shared.nextSequence + 1 ∧ allocated.getLast? = some index
  committed : ∀ index state key, calls.parties[index]? = some state → state.appended = some key → index ∈ allocated
  listed : ∀ state ∈ calls.parties, ∀ messages, state.listed = some messages →
    ∃ earlier, earlier <+: calls.appended allocated ∧
      messages.map MessageRow.key = orderBy Prod.snd (start.keys ++ earlier)

theorem listing_keys (row : ConversationRow) : row.listing.map MessageRow.key = orderBy Prod.snd row.keys :=
  order_by_map MessageRow.key Prod.snd row.messages

theorem appended_congr (calls next : Calls) (allocated : List Nat)
    (same : ∀ index ∈ allocated, (next.parties[index]?).bind CallState.appended =
      (calls.parties[index]?).bind CallState.appended) : next.appended allocated = calls.appended allocated :=
  List.filterMap_congr same

theorem enter_kept (start : ConversationRow) (calls : Calls) (allocated : List Nat) (call : ConversationCall)
    (inv : Allocated start calls allocated) :
    Allocated start { calls with parties := calls.parties ++ [{ call }] } allocated := by
  have kept : Calls.appended { calls with parties := calls.parties ++ [{ call }] } allocated = calls.appended allocated := by
    apply appended_congr
    intro index member
    obtain ⟨state, found, _⟩ := inv.spent index member
    rw [found, lookup_entered calls.parties _ state index found]
  refine ⟨?_, ?_, ?_, ?_, inv.once, ?_, ?_, ?_, ?_⟩
  · have exclusive := inv.exclusive
    rw [Exclusive] at exclusive ⊢
    rw [List.countP_append]
    exact exclusive
  · rw [kept]
    exact inv.keys
  · rw [kept]
    exact inv.numbers
  · rw [kept]
    exact inv.next
  · intro index member
    obtain ⟨state, found, spent⟩ := inv.spent index member
    exact ⟨state, lookup_entered calls.parties _ state index found, spent⟩
  · intro index state number found reserved
    rcases entered_at calls.parties _ state index found with old | rfl
    · exact inv.reserved index state number old reserved
    · cases reserved
  · intro index state key found appended
    rcases entered_at calls.parties _ state index found with old | rfl
    · exact inv.committed index state key old appended
    · cases appended
  · intro state member messages listed
    rw [kept]
    rcases List.mem_append.mp member with old | new
    · exact inv.listed state old messages listed
    · obtain rfl := List.mem_singleton.mp new
      cases listed

section Moving

variable {start row changed : ConversationRow} {front back : List CallState} {state after : CallState} {allocated : List Nat}

theorem live_unreported (state : CallState) (live : state.point.isFinished = false) :
    state.appended = none ∧ state.listed = none := by
  obtain ⟨call, point⟩ := state
  cases point with
  | finished reply => cases live
  | _ => exact ⟨rfl, rfl⟩

theorem spent_after (allocated : List Nat) (stays : state.spent = true → after.spent = true)
    (spent : ∀ index ∈ allocated, ∃ found, (front ++ state :: back)[index]? = some found ∧ found.spent = true) :
    ∀ index ∈ allocated, ∃ found, (front ++ after :: back)[index]? = some found ∧ found.spent = true := by
  intro index member
  obtain ⟨found, lookup, past⟩ := spent index member
  by_cases here : index = front.length
  · subst here
    rw [(replaced_at front back after state).1] at lookup
    obtain rfl := Option.some.inj lookup
    exact ⟨after, (replaced_at front back state after).1, stays past⟩
  · exact ⟨found, by rw [(replaced_at front back state after).2 index here, lookup], past⟩

theorem appended_after (live : state.point.isFinished = false) (unreported : after.appended = none) (allocated : List Nat) :
    Calls.appended ⟨changed, front ++ after :: back⟩ allocated =
      Calls.appended ⟨row, front ++ state :: back⟩ allocated := by
  apply appended_congr
  intro index _
  by_cases here : index = front.length
  · subst here
    rw [(replaced_at front back state after).1, (replaced_at front back after state).1]
    simp [unreported, (live_unreported state live).1]
  · rw [(replaced_at front back state after).2 index here]

theorem quiet_kept (inv : Allocated start ⟨row, front ++ state :: back⟩ allocated)
    (live : state.point.isFinished = false) (exclusive : Exclusive CallState.holdsRow (front ++ after :: back))
    (sameNext : changed.nextSequence = row.nextSequence) (sameKeys : changed.keys = row.keys)
    (reserved : after.reserved = none) (appended : after.appended = none)
    (listed : ∀ messages, after.listed = some messages → messages = row.listing)
    (spent : state.spent = true → after.spent = true) : Allocated start ⟨changed, front ++ after :: back⟩ allocated := by
  have kept : Calls.appended ⟨changed, front ++ after :: back⟩ allocated =
      Calls.appended ⟨row, front ++ state :: back⟩ allocated := appended_after live appended allocated
  refine ⟨exclusive, ?_, ?_, ?_, inv.once, spent_after allocated spent inv.spent, ?_, ?_, ?_⟩
  · rw [kept]
    exact sameKeys.trans inv.keys
  · rw [kept]
    exact inv.numbers
  · rw [kept]
    exact sameNext.trans inv.next
  · intro index found number lookup holds
    rcases lookup_replaced front back state after found index lookup with ⟨_, rfl⟩ | ⟨_, old⟩
    · simp [reserved] at holds
    · rw [show (⟨changed, front ++ after :: back⟩ : Calls).shared.nextSequence = row.nextSequence from sameNext]
      exact inv.reserved index found number old holds
  · intro index found key lookup reported
    rcases lookup_replaced front back state after found index lookup with ⟨_, rfl⟩ | ⟨_, old⟩
    · simp [appended] at reported
    · exact inv.committed index found key old reported
  · intro found member messages reported
    rw [kept]
    rcases mem_replaced front back state after found member with rfl | old
    · obtain rfl := listed messages reported
      refine ⟨_, List.prefix_refl _, ?_⟩
      rw [listing_keys]
      exact congrArg _ inv.keys
    · exact inv.listed found old messages reported

theorem allocates_kept (inv : Allocated start ⟨row, front ++ state :: back⟩ allocated)
    (live : state.point.isFinished = false) (exclusive : Exclusive CallState.holdsRow (front ++ after :: back))
    (free : ∀ other ∈ front ++ back, other.holdsRow = false) (before : state.spent = false)
    (reserved : after.reserved = some (row.nextSequence + 1)) (appended : after.appended = none)
    (listed : after.listed = none) :
    Allocated start ⟨row, front ++ after :: back⟩ (allocated ++ [front.length]) := by
  obtain ⟨here, elsewhere⟩ := replaced_at front back state after
  have past : after.spent = true := by simp [CallState.spent, reserved]
  have unallocated : front.length ∉ allocated := by
    intro member
    obtain ⟨found, lookup, spent⟩ := inv.spent front.length member
    rw [(replaced_at front back after state).1] at lookup
    obtain rfl := Option.some.inj lookup
    simp [before] at spent
  have old : Calls.appended ⟨row, front ++ after :: back⟩ allocated =
      Calls.appended ⟨row, front ++ state :: back⟩ allocated := appended_after live appended allocated
  have kept : Calls.appended ⟨row, front ++ after :: back⟩ (allocated ++ [front.length]) =
      Calls.appended ⟨row, front ++ state :: back⟩ allocated := by
    rw [← old]
    simp [Calls.appended, appended]
  refine ⟨exclusive, ?_, ?_, ?_, ?_, ?_, ?_, ?_, ?_⟩
  · rw [kept]
    exact inv.keys
  · rw [kept]
    exact inv.numbers
  · rw [kept]
    exact inv.next
  · exact List.nodup_append.mpr ⟨inv.once, List.nodup_singleton _, by
      rintro index member _ last rfl
      exact unallocated (List.mem_singleton.mp last ▸ member)⟩
  · intro index member
    rcases List.mem_append.mp member with old | new
    · exact spent_after allocated (fun _ => past) inv.spent index old
    · obtain rfl := List.mem_singleton.mp new
      exact ⟨after, here, past⟩
  · intro index found number lookup holds
    rcases lookup_replaced front back state after found index lookup with ⟨rfl, rfl⟩ | ⟨other, old⟩
    · rw [reserved] at holds
      exact ⟨(Option.some.inj holds).symm, List.getLast?_concat⟩
    · have held := reserved_holds found number holds
      have inOthers : found ∈ front ++ back := other_mem front back state found index other old
      rw [free found inOthers] at held
      cases held
  · intro index found key lookup reported
    rcases lookup_replaced front back state after found index lookup with ⟨_, rfl⟩ | ⟨_, old⟩
    · simp [appended] at reported
    · exact List.mem_append_left _ (inv.committed index found key old reported)
  · intro found member messages reported
    rw [kept]
    rcases mem_replaced front back state after found member with rfl | old
    · simp [listed] at reported
    · exact inv.listed found old messages reported

theorem appends_kept (inv : Allocated start ⟨row, front ++ state :: back⟩ allocated)
    (live : state.point.isFinished = false) (exclusive : Exclusive CallState.holdsRow (front ++ after :: back))
    (key : Uuid × Int) (reserved : state.reserved = some (key.2 + 1)) (next : changed.nextSequence = key.2 + 1)
    (keys : changed.keys = row.keys ++ [key]) (released : after.reserved = none) (appended : after.appended = some key)
    (listed : after.listed = none) (spent : after.spent = true) :
    Allocated start ⟨changed, front ++ after :: back⟩ allocated := by
  obtain ⟨here, elsewhere⟩ := replaced_at front back state after
  have before : (front ++ state :: back)[front.length]? = some state := (replaced_at front back after state).1
  obtain ⟨number, last⟩ := inv.reserved front.length state _ before reserved
  have number : key.2 = row.nextSequence := (Int.add_left_inj 1).mp number
  obtain ⟨earlier, rfl⟩ := List.getLast?_eq_some_iff.mp last
  have elder : front.length ∉ earlier := by
    intro member
    exact (List.nodup_append.mp inv.once).2.2 _ member _ (List.mem_singleton_self _) rfl
  have old : Calls.appended ⟨row, front ++ state :: back⟩ (earlier ++ [front.length]) =
      Calls.appended ⟨row, front ++ state :: back⟩ earlier := by
    simp [Calls.appended, (live_unreported state live).1]
  have kept : Calls.appended ⟨changed, front ++ after :: back⟩ earlier =
      Calls.appended ⟨row, front ++ state :: back⟩ earlier := by
    apply appended_congr
    intro index member
    rw [elsewhere index fun same => elder (same ▸ member)]
  have grown : Calls.appended ⟨changed, front ++ after :: back⟩ (earlier ++ [front.length]) =
      Calls.appended ⟨row, front ++ state :: back⟩ (earlier ++ [front.length]) ++ [key] := by
    rw [old, ← kept]
    simp [Calls.appended, appended]
  have nextOld := inv.next
  refine ⟨exclusive, ?_, ?_, ?_, inv.once, spent_after _ (fun _ => spent) inv.spent, ?_, ?_, ?_⟩
  · rw [grown, ← List.append_assoc, ← inv.keys]
    exact keys
  · rw [grown, List.map_append, List.length_append, inv.numbers]
    simp only [List.map_cons, List.map_nil, List.length_singleton, consecutive]
    rw [number, ← nextOld]
  · rw [grown, List.length_append, List.length_singleton]
    simp only at nextOld ⊢
    omega
  · intro index found reservedNumber lookup holds
    rcases lookup_replaced front back state after found index lookup with ⟨_, rfl⟩ | ⟨other, oldLookup⟩
    · simp [released] at holds
    · have held := reserved_holds found reservedNumber holds
      have inOthers : found ∈ front ++ back := other_mem front back state found index other oldLookup
      rw [exclusive_others CallState.holdsRow front back state inv.exclusive (reserved_holds state _ reserved) found inOthers]
        at held
      cases held
  · intro index found reportedKey lookup reported
    rcases lookup_replaced front back state after found index lookup with ⟨rfl, _⟩ | ⟨_, oldLookup⟩
    · exact List.mem_append_right _ (List.mem_singleton_self _)
    · exact inv.committed index found reportedKey oldLookup reported
  · intro found member messages reported
    rcases mem_replaced front back state after found member with rfl | oldMember
    · simp [listed] at reported
    · obtain ⟨part, isPart, sorted⟩ := inv.listed found oldMember messages reported
      refine ⟨part, ?_, sorted⟩
      rw [grown]
      exact isPart.trans (List.prefix_append _ _)

end Moving

theorem step_allocated (start : ConversationRow) (calls : Calls) (seen : List Nat)
    (label : PartyLabel ConversationCall CallEvent) (next : Calls) (inv : Allocated start calls seen)
    (taken : calls.step label = some next) : Allocated start next (seen ++ (allocation calls label).toList) := by
  have exclusive := row_exclusive calls next label inv.exclusive taken
  rcases world_step_cases calls next label taken with
    ⟨call, rfl, rfl⟩ | ⟨front, state, back, event, changed, after, rfl, parties, acted, rfl⟩
  · simpa [allocation] using enter_kept start calls seen call inv
  · obtain ⟨row, states⟩ := calls
    obtain rfl : states = front ++ state :: back := parties
    have seenNow : allocation ⟨row, front ++ state :: back⟩ (.act front.length event) =
        if after.reserved.isSome then some front.length else none := by
      simp only [allocation, taken]
      rw [(replaced_at front back state after).1]
      rfl
    rw [seenNow]
    obtain ⟨live, move⟩ := act_moves event after acted
    cases move with
    | quiet sameNext sameKeys reserved appended listed spent =>
        simpa [reserved] using quiet_kept inv live exclusive sameNext sameKeys reserved appended listed spent
    | allocates sameRow free before reserved appended listed =>
        subst sameRow
        simpa [reserved] using allocates_kept inv live exclusive free before reserved appended listed
    | appends key reserved nextNumber keys released appended listed spent =>
        simpa [released] using
          appends_kept inv live exclusive key reserved nextNumber keys released appended listed spent

theorem run_allocated (start : ConversationRow) (labels : List (PartyLabel ConversationCall CallEvent)) (finish : Calls)
    (run : runFrom Calls.step { shared := start } labels = some finish) :
    Allocated start finish (allocations start labels) := by
  have initial : Allocated start { shared := start } [] := by
    refine ⟨Nat.zero_le 1, by simp [Calls.appended], rfl, by simp [Calls.appended], List.nodup_nil, ?_, ?_, ?_, ?_⟩
    · simp
    · simp
    · simp
    · simp
  exact run_history allocation (Allocated start) (step_allocated start) _ finish [] labels initial run

section Numbers

variable {start : ConversationRow} {appended : List (Uuid × Int)}

theorem keys_sequences (row : ConversationRow) : row.keys.map Prod.snd = row.messages.map MessageRow.sequence := by
  rw [ConversationRow.keys, List.map_map]
  rfl

theorem numbered_distinct (distinct : (start.messages.map MessageRow.sequence).Nodup)
    (first : start.nextSequence = nextAfter start.messages)
    (numbers : appended.map Prod.snd = consecutive start.nextSequence appended.length) :
    ((start.keys ++ appended).map Prod.snd).Nodup := by
  rw [List.map_append, keys_sequences, numbers, first, nextAfter]
  exact consecutive_distinct _ _ distinct

theorem ordered_keys (distinct : (start.messages.map MessageRow.sequence).Nodup)
    (first : start.nextSequence = nextAfter start.messages)
    (numbers : appended.map Prod.snd = consecutive start.nextSequence appended.length) :
    orderBy Prod.snd (start.keys ++ appended) = start.listing.map MessageRow.key ++ appended := by
  rw [listing_keys]
  apply order_by_append Prod.snd start.keys appended (numbered_distinct distinct first numbers)
  · have increases := consecutive_increases start.nextSequence appended.length
    rw [← numbers, List.pairwise_map] at increases
    exact increases
  · intro key old later new
    have below := below_next (start.messages.map MessageRow.sequence) key.2
      (by rw [← keys_sequences]; exact List.mem_map_of_mem old)
    have above : later.2 ∈ consecutive start.nextSequence appended.length := by
      rw [← numbers]
      exact List.mem_map_of_mem new
    rw [first, mem_consecutive, nextAfter] at above
    omega

theorem prefix_numbers (part : List (Uuid × Int)) (isPart : part <+: appended)
    (numbers : appended.map Prod.snd = consecutive start.nextSequence appended.length) :
    part.map Prod.snd = consecutive start.nextSequence part.length := by
  have seen := isPart.map Prod.snd
  rw [numbers] at seen
  simpa using prefix_consecutive _ _ _ seen

end Numbers

theorem sequences_allocated (start : ConversationRow) (starts : Starts start)
    (labels : List (PartyLabel ConversationCall CallEvent)) (finish : Calls)
    (run : runFrom Calls.step { shared := start } labels = some finish) :
    let appended := finish.appended (allocations start labels)
    finish.shared.keys = start.keys ++ appended ∧
      (finish.shared.messages.map MessageRow.sequence).Nodup ∧
      appended.map Prod.snd = consecutive (nextAfter start.messages) appended.length ∧
      finish.shared.nextSequence = nextAfter finish.shared.messages ∧
      finish.shared.listing.map MessageRow.key = start.listing.map MessageRow.key ++ appended ∧
      (∀ state ∈ finish.parties, ∀ messages, state.listed = some messages →
        ∃ earlier, earlier <+: appended ∧ messages.map MessageRow.key = start.listing.map MessageRow.key ++ earlier) ∧
      (allocations start labels).Nodup ∧
      ∀ index state key, finish.parties[index]? = some state → state.appended = some key →
        index ∈ allocations start labels := by
  obtain ⟨distinct, first⟩ := starts_numbered start starts
  have inv := run_allocated start labels finish run
  refine ⟨inv.keys, ?_, ?_, ?_, ?_, ?_, inv.once, inv.committed⟩
  · rw [← keys_sequences, inv.keys]
    exact numbered_distinct distinct first inv.numbers
  · rw [← first]
    exact inv.numbers
  · rw [inv.next, nextAfter, ← keys_sequences, inv.keys, List.map_append, keys_sequences, inv.numbers, first, nextAfter]
    exact (next_consecutive _ _).symm
  · rw [listing_keys, inv.keys]
    exact ordered_keys distinct first inv.numbers
  · intro state member messages listed
    obtain ⟨earlier, isPart, sorted⟩ := inv.listed state member messages listed
    refine ⟨earlier, isPart, ?_⟩
    rw [sorted]
    exact ordered_keys distinct first (prefix_numbers earlier isPart inv.numbers)

def sampleMessage (id : Uuid) (sequence : Int) : MessageRow :=
  { id, sequence, role := .user, content := none, status := .completed, requestId := none, traceId := none, steps := [] }

def sampleLegacy : LegacyConversation where
  id := 7
  workspaceId := 1
  title := untitled
  updatedAt := 0
  messages := [sampleMessage 8 3, sampleMessage 9 1]
  sequenced := by decide

-- The first call allocates 4 and is rolled back while the second waits for the row.
def sampleSchedule : List (PartyLabel ConversationCall CallEvent) :=
  [.call (.appendMessage 1 { role := .assistant, content := none }),
    .call (.appendMessage 1 { role := .assistant, content := none }),
    .act 0 (.proceed 1 0), .act 1 (.proceed 1 0), .act 0 (.proceed 2 0), .act 0 .rollback, .act 1 (.proceed 3 0),
    .act 1 (.proceed 3 10)]

theorem sequences_allocated_sample :
    ∃ start finish, upgrade sampleLegacy = some start ∧
      runFrom Calls.step { shared := start } sampleSchedule = some finish ∧
      allocations start sampleSchedule = [0, 1] ∧ finish.shared.keys = [(8, 3), (9, 1), (10, 4)] ∧
      finish.shared.nextSequence = 5 ∧ (finish.shared.messages.map MessageRow.sequence).Nodup :=
  ⟨_, _, rfl, rfl, rfl, rfl, rfl,
    (sequences_allocated _ (.migrated sampleLegacy _ rfl) sampleSchedule _ rfl).2.1⟩

end DataPilot.Chat
