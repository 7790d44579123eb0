import DataPilot.Base.Parties

set_option autoImplicit false

namespace DataPilot.Base

-- A coroutine over a shared state: each step runs from one await to the next and
-- chooses how to go on by what it reads.
inductive Routine (Shared Result : Type) where
  | done (result : Result)
  | step (effect : Shared → Shared) (next : Shared → Routine Shared Result)

section Interleaving

variable {Shared Result Other : Type}

def Routine.run : Routine Shared Result → Shared → Shared × Result
  | .done result, shared => (shared, result)
  | .step effect next, shared => (next shared).run (effect shared)

def Routine.result : Routine Shared Result → Option Result
  | .done result => some result
  | .step _ _ => none

def Routine.map (shown : Result → Other) : Routine Shared Result → Routine Shared Other
  | .done result => .done (shown result)
  | .step effect next => .step effect fun shared => (next shared).map shown

def inOrder : Shared → List (Routine Shared Result) → Shared × List Result
  | shared, [] => (shared, [])
  | shared, routine :: rest =>
      let (middle, result) := routine.run shared
      let (finish, results) := inOrder middle rest
      (finish, result :: results)

-- Side by side: the event loop picks who goes on.
def advance (shared : Shared) (_ : List (Routine Shared Result)) :
    Routine Shared Result → Unit → Option (Shared × Routine Shared Result)
  | .done _, _ => none
  | .step effect next, _ => some (effect shared, next shared)

def turn (world : World Shared (Routine Shared Result)) (index : Nat) : Option (World Shared (Routine Shared Result)) :=
  world.step Empty.elim advance (.act index ())

def Stopped (world : World Shared (Routine Shared Result)) : Prop := ∀ index, turn world index = none

def results (world : World Shared (Routine Shared Result)) : List Result := world.parties.filterMap Routine.result

-- The steps that a routine may come to take.
inductive Occurs (effect : Shared → Shared) (next : Shared → Routine Shared Result) : Routine Shared Result → Prop where
  | here : Occurs effect next (.step effect next)
  | later (before : Shared → Shared) (rest : Shared → Routine Shared Result) (shared : Shared)
      (occurs : Occurs effect next (rest shared)) : Occurs effect next (.step before rest)

-- An effect that a routine does not notice, and that does not disturb its own.
def Unnoticed (effect : Shared → Shared) (routine : Routine Shared Result) : Prop :=
  ∀ own next, Occurs own next routine → ∀ shared, effect (own shared) = own (effect shared) ∧ next (effect shared) = next shared

def Independent (one other : Routine Shared Result) : Prop :=
  (∀ effect next, Occurs effect next one → Unnoticed effect other) ∧
    ∀ effect next, Occurs effect next other → Unnoticed effect one

theorem turn_cases (world next : World Shared (Routine Shared Result)) (index : Nat) (taken : turn world index = some next) :
    ∃ front effect rest back, world.parties = front ++ Routine.step effect rest :: back ∧
      next = ⟨effect world.shared, front ++ rest world.shared :: back⟩ := by
  rcases world_step_cases world next _ taken with
    ⟨call, _, _⟩ | ⟨front, party, back, event, shared, after, _, parties, acted, rfl⟩
  · exact call.elim
  · cases party with
    | done result => simp [advance] at acted
    | step effect rest =>
        simp only [advance, Option.some.injEq, Prod.mk.injEq] at acted
        obtain ⟨rfl, rfl⟩ := acted
        exact ⟨front, effect, rest, back, parties, rfl⟩

theorem turn_at (shared : Shared) (front back : List (Routine Shared Result)) (effect : Shared → Shared)
    (rest : Shared → Routine Shared Result) :
    turn ⟨shared, front ++ .step effect rest :: back⟩ front.length =
      some ⟨effect shared, front ++ rest shared :: back⟩ := by
  simp [turn, World.step, advance]

theorem unnoticed_later (effect before : Shared → Shared) (rest : Shared → Routine Shared Result) (shared : Shared)
    (unnoticed : Unnoticed effect (.step before rest)) : Unnoticed effect (rest shared) :=
  fun own next occurs => unnoticed own next (.later before rest shared occurs)

theorem independent_symm (one other : Routine Shared Result) (apart : Independent one other) : Independent other one :=
  ⟨apart.2, apart.1⟩

theorem independent_later (before : Shared → Shared) (rest : Shared → Routine Shared Result) (shared : Shared)
    (other : Routine Shared Result) (apart : Independent (.step before rest) other) : Independent (rest shared) other := by
  constructor
  · intro effect next occurs
    exact apart.1 effect next (.later before rest shared occurs)
  · intro effect next occurs
    exact unnoticed_later effect before rest shared (apart.2 effect next occurs)

-- What a routine does not notice may as well happen after it as before it.
theorem run_unnoticed (effect : Shared → Shared) (routine : Routine Shared Result) (shared : Shared)
    (unnoticed : Unnoticed effect routine) :
    routine.run (effect shared) = (effect (routine.run shared).1, (routine.run shared).2) := by
  induction routine generalizing shared with
  | done result => rfl
  | step own next ih =>
      obtain ⟨commutes, same⟩ := unnoticed own next .here shared
      have later := ih shared (own shared) (unnoticed_later effect own next shared unnoticed)
      calc (next (effect shared)).run (own (effect shared))
          = (next shared).run (effect (own shared)) := by rw [same, commutes]
        _ = (effect ((next shared).run (own shared)).1, ((next shared).run (own shared)).2) := later

theorem in_order_unnoticed (effect : Shared → Shared) (routines : List (Routine Shared Result)) (shared : Shared)
    (unnoticed : ∀ routine ∈ routines, Unnoticed effect routine) :
    inOrder (effect shared) routines = (effect (inOrder shared routines).1, (inOrder shared routines).2) := by
  induction routines generalizing shared with
  | nil => rfl
  | cons routine rest ih =>
      have first := run_unnoticed effect routine shared (unnoticed routine (by simp))
      have later := ih (routine.run shared).1 fun other member => unnoticed other (by simp [member])
      simp only [inOrder, first, later]

theorem run_reads (read : Shared → Other) (routine : Routine Shared Result) (shared : Shared)
    (unread : ∀ effect next, Occurs effect next routine → ∀ shared, read (effect shared) = read shared) :
    read (routine.run shared).1 = read shared := by
  induction routine generalizing shared with
  | done result => rfl
  | step own next ih =>
      have later := ih shared (own shared) fun effect rest occurs => unread effect rest (.later own next shared occurs)
      exact later.trans (unread own next .here shared)

theorem in_order_reads (read : Shared → Other) (routines : List (Routine Shared Result)) (shared : Shared)
    (unread : ∀ routine ∈ routines, ∀ effect next, Occurs effect next routine →
      ∀ shared, read (effect shared) = read shared) : read (inOrder shared routines).1 = read shared := by
  induction routines generalizing shared with
  | nil => rfl
  | cons routine rest ih =>
      have first := run_reads read routine shared (unread routine (by simp))
      have later := ih (routine.run shared).1 fun other member => unread other (by simp [member])
      exact later.trans first

theorem in_order_append (first second : List (Routine Shared Result)) (shared : Shared) :
    inOrder shared (first ++ second) =
      ((inOrder (inOrder shared first).1 second).1,
        (inOrder shared first).2 ++ (inOrder (inOrder shared first).1 second).2) := by
  induction first generalizing shared with
  | nil => rfl
  | cons routine rest ih => simp only [List.cons_append, inOrder, ih]

-- The invariant of the proof: a step of any routine leaves the outcome of running
-- what is left of all, one after the other, as it was.
theorem in_order_step (shared : Shared) (front back : List (Routine Shared Result)) (effect : Shared → Shared)
    (rest : Shared → Routine Shared Result) (apart : ∀ routine ∈ front, Independent routine (.step effect rest)) :
    inOrder (effect shared) (front ++ rest shared :: back) = inOrder shared (front ++ .step effect rest :: back) := by
  have moved := in_order_unnoticed effect front shared fun routine member => (apart routine member).2 effect rest .here
  have chosen : rest (inOrder shared front).1 = rest shared := by
    apply in_order_reads rest front shared
    intro routine member own next occurs state
    exact ((apart routine member).1 own next occurs effect rest .here state).2
  rw [in_order_append, in_order_append, moved]
  simp only [inOrder, Routine.run, chosen]

theorem pairwise_step (front back : List (Routine Shared Result)) (effect : Shared → Shared)
    (rest : Shared → Routine Shared Result) (shared : Shared)
    (apart : (front ++ .step effect rest :: back).Pairwise Independent) :
    (front ++ rest shared :: back).Pairwise Independent := by
  obtain ⟨before, behind, across⟩ := List.pairwise_append.mp apart
  obtain ⟨here, after⟩ := List.pairwise_cons.mp behind
  refine List.pairwise_append.mpr ⟨before, List.pairwise_cons.mpr ⟨fun other member => ?_, after⟩, ?_⟩
  · exact independent_later effect rest shared other (here other member)
  · intro other member later found
    cases List.mem_cons.mp found with
    | inl same =>
        rw [same]
        exact independent_symm _ _
          (independent_later effect rest shared other (independent_symm _ _ (across other member _ (by simp))))
    | inr found => exact across other member later (by simp [found])

theorem turn_keeps_outcome (world next : World Shared (Routine Shared Result)) (index : Nat)
    (apart : world.parties.Pairwise Independent) (taken : turn world index = some next) :
    next.parties.Pairwise Independent ∧ inOrder next.shared next.parties = inOrder world.shared world.parties := by
  obtain ⟨front, effect, rest, back, parties, rfl⟩ := turn_cases world next index taken
  rw [parties] at apart ⊢
  constructor
  · exact pairwise_step front back effect rest world.shared apart
  · apply in_order_step
    intro routine member
    exact (List.pairwise_append.mp apart).2.2 routine member _ (by simp)

theorem stopped_done (world : World Shared (Routine Shared Result)) (stopped : Stopped world) :
    ∀ routine ∈ world.parties, ∃ result, routine = .done result := by
  intro routine member
  cases routine with
  | done result => exact ⟨result, rfl⟩
  | step effect rest =>
      obtain ⟨front, back, parties⟩ := List.append_of_mem member
      obtain ⟨shared, routines⟩ := world
      dsimp only at parties
      subst parties
      have taken := stopped front.length
      rw [turn_at] at taken
      cases taken

theorem in_order_done (routines : List (Routine Shared Result)) (shared : Shared)
    (ended : ∀ routine ∈ routines, ∃ result, routine = .done result) :
    inOrder shared routines = (shared, routines.filterMap Routine.result) := by
  induction routines with
  | nil => rfl
  | cons routine rest ih =>
      obtain ⟨result, rfl⟩ := ended routine (by simp)
      simp only [inOrder, Routine.run, ih fun other member => ended other (by simp [member]), List.filterMap_cons,
        Routine.result]

theorem interleaved_in_order (routines : List (Routine Shared Result)) (shared : Shared)
    (apart : routines.Pairwise Independent) (schedule : List Nat) (finish : World Shared (Routine Shared Result))
    (run : runFrom turn ⟨shared, routines⟩ schedule = some finish) (stopped : Stopped finish) :
    (finish.shared, results finish) = inOrder shared routines := by
  have kept := run_invariant
    (fun world : World Shared (Routine Shared Result) =>
      world.parties.Pairwise Independent ∧ inOrder world.shared world.parties = inOrder shared routines)
    (fun world index next inv taken => by
      obtain ⟨later, same⟩ := turn_keeps_outcome world next index inv.1 taken
      exact ⟨later, same.trans inv.2⟩)
    ⟨shared, routines⟩ finish schedule ⟨apart, rfl⟩ run
  rw [← kept.2, in_order_done finish.parties finish.shared (stopped_done finish stopped)]
  rfl

-- One after the other is one of the ways: the routines before the one that runs are done.
theorem routine_finishes (routine : Routine Shared Result) (shared : Shared) (front back : List (Routine Shared Result)) :
    ∃ schedule, runFrom turn ⟨shared, front ++ routine :: back⟩ schedule =
      some ⟨(routine.run shared).1, front ++ .done (routine.run shared).2 :: back⟩ := by
  induction routine generalizing shared with
  | done result => exact ⟨[], rfl⟩
  | step effect rest ih =>
      obtain ⟨schedule, run⟩ := ih shared (effect shared)
      refine ⟨front.length :: schedule, ?_⟩
      rw [runFrom, turn_at]
      exact run

theorem routines_finish (routines front : List (Routine Shared Result)) (shared : Shared)
    (ended : ∀ routine ∈ front, ∃ result, routine = .done result) :
    ∃ schedule finish, runFrom turn ⟨shared, front ++ routines⟩ schedule = some finish ∧
      ∀ routine ∈ finish.parties, ∃ result, routine = .done result := by
  induction routines generalizing front shared with
  | nil => exact ⟨[], _, rfl, by simpa using ended⟩
  | cons routine rest ih =>
      obtain ⟨first, run⟩ := routine_finishes routine shared front rest
      have before : ∀ other ∈ front ++ [.done (routine.run shared).2], ∃ result, other = Routine.done result := by
        intro other member
        cases List.mem_append.mp member with
        | inl old => exact ended other old
        | inr here => exact ⟨_, List.mem_singleton.mp here⟩
      obtain ⟨second, finish, later, ends⟩ := ih (front ++ [.done (routine.run shared).2]) (routine.run shared).1 before
      refine ⟨first ++ second, finish, ?_, ends⟩
      rw [run_append, run]
      simpa using later

theorem some_schedule_stops (routines : List (Routine Shared Result)) (shared : Shared) :
    ∃ schedule finish, runFrom turn ⟨shared, routines⟩ schedule = some finish ∧ Stopped finish := by
  obtain ⟨schedule, finish, run, ends⟩ := routines_finish routines [] shared (by simp)
  refine ⟨schedule, finish, run, fun index => ?_⟩
  cases taken : turn finish index with
  | none => rfl
  | some next =>
      obtain ⟨front, effect, rest, back, parties, _⟩ := turn_cases finish next index taken
      obtain ⟨result, same⟩ := ends (.step effect rest) (by rw [parties]; simp)
      cases same

-- Routines that write nothing are independent of one another.
def ReadOnly (routine : Routine Shared Result) : Prop := ∀ effect next, Occurs effect next routine → effect = id

theorem read_only_independent (one other : Routine Shared Result) (first : ReadOnly one) (second : ReadOnly other) :
    Independent one other := by
  constructor
  · intro effect next occurs own rest _ shared
    rw [first effect next occurs]
    exact ⟨rfl, rfl⟩
  · intro effect next occurs own rest _ shared
    rw [second effect next occurs]
    exact ⟨rfl, rfl⟩

theorem read_only_run (routine : Routine Shared Result) (shared : Shared) (readOnly : ReadOnly routine) :
    (routine.run shared).1 = shared := by
  apply run_reads id routine shared
  intro effect next occurs state
  rw [readOnly effect next occurs]
  rfl

theorem occurs_map (shown : Result → Other) (routine : Routine Shared Result) (effect : Shared → Shared)
    (next : Shared → Routine Shared Other) (occurs : Occurs effect next (routine.map shown)) :
    ∃ own, Occurs effect own routine ∧ next = fun shared => (own shared).map shown := by
  induction routine with
  | done result => cases occurs
  | step before rest ih =>
      cases occurs with
      | here => exact ⟨rest, .here, rfl⟩
      | later _ _ shared later =>
          obtain ⟨own, found, same⟩ := ih shared later
          exact ⟨own, .later before rest shared found, same⟩

theorem run_map (shown : Result → Other) (routine : Routine Shared Result) (shared : Shared) :
    (routine.map shown).run shared = ((routine.run shared).1, shown (routine.run shared).2) := by
  induction routine generalizing shared with
  | done result => rfl
  | step effect rest ih => exact ih shared (effect shared)

end Interleaving

end DataPilot.Base
