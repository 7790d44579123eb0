import DataPilot.Chat.TaskTable

set_option autoImplicit false

namespace DataPilot.Chat

open DataPilot.Base

-- Where the one call of shutdown that the lifespan makes stands.
inductive Shutdown where
  | uncalled
  | gathering (numbers : List Nat)
  | returned

-- The tasks and the call of shutdown that may wait for some of them.
structure StoppedTasks where
  table : TaskTable := {}
  shutdown : Shutdown := .uncalled

-- [task for task in self._tasks.values() if not task.done()]
def TaskTable.pending (table : TaskTable) : List Nat :=
  (table.tasks.map Prod.snd).filter fun number => !table.isDone number

def TaskTable.cancelEach (table : TaskTable) (numbers : List Nat) : TaskTable :=
  numbers.foldl (fun table number => table.change number StartedTask.cancel) table

def TaskTable.clear (table : TaskTable) : TaskTable := { table with tasks := [] }

inductive ShutdownLabel where
  | tasks (label : TaskLabel)
  | shutdown
  | gathered

-- gather is left when every task it was given is done; without such a task the call
-- returns before anything else can run.
def StoppedTasks.step (stopped : StoppedTasks) : ShutdownLabel → Option StoppedTasks
  | .tasks label =>
      match stopped.table.step label with
      | none => none
      | some table => some { stopped with table }
  | .shutdown =>
      match stopped.shutdown with
      | .uncalled =>
          let numbers := stopped.table.pending
          if numbers = [] then some { table := stopped.table.clear, shutdown := .returned }
          else some { table := stopped.table.cancelEach numbers, shutdown := .gathering numbers }
      | _ => none
  | .gathered =>
      match stopped.shutdown with
      | .gathering numbers =>
          if numbers.all stopped.table.isDone then some { table := stopped.table.clear, shutdown := .returned } else none
      | _ => none

def StoppedTasks.StartsFresh (stopped : StoppedTasks) : ShutdownLabel → Prop
  | .tasks label => stopped.table.StartsFresh label
  | _ => True

-- Every task of the first table is in the second, and neither revived nor taken back.
def TaskTable.Grows (table next : TaskTable) : Prop :=
  ∀ (number : Nat) (task : StartedTask), table.created[number]? = some task →
    ∃ later : StartedTask, next.created[number]? = some later ∧ later.messageId = task.messageId ∧
      (task.done = true → later.done = true) ∧ (task.cancelled = true → later.cancelled = true)

-- A task that no entry of the dictionary leads to, and its message to none.
structure TaskTable.Lost (table : TaskTable) (messageId : Uuid) (number : Nat) (cancelled : Bool) : Prop where
  task : ∃ task, table.created[number]? = some task ∧ task.messageId = messageId ∧ task.cancelled = cancelled
  message : getItem messageId table.tasks = none
  entries : ∀ other, getItem other table.tasks ≠ some number

section Tables

variable (table next : TaskTable)

theorem table_grows : table.Grows table := fun _ task created => ⟨task, created, rfl, id, id⟩

theorem grows_further (last : TaskTable) (first : table.Grows next) (second : next.Grows last) : table.Grows last := by
  intro number task created
  obtain ⟨later, found, named, ends, cancels⟩ := first number task created
  obtain ⟨latest, left, same, stays, keeps⟩ := second number later found
  exact ⟨latest, left, same.trans named, fun done => stays (ends done), fun gone => keeps (cancels gone)⟩

theorem grows_changed (number : Nat) (change : StartedTask → StartedTask)
    (named : ∀ task, (change task).messageId = task.messageId) (ends : ∀ task, task.done = true → (change task).done = true)
    (cancels : ∀ task, task.cancelled = true → (change task).cancelled = true) : table.Grows (table.change number change) := by
  intro index task created
  refine ⟨_, task_changed table number index change task created, ?_⟩
  by_cases here : number = index
  · rw [if_pos here]
    exact ⟨named task, ends task, cancels task⟩
  · rw [if_neg here]
    exact ⟨rfl, id, id⟩

theorem grows_step (label : TaskLabel) (taken : table.step label = some next) : table.Grows next := by
  cases label with
  | start messageId =>
      cases taken
      unfold TaskTable.start
      cases table.running messageId with
      | some _ => exact table_grows table
      | none =>
          intro number task created
          have inside := (List.getElem?_eq_some_iff.mp created).1
          exact ⟨task, (List.getElem?_append_left inside).trans created, rfl, id, id⟩
  | abort messageId =>
      cases taken
      unfold TaskTable.abort
      cases table.running messageId with
      | none => exact table_grows table
      | some number => exact grows_changed table number StartedTask.cancel (fun _ => rfl) (fun _ => id) fun _ _ => rfl
  | isRunning messageId =>
      cases taken
      exact table_grows table
  | completes number =>
      rw [step_completes table next number taken]
      exact grows_changed table number _ (fun _ => rfl) (fun _ _ => rfl) fun _ => id
  | callback number =>
      obtain ⟨task, _, _, rfl⟩ := step_callback table next number taken
      exact grows_changed (table.discard task.messageId) number _ (fun _ => rfl) (fun _ => id) fun _ => id

theorem running_entry (messageId : Uuid) (number : Nat) (running : table.running messageId = some number) :
    getItem messageId table.tasks = some number := by
  unfold TaskTable.running at running
  cases found : getItem messageId table.tasks with
  | none =>
      rw [found] at running
      cases running
  | some other =>
      rw [found] at running
      dsimp only at running
      by_cases done : table.isDone other = true
      · rw [if_pos done] at running
        cases running
      · rwa [if_neg done] at running

theorem lost_changed (messageId : Uuid) (number index : Nat) (cancelled : Bool) (change : StartedTask → StartedTask)
    (lost : table.Lost messageId number cancelled) (named : ∀ task, (change task).messageId = task.messageId)
    (spared : index = number → ∀ task, (change task).cancelled = task.cancelled) :
    (table.change index change).Lost messageId number cancelled := by
  obtain ⟨task, created, same, asked⟩ := lost.task
  refine ⟨⟨_, task_changed table index number change task created, ?_⟩, lost.message, lost.entries⟩
  by_cases here : index = number
  · rw [if_pos here]
    exact ⟨(named task).trans same, (spared here task).trans asked⟩
  · rw [if_neg here]
    exact ⟨same, asked⟩

theorem lost_discarded (messageId other : Uuid) (number : Nat) (cancelled : Bool)
    (lost : table.Lost messageId number cancelled) : (table.discard other).Lost messageId number cancelled := by
  refine ⟨lost.task, ?_, ?_⟩
  · rw [TaskTable.discard, get_pop_item, lost.message, ite_self]
  · intro key
    rw [TaskTable.discard, get_pop_item]
    by_cases here : other = key
    · rw [if_pos here]
      exact Option.some_ne_none number |>.symm
    · rw [if_neg here]
      exact lost.entries key

theorem lost_started (messageId other : Uuid) (number : Nat) (cancelled : Bool)
    (lost : table.Lost messageId number cancelled) (apart : other ≠ messageId) :
    (table.start other).1.Lost messageId number cancelled := by
  unfold TaskTable.start
  cases table.running other with
  | some _ => exact lost
  | none =>
      obtain ⟨task, created, known⟩ := lost.task
      have inside := (List.getElem?_eq_some_iff.mp created).1
      refine ⟨⟨task, (List.getElem?_append_left inside).trans created, known⟩, ?_, ?_⟩
      · dsimp only
        rw [get_set_item, if_neg apart]
        exact lost.message
      · intro key
        dsimp only
        rw [get_set_item]
        by_cases here : other = key
        · rw [if_pos here]
          intro same
          exact Nat.ne_of_gt inside (Option.some.inj same)
        · rw [if_neg here]
          exact lost.entries key

-- No call reaches the task again: its message has no entry, and the entries of the
-- others lead to other tasks.
theorem dropped_step (messageId : Uuid) (number : Nat) (cancelled : Bool) (label : TaskLabel)
    (lost : table.Lost messageId number cancelled) (fresh : table.StartsFresh label)
    (taken : table.step label = some next) : next.Lost messageId number cancelled := by
  cases label with
  | start other =>
      cases taken
      apply lost_started table messageId other number cancelled lost
      rintro rfl
      obtain ⟨task, created, same, _⟩ := lost.task
      exact fresh task (List.mem_of_getElem? created) same
  | abort other =>
      cases taken
      unfold TaskTable.abort
      cases running : table.running other with
      | none => exact lost
      | some index =>
          apply lost_changed table messageId number index cancelled StartedTask.cancel lost fun _ => rfl
          rintro rfl
          exact absurd (running_entry table other index running) (lost.entries other)
  | isRunning other =>
      cases taken
      exact lost
  | completes index =>
      rw [step_completes table next index taken]
      exact lost_changed table messageId number index cancelled _ lost (fun _ => rfl) fun _ _ => rfl
  | callback index =>
      obtain ⟨task, _, _, rfl⟩ := step_callback table next index taken
      have discarded := lost_discarded table messageId task.messageId number cancelled lost
      exact lost_changed (table.discard task.messageId) messageId number index cancelled _ discarded (fun _ => rfl) fun _ _ => rfl

theorem lost_not_running (messageId : Uuid) (number : Nat) (cancelled : Bool)
    (lost : table.Lost messageId number cancelled) : table.running messageId = none := by
  rw [TaskTable.running, lost.message]

theorem lost_cleared (messageId : Uuid) (number : Nat) (task : StartedTask) (created : table.created[number]? = some task)
    (named : task.messageId = messageId) : table.clear.Lost messageId number task.cancelled :=
  ⟨⟨task, created, named, rfl⟩, rfl, fun _ => Option.some_ne_none number |>.symm⟩

theorem pending_iff (number : Nat) :
    number ∈ table.pending ↔ (∃ messageId, (messageId, number) ∈ table.tasks) ∧ table.isDone number = false := by
  rw [TaskTable.pending, List.mem_filter, List.mem_map, Bool.not_eq_true']
  constructor
  · rintro ⟨⟨⟨messageId, _⟩, entered, rfl⟩, going⟩
    exact ⟨⟨messageId, entered⟩, going⟩
  · rintro ⟨⟨messageId, entered⟩, going⟩
    exact ⟨⟨(messageId, number), entered, rfl⟩, going⟩

theorem unfinished_going (messageId : Uuid) (number : Nat) (unfinished : table.Unfinished messageId number) :
    table.isDone number = false := by
  obtain ⟨task, created, _, going⟩ := unfinished
  rw [TaskTable.isDone, created]
  exact going

theorem going_unfinished (number : Nat) (going : table.isDone number = false) :
    ∃ messageId, table.Unfinished messageId number := by
  unfold TaskTable.isDone at going
  cases created : table.created[number]? with
  | none =>
      rw [created] at going
      cases going
  | some task =>
      rw [created] at going
      exact ⟨task.messageId, task, created, rfl, going⟩

theorem unfinished_pending (entered : table.Entered) (messageId : Uuid) (number : Nat)
    (unfinished : table.Unfinished messageId number) : number ∈ table.pending := by
  have found := entered.unfinished messageId number unfinished
  rw [pending_iff]
  exact ⟨⟨messageId, get_item_mem messageId number table.tasks found⟩, unfinished_going table messageId number unfinished⟩

theorem pending_unfinished (number : Nat) (pending : number ∈ table.pending) :
    ∃ messageId, table.Unfinished messageId number :=
  going_unfinished table number ((pending_iff table number).mp pending).2

theorem cancel_each_cancels (numbers : List Nat) (number : Nat) (task : StartedTask)
    (created : table.created[number]? = some task) :
    (table.cancelEach numbers).created[number]? =
      some { task with cancelled := task.cancelled || decide (number ∈ numbers) } := by
  unfold TaskTable.cancelEach
  induction numbers generalizing table task with
  | nil => simpa using created
  | cons index rest ih =>
      have changed := task_changed table index number StartedTask.cancel task created
      rw [List.foldl_cons, ih (table.change index StartedTask.cancel) _ changed]
      by_cases here : index = number
      · simp [here, StartedTask.cancel]
      · simp [here, Ne.symm here]

theorem cancel_each_grows (numbers : List Nat) : table.Grows (table.cancelEach numbers) := by
  intro number task created
  refine ⟨_, cancel_each_cancels table numbers number task created, rfl, id, ?_⟩
  intro asked
  rw [asked, Bool.true_or]

end Tables

section Runs

variable (stopped next : StoppedTasks)

theorem step_tasks (label : TaskLabel) (taken : stopped.step (.tasks label) = some next) :
    stopped.table.step label = some next.table ∧ next.shutdown = stopped.shutdown := by
  rw [StoppedTasks.step] at taken
  cases moved : stopped.table.step label with
  | none =>
      rw [moved] at taken
      cases taken
  | some table =>
      rw [moved] at taken
      cases taken
      exact ⟨rfl, rfl⟩

theorem step_gathered (taken : stopped.step .gathered = some next) :
    ∃ numbers, stopped.shutdown = .gathering numbers ∧ (∀ number ∈ numbers, stopped.table.isDone number = true) ∧
      next = { table := stopped.table.clear, shutdown := .returned } := by
  rw [StoppedTasks.step] at taken
  cases stands : stopped.shutdown with
  | uncalled =>
      rw [stands] at taken
      cases taken
  | returned =>
      rw [stands] at taken
      cases taken
  | gathering numbers =>
      rw [stands] at taken
      dsimp only at taken
      by_cases ended : numbers.all stopped.table.isDone = true
      · rw [if_pos ended] at taken
        exact ⟨numbers, rfl, List.all_eq_true.mp ended, (Option.some.inj taken).symm⟩
      · rw [if_neg ended] at taken
        cases taken

theorem step_shutdown (taken : stopped.step .shutdown = some next) :
    stopped.shutdown = .uncalled ∧
      ((stopped.table.pending = [] ∧ next = { table := stopped.table.clear, shutdown := .returned }) ∨
        next = { table := stopped.table.cancelEach stopped.table.pending, shutdown := .gathering stopped.table.pending }) := by
  rw [StoppedTasks.step] at taken
  cases stands : stopped.shutdown with
  | gathering numbers =>
      rw [stands] at taken
      cases taken
  | returned =>
      rw [stands] at taken
      cases taken
  | uncalled =>
      rw [stands] at taken
      dsimp only at taken
      refine ⟨rfl, ?_⟩
      by_cases idle : stopped.table.pending = []
      · rw [if_pos idle] at taken
        exact .inl ⟨idle, (Option.some.inj taken).symm⟩
      · rw [if_neg idle] at taken
        exact .inr (Option.some.inj taken).symm

theorem stopped_grows (label : ShutdownLabel) (taken : stopped.step label = some next) : stopped.table.Grows next.table := by
  cases label with
  | tasks label => exact grows_step stopped.table next.table label (step_tasks stopped next label taken).1
  | gathered =>
      obtain ⟨_, _, _, rfl⟩ := step_gathered stopped next taken
      exact table_grows stopped.table
  | shutdown =>
      obtain ⟨_, ⟨_, rfl⟩ | rfl⟩ := step_shutdown stopped next taken
      · exact table_grows stopped.table
      · exact cancel_each_grows stopped.table stopped.table.pending

-- The dictionary is in order as long as shutdown has not returned.
def StoppedTasks.Serving (stopped : StoppedTasks) : Prop :=
  stopped.shutdown ≠ .returned → stopped.table.Entered ∧ stopped.table.Apart

theorem cancel_each_serves (table : TaskTable) (numbers : List Nat) (entered : table.Entered) (apart : table.Apart) :
    (table.cancelEach numbers).Entered ∧ (table.cancelEach numbers).Apart := by
  unfold TaskTable.cancelEach
  induction numbers generalizing table with
  | nil => exact ⟨entered, apart⟩
  | cons number rest ih =>
      apply ih (table.change number StartedTask.cancel)
      · exact entered_changed table number StartedTask.cancel entered (fun _ => rfl) fun _ => id
      · exact apart_changed table number StartedTask.cancel apart fun _ => rfl

theorem serving_step (label : ShutdownLabel) (serving : stopped.Serving) (fresh : stopped.StartsFresh label)
    (taken : stopped.step label = some next) : next.Serving := by
  intro stays
  cases label with
  | tasks label =>
      obtain ⟨moved, stands⟩ := step_tasks stopped next label taken
      obtain ⟨entered, apart⟩ := serving (stands ▸ stays)
      have spares := apart_spares stopped.table next.table label entered apart moved
      exact ⟨entered_step stopped.table next.table label entered spares moved,
        apart_step stopped.table next.table label apart fresh moved⟩
  | gathered =>
      obtain ⟨_, _, _, rfl⟩ := step_gathered stopped next taken
      exact absurd rfl stays
  | shutdown =>
      obtain ⟨stands, ⟨_, rfl⟩ | rfl⟩ := step_shutdown stopped next taken
      · exact absurd rfl stays
      · have kept : stopped.table.Entered ∧ stopped.table.Apart := by
          apply serving
          rw [stands]
          exact Shutdown.noConfusion
        exact cancel_each_serves stopped.table stopped.table.pending kept.1 kept.2

-- What the call has done about the tasks that were unfinished when it began.
structure StoppedTasks.Waiting (stopped : StoppedTasks) (before : TaskTable) : Prop where
  grows : before.Grows stopped.table
  asked : ∀ messageId number, before.Unfinished messageId number → ∃ task : StartedTask,
    stopped.table.created[number]? = some task ∧ task.messageId = messageId ∧ task.cancelled = true
  stands : stopped.shutdown = .gathering before.pending ∨
    (stopped.shutdown = .returned ∧ ∀ messageId number, before.Unfinished messageId number → stopped.table.isDone number = true)

theorem grown_done (table later : TaskTable) (number : Nat) (task : StartedTask) (grows : table.Grows later)
    (created : table.created[number]? = some task) (done : table.isDone number = true) : later.isDone number = true := by
  obtain ⟨grown, found, _, ends, _⟩ := grows number task created
  rw [TaskTable.isDone, created] at done
  rw [TaskTable.isDone, found]
  exact ends done

theorem waiting_begun (before : StoppedTasks) (entered : before.table.Entered) (called : before.step .shutdown = some next) :
    next.Waiting before.table := by
  have grows := stopped_grows before next .shutdown called
  obtain ⟨_, ⟨idle, rfl⟩ | rfl⟩ := step_shutdown before next called
  · have settled : ∀ messageId number, ¬ before.table.Unfinished messageId number := by
      intro messageId number unfinished
      have member := unfinished_pending before.table entered messageId number unfinished
      rw [idle] at member
      cases member
    exact ⟨grows, fun messageId number unfinished => absurd unfinished (settled messageId number),
      .inr ⟨rfl, fun messageId number unfinished => absurd unfinished (settled messageId number)⟩⟩
  · refine ⟨grows, ?_, .inl rfl⟩
    intro messageId number unfinished
    have member := unfinished_pending before.table entered messageId number unfinished
    obtain ⟨task, created, named, _⟩ := unfinished
    refine ⟨_, cancel_each_cancels before.table before.table.pending number task created, named, ?_⟩
    simp [member]

theorem waiting_meanwhile (before : TaskTable) (entered : before.Entered) (label : ShutdownLabel)
    (waiting : stopped.Waiting before)
    (taken : stopped.step label = some next) : next.Waiting before := by
  have grows := stopped_grows stopped next label taken
  have further := grows_further before stopped.table next.table waiting.grows grows
  have asked : ∀ messageId number, before.Unfinished messageId number → ∃ task : StartedTask,
      next.table.created[number]? = some task ∧ task.messageId = messageId ∧ task.cancelled = true := by
    intro messageId number unfinished
    obtain ⟨task, created, named, gone⟩ := waiting.asked messageId number unfinished
    obtain ⟨later, found, same, _, keeps⟩ := grows number task created
    exact ⟨later, found, same.trans named, keeps gone⟩
  refine ⟨further, asked, ?_⟩
  cases label with
  | tasks label =>
      rw [(step_tasks stopped next label taken).2]
      obtain gathering | ⟨returned, ended⟩ := waiting.stands
      · exact .inl gathering
      · refine .inr ⟨returned, ?_⟩
        intro messageId number unfinished
        obtain ⟨task, created, _, _⟩ := waiting.asked messageId number unfinished
        exact grown_done stopped.table next.table number task grows created (ended messageId number unfinished)
  | shutdown =>
      obtain ⟨uncalled, _⟩ := step_shutdown stopped next taken
      obtain stands | ⟨stands, _⟩ := waiting.stands
      · rw [uncalled] at stands
        cases stands
      · rw [uncalled] at stands
        cases stands
  | gathered =>
      obtain ⟨numbers, stands, ended, rfl⟩ := step_gathered stopped next taken
      obtain gathering | ⟨returned, _⟩ := waiting.stands
      · rw [gathering] at stands
        cases stands
        refine .inr ⟨rfl, ?_⟩
        intro messageId number unfinished
        exact ended number (unfinished_pending before entered messageId number unfinished)
      · rw [returned] at stands
        cases stands

theorem waiting_gathers (before : TaskTable) (entered : before.Entered) (waiting : stopped.Waiting before)
    (stays : stopped.shutdown ≠ .returned) :
    (stopped.step .gathered).isSome = true ↔
      ∀ messageId number, before.Unfinished messageId number → stopped.table.isDone number = true := by
  obtain gathering | ⟨returned, _⟩ := waiting.stands
  · rw [StoppedTasks.step, gathering]
    dsimp only
    have all : before.pending.all stopped.table.isDone = true ↔
        ∀ messageId number, before.Unfinished messageId number → stopped.table.isDone number = true := by
      rw [List.all_eq_true]
      constructor
      · intro ended messageId number unfinished
        exact ended number (unfinished_pending before entered messageId number unfinished)
      · intro ended number member
        obtain ⟨messageId, unfinished⟩ := pending_unfinished before number member
        exact ended messageId number unfinished
    rw [← all]
    by_cases ended : before.pending.all stopped.table.isDone = true
    · rw [if_pos ended]
      exact iff_of_true rfl ended
    · rw [if_neg ended]
      exact iff_of_false Bool.noConfusion ended
  · exact absurd returned stays

theorem left_started_since (before : TaskTable) (waiting : stopped.Waiting before) (returned : stopped.shutdown = .returned)
    (number : Nat) (task : StartedTask) (created : stopped.table.created[number]? = some task) (going : task.done = false) :
    before.created.length ≤ number := by
  apply Nat.le_of_not_lt
  intro inside
  have old : before.created[number]? = some before.created[number] := List.getElem?_eq_getElem inside
  have later : stopped.table.isDone number = true := by
    cases done : before.created[number].done with
    | true => exact grown_done before stopped.table number _ waiting.grows old (by rw [TaskTable.isDone, old]; exact done)
    | false =>
        obtain gathering | ⟨_, ended⟩ := waiting.stands
        · rw [returned] at gathering
          cases gathering
        · exact ended _ number ⟨before.created[number], old, rfl, done⟩
  rw [TaskTable.isDone, created] at later
  exact Bool.noConfusion (later.symm.trans going)

theorem lost_stopped_step (messageId : Uuid) (number : Nat) (cancelled : Bool) (label : ShutdownLabel)
    (lost : stopped.shutdown = .returned ∧ stopped.table.Lost messageId number cancelled) (fresh : stopped.StartsFresh label)
    (taken : stopped.step label = some next) : next.shutdown = .returned ∧ next.table.Lost messageId number cancelled := by
  cases label with
  | tasks label =>
      obtain ⟨moved, stands⟩ := step_tasks stopped next label taken
      exact ⟨stands.trans lost.1, dropped_step stopped.table next.table messageId number cancelled label lost.2 fresh moved⟩
  | shutdown =>
      obtain ⟨uncalled, _⟩ := step_shutdown stopped next taken
      rw [lost.1] at uncalled
      cases uncalled
  | gathered =>
      obtain ⟨_, gathering, _⟩ := step_gathered stopped next taken
      rw [lost.1] at gathering
      cases gathering

end Runs

theorem shutdown_settles (front middle : List ShutdownLabel) (before begun paused : StoppedTasks)
    (fresh : StepsMeet StoppedTasks.step StoppedTasks.StartsFresh {} front)
    (served : runFrom StoppedTasks.step {} front = some before) (called : before.step .shutdown = some begun)
    (waited : runFrom StoppedTasks.step begun middle = some paused) :
    (∀ messageId number, before.table.Unfinished messageId number → ∃ task : StartedTask,
      paused.table.created[number]? = some task ∧ task.messageId = messageId ∧ task.cancelled = true) ∧
    (paused.shutdown ≠ .returned → ((paused.step .gathered).isSome = true ↔
      ∀ messageId number, before.table.Unfinished messageId number → paused.table.isDone number = true)) ∧
    (paused.shutdown = .returned → ∀ number task, paused.table.created[number]? = some task → task.done = false →
      before.table.created.length ≤ number) ∧
    ∀ after rest final, paused.step .gathered = some after → StepsMeet StoppedTasks.step StoppedTasks.StartsFresh after rest →
      runFrom StoppedTasks.step after rest = some final →
      ∀ (number : Nat) (task : StartedTask), after.table.created[number]? = some task → task.done = false →
        final.table.isRunning task.messageId = false ∧ final.table.abort task.messageId = (final.table, false) ∧
        ∃ later : StartedTask, final.table.created[number]? = some later ∧ later.messageId = task.messageId ∧
          later.cancelled = task.cancelled := by
  have serving : before.Serving := by
    apply run_invariant_meeting StoppedTasks.StartsFresh StoppedTasks.Serving _ {} before front _ fresh served
    · exact fun stopped label next => serving_step stopped next label
    · intro _
      refine ⟨entered_empty, ?_⟩
      intro first second one other created
      cases created
  have entered : before.table.Entered := by
    have stands := (step_shutdown before begun called).1
    apply (serving _).1
    rw [stands]
    exact Shutdown.noConfusion
  have waiting : paused.Waiting before.table := by
    apply run_invariant (fun stopped => stopped.Waiting before.table) _ begun paused middle _ waited
    · exact fun stopped label next => waiting_meanwhile stopped next before.table entered label
    · exact waiting_begun begun before entered called
  refine ⟨waiting.asked, waiting_gathers paused before.table entered waiting,
    fun returned => left_started_since paused before.table waiting returned, ?_⟩
  intro after rest final gathered meets run number task created going
  obtain ⟨_, _, _, rfl⟩ := step_gathered paused after gathered
  have kept : final.shutdown = .returned ∧ final.table.Lost task.messageId number task.cancelled := by
    apply run_invariant_meeting StoppedTasks.StartsFresh _ _ _ final rest _ meets run
    · exact fun stopped label next => lost_stopped_step stopped next task.messageId number task.cancelled label
    · exact ⟨rfl, lost_cleared paused.table task.messageId number task created rfl⟩
  have idle := lost_not_running final.table task.messageId number task.cancelled kept.2
  obtain ⟨later, found, named, same⟩ := kept.2.task
  refine ⟨?_, ?_, later, found, named, same⟩
  · rw [TaskTable.isRunning, idle]
    rfl
  · rw [TaskTable.abort, idle]

def waitingShutdown : StoppedTasks where
  table :=
    { created := [{ messageId := 1, done := true }, { messageId := 2, done := true, cancelled := true }, { messageId := 3 }]
      tasks := [(1, 0), (2, 1), (3, 2)] }
  shutdown := .gathering [1]

-- The first task ends before the call and the third begins while it waits.
theorem shutdown_settles_waiting :
    ((waitingShutdown.step .gathered).isSome = true ↔
      ∀ messageId number, TaskTable.Unfinished
          { created := [{ messageId := 1, done := true }, { messageId := 2 }], tasks := [(1, 0), (2, 1)] } messageId number →
        waitingShutdown.table.isDone number = true) ∧
      waitingShutdown.table.clear.isRunning 3 = false := by
  obtain ⟨_, gathers, _, lost⟩ := shutdown_settles [.tasks (.start 1), .tasks (.start 2), .tasks (.completes 0)]
    [.tasks (.start 3), .tasks (.completes 1)] _ _ waitingShutdown (by simp [StepsMeet, StoppedTasks.StartsFresh,
      TaskTable.StartsFresh, StoppedTasks.step, TaskTable.step, TaskTable.start, TaskTable.running, getItem]) rfl rfl rfl
  refine ⟨gathers Shutdown.noConfusion, ?_⟩
  exact (lost _ [] _ rfl trivial rfl 2 { messageId := 3 } rfl rfl).1

end DataPilot.Chat
