import DataPilot.Base.Assignments
import DataPilot.Chat.Ownership

set_option autoImplicit false

namespace DataPilot.Chat

open DataPilot.Base

-- A task that start has created, whether its done callback has run, and whether
-- cancel has been called on it.
structure StartedTask where
  messageId : Uuid
  done : Bool := false
  discarded : Bool := false
  cancelled : Bool := false

-- ChatTaskManager with every task it has created. A task is known by its number;
-- the dictionary maps a message to the number of a task.
structure TaskTable where
  created : List StartedTask := []
  tasks : List (Uuid × Nat) := []

def TaskTable.isDone (table : TaskTable) (number : Nat) : Bool :=
  match table.created[number]? with
  | none => true
  | some task => task.done

-- The task of a message that is in the dictionary and not done.
def TaskTable.running (table : TaskTable) (messageId : Uuid) : Option Nat :=
  match getItem messageId table.tasks with
  | none => none
  | some number => if table.isDone number then none else some number

def TaskTable.change (table : TaskTable) (number : Nat) (change : StartedTask → StartedTask) : TaskTable :=
  { table with created := table.created.modify number change }

def StartedTask.cancel (task : StartedTask) : StartedTask := { task with cancelled := true }

def TaskTable.start (table : TaskTable) (messageId : Uuid) : TaskTable × Bool :=
  match table.running messageId with
  | some _ => (table, false)
  | none =>
      ({ created := table.created ++ [{ messageId }]
         tasks := setItem messageId table.created.length table.tasks }, true)

def TaskTable.abort (table : TaskTable) (messageId : Uuid) : TaskTable × Bool :=
  match table.running messageId with
  | none => (table, false)
  | some number => (table.change number StartedTask.cancel, true)

def TaskTable.isRunning (table : TaskTable) (messageId : Uuid) : Bool := (table.running messageId).isSome

-- _discard pops the entry of the message, whichever task stands there.
def TaskTable.discard (table : TaskTable) (messageId : Uuid) : TaskTable :=
  { table with tasks := popItem messageId table.tasks }

-- A call of a method, the completion of a task, or the run of its done callback,
-- which the event loop schedules when the task completes.
inductive TaskLabel where
  | start (messageId : Uuid)
  | abort (messageId : Uuid)
  | isRunning (messageId : Uuid)
  | completes (number : Nat)
  | callback (number : Nat)

def TaskTable.step (table : TaskTable) : TaskLabel → Option TaskTable
  | .start messageId => some (table.start messageId).1
  | .abort messageId => some (table.abort messageId).1
  | .isRunning _ => some table
  | .completes number =>
      match table.created[number]? with
      | none => none
      | some task => if task.done then none else some (table.change number fun task => { task with done := true })
  | .callback number =>
      match table.created[number]? with
      | none => none
      | some task =>
          if task.done && !task.discarded then
            some ((table.discard task.messageId).change number fun task => { task with discarded := true })
          else none

def TaskTable.Unfinished (table : TaskTable) (messageId : Uuid) (number : Nat) : Prop :=
  ∃ task, table.created[number]? = some task ∧ task.messageId = messageId ∧ task.done = false

-- What the methods are to say of the tasks.
structure TaskTable.Faithful (table : TaskTable) : Prop where
  running : ∀ messageId, table.isRunning messageId = true ↔ ∃ number, table.Unfinished messageId number
  single : ∀ messageId first second, table.Unfinished messageId first → table.Unfinished messageId second → first = second
  reached : ∀ messageId number, table.Unfinished messageId number →
    table.abort messageId = (table.change number StartedTask.cancel, true)

-- The dictionary has every task that has not finished under its message.
structure TaskTable.Entered (table : TaskTable) : Prop where
  unfinished : ∀ messageId number, table.Unfinished messageId number → getItem messageId table.tasks = some number
  known : ∀ messageId number, getItem messageId table.tasks = some number →
    ∃ task, table.created[number]? = some task ∧ task.messageId = messageId

-- A done callback does not remove the entry of a task that has not finished.
def TaskTable.Spares (table : TaskTable) : TaskLabel → Prop
  | .callback number => ∀ task other, table.created[number]? = some task →
      getItem task.messageId table.tasks = some other → table.isDone other = true
  | _ => True

section Steps

variable (table next : TaskTable)

theorem running_iff (entered : table.Entered) (messageId : Uuid) (number : Nat) :
    table.running messageId = some number ↔ table.Unfinished messageId number := by
  constructor
  · intro running
    unfold TaskTable.running at running
    cases found : getItem messageId table.tasks with
    | none =>
        rw [found] at running
        cases running
    | some other =>
        obtain ⟨task, created, named⟩ := entered.known messageId other found
        rw [found] at running
        dsimp only at running
        by_cases done : table.isDone other = true
        · rw [if_pos done] at running
          cases running
        · rw [if_neg done] at running
          cases running
          rw [TaskTable.isDone, created] at done
          exact ⟨task, created, named, Bool.eq_false_of_not_eq_true done⟩
  · intro unfinished
    have found := entered.unfinished messageId number unfinished
    obtain ⟨task, created, _, going⟩ := unfinished
    rw [TaskTable.running, found]
    dsimp only
    rw [TaskTable.isDone, created]
    exact if_neg (Bool.eq_false_iff.mp going)

theorem entered_faithful (entered : table.Entered) : table.Faithful := by
  refine ⟨fun messageId => ?_, fun messageId first second one other => ?_, fun messageId number unfinished => ?_⟩
  · rw [TaskTable.isRunning, Option.isSome_iff_exists]
    exact exists_congr fun number => running_iff table entered messageId number
  · have same := (entered.unfinished messageId first one).symm.trans (entered.unfinished messageId second other)
    exact Option.some.inj same
  · rw [TaskTable.abort, (running_iff table entered messageId number).mpr unfinished]

theorem changed_task (number index : Nat) (change : StartedTask → StartedTask) (task : StartedTask)
    (found : (table.change number change).created[index]? = some task) :
    ∃ old, table.created[index]? = some old ∧ task = if number = index then change old else old := by
  rw [TaskTable.change, List.getElem?_modify] at found
  cases created : table.created[index]? with
  | none =>
      rw [created] at found
      cases found
  | some old =>
      rw [created] at found
      exact ⟨old, rfl, (Option.some.inj found).symm⟩

theorem task_changed (number index : Nat) (change : StartedTask → StartedTask) (old : StartedTask)
    (created : table.created[index]? = some old) :
    (table.change number change).created[index]? = some (if number = index then change old else old) := by
  rw [TaskTable.change, List.getElem?_modify, created]
  rfl

theorem entered_changed (number : Nat) (change : StartedTask → StartedTask) (entered : table.Entered)
    (named : ∀ task, (change task).messageId = task.messageId)
    (ends : ∀ task, (change task).done = false → task.done = false) : (table.change number change).Entered := by
  refine ⟨fun messageId index unfinished => ?_, fun messageId index found => ?_⟩
  · obtain ⟨task, found, same, going⟩ := unfinished
    obtain ⟨old, created, rfl⟩ := changed_task table number index change task found
    apply entered.unfinished messageId index
    by_cases here : number = index
    · rw [if_pos here] at same going
      exact ⟨old, created, (named old).symm.trans same, ends old going⟩
    · rw [if_neg here] at same going
      exact ⟨old, created, same, going⟩
  · obtain ⟨old, created, same⟩ := entered.known messageId index found
    refine ⟨_, task_changed table number index change old created, ?_⟩
    by_cases here : number = index
    · rw [if_pos here, named old, same]
    · rw [if_neg here, same]

theorem started_task (messageId : Uuid) (index : Nat) (task : StartedTask)
    (found : (table.created ++ [({ messageId } : StartedTask)])[index]? = some task) :
    table.created[index]? = some task ∨ (index = table.created.length ∧ task = { messageId }) := by
  by_cases inside : index < table.created.length
  · rw [List.getElem?_append_left inside] at found
    exact .inl found
  · rw [List.getElem?_append_right (Nat.le_of_not_lt inside), List.getElem?_singleton] at found
    by_cases last : index - table.created.length = 0
    · rw [if_pos last] at found
      exact .inr ⟨by omega, (Option.some.inj found).symm⟩
    · rw [if_neg last] at found
      cases found

theorem entered_started (messageId : Uuid) (entered : table.Entered) : (table.start messageId).1.Entered := by
  unfold TaskTable.start
  cases idle : table.running messageId with
  | some _ => exact entered
  | none =>
      refine ⟨fun other index unfinished => ?_, fun other index found => ?_⟩
      · obtain ⟨task, found, named, going⟩ := unfinished
        dsimp only
        rw [get_set_item]
        rcases started_task table messageId index task found with old | ⟨rfl, rfl⟩
        · have unfinished : table.Unfinished other index := ⟨task, old, named, going⟩
          have apart : messageId ≠ other := by
            rintro rfl
            rw [(running_iff table entered messageId index).mpr unfinished] at idle
            cases idle
          rw [if_neg apart]
          exact entered.unfinished other index unfinished
        · exact if_pos named
      · dsimp only at found
        rw [get_set_item] at found
        by_cases here : messageId = other
        · rw [if_pos here] at found
          cases found
          exact ⟨{ messageId }, List.getElem?_concat_length, here⟩
        · rw [if_neg here] at found
          obtain ⟨task, created, named⟩ := entered.known other index found
          have inside := (List.getElem?_eq_some_iff.mp created).1
          exact ⟨task, (List.getElem?_append_left inside).trans created, named⟩

theorem entered_discarded (messageId : Uuid) (entered : table.Entered)
    (spared : ∀ other, getItem messageId table.tasks = some other → table.isDone other = true) :
    (table.discard messageId).Entered := by
  refine ⟨fun other index unfinished => ?_, fun other index found => ?_⟩
  · have found := entered.unfinished other index unfinished
    have apart : messageId ≠ other := by
      rintro rfl
      obtain ⟨task, created, _, going⟩ := unfinished
      have started : table.created[index]? = some task := created
      have done := spared index found
      rw [TaskTable.isDone, started] at done
      exact Bool.noConfusion (done.symm.trans going)
    rw [TaskTable.discard, get_pop_item, if_neg apart]
    exact found
  · rw [TaskTable.discard, get_pop_item] at found
    by_cases here : messageId = other
    · rw [if_pos here] at found
      cases found
    · rw [if_neg here] at found
      exact entered.known other index found

theorem step_callback (number : Nat) (taken : table.step (.callback number) = some next) :
    ∃ task, table.created[number]? = some task ∧ task.done = true ∧
      next = (table.discard task.messageId).change number fun task => { task with discarded := true } := by
  rw [TaskTable.step] at taken
  cases created : table.created[number]? with
  | none =>
      rw [created] at taken
      cases taken
  | some task =>
      rw [created] at taken
      dsimp only at taken
      by_cases due : (task.done && !task.discarded) = true
      · rw [if_pos due] at taken
        exact ⟨task, rfl, (Bool.and_eq_true_iff.mp due).1, (Option.some.inj taken).symm⟩
      · rw [if_neg due] at taken
        cases taken

theorem step_completes (number : Nat) (taken : table.step (.completes number) = some next) :
    next = table.change number fun task => { task with done := true } := by
  rw [TaskTable.step] at taken
  cases created : table.created[number]? with
  | none =>
      rw [created] at taken
      cases taken
  | some task =>
      rw [created] at taken
      dsimp only at taken
      by_cases done : task.done = true
      · rw [if_pos done] at taken
        cases taken
      · rw [if_neg done] at taken
        exact (Option.some.inj taken).symm

theorem entered_step (label : TaskLabel) (entered : table.Entered) (spares : table.Spares label)
    (taken : table.step label = some next) : next.Entered := by
  cases label with
  | start messageId =>
      cases taken
      exact entered_started table messageId entered
  | abort messageId =>
      cases taken
      unfold TaskTable.abort
      cases table.running messageId with
      | none => exact entered
      | some number => exact entered_changed table number StartedTask.cancel entered (fun _ => rfl) fun _ => id
  | isRunning messageId =>
      cases taken
      exact entered
  | completes number =>
      rw [step_completes table next number taken]
      exact entered_changed table number _ entered (fun _ => rfl) fun _ going => Bool.noConfusion going
  | callback number =>
      obtain ⟨task, created, _, rfl⟩ := step_callback table next number taken
      have discarded : (table.discard task.messageId).Entered :=
        entered_discarded table task.messageId entered fun other found => spares task other created found
      exact entered_changed (table.discard task.messageId) number _ discarded (fun _ => rfl) fun _ => id

theorem spoiled_step (label : TaskLabel) (entered : table.Entered) (spoils : ¬ table.Spares label)
    (taken : table.step label = some next) : ¬ next.Faithful := by
  cases label with
  | callback number =>
      obtain ⟨done, created, ended, rfl⟩ := step_callback table next number taken
      rw [TaskTable.Spares] at spoils
      push Not at spoils
      obtain ⟨task, other, same, found, going⟩ := spoils
      cases created.symm.trans same
      obtain ⟨unfinished, started, named⟩ := entered.known done.messageId other found
      rw [TaskTable.isDone, started] at going
      have apart : number ≠ other := by
        rintro rfl
        cases created.symm.trans started
        exact going ended
      intro faithful
      have left : ((table.discard done.messageId).change number fun task => { task with discarded := true }).Unfinished
          done.messageId other := by
        refine ⟨unfinished, ?_, named, Bool.eq_false_of_not_eq_true going⟩
        rw [task_changed (table.discard done.messageId) number other _ unfinished started, if_neg apart]
      have running := (faithful.running done.messageId).mpr ⟨other, left⟩
      simp [TaskTable.isRunning, TaskTable.running, TaskTable.change, TaskTable.discard, get_pop_item] at running
  | _ => exact absurd trivial spoils

end Steps

-- A message is started once only, as the submissions of the chat do.
def TaskTable.StartsFresh (table : TaskTable) : TaskLabel → Prop
  | .start messageId => ∀ task ∈ table.created, task.messageId ≠ messageId
  | _ => True

def TaskTable.Apart (table : TaskTable) : Prop :=
  ∀ (first second : Nat) (one other : StartedTask), table.created[first]? = some one →
    table.created[second]? = some other → one.messageId = other.messageId → first = second

section Once

variable (table next : TaskTable)

theorem apart_spares (label : TaskLabel) (entered : table.Entered) (apart : table.Apart)
    (taken : table.step label = some next) : table.Spares label := by
  cases label with
  | callback number =>
      obtain ⟨task, created, done, _⟩ := step_callback table next number taken
      intro started other same found
      cases created.symm.trans same
      obtain ⟨entry, there, named⟩ := entered.known task.messageId other found
      have here := apart number other task entry created there named.symm
      rw [TaskTable.isDone, ← here, created]
      exact done
  | _ => trivial

theorem apart_changed (number : Nat) (change : StartedTask → StartedTask) (apart : table.Apart)
    (named : ∀ task, (change task).messageId = task.messageId) : (table.change number change).Apart := by
  intro first second one other created there same
  obtain ⟨before, old, rfl⟩ := changed_task table number first change one created
  obtain ⟨past, older, rfl⟩ := changed_task table number second change other there
  apply apart first second before past old older
  have kept : ∀ index task, (if number = index then change task else task).messageId = task.messageId := by
    intro index task
    by_cases here : number = index
    · rw [if_pos here, named]
    · rw [if_neg here]
  rw [kept, kept] at same
  exact same

theorem apart_started (messageId : Uuid) (apart : table.Apart) (fresh : ∀ task ∈ table.created, task.messageId ≠ messageId) :
    (table.start messageId).1.Apart := by
  unfold TaskTable.start
  cases table.running messageId with
  | some _ => exact apart
  | none =>
      dsimp only
      intro first second one other created there same
      rcases started_task table messageId first one created with old | ⟨rfl, rfl⟩
      · rcases started_task table messageId second other there with older | ⟨rfl, rfl⟩
        · exact apart first second one other old older same
        · exact absurd same (fresh one (List.mem_of_getElem? old))
      · rcases started_task table messageId second other there with older | ⟨rfl, rfl⟩
        · exact absurd same.symm (fresh other (List.mem_of_getElem? older))
        · rfl

theorem apart_step (label : TaskLabel) (apart : table.Apart) (fresh : table.StartsFresh label)
    (taken : table.step label = some next) : next.Apart := by
  cases label with
  | start messageId =>
      cases taken
      exact apart_started table messageId apart fresh
  | abort messageId =>
      cases taken
      unfold TaskTable.abort
      cases table.running messageId with
      | none => exact apart
      | some number => exact apart_changed table number StartedTask.cancel apart fun _ => rfl
  | isRunning messageId =>
      cases taken
      exact apart
  | completes number =>
      rw [step_completes table next number taken]
      exact apart_changed table number _ apart fun _ => rfl
  | callback number =>
      obtain ⟨task, _, _, rfl⟩ := step_callback table next number taken
      exact apart_changed (table.discard task.messageId) number _ apart fun _ => rfl

end Once

theorem entered_empty : ({} : TaskTable).Entered := by
  refine ⟨?_, ?_⟩
  · rintro messageId number ⟨task, created, _⟩
    cases created
  · intro messageId number found
    cases found

theorem task_table_faithful_iff (labels : List TaskLabel) (final : TaskTable)
    (run : runFrom TaskTable.step {} labels = some final) :
    StepsMeet TaskTable.step TaskTable.Spares {} labels ↔
      ∀ front middle, front <+: labels → runFrom TaskTable.step {} front = some middle → middle.Faithful :=
  states_good_iff TaskTable.Spares TaskTable.Entered TaskTable.Faithful entered_faithful
    (fun table label next => entered_step table next label) (fun table label next => spoiled_step table next label)
    {} final labels entered_empty run

-- A second task of a message that is started before the first one's callback.
theorem task_table_not_always_faithful :
    ¬ ∀ (labels : List TaskLabel) (table : TaskTable), runFrom TaskTable.step {} labels = some table → table.Faithful := by
  intro always
  let labels : List TaskLabel := [.start 7, .completes 0, .start 7, .callback 0]
  let first : StartedTask := { messageId := 7, done := true, discarded := true }
  have faithful := always labels { created := [first, { messageId := 7 }], tasks := [] } rfl
  have unfinished : TaskTable.Unfinished { created := [first, { messageId := 7 }], tasks := [] } 7 1 := ⟨_, rfl, rfl, rfl⟩
  have running := (faithful.running 7).mpr ⟨1, unfinished⟩
  cases running

theorem task_table_faithful_once :
    runFrom TaskTable.step {} [.start 7, .completes 0, .callback 0] =
        some { created := [{ messageId := 7, done := true, discarded := true }], tasks := [] } ∧
      (StepsMeet TaskTable.step TaskTable.Spares {} [.start 7, .completes 0, .callback 0] ↔
        ∀ front middle, front <+: [.start 7, .completes 0, .callback 0] →
          runFrom TaskTable.step {} front = some middle → middle.Faithful) :=
  ⟨rfl, task_table_faithful_iff [.start 7, .completes 0, .callback 0] _ rfl⟩

-- Where every message is started once only, the dictionary without the tasks that
-- are done is the task manager of the whole system.
theorem once_faithful (labels : List TaskLabel) (final : TaskTable)
    (fresh : StepsMeet TaskTable.step TaskTable.StartsFresh {} labels)
    (run : runFrom TaskTable.step {} labels = some final) : final.Entered ∧ final.Apart := by
  apply run_invariant_meeting TaskTable.StartsFresh (fun table => table.Entered ∧ table.Apart) _ {} final labels _ fresh run
  · intro table label next kept fresh taken
    have spares := apart_spares table next label kept.1 kept.2 taken
    exact ⟨entered_step table next label kept.1 spares taken, apart_step table next label kept.2 fresh taken⟩
  · refine ⟨entered_empty, ?_⟩
    intro first second one other created
    cases created

def Represents (table : TaskTable) (manager : ChatTaskManager) : Prop :=
  ∀ messageId, manager.isRunning messageId = table.isRunning messageId

-- What a step of the table is to the task manager of the system.
def ChatTaskManager.follow (manager : ChatTaskManager) (table : TaskTable) (state : WorkerState) :
    TaskLabel → ChatTaskManager
  | .start messageId => (manager.start messageId state).1
  | .abort messageId => (manager.abort messageId).1
  | .isRunning _ => manager
  | .completes number =>
      match table.created[number]? with
      | none => manager
      | some task => manager.remove task.messageId
  | .callback _ => manager

section Represents

variable (table next : TaskTable) (manager : ChatTaskManager) (state : WorkerState)

theorem running_unfinished (entered : table.Entered) (represents : Represents table manager) (messageId : Uuid) :
    messageId ∈ manager.ids ↔ ∃ number, table.Unfinished messageId number := by
  rw [← (entered_faithful table entered).running, ← represents messageId, ChatTaskManager.isRunning, decide_eq_true_iff]

theorem start_answers (represents : Represents table manager) (messageId : Uuid) :
    (manager.start messageId state).2 = (table.start messageId).2 := by
  have same := represents messageId
  rw [ChatTaskManager.isRunning, TaskTable.isRunning] at same
  rw [ChatTaskManager.start, TaskTable.start]
  cases running : table.running messageId with
  | none =>
      rw [running] at same
      rw [dif_neg (of_decide_eq_false same)]
  | some number =>
      rw [running] at same
      rw [dif_pos (of_decide_eq_true same)]

theorem abort_answers (represents : Represents table manager) (messageId : Uuid) :
    (manager.abort messageId).2 = (table.abort messageId).2 := by
  have same := represents messageId
  rw [TaskTable.isRunning] at same
  rw [ChatTaskManager.abort, TaskTable.abort, same]
  cases table.running messageId with
  | none => rfl
  | some number => rfl

theorem represents_unfinished (entered : next.Entered)
    (same : ∀ messageId, messageId ∈ manager.ids ↔ ∃ number, next.Unfinished messageId number) :
    Represents next manager := by
  intro messageId
  rw [ChatTaskManager.isRunning, Bool.eq_iff_iff, decide_eq_true_iff, (entered_faithful next entered).running]
  exact same messageId

theorem represents_start (entered : table.Entered) (represents : Represents table manager) (messageId : Uuid) :
    Represents (table.start messageId).1 (manager.start messageId state).1 := by
  apply represents_unfinished _ _ (entered_started table messageId entered)
  intro other
  have before := running_unfinished table manager entered represents
  by_cases running : messageId ∈ manager.ids
  · obtain ⟨number, unfinished⟩ := (before messageId).mp running
    rw [ChatTaskManager.start, dif_pos running, TaskTable.start, (running_iff table entered messageId number).mpr unfinished]
    exact before other
  · have idle : table.running messageId = none := by
      rw [Option.eq_none_iff_forall_ne_some]
      exact fun number found => running ((before messageId).mpr ⟨number, (running_iff table entered messageId number).mp found⟩)
    rw [ChatTaskManager.start, dif_neg running, TaskTable.start, idle]
    rw [ChatTaskManager.ids, List.map_append, List.mem_append, List.map_singleton, List.mem_singleton]
    constructor
    · rintro (member | rfl)
      · obtain ⟨number, task, created, named, going⟩ := (before other).mp member
        have inside := (List.getElem?_eq_some_iff.mp created).1
        exact ⟨number, task, (List.getElem?_append_left inside).trans created, named, going⟩
      · exact ⟨table.created.length, { messageId := other }, List.getElem?_concat_length, rfl, rfl⟩
    · rintro ⟨number, task, found, named, going⟩
      rcases started_task table messageId number task found with created | ⟨rfl, rfl⟩
      · exact .inl ((before other).mpr ⟨number, task, created, named, going⟩)
      · exact .inr named.symm

theorem represents_same (entered : table.Entered) (after : next.Entered) (represents : Represents table manager)
    (same : ∀ messageId number, next.Unfinished messageId number ↔ table.Unfinished messageId number) :
    Represents next manager := by
  apply represents_unfinished next manager after
  intro messageId
  rw [running_unfinished table manager entered represents messageId]
  exact exists_congr fun number => (same messageId number).symm

theorem unfinished_changed (number : Nat) (change : StartedTask → StartedTask)
    (named : ∀ task, (change task).messageId = task.messageId) (ends : ∀ task, (change task).done = task.done)
    (messageId : Uuid) (index : Nat) :
    (table.change number change).Unfinished messageId index ↔ table.Unfinished messageId index := by
  have kept : ∀ task, (if number = index then change task else task).messageId = task.messageId ∧
      (if number = index then change task else task).done = task.done := by
    intro task
    by_cases here : number = index
    · rw [if_pos here]
      exact ⟨named task, ends task⟩
    · rw [if_neg here]
      exact ⟨rfl, rfl⟩
  constructor
  · rintro ⟨task, found, same, going⟩
    obtain ⟨old, created, rfl⟩ := changed_task table number index change task found
    exact ⟨old, created, (kept old).1.symm.trans same, (kept old).2.symm.trans going⟩
  · rintro ⟨old, created, same, going⟩
    exact ⟨_, task_changed table number index change old created, (kept old).1.trans same, (kept old).2.trans going⟩

theorem represents_abort (entered : table.Entered) (represents : Represents table manager) (messageId : Uuid)
    (after : (table.abort messageId).1.Entered) : Represents (table.abort messageId).1 (manager.abort messageId).1 := by
  have ids : (manager.abort messageId).1.ids = manager.ids := by
    rw [ChatTaskManager.abort]
    by_cases running : manager.isRunning messageId = true
    · rw [if_pos running]
      exact update_ids manager messageId _
    · rw [if_neg running]
  have steady : ∀ other number, (table.abort messageId).1.Unfinished other number ↔ table.Unfinished other number := by
    rw [TaskTable.abort]
    cases table.running messageId with
    | none => exact fun _ _ => Iff.rfl
    | some number => exact unfinished_changed table number StartedTask.cancel (fun _ => rfl) fun _ => rfl
  have kept := represents_same table _ manager entered after represents steady
  intro other
  rw [← kept other, ChatTaskManager.isRunning, ChatTaskManager.isRunning, ids]

theorem represents_completes (entered : table.Entered) (represents : Represents table manager) (number : Nat)
    (task : StartedTask) (created : table.created[number]? = some task) (going : task.done = false)
    (after : (table.change number fun task => { task with done := true }).Entered) :
    Represents (table.change number fun task => { task with done := true }) (manager.remove task.messageId) := by
  apply represents_unfinished _ _ after
  intro other
  have keys : manager.ids.Nodup := manager.keys
  rw [remove_ids, keys.mem_erase_iff, running_unfinished table manager entered represents other]
  have ended : table.Unfinished task.messageId number := ⟨task, created, rfl, going⟩
  constructor
  · rintro ⟨elsewhere, index, old, found, named, waits⟩
    have apart : number ≠ index := by
      rintro rfl
      cases created.symm.trans found
      exact elsewhere named.symm
    refine ⟨index, old, ?_, named, waits⟩
    rw [task_changed table number index _ old found, if_neg apart]
  · rintro ⟨index, changed, found, named, waits⟩
    obtain ⟨old, started, rfl⟩ := changed_task table number index _ changed found
    by_cases here : number = index
    · rw [if_pos here] at waits
      cases waits
    · rw [if_neg here] at named waits
      refine ⟨?_, index, old, started, named, waits⟩
      rintro rfl
      exact here ((entered_faithful table entered).single _ _ _ ended ⟨old, started, named, waits⟩)

theorem represents_step (label : TaskLabel) (entered : table.Entered) (spares : table.Spares label)
    (represents : Represents table manager) (taken : table.step label = some next) :
    Represents next (manager.follow table state label) := by
  have after := entered_step table next label entered spares taken
  cases label with
  | start messageId =>
      cases taken
      exact represents_start table manager state entered represents messageId
  | abort messageId =>
      cases taken
      exact represents_abort table manager entered represents messageId after
  | isRunning messageId =>
      cases taken
      exact represents
  | completes number =>
      rw [step_completes table next number taken] at after ⊢
      rw [TaskTable.step] at taken
      cases created : table.created[number]? with
      | none =>
          rw [created] at taken
          cases taken
      | some task =>
          rw [created] at taken
          dsimp only at taken
          by_cases done : task.done = true
          · rw [if_pos done] at taken
            cases taken
          · rw [ChatTaskManager.follow, created]
            exact represents_completes table manager entered represents number task created
              (Bool.eq_false_of_not_eq_true done) after
  | callback number =>
      obtain ⟨task, _, _, rfl⟩ := step_callback table next number taken
      apply represents_same table _ manager entered after represents
      exact unfinished_changed (table.discard task.messageId) number _ (fun _ => rfl) fun _ => rfl

end Represents

end DataPilot.Chat
