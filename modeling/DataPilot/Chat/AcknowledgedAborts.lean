import DataPilot.Chat.KeptAborts

set_option autoImplicit false

namespace DataPilot.Chat

open DataPilot.Base DataPilot.Agent

def Handler.aborted : Handler → Option Uuid
  | ⟨_, .wakes (.abort message) (.message (some _))⟩ => some message.id
  | _ => none

-- The message for which a step answers aborted = true.
def acknowledges (system : System) : Label → Option Uuid
  | .arrive _ (.abortMessage _ messageId) => if system.manager.isRunning messageId then some messageId else none
  | .resume index => system.handlers[index]?.bind Handler.aborted
  | _ => none

-- Every abort of the message that has been taken up is kept.
structure Answerable (messageId : Uuid) (system : System) : Prop extends Owned system where
  unaborted : ∀ entry ∈ system.manager.tasks, entry.2.state.unaborted
  tasks : ∀ task, (messageId, task) ∈ system.manager.tasks → task.aborting → AbortKept system messageId
  handlers : ∀ handler ∈ system.handlers, handler.aborted = some messageId → AbortKept system messageId

section Answers

variable (system next : System) (messageId : Uuid)

theorem abort_kept (workspaceId conversationId : Uuid) (task : ChatTask) (answerable : Answerable messageId system)
    (member : (messageId, task) ∈ system.manager.tasks) (heeds : task.state.heeds)
    (taken : system.step (.arrive workspaceId (.abortMessage conversationId messageId)) = some next) :
    AbortKept next messageId := by
  rcases heeds_writes task heeds with aborting | writes
  · exact kept_arrive system messageId next workspaceId _ (answerable.tasks task member aborting) taken
  · have running : messageId ∈ system.manager.ids := List.mem_map_of_mem member
    have alone : ∀ id ∈ system.pendingIds, id ≠ messageId := by
      rintro id pending rfl
      exact (List.nodup_append.mp answerable.unique).2.2 _ running _ pending rfl
    rcases arrive_abort system conversationId messageId with ⟨_, arrived⟩ | ⟨idle, _⟩
    · rw [System.step, arrived] at taken
      cases taken
      refine ⟨⟨fun other inside _ => ?_, fun call inside same => ?_, fun handler inside => ?_⟩, ?_, .inl ?_⟩
      · rcases (task_update _ _ _ _ _).mp inside with ⟨elsewhere, _⟩ | ⟨_, old, was, rfl⟩
        · exact absurd rfl elsewhere
        · have same := List.inj_on_of_nodup_map system.manager.keys was member rfl
          rw [(Prod.mk.inj same).2]
          exact heeds_aborting task heeds
      · exact absurd same (alone _ (List.mem_append_left _ (List.mem_map_of_mem inside)))
      · rcases List.mem_append.mp inside with old | new
        · intro starts
          exact alone messageId (List.mem_append_right _ (List.mem_filterMap.mpr ⟨handler, old, starts⟩)) rfl
        · rw [List.mem_singleton.mp new]
          exact (Option.some_ne_none messageId).symm
      · exact answerable.below messageId (List.mem_append_left _ running)
      · exact ⟨{ task with cancelRequested := true }, (task_update _ _ _ _ _).mpr (.inr ⟨rfl, task, member, rfl⟩), writes⟩
    · exact absurd running (of_decide_eq_false idle)

theorem aborted_frame (workspaceId : Uuid) (frame : Frame) (reply : StoreReply)
    (aborted : Handler.aborted ⟨workspaceId, .wakes frame reply⟩ = some messageId) :
    ∃ message written, frame = .abort message ∧ reply = .message (some written) ∧ message.id = messageId := by
  cases frame with
  | abort message =>
      cases reply with
      | message found =>
          cases found with
          | none => cases aborted
          | some written => exact ⟨message, written, rfl, rfl, Option.some.inj aborted⟩
      | _ => cases aborted
  | _ => cases aborted

theorem write_kept (index now : Nat) (workspaceId : Uuid) (message written : Message) (owned : Owned system)
    (here : system.handlers[index]? = some ⟨workspaceId, .waits (.abort message)⟩) (only : AbortsOnly system message.id)
    (performed : (system.store.perform workspaceId system.nextId now (Frame.abort message).call).2 = .message (some written))
    (taken : system.step (.perform index now) = some next) : AbortKept next message.id := by
  rw [System.step, here] at taken
  dsimp only at taken
  cases taken
  rw [Frame.call, rewrite, Store.perform] at performed ⊢
  cases completed : system.store.completeAssistantMessage workspaceId message.id
      { content := message.content, status := .aborted, steps := message.steps } now with
  | error error =>
      rw [completed] at performed
      cases performed
  | ok result =>
      obtain ⟨after, row⟩ := result
      obtain ⟨named, member, statuses⟩ := complete_written _ _ _ _ _ _ _ completed
      have below := complete_rows_below _ _ _ _ _ _ _ _ owned.rows completed row member
      dsimp only
      refine ⟨⟨only.tasks, only.shielded, ?_⟩, Nat.lt_succ_of_lt (named ▸ below), .inr (.inr statuses)⟩
      exact set_starts system message.id index workspaceId _ _ rfl (Option.some_ne_none _).symm only.starts

theorem arrive_tasks (workspaceId id : Uuid) (request : ChatRequest) (task : ChatTask)
    (taken : system.step (.arrive workspaceId request) = some next) (member : (id, task) ∈ next.manager.tasks) :
    (id, task) ∈ system.manager.tasks ∨ ∃ conversationId old, request = .abortMessage conversationId id ∧
      (id, old) ∈ system.manager.tasks ∧ task = { old with cancelRequested := true } := by
  cases request with
  | abortMessage conversationId messageId =>
      rw [System.step] at taken
      rcases arrive_abort system conversationId messageId with ⟨_, arrived⟩ | ⟨_, arrived⟩
      · rw [arrived] at taken
        cases taken
        rcases (task_update _ _ _ _ _).mp member with ⟨_, old⟩ | ⟨here, old, inside, rfl⟩
        · exact .inl old
        · exact .inr ⟨conversationId, old, here ▸ rfl, inside, rfl⟩
      · rw [arrived] at taken
        cases taken
        exact .inl member
  | _ =>
      cases taken
      exact .inl member

theorem proceed_rests (after : System) (workspaceId : Uuid) (frame : Frame) (reply : StoreReply) (state : HandlerState)
    (proceeded : system.proceed workspaceId frame reply = some (after, state)) :
    Handler.aborted ⟨workspaceId, state⟩ = none := by
  unfold System.proceed at proceeded
  split at proceeded
  all_goals first
    | (cases proceeded; done)
    | (cases proceeded; rfl)
    | (split at proceeded <;> cases proceeded <;> rfl)

theorem set_aborted (index : Nat) (workspaceId : Uuid) (state : HandlerState) (after : System) (handler : Handler)
    (handlers : after.handlers = system.handlers) (member : handler ∈ (after.setHandler index workspaceId state).handlers)
    (aborted : handler.aborted = some messageId) :
    (handler ∈ system.handlers ∧ handler.aborted = some messageId) ∨ Handler.aborted ⟨workspaceId, state⟩ = some messageId := by
  rcases List.mem_or_eq_of_mem_set member with old | rfl
  · exact .inl ⟨handlers ▸ old, aborted⟩
  · exact .inr aborted

theorem answerable_arrive (workspaceId : Uuid) (request : ChatRequest) (answerable : Answerable messageId system)
    (owned : Owned next) (keeps : AbortKept system messageId → AbortKept next messageId)
    (effective : TakesEffect messageId system (.arrive workspaceId request))
    (taken : system.step (.arrive workspaceId request) = some next) : Answerable messageId next := by
  have tasks := fun id task => arrive_tasks system next workspaceId id request task taken
  refine ⟨owned, fun entry member => ?_, fun task member aborting => ?_, fun handler member aborted => ?_⟩
  · rcases tasks entry.1 entry.2 member with old | ⟨_, old, _, inside, same⟩
    · exact answerable.unaborted entry old
    · rw [same]
      exact answerable.unaborted _ inside
  · rcases tasks messageId task member with old | ⟨conversationId, old, rfl, inside, rfl⟩
    · exact keeps (answerable.tasks task old aborting)
    · exact abort_kept system next messageId workspaceId conversationId old answerable inside (effective rfl old inside) taken
  · obtain ⟨manager, state, rfl, _, idle⟩ := step_arrive system next workspaceId request taken
    rcases List.mem_append.mp member with old | new
    · exact keeps (answerable.handlers handler old aborted)
    · rw [List.mem_singleton.mp new] at aborted
      cases state with
      | wakes frame reply => exact absurd rfl (idle frame reply)
      | _ => cases aborted

theorem answerable_perform (index now : Nat) (answerable : Answerable messageId system) (owned : Owned next)
    (keeps : AbortKept system messageId → AbortKept next messageId)
    (effective : TakesEffect messageId system (.perform index now)) (taken : system.step (.perform index now) = some next) :
    Answerable messageId next := by
  obtain ⟨workspaceId, frame, here, moved⟩ := step_perform system next index now taken
  have manager : next.manager = system.manager := by
    rw [moved]
    rfl
  refine ⟨owned, fun entry member => ?_, fun task member aborting => ?_, fun handler member aborted => ?_⟩
  · exact answerable.unaborted entry (manager ▸ member)
  · exact keeps (answerable.tasks task (manager ▸ member) aborting)
  · rw [moved] at member
    rcases set_aborted system messageId index workspaceId _ _ handler rfl member aborted with ⟨old, was⟩ | new
    · exact keeps (answerable.handlers handler old was)
    · obtain ⟨message, written, rfl, performed, rfl⟩ := aborted_frame _ _ _ _ new
      rw [TakesEffect, here] at effective
      exact write_kept system next index now workspaceId message written answerable.toOwned here (effective rfl) performed taken

theorem answerable_resume (index : Nat) (answerable : Answerable messageId system) (owned : Owned next)
    (keeps : AbortKept system messageId → AbortKept next messageId)
    (taken : system.step (.resume index) = some next) : Answerable messageId next := by
  obtain ⟨workspaceId, frame, reply, after, state, here, proceeded, rfl⟩ := step_resume system next index taken
  obtain ⟨_, ways⟩ := proceed_ways system after workspaceId frame reply state proceeded
  have rests := proceed_rests system after workspaceId frame reply state proceeded
  have handlers := proceed_waits system after workspaceId frame reply state proceeded
  have tasks : ∀ entry ∈ after.manager.tasks, entry ∈ system.manager.tasks ∨
      ∃ submission message, entry.2 = { state := newWorker workspaceId submission message } := by
    intro entry member
    rcases ways with ⟨submission, message, _, _, rfl⟩ | ⟨_, _, _, rfl⟩
    · unfold System.start ChatTaskManager.start at member
      dsimp only at member
      split at member
      · exact .inl member
      · rcases List.mem_append.mp member with old | new
        · exact .inl old
        · exact .inr ⟨submission, message, congrArg Prod.snd (List.mem_singleton.mp new)⟩
    · exact .inl member
  refine ⟨owned, fun entry member => ?_, fun task member aborting => ?_, fun handler member aborted => ?_⟩
  · rcases tasks entry member with old | ⟨_, _, new⟩
    · exact answerable.unaborted entry old
    · rw [new]
      exact MessageStatus.noConfusion
  · rcases tasks (messageId, task) member with old | ⟨_, _, new⟩
    · exact keeps (answerable.tasks task old aborting)
    · rw [show task = _ from new] at aborting
      exact aborting.elim
  · rcases set_aborted system messageId index workspaceId state after handler handlers member aborted with ⟨old, was⟩ | new
    · exact keeps (answerable.handlers handler old was)
    · rw [rests] at new
      cases new

theorem answerable_work (worked : Uuid) (input : WorkerInput) (now : Nat) (answerable : Answerable messageId system)
    (owned : Owned next) (keeps : AbortKept system messageId → AbortKept next messageId)
    (taken : system.step (.work worked input now) = some next) : Answerable messageId next := by
  obtain ⟨task, state, effects, after, found, ready, stepped, affected, rfl⟩ :=
    step_work system next worked input now taken
  have member := (manager_get system.manager worked task found).1
  have unaborted := answerable.unaborted _ member
  have same := work_waits system after task state input effects now stepped affected
  refine ⟨owned, fun entry inside => ?_, fun other inside aborting => ?_, fun handler inside aborted => ?_⟩
  · rcases task_advance _ _ entry.1 entry.2 _ (same.1 ▸ inside) with ⟨_, old⟩ | ⟨_, new⟩
    · exact answerable.unaborted entry old
    · rw [new]
      exact unaborted_step task state input effects stepped unaborted
  · rcases task_advance _ _ messageId other _ (same.1 ▸ inside) with ⟨_, old⟩ | ⟨rfl, rfl⟩
    · exact keeps (answerable.tasks other old aborting)
    · exact keeps (answerable.tasks task member (aborting_back task state input effects stepped ready unaborted aborting))
  · exact keeps (answerable.handlers handler (same.2 ▸ inside) aborted)

theorem answerable_step (label : Label) (answerable : Answerable messageId system) (succeeds : CallsSucceed system label)
    (effective : TakesEffect messageId system label) (taken : system.step label = some next) : Answerable messageId next := by
  have owned := owned_step system next label answerable.toOwned taken
  have keeps : AbortKept system messageId → AbortKept next messageId := fun kept =>
    kept_step system messageId next label answerable.toOwned kept succeeds effective taken
  cases label with
  | arrive workspaceId request =>
      exact answerable_arrive system next messageId workspaceId request answerable owned keeps effective taken
  | perform index now => exact answerable_perform system next messageId index now answerable owned keeps effective taken
  | resume index => exact answerable_resume system next messageId index answerable owned keeps taken
  | work worked input now => exact answerable_work system next messageId worked input now answerable owned keeps taken
  | shielded index now =>
      obtain ⟨call, _, rfl | ⟨_, _, _, rfl⟩⟩ := step_shielded system next index now taken
      · exact ⟨owned, answerable.unaborted, fun task member aborting => keeps (answerable.tasks task member aborting),
          fun handler member aborted => keeps (answerable.handlers handler member aborted)⟩
      · exact ⟨owned, answerable.unaborted, fun task member aborting => keeps (answerable.tasks task member aborting),
          fun handler member aborted => keeps (answerable.handlers handler member aborted)⟩

theorem acknowledged_kept (label : Label) (answerable : Answerable messageId system)
    (succeeds : CallsSucceed system label) (effective : TakesEffect messageId system label)
    (acknowledged : acknowledges system label = some messageId) (taken : system.step label = some next) :
    AbortKept next messageId := by
  cases label with
  | arrive workspaceId request =>
      cases request with
      | abortMessage conversationId asked =>
          rw [acknowledges] at acknowledged
          by_cases running : system.manager.isRunning asked = true
          · rw [if_pos running] at acknowledged
            cases acknowledged
            obtain ⟨⟨_, task⟩, member, rfl⟩ := List.mem_map.mp (of_decide_eq_true running)
            exact abort_kept system next _ workspaceId conversationId task answerable member (effective rfl task member) taken
          · rw [if_neg running] at acknowledged
            cases acknowledged
      | _ => cases acknowledged
  | resume index =>
      obtain ⟨handler, here, aborted⟩ := Option.bind_eq_some_iff.mp acknowledged
      have kept := answerable.handlers handler (List.mem_of_getElem? here) aborted
      exact kept_step system messageId next _ answerable.toOwned kept succeeds effective taken
  | _ => cases acknowledged

theorem proceed_aborts (after : System) (workspaceId : Uuid) (frame : Frame) (reply : StoreReply)
    (proceeded : system.proceed workspaceId frame reply = some (after, .responded (.aborted true))) :
    ∃ messageId, Handler.aborted ⟨workspaceId, .wakes frame reply⟩ = some messageId := by
  unfold System.proceed at proceeded
  split at proceeded
  all_goals first
    | (cases proceeded; done)
    | (cases proceeded; exact ⟨_, rfl⟩)
    | (split at proceeded <;> cases proceeded)

theorem answered_acknowledged (label : Label) (index : Nat) (workspaceId : Uuid) (taken : system.step label = some next)
    (answered : next.handlers[index]? = some ⟨workspaceId, .responded (.aborted true)⟩)
    (unanswered : system.handlers[index]? ≠ some ⟨workspaceId, .responded (.aborted true)⟩) :
    ∃ messageId, acknowledges system label = some messageId := by
  have unchanged : next.handlers = system.handlers → False := fun same => unanswered (same ▸ answered)
  have moved : ∀ (other : Nat) (owner : Uuid) (state : HandlerState) (after : System), after.handlers = system.handlers →
      next = after.setHandler other owner state → state = .responded (.aborted true) ∧ other = index := by
    rintro other owner state after handlers rfl
    by_cases same : other = index
    · subst same
      rw [System.setHandler, handlers, List.getElem?_set_self'] at answered
      obtain ⟨_, _, changed⟩ := Option.map_eq_some_iff.mp answered
      cases changed
      exact ⟨rfl, rfl⟩
    · rw [System.setHandler, handlers, List.getElem?_set_ne same] at answered
      exact absurd answered unanswered
  have appended : ∀ handler : Handler, handler.state ≠ .responded (.aborted true) →
      (system.handlers ++ [handler])[index]? = some ⟨workspaceId, .responded (.aborted true)⟩ → False := by
    intro handler waits found
    rcases List.mem_append.mp (List.mem_of_getElem? found) with old | new
    · by_cases inside : index < system.handlers.length
      · rw [List.getElem?_append_left inside] at found
        exact unanswered found
      · rw [List.getElem?_append_right (Nat.le_of_not_lt inside)] at found
        exact waits (List.mem_singleton.mp (List.mem_of_getElem? found) ▸ rfl)
    · exact waits (List.mem_singleton.mp new ▸ rfl)
  cases label with
  | arrive owner request =>
      rw [System.step] at taken
      cases request with
      | abortMessage conversationId messageId =>
          rcases arrive_abort system conversationId messageId with ⟨running, _⟩ | ⟨_, arrived⟩
          · exact ⟨messageId, if_pos running⟩
          · rw [arrived] at taken
            cases taken
            exact (appended _ HandlerState.noConfusion answered).elim
      | _ =>
          cases taken
          exact (appended _ HandlerState.noConfusion answered).elim
  | perform other now =>
      obtain ⟨owner, frame, _, ended⟩ := step_perform system next other now taken
      have same := (moved other owner _ _ (by rfl) ended).1
      cases same
  | resume other =>
      obtain ⟨owner, frame, reply, after, state, here, proceeded, ended⟩ := step_resume system next other taken
      have handlers := proceed_waits system after owner frame reply state proceeded
      obtain ⟨rfl, _⟩ := moved other owner state after handlers ended
      rw [acknowledges, here]
      exact proceed_aborts system after owner frame reply proceeded
  | work messageId input now =>
      obtain ⟨task, state, effects, after, _, _, stepped, affected, rfl⟩ := step_work system next messageId input now taken
      exact (unchanged (work_waits system after task state input effects now stepped affected).2).elim
  | shielded other now =>
      obtain ⟨call, _, rfl | ⟨_, _, _, rfl⟩⟩ := step_shielded system next other now taken
      · exact (unchanged rfl).elim
      · exact (unchanged rfl).elim

end Answers

theorem answerable_serving (store : Store) (nextId messageId : Uuid) (fresh : ∀ row ∈ store.rows, row.id < nextId) :
    Answerable messageId (serving store nextId) := by
  refine ⟨owned_serving store nextId fresh, ?_, ?_, ?_⟩ <;> simp [serving]

theorem acknowledged_abort_persists (store : Store) (nextId : Uuid) (before later : List Label) (label : Label)
    (system final : System) (messageId : Uuid) (fresh : ∀ row ∈ store.rows, row.id < nextId)
    (succeed : StepsMeet System.step CallsSucceed (serving store nextId) (before ++ label :: later))
    (effective : StepsMeet System.step (TakesEffect messageId) (serving store nextId) (before ++ label :: later))
    (reached : runFrom System.step (serving store nextId) before = some system)
    (acknowledged : acknowledges system label = some messageId)
    (continued : runFrom System.step system (label :: later) = some final)
    (ended : ∀ task, (messageId, task) ∉ final.manager.tasks)
    (settled : ∀ call ∈ final.shielded, call.messageId ≠ messageId) :
    ∀ row ∈ final.store.rows, row.id = messageId → row.status = .aborted := by
  have meets := steps_meet_and CallsSucceed (TakesEffect messageId) _ _ succeed effective
  obtain ⟨first, second⟩ := (steps_meet_append _ _ system before (label :: later) reached).mp meets
  have answerable := run_invariant_meeting _ (Answerable messageId)
    (fun system label next answerable met taken => answerable_step system next messageId label answerable met.1 met.2 taken)
    _ system before (answerable_serving store nextId messageId fresh) first reached
  obtain ⟨next, taken, remaining⟩ := run_cons system final label later continued
  obtain ⟨⟨succeeds, effects⟩, onwards⟩ := second
  have kept := run_invariant_meeting _ (fun system => Owned system ∧ AbortKept system messageId)
    (fun system label next both met taken => ⟨owned_step system next label both.1 taken,
      kept_step system messageId next label both.1 both.2 met.1 met.2 taken⟩)
    next final later
    ⟨owned_step system next label answerable.toOwned taken,
      acknowledged_kept system next messageId label answerable succeeds effects acknowledged taken⟩
    (onwards next taken) remaining
  rcases kept.2.lasts with ⟨task, inside, _⟩ | ⟨call, inside, same⟩ | written
  · exact absurd inside (ended task)
  · exact absurd same (settled call inside)
  · exact written

section Sample

-- The worker of message 16 waits for the first event of the runtime; or the
-- runtime has ended and the answer is being stored.
def sampleStreaming : List Label := sampleSubmission ++ [.work 16 .begin 0, .work 16 .completes 0]

def sampleStoring : List Label := sampleStreaming ++ [.work 16 .ended 0]

def sampleAbort : Label := .arrive 2 (.abortMessage 1 16)

def sampleAborting : List Label := [.work 16 (.cancelled true) 0, .work 16 .completes 0, .work 16 .completes 0]

end Sample

theorem acknowledged_abort_persists_streaming :
    ∃ system final, runFrom System.step (serving sampleStore 10) sampleStreaming = some system ∧
      acknowledges system sampleAbort = some 16 ∧ runFrom System.step system (sampleAbort :: sampleAborting) = some final ∧
      ∀ row ∈ final.store.rows, row.id = 16 → row.status = .aborted := by
  refine ⟨_, _, rfl, rfl, rfl, acknowledged_abort_persists sampleStore 10 sampleStreaming sampleAborting sampleAbort _ _ 16
    ?_ ?_ ?_ rfl rfl rfl ?_ ?_⟩
  · simp [sampleStore, Store.rows, Chat.rows, opened]
  · repeat' refine steps_meet_cons CallsSucceed _ _ _ _ rfl trivial ?_
    trivial
  · repeat refine steps_meet_cons (TakesEffect 16) _ _ _ _ rfl trivial ?_
    refine steps_meet_cons (TakesEffect 16) _ _ _ _ rfl (fun _ task inside => ?_) ?_
    · rw [(Prod.mk.inj (List.mem_singleton.mp inside)).2]
      trivial
    · repeat refine steps_meet_cons (TakesEffect 16) _ _ _ _ rfl trivial ?_
      trivial
  · exact fun task member => List.not_mem_nil member
  · exact fun call member => absurd member List.not_mem_nil

-- An abort that comes while the finished answer is being stored.
theorem stored_answer_stays :
    ¬ ∀ (store : Store) (nextId : Uuid) (before later : List Label) (label : Label) (system final : System)
        (messageId : Uuid), (∀ row ∈ store.rows, row.id < nextId) →
        StepsMeet System.step CallsSucceed (serving store nextId) (before ++ label :: later) →
        runFrom System.step (serving store nextId) before = some system → acknowledges system label = some messageId →
        runFrom System.step system (label :: later) = some final → (∀ task, (messageId, task) ∉ final.manager.tasks) →
        (∀ call ∈ final.shielded, call.messageId ≠ messageId) →
        ∀ row ∈ final.store.rows, row.id = messageId → row.status = .aborted := by
  intro claim
  obtain ⟨system, final, reached, acknowledged, continued, tasks, shielded, completed⟩ : ∃ system final,
      runFrom System.step (serving sampleStore 10) sampleStoring = some system ∧ acknowledges system sampleAbort = some 16 ∧
      runFrom System.step system [sampleAbort, .work 16 (.cancelled true) 0] = some final ∧
      final.manager.tasks = [] ∧ final.shielded = [] ∧
      final.store.rows.any (fun row => decide (row.id = 16 ∧ row.status = .completed)) = true :=
    ⟨_, _, rfl, rfl, rfl, rfl, rfl, rfl⟩
  obtain ⟨row, member, found⟩ := List.any_eq_true.mp completed
  obtain ⟨named, done⟩ := of_decide_eq_true found
  have fresh : ∀ row ∈ sampleStore.rows, row.id < 10 := by simp [sampleStore, Store.rows, Chat.rows, opened]
  have succeed : StepsMeet System.step CallsSucceed (serving sampleStore 10)
      (sampleStoring ++ sampleAbort :: [.work 16 (.cancelled true) 0]) := by
    repeat' refine steps_meet_cons CallsSucceed _ _ _ _ rfl trivial ?_
    trivial
  have aborted := claim sampleStore 10 sampleStoring [.work 16 (.cancelled true) 0] sampleAbort system final 16 fresh succeed
    reached acknowledged continued (fun task inside => List.not_mem_nil (tasks ▸ inside))
    (fun call inside => absurd (shielded ▸ inside) List.not_mem_nil) row member named
  rw [done] at aborted
  cases aborted

end DataPilot.Chat
