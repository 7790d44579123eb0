import DataPilot.Chat.Submission

set_option autoImplicit false

namespace DataPilot.Chat

open DataPilot.Base DataPilot.Agent

inductive StoreAwait where
  | performed (now : Nat)
  | lost
deriving DecidableEq

inductive Outcome where
  | responded (response : Response)
  | raised

def Outcome.isError : Outcome → Bool
  | .raised => true
  | .responded (.notFound _) => true
  | .responded (.failed _) => true
  | _ => false

-- A handler from one of its awaits to its end, with nothing else in between.
def System.serve (system : System) (workspaceId : Uuid) : HandlerState → List StoreAwait → Option (System × Outcome)
  | .responded response, _ => some (system, .responded response)
  | .waits _, .lost :: _ => some (system, .raised)
  | .waits frame, .performed now :: later =>
      let performed := system.store.perform workspaceId system.nextId now frame.call
      match System.proceed { system with store := performed.1, nextId := system.nextId + 1 } workspaceId frame performed.2 with
      | none => none
      | some (next, state) => next.serve workspaceId state later
  | _, _ => none

-- What the tables hold of a conversation: its messages, its title and its next number.
def Store.recordOf (store : Store) (conversationId : Uuid) : List (List Message × String × Nat) :=
  (store.conversations.filter fun conversation => decide (conversation.id = conversationId)).map
    fun conversation => (conversation.messages, conversation.title, conversation.nextSequence)

def AppendFails (store : Store) (requestId : Uuid) (calls : Nat) (awaits : List StoreAwait) : Prop :=
  (∀ await ∈ awaits.take calls, await ≠ .lost) ∧ (awaits[calls]? = some .lost ∨ requestId ∈ store.requests)

structure Stranded (system : System) (workspaceId conversationId : Uuid) (clientRequestId : Option Uuid)
    (awaits : List StoreAwait) : Prop where
  present : system.store.isPresent workspaceId conversationId
  missed : system.store.getAssistantByRequestId workspaceId conversationId (clientRequestId.getD (system.nextId + 1)) = none
  fails : AppendFails system.store (clientRequestId.getD (system.nextId + 1)) 4 awaits

section Steps

variable (system : System) (workspaceId : Uuid)

theorem proceed_handlers (frame : Frame) (reply : StoreReply) (handlers : List Handler) :
    System.proceed { system with handlers } workspaceId frame reply =
      (system.proceed workspaceId frame reply).map fun next => ({ next.1 with handlers }, next.2) := by
  unfold System.proceed
  split
  all_goals first
    | rfl
    | (split <;> rfl)

-- A request that is served is a run of the system in which only its handler moves.
theorem serve_run (state : HandlerState) (awaits : List StoreAwait) (final : System) (response : Response)
    (handlers : List Handler) (served : system.serve workspaceId state awaits = some (final, .responded response)) :
    ∃ labels, runFrom System.step { system with handlers := handlers ++ [⟨workspaceId, state⟩] } labels =
      some { final with handlers := handlers ++ [⟨workspaceId, .responded response⟩] } := by
  induction awaits generalizing system state with
  | nil =>
      cases state with
      | responded answer =>
          cases served
          exact ⟨[], rfl⟩
      | waits frame => cases served
      | wakes frame reply => cases served
  | cons await later ih =>
      cases state with
      | responded answer =>
          cases served
          exact ⟨[], rfl⟩
      | wakes frame reply => cases await <;> cases served
      | waits frame =>
          cases await with
          | lost => cases served
          | performed now =>
              rw [System.serve] at served
              generalize performed : system.store.perform workspaceId system.nextId now frame.call = after at served
              obtain ⟨store, reply⟩ := after
              dsimp only at served
              cases proceeded :
                  System.proceed { system with store, nextId := system.nextId + 1 } workspaceId frame reply with
              | none =>
                  rw [proceeded] at served
                  cases served
              | some next =>
                  rw [proceeded] at served
                  obtain ⟨labels, run⟩ := ih next.1 next.2 served
                  have woken : System.step { system with handlers := handlers ++ [⟨workspaceId, .waits frame⟩] }
                      (.perform handlers.length now) =
                      some { system with store, nextId := system.nextId + 1,
                                         handlers := handlers ++ [⟨workspaceId, .wakes frame reply⟩] } := by
                    simp [System.step, System.setHandler, performed]
                  have resumed : System.step { system with store, nextId := system.nextId + 1,
                                                           handlers := handlers ++ [⟨workspaceId, .wakes frame reply⟩] }
                      (.resume handlers.length) =
                      some { next.1 with handlers := handlers ++ [⟨workspaceId, next.2⟩] } := by
                    have moved := proceed_handlers { system with store, nextId := system.nextId + 1 } workspaceId frame
                      reply (handlers ++ [⟨workspaceId, .wakes frame reply⟩])
                    rw [proceeded] at moved
                    simp [System.step, moved, System.setHandler]
                  refine ⟨.perform handlers.length now :: .resume handlers.length :: labels, ?_⟩
                  rw [runFrom, woken]
                  dsimp only
                  rw [runFrom, resumed]
                  exact run

end Steps

theorem record_messages (store : Store) (conversationId : Uuid) :
    store.messagesOf conversationId = (store.recordOf conversationId).flatMap Prod.fst := by
  rw [Store.messagesOf, Chat.rows, Store.recordOf, List.flatMap_map]

theorem append_recorded (store after : Store) (workspaceId conversationId id : Uuid) (new : NewMessage) (now : Nat)
    (message : Message) (appended : store.appendMessage workspaceId conversationId new id now = .ok (after, message)) :
    after.recordOf conversationId ≠ store.recordOf conversationId := by
  intro same
  have added := (append_messages conversationId store after workspaceId id new now message appended).1.length_eq
  rw [record_messages, record_messages, same, List.length_cons] at added
  omega

section Appends

variable (store : Store) (requestId : Uuid) (calls : Nat) (later : List StoreAwait)

theorem append_fails_later (now : Nat) :
    AppendFails store requestId (calls + 1) (.performed now :: later) ↔ AppendFails store requestId calls later := by
  simp [AppendFails]

theorem append_lost_before : ¬ AppendFails store requestId (calls + 1) (.lost :: later) := by
  simp [AppendFails]

end Appends

section Submissions

variable (system final : System) (workspaceId : Uuid) (submission : Submission) (outcome : Outcome)

def Traceless (conversationId : Uuid) : Prop :=
  outcome.isError = true → final.store.recordOf conversationId = system.store.recordOf conversationId

theorem same_traceless (conversationId : Uuid) (same : final.store = system.store) :
    Traceless system final outcome conversationId := by
  intro _
  rw [same]

theorem fine_traceless (conversationId : Uuid) (fine : outcome.isError = false) :
    Traceless system final outcome conversationId :=
  fun error => absurd (fine.symm.trans error) Bool.false_ne_true

theorem serve_assistant (awaits : List StoreAwait)
    (present : system.store.isPresent workspaceId submission.conversationId)
    (fresh : ∀ row ∈ system.store.rows, row.id < system.nextId)
    (served : system.serve workspaceId (.waits (.appendAssistant submission)) awaits = some (final, outcome)) :
    (outcome.isError = true ↔ AppendFails system.store submission.requestId 0 awaits) ∧
      (outcome.isError = true → final.store = system.store) := by
  cases awaits with
  | nil => cases served
  | cons await later =>
      cases await with
      | lost =>
          cases served
          exact ⟨iff_of_true rfl (by simp [AppendFails]), fun _ => rfl⟩
      | performed now =>
          rw [System.serve] at served
          cases appended : system.store.appendMessage workspaceId submission.conversationId submission.assistantMessage
              system.nextId now with
          | error error =>
              simp only [Frame.call, Store.perform, appended, System.proceed, System.serve] at served
              cases served
              refine ⟨iff_of_true rfl ⟨by simp, .inr ?_⟩, fun _ => rfl⟩
              by_contra unused
              obtain ⟨after, message, succeeds⟩ := append_succeeds submission.conversationId system.store workspaceId
                system.nextId submission.assistantMessage now present fresh fun _ given => Option.some.inj given ▸ unused
              rw [appended] at succeeds
              cases succeeds
          | ok result =>
              obtain ⟨after, message⟩ := result
              simp only [Frame.call, Store.perform, appended, System.proceed, System.serve] at served
              cases served
              have unused := (append_message_ok _ _ _ _ _ _ _ _ appended).choose_spec.2.2.2.2
              refine ⟨iff_of_false Bool.false_ne_true ?_, fun never => Bool.noConfusion never⟩
              rintro ⟨_, lost | used⟩
              · cases lost
              · exact unused submission.requestId rfl used

theorem serve_user (awaits : List StoreAwait) (present : system.store.isPresent workspaceId submission.conversationId)
    (fresh : ∀ row ∈ system.store.rows, row.id < system.nextId)
    (served : system.serve workspaceId (.waits (.appendUser submission)) awaits = some (final, outcome)) :
    Traceless system final outcome submission.conversationId ↔ ¬ AppendFails system.store submission.requestId 1 awaits := by
  cases awaits with
  | nil => cases served
  | cons await later =>
      cases await with
      | lost =>
          cases served
          exact iff_of_true (same_traceless system system .raised _ rfl) (append_lost_before _ _ _ _)
      | performed now =>
          rw [append_fails_later]
          rw [System.serve] at served
          obtain ⟨after, message, appended⟩ := append_succeeds submission.conversationId system.store workspaceId
            system.nextId submission.userMessage now present fresh fun _ given => by cases given
          simp only [Frame.call, Store.perform, appended, System.proceed] at served
          obtain ⟨_, rows, _, request, kept⟩ :=
            append_messages submission.conversationId _ _ workspaceId _ _ _ _ appended
          have requests : after.requests.Perm system.store.requests := by
            have mapped := rows.filterMap Message.requestId
            rw [List.filterMap_cons, request] at mapped
            exact mapped
          have newer : ∀ row ∈ after.rows, row.id < system.nextId + 1 := by
            intro row member
            obtain ⟨conversation, _, _, rfl, _⟩ := append_message_ok _ _ _ _ _ _ _ _ appended
            rcases List.mem_cons.mp (rows.subset member) with rfl | old
            · exact Nat.lt_succ_self _
            · exact Nat.lt_succ_of_lt (fresh row old)
          obtain ⟨error, unchanged⟩ := serve_assistant { system with store := after, nextId := system.nextId + 1 } final
            workspaceId submission outcome later (kept workspaceId present) newer served
          have same : AppendFails after submission.requestId 0 later ↔
              AppendFails system.store submission.requestId 0 later := by
            rw [AppendFails, AppendFails, requests.mem_iff]
          rw [← same, ← error]
          refine ⟨fun traceless failed => ?_, fun fine failed => absurd failed fine⟩
          have record := traceless failed
          rw [unchanged failed] at record
          exact append_recorded _ _ _ _ _ _ _ _ appended record

theorem serve_history (awaits : List StoreAwait) (present : system.store.isPresent workspaceId submission.conversationId)
    (fresh : ∀ row ∈ system.store.rows, row.id < system.nextId)
    (served : system.serve workspaceId (.waits (.readHistory submission)) awaits = some (final, outcome)) :
    Traceless system final outcome submission.conversationId ↔ ¬ AppendFails system.store submission.requestId 2 awaits := by
  cases awaits with
  | nil => cases served
  | cons await later =>
      cases await with
      | lost =>
          cases served
          exact iff_of_true (same_traceless system system .raised _ rfl) (append_lost_before _ _ _ _)
      | performed now =>
          rw [append_fails_later]
          exact serve_user { system with nextId := system.nextId + 1 } final workspaceId submission outcome later present
            (fun row member => Nat.lt_succ_of_lt (fresh row member)) served

theorem serve_recover (message : Message) (conversationId : Uuid) (awaits : List StoreAwait)
    (served : system.serve workspaceId (.waits (.recover message)) awaits = some (final, outcome)) :
    Traceless system final outcome conversationId := by
  cases awaits with
  | nil => cases served
  | cons await later =>
      cases await with
      | lost =>
          cases served
          exact same_traceless system system .raised _ rfl
      | performed now =>
          rw [System.serve] at served
          cases completed : system.store.completeAssistantMessage workspaceId message.id
              { content := message.content, status := .error, steps := message.steps } now with
          | error error =>
              simp only [Frame.call, rewrite, Store.perform, completed, System.proceed, System.serve] at served
              cases served
              exact same_traceless system _ _ _ rfl
          | ok result =>
              simp only [Frame.call, rewrite, Store.perform, completed, System.proceed, System.serve] at served
              cases served
              exact fine_traceless system _ _ _ rfl

end Submissions

theorem lost_early (system : System) (workspaceId conversationId : Uuid) (clientRequestId : Option Uuid)
    (awaits : List StoreAwait) (early : .lost ∈ awaits.take 4) :
    ¬ Stranded system workspaceId conversationId clientRequestId awaits :=
  fun stranded => stranded.fails.1 .lost early rfl

theorem serve_found (system final : System) (workspaceId conversationId : Uuid) (content : String)
    (clientRequestId : Option Uuid) (awaits : List StoreAwait) (outcome : Outcome) (conversation : Conversation)
    (found : system.store.getConversation workspaceId conversationId = some conversation)
    (fresh : ∀ row ∈ system.store.rows, row.id < system.nextId)
    (served : System.serve { system with nextId := system.nextId + 1 + 2 } workspaceId (.waits (.findAssistant {
      conversationId, content, requestId := clientRequestId.getD (system.nextId + 1), traceId := system.nextId + 1 + 1 }))
      awaits = some (final, outcome)) :
    Traceless system final outcome conversationId ↔
      ¬ (system.store.getAssistantByRequestId workspaceId conversationId (clientRequestId.getD (system.nextId + 1)) = none ∧
        AppendFails system.store (clientRequestId.getD (system.nextId + 1)) 3 awaits) := by
  cases awaits with
  | nil => cases served
  | cons await later =>
      cases await with
      | lost =>
          cases served
          exact iff_of_true (same_traceless system _ .raised _ rfl) fun stranded => append_lost_before _ _ _ _ stranded.2
      | performed now =>
          rw [append_fails_later]
          rw [System.serve] at served
          cases answered : system.store.getAssistantByRequestId workspaceId conversationId
              (clientRequestId.getD (system.nextId + 1)) with
          | none =>
              simp only [Frame.call, Store.perform, answered, System.proceed] at served
              rw [eq_self, true_and]
              exact serve_history { system with nextId := system.nextId + 1 + 2 + 1 } final workspaceId _ outcome later
                ⟨conversation, found⟩ (fun row member => Nat.lt_add_right 3 (Nat.lt_succ_of_lt (fresh row member))) served
          | some message =>
              refine iff_of_true ?_ fun stranded => Option.some_ne_none _ stranded.1
              simp only [Frame.call, Store.perform, answered, System.proceed] at served
              by_cases stale : message.status = .streaming ∧ system.manager.isRunning message.id = false
              · rw [if_pos stale] at served
                exact serve_recover { system with nextId := system.nextId + 1 + 2 + 1 } final workspaceId outcome message
                  conversationId later served
              · rw [if_neg stale] at served
                simp only [System.serve] at served
                cases served
                exact fine_traceless system _ _ _ rfl

theorem failed_submission_traceless_iff (store : Store) (nextId : Uuid) (before : List Label) (system final : System)
    (workspaceId conversationId : Uuid) (content : String) (clientRequestId : Option Uuid) (awaits : List StoreAwait)
    (outcome : Outcome) (fresh : ∀ row ∈ store.rows, row.id < nextId)
    (reached : runFrom System.step (serving store nextId) before = some system)
    (served : (system.arrive (.streamMessage conversationId content clientRequestId)).1.serve workspaceId
      (system.arrive (.streamMessage conversationId content clientRequestId)).2 awaits = some (final, outcome)) :
    (outcome.isError = true → final.store.recordOf conversationId = system.store.recordOf conversationId) ↔
      ¬ Stranded system workspaceId conversationId clientRequestId awaits := by
  have owned := run_invariant Owned
    (fun state label next owned taken => owned_step state next label owned taken)
    _ system before (owned_serving store nextId fresh) reached
  cases awaits with
  | nil => cases served
  | cons await later =>
      cases await with
      | lost =>
          cases served
          refine iff_of_true (same_traceless system system .raised _ rfl) fun stranded => ?_
          exact append_lost_before _ _ _ _ stranded.fails
      | performed now =>
          rw [System.arrive, System.serve] at served
          cases found : system.store.getConversation workspaceId conversationId with
          | none =>
              simp only [Frame.call, Store.perform, found, System.proceed, notFound, System.serve] at served
              cases served
              refine iff_of_true (same_traceless system _ _ _ rfl) fun stranded => ?_
              obtain ⟨conversation, present⟩ := stranded.present
              rw [found] at present
              cases present
          | some conversation =>
              simp only [Frame.call, Store.perform, found, System.proceed] at served
              refine (serve_found system final workspaceId conversationId content clientRequestId later outcome conversation
                found owned.rows served).trans (not_congr ?_)
              constructor
              · rintro ⟨missed, fails⟩
                exact ⟨⟨conversation, found⟩, missed, (append_fails_later _ _ _ _ _).mpr fails⟩
              · intro stranded
                exact ⟨stranded.missed, (append_fails_later _ _ _ _ _).mp stranded.fails⟩

section Sample

def sampleElsewhere : List Label := sampleSubmission ++ .arrive 4 .createConversation :: handled 1 1

end Sample

-- The database is lost when the history is read.
theorem failed_submission_traceless_iff_lost :
    ∃ system final, runFrom System.step (serving sampleStore 10) sampleElsewhere = some system ∧
      System.serve system 4 (.waits (.findConversation 17 "How many rows?" (some 8))) [.performed 0, .performed 0, .lost] =
        some (final, .raised) ∧
      final.store.recordOf 17 = system.store.recordOf 17 := by
  refine ⟨_, _, rfl, rfl, (failed_submission_traceless_iff sampleStore 10 sampleElsewhere _ _ 4 17 "How many rows?" (some 8)
    [.performed 0, .performed 0, .lost] .raised ?_ rfl rfl).mpr ?_ rfl⟩
  · simp [sampleStore, Store.rows, Chat.rows, opened]
  · exact lost_early _ 4 17 (some 8) _ (by simp)

-- The request id of the answer in workspace 2 leaves a question in workspace 4.
theorem question_stranded :
    ¬ ∀ (store : Store) (nextId : Uuid) (before : List Label) (system final : System) (workspaceId conversationId : Uuid)
        (content : String) (clientRequestId : Option Uuid) (awaits : List StoreAwait) (outcome : Outcome),
        (∀ row ∈ store.rows, row.id < nextId) → runFrom System.step (serving store nextId) before = some system →
        (system.arrive (.streamMessage conversationId content clientRequestId)).1.serve workspaceId
          (system.arrive (.streamMessage conversationId content clientRequestId)).2 awaits = some (final, outcome) →
        outcome.isError = true → final.store.recordOf conversationId = system.store.recordOf conversationId := by
  intro claim
  obtain ⟨system, final, reached, served, sizes⟩ : ∃ system final,
      runFrom System.step (serving sampleStore 10) sampleElsewhere = some system ∧
      System.serve system 4 (.waits (.findConversation 17 "How many rows?" (some 7))) (List.replicate 5 (.performed 0)) =
        some (final, .responded (.failed .integrity)) ∧
      (final.store.recordOf 17).map (fun record => record.1.length) = [1] ∧
      (system.store.recordOf 17).map (fun record => record.1.length) = [0] := ⟨_, _, rfl, rfl, rfl, rfl⟩
  have same := claim sampleStore 10 sampleElsewhere system final 4 17 "How many rows?" (some 7) _ _
    (by simp [sampleStore, Store.rows, Chat.rows, opened]) reached served rfl
  rw [same, sizes.2] at sizes
  cases sizes.1

end DataPilot.Chat
