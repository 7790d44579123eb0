import DataPilot.Chat.PersistedSteps
import DataPilot.Chat.StreamPosition

set_option autoImplicit false

namespace DataPilot.Chat

open DataPilot.Base DataPilot.Agent

-- assistantMessage of the chat store; none stands for its local id.
structure AssistantView where
  id : Option Uuid := none
  content : String := ""
  steps : List AgentStep := []
  status : MessageStatus := .streaming

-- The members of event.data that the chat store reads.
def ServerEvent.assistantMessageId : ServerEvent → Option Uuid
  | .broker (.start _ id _ _) => some id
  | .snapshotStart _ id => some id
  | _ => none

def ServerEvent.step : ServerEvent → Option AgentStep
  | .broker (.runtime event) => event.step
  | .snapshotStep step => some step
  | _ => none

def ServerEvent.text : ServerEvent → Option String
  | .broker (.runtime event) => event.text
  | .snapshotText text => some text
  | _ => none

-- The event handler of sendMessage.
def AssistantView.handle (view : AssistantView) (event : ServerEvent) : AssistantView :=
  if event.name = "start" then { view with id := event.assistantMessageId.or view.id }
  else if event.name = "step" then { view with steps := view.steps ++ event.step.toList }
  else if event.name = "text" then { view with content := view.content ++ event.text.getD "" }
  else if event.name = "text_reset" then { view with content := "" }
  else if event.name = "done" then { view with status := .completed }
  else if event.name = "aborted" then { view with status := .aborted }
  else if event.name = "error" then { view with status := .error }
  else view

def AssistantView.handleAll (view : AssistantView) (events : List ServerEvent) : AssistantView :=
  events.foldl AssistantView.handle view

@[simp] theorem handle_all_append (view : AssistantView) (first second : List ServerEvent) :
    view.handleAll (first ++ second) = (view.handleAll first).handleAll second := List.foldl_append

def brokerStep : BrokerEvent → Option AgentStep
  | .runtime event => event.carriedStep
  | _ => none

theorem handle_broker (view : AssistantView) (event : BrokerEvent) :
    (view.handle (.broker event)).content = foldText view.content (brokerChange event).toList ∧
      (view.handle (.broker event)).steps = view.steps ++ (brokerStep event).toList := by
  cases event with
  | runtime event =>
      cases type : event.type <;>
        simp [AssistantView.handle, ServerEvent.name, BrokerEvent.name, RuntimeEventType.value, type, brokerChange,
          brokerStep, RuntimeEvent.carriedStep, foldText, TextChange.apply, ServerEvent.text, ServerEvent.step]
  | _ => simp [AssistantView.handle, ServerEvent.name, BrokerEvent.name, brokerChange, brokerStep, foldText]

theorem handle_all_broker (view : AssistantView) (events : List BrokerEvent) :
    (view.handleAll (events.map .broker)).content = foldText view.content (events.filterMap brokerChange) ∧
      (view.handleAll (events.map .broker)).steps = view.steps ++ events.filterMap brokerStep := by
  induction events generalizing view with
  | nil => exact ⟨rfl, (List.append_nil _).symm⟩
  | cons event rest ih =>
      obtain ⟨content, steps⟩ := handle_broker view event
      obtain ⟨contents, later⟩ := ih (view.handle (.broker event))
      rw [List.map_cons, AssistantView.handleAll, List.foldl_cons]
      refine ⟨contents.trans ?_, later.trans ?_⟩
      · rw [content, ← fold_text_append]
        cases change : brokerChange event <;> simp [change]
      · rw [steps, List.append_assoc]
        cases step : brokerStep event <;> simp [step]

-- A snapshot as a client gets it.
def snapshotSent (conversationId : Uuid) (message : Message) : List (String × ServerEvent) :=
  (snapshotFrames conversationId message).filterMap SseFrame.received

theorem received_cons (id : String) (sent : ServerEvent) (frames : List SseFrame) :
    (.event id sent :: frames).filterMap SseFrame.received = (id, sent) :: frames.filterMap SseFrame.received := rfl

theorem snapshot_steps_received (steps : List AgentStep) :
    (steps.map fun step => SseFrame.event s!"snapshot-step-{step.step}" (.snapshotStep step)).filterMap SseFrame.received =
      steps.map fun step => (s!"snapshot-step-{step.step}", ServerEvent.snapshotStep step) := by
  induction steps with
  | nil => rfl
  | cons step rest ih => rw [List.map_cons, received_cons, ih, List.map_cons]

theorem snapshot_sent_parts (conversationId : Uuid) (message : Message) :
    snapshotSent conversationId message =
      ("snapshot-start", .snapshotStart conversationId message.id) ::
        message.steps.map (fun step => (s!"snapshot-step-{step.step}", ServerEvent.snapshotStep step)) ++
        (if message.content.getD "" = "" then [] else [("snapshot-text", .snapshotText (message.content.getD ""))]) ++
        [(s!"snapshot-{snapshotTerminalName message.status}",
          .snapshotTerminal (snapshotTerminalName message.status) message.id)] := by
  rw [snapshotSent, snapshotFrames, List.cons_append, List.cons_append, received_cons, List.filterMap_append,
    List.filterMap_append, snapshot_steps_received]
  split <;> rfl

theorem handle_snapshot_steps (view : AssistantView) (steps : List AgentStep) :
    view.handleAll (steps.map .snapshotStep) = { view with steps := view.steps ++ steps } := by
  induction steps generalizing view with
  | nil => simp [AssistantView.handleAll]
  | cons step rest ih =>
      rw [List.map_cons, AssistantView.handleAll, List.foldl_cons]
      refine (ih _).trans ?_
      simp [AssistantView.handle, ServerEvent.name, ServerEvent.step]

theorem handle_snapshot_terminal (view : AssistantView) (status : MessageStatus) (messageId : Uuid) :
    (view.handle (.snapshotTerminal (snapshotTerminalName status) messageId)).content = view.content ∧
      (view.handle (.snapshotTerminal (snapshotTerminalName status) messageId)).steps = view.steps := by
  cases status <;>
    simp [AssistantView.handle, ServerEvent.name, snapshotTerminalName, MessageStatus.text]

theorem handle_snapshot_text (view : AssistantView) (text : String) :
    view.handleAll (if text = "" then [] else [.snapshotText text]) = { view with content := view.content ++ text } := by
  split
  · rename_i empty
    simp [AssistantView.handleAll, empty]
  · rfl

theorem handle_snapshot (view : AssistantView) (conversationId : Uuid) (message : Message) :
    (view.handleAll ((snapshotSent conversationId message).map Prod.snd)).content = view.content ++ message.content.getD "" ∧
      (view.handleAll ((snapshotSent conversationId message).map Prod.snd)).steps = view.steps ++ message.steps := by
  have events : (snapshotSent conversationId message).map Prod.snd =
      [.snapshotStart conversationId message.id] ++ message.steps.map .snapshotStep ++
        (if message.content.getD "" = "" then [] else [.snapshotText (message.content.getD "")]) ++
        [.snapshotTerminal (snapshotTerminalName message.status) message.id] := by
    rw [snapshot_sent_parts]
    split <;> simp
  rw [events, handle_all_append, handle_all_append, handle_all_append, handle_snapshot_steps, handle_snapshot_text]
  exact handle_snapshot_terminal _ message.status message.id

theorem snapshot_sent_last (conversationId : Uuid) (message : Message) :
    ∃ before, snapshotSent conversationId message = before ++ [(s!"snapshot-{snapshotTerminalName message.status}",
      .snapshotTerminal (snapshotTerminalName message.status) message.id)] :=
  ⟨_, snapshot_sent_parts conversationId message⟩

theorem snapshot_sent_ids (conversationId : Uuid) (message : Message) :
    ∀ sent ∈ snapshotSent conversationId message, ∃ text, sent.1 = "snapshot-" ++ text := by
  intro sent member
  rw [snapshot_sent_parts] at member
  rcases List.mem_append.mp member with member | last
  · rcases List.mem_append.mp member with member | text
    · rcases List.mem_cons.mp member with rfl | stepped
      · exact ⟨"start", rfl⟩
      · obtain ⟨step, _, rfl⟩ := List.mem_map.mp stepped
        have prefixed : "snapshot-" ++ "step-" = "snapshot-step-" := by decide
        exact ⟨"step-" ++ toString step.step, by rw [← String.append_assoc, prefixed]; rfl⟩
    · split at text
      · cases text
      · rw [List.mem_singleton.mp text]
        exact ⟨"text", rfl⟩
  · rw [List.mem_singleton.mp last]
    exact ⟨snapshotTerminalName message.status, rfl⟩

end DataPilot.Chat
