import DataPilot.Base.Repr
import DataPilot.Chat.Store

set_option autoImplicit false

namespace DataPilot.Chat

open DataPilot.Base DataPilot.Agent

variable {α : Type}

-- items[start:]
def sliceFrom (start : Int) (items : List α) : List α :=
  items.drop (if start < 0 then (items.length + start).toNat else start.toNat)

-- text[:stop]
def sliceTo (text : String) (stop : Int) : String :=
  slice text (if stop < 0 then (text.length + stop).toNat else stop.toNat)

theorem slice_from_end (limit : Nat) (items : List α) (positive : 0 < limit) :
    sliceFrom (-limit) items = items.drop (items.length - limit) := by
  rw [sliceFrom, if_pos (by omega)]
  congr 1
  omega

theorem slice_from_zero (items : List α) : sliceFrom (-(0 : Nat)) items = items := rfl

theorem slice_to_nat (text : String) (stop : Nat) : sliceTo text stop = slice text stop := by
  rw [sliceTo, if_neg (by omega), Int.toNat_natCast]

section Content

-- A tool result as the JSON column of its step gives it back.
variable (stored : PyValue → Json)

def executionDetail (execution : ToolExecution) : String :=
  let result := match stored execution.result with
    | .obj fields => fields
    | _ => []
  let columns := pyStr (dictGet "columns" result)
  let rowCount := pyStr (dictGet "row_count" result)
  let tableName := pyStr (dictGet "table_name" result)
  let error := execution.error.getD ""
  if dictHas "rows" result then s!"columns={columns}, row_count={rowCount}"
  else if dictHas "table_name" result then s!"table={tableName}"
  else
    match dictGet "kind" result with
    | .str "chart" => "chart_rendered=true"
    | _ => if error = "" then "result=available" else s!"error={slice error 200}"

def historyStepSummary (step : AgentStep) : String :=
  let executions := step.toolExecutions.map fun execution => s!"{execution.toolName}: {executionDetail stored execution}"
  s!"- step {step.step}: " ++ "; ".intercalate executions

def historyContent (message : Message) : String :=
  let content := message.content.getD ""
  let summaries := (message.steps.filter fun step => !step.toolExecutions.isEmpty).map (historyStepSummary stored)
  let parts := (if content = "" then [] else [content]) ++
    if summaries.isEmpty then [] else ["历史工具执行摘要：\n" ++ "\n".intercalate summaries]
  slice ("\n\n".intercalate parts) 6000

def historyRole : MessageRole → Option ChatRole
  | .user => some .user
  | .assistant => some .assistant
  | _ => none

structure ConversationService where
  historyCharBudget : Int := 12000

-- The loop of get_history over the messages from the newest on, as what it
-- appends to the selected ones.
def selectHistory (remaining : Int) : List Message → List ChatMessage
  | [] => []
  | message :: older =>
      match historyRole message.role with
      | none => selectHistory remaining older
      | some role =>
          if historyContent stored message = "" then selectHistory remaining older
          else
            let content := sliceTo (historyContent stored message) remaining
            if content = "" then []
            else
              let remaining := remaining - content.length
              { role, content := some content } :: if remaining ≤ 0 then [] else selectHistory remaining older

def ConversationService.getHistory (service : ConversationService) (store : Store) (workspaceId conversationId : Uuid)
    (limit : Int) : List ChatMessage :=
  match store.getConversation workspaceId conversationId with
  | none => []
  | some conversation =>
      (selectHistory stored service.historyCharBudget (sliceFrom (-limit) conversation.messages).reverse).reverse

-- What a message has to say in a history.
def historyEntry (message : Message) : Option ChatMessage :=
  (historyRole message.role).bind fun role =>
    if historyContent stored message = "" then none else some { role, content := some (historyContent stored message) }

def eligible (messages : List Message) : List ChatMessage := messages.filterMap (historyEntry stored)

end Content

def lastMessages (limit : Nat) (messages : List Message) : List Message := messages.drop (messages.length - limit)

def historyLength (entries : List ChatMessage) : Nat := (entries.map fun entry => entry.text.length).sum

inductive Shown : List ChatMessage → List ChatMessage → Prop where
  | whole (entries : List ChatMessage) : Shown entries entries
  | cut (oldest : ChatMessage) (text : String) (newer : List ChatMessage) (front : text.toList <+: oldest.text.toList)
      (proper : text ≠ oldest.text) : Shown (oldest :: newer) ({ oldest with content := some text } :: newer)

-- A suffix of the entries within the budget, and all of the budget if anything is missing.
def Windowed (entries : List ChatMessage) (budget : Nat) (shown : List ChatMessage) : Prop :=
  ∃ left kept, entries = left ++ kept ∧ Shown kept shown ∧ historyLength shown ≤ budget ∧
    (left ≠ [] ∨ shown ≠ kept → historyLength shown = budget)

theorem history_length_snoc (entries : List ChatMessage) (entry : ChatMessage) :
    historyLength (entries ++ [entry]) = historyLength entries + entry.text.length := by
  simp [historyLength]

theorem shown_newer (kept shown : List ChatMessage) (entry : ChatMessage) (seen : Shown kept shown) :
    Shown (kept ++ [entry]) (shown ++ [entry]) := by
  cases seen with
  | whole => exact .whole (kept ++ [entry])
  | cut oldest text newer front proper => exact .cut oldest text (newer ++ [entry]) front proper

theorem windowed_nothing (budget : Nat) : Windowed [] budget [] :=
  ⟨[], [], rfl, .whole [], Nat.zero_le _, fun missing => by simp at missing⟩

theorem windowed_spent (entries : List ChatMessage) : Windowed entries 0 [] :=
  ⟨entries, [], (List.append_nil _).symm, .whole [], Nat.le_refl _, fun _ => rfl⟩

theorem windowed_newer (entries shown : List ChatMessage) (budget : Nat) (entry : ChatMessage)
    (windowed : Windowed entries budget shown) :
    Windowed (entries ++ [entry]) (budget + entry.text.length) (shown ++ [entry]) := by
  obtain ⟨left, kept, whole, seen, within, full⟩ := windowed
  refine ⟨left, kept ++ [entry], ?_, shown_newer kept shown entry seen, ?_, ?_⟩
  · rw [whole, List.append_assoc]
  · rw [history_length_snoc]
    omega
  · intro missing
    rw [history_length_snoc, full]
    rcases missing with more | different
    · exact .inl more
    · exact .inr fun same => different (congrArg (· ++ [entry]) same)

theorem windowed_cut (entries : List ChatMessage) (budget : Nat) (entry : ChatMessage) (exceeds : budget < entry.text.length) :
    Windowed (entries ++ [entry]) budget [{ entry with content := some (slice entry.text budget) }] := by
  have size : (slice entry.text budget).length = budget := by
    rw [slice, String.length_ofList, List.length_take, String.length_toList]
    omega
  have proper : slice entry.text budget ≠ entry.text := by
    intro same
    rw [same] at size
    omega
  have total : historyLength [{ entry with content := some (slice entry.text budget) }] = budget := by
    simpa [historyLength, ChatMessage.text] using size
  have front := slice_prefix entry.text budget
  exact ⟨entries, [entry], rfl, .cut entry _ [] front proper, Nat.le_of_eq total, fun _ => total⟩

section History

variable (stored : PyValue → Json)

theorem entry_text (message : Message) (entry : ChatMessage) (speaks : historyEntry stored message = some entry) :
    ∃ role, historyRole message.role = some role ∧ historyContent stored message ≠ "" ∧
      entry = { role, content := some (historyContent stored message) } := by
  rw [historyEntry] at speaks
  cases known : historyRole message.role with
  | none =>
      rw [known] at speaks
      cases speaks
  | some role =>
      rw [known, Option.bind_some] at speaks
      by_cases silent : historyContent stored message = ""
      · rw [if_pos silent] at speaks
        cases speaks
      · rw [if_neg silent] at speaks
        cases speaks
        exact ⟨role, rfl, silent, rfl⟩

theorem select_skips (remaining : Int) (message : Message) (older : List Message) (silent : historyEntry stored message = none) :
    selectHistory stored remaining (message :: older) = selectHistory stored remaining older := by
  rw [historyEntry] at silent
  rw [selectHistory]
  cases known : historyRole message.role with
  | none => rfl
  | some role =>
      rw [known, Option.bind_some] at silent
      by_cases empty : historyContent stored message = ""
      · exact if_pos empty
      · rw [if_neg empty] at silent
        cases silent

theorem eligible_snoc (messages : List Message) (message : Message) :
    eligible stored (messages ++ [message]) = eligible stored messages ++ (historyEntry stored message).toList := by
  rw [eligible, eligible, List.filterMap_append]
  cases speaks : historyEntry stored message with
  | none => simp [speaks]
  | some entry => simp [speaks]

-- Over the messages from the oldest on: the newest is the last of the induction.
theorem selected_windowed (messages : List Message) (budget : Nat) :
    Windowed (eligible stored messages) budget (selectHistory stored budget messages.reverse).reverse := by
  induction messages using List.reverseRecOn generalizing budget with
  | nil => exact windowed_nothing budget
  | append_singleton older message ih =>
      rw [List.reverse_append, List.reverse_singleton, List.singleton_append, eligible_snoc]
      cases speaks : historyEntry stored message with
      | none =>
          rw [select_skips stored budget message _ speaks, Option.toList_none, List.append_nil]
          exact ih budget
      | some entry =>
          obtain ⟨role, known, speaking, rfl⟩ := entry_text stored message entry speaks
          rw [selectHistory, known, Option.toList_some]
          dsimp only
          rw [if_neg speaking, slice_to_nat]
          generalize historyContent stored message = content at speaking ⊢
          have filled : content.length ≠ 0 := fun empty => speaking (String.length_eq_zero_iff.mp empty)
          by_cases exceeds : budget < content.length
          · have size : (slice content budget).length = budget := by
              rw [slice, String.length_ofList, List.length_take, String.length_toList]
              omega
            by_cases nothing : slice content budget = ""
            · rw [nothing] at size
              obtain rfl : budget = 0 := size.symm
              rw [if_pos nothing]
              exact windowed_spent _
            · rw [if_neg nothing, if_pos (by omega)]
              exact windowed_cut _ budget { role, content := some content } exceeds
          · have whole : slice content budget = content := slice_full content budget (Nat.le_of_not_lt exceeds)
            rw [whole, if_neg speaking]
            have later := fun rest => windowed_newer (eligible stored older) rest (budget - content.length)
              { role, content := some content }
            by_cases spent : (budget : Int) - content.length ≤ 0
            · rw [if_pos spent]
              have exact : budget - content.length = 0 := by omega
              have windowed := later [] (exact ▸ windowed_spent _)
              have total : budget - content.length + content.length = budget := by omega
              simpa [ChatMessage.text, total] using windowed
            · have remaining : (budget : Int) - content.length = (budget - content.length : Nat) := by omega
              rw [if_neg spent, remaining, List.reverse_cons]
              have windowed := later _ (ih (budget - content.length))
              have total : budget - content.length + content.length = budget := by omega
              simpa [ChatMessage.text, total] using windowed

theorem windowed_none (budget : Nat) (shown : List ChatMessage) (windowed : Windowed [] budget shown) : shown = [] := by
  obtain ⟨left, kept, whole, seen, _⟩ := windowed
  obtain ⟨-, rfl⟩ := List.append_eq_nil_iff.mp whole.symm
  cases seen
  rfl

theorem windowed_some (entries : List ChatMessage) (budget : Nat) (windowed : Windowed entries budget [])
    (filled : entries ≠ []) : budget = 0 := by
  obtain ⟨left, kept, whole, seen, _, full⟩ := windowed
  cases seen
  rw [List.append_nil] at whole
  exact (full (.inl (whole ▸ filled))).symm

theorem selected_none (messages : List Message) (budget : Nat)
    (nothing : (selectHistory stored budget messages.reverse).reverse = []) : budget = 0 ∨ eligible stored messages = [] := by
  have windowed := selected_windowed stored messages budget
  rw [nothing] at windowed
  by_cases silent : eligible stored messages = []
  · exact .inr silent
  · exact .inl (windowed_some _ budget windowed silent)

theorem select_spent (messages : List Message) : selectHistory stored 0 messages = [] := by
  induction messages with
  | nil => rfl
  | cons message older ih =>
      cases speaks : historyEntry stored message with
      | none => exact (select_skips stored 0 message older speaks).trans ih
      | some entry =>
          obtain ⟨role, known, speaking, _⟩ := entry_text stored message entry speaks
          rw [selectHistory, known]
          dsimp only
          rw [if_neg speaking]
          exact if_pos rfl

theorem get_history_windowed_iff (service : ConversationService) (store : Store) (workspaceId conversationId : Uuid)
    (conversation : Conversation) (limit budget : Nat)
    (found : store.getConversation workspaceId conversationId = some conversation)
    (configured : service.historyCharBudget = budget) :
    Windowed (eligible stored (lastMessages limit conversation.messages)) budget
        (service.getHistory stored store workspaceId conversationId limit) ↔
      0 < limit ∨ budget = 0 ∨ eligible stored conversation.messages = [] := by
  rw [ConversationService.getHistory, found, configured]
  dsimp only
  by_cases positive : 0 < limit
  · rw [slice_from_end limit _ positive]
    exact iff_of_true (selected_windowed stored _ budget) (.inl positive)
  · obtain rfl : limit = 0 := Nat.eq_zero_of_not_pos positive
    have nothing : lastMessages 0 conversation.messages = [] := List.drop_length
    rw [slice_from_zero, nothing]
    refine ⟨fun windowed => .inr (selected_none stored _ budget (windowed_none budget _ windowed)), fun condition => ?_⟩
    rcases condition with never | rfl | silent
    · exact absurd never positive
    · rw [Int.natCast_zero, select_spent]
      exact windowed_spent _
    · have all := selected_windowed stored conversation.messages budget
      rw [silent] at all
      exact all

end History

def askedConversation : Conversation := (opened 2 1 0).add { role := .user, content := some "How many rows?" } 16 0

def askedStore : Store where
  conversations := [askedConversation]
  conversationIds := by simp
  messageIds := by simp [Chat.rows, askedConversation, opened, Conversation.add]
  requestIds := by simp [Chat.rows, askedConversation, opened, Conversation.add, NewMessage.message]

def jsonColumn (value : PyValue) : Json := value.jsonable.toOption.getD .null

theorem get_history_windowed_iff_asked :
    Windowed (eligible jsonColumn (lastMessages 20 askedConversation.messages)) 12000
        (({} : ConversationService).getHistory jsonColumn askedStore 2 1 20) ↔
      0 < 20 ∨ 12000 = 0 ∨ eligible jsonColumn askedConversation.messages = [] :=
  get_history_windowed_iff jsonColumn {} askedStore 2 1 askedConversation 20 12000 rfl rfl

-- A limit of no messages takes them all.
theorem no_messages_takes_all :
    ¬ ∀ (stored : PyValue → Json) (service : ConversationService) (store : Store) (workspaceId conversationId : Uuid)
        (conversation : Conversation) (limit budget : Nat),
        store.getConversation workspaceId conversationId = some conversation → service.historyCharBudget = budget →
          Windowed (eligible stored (lastMessages limit conversation.messages)) budget
            (service.getHistory stored store workspaceId conversationId limit) := by
  intro claim
  have windowed := claim jsonColumn {} askedStore 2 1 askedConversation 0 12000 rfl rfl
  have nothing : lastMessages 0 askedConversation.messages = [] := List.drop_length
  rw [nothing] at windowed
  have nothing := windowed_none 12000 _ windowed
  rcases selected_none jsonColumn askedConversation.messages 12000 nothing with spent | silent
  · cases spent
  · have speaks : (eligible jsonColumn askedConversation.messages).length = 1 := by decide +kernel
    rw [silent] at speaks
    cases speaks

end DataPilot.Chat
