import Mathlib.Data.List.Induction
import DataPilot.Agent.ModelStream

set_option autoImplicit false

namespace DataPilot.Agent

open DataPilot.Base

def StreamEvent.text : StreamEvent → Option String
  | .textDelta content => some (content.getD "")
  | _ => none

def StreamEvent.fragment : StreamEvent → Option ToolCallDelta
  | .toolCallDelta delta => delta
  | _ => none

def StreamEvent.reported : StreamEvent → Option TokenUsage
  | .usage spent => spent
  | _ => none

def StreamEvent.reason : StreamEvent → Option (Option String)
  | .finish reason => some reason
  | _ => none

def spokenText (events : List StreamEvent) : String := String.join (events.filterMap StreamEvent.text)

def fragments (events : List StreamEvent) : List ToolCallDelta := events.filterMap StreamEvent.fragment

def lastUsage (events : List StreamEvent) : TokenUsage := (events.filterMap StreamEvent.reported).getLastD {}

def lastReason (events : List StreamEvent) : Option String := (events.filterMap StreamEvent.reason).getLastD none

def lastText (values : List (Option String)) : String :=
  ((values.map fun value => value.getD "").filter (· ≠ "")).getLastD ""

def assembled (deltas : List ToolCallDelta) (index : Nat) : CallBuilder :=
  let own := deltas.filter fun delta => delta.index = index
  ⟨lastText (own.map ToolCallDelta.id), lastText (own.map ToolCallDelta.name),
    String.join (own.map fun delta => delta.argumentsDelta.getD "")⟩

theorem last_text_snoc (values : List (Option String)) (value : Option String) :
    lastText (values ++ [value]) = override (lastText values) value := by
  unfold lastText override orElseText
  by_cases empty : value.getD "" = "" <;> simp [empty]

theorem assembled_snoc (deltas : List ToolCallDelta) (delta : ToolCallDelta) (index : Nat) :
    assembled (deltas ++ [delta]) index =
      if index = delta.index then (assembled deltas index).extend delta else assembled deltas index := by
  by_cases own : delta.index = index
  · rw [if_pos own.symm]
    simp [assembled, own, CallBuilder.extend, last_text_snoc, String.join_append]
  · rw [if_neg (Ne.symm own)]
    simp [assembled, own]

def builderAt (parts : CallParts) (index : Nat) : CallBuilder :=
  ((parts.find? fun part => part.1 = index).map Prod.snd).getD {}

theorem builder_at_extend (delta : ToolCallDelta) (parts : CallParts) (index : Nat) :
    builderAt (extendParts delta parts) index =
      if index = delta.index then (builderAt parts index).extend delta else builderAt parts index := by
  induction parts with
  | nil =>
      by_cases own : index = delta.index
      · simp [extendParts, builderAt, own]
      · simp [extendParts, builderAt, own, Ne.symm own]
  | cons part rest ih =>
      obtain ⟨key, builder⟩ := part
      rw [extendParts]
      by_cases found : key = delta.index
      · subst found
        by_cases own : index = delta.index
        · simp [builderAt, own]
        · simp [builderAt, own, Ne.symm own]
      · rw [if_neg found]
        by_cases own : key = index
        · have other : index ≠ delta.index := own ▸ found
          simp [builderAt, own, other]
        · simpa [builderAt, own] using ih

theorem extend_parts_keys (delta : ToolCallDelta) (parts : CallParts) :
    (extendParts delta parts).map Prod.fst =
      if delta.index ∈ parts.map Prod.fst then parts.map Prod.fst else parts.map Prod.fst ++ [delta.index] := by
  induction parts with
  | nil => rfl
  | cons part rest ih =>
      obtain ⟨key, builder⟩ := part
      rw [extendParts]
      by_cases found : key = delta.index
      · simp [found]
      · rw [if_neg found, List.map_cons, ih]
        by_cases later : delta.index ∈ rest.map Prod.fst <;> simp [later, Ne.symm found]

theorem parts_of_keys (parts : CallParts) (distinct : (parts.map Prod.fst).Nodup) :
    parts = (parts.map Prod.fst).map fun index => (index, builderAt parts index) := by
  induction parts with
  | nil => rfl
  | cons part rest ih =>
      obtain ⟨key, builder⟩ := part
      obtain ⟨fresh, distinct⟩ := List.nodup_cons.mp distinct
      rw [List.map_cons, List.map_cons]
      have here : builderAt ((key, builder) :: rest) key = builder := by simp [builderAt]
      rw [here]
      refine congrArg _ ((ih distinct).trans (List.map_congr_left fun index member => ?_))
      have other : key ≠ index := fun same => fresh (same ▸ member)
      simp [builderAt, other]

structure Buffered (deltas : List ToolCallDelta) (parts : CallParts) : Prop where
  distinct : (parts.map Prod.fst).Nodup
  indexes : ∀ index, index ∈ parts.map Prod.fst ↔ index ∈ deltas.map ToolCallDelta.index
  builders : ∀ index, builderAt parts index = assembled deltas index

theorem buffered_step (deltas : List ToolCallDelta) (parts : CallParts) (delta : ToolCallDelta)
    (buffered : Buffered deltas parts) : Buffered (deltas ++ [delta]) (extendParts delta parts) := by
  obtain ⟨distinct, indexes, builders⟩ := buffered
  refine ⟨?_, fun index => ?_, fun index => ?_⟩
  · rw [extend_parts_keys]
    by_cases known : delta.index ∈ parts.map Prod.fst
    · rw [if_pos known]
      exact distinct
    · rw [if_neg known, List.nodup_append]
      refine ⟨distinct, List.nodup_singleton _, ?_⟩
      rintro key member _ last rfl
      rw [List.mem_singleton] at last
      exact known (last ▸ member)
  · rw [extend_parts_keys, List.map_append, List.mem_append, ← indexes]
    by_cases known : delta.index ∈ parts.map Prod.fst
    · have last : index ∈ [delta].map ToolCallDelta.index → index ∈ parts.map Prod.fst := by
        intro only
        rw [List.map_singleton, List.mem_singleton] at only
        exact only ▸ known
      rw [if_pos known]
      exact (or_iff_left_of_imp last).symm
    · rw [if_neg known]
      exact List.mem_append
  · rw [builder_at_extend, assembled_snoc, builders]

def extendAll (deltas : List ToolCallDelta) (parts : CallParts) : CallParts :=
  deltas.foldl (fun parts delta => extendParts delta parts) parts

theorem buffered_all (deltas : List ToolCallDelta) : Buffered deltas (extendAll deltas []) := by
  induction deltas using List.reverseRecOn with
  | nil => exact ⟨List.nodup_nil, fun _ => Iff.rfl, fun _ => rfl⟩
  | append_singleton deltas delta ih =>
      rw [extendAll, List.foldl_concat]
      exact buffered_step deltas _ delta ih

theorem read_events_said (buffer : StreamBuffer) (events : List StreamEvent) :
    String.join (readEvents buffer events).1.textParts = String.join buffer.textParts ++ spokenText events ∧
      (readEvents buffer events).1.toolCallParts = extendAll (fragments events) buffer.toolCallParts ∧
      (readEvents buffer events).1.usage = (events.filterMap StreamEvent.reported).getLastD buffer.usage ∧
      (readEvents buffer events).1.finishReason =
        (events.filterMap StreamEvent.reason).getLastD buffer.finishReason := by
  induction events generalizing buffer with
  | nil => simp [readEvents, spokenText, fragments, extendAll]
  | cons event rest ih =>
      obtain ⟨text, parts, usage, reason⟩ := ih (readEvent buffer event).1
      rw [readEvents, text, parts, usage, reason]
      simp only [spokenText, fragments, List.filterMap_cons]
      cases event with
      | textDelta content =>
          by_cases silent : content.getD "" = ""
          · simp [readEvent, silent, StreamEvent.text, StreamEvent.fragment, StreamEvent.reported, StreamEvent.reason]
          · simp [readEvent, silent, StreamEvent.text, StreamEvent.fragment, StreamEvent.reported, StreamEvent.reason,
              String.join_append, String.append_assoc]
      | toolCallDelta delta =>
          cases delta <;> simp [readEvent, extendAll, StreamEvent.text, StreamEvent.fragment, StreamEvent.reported,
            StreamEvent.reason]
      | usage spent =>
          cases spent <;> simp only [readEvent, StreamEvent.text, StreamEvent.fragment, StreamEvent.reported,
            StreamEvent.reason, List.getLastD_cons, and_self]
      | finish reason =>
          simp only [readEvent, StreamEvent.text, StreamEvent.fragment, StreamEvent.reported, StreamEvent.reason,
            List.getLastD_cons, and_self]

def Writes (text : String) (arguments : Dict) : Prop :=
  if text = "" then arguments = [] else loads text = some (.obj arguments)

def Spells (builder : CallBuilder) (call : ToolCall) : Prop :=
  builder.id = call.id ∧ builder.name = call.name ∧ Writes builder.arguments call.arguments

variable (host : Host)

theorem assemble_call_spelled (index : Nat) (builder : CallBuilder) (call : ToolCall) (named : builder.name ≠ "")
    (spelled : Spells builder call) : assembleCall host index builder named = .ok call := by
  obtain ⟨id, name, arguments, given, called⟩ := call
  obtain ⟨sameId, sameName, written⟩ := spelled
  have loaded : loads (orElseText builder.arguments "\x7b\x7d") = some (.obj arguments) := by
    unfold Writes at written
    unfold orElseText
    by_cases silent : builder.arguments = ""
    · rw [if_pos silent] at written ⊢
      dsimp only at written
      rw [written]
      rfl
    · rw [if_neg silent] at written ⊢
      exact written
  have present : builder.id ≠ "" := sameId ▸ given
  unfold assembleCall
  rw [loaded]
  dsimp only
  rw [dif_pos present]
  simp only [sameId, sameName]

theorem assemble_parts_spelled (indexes : List Nat) (builders : Nat → CallBuilder) (calls : List ToolCall)
    (spelled : List.Forall₂ (fun index call => Spells (builders index) call) indexes calls) :
    assembleParts host (indexes.map fun index => (index, builders index)) = .ok calls := by
  induction spelled with
  | nil => rfl
  | @cons index call indexes calls first _ ih =>
      have named : (builders index).name ≠ "" := first.2.1 ▸ call.nameNonempty
      rw [List.map_cons, assembleParts, dif_pos named, assemble_call_spelled host index _ call named first, ih]
      rfl

theorem buffered_parts (deltas : List ToolCallDelta) :
    extendAll deltas [] = ((extendAll deltas []).map Prod.fst).map fun index => (index, assembled deltas index) := by
  obtain ⟨distinct, _, builders⟩ := buffered_all deltas
  conv_lhs => rw [parts_of_keys _ distinct]
  exact List.map_congr_left fun index _ => by rw [builders]

theorem assemble_calls_sorted (deltas : List ToolCallDelta) (indexes : List Nat) (increasing : indexes.Pairwise (· < ·))
    (used : ∀ index, index ∈ indexes ↔ index ∈ deltas.map ToolCallDelta.index) :
    assembleToolCalls host (extendAll deltas []) =
      assembleParts host (indexes.map fun index => (index, assembled deltas index)) := by
  obtain ⟨distinct, known, _⟩ := buffered_all deltas
  have keys : ((extendAll deltas []).map Prod.fst).insertionSort (· ≤ ·) = indexes := by
    have same : ((extendAll deltas []).map Prod.fst).Perm indexes :=
      (List.perm_ext_iff_of_nodup distinct (increasing.imp Nat.ne_of_lt)).mpr fun index =>
        (known index).trans (used index).symm
    exact ((List.perm_insertionSort _ _).trans same).eq_of_pairwise (fun _ _ _ _ => Nat.le_antisymm)
      (List.pairwise_insertionSort _ _) (increasing.imp Nat.le_of_lt)
  rw [assembleToolCalls, buffered_parts, ← keys]
  refine congrArg _ ?_
  symm
  exact List.map_insertionSort (· ≤ ·) (fun a b : Nat × CallBuilder => a.1 ≤ b.1) _ _ fun _ _ _ _ => Iff.rfl

theorem assemble_calls_spelled (deltas : List ToolCallDelta) (indexes : List Nat) (calls : List ToolCall)
    (increasing : indexes.Pairwise (· < ·)) (used : ∀ index, index ∈ indexes ↔ index ∈ deltas.map ToolCallDelta.index)
    (spelled : List.Forall₂ (fun index call => Spells (assembled deltas index) call) indexes calls) :
    assembleToolCalls host (extendAll deltas []) = .ok calls := by
  rw [assemble_calls_sorted host deltas indexes increasing used]
  exact assemble_parts_spelled host indexes (assembled deltas) calls spelled

end DataPilot.Agent
