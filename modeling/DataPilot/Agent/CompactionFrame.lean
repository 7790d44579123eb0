import DataPilot.Agent.CompactionMemory

set_option autoImplicit false

namespace DataPilot.Agent

open DataPilot.Base DataPilot.Tools

def KeepsFront (before after : ChatMessage) : Prop :=
  (before.content = none ∧ after.content = none) ∨
  ∃ text front, before.content = some text ∧ after.content = some front ∧ front.toList <+: text.toList

variable (loads : JsonLoads)

structure Preserves (config : AgentConfig) (messages compacted : List ChatMessage) : Prop where
  frames : List.Forall₂ SameFrame messages compacted
  within : ∀ once, FirstPass loads config messages once → totalChars once ≤ config.contextCharBudget →
    ∀ index message, messages[index]? = some message → ¬ OldTool config messages index message →
      compacted[index]? = some message
  protects : ∀ once, FirstPass loads config messages once → config.contextCharBudget < totalChars once →
    ∀ (index : Nat) (message : ChatMessage), messages[index]? = some message →
      message.role = .system ∨ RecentNonTool messages index message → compacted[index]? = some message
  shortens : ∀ once, FirstPass loads config messages once → config.contextCharBudget < totalChars once →
    ∀ (index : Nat) (message : ChatMessage), messages[index]? = some message → message.role ≠ .tool →
      ∃ after, compacted[index]? = some after ∧ KeepsFront message after

theorem keeps_front_same (message : ChatMessage) : KeepsFront message message := by
  cases content : message.content with
  | none => exact .inl ⟨content, content⟩
  | some text => exact .inr ⟨text, text, content, content, List.prefix_rfl⟩

theorem keeps_front_cut (message : ChatMessage) : KeepsFront message message.cut := by
  cases content : message.content with
  | none => exact .inl ⟨content, by rw [ChatMessage.cut, content, Option.map_none]⟩
  | some text =>
      refine .inr ⟨text, slice text 500, content, ?_, slice_prefix text 500⟩
      rw [ChatMessage.cut, content, Option.map_some]

theorem passes_ways (config : AgentConfig) (messages compacted : List ChatMessage)
    (done : compactionPasses loads config messages = .ok compacted) :
    ∃ once, FirstPass loads config messages once ∧ List.Forall₂ SameFrame messages once ∧
      ((totalChars once ≤ config.contextCharBudget ∧ compacted = once) ∨
        (config.contextCharBudget < totalChars once ∧ SecondPass loads messages once compacted)) := by
  unfold compactionPasses at done
  cases looped : rewriteFrom (compactOld loads (oldToolIndexes config messages)) 0 messages with
  | error failure => simp [looped] at done
  | ok once =>
      have first := first_pass_sound loads config messages once looped
      have frames := first_pass_frames loads config messages once looped
      simp only [looped] at done
      by_cases fits : totalChars once ≤ config.contextCharBudget
      · rw [if_pos fits, Except.ok.injEq] at done
        exact ⟨once, first, frames, .inl ⟨fits, done.symm⟩⟩
      · rw [if_neg fits] at done
        exact ⟨once, first, frames, .inr ⟨Nat.not_le.mp fits,
          second_pass_sound loads config messages once compacted first frames done⟩⟩

theorem passes_preserve (config : AgentConfig) (messages compacted : List ChatMessage)
    (done : compactionPasses loads config messages = .ok compacted) : Preserves loads config messages compacted := by
  obtain ⟨once, first, frames, ways⟩ := passes_ways loads config messages compacted done
  refine ⟨passes_frames loads config messages compacted done, ?_, ?_, ?_⟩
  · intro other pass fits index message found recent
    obtain rfl := first_pass_unique loads config messages once other first pass
    rcases ways with ⟨_, rfl⟩ | ⟨exceeds, _⟩
    · exact first.others index message found recent
    · exact absurd fits (Nat.not_le.mpr exceeds)
  · intro other pass exceeds index message found safe
    obtain rfl := first_pass_unique loads config messages once other first pass
    rcases ways with ⟨fits, _⟩ | ⟨_, second⟩
    · exact absurd fits (Nat.not_le.mpr exceeds)
    · exact second.protects index message found safe
  · intro other pass exceeds index message found plain
    obtain rfl := first_pass_unique loads config messages once other first pass
    rcases ways with ⟨fits, _⟩ | ⟨_, second⟩
    · exact absurd fits (Nat.not_le.mpr exceeds)
    by_cases safe : message.role = .system ∨ RecentNonTool messages index message
    · exact ⟨message, second.protects index message found safe, keeps_front_same message⟩
    · rw [not_or] at safe
      exact ⟨message.cut, second.cuts index message found plain safe.1 safe.2, keeps_front_cut message⟩

theorem passes_ok_iff (lawful : ReadsSummaries loads) (config : AgentConfig) (messages : List ChatMessage) :
    (∃ compacted, compactionPasses loads config messages = .ok compacted) ↔
      (∀ index message, messages[index]? = some message → OldTool config messages index message →
        ObjectOrNone loads message.text) ∧
      ∀ once, FirstPass loads config messages once → config.contextCharBudget < totalChars once →
        ∀ (index : Nat) (message : ChatMessage), messages[index]? = some message → message.role = .tool →
          ¬ OldTool config messages index message → ObjectOrNone loads message.text := by
  have looped := first_pass_ok_iff loads config messages
  constructor
  · rintro ⟨compacted, done⟩
    unfold compactionPasses at done
    cases result : rewriteFrom (compactOld loads (oldToolIndexes config messages)) 0 messages with
    | error failure => simp [result] at done
    | ok once =>
        have first := first_pass_sound loads config messages once result
        have frames := first_pass_frames loads config messages once result
        refine ⟨looped.mp ⟨once, result⟩, ?_⟩
        intro other pass exceeds
        obtain rfl := first_pass_unique loads config messages once other first pass
        simp only [result] at done
        rw [if_neg (Nat.not_le.mpr exceeds)] at done
        exact (second_pass_ok_iff loads lawful config messages once first frames).mp ⟨compacted, done⟩
  · rintro ⟨old, recent⟩
    obtain ⟨once, result⟩ := looped.mpr old
    have first := first_pass_sound loads config messages once result
    have frames := first_pass_frames loads config messages once result
    unfold compactionPasses
    rw [result]
    dsimp only
    by_cases fits : totalChars once ≤ config.contextCharBudget
    · exact ⟨once, by rw [if_pos fits]⟩
    · rw [if_neg fits]
      apply (second_pass_ok_iff loads lawful config messages once first frames).mpr
      exact recent once first (Nat.not_le.mp fits)

variable (interpreter : Interpreter)

-- Every message can be copied, and every tool result that a pass compacts reads
-- as an object or as no JSON.
structure Compactable (config : AgentConfig) (messages : List ChatMessage) : Prop where
  copies : ∀ message ∈ messages, interpreter.copyRaises message = none
  old : ∀ index message, messages[index]? = some message → OldTool config messages index message →
    ObjectOrNone interpreter.loads message.text
  recent : ∀ once, FirstPass interpreter.loads config messages once → config.contextCharBudget < totalChars once →
    ∀ (index : Nat) (message : ChatMessage), messages[index]? = some message → message.role = .tool →
      ¬ OldTool config messages index message → ObjectOrNone interpreter.loads message.text

theorem compacted_ok_iff (lawful : ReadsSummaries interpreter.loads) (config : AgentConfig) (messages : List ChatMessage) :
    (∃ compacted, compactedMessages interpreter config messages = .ok compacted) ↔ Compactable interpreter config messages := by
  have passed := passes_ok_iff interpreter.loads lawful config messages
  constructor
  · rintro ⟨compacted, done⟩
    obtain ⟨copies, passes⟩ := compacted_copied interpreter config messages compacted done
    obtain ⟨old, recent⟩ := passed.mp ⟨compacted, passes⟩
    exact ⟨copies, old, recent⟩
  · intro compactable
    obtain ⟨compacted, passes⟩ := passed.mpr ⟨compactable.old, compactable.recent⟩
    exact ⟨compacted, by rw [compactedMessages, List.findSome?_eq_none_iff.mpr compactable.copies]; exact passes⟩

theorem compaction_frame_iff (lawful : ReadsSummaries interpreter.loads) (memory : Memory) (config : AgentConfig)
    (messages : Nat) :
    (∃ compacted after, memory.compactedMessages interpreter config messages = .ok (compacted, after) ∧
      Untouched memory after ∧ Preserves interpreter.loads config (memory.read messages) (after.read compacted)) ↔
        Compactable interpreter config (memory.read messages) := by
  have refines := memory_refines memory interpreter config messages
  rw [← compacted_ok_iff interpreter lawful]
  constructor
  · rintro ⟨compacted, after, done, _, _⟩
    rw [done] at refines
    exact ⟨_, refines.symm⟩
  · rintro ⟨result, computed⟩
    rw [computed] at refines
    cases done : memory.compactedMessages interpreter config messages with
    | error failure => simp [done, Except.map] at refines
    | ok returned =>
        obtain ⟨compacted, after⟩ := returned
        obtain rfl : after.read compacted = result := by simpa [done, Except.map] using refines
        exact ⟨compacted, after, rfl, memory_untouched memory after interpreter config messages compacted done,
          passes_preserve interpreter.loads config _ _ (compacted_copied interpreter config _ _ computed).2⟩

def leastBudget : AgentConfig :=
  { (queryAgent "SELECT 1").config with contextCharBudget := 4000, charBudget := Nat.le_refl 4000 }

-- A list as the older of two tool results, the newest one of which is kept.
def listResult : Memory where
  objects := [{ role := .tool, name := some "list_tables", content := some "[]" },
    { role := .tool, name := some "list_tables", content := some "\x7b\x7d" }]
  lists := [[0, 1]]
  valid := by decide

def oneRecent : AgentConfig :=
  { (queryAgent "SELECT 1").config with
    keepRecentToolResults := 1, recentToolResults := ⟨Nat.le_refl 1, Nat.le_add_left 1 19⟩ }

def limitedInterpreter : Interpreter where
  loads := limitedLoads
  copyRaises _ := none

theorem limited_summaries : ReadsSummaries limitedInterpreter.loads :=
  reads_summaries limitedLoads fun fields => limited_object fields compactStyle

theorem compaction_frame_iff_list :
    (∃ compacted after, listResult.compactedMessages limitedInterpreter oneRecent 0 = .ok (compacted, after) ∧
      Untouched listResult after ∧
      Preserves limitedInterpreter.loads oneRecent (listResult.read 0) (after.read compacted)) ↔
        Compactable limitedInterpreter oneRecent (listResult.read 0) :=
  compaction_frame_iff limitedInterpreter limited_summaries listResult oneRecent 0

theorem list_result_raises :
    ¬ ∃ compacted after, listResult.compactedMessages limitedInterpreter oneRecent 0 = .ok (compacted, after) ∧
      Untouched listResult after ∧
      Preserves limitedInterpreter.loads oneRecent (listResult.read 0) (after.read compacted) := by
  rintro ⟨compacted, after, done, _, _⟩
  have raised : listResult.compactedMessages limitedInterpreter oneRecent 0 =
      .error ⟨"AttributeError", "'list' object has no attribute 'get'"⟩ := by rfl
  rw [raised] at done
  cases done

end DataPilot.Agent
