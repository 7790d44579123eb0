import DataPilot.Base.Positions
import DataPilot.Agent.ToolContent

set_option autoImplicit false

namespace DataPilot.Agent

open DataPilot.Base DataPilot.Tools

def OldTool (config : AgentConfig) (messages : List ChatMessage) (index : Nat) (message : ChatMessage) : Prop :=
  message.role = .tool ∧ config.keepRecentToolResults ≤ laterCount isTool messages index

def isNonTool (message : ChatMessage) : Bool := !isTool message

def RecentNonTool (messages : List ChatMessage) (index : Nat) (message : ChatMessage) : Prop :=
  message.role ≠ .tool ∧ laterCount isNonTool messages index < 6

theorem is_tool_iff (message : ChatMessage) : isTool message = true ↔ message.role = .tool := decide_eq_true_iff

theorem mem_old_tool_indexes (config : AgentConfig) (messages : List ChatMessage) (index : Nat) (message : ChatMessage)
    (found : messages[index]? = some message) :
    index ∈ oldToolIndexes config messages ↔ OldTool config messages index message := by
  rw [OldTool, ← is_tool_iff]
  apply (mem_older isTool config.keepRecentToolResults index messages).trans
  simp only [found, Option.some.injEq, exists_eq_left']

theorem mem_recent_non_tool (messages : List ChatMessage) (index : Nat) (message : ChatMessage)
    (found : messages[index]? = some message) :
    index ∈ recentNonTool messages ↔ RecentNonTool messages index message := by
  have nonTool : isNonTool message = true ↔ message.role ≠ .tool := by
    rw [isNonTool, Bool.not_eq_true', ← Bool.not_eq_true, is_tool_iff]
  rw [RecentNonTool, ← nonTool]
  apply (mem_newest isNonTool 6 index messages).trans
  simp only [found, Option.some.injEq, exists_eq_left']

section Rewriting

variable (rewrite : Nat → ChatMessage → Except PyException ChatMessage)

theorem rewrite_from_sound (start : Nat) (messages rewritten : List ChatMessage)
    (done : rewriteFrom rewrite start messages = .ok rewritten) :
    rewritten.length = messages.length ∧ ∀ offset message, messages[offset]? = some message →
      ∃ after, rewritten[offset]? = some after ∧ rewrite (start + offset) message = .ok after := by
  induction messages generalizing start rewritten with
  | nil =>
      cases done
      exact ⟨rfl, by simp⟩
  | cons message rest ih =>
      unfold rewriteFrom at done
      cases first : rewrite start message with
      | error failure => simp [first] at done
      | ok changed =>
          cases others : rewriteFrom rewrite (start + 1) rest with
          | error failure => simp [first, others, Except.map] at done
          | ok tail =>
              obtain ⟨sized, each⟩ := ih (start + 1) tail others
              simp only [first, others, Except.map, Except.ok.injEq] at done
              subst done
              refine ⟨by rw [List.length_cons, List.length_cons, sized], ?_⟩
              intro offset found here
              cases offset with
              | zero =>
                  obtain rfl : message = found := by simpa using here
                  exact ⟨changed, rfl, first⟩
              | succ offset =>
                  obtain ⟨after, there, rewrites⟩ := each offset found (by simpa using here)
                  exact ⟨after, by simpa using there, by rwa [Nat.add_assoc, Nat.add_comm 1] at rewrites⟩

theorem rewrite_from_complete (start : Nat) (messages : List ChatMessage)
    (each : ∀ offset message, messages[offset]? = some message → ∃ after, rewrite (start + offset) message = .ok after) :
    ∃ rewritten, rewriteFrom rewrite start messages = .ok rewritten := by
  induction messages generalizing start with
  | nil => exact ⟨[], rfl⟩
  | cons message rest ih =>
      obtain ⟨changed, first⟩ := each 0 message rfl
      rw [Nat.add_zero] at first
      obtain ⟨tail, others⟩ := ih (start + 1) fun offset found here => by
        have later := each (offset + 1) found (by simpa using here)
        rwa [← Nat.add_assoc, Nat.add_right_comm] at later
      exact ⟨changed :: tail, by rw [rewriteFrom, first, others]; rfl⟩

theorem rewrite_from_ok_iff (messages : List ChatMessage) :
    (∃ rewritten, rewriteFrom rewrite 0 messages = .ok rewritten) ↔
      ∀ index message, messages[index]? = some message → ∃ after, rewrite index message = .ok after := by
  constructor
  · rintro ⟨rewritten, done⟩ index message found
    obtain ⟨after, _, rewrites⟩ := (rewrite_from_sound rewrite 0 messages rewritten done).2 index message found
    exact ⟨after, by rwa [Nat.zero_add] at rewrites⟩
  · intro each
    apply rewrite_from_complete
    intro offset message found
    rw [Nat.zero_add]
    exact each offset message found

end Rewriting

variable (loads : JsonLoads)

-- What the first pass makes of the messages: the old tool results compacted
-- with their sample rows, every other message as it is.
structure FirstPass (config : AgentConfig) (messages once : List ChatMessage) : Prop where
  sized : once.length = messages.length
  old : ∀ index message, messages[index]? = some message → OldTool config messages index message →
    ∃ after, once[index]? = some after ∧ compactMessage loads message true = .ok after
  others : ∀ index message, messages[index]? = some message → ¬ OldTool config messages index message →
    once[index]? = some message

theorem first_pass_frames (config : AgentConfig) (messages once : List ChatMessage)
    (done : rewriteFrom (compactOld loads (oldToolIndexes config messages)) 0 messages = .ok once) :
    List.Forall₂ SameFrame messages once := rewrite_from_frames _ (compact_old_frame loads _) 0 messages once done

theorem first_pass_sound (config : AgentConfig) (messages once : List ChatMessage)
    (done : rewriteFrom (compactOld loads (oldToolIndexes config messages)) 0 messages = .ok once) :
    FirstPass loads config messages once := by
  obtain ⟨sized, each⟩ := rewrite_from_sound _ 0 messages once done
  refine ⟨sized, ?_, ?_⟩
  · intro index message found old
    obtain ⟨after, there, rewrites⟩ := each index message found
    rw [Nat.zero_add, compactOld, if_pos ((mem_old_tool_indexes config messages index message found).mpr old)] at rewrites
    exact ⟨after, there, rewrites⟩
  · intro index message found recent
    obtain ⟨after, there, rewrites⟩ := each index message found
    rw [Nat.zero_add, compactOld, if_neg (mt (mem_old_tool_indexes config messages index message found).mp recent)] at rewrites
    cases rewrites
    exact there

theorem first_pass_unique (config : AgentConfig) (messages once other : List ChatMessage)
    (first : FirstPass loads config messages once) (second : FirstPass loads config messages other) : once = other := by
  apply List.ext_getElem?
  intro index
  cases found : messages[index]? with
  | none =>
      rw [List.getElem?_eq_none_iff] at found
      rw [List.getElem?_eq_none (first.sized ▸ found), List.getElem?_eq_none (second.sized ▸ found)]
  | some message =>
      by_cases old : OldTool config messages index message
      · obtain ⟨after, there, compacted⟩ := first.old index message found old
        obtain ⟨after', there', compacted'⟩ := second.old index message found old
        rw [compacted, Except.ok.injEq] at compacted'
        rw [there, there', compacted']
      · rw [first.others index message found old, second.others index message found old]

theorem compact_message_ok_iff (message : ChatMessage) (includeRows : Bool) :
    (∃ compacted, compactMessage loads message includeRows = .ok compacted) ↔ ObjectOrNone loads message.text := by
  rw [← compact_ok_iff loads (orElseText (message.name.getD "") "tool") message.text includeRows, compactMessage]
  cases compactToolContent loads (orElseText (message.name.getD "") "tool") message.text includeRows with
  | error failure => simp [Except.map]
  | ok content => simp [Except.map]

-- A law of json.loads: what the compactor wrote it reads as an object, or refuses
-- with a JSONDecodeError.
def ReadsSummaries : Prop :=
  ∀ toolName content includeRows compacted, compactToolContent loads toolName content includeRows = .ok compacted →
    ObjectOrNone loads compacted

theorem reads_summaries
    (objects : ∀ fields, loads (dumps compactStyle (.obj fields)) = readJson (dumps compactStyle (.obj fields))) :
    ReadsSummaries loads := by
  intro toolName content includeRows compacted done
  obtain ⟨fields, written⟩ := compact_written loads toolName content includeRows
    ((compact_ok_iff loads toolName content includeRows).mp ⟨compacted, done⟩)
  obtain rfl := Except.ok.inj (written.symm.trans done)
  rw [ObjectOrNone, objects]
  exact serialized_object _ (serialized_whole fields)

theorem compacted_readable (lawful : ReadsSummaries loads) (message compacted : ChatMessage) (includeRows : Bool)
    (done : compactMessage loads message includeRows = .ok compacted) : ObjectOrNone loads compacted.text := by
  obtain ⟨text, content, rfl⟩ := compact_message_ok loads message compacted includeRows done
  exact lawful _ _ _ text content

theorem first_pass_ok_iff (config : AgentConfig) (messages : List ChatMessage) :
    (∃ once, rewriteFrom (compactOld loads (oldToolIndexes config messages)) 0 messages = .ok once) ↔
      ∀ index message, messages[index]? = some message → OldTool config messages index message →
        ObjectOrNone loads message.text := by
  rw [rewrite_from_ok_iff]
  refine forall_congr' fun index => forall_congr' fun message => forall_congr' fun found => ?_
  rw [compactOld, ← mem_old_tool_indexes config messages index message found]
  by_cases old : index ∈ oldToolIndexes config messages
  · rw [if_pos old, compact_message_ok_iff]
    exact ⟨fun readable _ => readable, fun readable => readable old⟩
  · rw [if_neg old]
    exact ⟨fun _ here => absurd here old, fun _ => ⟨message, rfl⟩⟩

theorem frames_roles (before after : List ChatMessage) (frames : List.Forall₂ SameFrame before after) :
    before.map ChatMessage.role = after.map ChatMessage.role := by
  induction frames with
  | nil => rfl
  | cons head _ ih => rw [List.map_cons, List.map_cons, ih, head.1]

theorem frames_later_non_tool (before after : List ChatMessage) (index : Nat)
    (frames : List.Forall₂ SameFrame before after) :
    laterCount isNonTool after index = laterCount isNonTool before index := by
  have byRole : ∀ messages : List ChatMessage, laterCount isNonTool messages index =
      ((messages.map ChatMessage.role).drop (index + 1)).countP fun role => !decide (role = .tool) := by
    intro messages
    rw [← List.map_drop, List.countP_map]
    rfl
  rw [byRole, byRole, frames_roles before after frames]

theorem frames_at (before after : List ChatMessage) (index : Nat) (message : ChatMessage)
    (frames : List.Forall₂ SameFrame before after) (found : before[index]? = some message) :
    ∃ changed, after[index]? = some changed ∧ SameFrame message changed := by
  induction frames generalizing index with
  | nil => cases found
  | cons head _ ih =>
      cases index with
      | zero =>
          cases found
          exact ⟨_, rfl, head⟩
      | succ index => exact ih index (by simpa using found)

theorem recent_non_tool_once (messages once : List ChatMessage) (index : Nat) (message after : ChatMessage)
    (frames : List.Forall₂ SameFrame messages once) (there : once[index]? = some after)
    (same : SameFrame message after) :
    index ∈ recentNonTool once ↔ RecentNonTool messages index message := by
  rw [mem_recent_non_tool once index after there, RecentNonTool, RecentNonTool, frames_later_non_tool messages once index frames,
    same.1]

-- message.content[:500] for a message that has a content.
def ChatMessage.cut (message : ChatMessage) : ChatMessage :=
  { message with content := message.content.map fun text => slice text 500 }

theorem cut_empty (message : ChatMessage) (empty : message.text = "") : message.cut = message := by
  obtain ⟨role, content, name, toolCallId, toolCalls⟩ := message
  cases content with
  | none => rfl
  | some text =>
      obtain rfl : text = "" := empty
      rfl

theorem cut_full (message : ChatMessage) (present : message.text ≠ "") :
    { message with content := some (slice message.text 500) } = message.cut := by
  obtain ⟨role, content, name, toolCallId, toolCalls⟩ := message
  cases content with
  | none => exact absurd rfl present
  | some text => rfl

-- What the second pass makes of the messages that the first one left.
structure SecondPass (messages once compacted : List ChatMessage) : Prop where
  sized : compacted.length = messages.length
  tools : ∀ (index : Nat) (message : ChatMessage), messages[index]? = some message → message.role = .tool →
    ∃ before after, once[index]? = some before ∧ compacted[index]? = some after ∧ compactMessage loads before false = .ok after
  protects : ∀ index message, messages[index]? = some message →
    message.role = .system ∨ RecentNonTool messages index message → compacted[index]? = some message
  cuts : ∀ (index : Nat) (message : ChatMessage), messages[index]? = some message →
    message.role ≠ .tool → message.role ≠ .system →
    ¬ RecentNonTool messages index message → compacted[index]? = some message.cut

theorem second_pass_sound (config : AgentConfig) (messages once compacted : List ChatMessage)
    (first : FirstPass loads config messages once) (frames : List.Forall₂ SameFrame messages once)
    (done : rewriteFrom (compactAll loads (recentNonTool once)) 0 once = .ok compacted) :
    SecondPass loads messages once compacted := by
  obtain ⟨sized, each⟩ := rewrite_from_sound _ 0 once compacted done
  have untouched : ∀ (index : Nat) (message : ChatMessage), messages[index]? = some message → message.role ≠ .tool →
      once[index]? = some message :=
    fun index message found plain => first.others index message found fun old => plain old.1
  have recent : ∀ (index : Nat) (message : ChatMessage), messages[index]? = some message → message.role ≠ .tool →
      (index ∈ recentNonTool once ↔ RecentNonTool messages index message) := fun index message found plain =>
    recent_non_tool_once messages once index message message frames (untouched index message found plain)
      (same_frame_refl message)
  refine ⟨sized.trans first.sized, ?_, ?_, ?_⟩
  · intro index message found tool
    obtain ⟨before, there, same⟩ := frames_at messages once index message frames found
    obtain ⟨after, compactedThere, rewrites⟩ := each index before there
    rw [compactAll, if_pos (same.1.trans tool)] at rewrites
    exact ⟨before, after, there, compactedThere, rewrites⟩
  · intro index message found safe
    have plain : message.role ≠ .tool := by
      rcases safe with system | newest
      · simp [system]
      · exact newest.1
    obtain ⟨after, there, rewrites⟩ := each index message (untouched index message found plain)
    rw [Nat.zero_add, compactAll, if_neg plain, if_neg] at rewrites
    · cases rewrites
      exact there
    · rintro ⟨notRecent, notSystem, _⟩
      rcases safe with system | newest
      · exact notSystem system
      · exact notRecent ((recent index message found plain).mpr newest)
  · intro index message found plain notSystem notRecent
    obtain ⟨after, there, rewrites⟩ := each index message (untouched index message found plain)
    rw [Nat.zero_add, compactAll, if_neg plain] at rewrites
    have outside := mt (recent index message found plain).mp notRecent
    by_cases present : message.text = ""
    · rw [if_neg (fun here => here.2.2 present), Except.ok.injEq] at rewrites
      rw [there, cut_empty message present, rewrites]
    · rw [if_pos ⟨outside, notSystem, present⟩, Except.ok.injEq, cut_full message present] at rewrites
      rw [there, rewrites]

theorem second_pass_ok_iff (lawful : ReadsSummaries loads) (config : AgentConfig) (messages once : List ChatMessage)
    (first : FirstPass loads config messages once) (frames : List.Forall₂ SameFrame messages once) :
    (∃ compacted, rewriteFrom (compactAll loads (recentNonTool once)) 0 once = .ok compacted) ↔
      ∀ (index : Nat) (message : ChatMessage), messages[index]? = some message → message.role = .tool →
        ¬ OldTool config messages index message →
        ObjectOrNone loads message.text := by
  rw [rewrite_from_ok_iff]
  constructor
  · intro each index message found tool recent
    obtain ⟨after, rewrites⟩ := each index message (first.others index message found recent)
    rw [compactAll, if_pos tool] at rewrites
    exact (compact_message_ok_iff loads message false).mp ⟨after, rewrites⟩
  · intro readable index before there
    rw [compactAll]
    by_cases tool : before.role = .tool
    · rw [if_pos tool, compact_message_ok_iff]
      have inside : index < messages.length := first.sized ▸ (List.getElem?_eq_some_iff.mp there).1
      have found := List.getElem?_eq_getElem inside
      obtain ⟨other, here, same⟩ := frames_at messages once index _ frames found
      obtain rfl : before = other := Option.some.inj (there.symm.trans here)
      by_cases old : OldTool config messages index messages[index]
      · obtain ⟨after, compacted, rewrites⟩ := first.old index _ found old
        obtain rfl : before = after := Option.some.inj (there.symm.trans compacted)
        exact compacted_readable loads lawful messages[index] before true rewrites
      · obtain rfl : before = messages[index] := Option.some.inj (there.symm.trans (first.others index _ found old))
        exact readable index messages[index] found tool old
    · rw [if_neg tool]
      by_cases cut : index ∉ recentNonTool once ∧ before.role ≠ .system ∧ before.text ≠ ""
      · exact ⟨_, by rw [if_pos cut]⟩
      · exact ⟨_, by rw [if_neg cut]⟩

end DataPilot.Agent
