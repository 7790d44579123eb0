import DataPilot.Base.EventLog
import DataPilot.Base.JsonNumber
import DataPilot.Chat.Models

set_option autoImplicit false

namespace DataPilot.Chat

open DataPilot.Base

-- The digits of an int literal, without the underscores between them; a header
-- has Latin-1 characters only.
def plainDigits : Bool → List Char → Option (List Char)
  | digitBefore, [] => if digitBefore then some [] else none
  | true, '_' :: rest => plainDigits false rest
  | _, c :: rest => if c.isDigit then (plainDigits true rest).map (c :: ·) else none

def digitsValue (digits : List Char) : Option Int :=
  (plainDigits false digits).map fun plain => (Nat.ofDigitChars 10 plain 0 : Int)

-- int() of a text; none stands for ValueError. The limit of 4300 digits is left out, which
-- no number of events comes near.
def intText (text : String) : Option Int :=
  match (strip text).toList with
  | '-' :: rest => (digitsValue rest).map fun value => -value
  | '+' :: rest => digitsValue rest
  | rest => digitsValue rest

-- int(last_event_id.split("-", maxsplit=1)[0]) if last_event_id else 0. No
-- minus sign is left, so the number is not negative.
def lastSequence (lastEventId : String) : Option Nat :=
  if lastEventId = "" then some 0
  else (intText (String.ofList (lastEventId.toList.takeWhile (· ≠ '-')))).map Int.toNat

def eventId (sequence : Nat) : String := String.ofList (Nat.toDigits 10 sequence) ++ "-0"

theorem is_space_digit (c : Char) (digit : c.isDigit = true) : isSpace c = false := by
  have range : 48 ≤ c.toNat ∧ c.toNat ≤ 57 := by
    rw [Char.isDigit, Bool.and_eq_true, decide_eq_true_eq, decide_eq_true_eq] at digit
    exact ⟨UInt32.le_iff_toNat_le.mp digit.1, UInt32.le_iff_toNat_le.mp digit.2⟩
  simp only [isSpace, Bool.or_eq_false_iff, Bool.and_eq_false_iff, decide_eq_false_iff_not, beq_eq_false_iff_ne]
  omega

theorem strip_plain (text : String) (plain : ∀ c ∈ text.toList, isSpace c = false) : strip text = text := by
  have front : text.toList.dropWhile isSpace = text.toList := by
    cases same : text.toList with
    | nil => rfl
    | cons c rest => exact List.dropWhile_cons_of_neg (by simp [plain c (by simp [same])])
  have back : text.toList.reverse.dropWhile isSpace = text.toList.reverse := by
    cases same : text.toList.reverse with
    | nil => rfl
    | cons c rest =>
        have member : c ∈ text.toList := List.mem_reverse.mp (by simp [same])
        exact List.dropWhile_cons_of_neg (by simp [plain c member])
  rw [strip, front, back, List.reverse_reverse, String.ofList_toList]

theorem plain_digits_all (digits : List Char) (all : ∀ c ∈ digits, c.isDigit = true) (digitBefore : Bool)
    (given : digitBefore = true ∨ digits ≠ []) : plainDigits digitBefore digits = some digits := by
  induction digits generalizing digitBefore with
  | nil => simpa [plainDigits] using given
  | cons c rest ih =>
      have digit := all c (List.mem_cons_self ..)
      have later := ih (fun d member => all d (List.mem_cons_of_mem _ member)) true (.inl rfl)
      have apart : c ≠ '_' := by
        rintro rfl
        exact absurd digit (by decide)
      cases digitBefore <;> simp [plainDigits, apart, digit, later]

theorem to_digits_plain (n : Nat) : Nat.toDigits 10 n ≠ [] ∧ ∀ c ∈ Nat.toDigits 10 n, c.isDigit = true := by
  rcases Nat.eq_zero_or_pos n with rfl | positive
  · exact ⟨by decide, List.forall_mem_singleton.mpr rfl⟩
  · obtain ⟨c, tail, digits, _, digit, rest⟩ := digits_head n positive
    rw [digits]
    exact ⟨List.cons_ne_nil _ _, List.forall_mem_cons.mpr ⟨digit, rest⟩⟩

theorem digits_value_digits (n : Nat) : digitsValue (Nat.toDigits 10 n) = some (n : Int) := by
  obtain ⟨given, digits⟩ := to_digits_plain n
  rw [digitsValue, plain_digits_all _ digits false (.inr given), Option.map_some, Nat.ofDigitChars_ten_toDigits]

theorem int_text_digits (n : Nat) : intText (String.ofList (Nat.toDigits 10 n)) = some (n : Int) := by
  obtain ⟨_, digits⟩ := to_digits_plain n
  have unspaced : ∀ c ∈ (String.ofList (Nat.toDigits 10 n)).toList, isSpace c = false := by
    intro c member
    rw [String.toList_ofList] at member
    exact is_space_digit c (digits c member)
  unfold intText
  rw [strip_plain _ unspaced, String.toList_ofList]
  split
  · rename_i rest same
    exact absurd (digits '-' (by simp [same])) (by decide)
  · rename_i rest same
    exact absurd (digits '+' (by simp [same])) (by decide)
  · exact digits_value_digits n

theorem last_sequence_event_id (sequence : Nat) : lastSequence (eventId sequence) = some sequence := by
  obtain ⟨_, digits⟩ := to_digits_plain sequence
  have given : eventId sequence ≠ "" := by simp [eventId, ← String.toList_inj]
  have first : (eventId sequence).toList.takeWhile (· ≠ '-') = Nat.toDigits 10 sequence := by
    have minus : "-0".toList = ['-', '0'] := rfl
    rw [eventId, String.toList_append, String.toList_ofList, minus, List.takeWhile_append_of_pos]
    · simp
    · intro c member
      have digit := digits c member
      simp only [ne_eq, decide_not, Bool.not_eq_eq_eq_not, Bool.not_true, decide_eq_false_iff_not]
      rintro rfl
      exact absurd digit (by decide)
  rw [lastSequence, if_neg given, first, int_text_digits]
  rfl

-- The ids of a broker: the keys they stand for, and the texts that are no ids.
structure EventIds (κ : Type) where
  parse : String → Option κ
  render : κ → String
  parse_render : ∀ key, parse (render key) = some key

theorem EventIds.render_injective {κ : Type} (ids : EventIds κ) (first second : κ) (same : ids.render first = ids.render second) :
    first = second := by
  have parsed := ids.parse_render first
  rw [same, ids.parse_render second] at parsed
  exact (Option.some.inj parsed).symm

def inMemoryIds : EventIds Nat := ⟨lastSequence, eventId, last_sequence_event_id⟩

-- The events of a message in a broker, oldest first.
structure BrokerLog (κ : Type) [LinearOrder κ] where
  entries : List (κ × BrokerEvent)
  ordered : Ordered entries

-- One counter numbers the events of all messages.
structure InMemoryEventBroker where
  counter : Nat := 0
  events : Uuid → List (Nat × BrokerEvent) := fun _ => []
  ordered : ∀ messageId, Ordered (events messageId) := by exact fun _ => List.Pairwise.nil
  counted : ∀ messageId, ∀ entry ∈ events messageId, entry.1 ≤ counter := by exact fun _ => List.forall_mem_nil _

def InMemoryEventBroker.log (broker : InMemoryEventBroker) (messageId : Uuid) : BrokerLog Nat :=
  ⟨broker.events messageId, broker.ordered messageId⟩

def InMemoryEventBroker.publish (broker : InMemoryEventBroker) (messageId : Uuid) (event : BrokerEvent) :
    InMemoryEventBroker where
  counter := broker.counter + 1
  events := Function.update broker.events messageId (broker.events messageId ++ [(broker.counter + 1, event)])
  ordered := by
    intro other
    by_cases same : other = messageId
    · rw [same, Function.update_self]
      exact ordered_snoc _ _ (broker.ordered messageId) fun old member =>
        Nat.lt_succ_of_le (broker.counted messageId old member)
    · rw [Function.update_of_ne same]
      exact broker.ordered other
  counted := by
    intro other entry member
    by_cases same : other = messageId
    · rw [same, Function.update_self] at member
      rcases List.mem_append.mp member with old | new
      · exact Nat.le_succ_of_le (broker.counted messageId entry old)
      · rw [List.mem_singleton.mp new]
    · rw [Function.update_of_ne same] at member
      exact Nat.le_succ_of_le (broker.counted other entry member)

def InMemoryEventBroker.read (broker : InMemoryEventBroker) (messageId : Uuid) (lastEventId : String) (count : Nat) :
    Option (List (Nat × BrokerEvent)) :=
  (lastSequence lastEventId).map fun sequence => page (broker.events messageId) sequence count

end DataPilot.Chat
