import DataPilot.Base.JsonText
import DataPilot.Chat.Sse

set_option autoImplicit false

namespace DataPilot.Chat

open DataPilot.Base DataPilot.Agent

-- A text that does not continue a line end into a separator.
def Opens (text : List Char) : Prop := ∀ c, text.head? = some c → c ≠ '\n' ∧ c ≠ '\r'

theorem line_end_none (text : List Char) (opens : Opens text) : lineEnd text = none := by
  cases text with
  | nil => rfl
  | cons c rest =>
      obtain ⟨newline, carriage⟩ := opens c rfl
      simp [lineEnd, newline, carriage]

theorem line_end_inside (c : Char) (rest tail : List Char) (unbroken : '\n' ∉ c :: rest) :
    lineEnd (c :: (rest ++ '\n' :: tail)) = if c = '\r' ∧ rest = [] then some tail else none := by
  rw [List.mem_cons, not_or] at unbroken
  rw [lineEnd, if_neg (Ne.symm unbroken.1)]
  cases rest with
  | nil => simp
  | cons d others =>
      rw [List.mem_cons, not_or] at unbroken
      simp [Ne.symm unbroken.2.1]

theorem find_nothing (text : List Char) (unbroken : '\n' ∉ text) : findSeparator text = none := by
  induction text with
  | nil => rfl
  | cons c rest ih =>
      rw [List.mem_cons, not_or] at unbroken
      have here : lineEnd (c :: rest) = none := by
        rw [lineEnd, if_neg (Ne.symm unbroken.1), if_neg]
        rintro ⟨_, next⟩
        exact unbroken.2 (List.mem_of_mem_head? next)
      rw [findSeparator, here, Option.bind_none, ih unbroken.2]
      rfl

theorem find_past_line (line tail : List Char) (unbroken : '\n' ∉ line) (opens : Opens tail) :
    findSeparator (line ++ '\n' :: tail) =
      (findSeparator tail).map fun found => (line ++ '\n' :: found.1, found.2) := by
  induction line with
  | nil =>
      have here : (lineEnd ('\n' :: tail)).bind lineEnd = none := line_end_none tail opens
      rw [List.nil_append, findSeparator, here]
      rfl
  | cons c rest ih =>
      have here : (lineEnd (c :: (rest ++ '\n' :: tail))).bind lineEnd = none := by
        rw [line_end_inside c rest tail unbroken]
        split_ifs
        · exact line_end_none tail opens
        · rfl
      rw [List.cons_append, findSeparator, here, ih (List.not_mem_of_not_mem_cons unbroken), Option.map_map]
      rfl

theorem find_last_line (line after : List Char) (unbroken : '\n' ∉ line) (plain : line.getLast? ≠ some '\r') :
    findSeparator (line ++ '\n' :: '\n' :: after) = some (line, after) := by
  induction line with
  | nil => rfl
  | cons c rest ih =>
      have here : lineEnd (c :: (rest ++ '\n' :: '\n' :: after)) = none := by
        rw [line_end_inside c rest _ unbroken, if_neg]
        rintro ⟨rfl, rfl⟩
        exact plain rfl
      have last : rest.getLast? ≠ some '\r' := by
        cases rest with
        | nil => simp
        | cons d others => rwa [List.getLast?_cons_cons] at plain
      rw [List.cons_append, findSeparator, here, Option.bind_none, ih (List.not_mem_of_not_mem_cons unbroken) last]
      rfl

-- A line of a frame: it has something else than line ends at its front.
structure Line (text : List Char) : Prop where
  unbroken : '\n' ∉ text
  given : text ≠ []
  opens : Opens text

def joinLines : List (List Char) → List Char
  | [] => []
  | [last] => last
  | line :: next :: rest => line ++ '\n' :: joinLines (next :: rest)

-- A frame as it is sent: its lines, and the separator.
def frameText (lines : List (List Char)) : List Char := joinLines lines ++ ['\n', '\n']

structure FrameLines (lines : List (List Char)) : Prop where
  given : lines ≠ []
  all : ∀ line ∈ lines, Line line
  plain : ∀ line, lines.getLast? = some line → line.getLast? ≠ some '\r'

theorem FrameLines.rest {line next : List Char} {others : List (List Char)}
    (frame : FrameLines (line :: next :: others)) : FrameLines (next :: others) where
  given := List.cons_ne_nil _ _
  all other member := frame.all other (List.mem_cons_of_mem _ member)
  plain last ends := frame.plain last (by rw [List.getLast?_cons_cons]; exact ends)

theorem opens_append (text after : List Char) (given : text ≠ []) (opens : Opens text) : Opens (text ++ after) := by
  cases text with
  | nil => exact absurd rfl given
  | cons c rest => exact opens

theorem opens_prefix (part text : List Char) (before : part <+: text) (opens : Opens text) : Opens part := by
  obtain ⟨rest, rfl⟩ := before
  cases part with
  | nil => simp [Opens]
  | cons c others => exact opens

theorem frame_opens (lines : List (List Char)) (after : List Char) (frame : FrameLines lines) :
    Opens (frameText lines ++ after) := by
  cases lines with
  | nil => exact absurd rfl frame.given
  | cons line rest =>
      have first := frame.all line (List.mem_cons_self ..)
      cases rest with
      | nil =>
          rw [frameText, joinLines, List.append_assoc]
          exact opens_append line _ first.given first.opens
      | cons next others =>
          rw [frameText, joinLines, List.append_assoc, List.append_assoc]
          exact opens_append line _ first.given first.opens

theorem frame_text_cons (line next : List Char) (others : List (List Char)) :
    frameText (line :: next :: others) = line ++ '\n' :: frameText (next :: others) := by
  simp [frameText, joinLines]

theorem find_frame (lines : List (List Char)) (after : List Char) (frame : FrameLines lines) :
    findSeparator (frameText lines ++ after) = some (joinLines lines, after) := by
  induction lines with
  | nil => exact absurd rfl frame.given
  | cons line rest ih =>
      have first := frame.all line (List.mem_cons_self ..)
      cases rest with
      | nil => simpa [frameText, joinLines] using find_last_line line after first.unbroken (frame.plain line rfl)
      | cons next others =>
          rw [frame_text_cons, List.append_assoc, List.cons_append,
            find_past_line line _ first.unbroken (frame_opens _ after frame.rest), ih frame.rest]
          rfl

-- A part of a line that something follows is no longer than the line or has all of it.
theorem part_of_line (part rest line tail : List Char) (split : part ++ rest = line ++ '\n' :: tail) :
    part <+: line ∨ ∃ after, part = line ++ '\n' :: after ∧ after ++ rest = tail := by
  rcases List.append_eq_append_iff.mp split with ⟨more, rfl, _⟩ | ⟨more, rfl, left⟩
  · exact .inl (List.prefix_append _ _)
  · cases more with
    | nil => exact .inl (by simp)
    | cons c after =>
        obtain ⟨rfl, rfl⟩ := List.cons.inj left
        exact .inr ⟨after, rfl, rfl⟩

theorem find_part (lines : List (List Char)) (part rest : List Char) (frame : FrameLines lines)
    (split : part ++ rest = frameText lines) (short : rest ≠ []) : findSeparator part = none := by
  induction lines generalizing part with
  | nil => exact absurd rfl frame.given
  | cons line others ih =>
      have first := frame.all line (List.mem_cons_self ..)
      have inside : part <+: line → findSeparator part = none := fun before =>
        find_nothing part fun broken => first.unbroken (before.subset broken)
      cases others with
      | nil =>
          rcases part_of_line part rest line ['\n'] split with before | ⟨after, rfl, left⟩
          · exact inside before
          · obtain rfl : after = [] := by
              cases after with
              | nil => rfl
              | cons c more => exact absurd (List.append_eq_nil_iff.mp (List.cons.inj left).2).2 short
            rw [find_past_line line [] first.unbroken (by simp [Opens])]
            rfl
      | cons next others =>
          rw [frame_text_cons] at split
          rcases part_of_line part rest line _ split with before | ⟨after, rfl, left⟩
          · exact inside before
          · have opens : Opens after := by
              have whole := frame_opens (next :: others) [] frame.rest
              rw [List.append_nil, ← left] at whole
              exact opens_prefix after _ (List.prefix_append _ _) whole
            rw [find_past_line line after first.unbroken opens, ih after frame.rest left]
            rfl

section Lines

-- A carriage return at the end of a line belongs to its line end.
def chomp (line : List Char) : List Char := if line.getLast? = some '\r' then line.dropLast else line

theorem split_lines_last (line : List Char) (unbroken : '\n' ∉ line) : splitLines line = [line] := by
  induction line with
  | nil => rfl
  | cons c rest ih =>
      rw [List.mem_cons, not_or] at unbroken
      rw [splitLines, if_neg (Ne.symm unbroken.1), if_neg, ih unbroken.2]
      rintro ⟨_, next⟩
      exact unbroken.2 (List.mem_of_mem_head? next)

theorem split_lines_cons (line rest : List Char) (unbroken : '\n' ∉ line) :
    splitLines (line ++ '\n' :: rest) = chomp line :: splitLines rest := by
  induction line with
  | nil => rw [List.nil_append, splitLines, if_pos rfl]; rfl
  | cons c others ih =>
      have inner := List.not_mem_of_not_mem_cons unbroken
      rw [List.mem_cons, not_or] at unbroken
      rw [List.cons_append, splitLines, if_neg (Ne.symm unbroken.1), ih inner]
      cases others with
      | nil => by_cases carriage : c = '\r' <;> simp [chomp, carriage]
      | cons d more =>
          rw [List.mem_cons, not_or] at inner
          rw [if_neg (by simp [Ne.symm inner.1])]
          dsimp only
          unfold chomp
          rw [List.getLast?_cons_cons]
          split_ifs <;> simp

theorem split_lines_join (lines : List (List Char)) (frame : FrameLines lines) :
    splitLines (joinLines lines) = lines.map chomp := by
  induction lines with
  | nil => exact absurd rfl frame.given
  | cons line rest ih =>
      have first := frame.all line (List.mem_cons_self ..)
      cases rest with
      | nil =>
          have plain : chomp line = line := if_neg (frame.plain line rfl)
          rw [joinLines, split_lines_last line first.unbroken, List.map_singleton, plain]
      | cons next others =>
          rw [joinLines, split_lines_cons line _ first.unbroken, ih frame.rest]
          rfl

end Lines

end DataPilot.Chat
