import DataPilot.Base.Runs
import Mathlib.Data.List.Basic

set_option autoImplicit false

namespace DataPilot.Base

-- Where a reader of RFC 4180 text stands: at the start of a field, in a plain field, between
-- the quotes of a field, behind its closing quote, or between a CR and its LF.
inductive CsvMode where
  | opening
  | plain
  | quoted
  | closed
  | carriage
deriving DecidableEq

structure CsvReader where
  records : List (List (List Char)) := []
  fields : List (List Char) := []
  field : List Char := []
  mode : CsvMode := .opening
deriving DecidableEq

def CsvReader.endField (reader : CsvReader) (mode : CsvMode) : CsvReader :=
  { reader with fields := reader.fields ++ [reader.field], field := [], mode := mode }

def isCsvSpecial (c : Char) : Bool := c = '"' || c = ',' || c = '\r' || c = '\n'

-- One character. A text that is not of the format has no next state: a quote inside a
-- plain field, text behind a closing quote, a CR or a LF outside quotes that is no CRLF.
def CsvReader.read (reader : CsvReader) (c : Char) : Option CsvReader :=
  match reader.mode with
  | .carriage =>
      if c = '\n' then some { records := reader.records ++ [reader.fields] } else none
  | .quoted =>
      if c = '"' then some { reader with mode := .closed }
      else some { reader with field := reader.field ++ [c] }
  | .closed =>
      if c = '"' then some { reader with field := reader.field ++ [c], mode := .quoted }
      else if c = ',' then some (reader.endField .opening)
      else if c = '\r' then some (reader.endField .carriage)
      else none
  | .opening =>
      if c = '"' then some { reader with mode := .quoted }
      else if c = ',' then some (reader.endField .opening)
      else if c = '\r' then some (reader.endField .carriage)
      else if c = '\n' then none
      else some { reader with field := [c], mode := .plain }
  | .plain =>
      if c = '"' then none
      else if c = ',' then some (reader.endField .opening)
      else if c = '\r' then some (reader.endField .carriage)
      else if c = '\n' then none
      else some { reader with field := reader.field ++ [c] }

-- The records at the end of the text. Behind a CRLF it is the optional last line break.
def CsvReader.finish (reader : CsvReader) : Option (List (List (List Char))) :=
  match reader.mode with
  | .quoted | .carriage => none
  | .opening =>
      if reader.fields = [] ∧ reader.records ≠ [] then some reader.records
      else some (reader.records ++ [reader.fields ++ [reader.field]])
  | .plain | .closed => some (reader.records ++ [reader.fields ++ [reader.field]])

def readRecords (text : List Char) : Option (List (List (List Char))) :=
  (runFrom CsvReader.read {} text).bind CsvReader.finish

def readCsv (text : String) : Option (List (List String)) :=
  (readRecords text.toList).map fun records => records.map fun record => record.map String.ofList

example : readCsv "a,\"b\"\"\r\n\"\r\n,\r\n" = some [["a", "b\"\r\n"], ["", ""]] := by decide

def doubleQuotes (text : List Char) : List Char := text.flatMap fun c => if c = '"' then ['"', '"'] else [c]

inductive WritesField : List Char → List Char → Prop where
  | plain (text : List Char) (bare : ∀ c ∈ text, isCsvSpecial c = false) : WritesField text text
  | quoted (text : List Char) : WritesField text ('"' :: doubleQuotes text ++ ['"'])

theorem special_none (c : Char) (bare : isCsvSpecial c = false) : c ≠ '"' ∧ c ≠ ',' ∧ c ≠ '\r' ∧ c ≠ '\n' := by
  simpa [isCsvSpecial, and_assoc] using bare

theorem read_quoted (reader : CsvReader) (text : List Char) (inside : reader.mode = .quoted) :
    runFrom CsvReader.read reader (doubleQuotes text) = some { reader with field := reader.field ++ text } := by
  obtain ⟨records, fields, field, mode⟩ := reader
  cases inside
  induction text generalizing field with
  | nil => simp [doubleQuotes, runFrom]
  | cons c text ih =>
      have rest := ih (field ++ [c])
      rw [List.append_assoc, List.singleton_append] at rest
      by_cases quote : c = '"'
      · subst quote
        simpa [doubleQuotes, runFrom, CsvReader.read] using rest
      · simpa [doubleQuotes, runFrom, CsvReader.read, quote] using rest

theorem read_plain (records : List (List (List Char))) (fields : List (List Char)) (field text : List Char)
    (bare : ∀ c ∈ text, isCsvSpecial c = false) :
    runFrom CsvReader.read ⟨records, fields, field, .plain⟩ text = some ⟨records, fields, field ++ text, .plain⟩ := by
  induction text generalizing field with
  | nil => simp [runFrom]
  | cons c text ih =>
      obtain ⟨quote, comma, carriage, line⟩ := special_none c (bare c List.mem_cons_self)
      have rest := ih (field ++ [c]) fun other member => bare other (List.mem_cons_of_mem c member)
      rw [List.append_assoc, List.singleton_append] at rest
      simpa [runFrom, CsvReader.read, quote, comma, carriage, line] using rest

-- A reader at the end of a field: the field is not open for reading only where nothing was written.
def CsvMode.Ended (mode : CsvMode) (written : List Char) : Prop :=
  (mode = .opening ∧ written = []) ∨ ((mode = .plain ∨ mode = .closed) ∧ written ≠ [])

theorem read_field (records : List (List (List Char))) (fields : List (List Char)) (text written : List Char)
    (writes : WritesField text written) : ∃ mode : CsvMode, mode.Ended written ∧
      runFrom CsvReader.read ⟨records, fields, [], .opening⟩ written = some ⟨records, fields, text, mode⟩ := by
  cases writes with
  | plain bare =>
      cases text with
      | nil => exact ⟨.opening, .inl ⟨rfl, rfl⟩, rfl⟩
      | cons c text =>
          obtain ⟨quote, comma, carriage, line⟩ := special_none c (bare c List.mem_cons_self)
          have rest := read_plain records fields [c] text fun other member => bare other (List.mem_cons_of_mem c member)
          refine ⟨.plain, .inr ⟨.inl rfl, List.cons_ne_nil c text⟩, ?_⟩
          simpa [runFrom, CsvReader.read, quote, comma, carriage, line] using rest
  | quoted =>
      have inner := read_quoted ⟨records, fields, [], .quoted⟩ text rfl
      refine ⟨.closed, .inr ⟨.inr rfl, by simp⟩, ?_⟩
      rw [List.cons_append, runFrom]
      simp only [CsvReader.read, if_true]
      rw [run_append, inner]
      simp [runFrom, CsvReader.read]

theorem read_comma (records : List (List (List Char))) (fields : List (List Char)) (field written : List Char)
    (mode : CsvMode) (ended : mode.Ended written) :
    runFrom CsvReader.read ⟨records, fields, field, mode⟩ [','] = some ⟨records, fields ++ [field], [], .opening⟩ := by
  rcases ended with ⟨rfl, _⟩ | ⟨rfl | rfl, _⟩ <;> simp [runFrom, CsvReader.read, CsvReader.endField]

theorem read_line_break (records : List (List (List Char))) (fields : List (List Char)) (field written : List Char)
    (mode : CsvMode) (ended : mode.Ended written) :
    runFrom CsvReader.read ⟨records, fields, field, mode⟩ ['\r', '\n'] =
      some ⟨records ++ [fields ++ [field]], [], [], .opening⟩ := by
  rcases ended with ⟨rfl, _⟩ | ⟨rfl | rfl, _⟩ <;> simp [runFrom, CsvReader.read, CsvReader.endField]

theorem intercalate_last (separator last : List Char) (front : List (List Char)) :
    separator.intercalate (front ++ [last]) = front.flatMap (fun text => text ++ separator) ++ last := by
  induction front with
  | nil => exact List.intercalate_singleton
  | cons text front ih =>
      have more : front ++ [last] ≠ [] := List.append_ne_nil_of_right_ne_nil front (List.cons_ne_nil last [])
      rw [List.cons_append, List.intercalate_cons_of_ne_nil more, ih, List.flatMap_cons, List.append_assoc, List.append_assoc,
        List.append_assoc]

section Written

-- Records whose fields a writer writes one by one, with commas and line breaks between.
variable (write : List Char → List Char)

def recordText (record : List (List Char)) : List Char := [','].intercalate (record.map write)

def csvText (records : List (List (List Char))) : List Char := ['\r', '\n'].intercalate (records.map (recordText write))

variable {write} (writes : ∀ text, WritesField text (write text))

include writes

theorem read_fields (records : List (List (List Char))) (fields front : List (List Char)) :
    runFrom CsvReader.read ⟨records, fields, [], .opening⟩ ((front.map write).flatMap fun text => text ++ [',']) =
      some ⟨records, fields ++ front, [], .opening⟩ := by
  induction front generalizing fields with
  | nil => simp [runFrom]
  | cons text front ih =>
      obtain ⟨mode, ended, filled⟩ := read_field records fields text (write text) (writes text)
      rw [List.map_cons, List.flatMap_cons, run_append, run_append, filled, Option.bind_some,
        read_comma records fields text (write text) mode ended, Option.bind_some, ih, List.append_assoc, List.singleton_append]

theorem read_record (records : List (List (List Char))) (front : List (List Char)) (last : List Char) :
    ∃ mode : CsvMode, mode.Ended (write last) ∧
      runFrom CsvReader.read ⟨records, [], [], .opening⟩ (recordText write (front ++ [last])) =
        some ⟨records, front, last, mode⟩ := by
  obtain ⟨mode, ended, filled⟩ := read_field records front last (write last) (writes last)
  refine ⟨mode, ended, ?_⟩
  rw [recordText, List.map_append, List.map_singleton, intercalate_last, run_append, read_fields writes]
  exact filled

omit writes in
theorem read_each_line {α : Type} (record : α → List (List Char)) (line : α → List Char) (records : List (List (List Char)))
    (items : List α)
    (written : ∀ item ∈ items, record item ≠ [] ∧
      ∃ write, (∀ text, WritesField text (write text)) ∧ line item = recordText write (record item) ++ ['\r', '\n']) :
    runFrom CsvReader.read ⟨records, [], [], .opening⟩ (items.flatMap line) =
      some ⟨records ++ items.map record, [], [], .opening⟩ := by
  induction items generalizing records with
  | nil => simp [runFrom]
  | cons item items ih =>
      obtain ⟨filled, own, writes, text⟩ := written item List.mem_cons_self
      have later := ih (records ++ [record item]) fun other member => written other (List.mem_cons_of_mem _ member)
      rw [List.flatMap_cons, List.map_cons, text]
      rcases List.eq_nil_or_concat (record item) with empty | ⟨fields, last, concat⟩
      · exact absurd empty filled
      · rw [concat, List.concat_eq_append] at later ⊢
        obtain ⟨mode, ended, reads⟩ := read_record writes records fields last
        have broken := read_line_break records fields last (own last) mode ended
        rw [run_append, run_append, reads, Option.bind_some, broken, Option.bind_some, later, List.append_assoc,
          List.singleton_append]

theorem read_lines (records front : List (List (List Char))) (filled : ∀ record ∈ front, record ≠ []) :
    runFrom CsvReader.read ⟨records, [], [], .opening⟩
      ((front.map (recordText write)).flatMap fun text => text ++ ['\r', '\n']) =
      some ⟨records ++ front, [], [], .opening⟩ := by
  have each := read_each_line id (fun record => recordText write record ++ ['\r', '\n']) records front
    fun record member => ⟨filled record member, write, writes, rfl⟩
  rw [List.flatMap_map, each, List.map_id]

theorem read_text (front : List (List (List Char))) (filled : ∀ record ∈ front, record ≠ []) (fields : List (List Char))
    (last : List Char) :
    readRecords (csvText write (front ++ [fields ++ [last]])) =
      some (if front ≠ [] ∧ fields = [] ∧ write last = [] then front else front ++ [fields ++ [last]]) := by
  obtain ⟨mode, ended, reads⟩ := read_record writes front fields last
  have lines := read_lines writes [] front filled
  rw [List.nil_append] at lines
  rw [readRecords, csvText, List.map_append, List.map_singleton, intercalate_last, run_append, lines, Option.bind_some, reads,
    Option.bind_some, CsvReader.finish]
  rcases ended with ⟨rfl, empty⟩ | ⟨rfl | rfl, written⟩
  · dsimp only
    by_cases lost : front ≠ [] ∧ fields = []
    · rw [if_pos ⟨lost.2, lost.1⟩, if_pos ⟨lost.1, lost.2, empty⟩]
    · rw [if_neg fun both => lost ⟨both.2, both.1⟩, if_neg fun all => lost ⟨all.1, all.2.1⟩]
  · dsimp only
    rw [if_neg fun all => written all.2.2]
  · dsimp only
    rw [if_neg fun all => written all.2.2]

end Written

end DataPilot.Base
