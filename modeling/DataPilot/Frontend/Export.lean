import DataPilot.Base.Csv

set_option autoImplicit false

namespace DataPilot.Frontend

open DataPilot.Base

-- A value of a row by what typeof tells of it; the others are those typeof calls neither
-- string nor object. Strings are sequences of code points here as well.
inductive JsValue (Object Other : Type) where
  | null
  | undefined
  | string (text : String)
  | object (value : Object)
  | other (value : Other)

section Export

-- JSON.stringify of an object and String of any other value.
variable {Object Other : Type} (stringify : Object → String) (toText : Other → String)

def plainText : JsValue Object Other → String
  | .null | .undefined => ""
  | .string text => text
  | .object value => stringify value
  | .other value => toText value

def quoteCell (raw : String) : String :=
  if raw.toList.any fun c => c ∈ ['"', ',', '\r', '\n'] then
    "\"" ++ String.ofList (raw.toList.flatMap fun c => if c = '"' then ['"', '"'] else [c]) ++ "\""
  else raw

def csvCell (value : JsValue Object Other) : String := quoteCell (plainText stringify toText value)

def createCsv (rows : List (String → JsValue Object Other)) (columns : List String) : String :=
  let header := ",".intercalate (columns.map fun column => csvCell stringify toText (.string column))
  let body := rows.map fun row => ",".intercalate (columns.map fun column => csvCell stringify toText (row column))
  "\r\n".intercalate (header :: body)

-- The texts that the export is about: the column names, then the row's cells.
def exported (rows : List (String → JsValue Object Other)) (columns : List String) : List (List String) :=
  columns :: rows.map fun row => columns.map fun column => plainText stringify toText (row column)

def writeCell (text : List Char) : List Char := (quoteCell (String.ofList text)).toList

theorem write_cell_writes (text : List Char) : WritesField text (writeCell text) := by
  rw [writeCell, quoteCell, String.toList_ofList]
  by_cases special : text.any fun c => c ∈ ['"', ',', '\r', '\n']
  · rw [if_pos special, String.toList_append, String.toList_append, String.toList_ofList]
    simpa [doubleQuotes] using WritesField.quoted text
  · rw [if_neg special, String.toList_ofList]
    refine .plain text fun c member => ?_
    have bare := mt (fun found => List.any_eq_true.mpr ⟨c, member, found⟩) special
    simpa [isCsvSpecial, and_assoc] using bare

theorem write_cell_nil (text : List Char) : writeCell text = [] ↔ text = [] := by
  constructor
  · intro empty
    have writes := write_cell_writes text
    rw [empty] at writes
    cases writes
    rfl
  · rintro rfl
    rfl

theorem create_csv_text (rows : List (String → JsValue Object Other)) (columns : List String) :
    (createCsv stringify toText rows columns).toList =
      csvText writeCell ((exported stringify toText rows columns).map fun record => record.map String.toList) := by
  have cells : ∀ texts : List String, (",".intercalate (texts.map quoteCell)).toList =
      recordText writeCell (texts.map String.toList) := by
    intro texts
    simp [recordText, String.toList_intercalate, writeCell, Function.comp_def]
  have lines : createCsv stringify toText rows columns =
      "\r\n".intercalate ((exported stringify toText rows columns).map fun record => ",".intercalate (record.map quoteCell)) := by
    simp [createCsv, exported, csvCell, plainText, Function.comp_def]
  have texts := List.map_congr_left fun record (_ : record ∈ exported stringify toText rows columns) => cells record
  rw [lines, csvText, String.toList_intercalate, List.map_map, List.map_map]
  exact congrArg _ texts

theorem read_written (front : List (List String)) (filled : ∀ record ∈ front, record ≠ []) (last : List String)
    (lastFilled : last ≠ []) (text : String)
    (written : text.toList = csvText writeCell ((front ++ [last]).map fun record => record.map String.toList)) :
    readCsv text = some (if front ≠ [] ∧ last = [""] then front else front ++ [last]) := by
  have back : ∀ records : List (List String),
      (records.map fun record => record.map String.toList).map (fun record => record.map String.ofList) = records := by
    intro records
    simp [Function.comp_def]
  rcases List.eq_nil_or_concat last with none | ⟨fields, cell, rfl⟩
  · exact absurd none lastFilled
  · rw [List.concat_eq_append] at written ⊢
    have reads := read_text write_cell_writes (front.map fun record => record.map String.toList)
      (by simpa using filled) (fields.map String.toList) cell.toList
    have whole : (front.map (fun record => record.map String.toList) ++ [fields.map String.toList ++ [cell.toList]]).map
        (fun record => record.map String.ofList) = front ++ [fields ++ [cell]] := by
      simp [Function.comp_def]
    rw [readCsv, written, List.map_append, List.map_singleton, List.map_append, List.map_singleton, reads, Option.map_some]
    by_cases lost : front ≠ [] ∧ fields ++ [cell] = [""]
    · have single : fields.map String.toList = [] ∧ writeCell cell.toList = [] := by
        have parts : fields = [] ∧ cell = "" := by simpa [List.append_eq_singleton_iff] using lost.2
        obtain ⟨rfl, rfl⟩ := parts
        exact ⟨rfl, rfl⟩
      have others : front.map (fun record => record.map String.toList) ≠ [] := by simpa using lost.1
      rw [if_pos ⟨others, single⟩, if_pos lost, back]
    · have kept : ¬ (front.map (fun record => record.map String.toList) ≠ [] ∧ fields.map String.toList = [] ∧
          writeCell cell.toList = []) := by
        rintro ⟨others, single, empty⟩
        have nothing : cell = "" := by simpa using (write_cell_nil cell.toList).mp empty
        have bare : fields = [] := by simpa using single
        exact lost ⟨by simpa using others, by rw [nothing, bare]; rfl⟩
      rw [if_neg lost, if_neg kept]
      exact congrArg some whole

theorem csv_round_trip_iff (rows : List (String → JsValue Object Other)) (column : String) (columns : List String) :
    readCsv (createCsv stringify toText rows (column :: columns)) =
        some (exported stringify toText rows (column :: columns)) ↔
      (columns = [] → ∀ row, rows.getLast? = some row → plainText stringify toText (row column) ≠ "") := by
  have text := create_csv_text stringify toText rows (column :: columns)
  let cells := fun row : String → JsValue Object Other =>
    plainText stringify toText (row column) :: columns.map fun column => plainText stringify toText (row column)
  rcases List.eq_nil_or_concat rows with rfl | ⟨front, row, rfl⟩
  · have read := read_written [] (by simp) (column :: columns) (by simp) _ text
    rw [read, if_neg (by simp)]
    simp [exported]
  · rw [List.concat_eq_append] at text ⊢
    have whole : exported stringify toText (front ++ [row]) (column :: columns) =
        ((column :: columns) :: front.map cells) ++ [cells row] := by
      simp [exported, cells]
    rw [whole] at text ⊢
    have read := read_written ((column :: columns) :: front.map cells) (by simp [cells]) (cells row) (by simp [cells]) _ text
    rw [read]
    by_cases lost : cells row = [""]
    · have parts : plainText stringify toText (row column) = "" ∧ columns = [] := by simpa [cells] using lost
      rw [if_pos ⟨List.cons_ne_nil _ _, lost⟩]
      simp [parts.1, parts.2]
    · rw [if_neg fun both => lost both.2]
      refine iff_of_true rfl ?_
      rintro rfl found last empty
      obtain rfl : row = found := by simpa using last
      exact lost (by simp [cells, empty])

-- One column and two rows, the last of them null: the last record is gone.
theorem csv_last_row_lost : ¬ ∀ (rows : List (String → JsValue Unit Unit)) (columns : List String), columns ≠ [] →
    readCsv (createCsv (fun _ => "\x7b\x7d") (fun _ => "") rows columns) =
      some (exported (fun _ => "\x7b\x7d") (fun _ => "") rows columns) := by
  intro claimed
  have whole := claimed [fun _ => .string "East", fun _ => .null] ["region"] (by simp)
  exact absurd whole (by decide)

end Export

end DataPilot.Frontend
