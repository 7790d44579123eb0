import DataPilot.Base.Csv
import DataPilot.Base.Utf8
import DataPilot.Datasets.Headers
import DataPilot.Datasets.Registration

set_option autoImplicit false

namespace DataPilot.Datasets

open DataPilot.Base

-- The excel dialect of csv.writer.
def writeField (field : List Char) : List Char :=
  if field.any isCsvSpecial then '"' :: doubleQuotes field ++ ['"'] else field

-- writerow; a record of which nothing would be written is written as a pair of quotes.
def writerow (record : List String) : List Char :=
  let text := recordText writeField (record.map String.toList)
  (if record ≠ [] ∧ text = [] then ['"', '"'] else text) ++ ['\r', '\n']

-- The file that csv.writer has written, in UTF-8.
def csvBytes (records : List (List String)) : List UInt8 := utf8 (records.flatMap writerow)

theorem write_field_writes (field : List Char) : WritesField field (writeField field) := by
  unfold writeField
  by_cases special : field.any isCsvSpecial = true
  · rw [if_pos special]
    exact .quoted field
  · rw [if_neg special]
    exact .plain field fun c member => Bool.eq_false_iff.mpr fun one => special (List.any_eq_true.mpr ⟨c, member, one⟩)

theorem write_field_nil (field : List Char) (empty : writeField field = []) : field = [] := by
  unfold writeField at empty
  split at empty
  · simp at empty
  · exact empty

theorem record_text_nil (fields : List (List Char)) (filled : fields ≠ []) (empty : recordText writeField fields = []) :
    fields = [[]] := by
  match fields with
  | [] => exact absurd rfl filled
  | [field] =>
      rw [recordText, List.map_singleton, List.intercalate_singleton] at empty
      rw [write_field_nil field empty]
  | first :: second :: rest =>
      rw [recordText, List.map_cons, List.intercalate_cons_of_ne_nil (by simp)] at empty
      simp at empty

theorem writerow_written (record : List String) (filled : record ≠ []) :
    ∃ write, (∀ text, WritesField text (write text)) ∧
      writerow record = recordText write (record.map String.toList) ++ ['\r', '\n'] := by
  by_cases empty : recordText writeField (record.map String.toList) = []
  · have alone := record_text_nil _ (by simpa using filled) empty
    refine ⟨fun text => '"' :: doubleQuotes text ++ ['"'], WritesField.quoted, ?_⟩
    simp only [writerow, filled, empty, ne_eq, not_false_eq_true, and_self, if_true]
    rw [alone]
    rfl
  · exact ⟨writeField, write_field_writes, by simp only [writerow, empty, and_false, if_false]⟩

theorem csv_bytes_read (first : List String) (rest : List (List String)) (filled : ∀ record ∈ first :: rest, record ≠ []) :
    (utf8Decode (csvBytes (first :: rest))).bind readCsv = some (first :: rest) := by
  have lines := read_each_line (fun record : List String => record.map String.toList) writerow [] (first :: rest)
    fun record member => ⟨by simpa using filled record member, writerow_written record (filled record member)⟩
  rw [csvBytes, utf8_decode_encode, Option.bind_some, readCsv, String.toList_ofList, readRecords, lines, Option.bind_some,
    CsvReader.finish]
  simp [List.map_map, Function.comp_def]

-- A worksheet row as the table has it: a text for each column, empty where no cell is.
def tableRow (width : Nat) (row : Row) : List String := (List.range width).map fun column => normalizeCell row[column]?.join

theorem filled_row (width : Nat) (row : Row) :
    (if ((row.take width).map normalizeCell).length < width then
        (row.take width).map normalizeCell ++ List.replicate (width - ((row.take width).map normalizeCell).length) ""
      else (row.take width).map normalizeCell) = tableRow width row := by
  have cells : ∀ column, column < row.length → ((row.take width).map normalizeCell)[column]? =
      if column < width then some (normalizeCell row[column]?.join) else none := by
    intro column inside
    rw [List.getElem?_map, List.getElem?_take]
    split
    · rw [List.getElem?_eq_getElem inside]
      rfl
    · rfl
  have most : ((row.take width).map normalizeCell).length = min width row.length := by simp
  apply List.ext_getElem?
  intro column
  rw [tableRow, List.getElem?_map]
  by_cases inside : column < width
  · rw [List.getElem?_range inside, Option.map_some]
    by_cases held : column < row.length
    · have cell := cells column held
      rw [if_pos inside] at cell
      split
      · rw [List.getElem?_append_left (by omega), cell]
      · exact cell
    · rw [if_pos (by omega), List.getElem?_append_right (by omega), List.getElem?_replicate, if_pos (by omega),
        List.getElem?_eq_none (Nat.le_of_not_lt held)]
      rfl
  · have beyond : (List.range width)[column]? = none := List.getElem?_eq_none (by rw [List.length_range]; omega)
    rw [beyond, Option.map_none]
    apply List.getElem?_eq_none
    split
    · rw [List.length_append, List.length_replicate]
      omega
    · omega

theorem write_rows_table (maxRows width : Nat) (rows : List Row) (rowCount : Nat) (records : List (List String))
    (room : rowCount ≤ maxRows) :
    writeRows maxRows width rows rowCount records =
      if rowCount + rows.length ≤ maxRows then .ok (rowCount + rows.length, records ++ rows.map (tableRow width))
      else .error (datasetProcessingError s!"Dataset exceeds {maxRows} rows.") := by
  induction rows generalizing rowCount records with
  | nil => simp [writeRows, room]
  | cons row rows ih =>
      rw [writeRows]
      by_cases full : maxRows ≤ rowCount
      · rw [if_pos full, if_neg (by rw [List.length_cons]; omega)]
      · rw [if_neg full]
        dsimp only
        rw [filled_row, ih (rowCount + 1) _ (by omega), List.length_cons, List.map_cons, List.append_assoc, List.singleton_append,
          Nat.add_assoc, Nat.add_comm 1]

theorem xlsx_to_csv_iff (maxColumns maxRows : Nat) (worksheet : Option (List Row)) (records : List (List String)) :
    xlsxToCsv maxColumns maxRows worksheet = some (.ok records) ↔
      ∃ rawHeaders rows headers, worksheet = some (rawHeaders :: rows) ∧
        uniqueHeaders rawHeaders.length rawHeaders = some headers ∧ headers.length ≤ maxColumns ∧ rows ≠ [] ∧
        rows.length ≤ maxRows ∧ records = headers :: rows.map (tableRow headers.length) := by
  match worksheet with
  | none => simp [xlsxToCsv]
  | some [] => simp [xlsxToCsv]
  | some (rawHeaders :: rows) =>
      rw [xlsxToCsv]
      cases named : uniqueHeaders rawHeaders.length rawHeaders with
      | none => simp [named]
      | some headers =>
          have table := write_rows_table maxRows headers.length rows 0 [headers] (Nat.zero_le maxRows)
          rw [Nat.zero_add] at table
          dsimp only
          rw [table]
          by_cases wide : maxColumns < headers.length
          · simp [wide, named]
          · rw [if_neg wide]
            by_cases long : rows.length ≤ maxRows
            · rw [if_pos long]
              by_cases bare : rows = []
              · simp [bare]
              · simp [bare, named, long, Nat.le_of_not_lt wide, eq_comm]
            · simp [long]

structure DatasetProcessor where
  maxUploadBytes : Nat := 20 * 1024 * 1024
  maxRows : Nat := 500000
  maxColumns : Nat := 500

namespace DatasetProcessor

variable (processor : DatasetProcessor)

-- The loop of _write_upload over what upload.read returns; what has been written
-- comes with the size or what is raised.
def writeChunks : List (List UInt8) → Nat → List UInt8 → List UInt8 × Except PyException Nat
  | [], size, written =>
      (written, if size = 0 then .error (datasetProcessingError "Uploaded file is empty.") else .ok size)
  | chunk :: chunks, size, written =>
      if chunk = [] then (written, if size = 0 then .error (datasetProcessingError "Uploaded file is empty.") else .ok size)
      else if processor.maxUploadBytes < size + chunk.length then
        (written, .error (datasetProcessingError s!"File exceeds {processor.maxUploadBytes} bytes."))
      else writeChunks chunks (size + chunk.length) (written ++ chunk)

def writeUpload (chunks : List (List UInt8)) : List UInt8 × Except PyException Nat := processor.writeChunks chunks 0 []

-- openpyxl's reading of a file.
variable (loadWorkbook : List UInt8 → Except PyException (Option (List Row)))

-- The file that _xlsx_to_csv writes. No search for a header comes to its bound.
def normalized (source : List UInt8) : Except PyException (List UInt8) :=
  match loadWorkbook source with
  | .error raised => .error raised
  | .ok worksheet =>
      match xlsxToCsv processor.maxColumns processor.maxRows worksheet with
      | some (.ok records) => .ok (csvBytes records)
      | some (.error raised) => .error raised
      | none => .error (datasetProcessingError "")

def raisedBy {α : Type} : Except PyException α → Option PyException
  | .ok _ => none
  | .error raised => some raised

-- The ingest of an upload that comes in these chunks. What the file system raises stands.
def uploading (chunks : List (List UInt8)) (ingest : Ingest) : Ingest :=
  let upload := processor.writeUpload chunks
  let converted := processor.normalized loadWorkbook upload.1
  { ingest with
    answers := { ingest.answers with
      source := if ingest.answers.upload = none then some upload.1 else ingest.answers.source
      upload := ingest.answers.upload.or (raisedBy upload.2)
      normalized := if ingest.answers.normalize = none then converted.toOption else ingest.answers.normalized
      normalize := ingest.answers.normalize.or (raisedBy converted) } }

end DatasetProcessor

def Storage.Holds (storage : Storage) (path : DataPath) (content : List UInt8) : Prop :=
  ∃ directory, storage.directories path.dataset = some directory ∧ (path.file, content) ∈ directory

theorem written_holds (storage : Storage) (path : DataPath) (content : List UInt8) (directory : Directory)
    (made : storage.directories path.dataset = some directory) : (storage.writeFile path (some content)).Holds path content := by
  refine ⟨directory.filter (·.1 ≠ path.file) ++ [(path.file, content)], ?_, by simp⟩
  simp [Storage.writeFile, Storage.setDirectory, made]

theorem write_holds (storage : Storage) (path other : DataPath) (content : List UInt8) (written : Option (List UInt8))
    (apart : path.file ≠ other.file) (holds : storage.Holds path content) :
    (storage.writeFile other written).Holds path content := by
  obtain ⟨directory, made, held⟩ := holds
  cases written with
  | none => exact ⟨directory, made, held⟩
  | some text =>
      by_cases same : path.dataset = other.dataset
      · refine ⟨directory.filter (·.1 ≠ other.file) ++ [(other.file, text)], ?_, ?_⟩
        · rw [same] at made ⊢
          simp [Storage.writeFile, Storage.setDirectory, made]
        · exact List.mem_append_left _ (List.mem_filter.mpr ⟨held, by simpa using apart⟩)
      · exact ⟨directory, (Function.update_of_ne same _ _).trans made, held⟩

theorem register_directories (tableName : String) (path : DataPath) (failure : Option PyException) (storage : Storage) :
    (registerFile tableName path failure storage).1.directories = storage.directories := by
  unfold registerFile
  split
  · rfl
  · split <;> rfl

theorem insert_row_directories (ingest : Ingest) (storage : Storage) :
    (insertRow ingest storage).1.directories = storage.directories := by
  rcases insert_row_cases ingest storage with ⟨raised, inserted⟩ | ⟨next, late, inserted, _, _, _, directories, _⟩
  · rw [inserted]
  · rw [inserted]
    exact directories

theorem make_directory_done (id : DatasetId) (failure : Option PyException) (storage final : Storage)
    (done : makeDirectory id failure storage = (final, none)) : final.directories id = some [] := by
  unfold makeDirectory at done
  split at done
  · cases done
  · split at done
    · cases done
    · cases done
      exact Function.update_self ..

-- The files beside the Parquet file stay once they are written.
def KeepsFiles (before after : Storage) : Prop :=
  ∀ path content, path.file ≠ "data.parquet" → before.Holds path content → after.Holds path content

theorem keeps_same (before after : Storage) (same : after.directories = before.directories) : KeepsFiles before after := by
  intro path content _ holds
  unfold Storage.Holds
  rw [same]
  exact holds

theorem later_stages_keep (id : DatasetId) (answers : ProcessAnswers) (maxColumns : Nat) (storage : Storage) :
    KeepsFiles storage (runStages [writing (parquetPathOf id) answers.parquet answers.convert, raising answers.count,
      registerFile (tableNameOf id) (parquetPathOf id) answers.register, raising (columnCheck maxColumns answers.schema),
      raising answers.validate] storage).1 := by
  apply stages_keep KeepsFiles (fun _ _ _ _ holds => holds)
    (fun _ _ _ one two path content other holds => two path content other (one path content other holds))
  intro stage member state
  simp only [List.mem_cons, List.not_mem_nil, or_false] at member
  rcases member with rfl | rfl | rfl | rfl | rfl
  · exact fun path content other => write_holds state path (parquetPathOf id) content answers.parquet other
  · exact keeps_same _ _ rfl
  · exact keeps_same _ _ (register_directories ..)
  · exact keeps_same _ _ rfl
  · exact keeps_same _ _ rfl

theorem workbook_files (maxColumns : Nat) (ingest : Ingest) (storage final : Storage)
    (excel : casefold (suffix ingest.filename) = ".xlsx") (done : ingest.run maxColumns storage = (final, none)) :
    ingest.answers.upload = none ∧ ingest.answers.normalize = none ∧
      (∀ source, ingest.answers.source = some source → final.Holds ⟨ingest.id, "source.xlsx"⟩ source) ∧
      ∀ normalized, ingest.answers.normalized = some normalized → final.Holds ⟨ingest.id, "normalized.csv"⟩ normalized := by
  obtain ⟨middle, processed, inserting⟩ := stages_done_cons _ _ storage final done
  obtain ⟨_, insert, ended⟩ := stages_done_cons _ _ middle final inserting
  cases ended
  have inserted := on_failure_done _ _ middle final insert
  rw [process, excel, if_neg (by decide)] at processed
  obtain ⟨made, making, body⟩ := stages_done_cons _ _ storage middle processed
  obtain ⟨_, tried, ended⟩ := stages_done_cons _ _ made middle body
  cases ended
  have stages := on_failure_done _ _ made middle tried
  rw [processStages, if_pos rfl] at stages
  obtain ⟨first, upload, stages⟩ := stages_done_cons _ _ made middle stages
  obtain ⟨normal, normalize, stages⟩ := stages_done_cons _ _ _ middle stages
  have directory := make_directory_done ingest.id ingest.answers.mkdir storage made making
  have uploaded : ingest.answers.upload = none := congrArg Prod.snd upload
  have normalized : ingest.answers.normalize = none := congrArg Prod.snd normalize
  have written : first = made.writeFile ⟨ingest.id, "source.xlsx"⟩ ingest.answers.source := (congrArg Prod.fst upload).symm
  have converted : normal = first.writeFile ⟨ingest.id, "normalized.csv"⟩ ingest.answers.normalized :=
    (congrArg Prod.fst normalize).symm
  have reached := congrArg Prod.fst stages
  have later : KeepsFiles normal middle :=
    Eq.subst (motive := KeepsFiles normal) reached (later_stages_keep ingest.id ingest.answers maxColumns normal)
  have inserts := keeps_same middle final (by rw [← insert_row_directories ingest middle, inserted])
  refine ⟨uploaded, normalized, ?_, ?_⟩
  · intro source content
    rw [content] at written
    have holds := written_holds made ⟨ingest.id, "source.xlsx"⟩ source [] directory
    rw [← written] at holds
    have kept := write_holds first _ ⟨ingest.id, "normalized.csv"⟩ source ingest.answers.normalized (by simp) holds
    rw [← converted] at kept
    exact inserts _ _ (by simp) (later _ _ (by simp) kept)
  · intro text content
    rw [content] at converted
    have opened : ∃ directory, first.directories ingest.id = some directory := by
      rw [written]
      cases ingest.answers.source with
      | none => exact ⟨[], directory⟩
      | some source =>
          obtain ⟨files, held, _⟩ := written_holds made ⟨ingest.id, "source.xlsx"⟩ source [] directory
          exact ⟨files, held⟩
    obtain ⟨files, held⟩ := opened
    have holds := written_holds first ⟨ingest.id, "normalized.csv"⟩ text files held
    rw [← converted] at holds
    exact inserts _ _ (by simp) (later _ _ (by simp) holds)

namespace DatasetProcessor

variable (processor : DatasetProcessor)

theorem write_chunks_sized (chunks : List (List UInt8)) (size : Nat) (written : List UInt8)
    (solid : ∀ chunk ∈ chunks, chunk ≠ []) (room : size ≤ processor.maxUploadBytes) :
    (processor.writeChunks chunks size written).2 =
        (if processor.maxUploadBytes < size + chunks.flatten.length then
          .error (datasetProcessingError s!"File exceeds {processor.maxUploadBytes} bytes.")
        else if size + chunks.flatten.length = 0 then .error (datasetProcessingError "Uploaded file is empty.")
        else .ok (size + chunks.flatten.length)) ∧
      (size + chunks.flatten.length ≤ processor.maxUploadBytes →
        (processor.writeChunks chunks size written).1 = written ++ chunks.flatten) := by
  induction chunks generalizing size written with
  | nil => simp [writeChunks, Nat.not_lt.mpr room]
  | cons chunk chunks ih =>
      have later := fun other member => solid other (List.mem_cons_of_mem chunk member)
      rw [writeChunks, if_neg (solid chunk List.mem_cons_self), List.flatten_cons, List.length_append, ← Nat.add_assoc]
      by_cases full : processor.maxUploadBytes < size + chunk.length
      · rw [if_pos full, if_pos (by omega)]
        exact ⟨rfl, fun fits => by omega⟩
      · obtain ⟨answer, content⟩ := ih (size + chunk.length) (written ++ chunk) later (Nat.le_of_not_lt full)
        rw [if_neg full]
        exact ⟨answer, fun fits => by rw [content fits, List.append_assoc]⟩

end DatasetProcessor

theorem remove_written (id : DatasetId) (tableName file : String) (content : Option (List UInt8)) (storage : Storage) :
    remove id tableName (storage.writeFile ⟨id, file⟩ content) = remove id tableName storage := by
  cases content with
  | none => rfl
  | some text => simp [remove, Storage.writeFile, Storage.setDirectory, Storage.setView]

theorem process_upload_fails (maxColumns : Nat) (id : DatasetId) (filename : String) (answers others : ProcessAnswers)
    (storage : Storage) (raised : PyException) (fails : answers.upload = some raised) (too : others.upload = some raised)
    (mkdir : others.mkdir = answers.mkdir) :
    process maxColumns id filename others storage = process maxColumns id filename answers storage := by
  have tried : ∀ (answers : ProcessAnswers) (state : Storage), answers.upload = some raised →
      onFailure (runStages (processStages maxColumns id (casefold (suffix filename)) answers))
          (remove id (tableNameOf id)) state =
        (remove id (tableNameOf id) state, some raised) := by
    intro answers state fails
    simp only [onFailure, processStages, List.cons_append, runStages, writing, fails, remove_written]
  unfold process
  split
  · rfl
  · simp only [runStages, mkdir, tried answers _ fails, tried others _ too]

namespace DatasetProcessor

variable (processor : DatasetProcessor) (loadWorkbook : List UInt8 → Except PyException (Option (List Row)))

theorem uploading_agrees (chunks others : List (List UInt8)) (ingest : Ingest) (storage : Storage)
    (solid : ∀ chunk ∈ chunks, chunk ≠ []) (firm : ∀ chunk ∈ others, chunk ≠ []) (same : others.flatten = chunks.flatten) :
    (processor.uploading loadWorkbook others ingest).run processor.maxColumns storage =
      (processor.uploading loadWorkbook chunks ingest).run processor.maxColumns storage := by
  obtain ⟨answer, content⟩ := processor.write_chunks_sized chunks 0 [] solid (Nat.zero_le _)
  obtain ⟨otherAnswer, otherContent⟩ := processor.write_chunks_sized others 0 [] firm (Nat.zero_le _)
  rw [same] at otherAnswer otherContent
  have alike : (processor.writeUpload others).2 = (processor.writeUpload chunks).2 := otherAnswer.trans answer.symm
  by_cases fits : 0 + chunks.flatten.length ≤ processor.maxUploadBytes
  · have equal : processor.writeUpload others = processor.writeUpload chunks :=
      Prod.ext ((otherContent fits).trans (content fits).symm) alike
    simp only [uploading, equal]
  · have large : processor.maxUploadBytes < 0 + chunks.flatten.length := Nat.lt_of_not_le fits
    rw [if_pos large] at answer otherAnswer
    have failing : ∀ chunks, (processor.writeUpload chunks).2 =
        .error (datasetProcessingError s!"File exceeds {processor.maxUploadBytes} bytes.") →
        (processor.uploading loadWorkbook chunks ingest).answers.upload =
          ingest.answers.upload.or (some (datasetProcessingError s!"File exceeds {processor.maxUploadBytes} bytes.")) := by
      intro chunks failed
      simp only [uploading, failed, raisedBy]
    obtain ⟨raised, fails⟩ : ∃ raised, ingest.answers.upload.or
        (some (datasetProcessingError s!"File exceeds {processor.maxUploadBytes} bytes.")) = some raised := by
      cases ingest.answers.upload with
      | none => exact ⟨_, rfl⟩
      | some raised => exact ⟨raised, rfl⟩
    have processed := process_upload_fails processor.maxColumns ingest.id ingest.filename
      (processor.uploading loadWorkbook chunks ingest).answers (processor.uploading loadWorkbook others ingest).answers storage
      raised ((failing chunks answer).trans fails) ((failing others otherAnswer).trans fails) rfl
    have runs : ∀ chunks, (processor.uploading loadWorkbook chunks ingest).run processor.maxColumns storage =
        runStages [
            process processor.maxColumns ingest.id ingest.filename (processor.uploading loadWorkbook chunks ingest).answers,
            onFailure (insertRow ingest) (remove ingest.id (tableNameOf ingest.id))] storage := fun _ => rfl
    simp only [runs, runStages, processed]

theorem accepted_size (chunks : List (List UInt8)) (solid : ∀ chunk ∈ chunks, chunk ≠ [])
    (accepted : raisedBy (processor.writeUpload chunks).2 = none) :
    chunks.flatten.length ≤ processor.maxUploadBytes ∧ 0 < chunks.flatten.length := by
  obtain ⟨answer, _⟩ := processor.write_chunks_sized chunks 0 [] solid (Nat.zero_le _)
  rw [Nat.zero_add] at answer
  rw [writeUpload, answer] at accepted
  by_cases large : processor.maxUploadBytes < chunks.flatten.length
  · rw [if_pos large] at accepted
    cases accepted
  · rw [if_neg large] at accepted
    by_cases empty : chunks.flatten.length = 0
    · rw [if_pos empty] at accepted
      cases accepted
    · exact ⟨Nat.le_of_not_lt large, Nat.pos_of_ne_zero empty⟩

theorem converted (source : List UInt8) (accepted : raisedBy (processor.normalized loadWorkbook source) = none) :
    ∃ rawHeaders rows headers, loadWorkbook source = .ok (some (rawHeaders :: rows)) ∧
      uniqueHeaders rawHeaders.length rawHeaders = some headers ∧ headers.length ≤ processor.maxColumns ∧ rows ≠ [] ∧
      rows.length ≤ processor.maxRows ∧
      processor.normalized loadWorkbook source = .ok (csvBytes (headers :: rows.map (tableRow headers.length))) := by
  unfold normalized at accepted ⊢
  cases loaded : loadWorkbook source with
  | error raised =>
      rw [loaded] at accepted
      cases accepted
  | ok worksheet =>
      rw [loaded] at accepted
      dsimp only at accepted ⊢
      cases records : xlsxToCsv processor.maxColumns processor.maxRows worksheet with
      | none =>
          rw [records] at accepted
          cases accepted
      | some outcome =>
          rw [records] at accepted
          cases outcome with
          | error raised => cases accepted
          | ok table =>
              obtain ⟨rawHeaders, rows, headers, sheet, named, wide, held, long, same⟩ :=
                (xlsx_to_csv_iff processor.maxColumns processor.maxRows worksheet table).mp records
              exact ⟨rawHeaders, rows, headers, by rw [sheet], named, wide, held, long, by rw [same]⟩

-- What an Excel file must be to be taken in, and what is kept of it: the file itself, and
-- its table as a CSV text, with distinct headers and a field for each header in each row.
structure Imported (id : DatasetId) (content : List UInt8) (final : Storage) (rawHeaders : Row) (rows : List Row)
    (headers : List String) (normalized : List UInt8) : Prop where
  loaded : loadWorkbook content = .ok (some (rawHeaders :: rows))
  sized : 0 < content.length ∧ content.length ≤ processor.maxUploadBytes
  wide : headers.length = rawHeaders.length ∧ headers.length ≤ processor.maxColumns
  long : 0 < rows.length ∧ rows.length ≤ processor.maxRows
  distinct : (headers.map casefold).Nodup
  source : final.Holds ⟨id, "source.xlsx"⟩ content
  table : final.Holds ⟨id, "normalized.csv"⟩ normalized
  reads : rawHeaders ≠ [] → (utf8Decode normalized).bind readCsv = some (headers :: rows.map (tableRow headers.length))

theorem workbook_ingested (chunks : List (List UInt8)) (solid : ∀ chunk ∈ chunks, chunk ≠ []) (ingest : Ingest)
    (storage : Storage) :
    (∀ others, (∀ chunk ∈ others, chunk ≠ []) → others.flatten = chunks.flatten →
      (processor.uploading loadWorkbook others ingest).run processor.maxColumns storage =
        (processor.uploading loadWorkbook chunks ingest).run processor.maxColumns storage) ∧
      ∀ final, (processor.uploading loadWorkbook chunks ingest).run processor.maxColumns storage = (final, none) →
        casefold (suffix ingest.filename) = ".xlsx" → ∃ rawHeaders rows headers normalized,
          processor.Imported loadWorkbook ingest.id chunks.flatten final rawHeaders rows headers normalized := by
  refine ⟨fun others firm same => processor.uploading_agrees loadWorkbook chunks others ingest storage solid firm same, ?_⟩
  intro final done excel
  obtain ⟨uploads, normalizes, source, table⟩ :=
    workbook_files processor.maxColumns (processor.uploading loadWorkbook chunks ingest) storage final excel done
  obtain ⟨answer, content⟩ := processor.write_chunks_sized chunks 0 [] solid (Nat.zero_le _)
  rw [Nat.zero_add] at answer content
  simp only [uploading, Option.or_eq_none_iff] at uploads normalizes
  simp only [uploading, if_pos uploads.1, if_pos normalizes.1] at source table
  obtain ⟨fits, filled⟩ := processor.accepted_size chunks solid uploads.2
  have whole : (processor.writeUpload chunks).1 = chunks.flatten := content fits
  rw [whole] at normalizes source table
  obtain ⟨rawHeaders, rows, headers, loaded, named, wide, held, long, text⟩ :=
    processor.converted loadWorkbook chunks.flatten normalizes.2
  obtain ⟨others, headed, found⟩ := unique_each_headed [] rawHeaders
  have same : headers = others := Option.some.inj (named.symm.trans (found _ (by simp)))
  subst same
  have count := headed_length headed
  refine ⟨rawHeaders, rows, headers, csvBytes (headers :: rows.map (tableRow headers.length)), ?_⟩
  exact {
    loaded := loaded
    sized := ⟨filled, fits⟩
    wide := ⟨count, wide⟩
    long := ⟨List.length_pos_of_ne_nil held, long⟩
    distinct := headed_distinct headed List.nodup_nil
    source := source _ rfl
    table := table _ (by rw [text]; rfl)
    reads := by
      intro broad
      have each : 0 < headers.length := count ▸ List.length_pos_of_ne_nil broad
      apply csv_bytes_read
      intro record member
      rcases List.mem_cons.mp member with rfl | member
      · exact List.ne_nil_of_length_pos each
      · obtain ⟨row, _, rfl⟩ := List.mem_map.mp member
        exact List.ne_nil_of_length_pos (by rw [tableRow, List.length_map, List.length_range]; exact each) }

end DatasetProcessor

section Sample

def salesWorkbook (_ : List UInt8) : Except PyException (Option (List Row)) :=
  .ok (some [[some (.other "Region"), some (.other "region"), none], [some (.other "East, \"A\""), some (.bool true)]])

def salesUpload : Ingest := { id := 1#128, workspaceId := 1, filename := "sales.xlsx" }

def salesIngested (storage : Storage) : Storage × Option PyException :=
  ((DatasetProcessor.mk 20 10 10).uploading salesWorkbook [[80, 75], [3, 4]] salesUpload).run 10 storage

theorem workbook_ingested_sales : ∃ rawHeaders rows headers normalized,
    (DatasetProcessor.mk 20 10 10).Imported salesWorkbook salesUpload.id [80, 75, 3, 4] (salesIngested {}).1 rawHeaders rows
      headers
      normalized := by
  have returned : (salesIngested {}).2 = none := by decide +kernel
  exact (DatasetProcessor.workbook_ingested (DatasetProcessor.mk 20 10 10) salesWorkbook [[80, 75], [3, 4]] (by decide)
    salesUpload {}).2 (salesIngested {}).1 (Prod.ext rfl returned) (by decide)

example : (DatasetProcessor.mk 20 10 10).normalized salesWorkbook [80, 75, 3, 4] =
    .ok (utf8 "Region,region_2,column_3\r\n\"East, \"\"A\"\"\",true,\r\n".toList) := by decide +kernel

end Sample

end DataPilot.Datasets
