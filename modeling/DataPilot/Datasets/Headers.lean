import DataPilot.Base.FirstFree
import DataPilot.Base.Text
import DataPilot.Datasets.Service
import Mathlib.Data.List.GetD
import Std.Data.String.ToNat

set_option autoImplicit false

namespace DataPilot.Datasets

open DataPilot.Base

-- A cell as openpyxl reads it: a date or time comes with its str and its isoformat,
-- any other value with its str.
inductive Cell where
  | bool (value : Bool)
  | moment (text iso : String)
  | other (text : String)
deriving DecidableEq

def Cell.str : Cell → String
  | .bool value => if value then "True" else "False"
  | .moment text _ => text
  | .other text => text

abbrev Row := List (Option Cell)

def headerBase (index : Nat) (value : Option Cell) : String :=
  let base := match value with
    | some cell => strip cell.str
    | none => ""
  orElseText base s!"column_{index + 1}"

-- The search for a free suffix; the first argument bounds it.
def freeCandidate (used : List String) (base : String) : Nat → String → Nat → Option String
  | 0, _, _ => none
  | fuel + 1, candidate, suffix =>
      if casefold candidate ∈ used then freeCandidate used base fuel s!"{base}_{suffix}" (suffix + 1) else some candidate

def uniqueEach (fuel : Nat) : Row → Nat → List String → List String → Option (List String)
  | [], _, headers, _ => some headers
  | value :: values, index, headers, used =>
      let base := headerBase index value
      match freeCandidate used base fuel base 2 with
      | none => none
      | some candidate =>
          uniqueEach fuel values (index + 1) (headers ++ [candidate]) (used ++ [casefold candidate])

def uniqueHeaders (fuel : Nat) (values : Row) : Option (List String) := uniqueEach fuel values 0 [] []

def normalizeCell : Option Cell → String
  | none => ""
  | some (.bool value) => if value then "true" else "false"
  | some (.moment _ iso) => iso
  | some (.other text) => text

-- The rows after the first one, each with one text for every header.
def writeRows (maxRows width : Nat) : List Row → Nat → List (List String) → Except PyException (Nat × List (List String))
  | [], rowCount, records => .ok (rowCount, records)
  | row :: rows, rowCount, records =>
      if maxRows ≤ rowCount then .error (datasetProcessingError s!"Dataset exceeds {maxRows} rows.")
      else
        let values := (row.take width).map normalizeCell
        let values := if values.length < width then values ++ List.replicate (width - values.length) "" else values
        writeRows maxRows width rows (rowCount + 1) (records ++ [values])

-- DatasetProcessor._xlsx_to_csv: the records it gives to csv.writer.
def xlsxToCsv (maxColumns maxRows : Nat) (worksheet : Option (List Row)) :
    Option (Except PyException (List (List String))) :=
  match worksheet with
  | none => some (.error (datasetProcessingError "Excel workbook has no active worksheet."))
  | some [] => some (.error (datasetProcessingError "Excel worksheet is empty."))
  | some (rawHeaders :: rows) =>
      match uniqueHeaders rawHeaders.length rawHeaders with
      | none => none
      | some headers =>
          if maxColumns < headers.length then
            some (.error (datasetProcessingError s!"Dataset exceeds {maxColumns} columns."))
          else
            match writeRows maxRows headers.length rows 0 [headers] with
            | .error raised => some (.error raised)
            | .ok (rowCount, records) =>
                if rowCount = 0 then some (.error (datasetProcessingError "Excel worksheet has no data rows."))
                else some (.ok records)

def candidateAt (base : String) : Nat → String
  | 0 => base
  | count + 1 => s!"{base}_{count + 2}"

theorem plain_folded (text : String) (plain : ∀ c ∈ text.toList, c = '_' ∨ c.isDigit = true) : casefold text = text := by
  have each : ∀ c ∈ text.toList, casefoldChar c = [c] := by
    intro c member
    rcases plain c member with rfl | digit
    · rfl
    · simp only [Char.isDigit, Bool.and_eq_true, decide_eq_true_eq, UInt32.le_iff_toNat_le] at digit
      have small : c.toNat < 128 := Nat.lt_of_le_of_lt digit.2 (by decide)
      have lower : c.isUpper = false := by
        apply decide_eq_false
        rintro ⟨above, _⟩
        exact absurd (Nat.le_trans (UInt32.le_iff_toNat_le.mp above) digit.2) (by decide)
      simp [casefoldChar, small, lower]
  rw [casefold, List.flatMap_congr each, List.flatMap_singleton', String.ofList_toList]

theorem suffix_folded (number : Nat) : casefold ("_" ++ Nat.repr number) = "_" ++ Nat.repr number := by
  apply plain_folded
  intro c member
  rw [String.toList_append, List.mem_append] at member
  rcases member with line | digit
  · exact .inl (List.mem_singleton.mp line)
  · rw [Nat.repr, String.toList_ofList] at digit
    exact .inr (Nat.isDigit_of_mem_toDigits (by decide) (by decide) digit)

theorem candidate_suffixed (base : String) (count : Nat) :
    candidateAt base (count + 1) = base ++ ("_" ++ Nat.repr (count + 2)) := by
  rw [← String.append_assoc]
  rfl

theorem candidates_differ (base : String) : Function.Injective fun count => casefold (candidateAt base count) := by
  have suffixed : ∀ count, casefold (candidateAt base (count + 1)) = casefold base ++ ("_" ++ Nat.repr (count + 2)) := by
    intro count
    rw [candidate_suffixed, casefold_append, suffix_folded]
  have longer : ∀ count, casefold base ≠ casefold base ++ ("_" ++ Nat.repr (count + 2)) := by
    intro count same
    have lengths := congrArg String.length same
    rw [String.length_append, String.length_append] at lengths
    have line : "_".length = 1 := rfl
    omega
  intro one other same
  cases one with
  | zero =>
      cases other with
      | zero => rfl
      | succ other => exact absurd ((suffixed other).symm.trans same.symm).symm (longer other)
  | succ one =>
      cases other with
      | zero => exact absurd ((suffixed one).symm.trans same).symm (longer one)
      | succ other =>
          have tails : Nat.repr (one + 2) = Nat.repr (other + 2) := by
            have whole := (suffixed one).symm.trans (same.trans (suffixed other))
            exact (String.append_right_inj _).mp ((String.append_right_inj _).mp whole)
          exact congrArg Nat.succ (Nat.add_right_cancel (Nat.repr_injective tails))

-- The loop over a candidate and the next suffix is the search for the first free number.
theorem free_candidate_first (used : List String) (base : String) (fuel count : Nat) :
    freeCandidate used base fuel (candidateAt base count) (count + 2) =
      (firstFree (fun count => casefold (candidateAt base count)) used fuel count).map (candidateAt base) := by
  induction fuel generalizing count with
  | zero => rfl
  | succ fuel ih =>
      rw [freeCandidate, firstFree]
      by_cases taken : casefold (candidateAt base count) ∈ used
      · rw [if_pos taken, if_pos taken]
        exact ih (count + 1)
      · rw [if_neg taken, if_neg taken]
        rfl

structure Named (earlier : List String) (base header : String) : Prop where
  fresh : casefold header ∉ earlier.map casefold
  kept : casefold base ∉ earlier.map casefold → header = base
  nonempty : base ≠ "" → header ≠ ""

theorem free_candidate_named (earlier : List String) (base : String) :
    ∃ header, Named earlier base header ∧
      ∀ fuel, earlier.length < fuel → freeCandidate (earlier.map casefold) base fuel base 2 = some header := by
  let name := fun count => casefold (candidateAt base count)
  let used := earlier.map casefold
  have search : ∀ fuel, freeCandidate used base fuel base 2 = (firstFree name used fuel 0).map (candidateAt base) :=
    fun fuel => free_candidate_first used base fuel 0
  obtain ⟨place, found⟩ := first_free_some name used (candidates_differ base) (earlier.length + 1) 0 (by simp [used])
  refine ⟨candidateAt base place, ⟨(first_free_found name used _ 0 place found).1, ?_, ?_⟩, ?_⟩
  · intro free
    have first : firstFree name used (earlier.length + 1) 0 = some 0 := by
      rw [firstFree, if_neg (show name 0 ∉ used from free)]
    cases found.symm.trans first
    rfl
  · intro nonempty
    cases place with
    | zero => exact nonempty
    | succ count =>
        rw [candidate_suffixed, Ne, String.append_eq_empty_iff]
        exact fun both => nonempty both.1
  · intro fuel enough
    rw [search, first_free_more name used _ fuel 0 place found enough]
    rfl

inductive Headed : List String → Row → List String → Prop where
  | nil (earlier : List String) : Headed earlier [] []
  | cons (earlier headers : List String) (value : Option Cell) (values : Row) (header : String)
      (named : Named earlier (headerBase earlier.length value) header)
      (later : Headed (earlier ++ [header]) values headers) : Headed earlier (value :: values) (header :: headers)

theorem unique_each_headed (earlier : List String) (values : Row) :
    ∃ headers, Headed earlier values headers ∧ ∀ fuel, earlier.length + values.length ≤ fuel →
      uniqueEach fuel values earlier.length earlier (earlier.map casefold) = some (earlier ++ headers) := by
  induction values generalizing earlier with
  | nil => exact ⟨[], .nil earlier, fun fuel _ => by rw [uniqueEach, List.append_nil]⟩
  | cons value values ih =>
      obtain ⟨header, named, found⟩ := free_candidate_named earlier (headerBase earlier.length value)
      obtain ⟨headers, later, rest⟩ := ih (earlier ++ [header])
      refine ⟨header :: headers, .cons earlier headers value values header named later, ?_⟩
      intro fuel enough
      rw [List.length_cons] at enough
      have there := rest fuel (by rw [List.length_append, List.length_singleton]; omega)
      rw [List.length_append, List.length_singleton, List.map_append, List.append_assoc] at there
      rw [uniqueEach, found fuel (by omega)]
      exact there

variable {earlier headers : List String} {values : Row}

theorem headed_length (headed : Headed earlier values headers) : headers.length = values.length := by
  induction headed with
  | nil => rfl
  | cons _ _ _ _ _ _ _ ih => rw [List.length_cons, List.length_cons, ih]

theorem header_base_some (index : Nat) (value : Option Cell) : headerBase index value ≠ "" := by
  have column : s!"column_{index + 1}" ≠ "" := fun empty =>
    absurd (congrArg String.length empty) (by simp [String.length_append])
  have either : ∀ base, orElseText base s!"column_{index + 1}" ≠ "" := by
    intro base
    rw [orElseText]
    by_cases empty : base = ""
    · rw [if_pos empty]
      exact column
    · rw [if_neg empty]
      exact empty
  exact either _

theorem headed_some (headed : Headed earlier values headers) : ∀ header ∈ headers, header ≠ "" := by
  induction headed with
  | nil => simp
  | cons _ _ value _ _ named _ ih =>
      exact List.forall_mem_cons.mpr ⟨named.nonempty (header_base_some _ value), ih⟩

theorem headed_distinct (headed : Headed earlier values headers) (distinct : (earlier.map casefold).Nodup) :
    ((earlier ++ headers).map casefold).Nodup := by
  induction headed with
  | nil => rwa [List.append_nil]
  | cons earlier headers _ _ header named _ ih =>
      rw [← List.append_cons] at ih
      apply ih
      rw [List.map_append, List.map_singleton]
      refine List.nodup_append.mpr ⟨distinct, List.nodup_singleton _, ?_⟩
      intro fold member other single same
      rw [same, List.mem_singleton.mp single] at member
      exact named.fresh member

theorem headed_kept (headed : Headed earlier values headers) (index : Nat) (value : Option Cell)
    (lookup : values[index]? = some value)
    (free : casefold (headerBase (earlier.length + index) value) ∉ (earlier ++ headers.take index).map casefold) :
    headers[index]? = some (headerBase (earlier.length + index) value) := by
  induction headed generalizing index with
  | nil => cases lookup
  | cons earlier headers first _ header named _ ih =>
      cases index with
      | zero =>
          cases lookup
          rw [List.take_zero, List.append_nil] at free
          rw [Nat.add_zero] at free ⊢
          rw [List.getElem?_cons_zero, named.kept free]
      | succ index =>
          have shifted : earlier.length + (index + 1) = (earlier ++ [header]).length + index := by
            rw [List.length_append, List.length_singleton]
            omega
          rw [shifted, List.take_succ_cons, List.append_cons] at free
          rw [shifted]
          exact ih index lookup free

theorem unique_headers_distinct (values : Row) : ∃ headers,
    (∀ fuel, values.length ≤ fuel → uniqueHeaders fuel values = some headers) ∧
    headers.length = values.length ∧ (∀ header ∈ headers, header ≠ "") ∧ (headers.map casefold).Nodup ∧
    ∀ index value, values[index]? = some value →
      casefold (headerBase index value) ∉ (headers.take index).map casefold →
      headers[index]? = some (headerBase index value) := by
  obtain ⟨headers, headed, found⟩ := unique_each_headed [] values
  refine ⟨headers, ?_, headed_length headed, headed_some headed, headed_distinct headed List.nodup_nil, ?_⟩
  · intro fuel enough
    exact found fuel (by simpa using enough)
  · intro index value lookup free
    have kept := headed_kept headed index value lookup
    rw [List.length_nil, Nat.zero_add] at kept
    exact kept free

example : uniqueHeaders 4 [some (.other "a"), some (.other "A"), none, some (.other " a_2 ")] =
    some ["a", "A_2", "column_3", "a_2_2"] := by decide

end DataPilot.Datasets
