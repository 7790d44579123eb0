import DataPilot.Base.JsonParse
import DataPilot.Base.JsonValid
import DataPilot.Base.Repr

set_option autoImplicit false

namespace DataPilot.Core

open DataPilot.Base

-- A value of a database cell. An object that json cannot write is known by what
-- isoformat or str makes of it and by its repr, which a container's str shows.
inductive Cell where
  | null
  | bool (value : Bool)
  | int (value : Int)
  | float (value : FloatText)
  | str (value : String)
  | moment (isoformat repr : String)
  | exact (str repr : String)
  | bytes (size : Nat) (repr : String)
  | other (str repr : String)
  | list (items : List Cell)
  | tuple (items : List Cell)
  | dict (fields : List (Cell × Cell))

mutual

def reprCell : Cell → List Char
  | .null => ['N', 'o', 'n', 'e']
  | .bool true => ['T', 'r', 'u', 'e']
  | .bool false => ['F', 'a', 'l', 's', 'e']
  | .int value => encodeInt value
  | .float value => reprFloat value.text
  | .str value => reprString value
  | .moment _ repr => repr.toList
  | .exact _ repr => repr.toList
  | .bytes _ repr => repr.toList
  | .other _ repr => repr.toList
  | .list items => '[' :: reprCells items ++ [']']
  | .tuple [item] => '(' :: reprCell item ++ [',', ')']
  | .tuple items => '(' :: reprCells items ++ [')']
  | .dict fields => '{' :: reprPairs fields ++ ['}']

def reprCells : List Cell → List Char
  | [] => []
  | [item] => reprCell item
  | item :: rest => reprCell item ++ [',', ' '] ++ reprCells rest

def reprPairs : List (Cell × Cell) → List Char
  | [] => []
  | [(key, value)] => reprCell key ++ [':', ' '] ++ reprCell value
  | (key, value) :: rest => reprCell key ++ [':', ' '] ++ reprCell value ++ [',', ' '] ++ reprPairs rest

end

-- The name that json.dumps makes of a dict's key, unless it raises a TypeError.
def keyText : Cell → Option String
  | .null => some "null"
  | .bool true => some "true"
  | .bool false => some "false"
  | .int value => some (String.ofList (encodeInt value))
  | .float value => some value.text
  | .str value => some value
  | _ => none

-- What json.dumps writes, up to the text; none stands for its TypeError.
mutual

def Cell.written : Cell → Option Json
  | .null => some .null
  | .bool value => some (.bool value)
  | .int value => some (.int value)
  | .float value => some (.float value)
  | .str value => some (.str value)
  | .list items => (writtenItems items).map .arr
  | .tuple items => (writtenItems items).map .arr
  | .dict fields => (writtenFields fields).map .obj
  | .moment _ _ => none
  | .exact _ _ => none
  | .bytes _ _ => none
  | .other _ _ => none

def writtenItems : List Cell → Option (List Json)
  | [] => some []
  | item :: rest =>
      match item.written, writtenItems rest with
      | some value, some values => some (value :: values)
      | _, _ => none

def writtenFields : List (Cell × Cell) → Option (List (String × Json))
  | [] => some []
  | (key, item) :: rest =>
      match keyText key, item.written, writtenFields rest with
      | some name, some value, some fields => some ((name, value) :: fields)
      | _, _, _ => none

end

def Cell.dumps (style : DumpStyle) (cell : Cell) : Option String := cell.written.map (Base.dumps style)

-- A container that json.dumps refuses becomes its str.
def orText (cell : Cell) : Cell := if cell.written.isSome then cell else .str (String.ofList (reprCell cell))

def jsonSafe : Cell → Cell
  | .moment isoformat _ => .str isoformat
  | .exact str _ => .str str
  | .bytes size _ => .str s!"<{size} bytes>"
  | .list items => orText (.list items)
  | .tuple items => orText (.tuple items)
  | .dict fields => orText (.dict fields)
  | .other str _ => .str str
  | value => value

-- No float among the values is nan or an infinity.
mutual

def Cell.finite : Cell → Bool
  | .float value => value.finite
  | .list items => finiteCells items
  | .tuple items => finiteCells items
  | .dict fields => finitePairs fields
  | _ => true

def finiteCells : List Cell → Bool
  | [] => true
  | item :: rest => item.finite && finiteCells rest

def finitePairs : List (Cell × Cell) → Bool
  | [] => true
  | (_, value) :: rest => value.finite && finitePairs rest

end

mutual

theorem written_finite (cell : Cell) (value : Json) (written : cell.written = some value) : value.finite = cell.finite := by
  cases cell with
  | null => cases written; rfl
  | bool value => cases written; rfl
  | int value => cases written; rfl
  | float value => cases written; rfl
  | str value => cases written; rfl
  | moment isoformat repr => cases written
  | exact str repr => cases written
  | bytes size repr => cases written
  | other str repr => cases written
  | list items =>
      obtain ⟨values, listed, rfl⟩ := Option.map_eq_some_iff.mp written
      rw [Json.finite, Cell.finite, written_items_finite items values listed]
  | tuple items =>
      obtain ⟨values, listed, rfl⟩ := Option.map_eq_some_iff.mp written
      rw [Json.finite, Cell.finite, written_items_finite items values listed]
  | dict fields =>
      obtain ⟨values, listed, rfl⟩ := Option.map_eq_some_iff.mp written
      rw [Json.finite, Cell.finite, written_fields_finite fields values listed]

theorem written_items_finite (items : List Cell) (values : List Json) (written : writtenItems items = some values) :
    finiteItems values = finiteCells items := by
  cases items with
  | nil => cases written; rfl
  | cons item rest =>
      rw [writtenItems] at written
      split at written
      · rename_i first others
        cases written
        rw [finiteItems, finiteCells, written_finite item _ first, written_items_finite rest _ others]
      · cases written

theorem written_fields_finite (fields : List (Cell × Cell)) (values : List (String × Json))
    (written : writtenFields fields = some values) : finiteFields values = finitePairs fields := by
  cases fields with
  | nil => cases written; rfl
  | cons field rest =>
      obtain ⟨key, item⟩ := field
      rw [writtenFields] at written
      split at written
      · rename_i named first others
        cases written
        rw [finiteFields, finitePairs, written_finite item _ first, written_fields_finite rest _ others]
      · cases written

end

theorem json_safe_written (cell : Cell) :
    (∃ value, cell.written = some value ∧ (jsonSafe cell).written = some value) ∨
      cell.written = none ∧ ∃ text, (jsonSafe cell).written = some (.str text) := by
  have container : ∀ cell : Cell, (∃ value, cell.written = some value ∧ (orText cell).written = some value) ∨
      cell.written = none ∧ ∃ text, (orText cell).written = some (.str text) := by
    intro cell
    unfold orText
    cases written : cell.written with
    | none => exact .inr ⟨rfl, _, rfl⟩
    | some value => exact .inl ⟨value, rfl, written⟩
  cases cell with
  | null => exact .inl ⟨_, rfl, rfl⟩
  | bool value => exact .inl ⟨_, rfl, rfl⟩
  | int value => exact .inl ⟨_, rfl, rfl⟩
  | float value => exact .inl ⟨_, rfl, rfl⟩
  | str value => exact .inl ⟨_, rfl, rfl⟩
  | moment isoformat repr => exact .inr ⟨rfl, _, rfl⟩
  | exact str repr => exact .inr ⟨rfl, _, rfl⟩
  | bytes size repr => exact .inr ⟨rfl, _, rfl⟩
  | other str repr => exact .inr ⟨rfl, _, rfl⟩
  | list items => exact container _
  | tuple items => exact container _
  | dict fields => exact container _

theorem json_safe_standard_iff (style : DumpStyle) (cell : Cell) :
    ∃ text, (jsonSafe cell).dumps style = some text ∧
      (JsonDocument text.toList ↔ (cell.written.isSome = true → cell.finite = true)) := by
  rcases json_safe_written cell with ⟨value, written, safe⟩ | ⟨refused, text, safe⟩
  · refine ⟨dumps style value, by rw [Cell.dumps, safe]; rfl, ?_⟩
    rw [dumps_document_iff, written_finite cell value written, written]
    exact ⟨fun finite _ => finite, fun finite => finite rfl⟩
  · refine ⟨dumps style (.str text), by rw [Cell.dumps, safe]; rfl, ?_⟩
    rw [dumps_document_iff, refused]
    exact ⟨fun _ never => Bool.noConfusion never, fun _ => rfl⟩

-- The cell of SELECT 'NaN'::DOUBLE.
theorem nan_cell_not_standard :
    ¬ ∀ (style : DumpStyle) (cell : Cell) (text : String),
        (jsonSafe cell).dumps style = some text → JsonDocument text.toList := by
  intro standard
  have dumped : (jsonSafe (.float nanText)).dumps ⟨true, true⟩ = some (dumps ⟨true, true⟩ (.float nanText)) := rfl
  have document := standard ⟨true, true⟩ (.float nanText) _ dumped
  have finite : nanText.finite = true := (dumps_document_iff ⟨true, true⟩ (.float nanText)).mp document
  exact absurd finite (by decide)

example : reprCell (.tuple [.list [.moment "2020-01-01" "datetime.date(2020, 1, 1)", .null]]) =
    "([datetime.date(2020, 1, 1), None],)".toList := by decide +kernel

end DataPilot.Core
