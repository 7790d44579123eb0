import DataPilot.Base.Assignments
import DataPilot.Core.Serialization

set_option autoImplicit false

namespace DataPilot.Tools

open DataPilot.Base DataPilot.Core

-- What a driver holds after a query: the column names of its description and
-- one tuple a row. zip(.., strict=True) takes the width for granted.
structure ResultSet where
  columns : List String
  rows : List (List Cell)
  width : ∀ row ∈ rows, row.length = columns.length

structure QueryResult where
  columns : List String
  rows : List (List (String × Cell))
  rowCount : Nat
  truncated : Bool

structure DuckDBAnalyticsEngine where
  maxQueryRows : Nat := 1000
  positive : 1 ≤ maxQueryRows := by decide

variable {α β : Type}

-- {column_name: value for column_name, value in zip(column_names, row)}
def rowOf (columns : List String) (values : List α) : List (String × α) := fromItems (columns.zip values)

-- cursor.fetchmany(limit + 1), and the rows of it that are shown.
def fetched (limit : Nat) (set : ResultSet) : List (List Cell) := set.rows.take (limit + 1)

def visibleRows (limit : Nat) (set : ResultSet) : List (List Cell) := (fetched limit set).take limit

def safeRow (columns : List String) (row : List Cell) : List (String × Cell) := rowOf columns (row.map jsonSafe)

def DuckDBAnalyticsEngine.rowLimit (engine : DuckDBAnalyticsEngine) : Option Int → Int
  | none => engine.maxQueryRows
  | some maxRows => min maxRows engine.maxQueryRows

def DuckDBAnalyticsEngine.executeSelect (engine : DuckDBAnalyticsEngine) (execute : String → Except PyException ResultSet)
    (sql : String) (maxRows : Option Int) : Except PyException QueryResult :=
  if engine.rowLimit maxRows < 1 then .error ⟨"ValueError", "max_rows must be positive."⟩
  else
    match execute sql with
    | .error failure => .error failure
    | .ok set =>
        let limit := (engine.rowLimit maxRows).toNat
        let rows := (visibleRows limit set).map (safeRow set.columns)
        .ok ⟨set.columns, rows, rows.length, decide (limit < (fetched limit set).length)⟩

theorem visible_rows_first (limit : Nat) (set : ResultSet) : visibleRows limit set = set.rows.take limit := by
  rw [visibleRows, fetched, List.take_take, Nat.min_eq_left (Nat.le_succ limit)]

theorem fetched_more (limit : Nat) (set : ResultSet) : limit < (fetched limit set).length ↔ limit < set.rows.length := by
  rw [fetched, List.length_take]
  omega

theorem set_item_map (key : String) (value : α) (fields : List (String × α)) (shown : α → β) :
    (setItem key value fields).map (fun field => (field.1, shown field.2)) =
      setItem key (shown value) (fields.map fun field => (field.1, shown field.2)) := by
  induction fields with
  | nil => rfl
  | cons field rest ih =>
      obtain ⟨name, old⟩ := field
      by_cases same : name = key
      · simp [setItem, same]
      · simp [setItem, same, ih]

theorem row_of_map (columns : List String) (values : List α) (shown : α → β) :
    (rowOf columns values).map (fun field => (field.1, shown field.2)) = rowOf columns (values.map shown) := by
  have folded : ∀ (pairs fields : List (String × α)),
      (setItems fields pairs).map (fun field => (field.1, shown field.2)) =
        setItems (fields.map fun field => (field.1, shown field.2)) (pairs.map fun field => (field.1, shown field.2)) := by
    intro pairs
    induction pairs with
    | nil => exact fun _ => rfl
    | cons pair rest ih =>
        intro fields
        unfold setItems at ih ⊢
        rw [List.foldl_cons, ih, set_item_map, List.map_cons, List.foldl_cons]
  have zipped : (columns.zip values).map (fun field => (field.1, shown field.2)) = columns.zip (values.map shown) := by
    rw [List.zip_map_right]
    rfl
  rw [rowOf, fromItems, folded, zipped]
  rfl

-- The row of names tells every value of the tuple it was made of.
def RowRecoverable (shown : Cell → α) (columns : List String) (row : List Cell) : Prop :=
  ∀ other : List Cell, other.length = columns.length → rowOf columns (other.map shown) = rowOf columns (row.map shown) →
    other.map shown = row.map shown

theorem repeated_split (columns : List String) (repeated : ¬ columns.Nodup) :
    ∃ front key back, columns = front ++ key :: back ∧ key ∈ back := by
  induction columns with
  | nil => exact absurd List.nodup_nil repeated
  | cons column rest ih =>
      by_cases again : column ∈ rest
      · exact ⟨[], column, rest, rfl, again⟩
      · have later : ¬ rest.Nodup := fun distinct => repeated (List.nodup_cons.mpr ⟨again, distinct⟩)
        obtain ⟨front, key, back, same, member⟩ := ih later
        exact ⟨column :: front, key, back, by rw [same]; rfl, member⟩

theorem row_of_distinct (columns : List String) (values : List α) (distinct : columns.Nodup)
    (width : values.length = columns.length) : rowOf columns values = columns.zip values := by
  apply from_items_distinct
  rw [List.map_fst_zip (Nat.le_of_eq width.symm)]
  exact distinct

theorem distinct_recoverable (shown : Cell → α) (columns : List String) (row : List Cell) (distinct : columns.Nodup)
    (width : row.length = columns.length) : RowRecoverable shown columns row := by
  intro other long same
  have wide : (row.map shown).length = columns.length := by rw [List.length_map, width]
  have alike : (other.map shown).length = columns.length := by rw [List.length_map, long]
  rw [row_of_distinct columns _ distinct alike, row_of_distinct columns _ distinct wide] at same
  rw [← List.map_snd_zip (Nat.le_of_eq alike), same, List.map_snd_zip (Nat.le_of_eq wide)]

theorem repeated_unrecoverable (shown : Cell → α) (columns : List String) (row : List Cell) (first second : Cell)
    (different : shown first ≠ shown second) (repeated : ¬ columns.Nodup) (width : row.length = columns.length) :
    ¬ RowRecoverable shown columns row := by
  obtain ⟨front, key, back, rfl, again⟩ := repeated_split columns repeated
  rw [List.length_append, List.length_cons] at width
  have wide : (row.take front.length).length = front.length := by
    rw [List.length_take]
    omega
  obtain ⟨cell, rest, tail⟩ : ∃ cell rest, row.drop front.length = cell :: rest := by
    apply List.exists_cons_of_ne_nil
    intro nothing
    have short := congrArg List.length nothing
    rw [List.length_drop, List.length_nil] at short
    omega
  have parts : row = row.take front.length ++ cell :: rest := by rw [← tail, List.take_append_drop]
  have long : rest.length = back.length := by
    have lengths := congrArg List.length tail
    rw [List.length_drop, List.length_cons] at lengths
    omega
  obtain ⟨other, changed⟩ : ∃ other, shown other ≠ shown cell := by
    by_cases same : shown first = shown cell
    · exact ⟨second, fun equal => different (same.trans equal.symm)⟩
    · exact ⟨first, same⟩
  intro recoverable
  have zipped : ∀ cell, (front ++ key :: back).zip ((row.take front.length ++ cell :: rest).map shown) =
      front.zip ((row.take front.length).map shown) ++ (key, shown cell) :: back.zip (rest.map shown) := by
    intro cell
    rw [List.map_append, List.zip_append (by rw [List.length_map, wide])]
    rfl
  have listed : key ∈ (back.zip (rest.map shown)).map Prod.fst := by
    rw [List.map_fst_zip (by rw [List.length_map, long])]
    exact again
  have same : (row.take front.length ++ other :: rest).map shown = row.map shown := by
    apply recoverable
    · simp only [List.length_append, List.length_cons, wide, long]
    · conv_rhs => rw [parts]
      rw [rowOf, rowOf, zipped, zipped]
      exact from_items_overwritten _ _ key _ _ listed
  conv_rhs at same => rw [parts]
  rw [List.map_append, List.map_append, List.map_cons, List.map_cons] at same
  exact changed (List.cons.inj (List.append_cancel_left same)).1

theorem row_recoverable_iff (shown : Cell → α) (first second : Cell) (different : shown first ≠ shown second)
    (columns : List String) (row : List Cell) (width : row.length = columns.length) :
    RowRecoverable shown columns row ↔ columns.Nodup := by
  constructor
  · intro recoverable
    by_contra repeated
    exact repeated_unrecoverable shown columns row first second different repeated width recoverable
  · intro distinct
    exact distinct_recoverable shown columns row distinct width

end DataPilot.Tools
