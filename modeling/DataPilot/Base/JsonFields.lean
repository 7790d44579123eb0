import DataPilot.Base.JsonMerged

set_option autoImplicit false

namespace DataPilot.Base

variable {α : Type}

-- A validator of JSON values: what it makes of them, or none for those it refuses.
abbrev Reader (α : Type) := Json → Option α

def readText : Reader String
  | .str text => some text
  | _ => none

def readNullable (reader : Reader α) : Reader (Option α)
  | .null => some none
  | value => (reader value).map some

def readItems (reader : Reader α) : List Json → Option (List α)
  | [] => some []
  | item :: rest => (reader item).bind fun first => (readItems reader rest).map (first :: ·)

def readList (reader : Reader α) : Reader (List α)
  | .arr items => readItems reader items
  | _ => none

def readEntries (reader : Reader α) : Dict → Option (List (String × α))
  | [] => some []
  | (key, value) :: rest => (reader value).bind fun first => (readEntries reader rest).map ((key, first) :: ·)

def readDict (reader : Reader α) : Reader (List (String × α))
  | .obj fields => readEntries reader fields
  | _ => none

-- A field of a model, with the default that stands for an absent one.
def fieldOr (default : Option α) (reader : Reader α) (key : String) (fields : Dict) : Option α :=
  if dictHas key fields then reader (dictGet key fields) else default

-- extra="forbid"
def onlyKeys (keys : List String) (fields : Dict) : Bool := fields.all fun field => field.1 ∈ keys

theorem read_items_map {β : Type} (reader : Reader α) (write : β → Json) (value : β → α) (items : List β)
    (each : ∀ item ∈ items, reader (write item) = some (value item)) :
    readItems reader (items.map write) = some (items.map value) := by
  induction items with
  | nil => rfl
  | cons item rest ih =>
      rw [List.map_cons, readItems, each item (by simp), ih fun other member => each other (by simp [member])]
      rfl

theorem read_items_written (reader : Reader α) (write : α → Json) (items : List α)
    (each : ∀ item ∈ items, reader (write item) = some item) : readItems reader (items.map write) = some items := by
  rw [read_items_map reader write id items each, List.map_id]

theorem read_list_written (reader : Reader α) (write : α → Json) (items : List α)
    (each : ∀ item ∈ items, reader (write item) = some item) : readList reader (.arr (items.map write)) = some items :=
  read_items_written reader write items each

theorem read_entries_written (reader : Reader α) (write : α → Json) (entries : List (String × α))
    (each : ∀ entry ∈ entries, reader (write entry.2) = some entry.2) :
    readDict reader (.obj (entries.map fun entry => (entry.1, write entry.2))) = some entries := by
  rw [readDict]
  induction entries with
  | nil => rfl
  | cons entry rest ih =>
      rw [List.map_cons, readEntries, each entry (by simp), ih fun other member => each other (by simp [member])]
      rfl

theorem read_nullable_written (reader : Reader α) (write : α → Json) (value : Option α)
    (each : ∀ inner, value = some inner → reader (write inner) = some inner ∧ write inner ≠ .null) :
    readNullable reader (match value with
      | none => .null
      | some inner => write inner) = some value := by
  cases value with
  | none => rfl
  | some inner =>
      obtain ⟨read, filled⟩ := each inner rfl
      have plain : readNullable reader (write inner) = (reader (write inner)).map some := by
        unfold readNullable
        split
        · rename_i empty
          exact absurd empty filled
        · rfl
      dsimp only
      rw [plain, read, Option.map_some]

theorem merge_items_each (items : List Json) (each : ∀ item ∈ items, mergeKeys item = item) : mergeItems items = items := by
  induction items with
  | nil => rfl
  | cons item rest ih =>
      rw [mergeItems, each item (by simp), ih fun other member => each other (by simp [member])]

theorem merged_list (items : List Json) (each : ∀ item ∈ items, mergeKeys item = item) :
    mergeKeys (.arr items) = .arr items := by
  rw [mergeKeys, merge_items_each items each]

theorem merged_map (write : α → Json) (items : List α) (each : ∀ item, mergeKeys (write item) = write item) :
    mergeKeys (.arr (items.map write)) = .arr (items.map write) := by
  apply merged_list
  intro item member
  obtain ⟨inner, _, rfl⟩ := List.mem_map.mp member
  exact each inner

end DataPilot.Base
