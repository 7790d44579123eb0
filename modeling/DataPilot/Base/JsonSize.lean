import DataPilot.Base.Json

set_option autoImplicit false

namespace DataPilot.Base

-- How long the text of json.dumps is with the separators (",", ":").
section Sizes

variable (ascii : Bool)

def textSize (text : String) : Nat := 2 + (text.toList.map fun c => (encodeChar ascii c).length).sum

mutual

def jsonSize : Json → Nat
  | .null => 4
  | .bool true => 4
  | .bool false => 5
  | .int value => (encodeInt value).length
  | .float value => value.text.length
  | .str value => textSize ascii value
  | .arr items => max 2 (1 + itemsSize items)
  | .obj fields => max 2 (1 + fieldsSize fields)

def itemsSize : List Json → Nat
  | [] => 0
  | item :: rest => jsonSize item + 1 + itemsSize rest

def fieldsSize : Dict → Nat
  | [] => 0
  | (key, value) :: rest => textSize ascii key + 1 + jsonSize value + 1 + fieldsSize rest

end

theorem encode_string_size (text : String) : (encodeString ascii text).length = textSize ascii text := by
  rw [encodeString, List.length_append, List.length_cons, List.length_flatMap, textSize, List.length_singleton]
  omega

mutual

theorem encode_size (value : Json) : (encode ⟨ascii, false⟩ value).length = jsonSize ascii value := by
  cases value with
  | null => rfl
  | bool flag => cases flag <;> rfl
  | int value => rw [encode, jsonSize]
  | float value => rw [encode, jsonSize, String.length_toList]
  | str value => rw [encode, jsonSize, encode_string_size]
  | arr items =>
      cases items with
      | nil => rfl
      | cons first others =>
          rw [encode, List.length_cons, List.length_append, encode_size first, encode_items_size others, jsonSize, itemsSize]
          omega
  | obj fields =>
      cases fields with
      | nil => rfl
      | cons field others =>
          obtain ⟨key, value⟩ := field
          have separator : (DumpStyle.keySeparator ⟨ascii, false⟩).length = 1 := rfl
          rw [encode, List.length_cons, List.length_append, List.length_append, List.length_append, encode_string_size,
            separator, encode_size value, encode_fields_size others, jsonSize, fieldsSize]
          dsimp only
          omega

theorem encode_items_size (items : List Json) :
    (encodeItems ⟨ascii, false⟩ items).length = 1 + itemsSize ascii items := by
  cases items with
  | nil => rfl
  | cons item rest =>
      have separator : (DumpStyle.itemSeparator ⟨ascii, false⟩).length = 1 := rfl
      rw [encodeItems, List.length_append, List.length_append, separator, encode_size item, encode_items_size rest, itemsSize]
      omega

theorem encode_fields_size (fields : Dict) :
    (encodeFields ⟨ascii, false⟩ fields).length = 1 + fieldsSize ascii fields := by
  cases fields with
  | nil => rfl
  | cons field rest =>
      obtain ⟨key, value⟩ := field
      have item : (DumpStyle.itemSeparator ⟨ascii, false⟩).length = 1 := rfl
      have separator : (DumpStyle.keySeparator ⟨ascii, false⟩).length = 1 := rfl
      rw [encodeFields, List.length_append, List.length_append, List.length_append, List.length_append, item,
        encode_string_size, separator, encode_size value, encode_fields_size rest, fieldsSize]
      dsimp only
      omega

end

theorem dumps_length (value : Json) : (dumps ⟨ascii, false⟩ value).length = jsonSize ascii value := by
  rw [dumps, String.length_ofList, encode_size]

theorem items_size_sum (items : List Json) :
    itemsSize ascii items = (items.map fun item => jsonSize ascii item + 1).sum := by
  induction items with
  | nil => rfl
  | cons item rest ih => rw [itemsSize, ih, List.map_cons, List.sum_cons]

end Sizes

-- An array and an object from the sizes of what is in them: a bracket, and
-- behind each item a comma or the other bracket; each key in quotes before a colon.
def arrayChars (sizes : List Nat) : Nat := max 2 (1 + (sizes.map (· + 1)).sum)

def objectChars (entries : List (String × Nat)) : Nat := 1 + (entries.map fun entry => entry.1.length + 4 + entry.2).sum

theorem array_size (ascii : Bool) (items : List Json) :
    jsonSize ascii (.arr items) = arrayChars (items.map (jsonSize ascii)) := by
  rw [jsonSize, items_size_sum, arrayChars, List.map_map]
  rfl

-- Keys that need no escape.
def PlainKeys (ascii : Bool) (keys : List String) : Prop := ∀ key ∈ keys, textSize ascii key = key.length + 2

instance (ascii : Bool) (keys : List String) : Decidable (PlainKeys ascii keys) := List.decidableBAll _ keys

theorem object_size (ascii : Bool) (fields : Dict) (full : fields ≠ [])
    (plain : PlainKeys ascii (fields.map Prod.fst)) :
    jsonSize ascii (.obj fields) = objectChars (fields.map fun field => (field.1, jsonSize ascii field.2)) := by
  have sized : fieldsSize ascii fields =
      ((fields.map fun field => (field.1, jsonSize ascii field.2)).map fun entry => entry.1.length + 4 + entry.2).sum := by
    clear full
    induction fields with
    | nil => rfl
    | cons field rest ih =>
        obtain ⟨key, value⟩ := field
        have first := plain key List.mem_cons_self
        rw [fieldsSize, ih fun other member => plain other (List.mem_cons_of_mem _ member), first]
        simp only [List.map_cons, List.sum_cons]
        omega
  have positive : 1 ≤ fieldsSize ascii fields := by
    cases fields with
    | nil => exact absurd rfl full
    | cons field rest =>
        obtain ⟨key, value⟩ := field
        rw [fieldsSize]
        omega
  rw [jsonSize, objectChars, ← sized]
  omega

end DataPilot.Base
