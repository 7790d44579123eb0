import DataPilot.Base.Json

set_option autoImplicit false

namespace DataPilot.Base

-- What a tool may return. A pydantic model is known by its class and its JSON
-- dump; any other object by its class and by what isoformat or str makes of it.
inductive PyValue where
  | null
  | bool (value : Bool)
  | int (value : Int)
  | float (value : FloatText)
  | str (value : String)
  | list (items : List PyValue)
  | set (items : List PyValue)
  | dict (fields : List (String × PyValue))
  | model (cls : String) (dump : Json)
  | other (cls : String) (text : Except PyException String)

def pyGet (key : String) : List (String × PyValue) → PyValue
  | [] => .null
  | (name, value) :: rest => if name = key then value else pyGet key rest

-- The fields of a value that isinstance calls a dict, and none of any other.
def PyValue.dictFields : PyValue → List (String × PyValue)
  | .dict fields => fields
  | _ => []

-- Agent._jsonable followed by json.dumps with default=str, up to the text.
mutual

def PyValue.jsonable : PyValue → Except PyException Json
  | .null => .ok .null
  | .bool value => .ok (.bool value)
  | .int value => .ok (.int value)
  | .float value => .ok (.float value)
  | .str value => .ok (.str value)
  | .list items => (jsonableItems items).map .arr
  | .set items => (jsonableItems items).map .arr
  | .dict fields => (jsonableFields fields).map .obj
  | .model _ dump => .ok dump
  | .other _ text => text.map .str

def jsonableItems : List PyValue → Except PyException (List Json)
  | [] => .ok []
  | item :: rest =>
      match item.jsonable with
      | .error failure => .error failure
      | .ok value => (jsonableItems rest).map (value :: ·)

def jsonableFields : List (String × PyValue) → Except PyException Dict
  | [] => .ok []
  | (key, item) :: rest =>
      match item.jsonable with
      | .error failure => .error failure
      | .ok value => (jsonableFields rest).map ((key, value) :: ·)

end

def notSerializable (cls : String) : PyException :=
  ⟨"TypeError", s!"Object of type {cls} is not JSON serializable"⟩

-- json.dumps without a default, up to the text.
mutual

def PyValue.plain : PyValue → Except PyException Json
  | .null => .ok .null
  | .bool value => .ok (.bool value)
  | .int value => .ok (.int value)
  | .float value => .ok (.float value)
  | .str value => .ok (.str value)
  | .list items => (plainItems items).map .arr
  | .set _ => .error (notSerializable "set")
  | .dict fields => (plainFields fields).map .obj
  | .model cls _ => .error (notSerializable cls)
  | .other cls _ => .error (notSerializable cls)

def plainItems : List PyValue → Except PyException (List Json)
  | [] => .ok []
  | item :: rest =>
      match item.plain with
      | .error failure => .error failure
      | .ok value => (plainItems rest).map (value :: ·)

def plainFields : List (String × PyValue) → Except PyException Dict
  | [] => .ok []
  | (key, item) :: rest =>
      match item.plain with
      | .error failure => .error failure
      | .ok value => (plainFields rest).map ((key, value) :: ·)

end

-- The values that json itself can write.
mutual

def PyValue.isJson : PyValue → Bool
  | .list items => isJsonItems items
  | .dict fields => isJsonFields fields
  | .set _ => false
  | .model _ _ => false
  | .other _ _ => false
  | _ => true

def isJsonItems : List PyValue → Bool
  | [] => true
  | item :: rest => item.isJson && isJsonItems rest

def isJsonFields : List (String × PyValue) → Bool
  | [] => true
  | (_, item) :: rest => item.isJson && isJsonFields rest

end

mutual

theorem json_value_written (value : PyValue) (json : value.isJson = true) :
    ∃ written, value.jsonable = .ok written ∧ value.plain = .ok written := by
  cases value with
  | null => exact ⟨_, rfl, rfl⟩
  | bool value => exact ⟨_, rfl, rfl⟩
  | int value => exact ⟨_, rfl, rfl⟩
  | float value => exact ⟨_, rfl, rfl⟩
  | str value => exact ⟨_, rfl, rfl⟩
  | list items =>
      rw [PyValue.isJson] at json
      obtain ⟨written, jsonable, plain⟩ := json_items_written items json
      exact ⟨.arr written, by rw [PyValue.jsonable, jsonable]; rfl, by rw [PyValue.plain, plain]; rfl⟩
  | dict fields =>
      rw [PyValue.isJson] at json
      obtain ⟨written, jsonable, plain⟩ := json_fields_written fields json
      exact ⟨.obj written, by rw [PyValue.jsonable, jsonable]; rfl, by rw [PyValue.plain, plain]; rfl⟩
  | set items => simp [PyValue.isJson] at json
  | model cls dump => simp [PyValue.isJson] at json
  | other cls text => simp [PyValue.isJson] at json

theorem json_items_written (items : List PyValue) (json : isJsonItems items = true) :
    ∃ written, jsonableItems items = .ok written ∧ plainItems items = .ok written := by
  cases items with
  | nil => exact ⟨[], rfl, rfl⟩
  | cons item rest =>
      rw [isJsonItems, Bool.and_eq_true] at json
      obtain ⟨first, jsonable, plain⟩ := json_value_written item json.1
      obtain ⟨others, restJsonable, restPlain⟩ := json_items_written rest json.2
      exact ⟨first :: others, by rw [jsonableItems, jsonable, restJsonable]; rfl,
        by rw [plainItems, plain, restPlain]; rfl⟩

theorem json_fields_written (fields : List (String × PyValue)) (json : isJsonFields fields = true) :
    ∃ written, jsonableFields fields = .ok written ∧ plainFields fields = .ok written := by
  cases fields with
  | nil => exact ⟨[], rfl, rfl⟩
  | cons field rest =>
      obtain ⟨key, item⟩ := field
      rw [isJsonFields, Bool.and_eq_true] at json
      obtain ⟨first, jsonable, plain⟩ := json_value_written item json.1
      obtain ⟨others, restJsonable, restPlain⟩ := json_fields_written rest json.2
      exact ⟨(key, first) :: others, by rw [jsonableFields, jsonable, restJsonable]; rfl,
        by rw [plainFields, plain, restPlain]; rfl⟩

end

theorem json_get (key : String) (fields : List (String × PyValue)) (json : isJsonFields fields = true) :
    (pyGet key fields).isJson = true := by
  induction fields with
  | nil => rfl
  | cons field rest ih =>
      obtain ⟨name, item⟩ := field
      rw [isJsonFields, Bool.and_eq_true] at json
      rw [pyGet]
      split
      · exact json.1
      · exact ih json.2

theorem json_dict_fields (value : PyValue) (json : value.isJson = true) : isJsonFields value.dictFields = true := by
  cases value with
  | dict fields => exact json
  | _ => rfl

end DataPilot.Base
