import Mathlib.Algebra.GroupWithZero.Nat
import Mathlib.Data.List.Sort
import DataPilot.Base.Text

set_option autoImplicit false

namespace DataPilot.Base

-- The stages of json.scanner's NUMBER_RE: each takes what it matches off the
-- front of the text and leaves the rest.
def scanSign : List Char → List Char × List Char
  | '-' :: rest => (['-'], rest)
  | rest => ([], rest)

def scanInteger : List Char → Option (List Char × List Char)
  | [] => none
  | c :: rest =>
      if c = '0' then some (['0'], rest)
      else if c.isDigit then some (c :: rest.takeWhile Char.isDigit, rest.dropWhile Char.isDigit)
      else none

def scanFraction : List Char → List Char × List Char
  | [] => ([], [])
  | c :: rest =>
      if c = '.' ∧ rest.takeWhile Char.isDigit ≠ [] then
        ('.' :: rest.takeWhile Char.isDigit, rest.dropWhile Char.isDigit)
      else ([], c :: rest)

def scanExponentSign : List Char → List Char × List Char
  | [] => ([], [])
  | c :: rest => if c = '+' ∨ c = '-' then ([c], rest) else ([], c :: rest)

def scanExponent : List Char → List Char × List Char
  | [] => ([], [])
  | c :: rest =>
      let signed := scanExponentSign rest
      if (c = 'e' ∨ c = 'E') ∧ signed.2.takeWhile Char.isDigit ≠ [] then
        (c :: signed.1 ++ signed.2.takeWhile Char.isDigit, signed.2.dropWhile Char.isDigit)
      else ([], c :: rest)

structure NumberScan where
  integer : List Char
  fraction : List Char
  exponent : List Char
  rest : List Char
deriving DecidableEq

def scanNumber (text : List Char) : Option NumberScan :=
  let signed := scanSign text
  match scanInteger signed.2 with
  | none => none
  | some (digits, afterInteger) =>
      let fraction := scanFraction afterInteger
      let exponent := scanExponent fraction.2
      some ⟨signed.1 ++ digits, fraction.1, exponent.1, exponent.2⟩

-- The float literals of NUMBER_RE and the names of the floats that are not
-- finite. A float is kept as its literal, of which float.__repr__ writes one.
def isFloatLiteral (text : String) : Bool :=
  text = "NaN" || text = "Infinity" || text = "-Infinity" ||
  match scanNumber text.toList with
  | some ⟨_, fraction, exponent, []⟩ => !(fraction ++ exponent).isEmpty
  | _ => false

-- Floating point is not modelled: a float is the literal it is written as.
structure FloatText where
  text : String
  literal : isFloatLiteral text = true
deriving DecidableEq

inductive Json where
  | null
  | bool (value : Bool)
  | int (value : Int)
  | float (value : FloatText)
  | str (value : String)
  | arr (items : List Json)
  | obj (fields : List (String × Json))

abbrev Dict := List (String × Json)

-- dict.get, with None for an absent key.
def dictGet (key : String) : Dict → Json
  | [] => .null
  | (name, value) :: rest => if name = key then value else dictGet key rest

def dictSet (key : String) (value : Json) : Dict → Dict
  | [] => [(key, value)]
  | (name, old) :: rest =>
      if name = key then (name, value) :: rest else (name, old) :: dictSet key value rest

def dictHas (key : String) (fields : Dict) : Bool := fields.any fun field => field.1 = key

def Json.truthy : Json → Bool
  | .null => false
  | .bool value => value
  | .int value => value ≠ 0
  | .float value => !(value.text.toList.takeWhile (fun c => c ≠ 'e' && c ≠ 'E')).all (fun c => c = '0' || c = '.' || c = '-')
  | .str value => value ≠ ""
  | .arr items => !items.isEmpty
  | .obj fields => !fields.isEmpty

-- ensure_ascii and the separators, (", ", ": ") when spaced and (",", ":") when not.
structure DumpStyle where
  ascii : Bool
  spaced : Bool
deriving DecidableEq

def DumpStyle.itemSeparator (style : DumpStyle) : List Char := if style.spaced then [',', ' '] else [',']
def DumpStyle.keySeparator (style : DumpStyle) : List Char := if style.spaced then [':', ' '] else [':']

def hexDigit (n : Nat) : Char := if n < 10 then Char.ofNat (48 + n) else Char.ofNat (87 + n)

def unicodeEscape (code : Nat) : List Char :=
  ['\\', 'u', hexDigit (code / 4096 % 16), hexDigit (code / 256 % 16), hexDigit (code / 16 % 16), hexDigit (code % 16)]

def encodeChar (ascii : Bool) (c : Char) : List Char :=
  if c = '"' then ['\\', '"']
  else if c = '\\' then ['\\', '\\']
  else if c = '\n' then ['\\', 'n']
  else if c = '\r' then ['\\', 'r']
  else if c = '\t' then ['\\', 't']
  else if c.toNat = 12 then ['\\', 'f']
  else if c.toNat = 8 then ['\\', 'b']
  else if c.toNat < 32 then unicodeEscape c.toNat
  else if ascii = true ∧ 126 < c.toNat then
    if c.toNat < 65536 then unicodeEscape c.toNat
    else unicodeEscape (55296 + (c.toNat - 65536) / 1024) ++ unicodeEscape (56320 + (c.toNat - 65536) % 1024)
  else [c]

def encodeString (ascii : Bool) (s : String) : List Char :=
  '"' :: s.toList.flatMap (encodeChar ascii) ++ ['"']

def encodeInt : Int → List Char
  | .ofNat n => Nat.toDigits 10 n
  | .negSucc n => '-' :: Nat.toDigits 10 (n + 1)

mutual

def encode (style : DumpStyle) : Json → List Char
  | .null => ['n', 'u', 'l', 'l']
  | .bool true => ['t', 'r', 'u', 'e']
  | .bool false => ['f', 'a', 'l', 's', 'e']
  | .int value => encodeInt value
  | .float value => value.text.toList
  | .str value => encodeString style.ascii value
  | .arr [] => ['[', ']']
  | .arr (first :: others) => '[' :: (encode style first ++ encodeItems style others)
  | .obj [] => ['{', '}']
  | .obj ((key, first) :: others) =>
      '{' :: (encodeString style.ascii key ++ style.keySeparator ++ encode style first ++ encodeFields style others)

def encodeItems (style : DumpStyle) : List Json → List Char
  | [] => [']']
  | item :: rest => style.itemSeparator ++ encode style item ++ encodeItems style rest

def encodeFields (style : DumpStyle) : List (String × Json) → List Char
  | [] => ['}']
  | (key, value) :: rest =>
      style.itemSeparator ++ encodeString style.ascii key ++ style.keySeparator ++ encode style value ++
        encodeFields style rest

end

def dumps (style : DumpStyle) (value : Json) : String := String.ofList (encode style value)

-- sort_keys=True. Python orders str keys by code point, as String does.
mutual

def sortKeys : Json → Json
  | .arr items => .arr (sortItems items)
  | .obj fields => .obj ((sortFields fields).insertionSort fun a b => a.1 ≤ b.1)
  | value => value

def sortItems : List Json → List Json
  | [] => []
  | item :: rest => sortKeys item :: sortItems rest

def sortFields : List (String × Json) → List (String × Json)
  | [] => []
  | (key, value) :: rest => (key, sortKeys value) :: sortFields rest

end

theorem encode_object_head (style : DumpStyle) (fields : Dict) :
    ∃ tail, encode style (.obj fields) = '{' :: tail := by
  cases fields with
  | nil => exact ⟨['}'], by rw [encode]⟩
  | cons field rest =>
      obtain ⟨key, value⟩ := field
      exact ⟨_, by rw [encode]⟩

theorem encode_fields_last (style : DumpStyle) (fields : Dict) : ∃ inside, encodeFields style fields = inside ++ ['}'] := by
  induction fields with
  | nil => exact ⟨[], rfl⟩
  | cons field rest ih =>
      obtain ⟨key, value⟩ := field
      obtain ⟨inside, last⟩ := ih
      refine ⟨style.itemSeparator ++ encodeString style.ascii key ++ style.keySeparator ++ encode style value ++ inside, ?_⟩
      rw [encodeFields, last, List.append_assoc _ inside]

theorem encode_object_braces (style : DumpStyle) (fields : Dict) :
    ∃ inside, encode style (.obj fields) = '{' :: inside ++ ['}'] := by
  cases fields with
  | nil => exact ⟨[], by rw [encode]; rfl⟩
  | cons field rest =>
      obtain ⟨key, value⟩ := field
      obtain ⟨inside, last⟩ := encode_fields_last style rest
      refine ⟨encodeString style.ascii key ++ style.keySeparator ++ encode style value ++ inside, ?_⟩
      rw [encode, last, List.cons_append, List.append_assoc _ inside]

theorem dict_get_set (key : String) (value : Json) (fields : Dict) :
    dictGet key (dictSet key value fields) = value := by
  induction fields with
  | nil => simp [dictSet, dictGet]
  | cons field rest ih =>
      obtain ⟨name, old⟩ := field
      by_cases same : name = key <;> simp [dictSet, dictGet, same, ih]

example : dumps ⟨true, true⟩ (sortKeys (.obj [("b", .arr [.int (-1), .null]), ("a", .str "é\n")])) =
    "\x7b\"a\": \"\\u00e9\\n\", \"b\": [-1, null]\x7d" := by decide

end DataPilot.Base
