import DataPilot.Base.Json

set_option autoImplicit false

namespace DataPilot.Base

def isJsonSpace (c : Char) : Bool := c = ' ' || c = '\t' || c = '\n' || c = '\r'

def skipSpace (text : List Char) : List Char := text.dropWhile isJsonSpace

def hexValue (c : Char) : Option Nat :=
  if 48 ≤ c.toNat ∧ c.toNat ≤ 57 then some (c.toNat - 48)
  else if 97 ≤ c.toNat ∧ c.toNat ≤ 102 then some (c.toNat - 87)
  else if 65 ≤ c.toNat ∧ c.toNat ≤ 70 then some (c.toNat - 55)
  else none

def hexQuad : List Char → Option (Nat × List Char)
  | a :: b :: c :: d :: rest =>
      match hexValue a, hexValue b, hexValue c, hexValue d with
      | some w, some x, some y, some z => some (((w * 16 + x) * 16 + y) * 16 + z, rest)
      | _, _, _, _ => none
  | _ => none

def unescape (c : Char) : Option Char :=
  if c = '"' then some '"' else if c = '\\' then some '\\' else if c = '/' then some '/'
  else if c = 'b' then some (Char.ofNat 8) else if c = 'f' then some (Char.ofNat 12)
  else if c = 'n' then some '\n' else if c = 'r' then some '\r' else if c = 't' then some '\t'
  else none

def prepend (c : Char) : Option (List Char × List Char) → Option (List Char × List Char) :=
  Option.map fun scanned => (c :: scanned.1, scanned.2)

-- The four hex digits after a "\\u", and the second escape when they are the
-- first half of a surrogate pair. A lone surrogate has no Char and is refused.
def scanUnicode (text : List Char) : Option (Char × List Char) :=
  match hexQuad text with
  | none => none
  | some (code, rest) =>
      if 55296 ≤ code ∧ code < 56320 then
        match rest with
        | '\\' :: 'u' :: more =>
            match hexQuad more with
            | none => none
            | some (low, after) =>
                if 56320 ≤ low ∧ low < 57344 then
                  some (Char.ofNat (65536 + (code - 55296) * 1024 + (low - 56320)), after)
                else none
        | _ => none
      else if 56320 ≤ code ∧ code < 57344 then none
      else some (Char.ofNat code, rest)

def scanEscape : List Char → Option (Char × List Char)
  | [] => none
  | c :: rest => if c = 'u' then scanUnicode rest else (unescape c).map fun plain => (plain, rest)

-- The text after an opening quote, up to the closing one, character by
-- character; the first argument bounds their number.
def parseChars : Nat → List Char → Option (List Char × List Char)
  | 0, _ => none
  | _ + 1, [] => none
  | fuel + 1, c :: rest =>
      if c = '"' then some ([], rest)
      else if c = '\\' then
        match scanEscape rest with
        | none => none
        | some (plain, after) => prepend plain (parseChars fuel after)
      else if c.toNat < 32 then none
      else prepend c (parseChars fuel rest)

def parseString (text : List Char) : Option (List Char × List Char) := parseChars (text.length + 1) text

def digitsInt : List Char → Int
  | '-' :: digits => - Int.ofNat (Nat.ofDigitChars 10 digits 0)
  | digits => Int.ofNat (Nat.ofDigitChars 10 digits 0)

def parseNumber (text : List Char) : Option (Json × List Char) :=
  match scanNumber text with
  | none => none
  | some scan =>
      if (scan.fraction ++ scan.exponent).isEmpty then some (.int (digitsInt scan.integer), scan.rest)
      else
        let literal := String.ofList (scan.integer ++ scan.fraction ++ scan.exponent)
        if valid : isFloatLiteral literal = true then some (.float ⟨literal, valid⟩, scan.rest) else none

def nanText : FloatText := ⟨"NaN", by decide⟩
def infinityText : FloatText := ⟨"Infinity", by decide⟩
def negInfinityText : FloatText := ⟨"-Infinity", by decide⟩

-- A value that needs no recursion: json.scanner tries the literals, then a
-- number, then the names of the non-finite floats.
def literals : List (List Char × Json) :=
  [("null".toList, .null), ("true".toList, .bool true), ("false".toList, .bool false)]

def nonFinite : List (List Char × Json) :=
  [("NaN".toList, .float nanText), ("Infinity".toList, .float infinityText), ("-Infinity".toList, .float negInfinityText)]

def parseName (names : List (List Char × Json)) (text : List Char) : Option (Json × List Char) :=
  (names.find? fun name => name.1.isPrefixOf text).map fun name => (name.2, text.drop name.1.length)

def parseAtom (text : List Char) : Option (Json × List Char) :=
  match parseName literals text with
  | some parsed => some parsed
  | none =>
      match parseNumber text with
      | some parsed => some parsed
      | none => parseName nonFinite text

-- The text after the opening quote of a member's key.
def parseMember (parse : List Char → Option (Json × List Char)) (text : List Char) :
    Option ((String × Json) × List Char) :=
  match parseString text with
  | none => none
  | some (key, after) =>
      match skipSpace after with
      | ':' :: rest => (parse (skipSpace rest)).map fun parsed => ((String.ofList key, parsed.1), parsed.2)
      | _ => none

-- The first argument bounds the nesting and the number of members; a text has
-- fewer of both than it has characters. parseItems and parseFields read what
-- follows an item or a member.
mutual

def parseValue : Nat → List Char → Option (Json × List Char)
  | 0, _ => none
  | _ + 1, [] => none
  | fuel + 1, c :: rest =>
      if c = '"' then (parseString rest).map fun scanned => (.str (String.ofList scanned.1), scanned.2)
      else if c = '{' then
        match skipSpace rest with
        | '}' :: after => some (.obj [], after)
        | '"' :: after =>
            match parseMember (parseValue fuel) after with
            | none => none
            | some (member, after) => (parseFields fuel after).map fun parsed => (.obj (member :: parsed.1), parsed.2)
        | _ => none
      else if c = '[' then
        match skipSpace rest with
        | ']' :: after => some (.arr [], after)
        | after =>
            match parseValue fuel after with
            | none => none
            | some (item, after) => (parseItems fuel after).map fun parsed => (.arr (item :: parsed.1), parsed.2)
      else parseAtom (c :: rest)

def parseItems : Nat → List Char → Option (List Json × List Char)
  | 0, _ => none
  | fuel + 1, text =>
      match skipSpace text with
      | ']' :: rest => some ([], rest)
      | ',' :: rest =>
          match parseValue fuel (skipSpace rest) with
          | none => none
          | some (item, after) => (parseItems fuel after).map fun parsed => (item :: parsed.1, parsed.2)
      | _ => none

def parseFields : Nat → List Char → Option (List (String × Json) × List Char)
  | 0, _ => none
  | fuel + 1, text =>
      match skipSpace text with
      | '}' :: rest => some ([], rest)
      | ',' :: rest =>
          match skipSpace rest with
          | '"' :: rest =>
              match parseMember (parseValue fuel) rest with
              | none => none
              | some (member, after) => (parseFields fuel after).map fun parsed => (member :: parsed.1, parsed.2)
          | _ => none
      | _ => none

end

-- A repeated key keeps its first position and its last value, as in a dict.
mutual

def mergeKeys : Json → Json
  | .arr items => .arr (mergeItems items)
  | .obj fields => .obj (mergeFields [] fields)
  | value => value

def mergeItems : List Json → List Json
  | [] => []
  | item :: rest => mergeKeys item :: mergeItems rest

def mergeFields (seen : Dict) : List (String × Json) → Dict
  | [] => seen
  | (key, value) :: rest => mergeFields (dictSet key (mergeKeys value) seen) rest

end

-- json.loads on texts that stay within the interpreter's limits (integers of at
-- most 4300 digits, nesting that its stack holds) and escape no lone surrogate;
-- none stands for json.JSONDecodeError.
def loads (text : String) : Option Json :=
  match parseValue (text.length + 1) (skipSpace text.toList) with
  | some (value, after) => if skipSpace after = [] then some (mergeKeys value) else none
  | none => none

-- How json.loads fails: with JSONDecodeError, or with what a limit raises.
inductive LoadFailure where
  | decode
  | other (failure : PyException)

abbrev JsonLoads := String → Except LoadFailure Json

def readJson : JsonLoads := fun text =>
  match loads text with
  | some value => .ok value
  | none => .error .decode

-- json.loads with its limit on integers, for a text that is one integer: this
-- ValueError is no JSONDecodeError.
def limitedLoads : JsonLoads := fun text =>
  if text.toList.all Char.isDigit = true ∧ 4300 < text.length then
    .error (.other ⟨"ValueError", "Exceeds the limit (4300 digits) for integer string conversion: " ++
      s!"value has {text.length} digits; use sys.set_int_max_str_digits() to increase the limit"⟩)
  else readJson text

theorem huge_integer_raises (digits : Nat) (long : 4300 < digits) :
    ∃ failure, limitedLoads (String.ofList (List.replicate digits '1')) = .error (.other failure) := by
  have all : (String.ofList (List.replicate digits '1')).toList.all Char.isDigit = true := by
    rw [String.toList_ofList, List.all_eq_true]
    intro digit member
    rw [(List.mem_replicate.mp member).2]
    rfl
  have count : (String.ofList (List.replicate digits '1')).length = digits := by
    rw [String.length_ofList, List.length_replicate]
  exact ⟨_, if_pos ⟨all, by rw [count]; exact long⟩⟩

theorem parse_value_object (fuel : Nat) (tail after : List Char) (value : Json)
    (parsed : parseValue fuel ('{' :: tail) = some (value, after)) : ∃ fields, value = .obj fields := by
  cases fuel with
  | zero => simp [parseValue] at parsed
  | succ fuel =>
      rw [parseValue, if_neg (by decide), if_pos rfl] at parsed
      split at parsed
      · exact ⟨[], by simpa using (congrArg Prod.fst (Option.some.inj parsed)).symm⟩
      · split at parsed
        · cases parsed
        · rename_i member _ _
          obtain ⟨fields, _, same⟩ := Option.map_eq_some_iff.mp parsed
          exact ⟨member :: fields.1, by simpa using (congrArg Prod.fst same).symm⟩
      · cases parsed

theorem loads_brace_object (text : String) (tail : List Char) (value : Json) (starts : text.toList = '{' :: tail)
    (loaded : loads text = some value) : ∃ fields, value = .obj fields := by
  have noSpace : skipSpace text.toList = '{' :: tail := by
    rw [starts, skipSpace, List.dropWhile_cons_of_neg (by decide)]
  unfold loads at loaded
  rw [noSpace] at loaded
  split at loaded
  · rename_i parsedValue after parsed
    obtain ⟨fields, rfl⟩ := parse_value_object _ _ _ _ parsed
    split at loaded
    · cases loaded
      exact ⟨mergeFields [] fields, by rw [mergeKeys]⟩
    · cases loaded
  · cases loaded

example : (loads " \x7b\"a\": [1, -2.5e3, \"\\ud83d\\ude00\"], \"b\": 0, \"b\": null\x7d ").map (dumps ⟨false, false⟩) =
    some "\x7b\"a\":[1,-2.5e3,\"😀\"],\"b\":null\x7d" := by decide +kernel

end DataPilot.Base
