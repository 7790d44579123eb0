import DataPilot.Base.JsonString
import DataPilot.Datasets.Service

set_option autoImplicit false

namespace DataPilot.Datasets

open DataPilot.Base

def hexNumber : List Char → Nat → Option Nat
  | [], number => some number
  | c :: rest, number => (hexValue c).bind fun digit => hexNumber rest (number * 16 + digit)

-- The hexadecimal letters of a hyphenated UUID.
def withoutHyphens (letters : List Char) : Option (List Char) :=
  if letters.length = 36 ∧ letters[8]? = some '-' ∧ letters[13]? = some '-' ∧ letters[18]? = some '-' ∧
      letters[23]? = some '-' then
    some (letters.take 8 ++ (letters.drop 9).take 4 ++ (letters.drop 14).take 4 ++ (letters.drop 19).take 4 ++
      letters.drop 24)
  else none

-- The four forms that a UUID field takes: simple, hyphenated, in braces and as a URN.
def uuidLetters (letters : List Char) : Option (List Char) :=
  if letters.length = 32 then some letters
  else if letters.length = 38 ∧ letters.head? = some '{' ∧ letters.getLast? = some '}' then
    withoutHyphens (letters.drop 1).dropLast
  else if letters.length = 45 ∧ letters.take 9 = "urn:uuid:".toList then withoutHyphens (letters.drop 9)
  else withoutHyphens letters

def readUuid (text : String) : Option DatasetId :=
  (uuidLetters text.toList).bind fun letters => (hexNumber letters 0).map (BitVec.ofNat 128)

theorem hex_number_append (first second : List Char) (number middle : Nat) (read : hexNumber first number = some middle) :
    hexNumber (first ++ second) number = hexNumber second middle := by
  induction first generalizing number with
  | nil =>
      cases read
      rfl
  | cons c rest ih =>
      rw [hexNumber] at read
      cases value : hexValue c with
      | none => simp [value] at read
      | some digit =>
          rw [value] at read
          rw [List.cons_append, hexNumber, value]
          exact ih _ read

-- Leading digits first: the last one is the remainder.
theorem hex_number_digits (places number : Nat) :
    hexNumber ((List.range places).map fun place => hexDigit (number / 16 ^ (places - 1 - place) % 16)) 0 =
      some (number % 16 ^ places) := by
  induction places generalizing number with
  | zero => simp [hexNumber, Nat.mod_one]
  | succ places ih =>
      have front : (List.range places).map (fun place => hexDigit (number / 16 ^ (places + 1 - 1 - place) % 16)) =
          (List.range places).map fun place => hexDigit (number / 16 / 16 ^ (places - 1 - place) % 16) := by
        apply List.map_congr_left
        intro place inside
        have below := List.mem_range.mp inside
        rw [Nat.div_div_eq_div_mul, ← Nat.pow_succ', show places + 1 - 1 - place = (places - 1 - place).succ by omega]
      rw [List.range_succ, List.map_append, front, hex_number_append _ _ 0 _ (ih (number / 16))]
      have last : number / 16 ^ (places + 1 - 1 - places) % 16 = number % 16 := by simp
      rw [List.map_singleton, last, hexNumber, hex_value_digit _ (Nat.mod_lt _ (by decide))]
      have whole : number / 16 % 16 ^ places * 16 + number % 16 = number % 16 ^ (places + 1) := by
        rw [Nat.pow_succ', Nat.mod_mul]
        omega
      rw [Option.bind_some, whole]
      rfl

theorem hex_text_length (id : DatasetId) : (hexText id).toList.length = 32 := by
  rw [hexText, String.toList_ofList, List.length_map, List.length_range]

theorem hex_text_number (id : DatasetId) : hexNumber (hexText id).toList 0 = some id.toNat := by
  have read := hex_number_digits 32 id.toNat
  rw [hexText, String.toList_ofList]
  refine read.trans (congrArg some (Nat.mod_eq_of_lt ?_))
  exact id.isLt

theorem hyphens_taken (first second third fourth last : List Char) (long : first.length = 8) (short : second.length = 4)
    (middle : third.length = 4) (later : fourth.length = 4) (rest : last.length = 12) :
    withoutHyphens (first ++ '-' :: second ++ '-' :: third ++ '-' :: fourth ++ '-' :: last) =
      some (first ++ second ++ third ++ fourth ++ last) := by
  unfold withoutHyphens
  simp [List.drop_append, List.drop_of_length_le, long, short, middle, later, rest]

theorem id_text_letters (id : DatasetId) : uuidLetters (idText id).toList = some (hexText id).toList := by
  have long := hex_text_length id
  have parts : (hexText id).toList = (hexText id).toList.take 8 ++ ((hexText id).toList.drop 8).take 4 ++
      ((hexText id).toList.drop 12).take 4 ++ ((hexText id).toList.drop 16).take 4 ++ (hexText id).toList.drop 20 := by
    generalize (hexText id).toList = letters
    have cut : ∀ place, (letters.drop place).take 4 ++ letters.drop (place + 4) = letters.drop place := by
      intro place
      rw [← List.drop_drop]
      exact List.take_append_drop 4 _
    rw [List.append_assoc, List.append_assoc, List.append_assoc, cut 16, cut 12, cut 8, List.take_append_drop]
  have taken := hyphens_taken ((hexText id).toList.take 8) (((hexText id).toList.drop 8).take 4)
    (((hexText id).toList.drop 12).take 4) (((hexText id).toList.drop 16).take 4) ((hexText id).toList.drop 20)
    (by simp [long]) (by simp [long]) (by simp [long]) (by simp [long]) (by simp [long])
  rw [← parts] at taken
  unfold uuidLetters idText
  dsimp only
  rw [String.toList_ofList]
  have whole : ((hexText id).toList.take 8 ++ '-' :: ((hexText id).toList.drop 8).take 4 ++
      '-' :: ((hexText id).toList.drop 12).take 4 ++ '-' :: ((hexText id).toList.drop 16).take 4 ++
      '-' :: (hexText id).toList.drop 20).length = 36 := by simp [long]
  rw [if_neg (by rw [whole]; decide), if_neg (by rw [whole]; simp), if_neg (by rw [whole]; simp)]
  exact taken

theorem read_id_text (id : DatasetId) : readUuid (idText id) = some id := by
  rw [readUuid, id_text_letters, Option.bind_some, hex_text_number, Option.map_some, BitVec.ofNat_toNat]
  simp

end DataPilot.Datasets
