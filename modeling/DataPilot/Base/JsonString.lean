import DataPilot.Base.JsonParse

set_option autoImplicit false

namespace DataPilot.Base

theorem hex_value_digit : ∀ n < 16, hexValue (hexDigit n) = some n := by decide

theorem hex_quad_escape (code : Nat) (rest : List Char) (bound : code < 65536) :
    hexQuad ((unicodeEscape code).drop 2 ++ rest) = some (code, rest) := by
  have digit (n : Nat) : hexValue (hexDigit (n % 16)) = some (n % 16) := hex_value_digit _ (Nat.mod_lt _ (by decide))
  simp only [unicodeEscape, List.drop_succ_cons, List.drop_zero, List.cons_append, List.nil_append, hexQuad, digit]
  have sum : ((code / 4096 % 16 * 16 + code / 256 % 16) * 16 + code / 16 % 16) * 16 + code % 16 = code := by omega
  rw [sum]

theorem char_code_valid (c : Char) : c.toNat < 55296 ∨ 57343 < c.toNat ∧ c.toNat < 1114112 := c.valid

theorem char_of_code (c : Char) : Char.ofNat c.toNat = c := Char.ofNat_toNat c

theorem scan_escape_unicode (code : Nat) (rest : List Char) (bound : code < 65536)
    (single : code < 55296 ∨ 57344 ≤ code) :
    scanEscape ((unicodeEscape code).drop 1 ++ rest) = some (Char.ofNat code, rest) := by
  have quad := hex_quad_escape code rest bound
  have high : ¬ (55296 ≤ code ∧ code < 56320) := by omega
  have low : ¬ (56320 ≤ code ∧ code < 57344) := by omega
  have shape : (unicodeEscape code).drop 1 ++ rest = 'u' :: ((unicodeEscape code).drop 2 ++ rest) := rfl
  rw [shape, scanEscape, if_pos rfl, scanUnicode, quad]
  simp only [if_neg high, if_neg low]

theorem scan_escape_pair (code : Nat) (rest : List Char) (lower : 65536 ≤ code) (upper : code < 1114112) :
    scanEscape ((unicodeEscape (55296 + (code - 65536) / 1024)).drop 1 ++
      (unicodeEscape (56320 + (code - 65536) % 1024) ++ rest)) = some (Char.ofNat code, rest) := by
  have first := hex_quad_escape (55296 + (code - 65536) / 1024)
    (unicodeEscape (56320 + (code - 65536) % 1024) ++ rest) (by omega)
  have second := hex_quad_escape (56320 + (code - 65536) % 1024) rest (by omega)
  have high : 55296 ≤ 55296 + (code - 65536) / 1024 ∧ 55296 + (code - 65536) / 1024 < 56320 := by omega
  have low : 56320 ≤ 56320 + (code - 65536) % 1024 ∧ 56320 + (code - 65536) % 1024 < 57344 := by omega
  have joined : 65536 + (55296 + (code - 65536) / 1024 - 55296) * 1024 + (56320 + (code - 65536) % 1024 - 56320) = code := by
    omega
  have shape : (unicodeEscape (55296 + (code - 65536) / 1024)).drop 1 ++ (unicodeEscape (56320 + (code - 65536) % 1024) ++ rest) =
    'u' :: ((unicodeEscape (55296 + (code - 65536) / 1024)).drop 2 ++
      (unicodeEscape (56320 + (code - 65536) % 1024) ++ rest)) := rfl
  have more : unicodeEscape (56320 + (code - 65536) % 1024) ++ rest =
    '\\' :: 'u' :: ((unicodeEscape (56320 + (code - 65536) % 1024)).drop 2 ++ rest) := rfl
  rw [shape, scanEscape, if_pos rfl, scanUnicode, first]
  simp only [if_pos high]
  rw [more]
  simp only [second, if_pos low, joined]

theorem parse_chars_plain (fuel : Nat) (c : Char) (rest : List Char) (quote : c ≠ '"') (slash : c ≠ '\\')
    (printable : 32 ≤ c.toNat) : parseChars (fuel + 1) (c :: rest) = prepend c (parseChars fuel rest) := by
  rw [parseChars, if_neg quote, if_neg slash, if_neg (by omega)]

theorem parse_chars_escape (fuel : Nat) (c : Char) (body after : List Char) (escape : scanEscape body = some (c, after)) :
    parseChars (fuel + 1) ('\\' :: body) = prepend c (parseChars fuel after) := by
  rw [parseChars, if_neg (by decide), if_pos rfl, escape]

theorem scan_escape_named (mark c : Char) (rest : List Char) (other : mark ≠ 'u') (named : unescape mark = some c) :
    scanEscape (mark :: rest) = some (c, rest) := by
  rw [scanEscape, if_neg other, named]
  rfl

theorem parse_chars_unicode (fuel code : Nat) (rest : List Char) (bound : code < 65536)
    (single : code < 55296 ∨ 57344 ≤ code) :
    parseChars (fuel + 1) (unicodeEscape code ++ rest) = prepend (Char.ofNat code) (parseChars fuel rest) :=
  parse_chars_escape fuel _ _ rest (scan_escape_unicode code rest bound single)

theorem parse_chars_pair (fuel code : Nat) (rest : List Char) (lower : 65536 ≤ code) (upper : code < 1114112) :
    parseChars (fuel + 1) (unicodeEscape (55296 + (code - 65536) / 1024) ++
      unicodeEscape (56320 + (code - 65536) % 1024) ++ rest) = prepend (Char.ofNat code) (parseChars fuel rest) := by
  rw [List.append_assoc]
  exact parse_chars_escape fuel _ _ rest (scan_escape_pair code rest lower upper)

theorem parse_chars_named (fuel : Nat) (mark c : Char) (rest : List Char) (other : mark ≠ 'u') (named : unescape mark = some c) :
    parseChars (fuel + 1) (['\\', mark] ++ rest) = prepend c (parseChars fuel rest) :=
  parse_chars_escape fuel c (mark :: rest) rest (scan_escape_named mark c rest other named)

theorem parse_chars_encoded (fuel : Nat) (ascii : Bool) (c : Char) (rest : List Char) :
    parseChars (fuel + 1) (encodeChar ascii c ++ rest) = prepend c (parseChars fuel rest) := by
  have valid := char_code_valid c
  rw [encodeChar]
  by_cases quote : c = '"'
  · rw [if_pos quote, quote]
    exact parse_chars_named fuel '"' '"' rest (by decide) (by decide)
  rw [if_neg quote]
  by_cases slash : c = '\\'
  · rw [if_pos slash, slash]
    exact parse_chars_named fuel '\\' '\\' rest (by decide) (by decide)
  rw [if_neg slash]
  by_cases line : c = '\n'
  · rw [if_pos line, line]
    exact parse_chars_named fuel 'n' '\n' rest (by decide) (by decide)
  rw [if_neg line]
  by_cases carriage : c = '\r'
  · rw [if_pos carriage, carriage]
    exact parse_chars_named fuel 'r' '\r' rest (by decide) (by decide)
  rw [if_neg carriage]
  by_cases tab : c = '\t'
  · rw [if_pos tab, tab]
    exact parse_chars_named fuel 't' '\t' rest (by decide) (by decide)
  rw [if_neg tab]
  by_cases feed : c.toNat = 12
  · rw [if_pos feed, ← char_of_code c, feed]
    exact parse_chars_named fuel 'f' (Char.ofNat 12) rest (by decide) (by decide)
  rw [if_neg feed]
  by_cases back : c.toNat = 8
  · rw [if_pos back, ← char_of_code c, back]
    exact parse_chars_named fuel 'b' (Char.ofNat 8) rest (by decide) (by decide)
  rw [if_neg back]
  by_cases control : c.toNat < 32
  · rw [if_pos control, parse_chars_unicode fuel c.toNat rest (by omega) (by omega), char_of_code]
  rw [if_neg control]
  by_cases escaped : ascii = true ∧ 126 < c.toNat
  · rw [if_pos escaped]
    by_cases single : c.toNat < 65536
    · rw [if_pos single, parse_chars_unicode fuel c.toNat rest (by omega) (by omega), char_of_code]
    · rw [if_neg single, parse_chars_pair fuel c.toNat rest (by omega) (by omega), char_of_code]
  rw [if_neg escaped]
  exact parse_chars_plain fuel c rest quote slash (by omega)

theorem parse_chars_string (fuel : Nat) (ascii : Bool) (s rest : List Char) (bound : s.length < fuel) :
    parseChars fuel (s.flatMap (encodeChar ascii) ++ '"' :: rest) = some (s, rest) := by
  induction s generalizing fuel with
  | nil =>
      obtain ⟨fuel, rfl⟩ := Nat.exists_eq_succ_of_ne_zero (Nat.ne_of_gt bound)
      simp [parseChars]
  | cons c tail ih =>
      obtain ⟨fuel, rfl⟩ := Nat.exists_eq_succ_of_ne_zero (Nat.ne_of_gt (Nat.lt_of_le_of_lt (Nat.zero_le _) bound))
      have shorter : tail.length < fuel := by simpa using bound
      rw [List.flatMap_cons, List.append_assoc, Nat.succ_eq_add_one, parse_chars_encoded, ih fuel shorter]
      rfl

theorem filled_ite (condition : Prop) [Decidable condition] (first second : List Char) (one : 1 ≤ first.length)
    (other : 1 ≤ second.length) : 1 ≤ (if condition then first else second).length := by
  by_cases held : condition
  · rw [if_pos held]
    exact one
  · rw [if_neg held]
    exact other

theorem unicode_filled (code : Nat) : 1 ≤ (unicodeEscape code).length := by simp [unicodeEscape]

theorem encode_char_pos (ascii : Bool) (c : Char) : 1 ≤ (encodeChar ascii c).length := by
  rw [encodeChar]
  iterate 7 refine filled_ite _ _ _ (by decide) ?_
  refine filled_ite _ _ _ (unicode_filled _) (filled_ite _ _ _ (filled_ite _ _ _ (unicode_filled _) ?_) (by simp))
  rw [List.length_append]
  exact Nat.le_add_right_of_le (unicode_filled _)

theorem encoded_length (ascii : Bool) (s : List Char) : s.length ≤ (s.flatMap (encodeChar ascii)).length := by
  induction s with
  | nil => simp
  | cons c tail ih =>
      have one := encode_char_pos ascii c
      simp only [List.flatMap_cons, List.length_append, List.length_cons]
      omega

theorem parse_string_encoded (ascii : Bool) (s : String) (rest : List Char) :
    parseString (s.toList.flatMap (encodeChar ascii) ++ '"' :: rest) = some (s.toList, rest) := by
  apply parse_chars_string
  have shorter := encoded_length ascii s.toList
  simp only [List.length_append, List.length_cons]
  omega

end DataPilot.Base
