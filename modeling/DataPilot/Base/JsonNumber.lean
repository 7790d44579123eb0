import Mathlib.Data.List.TakeWhile
import DataPilot.Base.JsonParse

set_option autoImplicit false

namespace DataPilot.Base

def Delimited : List Char → Prop
  | [] => True
  | c :: _ => c = ',' ∨ c = ']' ∨ c = '}'

theorem take_digits_append (text rest : List Char) (stop : Delimited rest) :
    (text ++ rest).takeWhile Char.isDigit = text.takeWhile Char.isDigit := by
  induction text with
  | nil =>
      cases rest with
      | nil => rfl
      | cons c tail => rcases stop with rfl | rfl | rfl <;> rfl
  | cons c tail ih => by_cases digit : c.isDigit <;> simp [digit, ih]

theorem drop_digits_append (text rest : List Char) (stop : Delimited rest) :
    (text ++ rest).dropWhile Char.isDigit = text.dropWhile Char.isDigit ++ rest := by
  induction text with
  | nil =>
      cases rest with
      | nil => rfl
      | cons c tail => rcases stop with rfl | rfl | rfl <;> rfl
  | cons c tail ih => by_cases digit : c.isDigit <;> simp [digit, ih]

theorem scan_sign_append (text rest : List Char) (stop : Delimited rest) :
    scanSign (text ++ rest) = ((scanSign text).1, (scanSign text).2 ++ rest) := by
  cases text with
  | nil =>
      cases rest with
      | nil => rfl
      | cons c tail => rcases stop with rfl | rfl | rfl <;> rfl
  | cons c tail =>
      by_cases minus : c = '-'
      · subst minus
        rfl
      · have other (s : List Char) : scanSign (c :: s) = ([], c :: s) := by
          unfold scanSign
          split
          · rename_i same
            exact absurd (List.cons.inj same).1 minus
          · rfl
        rw [List.cons_append, other, other]
        rfl

theorem scan_integer_append (text rest digits after : List Char) (stop : Delimited rest)
    (scanned : scanInteger text = some (digits, after)) : scanInteger (text ++ rest) = some (digits, after ++ rest) := by
  cases text with
  | nil => simp [scanInteger] at scanned
  | cons c tail =>
      rw [scanInteger] at scanned
      rw [List.cons_append, scanInteger]
      split at scanned
      · rename_i zero
        cases scanned
        rw [if_pos zero]
      · rename_i nonzero
        split at scanned
        · rename_i digit
          cases scanned
          rw [if_neg nonzero, if_pos digit, take_digits_append tail rest stop, drop_digits_append tail rest stop]
        · cases scanned

theorem scan_fraction_append (text rest : List Char) (stop : Delimited rest) :
    scanFraction (text ++ rest) = ((scanFraction text).1, (scanFraction text).2 ++ rest) := by
  cases text with
  | nil =>
      cases rest with
      | nil => rfl
      | cons c tail => rcases stop with rfl | rfl | rfl <;> simp [scanFraction]
  | cons c tail =>
      rw [List.cons_append, scanFraction, scanFraction, take_digits_append tail rest stop, drop_digits_append tail rest stop]
      split <;> rfl

theorem scan_exponent_sign_append (text rest : List Char) (stop : Delimited rest) :
    scanExponentSign (text ++ rest) = ((scanExponentSign text).1, (scanExponentSign text).2 ++ rest) := by
  cases text with
  | nil =>
      cases rest with
      | nil => rfl
      | cons c tail => rcases stop with rfl | rfl | rfl <;> simp [scanExponentSign]
  | cons c tail =>
      rw [List.cons_append, scanExponentSign, scanExponentSign]
      split <;> rfl

theorem scan_exponent_append (text rest : List Char) (stop : Delimited rest) :
    scanExponent (text ++ rest) = ((scanExponent text).1, (scanExponent text).2 ++ rest) := by
  cases text with
  | nil =>
      cases rest with
      | nil => rfl
      | cons c tail => rcases stop with rfl | rfl | rfl <;> simp [scanExponent]
  | cons c tail =>
      rw [List.cons_append, scanExponent, scanExponent, scan_exponent_sign_append tail rest stop]
      dsimp only
      rw [take_digits_append _ rest stop, drop_digits_append _ rest stop]
      split <;> rfl

theorem scan_number_append (text rest integer fraction exponent after : List Char) (stop : Delimited rest)
    (scanned : scanNumber text = some ⟨integer, fraction, exponent, after⟩) :
    scanNumber (text ++ rest) = some ⟨integer, fraction, exponent, after ++ rest⟩ := by
  unfold scanNumber at scanned ⊢
  dsimp only at scanned ⊢
  rw [scan_sign_append text rest stop]
  cases digits : scanInteger (scanSign text).2 with
  | none => simp [digits] at scanned
  | some found =>
      obtain ⟨taken, left⟩ := found
      rw [digits] at scanned
      rw [scan_integer_append _ rest taken left stop digits]
      dsimp only at scanned ⊢
      rw [scan_fraction_append left rest stop, scan_exponent_append _ rest stop]
      simp only [Option.some.injEq, NumberScan.mk.injEq] at scanned ⊢
      obtain ⟨same, sameFraction, sameExponent, sameRest⟩ := scanned
      exact ⟨same, sameFraction, sameExponent, by rw [sameRest]⟩

theorem scan_sign_text (text : List Char) : (scanSign text).1 ++ (scanSign text).2 = text := by
  unfold scanSign
  split <;> rfl

theorem scan_integer_text (text digits after : List Char) (scanned : scanInteger text = some (digits, after)) :
    digits ++ after = text := by
  cases text with
  | nil => simp [scanInteger] at scanned
  | cons c tail =>
      rw [scanInteger] at scanned
      split at scanned
      · rename_i zero
        cases scanned
        rw [zero]
        rfl
      · split at scanned
        · cases scanned
          rw [List.cons_append, List.takeWhile_append_dropWhile]
        · cases scanned

theorem scan_fraction_text (text : List Char) : (scanFraction text).1 ++ (scanFraction text).2 = text := by
  cases text with
  | nil => rfl
  | cons c tail =>
      rw [scanFraction]
      split
      · rename_i dotted
        rw [List.cons_append, List.takeWhile_append_dropWhile, dotted.1]
      · rfl

theorem scan_exponent_sign_text (text : List Char) : (scanExponentSign text).1 ++ (scanExponentSign text).2 = text := by
  cases text with
  | nil => rfl
  | cons c tail =>
      rw [scanExponentSign]
      split <;> rfl

theorem scan_exponent_text (text : List Char) : (scanExponent text).1 ++ (scanExponent text).2 = text := by
  cases text with
  | nil => rfl
  | cons c tail =>
      rw [scanExponent]
      split
      · rw [List.append_assoc, List.takeWhile_append_dropWhile, List.cons_append, scan_exponent_sign_text]
      · rfl

theorem scan_number_text (text : List Char) (scan : NumberScan) (scanned : scanNumber text = some scan) :
    scan.integer ++ scan.fraction ++ scan.exponent ++ scan.rest = text := by
  rw [scanNumber] at scanned
  cases digits : scanInteger (scanSign text).2 with
  | none => simp [digits] at scanned
  | some found =>
      obtain ⟨taken, left⟩ := found
      rw [digits] at scanned
      cases scanned
      simp only [List.append_assoc]
      rw [scan_exponent_text, scan_fraction_text, scan_integer_text _ taken left digits, scan_sign_text]

theorem scan_number_head (c : Char) (tail : List Char) (scan : NumberScan) (scanned : scanNumber (c :: tail) = some scan) :
    c = '-' ∨ c.isDigit = true := by
  by_cases minus : c = '-'
  · exact .inl minus
  · right
    have sign : scanSign (c :: tail) = ([], c :: tail) := by
      unfold scanSign
      split
      · rename_i same
        exact absurd (List.cons.inj same).1 minus
      · rfl
    by_contra notDigit
    have notZero : c ≠ '0' := fun same => notDigit (by rw [same]; rfl)
    simp [scanNumber, sign, scanInteger, notZero, notDigit] at scanned

theorem digit_char_facts : ∀ n < 10, n.digitChar.isDigit = true ∧ (0 < n → n.digitChar ≠ '0') := by decide

theorem digits_head (n : Nat) (positive : 0 < n) :
    ∃ c tail, Nat.toDigits 10 n = c :: tail ∧ c ≠ '0' ∧ c.isDigit = true ∧ ∀ d ∈ tail, d.isDigit = true := by
  induction n using Nat.strong_induction_on with
  | _ n ih =>
      by_cases small : n < 10
      · refine ⟨n.digitChar, [], Nat.toDigits_of_lt_base small, ?_, ?_, by simp⟩
        · exact (digit_char_facts n small).2 positive
        · exact (digit_char_facts n small).1
      · obtain ⟨c, tail, digits, nonzero, digit, rest⟩ := ih (n / 10) (by omega) (by omega)
        refine ⟨c, tail ++ [(n % 10).digitChar], ?_, nonzero, digit, ?_⟩
        · rw [Nat.toDigits_of_base_le (by decide) (by omega), digits]
          rfl
        · intro d member
          rcases List.mem_append.mp member with earlier | last
          · exact rest d earlier
          · have same : d = (n % 10).digitChar := by simpa using last
            rw [same]
            exact (digit_char_facts (n % 10) (Nat.mod_lt _ (by decide))).1

theorem scan_integer_digits (n : Nat) : scanInteger (Nat.toDigits 10 n) = some (Nat.toDigits 10 n, []) := by
  rcases Nat.eq_zero_or_pos n with rfl | positive
  · rfl
  · obtain ⟨c, tail, digits, nonzero, digit, rest⟩ := digits_head n positive
    have whole : tail.takeWhile Char.isDigit = tail := List.takeWhile_eq_self_iff.mpr rest
    have none_left : tail.dropWhile Char.isDigit = [] := List.dropWhile_eq_nil_iff.mpr rest
    rw [digits, scanInteger, if_neg nonzero, if_pos digit, whole, none_left]

theorem scan_sign_digits (n : Nat) : scanSign (Nat.toDigits 10 n) = ([], Nat.toDigits 10 n) := by
  rcases Nat.eq_zero_or_pos n with rfl | positive
  · rfl
  · obtain ⟨c, tail, digits, _, digit, _⟩ := digits_head n positive
    rw [digits]
    unfold scanSign
    split
    · rename_i same
      have minus : c = '-' := (List.cons.inj same).1
      rw [minus] at digit
      exact absurd digit (by decide)
    · rfl

theorem scan_number_int (value : Int) : scanNumber (encodeInt value) = some ⟨encodeInt value, [], [], []⟩ := by
  cases value with
  | ofNat n => simp [encodeInt, scanNumber, scan_sign_digits, scan_integer_digits, scanFraction, scanExponent]
  | negSucc n => simp [encodeInt, scanNumber, scanSign, scan_integer_digits, scanFraction, scanExponent]

theorem digits_int_encode (value : Int) : digitsInt (encodeInt value) = value := by
  cases value with
  | ofNat n =>
      have plain : digitsInt (Nat.toDigits 10 n) = Int.ofNat (Nat.ofDigitChars 10 (Nat.toDigits 10 n) 0) := by
        unfold digitsInt
        split
        · rename_i same
          have sign := scan_sign_digits n
          rw [same] at sign
          cases sign
        · rfl
      rw [encodeInt, plain, Nat.ofDigitChars_ten_toDigits]
  | negSucc n =>
      rw [encodeInt, digitsInt, Nat.ofDigitChars_ten_toDigits]
      rfl

theorem parse_number_int (value : Int) (rest : List Char) (stop : Delimited rest) :
    parseNumber (encodeInt value ++ rest) = some (.int value, rest) := by
  rw [parseNumber, scan_number_append _ rest _ _ _ _ stop (scan_number_int value)]
  simp [digits_int_encode]

theorem parse_literals_number (text : List Char) (scan : NumberScan) (scanned : scanNumber text = some scan)  (rest : List Char) :
    parseName literals (text ++ rest) = none := by
  cases text with
  | nil => simp [scanNumber, scanSign, scanInteger] at scanned
  | cons c tail =>
      have head := scan_number_head c tail scan scanned
      have different (other : Char) (notNumber : other ≠ '-' ∧ other.isDigit = false) : other ≠ c := by
        rintro rfl
        rcases head with minus | digit
        · exact notNumber.1 minus
        · rw [notNumber.2] at digit
          cases digit
      simp [parseName, literals, List.isPrefixOf, different 'n' (by decide), different 't' (by decide), different 'f' (by decide)]

theorem parse_atom_int (value : Int) (rest : List Char) (stop : Delimited rest) :
    parseAtom (encodeInt value ++ rest) = some (.int value, rest) := by
  rw [parseAtom, parse_literals_number _ _ (scan_number_int value), parse_number_int value rest stop]

theorem parse_atom_float (value : FloatText) (rest : List Char) (stop : Delimited rest) :
    parseAtom (value.text.toList ++ rest) = some (.float value, rest) := by
  obtain ⟨text, literal⟩ := value
  have cases := literal
  simp only [isFloatLiteral, Bool.or_eq_true, decide_eq_true_eq] at cases
  rcases cases with ((rfl | rfl) | rfl) | finite
  · have chars : "NaN".toList = ['N', 'a', 'N'] := by decide
    simp [chars, parseAtom, parseName, literals, nonFinite, parseNumber, scanNumber, scanSign, scanInteger, nanText]
  · have chars : "Infinity".toList = ['I', 'n', 'f', 'i', 'n', 'i', 't', 'y'] := by decide
    simp [chars, parseAtom, parseName, literals, nonFinite, parseNumber, scanNumber, scanSign, scanInteger, infinityText]
  · have chars : "-Infinity".toList = ['-', 'I', 'n', 'f', 'i', 'n', 'i', 't', 'y'] := by decide
    simp [chars, parseAtom, parseName, literals, nonFinite, parseNumber, scanNumber, scanSign, scanInteger, negInfinityText]
  · split at finite
    · rename_i integer fraction exponent scanned
      have notEmpty : (fraction ++ exponent).isEmpty = false := by simpa using finite
      have whole : integer ++ fraction ++ exponent = text.toList := by simpa using scan_number_text _ _ scanned
      rw [parseAtom, parse_literals_number _ _ scanned, parseNumber, scan_number_append _ rest _ _ _ _ stop scanned]
      simp only [notEmpty, Bool.false_eq_true, if_false, whole, String.ofList_toList, literal, dif_pos, List.nil_append]
    · cases finite

end DataPilot.Base
