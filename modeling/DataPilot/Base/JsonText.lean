import DataPilot.Base.JsonNumber

set_option autoImplicit false

namespace DataPilot.Base

def Printable (text : List Char) : Prop := ∀ c ∈ text, 32 ≤ c.toNat

instance (text : List Char) : Decidable (Printable text) := List.decidableBAll _ text

theorem printable_nil : Printable [] := by simp [Printable]

theorem printable_cons (c : Char) (text : List Char) (first : 32 ≤ c.toNat) (rest : Printable text) :
    Printable (c :: text) := List.forall_mem_cons.mpr ⟨first, rest⟩

theorem printable_append (front back : List Char) (first : Printable front) (second : Printable back) :
    Printable (front ++ back) := by
  intro c member
  exact (List.mem_append.mp member).elim (first c) (second c)

theorem digit_printable (c : Char) (digit : c.isDigit = true) : 32 ≤ c.toNat := by
  rw [Char.isDigit, Bool.and_eq_true, decide_eq_true_eq, decide_eq_true_eq] at digit
  exact Nat.le_trans (by decide) (UInt32.le_iff_toNat_le.mp digit.1)

theorem take_digits_printable (text : List Char) : Printable (text.takeWhile Char.isDigit) := fun c member =>
  digit_printable c (List.mem_takeWhile_imp member)

theorem scan_sign_printable (text : List Char) : Printable (scanSign text).1 := by
  unfold scanSign
  split
  · exact printable_cons _ _ (by decide) printable_nil
  · exact printable_nil

theorem scan_integer_printable (text digits after : List Char) (scanned : scanInteger text = some (digits, after)) :
    Printable digits := by
  cases text with
  | nil => simp [scanInteger] at scanned
  | cons c rest =>
      rw [scanInteger] at scanned
      split_ifs at scanned with zero digit
      · cases scanned
        exact printable_cons _ _ (by decide) printable_nil
      · cases scanned
        exact printable_cons _ _ (digit_printable c digit) (take_digits_printable rest)

theorem scan_fraction_printable (text : List Char) : Printable (scanFraction text).1 := by
  cases text with
  | nil => exact printable_nil
  | cons c rest =>
      rw [scanFraction]
      split_ifs
      · exact printable_cons _ _ (by decide) (take_digits_printable rest)
      · exact printable_nil

theorem scan_exponent_printable (text : List Char) : Printable (scanExponent text).1 := by
  cases text with
  | nil => exact printable_nil
  | cons c rest =>
      have sign : Printable (scanExponentSign rest).1 := by
        cases rest with
        | nil => exact printable_nil
        | cons d others =>
            rw [scanExponentSign]
            split_ifs with signed
            · rcases signed with rfl | rfl <;> exact printable_cons _ _ (by decide) printable_nil
            · exact printable_nil
      rw [scanExponent]
      split_ifs with marked
      · refine printable_append _ _ (printable_cons _ _ ?_ sign) (take_digits_printable _)
        rcases marked.1 with rfl | rfl <;> decide
      · exact printable_nil

theorem scan_number_printable (text : List Char) (scan : NumberScan) (scanned : scanNumber text = some scan) :
    Printable (scan.integer ++ scan.fraction ++ scan.exponent) := by
  rw [scanNumber] at scanned
  cases digits : scanInteger (scanSign text).2 with
  | none => simp [digits] at scanned
  | some found =>
      rw [digits] at scanned
      cases scanned
      refine printable_append _ _ (printable_append _ _ (printable_append _ _ (scan_sign_printable text) ?_) ?_) ?_
      · exact scan_integer_printable _ _ _ digits
      · exact scan_fraction_printable _
      · exact scan_exponent_printable _

theorem float_printable (value : FloatText) : Printable value.text.toList := by
  obtain ⟨text, literal⟩ := value
  simp only [isFloatLiteral, Bool.or_eq_true, decide_eq_true_eq] at literal
  rcases literal with ((rfl | rfl) | rfl) | number
  · exact (by decide : Printable "NaN".toList)
  · exact (by decide : Printable "Infinity".toList)
  · exact (by decide : Printable "-Infinity".toList)
  · split at number
    · rename_i integer fraction exponent scanned
      have whole := scan_number_text text.toList _ scanned
      rw [List.append_nil] at whole
      dsimp only
      rw [← whole]
      exact scan_number_printable text.toList _ scanned
    · cases number

theorem int_printable (value : Int) : Printable (encodeInt value) := by
  have scan := scan_number_printable _ _ (scan_number_int value)
  simpa using scan

theorem hex_digit_printable : ∀ n < 16, 32 ≤ (hexDigit n).toNat := by decide

theorem escape_printable (code : Nat) : Printable (unicodeEscape code) := by
  have digit (n : Nat) : 32 ≤ (hexDigit (n % 16)).toNat := hex_digit_printable _ (Nat.mod_lt _ (by decide))
  unfold unicodeEscape
  exact printable_cons _ _ (by decide) (printable_cons _ _ (by decide) (printable_cons _ _ (digit _)
    (printable_cons _ _ (digit _) (printable_cons _ _ (digit _) (printable_cons _ _ (digit _) printable_nil)))))

theorem printable_ite (condition : Prop) [Decidable condition] (first second : List Char)
    (yes : condition → Printable first) (no : ¬ condition → Printable second) :
    Printable (if condition then first else second) := by
  by_cases holds : condition
  · rw [if_pos holds]
    exact yes holds
  · rw [if_neg holds]
    exact no holds

theorem encode_char_printable (ascii : Bool) (c : Char) : Printable (encodeChar ascii c) := by
  unfold encodeChar
  iterate 7 refine printable_ite _ _ _ (fun _ => by decide) fun _ => ?_
  refine printable_ite _ _ _ (fun _ => escape_printable _) fun printable => ?_
  refine printable_ite _ _ _ (fun _ => ?_) fun _ => printable_cons _ _ (Nat.le_of_not_lt printable) printable_nil
  exact printable_ite _ _ _ (fun _ => escape_printable _) fun _ =>
    printable_append _ _ (escape_printable _) (escape_printable _)

theorem encode_string_printable (ascii : Bool) (text : String) : Printable (encodeString ascii text) := by
  refine printable_append _ _ (printable_cons _ _ (by decide) fun c member => ?_)
    (printable_cons _ _ (by decide) printable_nil)
  obtain ⟨d, _, inside⟩ := List.mem_flatMap.mp member
  exact encode_char_printable ascii d c inside

theorem item_separator_printable (style : DumpStyle) : Printable style.itemSeparator := by
  unfold DumpStyle.itemSeparator
  split <;> decide

theorem key_separator_printable (style : DumpStyle) : Printable style.keySeparator := by
  unfold DumpStyle.keySeparator
  split <;> decide

-- json.dumps escapes every control character, so its text is one line.
mutual

theorem encode_printable (style : DumpStyle) (value : Json) : Printable (encode style value) := by
  cases value with
  | null => rw [encode]; decide
  | bool value => cases value <;> rw [encode] <;> decide
  | int value => rw [encode]; exact int_printable value
  | float value => rw [encode]; exact float_printable value
  | str value => rw [encode]; exact encode_string_printable style.ascii value
  | arr items =>
      cases items with
      | nil => rw [encode]; decide
      | cons first others =>
          rw [encode]
          exact printable_cons _ _ (by decide)
            (printable_append _ _ (encode_printable style first) (encode_items_printable style others))
  | obj fields =>
      cases fields with
      | nil => rw [encode]; decide
      | cons field others =>
          obtain ⟨key, first⟩ := field
          rw [encode]
          refine printable_cons _ _ (by decide)
            (printable_append _ _ (printable_append _ _ (printable_append _ _ ?_ ?_) ?_) ?_)
          · exact encode_string_printable style.ascii key
          · exact key_separator_printable style
          · exact encode_printable style first
          · exact encode_fields_printable style others

theorem encode_items_printable (style : DumpStyle) (items : List Json) : Printable (encodeItems style items) := by
  cases items with
  | nil => rw [encodeItems]; decide
  | cons item others =>
      rw [encodeItems]
      exact printable_append _ _ (printable_append _ _ (item_separator_printable style) (encode_printable style item))
        (encode_items_printable style others)

theorem encode_fields_printable (style : DumpStyle) (fields : List (String × Json)) :
    Printable (encodeFields style fields) := by
  cases fields with
  | nil => rw [encodeFields]; decide
  | cons field others =>
      obtain ⟨key, value⟩ := field
      rw [encodeFields]
      refine printable_append _ _ (printable_append _ _ (printable_append _ _ (printable_append _ _ ?_ ?_) ?_) ?_) ?_
      · exact item_separator_printable style
      · exact encode_string_printable style.ascii key
      · exact key_separator_printable style
      · exact encode_printable style value
      · exact encode_fields_printable style others

end

end DataPilot.Base
