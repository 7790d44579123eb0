import DataPilot.Base.JsonNumber
import DataPilot.Base.Rfc8259

set_option autoImplicit false

namespace DataPilot.Base

def FloatText.finite (value : FloatText) : Bool :=
  value.text ≠ "NaN" && value.text ≠ "Infinity" && value.text ≠ "-Infinity"

-- No float of the value is nan or an infinity.
mutual

def Json.finite : Json → Bool
  | .float value => value.finite
  | .arr items => finiteItems items
  | .obj fields => finiteFields fields
  | _ => true

def finiteItems : List Json → Bool
  | [] => true
  | item :: rest => item.finite && finiteItems rest

def finiteFields : List (String × Json) → Bool
  | [] => true
  | (_, value) :: rest => value.finite && finiteFields rest

end

theorem take_digits_digits (text : List Char) (filled : text.takeWhile Char.isDigit ≠ []) :
    Digits (text.takeWhile Char.isDigit) :=
  ⟨filled, fun c member => by simpa using List.mem_takeWhile_imp member⟩

theorem scan_sign_parts (text : List Char) : (scanSign text).1 = [] ∨ (scanSign text).1 = ['-'] := by
  unfold scanSign
  split
  · exact .inr rfl
  · exact .inl rfl

theorem scan_integer_parts (text digits after : List Char) (scanned : scanInteger text = some (digits, after)) :
    Digits digits ∧ (digits = ['0'] ∨ digits.head? ≠ some '0') := by
  cases text with
  | nil => cases scanned
  | cons c tail =>
      rw [scanInteger] at scanned
      by_cases zero : c = '0'
      · rw [if_pos zero] at scanned
        cases scanned
        exact ⟨⟨List.cons_ne_nil _ _, by simp⟩, .inl rfl⟩
      · rw [if_neg zero] at scanned
        by_cases digit : c.isDigit = true
        · rw [if_pos digit] at scanned
          cases scanned
          refine ⟨⟨List.cons_ne_nil _ _, fun d member => ?_⟩, .inr (by simpa using zero)⟩
          rcases List.mem_cons.mp member with rfl | later
          · exact digit
          · simpa using List.mem_takeWhile_imp later
        · rw [if_neg digit] at scanned
          cases scanned

theorem scan_fraction_parts (text : List Char) :
    (scanFraction text).1 = [] ∨ ∃ digits, (scanFraction text).1 = '.' :: digits ∧ Digits digits := by
  cases text with
  | nil => exact .inl rfl
  | cons c tail =>
      rw [scanFraction]
      by_cases dotted : c = '.' ∧ tail.takeWhile Char.isDigit ≠ []
      · rw [if_pos dotted]
        exact .inr ⟨_, rfl, take_digits_digits tail dotted.2⟩
      · rw [if_neg dotted]
        exact .inl rfl

theorem scan_exponent_sign_parts (text : List Char) :
    (scanExponentSign text).1 = [] ∨ (scanExponentSign text).1 = ['+'] ∨ (scanExponentSign text).1 = ['-'] := by
  cases text with
  | nil => exact .inl rfl
  | cons c tail =>
      rw [scanExponentSign]
      by_cases signed : c = '+' ∨ c = '-'
      · rw [if_pos signed]
        rcases signed with rfl | rfl
        · exact .inr (.inl rfl)
        · exact .inr (.inr rfl)
      · rw [if_neg signed]
        exact .inl rfl

theorem scan_exponent_parts (text : List Char) :
    (scanExponent text).1 = [] ∨ ∃ mark sign digits, (scanExponent text).1 = mark :: sign ++ digits ∧
      (mark = 'e' ∨ mark = 'E') ∧ (sign = [] ∨ sign = ['+'] ∨ sign = ['-']) ∧ Digits digits := by
  cases text with
  | nil => exact .inl rfl
  | cons c tail =>
      rw [scanExponent]
      by_cases marked : (c = 'e' ∨ c = 'E') ∧ (scanExponentSign tail).2.takeWhile Char.isDigit ≠ []
      · rw [if_pos marked]
        exact .inr ⟨c, _, _, rfl, marked.1, scan_exponent_sign_parts tail, take_digits_digits _ marked.2⟩
      · rw [if_neg marked]
        exact .inl rfl

theorem scanned_number (text : List Char) (scan : NumberScan) (scanned : scanNumber text = some scan) (whole : scan.rest = []) :
    NumberText text := by
  have parts := scan_number_text text scan scanned
  rw [scanNumber] at scanned
  cases digits : scanInteger (scanSign text).2 with
  | none =>
      rw [digits] at scanned
      cases scanned
  | some found =>
      obtain ⟨integer, after⟩ := found
      rw [digits] at scanned
      cases scanned
      refine ⟨(scanSign text).1, integer, (scanFraction after).1, (scanExponent (scanFraction after).2).1, ?_, ?_⟩
      · exact ⟨scan_sign_parts text, scan_integer_parts _ _ _ digits, scan_fraction_parts after, scan_exponent_parts _⟩
      · rw [whole, List.append_nil] at parts
        exact parts.symm

theorem int_number (value : Int) : NumberText (encodeInt value) := scanned_number _ _ (scan_number_int value) rfl

theorem float_number (value : FloatText) (finite : value.finite = true) : NumberText value.text.toList := by
  obtain ⟨text, literal⟩ := value
  simp only [FloatText.finite, Bool.and_eq_true, decide_eq_true_eq, ne_eq] at finite
  obtain ⟨⟨number, infinity⟩, negative⟩ := finite
  unfold isFloatLiteral at literal
  simp only [number, infinity, negative, decide_false, Bool.false_or] at literal
  split at literal
  · rename_i scanned
    exact scanned_number _ _ scanned rfl
  · cases literal

theorem hex_digit_hex : ∀ n < 16, isHexDigit (hexDigit n) = true := by decide

theorem unicode_unit (code : Nat) : StringUnit (unicodeEscape code) := by
  have digit (n : Nat) : isHexDigit (hexDigit (n % 16)) = true := hex_digit_hex _ (Nat.mod_lt _ (by decide))
  apply StringUnit.unicode
  intro d member
  simp only [List.mem_cons, List.not_mem_nil, or_false] at member
  rcases member with rfl | rfl | rfl | rfl <;> exact digit _

theorem body_unit (text : List Char) (unit : StringUnit text) : StringBody text :=
  ⟨[text], by simpa using unit, by simp⟩

theorem body_append (front back : List Char) (first : StringBody front) (second : StringBody back) :
    StringBody (front ++ back) := by
  obtain ⟨units, each, rfl⟩ := first
  obtain ⟨others, all, rfl⟩ := second
  refine ⟨units ++ others, fun unit member => ?_, by rw [List.flatten_append]⟩
  rcases List.mem_append.mp member with left | right
  · exact each unit left
  · exact all unit right

theorem body_ite (condition : Prop) [Decidable condition] (first second : List Char)
    (yes : condition → StringBody first) (no : ¬ condition → StringBody second) :
    StringBody (if condition then first else second) := by
  by_cases holds : condition
  · rw [if_pos holds]
    exact yes holds
  · rw [if_neg holds]
    exact no holds

theorem encode_char_body (ascii : Bool) (c : Char) : StringBody (encodeChar ascii c) := by
  unfold encodeChar
  refine body_ite _ _ _ (fun _ => body_unit _ (.escape _ (by decide))) fun quote => ?_
  refine body_ite _ _ _ (fun _ => body_unit _ (.escape _ (by decide))) fun slash => ?_
  iterate 5 refine body_ite _ _ _ (fun _ => body_unit _ (.escape _ (by decide))) fun _ => ?_
  refine body_ite _ _ _ (fun _ => body_unit _ (unicode_unit _)) fun printable => ?_
  refine body_ite _ _ _ (fun _ => ?_) fun _ => body_unit _ (.plain c (Nat.le_of_not_lt printable) quote slash)
  exact body_ite _ _ _ (fun _ => body_unit _ (unicode_unit _)) fun _ =>
    body_append _ _ (body_unit _ (unicode_unit _)) (body_unit _ (unicode_unit _))

theorem encode_string_text (ascii : Bool) (text : String) : StringText (encodeString ascii text) := by
  refine ⟨text.toList.flatMap (encodeChar ascii), ?_, rfl⟩
  induction text.toList with
  | nil => exact ⟨[], by simp, rfl⟩
  | cons c rest ih =>
      rw [List.flatMap_cons]
      exact body_append _ _ (encode_char_body ascii c) ih

theorem item_separator_blank (style : DumpStyle) : ∃ blank, Blank blank ∧ style.itemSeparator = ',' :: blank := by
  unfold DumpStyle.itemSeparator
  split
  · exact ⟨[' '], by simp [Blank], rfl⟩
  · exact ⟨[], by simp [Blank], rfl⟩

theorem key_separator_blank (style : DumpStyle) : ∃ blank, Blank blank ∧ style.keySeparator = ':' :: blank := by
  unfold DumpStyle.keySeparator
  split
  · exact ⟨[' '], by simp [Blank], rfl⟩
  · exact ⟨[], by simp [Blank], rfl⟩

theorem blank_nil : Blank [] := by simp [Blank]

def Continues (tail : List Char) (symbol : Symbol) (close : Char) : Prop :=
  ∃ body, tail = body ++ [close] ∧ (body = [] ∨ ∃ rest, body = ',' :: rest ∧ Derives symbol rest)

theorem items_closed (text tail blank : List Char) (front : Blank blank) (item : Derives .value text)
    (continued : Continues tail .items ']') : ∃ body, blank ++ text ++ tail = body ++ [']'] ∧ Derives .items body := by
  obtain ⟨body, rfl, rfl | ⟨rest, rfl, others⟩⟩ := continued
  · exact ⟨blank ++ text ++ [], by simp, .lastItem blank text [] front blank_nil item⟩
  · exact ⟨blank ++ text ++ [] ++ ',' :: rest, by simp, .item blank text [] rest front blank_nil item others⟩

theorem members_closed (key text tail blank after : List Char) (front : Blank blank) (name : StringText key)
    (right : Blank after) (value : Derives .value text) (continued : Continues tail .members '}') :
    ∃ body, blank ++ key ++ ':' :: (after ++ text) ++ tail = body ++ ['}'] ∧ Derives .members body := by
  obtain ⟨body, rfl, rfl | ⟨rest, rfl, others⟩⟩ := continued
  · exact ⟨blank ++ key ++ [] ++ ':' :: (after ++ text ++ []), by simp,
      .lastMember blank key [] after text [] front name blank_nil right blank_nil value⟩
  · exact ⟨blank ++ key ++ [] ++ ':' :: (after ++ text ++ []) ++ ',' :: rest, by simp,
      .member blank key [] after text [] rest front name blank_nil right blank_nil value others⟩

mutual

theorem encode_derived (style : DumpStyle) (value : Json) (finite : value.finite = true) :
    Derives .value (encode style value) := by
  cases value with
  | null => exact .null
  | bool value =>
      cases value
      · exact .false
      · exact .true
  | int value => exact .number _ (int_number value)
  | float value => exact .number _ (float_number value finite)
  | str value => exact .string _ (encode_string_text style.ascii value)
  | arr items =>
      cases items with
      | nil => exact .emptyArray [] blank_nil
      | cons first others =>
          rw [Json.finite, finiteItems, Bool.and_eq_true] at finite
          obtain ⟨body, whole, items⟩ := items_closed _ _ [] blank_nil (encode_derived style first finite.1)
            (encode_items_derived style others finite.2)
          rw [List.nil_append] at whole
          rw [encode, whole]
          exact .array body items
  | obj fields =>
      cases fields with
      | nil => exact .emptyObject [] blank_nil
      | cons field others =>
          obtain ⟨key, first⟩ := field
          rw [Json.finite, finiteFields, Bool.and_eq_true] at finite
          obtain ⟨after, right, separator⟩ := key_separator_blank style
          obtain ⟨body, whole, members⟩ := members_closed _ _ _ [] after blank_nil (encode_string_text style.ascii key) right
            (encode_derived style first finite.1) (encode_fields_derived style others finite.2)
          have same : encodeString style.ascii key ++ style.keySeparator ++ encode style first ++ encodeFields style others =
              body ++ ['}'] := by
            rw [separator, ← whole]
            simp
          rw [encode, same]
          exact .object body members

theorem encode_items_derived (style : DumpStyle) (items : List Json) (finite : finiteItems items = true) :
    Continues (encodeItems style items) .items ']' := by
  cases items with
  | nil => exact ⟨[], rfl, .inl rfl⟩
  | cons item rest =>
      rw [finiteItems, Bool.and_eq_true] at finite
      obtain ⟨blank, front, separator⟩ := item_separator_blank style
      obtain ⟨body, whole, items⟩ := items_closed _ _ blank front (encode_derived style item finite.1)
        (encode_items_derived style rest finite.2)
      refine ⟨',' :: body, ?_, .inr ⟨body, rfl, items⟩⟩
      rw [encodeItems, separator, List.cons_append, List.cons_append, whole]
      rfl

theorem encode_fields_derived (style : DumpStyle) (fields : List (String × Json)) (finite : finiteFields fields = true) :
    Continues (encodeFields style fields) .members '}' := by
  cases fields with
  | nil => exact ⟨[], rfl, .inl rfl⟩
  | cons field rest =>
      obtain ⟨key, value⟩ := field
      rw [finiteFields, Bool.and_eq_true] at finite
      obtain ⟨blank, front, separator⟩ := item_separator_blank style
      obtain ⟨after, right, keySeparator⟩ := key_separator_blank style
      obtain ⟨body, whole, members⟩ := members_closed _ _ _ blank after front (encode_string_text style.ascii key) right
        (encode_derived style value finite.1) (encode_fields_derived style rest finite.2)
      refine ⟨',' :: body, ?_, .inr ⟨body, rfl, members⟩⟩
      have same : blank ++ encodeString style.ascii key ++ style.keySeparator ++ encode style value ++ encodeFields style rest =
          body ++ ['}'] := by
        rw [keySeparator, ← whole]
        simp
      rw [encodeFields, separator, List.cons_append, List.cons_append, List.cons_append, List.cons_append, same]
      rfl

end

structure Shows (text : List Char) (finite : Bool) : Prop where
  balanced : Balanced text
  marked : finite = false → Marked text

theorem shows_standard (text : List Char) (standard : Standard text) : Shows text true :=
  ⟨standard.balanced, fun never => by cases never⟩

theorem shows_append (front back : List Char) (left right : Bool) (first : Shows front left) (second : Shows back right) :
    Shows (front ++ back) (left && right) := by
  refine ⟨balanced_append front back first.balanced second.balanced, fun some => ?_⟩
  rw [marked_append front back first.balanced]
  cases left with
  | false => exact .inl (first.marked rfl)
  | true => exact .inr (second.marked some)

theorem shows_plain (text : List Char) (plain : ∀ c ∈ text, c ≠ '"' ∧ c ≠ 'N' ∧ c ≠ 'I') : Shows text true :=
  shows_standard text (standard_plain text plain)

theorem item_separator_shows (style : DumpStyle) : Shows style.itemSeparator true := by
  unfold DumpStyle.itemSeparator
  split <;> exact shows_plain _ (by simp)

theorem key_separator_shows (style : DumpStyle) : Shows style.keySeparator true := by
  unfold DumpStyle.keySeparator
  split <;> exact shows_plain _ (by simp)

theorem encode_string_shows (style : DumpStyle) (text : String) : Shows (encodeString style.ascii text) true :=
  shows_standard _ (standard_string _ (encode_string_text style.ascii text))

theorem float_shows (value : FloatText) : Shows value.text.toList value.finite := by
  by_cases finite : value.finite = true
  · rw [finite]
    exact shows_standard _ (number_standard _ (float_number value finite))
  · have named : value.text = "NaN" ∨ value.text = "Infinity" ∨ value.text = "-Infinity" := by
      simp only [FloatText.finite, Bool.and_eq_true, decide_eq_true_eq, ne_eq] at finite
      tauto
    have unquoted : '"' ∉ value.text.toList ∧ ('N' ∈ value.text.toList ∨ 'I' ∈ value.text.toList) := by
      rcases named with same | same | same <;> rw [same] <;> decide
    refine ⟨unquoted_balanced _ unquoted.1, fun _ => ?_⟩
    unfold Marked
    rw [unquoted_itself _ unquoted.1]
    exact unquoted.2

mutual

theorem encode_shows (style : DumpStyle) (value : Json) : Shows (encode style value) value.finite := by
  cases value with
  | null => exact shows_plain _ (by simp [encode])
  | bool value => cases value <;> exact shows_plain _ (by simp [encode])
  | int value => exact shows_standard _ (number_standard _ (int_number value))
  | float value => exact float_shows value
  | str value => exact encode_string_shows style value
  | arr items =>
      cases items with
      | nil => exact shows_plain _ (by simp [encode])
      | cons first others =>
          rw [encode, Json.finite, finiteItems]
          exact shows_append ['['] _ true _ (shows_plain _ (by simp))
            (shows_append _ _ _ _ (encode_shows style first) (encode_items_shows style others))
  | obj fields =>
      cases fields with
      | nil => exact shows_plain _ (by simp [encode])
      | cons field others =>
          obtain ⟨key, first⟩ := field
          rw [encode, Json.finite, finiteFields]
          have named := shows_append _ _ _ _ (encode_string_shows style key) (key_separator_shows style)
          exact shows_append ['{'] _ true _ (shows_plain _ (by simp))
            (shows_append _ _ _ _ (shows_append _ _ _ _ named (encode_shows style first)) (encode_fields_shows style others))

theorem encode_items_shows (style : DumpStyle) (items : List Json) : Shows (encodeItems style items) (finiteItems items) := by
  cases items with
  | nil => exact shows_plain _ (by simp [encodeItems])
  | cons item rest =>
      rw [encodeItems, finiteItems]
      exact shows_append _ _ _ _ (shows_append _ _ true _ (item_separator_shows style) (encode_shows style item))
        (encode_items_shows style rest)

theorem encode_fields_shows (style : DumpStyle) (fields : List (String × Json)) :
    Shows (encodeFields style fields) (finiteFields fields) := by
  cases fields with
  | nil => exact shows_plain _ (by simp [encodeFields])
  | cons field rest =>
      obtain ⟨key, value⟩ := field
      rw [encodeFields, finiteFields]
      have named := shows_append _ _ true true (shows_append _ _ true true (item_separator_shows style)
        (encode_string_shows style key)) (key_separator_shows style)
      exact shows_append _ _ _ _ (shows_append _ _ true _ named (encode_shows style value)) (encode_fields_shows style rest)

end

theorem dumps_document_iff (style : DumpStyle) (value : Json) :
    JsonDocument (dumps style value).toList ↔ value.finite = true := by
  rw [dumps, String.toList_ofList]
  constructor
  · intro document
    have shown := encode_shows style value
    cases finite : value.finite with
    | true => rfl
    | false => exact absurd (shown.marked finite) (document_standard _ document).unmarked
  · intro finite
    exact ⟨[], encode style value, [], blank_nil, blank_nil, encode_derived style value finite, by simp⟩

end DataPilot.Base
