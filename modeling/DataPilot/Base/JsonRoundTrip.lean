import DataPilot.Base.JsonString
import DataPilot.Base.JsonNumber

set_option autoImplicit false

namespace DataPilot.Base

-- Nesting and members together bound the parser's recursion.
mutual

def weight : Json → Nat
  | .arr items => weightItems items
  | .obj fields => weightFields fields
  | _ => 1

def weightItems : List Json → Nat
  | [] => 1
  | item :: rest => weight item + weightItems rest + 1

def weightFields : List (String × Json) → Nat
  | [] => 1
  | (_, value) :: rest => weight value + weightFields rest + 1

end

theorem digits_not_empty (value : Int) : 1 ≤ (encodeInt value).length := by
  cases value with
  | ofNat n => exact Nat.length_toDigits_pos
  | negSucc n => simp [encodeInt]

theorem float_not_empty (value : FloatText) : 1 ≤ value.text.toList.length := by
  obtain ⟨text, literal⟩ := value
  have nonempty : text ≠ "" := by
    rintro rfl
    exact absurd literal (by decide)
  have chars : text.toList ≠ [] := fun empty => nonempty (String.toList_eq_nil_iff.mp empty)
  exact List.length_pos_iff.mpr chars

mutual

theorem weight_le_length (style : DumpStyle) (value : Json) : weight value ≤ (encode style value).length := by
  cases value with
  | null => simp [weight, encode]
  | bool flag => cases flag <;> simp [weight, encode]
  | int value => simpa [weight, encode] using digits_not_empty value
  | float value => simpa [weight, encode] using float_not_empty value
  | str value => simp [weight, encode, encodeString]
  | arr items =>
      cases items with
      | nil => simp [weight, weightItems, encode]
      | cons item rest =>
          have first := weight_le_length style item
          have others := weight_items_le_length style rest
          simp only [weight, weightItems, encode, List.length_cons, List.length_append]
          omega
  | obj fields =>
      cases fields with
      | nil => simp [weight, weightFields, encode]
      | cons field rest =>
          obtain ⟨key, value⟩ := field
          have first := weight_le_length style value
          have others := weight_fields_le_length style rest
          simp only [weight, weightFields, encode, encodeString, List.length_cons, List.length_append]
          omega

theorem weight_items_le_length (style : DumpStyle) (items : List Json) :
    weightItems items ≤ (encodeItems style items).length := by
  cases items with
  | nil => simp [weightItems, encodeItems]
  | cons item rest =>
      have first := weight_le_length style item
      have others := weight_items_le_length style rest
      have comma : 1 ≤ style.itemSeparator.length := by unfold DumpStyle.itemSeparator; split <;> simp
      simp only [weightItems, encodeItems, List.length_append]
      omega

theorem weight_fields_le_length (style : DumpStyle) (fields : List (String × Json)) :
    weightFields fields ≤ (encodeFields style fields).length := by
  cases fields with
  | nil => simp [weightFields, encodeFields]
  | cons field rest =>
      obtain ⟨key, value⟩ := field
      have first := weight_le_length style value
      have others := weight_fields_le_length style rest
      simp only [weightFields, encodeFields, encodeString, List.length_cons, List.length_append]
      omega

end

-- An encoded value starts with none of the characters that end an array and
-- with no white space, so the parser's lookahead sees the value.
def valueHead (c : Char) : Prop := isJsonSpace c = false ∧ c ≠ ']'

theorem encode_head (style : DumpStyle) (value : Json) :
    ∃ c tail, encode style value = c :: tail ∧ valueHead c := by
  cases value with
  | null => exact ⟨_, _, by rw [encode], by decide, by decide⟩
  | bool flag => cases flag <;> exact ⟨_, _, by rw [encode], by decide, by decide⟩
  | int value =>
      cases value with
      | ofNat n =>
          rcases Nat.eq_zero_or_pos n with rfl | positive
          · exact ⟨'0', [], by rw [encode, encodeInt]; rfl, by decide, by decide⟩
          · obtain ⟨c, tail, digits, _, digit, _⟩ := digits_head n positive
            refine ⟨c, tail, by rw [encode, encodeInt, digits], ?_⟩
            constructor
            · by_contra space
              simp only [isJsonSpace, Bool.not_eq_false, Bool.or_eq_true, decide_eq_true_eq] at space
              rcases space with ((rfl | rfl) | rfl) | rfl <;> exact absurd digit (by decide)
            · rintro rfl
              exact absurd digit (by decide)
      | negSucc n => exact ⟨'-', _, by rw [encode, encodeInt], by decide, by decide⟩
  | float value =>
      obtain ⟨text, literal⟩ := value
      have cases := literal
      simp only [isFloatLiteral, Bool.or_eq_true, decide_eq_true_eq] at cases
      rcases cases with ((rfl | rfl) | rfl) | finite
      · exact ⟨'N', ['a', 'N'], by rw [encode]; exact (by decide : "NaN".toList = ['N', 'a', 'N']), by decide, by decide⟩
      · have letters : "Infinity".toList = ['I', 'n', 'f', 'i', 'n', 'i', 't', 'y'] := by decide
        exact ⟨'I', ['n', 'f', 'i', 'n', 'i', 't', 'y'], by rw [encode]; exact letters, by decide, by decide⟩
      · have letters : "-Infinity".toList = ['-', 'I', 'n', 'f', 'i', 'n', 'i', 't', 'y'] := by decide
        exact ⟨'-', ['I', 'n', 'f', 'i', 'n', 'i', 't', 'y'], by rw [encode]; exact letters, by decide, by decide⟩
      · split at finite
        · rename_i integer fraction exponent scanned
          cases chars : text.toList with
          | nil => simp [chars, scanNumber, scanSign, scanInteger] at scanned
          | cons c tail =>
              rw [chars] at scanned
              refine ⟨c, tail, by rw [encode, chars], ?_⟩
              rcases scan_number_head c tail _ scanned with rfl | digit
              · exact ⟨by decide, by decide⟩
              · constructor
                · by_contra space
                  simp only [isJsonSpace, Bool.not_eq_false, Bool.or_eq_true, decide_eq_true_eq] at space
                  rcases space with ((rfl | rfl) | rfl) | rfl <;> exact absurd digit (by decide)
                · rintro rfl
                  exact absurd digit (by decide)
        · cases finite
  | str value => exact ⟨'"', _, by rw [encode, encodeString]; rfl, by decide, by decide⟩
  | arr items =>
      cases items with
      | nil => exact ⟨_, _, by rw [encode], by decide, by decide⟩
      | cons item rest => exact ⟨_, _, by rw [encode], by decide, by decide⟩
  | obj fields =>
      obtain ⟨tail, same⟩ := encode_object_head style fields
      exact ⟨_, _, same, by decide, by decide⟩

theorem skip_space_value (style : DumpStyle) (value : Json) (rest : List Char) :
    skipSpace (encode style value ++ rest) = encode style value ++ rest := by
  obtain ⟨c, tail, head, plain⟩ := encode_head style value
  rw [head, List.cons_append, skipSpace, List.dropWhile_cons_of_neg (by simp [plain.1])]

theorem skip_separator (spaced : Bool) (mark : Char) (rest : List Char) (solid : skipSpace rest = rest) :
    skipSpace ((if spaced then [mark, ' '] else [mark]).drop 1 ++ rest) = rest := by
  cases spaced with
  | false => exact solid
  | true =>
      have blank : skipSpace (' ' :: rest) = skipSpace rest := List.dropWhile_cons_of_pos (by decide)
      exact blank.trans solid

theorem delimited_items (style : DumpStyle) (items : List Json) (rest : List Char) :
    Delimited (encodeItems style items ++ rest) := by
  cases items with
  | nil => exact .inr (.inl rfl)
  | cons item tail =>
      rw [encodeItems, DumpStyle.itemSeparator]
      split <;> exact .inl rfl

theorem delimited_fields (style : DumpStyle) (fields : List (String × Json)) (rest : List Char) :
    Delimited (encodeFields style fields ++ rest) := by
  cases fields with
  | nil => exact .inr (.inr rfl)
  | cons field tail =>
      rw [encodeFields, DumpStyle.itemSeparator]
      split <;> exact .inl rfl

theorem parse_member_encode (style : DumpStyle) (key : String) (value : Json) (rest : List Char)
    (parse : List Char → Option (Json × List Char))
    (parsed : parse (encode style value ++ rest) = some (value, rest)) :
    parseMember parse (key.toList.flatMap (encodeChar style.ascii) ++ '"' ::
      (style.keySeparator ++ (encode style value ++ rest))) = some ((key, value), rest) := by
  have colon : skipSpace (style.keySeparator ++ (encode style value ++ rest)) =
      ':' :: (style.keySeparator.drop 1 ++ (encode style value ++ rest)) := by
    unfold DumpStyle.keySeparator
    split <;> exact List.dropWhile_cons_of_neg (by decide)
  have solid := skip_separator style.spaced ':' _ (skip_space_value style value rest)
  rw [parseMember, parse_string_encoded]
  simp only [colon]
  rw [DumpStyle.keySeparator, solid, parsed, String.ofList_toList]
  rfl

theorem parse_value_atom (fuel : Nat) (text rest : List Char) (value : Json)
    (atom : parseAtom text = some (value, rest))
    (plain : ∀ c tail, text = c :: tail → c ≠ '"' ∧ c ≠ '{' ∧ c ≠ '[') : parseValue (fuel + 1) text = some (value, rest) := by
  cases text with
  | nil => cases atom
  | cons c tail =>
      obtain ⟨quote, brace, bracket⟩ := plain c tail rfl
      rw [parseValue, if_neg quote, if_neg brace, if_neg bracket, atom]

theorem number_plain (text : List Char) (scan : NumberScan) (scanned : scanNumber text = some scan) (rest : List Char) :
    ∀ c tail, text ++ rest = c :: tail → c ≠ '"' ∧ c ≠ '{' ∧ c ≠ '[' := by
  intro c tail same
  cases text with
  | nil => simp [scanNumber, scanSign, scanInteger] at scanned
  | cons head others =>
      obtain rfl : head = c := (List.cons.inj same).1
      rcases scan_number_head head others scan scanned with rfl | digit
      · decide
      · refine ⟨?_, ?_, ?_⟩ <;> (rintro rfl; exact absurd digit (by decide))

theorem float_plain (value : FloatText) (rest : List Char) :
    ∀ c tail, value.text.toList ++ rest = c :: tail → c ≠ '"' ∧ c ≠ '{' ∧ c ≠ '[' := by
  obtain ⟨text, literal⟩ := value
  have cases := literal
  simp only [isFloatLiteral, Bool.or_eq_true, decide_eq_true_eq] at cases
  rcases cases with ((rfl | rfl) | rfl) | finite
  · have chars : "NaN".toList = ['N', 'a', 'N'] := by decide
    simp [chars]
  · have chars : "Infinity".toList = ['I', 'n', 'f', 'i', 'n', 'i', 't', 'y'] := by decide
    simp [chars]
  · have chars : "-Infinity".toList = ['-', 'I', 'n', 'f', 'i', 'n', 'i', 't', 'y'] := by decide
    simp [chars]
  · split at finite
    · rename_i scanned
      exact number_plain _ _ scanned rest
    · cases finite

theorem weight_positive (value : Json) : 1 ≤ weight value := by
  cases value with
  | arr items => cases items <;> simp [weight, weightItems]
  | obj fields => cases fields <;> simp [weight, weightFields]
  | _ => exact Nat.le_refl 1

mutual

theorem parse_value_encode (style : DumpStyle) (value : Json) (fuel : Nat) (rest : List Char)
    (enough : weight value ≤ fuel) (stop : Delimited rest) :
    parseValue fuel (encode style value ++ rest) = some (value, rest) := by
  obtain ⟨fuel, rfl⟩ := Nat.exists_eq_add_of_le' (Nat.le_trans (weight_positive value) enough)
  cases value with
  | null => rfl
  | bool flag => cases flag <;> rfl
  | int value =>
      rw [encode]
      exact parse_value_atom fuel _ rest _ (parse_atom_int value rest stop)
        (number_plain _ _ (scan_number_int value) rest)
  | float value =>
      rw [encode]
      exact parse_value_atom fuel _ rest _ (parse_atom_float value rest stop) (float_plain value rest)
  | str value =>
      simp only [encode, encodeString, List.cons_append, List.append_assoc, List.nil_append]
      rw [parseValue, if_pos rfl, parse_string_encoded]
      simp
  | arr items =>
      cases items with
      | nil => rfl
      | cons item others =>
          simp only [weight, weightItems] at enough
          have first := parse_value_encode style item fuel (encodeItems style others ++ rest) (by omega)
            (delimited_items style others rest)
          have tail := parse_items_encode style others fuel rest (by omega)
          obtain ⟨c, text, head, plain⟩ := encode_head style item
          rw [encode, List.cons_append, List.append_assoc, parseValue, if_neg (by decide), if_neg (by decide),
            if_pos rfl, skip_space_value]
          split
          · rename_i after closed
            rw [head, List.cons_append] at closed
            exact absurd (List.cons.inj closed).1 plain.2
          · rw [first]
            simp [tail]
  | obj fields =>
      cases fields with
      | nil => rfl
      | cons field others =>
          obtain ⟨key, value⟩ := field
          simp only [weight, weightFields] at enough
          have first := parse_member_encode style key value (encodeFields style others ++ rest) (parseValue fuel)
            (parse_value_encode style value fuel _ (by omega) (delimited_fields style others rest))
          have tail := parse_fields_encode style others fuel rest (by omega)
          have opened : skipSpace (encodeString style.ascii key ++ style.keySeparator ++ encode style value ++
              encodeFields style others ++ rest) = '"' :: (key.toList.flatMap (encodeChar style.ascii) ++ '"' ::
              (style.keySeparator ++ (encode style value ++ (encodeFields style others ++ rest)))) := by
            simp [encodeString, skipSpace, isJsonSpace]
          rw [encode, List.cons_append, parseValue, if_neg (by decide), if_pos rfl, opened]
          simp [first, tail]

theorem parse_items_encode (style : DumpStyle) (items : List Json) (fuel : Nat) (rest : List Char)
    (enough : weightItems items ≤ fuel) : parseItems fuel (encodeItems style items ++ rest) = some (items, rest) := by
  cases items with
  | nil =>
      obtain ⟨fuel, rfl⟩ := Nat.exists_eq_add_of_le' enough
      rfl
  | cons item others =>
      simp only [weightItems] at enough
      obtain ⟨fuel, rfl⟩ := Nat.exists_eq_add_of_le' (Nat.le_trans (Nat.le_add_left 1 _) enough)
      have first := parse_value_encode style item fuel (encodeItems style others ++ rest) (by omega)
        (delimited_items style others rest)
      have tail := parse_items_encode style others fuel rest (by omega)
      have comma : skipSpace (encodeItems style (item :: others) ++ rest) =
          ',' :: (style.itemSeparator.drop 1 ++ (encode style item ++ (encodeItems style others ++ rest))) := by
        rw [encodeItems, DumpStyle.itemSeparator]
        split <;> simp [skipSpace, isJsonSpace]
      have solid := skip_separator style.spaced ',' _ (skip_space_value style item (encodeItems style others ++ rest))
      rw [parseItems, comma]
      simp only [DumpStyle.itemSeparator, solid, first, tail, Option.map_some]

theorem parse_fields_encode (style : DumpStyle) (fields : List (String × Json)) (fuel : Nat) (rest : List Char)
    (enough : weightFields fields ≤ fuel) : parseFields fuel (encodeFields style fields ++ rest) = some (fields, rest) := by
  cases fields with
  | nil =>
      obtain ⟨fuel, rfl⟩ := Nat.exists_eq_add_of_le' enough
      rfl
  | cons field others =>
      obtain ⟨key, value⟩ := field
      simp only [weightFields] at enough
      obtain ⟨fuel, rfl⟩ := Nat.exists_eq_add_of_le' (Nat.le_trans (Nat.le_add_left 1 _) enough)
      have first := parse_member_encode style key value (encodeFields style others ++ rest) (parseValue fuel)
        (parse_value_encode style value fuel _ (by omega) (delimited_fields style others rest))
      have tail := parse_fields_encode style others fuel rest (by omega)
      let member := '"' :: (key.toList.flatMap (encodeChar style.ascii) ++ '"' ::
        (style.keySeparator ++ (encode style value ++ (encodeFields style others ++ rest))))
      have comma : skipSpace (encodeFields style ((key, value) :: others) ++ rest) =
          ',' :: (style.itemSeparator.drop 1 ++ member) := by
        rw [encodeFields, DumpStyle.itemSeparator]
        split <;> simp [skipSpace, isJsonSpace, encodeString, member]
      have solid := skip_separator style.spaced ',' member (List.dropWhile_cons_of_neg (by decide))
      rw [parseFields, comma]
      simp only [DumpStyle.itemSeparator, solid]
      simp only [member, first, tail, Option.map_some]

end

theorem encode_injective (style : DumpStyle) (a b : Json) (same : encode style a = encode style b) : a = b := by
  have left := parse_value_encode style a (weight a + weight b) [] (by omega) trivial
  have right := parse_value_encode style b (weight a + weight b) [] (by omega) trivial
  rw [same, right] at left
  exact (congrArg Prod.fst (Option.some.inj left)).symm

theorem dumps_injective (style : DumpStyle) (a b : Json) (same : dumps style a = dumps style b) : a = b :=
  encode_injective style a b (String.ofList_injective same)

theorem loads_dumps (style : DumpStyle) (value : Json) : loads (dumps style value) = some (mergeKeys value) := by
  have enough : weight value ≤ (dumps style value).length + 1 := by
    rw [dumps, String.length_ofList]
    exact Nat.le_succ_of_le (weight_le_length style value)
  have parsed := parse_value_encode style value _ [] enough trivial
  have start := skip_space_value style value []
  simp only [List.append_nil] at parsed start
  rw [loads, dumps, String.toList_ofList, start, ← dumps, parsed]
  rfl

-- A dict of JSON values: no key stands twice.
structure Payload where
  fields : Dict
  merged : mergeKeys (.obj fields) = .obj fields

theorem Payload.loads_dumps (style : DumpStyle) (payload : Payload) :
    loads (dumps style (.obj payload.fields)) = some (.obj payload.fields) := by
  rw [Base.loads_dumps, payload.merged]

end DataPilot.Base
