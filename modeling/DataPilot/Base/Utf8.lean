import Mathlib.Data.List.Basic

set_option autoImplicit false

namespace DataPilot.Base

def utf8 (text : List Char) : List UInt8 := text.flatMap String.utf8EncodeChar

-- The characters that stand whole at the front of some bytes, and what is left.
def decodeFront : Nat → List UInt8 → List Char × List UInt8
  | 0, bytes => ([], bytes)
  | fuel + 1, bytes =>
      match bytes.toByteArray.utf8DecodeChar? 0 with
      | none => ([], bytes)
      | some c =>
          let rest := decodeFront fuel (bytes.drop c.utf8Size)
          (c :: rest.1, rest.2)

theorem decode_first (c : Char) (bytes : List UInt8) :
    (String.utf8EncodeChar c ++ bytes).toByteArray.utf8DecodeChar? 0 = some c := by
  rw [List.toByteArray_append]
  exact ByteArray.utf8DecodeChar?_utf8EncodeChar_append

theorem decode_split (bytes : List UInt8) (c : Char) (decoded : bytes.toByteArray.utf8DecodeChar? 0 = some c) :
    bytes = String.utf8EncodeChar c ++ bytes.drop c.utf8Size := by
  obtain ⟨rest, front⟩ := ByteArray.exists_of_utf8DecodeChar?_eq_some decoded
  have parts : bytes = String.utf8EncodeChar c ++ rest.data.toList := by
    have same : rest.data.toList.toByteArray = rest := ByteArray.ext (by simp)
    rw [← List.toByteArray_inj, List.toByteArray_append, same]
    exact front
  conv_rhs => rw [parts]
  rw [List.drop_left' (String.length_utf8EncodeChar c)]
  exact parts

theorem decode_part (text : List Char) (bytes rest : List UInt8) (c : Char) (split : bytes ++ rest = utf8 text)
    (decoded : bytes.toByteArray.utf8DecodeChar? 0 = some c) : ∃ others, text = c :: others := by
  rw [decode_split bytes c decoded, List.append_assoc] at split
  have first := decode_first c (bytes.drop c.utf8Size ++ rest)
  rw [split] at first
  cases text with
  | nil => simp [utf8, ByteArray.utf8DecodeChar?] at first
  | cons d others =>
      rw [utf8, List.flatMap_cons, decode_first] at first
      cases first
      exact ⟨others, rfl⟩

theorem decode_front (fuel : Nat) (text : List Char) (bytes rest : List UInt8) (split : bytes ++ rest = utf8 text) :
    ∃ others, text = (decodeFront fuel bytes).1 ++ others ∧ (decodeFront fuel bytes).2 ++ rest = utf8 others := by
  induction fuel generalizing text bytes with
  | zero => exact ⟨text, rfl, split⟩
  | succ fuel ih =>
      rw [decodeFront]
      cases decoded : bytes.toByteArray.utf8DecodeChar? 0 with
      | none => exact ⟨text, rfl, split⟩
      | some c =>
          obtain ⟨others, rfl⟩ := decode_part text bytes rest c split decoded
          have front := decode_split bytes c decoded
          have tail : bytes.drop c.utf8Size ++ rest = utf8 others := by
            rw [front, utf8, List.flatMap_cons, List.append_assoc] at split
            exact List.append_cancel_left split
          obtain ⟨left, same, after⟩ := ih others (bytes.drop c.utf8Size) tail
          exact ⟨left, by dsimp only; rw [same]; rfl, after⟩

theorem decode_front_stops (fuel : Nat) (bytes : List UInt8) (enough : bytes.length ≤ fuel) :
    (decodeFront fuel bytes).2.toByteArray.utf8DecodeChar? 0 = none := by
  induction fuel generalizing bytes with
  | zero =>
      obtain rfl := List.eq_nil_of_length_eq_zero (Nat.le_zero.mp enough)
      rfl
  | succ fuel ih =>
      rw [decodeFront]
      cases decoded : bytes.toByteArray.utf8DecodeChar? 0 with
      | none => exact decoded
      | some c =>
          refine ih _ ?_
          have positive := c.utf8Size_pos
          rw [List.length_drop]
          omega

-- A decoder that keeps the bytes of a character until it has them all.
def decodeChunk (pending chunk : List UInt8) : List Char × List UInt8 :=
  decodeFront (pending ++ chunk).length (pending ++ chunk)

def decodeChunks (pending : List UInt8) : List (List UInt8) → List (List Char) × List UInt8
  | [] => ([], pending)
  | chunk :: rest =>
      let first := decodeChunk pending chunk
      let others := decodeChunks first.2 rest
      (first.1 :: others.1, others.2)

theorem decode_chunks (chunks : List (List UInt8)) (pending : List UInt8) (text : List Char)
    (stuck : pending.toByteArray.utf8DecodeChar? 0 = none) (split : pending ++ chunks.flatten = utf8 text) :
    decodeChunks pending chunks = ((decodeChunks pending chunks).1, []) ∧
      (decodeChunks pending chunks).1.flatten = text := by
  induction chunks generalizing pending text with
  | nil =>
      cases text with
      | nil => simpa [decodeChunks, utf8] using split
      | cons c others =>
          rw [List.flatten_nil, List.append_nil, utf8, List.flatMap_cons] at split
          rw [split, decode_first] at stuck
          cases stuck
  | cons chunk rest ih =>
      rw [List.flatten_cons, ← List.append_assoc] at split
      obtain ⟨others, rfl, left⟩ := decode_front (pending ++ chunk).length text _ _ split
      obtain ⟨done, same⟩ := ih (decodeChunk pending chunk).2 others (decode_front_stops _ _ (Nat.le_refl _)) left
      refine ⟨?_, ?_⟩
      · rw [decodeChunks, done]
      · rw [decodeChunks, List.flatten_cons, same]
        rfl

-- bytes.decode("utf-8"); none stands for UnicodeDecodeError.
def utf8Decode (bytes : List UInt8) : Option String :=
  let front := decodeFront bytes.length bytes
  if front.2 = [] then some (String.ofList front.1) else none

theorem utf8_decode_encode (text : List Char) : utf8Decode (utf8 text) = some (String.ofList text) := by
  obtain ⟨others, same, after⟩ := decode_front (utf8 text).length text (utf8 text) [] (List.append_nil _)
  have stopped := decode_front_stops (utf8 text).length (utf8 text) (Nat.le_refl _)
  rw [List.append_nil] at after
  cases others with
  | nil =>
      rw [List.append_nil] at same
      rw [utf8Decode, after, ← same]
      exact if_pos rfl
  | cons c rest =>
      rw [after, utf8, List.flatMap_cons, decode_first] at stopped
      cases stopped

end DataPilot.Base
