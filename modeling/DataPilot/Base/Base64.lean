import DataPilot.Base.Text

set_option autoImplicit false

namespace DataPilot.Base

-- The alphabet: capitals, small letters, digits, "+" and "/".
def base64Char (value : Nat) : Char :=
  if value < 26 then Char.ofNat (value + 65)
  else if value < 52 then Char.ofNat (value + 71)
  else if value < 62 then Char.ofNat (value - 4)
  else if value = 62 then '+'
  else '/'

def base64Value (c : Char) : Option Nat :=
  if 'A' ≤ c ∧ c ≤ 'Z' then some (c.toNat - 65)
  else if 'a' ≤ c ∧ c ≤ 'z' then some (c.toNat - 71)
  else if '0' ≤ c ∧ c ≤ '9' then some (c.toNat + 4)
  else if c = '+' then some 62
  else if c = '/' then some 63
  else none

-- base64.b64encode
def b64encode : List UInt8 → List Char
  | [] => []
  | [a] => [base64Char (a.toNat / 4), base64Char (a.toNat % 4 * 16), '=', '=']
  | [a, b] =>
      [base64Char (a.toNat / 4), base64Char (a.toNat % 4 * 16 + b.toNat / 16), base64Char (b.toNat % 16 * 4), '=']
  | a :: b :: c :: rest =>
      base64Char (a.toNat / 4) :: base64Char (a.toNat % 4 * 16 + b.toNat / 16) ::
        base64Char (b.toNat % 16 * 4 + c.toNat / 64) :: base64Char (c.toNat % 64) :: b64encode rest

-- The state of binascii.a2b_base64: the place in the group of four, the bits left
-- over, the pads seen since the last letter, and whether padding has begun.
structure Quad where
  place : Nat := 0
  left : Nat := 0
  pads : Nat := 0
  padded : Bool := false
deriving DecidableEq

def binasciiError (text : String) : PyException := ⟨"Error", text⟩

-- The letter with this value at each place of the group.
def Quad.letter (quad : Quad) (value : Nat) : Quad × List UInt8 :=
  match quad.place with
  | 0 => ({ quad with place := 1, left := value, pads := 0 }, [])
  | 1 => ({ quad with place := 2, left := value % 16, pads := 0 }, [UInt8.ofNat (quad.left * 4 + value / 16)])
  | 2 => ({ quad with place := 3, left := value % 4, pads := 0 }, [UInt8.ofNat (quad.left * 16 + value / 4)])
  | _ => ({ quad with place := 0, left := 0, pads := 0 }, [UInt8.ofNat (quad.left * 64 + value)])

def Quad.finish (quad : Quad) : Except PyException (List UInt8) :=
  match quad.place with
  | 0 => .ok []
  | 1 => .error (binasciiError
      "Invalid base64-encoded string: number of data characters cannot be 1 more than a multiple of 4")
  | _ => .error (binasciiError "Incorrect padding")

-- Letters outside the alphabet are skipped and what follows a complete padding is
-- not read; the strict mode refuses both, and padding where none belongs.
def a2bBase64 (strict : Bool) : List Char → Quad → Except PyException (List UInt8)
  | [], quad => quad.finish
  | c :: rest, quad =>
      if c = '=' then
        if strict = true ∧ quad.place = 0 then .error (binasciiError "Excess padding not allowed")
        else if 2 ≤ quad.place then
          if 4 ≤ quad.place + (quad.pads + 1) then
            if strict = true ∧ rest ≠ [] then .error (binasciiError "Excess data after padding") else .ok []
          else a2bBase64 strict rest { quad with pads := quad.pads + 1, padded := true }
        else a2bBase64 strict rest { quad with padded := true }
      else
        match base64Value c with
        | none =>
            if strict = true then .error (binasciiError "Only base64 data is allowed")
            else a2bBase64 strict rest quad
        | some value =>
            if strict = true ∧ quad.padded = true then .error (binasciiError "Discontinuous padding not allowed")
            else
              let next := quad.letter value
              (a2bBase64 strict rest next.1).map (next.2 ++ ·)

-- base64.b64decode of a str; validate is the strict mode.
def b64decode (validate : Bool) (text : String) : Except PyException (List UInt8) :=
  if text.toList.all fun c => decide (c.toNat < 128) then
    if validate = true ∧ text.toList.head? = some '=' then .error (binasciiError "Leading padding not allowed")
    else a2bBase64 validate text.toList {}
  else .error ⟨"ValueError", "string argument should contain only ASCII characters"⟩

set_option maxRecDepth 4000 in
theorem base64_value_char : ∀ value < 64, base64Value (base64Char value) = some value ∧ base64Char value ≠ '=' ∧
    (base64Char value).toNat < 128 := by decide

section Letters

variable (strict : Bool) (rest : List Char)

theorem a2b_letter (value : Nat) (quad : Quad) (small : value < 64) (fresh : quad.padded = false) :
    a2bBase64 strict (base64Char value :: rest) quad =
      (a2bBase64 strict rest (quad.letter value).1).map ((quad.letter value).2 ++ ·) := by
  obtain ⟨known, letter, _⟩ := base64_value_char value small
  rw [a2bBase64, if_neg letter, known]
  dsimp only
  rw [if_neg (by simp [fresh])]

theorem byte_of (value : Nat) (byte : UInt8) (same : value = byte.toNat) : UInt8.ofNat value = byte := by
  rw [same, UInt8.ofNat_toNat]

theorem a2b_two (a : UInt8) (low : Nat) (small : low < 16) :
    a2bBase64 strict (base64Char (a.toNat / 4) :: base64Char (a.toNat % 4 * 16 + low) :: rest) {} =
      (a2bBase64 strict rest { place := 2, left := low }).map (a :: ·) := by
  have bound := a.toNat_lt
  have high : UInt8.ofNat (a.toNat / 4 * 4 + (a.toNat % 4 * 16 + low) / 16) = a := byte_of _ a (by omega)
  have left : (a.toNat % 4 * 16 + low) % 16 = low := by omega
  rw [a2b_letter strict _ (a.toNat / 4) {} (by omega) rfl, a2b_letter strict rest (a.toNat % 4 * 16 + low) _ (by omega) rfl]
  simp only [Quad.letter, high, left]
  cases a2bBase64 strict rest { place := 2, left := low } <;> rfl

theorem a2b_third (a b : UInt8) (low : Nat) (small : low < 4) :
    a2bBase64 strict (base64Char (a.toNat / 4) :: base64Char (a.toNat % 4 * 16 + b.toNat / 16) ::
        base64Char (b.toNat % 16 * 4 + low) :: rest) {} =
      (a2bBase64 strict rest { place := 3, left := low }).map ([a, b] ++ ·) := by
  have bound := b.toNat_lt
  have high : UInt8.ofNat (b.toNat / 16 * 16 + (b.toNat % 16 * 4 + low) / 4) = b := byte_of _ b (by omega)
  have left : (b.toNat % 16 * 4 + low) % 4 = low := by omega
  rw [a2b_two strict _ a (b.toNat / 16) (by omega), a2b_letter strict rest (b.toNat % 16 * 4 + low) _ (by omega) rfl]
  simp only [Quad.letter, high, left]
  cases a2bBase64 strict rest { place := 3, left := low } <;> rfl

theorem a2b_group (a b c : UInt8) :
    a2bBase64 strict (base64Char (a.toNat / 4) :: base64Char (a.toNat % 4 * 16 + b.toNat / 16) ::
        base64Char (b.toNat % 16 * 4 + c.toNat / 64) :: base64Char (c.toNat % 64) :: rest) {} =
      (a2bBase64 strict rest {}).map ([a, b, c] ++ ·) := by
  have bound := c.toNat_lt
  have last : UInt8.ofNat (c.toNat / 64 * 64 + c.toNat % 64) = c := byte_of _ c (by omega)
  rw [a2b_third strict _ a b (c.toNat / 64) (by omega), a2b_letter strict rest (c.toNat % 64) _ (by omega) rfl]
  simp only [Quad.letter, last]
  cases a2bBase64 strict rest {} <;> rfl

end Letters

theorem a2b_encode (strict : Bool) (bytes : List UInt8) : a2bBase64 strict (b64encode bytes) {} = .ok bytes := by
  induction bytes using b64encode.induct with
  | case1 => rfl
  | case2 a =>
      rw [b64encode, show a.toNat % 4 * 16 = a.toNat % 4 * 16 + 0 from rfl, a2b_two strict _ a 0 (by omega)]
      cases strict <;> rfl
  | case3 a b =>
      rw [b64encode, show b.toNat % 16 * 4 = b.toNat % 16 * 4 + 0 from rfl, a2b_third strict _ a b 0 (by omega)]
      cases strict <;> rfl
  | case4 a b c rest ih =>
      rw [b64encode, a2b_group, ih]
      rfl

theorem b64encode_letters (bytes : List UInt8) :
    ∀ c ∈ b64encode bytes, c = '=' ∨ ∃ value, value < 64 ∧ c = base64Char value := by
  have single : ∀ value, value < 64 → base64Char value = '=' ∨ ∃ other, other < 64 ∧ base64Char value = base64Char other :=
    fun value small => .inr ⟨value, small, rfl⟩
  induction bytes using b64encode.induct with
  | case1 => simp [b64encode]
  | case2 a =>
      have first := a.toNat_lt
      simp only [b64encode, List.forall_mem_cons]
      exact ⟨single _ (by omega), single _ (by omega), .inl trivial, .inl trivial, by simp⟩
  | case3 a b =>
      have first := a.toNat_lt
      have second := b.toNat_lt
      simp only [b64encode, List.forall_mem_cons]
      exact ⟨single _ (by omega), single _ (by omega), single _ (by omega), .inl trivial, by simp⟩
  | case4 a b c rest ih =>
      have first := a.toNat_lt
      have second := b.toNat_lt
      have third := c.toNat_lt
      simp only [b64encode, List.forall_mem_cons]
      exact ⟨single _ (by omega), single _ (by omega), single _ (by omega), single _ (by omega), ih⟩

theorem b64encode_head (bytes : List UInt8) : (b64encode bytes).head? ≠ some '=' := by
  have starts : ∀ a : UInt8, some (base64Char (a.toNat / 4)) ≠ some '=' := by
    intro a same
    have bound := a.toNat_lt
    exact (base64_value_char (a.toNat / 4) (by omega)).2.1 (Option.some.inj same)
  induction bytes using b64encode.induct with
  | case1 => simp [b64encode]
  | case2 a => exact starts a
  | case3 a b => exact starts a
  | case4 a b c rest ih => exact starts a

theorem b64decode_encode (validate : Bool) (bytes : List UInt8) :
    b64decode validate (String.ofList (b64encode bytes)) = .ok bytes := by
  have ascii : (b64encode bytes).all (fun c => decide (c.toNat < 128)) = true := by
    rw [List.all_eq_true]
    intro c member
    apply decide_eq_true
    rcases b64encode_letters bytes c member with rfl | ⟨value, small, rfl⟩
    · decide
    · exact (base64_value_char value small).2.2
  rw [b64decode, String.toList_ofList, if_pos ascii, if_neg fun leading => b64encode_head bytes leading.2]
  exact a2b_encode validate bytes

end DataPilot.Base
