import DataPilot.Auth.Models
import DataPilot.Base.Base64
import DataPilot.Base.Utf8
import DataPilot.Chat.Broker

set_option autoImplicit false

namespace DataPilot.Auth

open DataPilot.Base
open DataPilot.Chat (intText int_text_digits to_digits_plain)

def pbkdf2Iterations : Nat := 240000

-- str.split with a limit.
def splitMost (mark : Char) : Nat → List Char → List (List Char)
  | 0, text => [text]
  | _ + 1, [] => [[]]
  | limit + 1, c :: rest =>
      if c = mark then [] :: splitMost mark limit rest
      else
        match splitMost mark (limit + 1) rest with
        | [] => [[c]]
        | word :: words => (c :: word) :: words

def urlsafe (c : Char) : Char := if c = '+' then '-' else if c = '/' then '_' else c

def unsafeUrl (c : Char) : Char := if c = '-' then '+' else if c = '_' then '/' else c

def urlsafeEncode (bytes : List UInt8) : List Char := (b64encode bytes).map urlsafe

def urlsafeDecode (text : List Char) : Except PyException (List UInt8) :=
  if text.all fun c => c.toNat < 128 then b64decode false (String.ofList (text.map unsafeUrl))
  else .error ⟨"UnicodeEncodeError", "'ascii' codec can't encode characters"⟩

-- hashlib.pbkdf2_hmac with sha256: the password, the salt and the iterations.
abbrev Pbkdf2 := List UInt8 → List UInt8 → Int → Except PyException (List UInt8)

def algorithmName : List Char := "pbkdf2_sha256".toList

def encodedPassword (salt digest : List UInt8) : String :=
  String.ofList (algorithmName ++ '$' :: Nat.toDigits 10 pbkdf2Iterations ++ '$' :: urlsafeEncode salt ++
    '$' :: urlsafeEncode digest)

variable (pbkdf2 : Pbkdf2)

def hashPassword (password : String) (salt : List UInt8) : Except PyException String :=
  (pbkdf2 (utf8 password.toList) salt pbkdf2Iterations).map (encodedPassword salt)

-- except (ValueError, TypeError): return False
def caught (failure : PyException) : Bool :=
  failure.typeName ∈ ["ValueError", "TypeError", "UnicodeEncodeError", "Error"]

def compared (expected : List UInt8) : Except PyException (List UInt8) → Except PyException Bool
  | .ok actual => .ok (decide (actual = expected))
  | .error failure => if caught failure then .ok false else .error failure

def verifyFields (password : String) (iterations salt digest : List Char) : Except PyException Bool :=
  match urlsafeDecode salt, urlsafeDecode digest, intText (String.ofList iterations) with
  | .ok salt, .ok expected, some count => compared expected (pbkdf2 (utf8 password.toList) salt count)
  | .error failure, _, _ => if caught failure then .ok false else .error failure
  | .ok _, .error failure, _ => if caught failure then .ok false else .error failure
  | .ok _, .ok _, none => .ok false

def verifyPassword (password encoded : String) : Except PyException Bool :=
  match splitMost '$' 3 encoded.toList with
  | [algorithm, iterations, salt, digest] =>
      if algorithm ≠ algorithmName then .ok false else verifyFields pbkdf2 password iterations salt digest
  | _ => .ok false

theorem split_most_cut (mark : Char) (limit : Nat) (word rest : List Char) (free : mark ∉ word) :
    splitMost mark (limit + 1) (word ++ mark :: rest) = word :: splitMost mark limit rest := by
  induction word with
  | nil => simp [splitMost]
  | cons c word ih =>
      rw [List.mem_cons, not_or] at free
      rw [List.cons_append, splitMost, if_neg (Ne.symm free.1), ih free.2]

theorem urlsafe_letter (value : Nat) (small : value < 64) :
    unsafeUrl (urlsafe (base64Char value)) = base64Char value ∧ urlsafe (base64Char value) ≠ '$' ∧
      (urlsafe (base64Char value)).toNat < 128 := by
  revert small
  revert value
  decide

theorem urlsafe_letters (bytes : List UInt8) :
    ∀ c ∈ b64encode bytes, unsafeUrl (urlsafe c) = c ∧ urlsafe c ≠ '$' ∧ (urlsafe c).toNat < 128 := by
  intro c member
  obtain rfl | ⟨value, small, rfl⟩ := b64encode_letters bytes c member
  · decide
  · exact urlsafe_letter value small

theorem urlsafe_round_trip (bytes : List UInt8) : urlsafeDecode (urlsafeEncode bytes) = .ok bytes := by
  have letters := urlsafe_letters bytes
  have ascii : ((b64encode bytes).map urlsafe).all (fun c => c.toNat < 128) = true := by
    rw [List.all_map, List.all_eq_true]
    exact fun c member => decide_eq_true (letters c member).2.2
  have back : ((b64encode bytes).map urlsafe).map unsafeUrl = b64encode bytes := by
    rw [List.map_map]
    exact (List.map_congr_left fun c member => (letters c member).1).trans (List.map_id _)
  rw [urlsafeDecode, urlsafeEncode, if_pos ascii, back, b64decode_encode]

theorem urlsafe_unmarked (bytes : List UInt8) : '$' ∉ urlsafeEncode bytes := by
  intro member
  obtain ⟨c, inside, same⟩ := List.mem_map.mp member
  exact (urlsafe_letters bytes c inside).2.1 same

theorem digits_unmarked (n : Nat) : '$' ∉ Nat.toDigits 10 n := by
  intro member
  have digit := (to_digits_plain n).2 '$' member
  exact absurd digit (by decide)

theorem encoded_fields (salt digest : List UInt8) :
    splitMost '$' 3 (encodedPassword salt digest).toList =
      [algorithmName, Nat.toDigits 10 pbkdf2Iterations, urlsafeEncode salt, urlsafeEncode digest] := by
  have name : '$' ∉ algorithmName := by decide
  rw [encodedPassword, String.toList_ofList, List.append_assoc, List.append_assoc, List.cons_append, List.cons_append,
    split_most_cut '$' 2 algorithmName _ name,
    split_most_cut '$' 1 _ _ (digits_unmarked _), split_most_cut '$' 0 _ _ (urlsafe_unmarked salt), splitMost]

theorem stored_password_verified (password candidate encoded : String) (salt : List UInt8)
    (stored : hashPassword pbkdf2 password salt = .ok encoded) :
    ∃ digest, pbkdf2 (utf8 password.toList) salt pbkdf2Iterations = .ok digest ∧
      verifyPassword pbkdf2 candidate encoded = compared digest (pbkdf2 (utf8 candidate.toList) salt pbkdf2Iterations) := by
  unfold hashPassword at stored
  cases derived : pbkdf2 (utf8 password.toList) salt pbkdf2Iterations with
  | error failure =>
      rw [derived] at stored
      cases stored
  | ok digest =>
      rw [derived] at stored
      cases stored
      refine ⟨digest, rfl, ?_⟩
      unfold verifyPassword
      rw [encoded_fields]
      dsimp only
      rw [if_neg (not_not.mpr rfl), verifyFields, urlsafe_round_trip, urlsafe_round_trip, int_text_digits]

theorem compared_true (expected : List UInt8) (actual : Except PyException (List UInt8)) :
    compared expected actual = .ok true ↔ actual = .ok expected := by
  cases actual with
  | ok bytes => simp [compared]
  | error failure =>
      rw [compared]
      by_cases known : caught failure = true
      · simp [known]
      · simp [known]

theorem password_accepted_iff (password candidate encoded : String) (salt : List UInt8)
    (stored : hashPassword pbkdf2 password salt = .ok encoded) :
    verifyPassword pbkdf2 candidate encoded = .ok true ↔
      pbkdf2 (utf8 candidate.toList) salt pbkdf2Iterations = pbkdf2 (utf8 password.toList) salt pbkdf2Iterations := by
  obtain ⟨digest, derived, verified⟩ := stored_password_verified pbkdf2 password candidate encoded salt stored
  rw [verified, compared_true, derived]

-- The host of the service as the module makes it, for a digest that is always there.
def securityHost (lower : String → String) (digest : List UInt8 → List UInt8 → Int → List UInt8)
    (hexdigest : String → String) (sessionTtlSeconds : Nat) : Host where
  lower := lower
  hashPassword password salt :=
    encodedPassword (utf8 salt.toList) (digest (utf8 password.toList) (utf8 salt.toList) pbkdf2Iterations)
  verifyPassword password encoded :=
    decide (verifyPassword (fun password salt count => .ok (digest password salt count)) password encoded = .ok true)
  hashSessionToken := hexdigest
  sessionTtlSeconds := sessionTtlSeconds

theorem security_host_verifies (lower : String → String) (digest : List UInt8 → List UInt8 → Int → List UInt8)
    (hexdigest : String → String) (sessionTtlSeconds : Nat) (password salt : String) :
    (securityHost lower digest hexdigest sessionTtlSeconds).verifyPassword password
      ((securityHost lower digest hexdigest sessionTtlSeconds).hashPassword password salt) = true := by
  apply decide_eq_true
  exact (password_accepted_iff (fun password salt count => .ok (digest password salt count)) password password _
    (utf8 salt.toList) rfl).mpr rfl

-- A digest that tells the salt, the password and the count apart.
def plainDigest : Pbkdf2 := fun password salt count => .ok (salt ++ 0 :: password ++ [0, UInt8.ofNat count.toNat])

theorem password_accepted_iff_secret :
    ∃ encoded, hashPassword plainDigest "secret" [1, 2, 250] = .ok encoded ∧
      ¬ verifyPassword plainDigest "other" encoded = .ok true := by
  refine ⟨_, rfl, fun accepted => ?_⟩
  have same := (password_accepted_iff plainDigest "secret" "other" _ [1, 2, 250] rfl).mp accepted
  revert same
  decide

end DataPilot.Auth
