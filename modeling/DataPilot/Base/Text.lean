import DataPilot.Base.CaseFold
import Mathlib.Data.List.DropRight

set_option autoImplicit false

namespace DataPilot.Base

-- type(exc).__name__ and str(exc) of an exception that is not an exit or a cancellation.
structure PyException where
  typeName : String
  text : String
deriving DecidableEq

-- Python strings are sequences of code points; len counts Chars and slices cut
-- between them. Lone surrogates have no Char and are outside the model.
def isSpace (c : Char) : Bool :=
  (9 ≤ c.toNat && c.toNat ≤ 13) || (28 ≤ c.toNat && c.toNat ≤ 32) || c.toNat == 133 || c.toNat == 160 ||
  c.toNat == 5760 || (8192 ≤ c.toNat && c.toNat ≤ 8202) || c.toNat == 8232 || c.toNat == 8233 ||
  c.toNat == 8239 || c.toNat == 8287 || c.toNat == 12288

def isLineBreak (c : Char) : Bool :=
  (10 ≤ c.toNat && c.toNat ≤ 13) || (28 ≤ c.toNat && c.toNat ≤ 30) || c.toNat == 133 ||
  c.toNat == 8232 || c.toNat == 8233

def strip (s : String) : String :=
  String.ofList ((s.toList.dropWhile isSpace).reverse.dropWhile isSpace).reverse

def slice (s : String) (stop : Nat) : String := String.ofList (s.toList.take stop)

-- str.split() without an argument. The first argument is the word being read,
-- last character first; an empty one means that no word is open.
def splitFrom : List Char → List Char → List (List Char)
  | [], [] => []
  | word, [] => [word.reverse]
  | word, c :: rest =>
      if isSpace c then
        (if word.isEmpty then splitFrom [] rest else word.reverse :: splitFrom [] rest)
      else splitFrom (c :: word) rest

def split (s : String) : List String := (splitFrom [] s.toList).map String.ofList

-- len(s.splitlines()): a line that is cut off by the end of the text counts
-- when it holds at least one character, and "\r\n" is one break.
def lineCountFrom : Bool → List Char → Nat
  | started, [] => if started then 1 else 0
  | _, '\r' :: '\n' :: rest => 1 + lineCountFrom false rest
  | _, c :: rest => if isLineBreak c then 1 + lineCountFrom false rest else lineCountFrom true rest

def lineCount (s : String) : Nat := lineCountFrom false s.toList

-- " ".join(s.casefold().split())
def normalText (s : String) : String := " ".intercalate (split (casefold s))

-- Python's "a or b" on strings: the empty string is false.
def orElseText (a b : String) : String := if a = "" then b else a

-- The same where the first text may also be None.
def textOr (text : Option String) (other : String) : String :=
  match text with
  | none => other
  | some text => orElseText text other

theorem slice_length (s : String) (stop : Nat) : (slice s stop).length ≤ stop := by
  simp only [slice, String.length_ofList, List.length_take]
  exact Nat.min_le_left _ _

theorem slice_prefix (s : String) (stop : Nat) : (slice s stop).toList <+: s.toList := by
  simpa [slice] using List.take_prefix stop s.toList

theorem slice_full (s : String) (stop : Nat) (fits : s.length ≤ stop) : slice s stop = s := by
  have whole : s.toList.take stop = s.toList := List.take_of_length_le (String.length_toList ▸ fits)
  rw [slice, whole, String.ofList_toList]

theorem mem_strip (s : String) (c : Char) (member : c ∈ (strip s).toList) : c ∈ s.toList := by
  rw [strip, String.toList_ofList, List.mem_reverse] at member
  have inner := (List.dropWhile_sublist isSpace).subset member
  exact (List.dropWhile_sublist isSpace).subset (List.mem_reverse.mp inner)

theorem drop_while_front {α : Type} (test : α → Bool) (front items : List α) (starts : front <+: items.dropWhile test) :
    front.dropWhile test = front := by
  cases front with
  | nil => rfl
  | cons item rest =>
      obtain ⟨back, whole⟩ := starts
      have again := List.dropWhile_idempotent test items
      cases passes : test item with
      | false => simp [passes]
      | true =>
          rw [← whole, List.cons_append, List.dropWhile_cons, if_pos passes] at again
          have shorter := congrArg List.length again
          have bound := (List.dropWhile_sublist (l := rest ++ back) test).length_le
          rw [List.length_cons] at shorter
          omega

theorem strip_twice (s : String) : strip (strip s) = strip s := by
  let inner := (s.toList.dropWhile isSpace).reverse.dropWhile isSpace
  have part : inner.reverse <+: s.toList.dropWhile isSpace := by
    have behind := List.reverse_prefix.mpr (List.dropWhile_suffix isSpace (l := (s.toList.dropWhile isSpace).reverse))
    rwa [List.reverse_reverse] at behind
  have front : inner.reverse.dropWhile isSpace = inner.reverse := drop_while_front isSpace _ _ part
  have back : inner.dropWhile isSpace = inner := List.dropWhile_idempotent isSpace _
  have whole : (strip s).toList = inner.reverse := String.toList_ofList
  rw [strip, whole, front, List.reverse_reverse, back]
  rfl

example : normalText "  SELECT\t'A  B'\n" = "select 'a b'" := by decide

end DataPilot.Base
