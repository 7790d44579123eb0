import Mathlib.Algebra.GroupWithZero.Nat
import Mathlib.Algebra.Order.BigOperators.Group.List
import Mathlib.Algebra.Order.Group.Nat
import Mathlib.Data.List.Basic

set_option autoImplicit false

namespace DataPilot.Base

-- value.split("/") and "/".join(parts)
def splitSlash (value : String) : List String := (value.toList.splitOn '/').map String.ofList

def joinSlash (parts : List String) : String := String.ofList (['/'].intercalate (parts.map String.toList))

theorem join_split (value : String) : joinSlash (splitSlash value) = value := by
  have letters : (splitSlash value).map String.toList = value.toList.splitOn '/' := by
    rw [splitSlash, List.map_map]
    exact List.map_id'' (fun part => String.toList_ofList) _
  rw [joinSlash, letters, List.intercalate_splitOn, String.ofList_toList]

theorem split_join (parts : List String) (filled : parts ≠ []) (solid : ∀ part ∈ parts, '/' ∉ part.toList) :
    splitSlash (joinSlash parts) = parts := by
  have apart : ∀ letters ∈ parts.map String.toList, '/' ∉ letters := by
    intro letters member
    obtain ⟨part, inside, rfl⟩ := List.mem_map.mp member
    exact solid part inside
  have whole : parts.map String.toList ≠ [] := fun nothing => filled (List.map_eq_nil_iff.mp nothing)
  rw [splitSlash, joinSlash, String.toList_ofList, List.splitOn_intercalate '/' apart whole, List.map_map]
  exact List.map_id'' (fun part => String.ofList_toList) _

theorem split_injective (one other : String) (same : splitSlash one = splitSlash other) : one = other := by
  rw [← join_split one, ← join_split other, same]

theorem split_some (value : String) : splitSlash value ≠ [] := by
  rw [splitSlash]
  exact fun none => List.splitOn_ne_nil '/' value.toList (List.map_eq_nil_iff.mp none)

theorem split_solid (letters : List Char) : ∀ part ∈ letters.splitOn '/', '/' ∉ part := by
  induction letters with
  | nil => simp
  | cons c rest ih =>
      rw [List.splitOn_cons_eq_if_modifyHead]
      by_cases slash : (c == '/') = true
      · rw [if_pos slash]
        exact List.forall_mem_cons.mpr ⟨List.not_mem_nil, ih⟩
      · rw [if_neg slash]
        cases parts : rest.splitOn '/' with
        | nil => simp
        | cons first others =>
            rw [parts] at ih
            obtain ⟨solid, later⟩ := List.forall_mem_cons.mp ih
            refine List.forall_mem_cons.mpr ⟨?_, later⟩
            rw [List.mem_cons, not_or]
            exact ⟨fun same => slash (by rw [← same]; rfl), solid⟩

theorem mem_join (parts : List String) (c : Char) :
    c ∈ (joinSlash parts).toList → c = '/' ∨ ∃ part ∈ parts, c ∈ part.toList := by
  rw [joinSlash, String.toList_ofList]
  induction parts with
  | nil => simp
  | cons first rest ih =>
      intro member
      cases rest with
      | nil =>
          rw [List.map_singleton, List.intercalate_singleton] at member
          exact .inr ⟨first, List.mem_cons_self .., member⟩
      | cons second others =>
          rw [List.map_cons, List.map_cons, List.intercalate_cons_cons, ← List.map_cons, List.mem_append,
            List.mem_append] at member
          rcases member with (here | slash) | later
          · exact .inr ⟨first, List.mem_cons_self .., here⟩
          · exact .inl (List.mem_singleton.mp slash)
          · rcases ih later with slash | ⟨part, inside, letter⟩
            · exact .inl slash
            · exact .inr ⟨part, List.mem_cons_of_mem _ inside, letter⟩

theorem join_mem (parts : List String) (part : String) (c : Char) (inside : part ∈ parts) (letter : c ∈ part.toList) :
    c ∈ (joinSlash parts).toList := by
  rw [joinSlash, String.toList_ofList]
  induction parts with
  | nil => cases inside
  | cons first rest ih =>
      cases rest with
      | nil =>
          rw [List.map_singleton, List.intercalate_singleton, ← List.mem_singleton.mp inside]
          exact letter
      | cons second others =>
          rw [List.map_cons, List.map_cons, List.intercalate_cons_cons, ← List.map_cons, List.mem_append, List.mem_append]
          rcases List.mem_cons.mp inside with rfl | later
          · exact .inl (.inl letter)
          · exact .inr (ih later)

theorem mem_split (value part : String) (c : Char) (inside : part ∈ splitSlash value) (letter : c ∈ part.toList) :
    c ∈ value.toList := by
  have joined := join_mem (splitSlash value) part c inside letter
  rwa [join_split] at joined

-- PurePosixPath: an optional root, two slashes being a root of their own, and the
-- parts that are left when empty ones and "." are dropped.
structure PurePosixPath where
  root : String
  tail : List String
deriving DecidableEq

def posixRoot (value : String) : String :=
  match (value.toList.takeWhile fun c => decide (c = '/')).length with
  | 0 => ""
  | 2 => "//"
  | _ => "/"

def posixPath (value : String) : PurePosixPath :=
  ⟨posixRoot value, (splitSlash value).filter fun part => decide (part ≠ "") && decide (part ≠ ".")⟩

def PurePosixPath.parts (path : PurePosixPath) : List String := if path.root = "" then path.tail else path.root :: path.tail

def PurePosixPath.isAbsolute (path : PurePosixPath) : Bool := decide (path.root ≠ "")

def PurePosixPath.asPosix (path : PurePosixPath) : String :=
  if path.root = "" then if path.tail = [] then "." else joinSlash path.tail else path.root ++ joinSlash path.tail

def PurePosixPath.name (path : PurePosixPath) : String := path.tail.getLast?.getD ""

-- PurePath.suffix: from the last dot on, unless the name starts or ends with it.
def nameSuffix (name : String) : String :=
  let after := (name.toList.reverse.takeWhile fun c => decide (c ≠ '.')).reverse
  if after = [] ∨ name.length ≤ after.length + 1 then "" else String.ofList ('.' :: after)

def PurePosixPath.suffix (path : PurePosixPath) : String := nameSuffix path.name

-- A component as the system calls see it: a name, or "..".
structure Plain (part : String) : Prop where
  filled : part ≠ ""
  moving : part ≠ "."
  solid : '/' ∉ part.toList

theorem tail_plain (value : String) : ∀ part ∈ (posixPath value).tail, Plain part := by
  intro part member
  obtain ⟨inside, kept⟩ := List.mem_filter.mp member
  rw [Bool.and_eq_true, decide_eq_true_iff, decide_eq_true_iff] at kept
  obtain ⟨letters, split, rfl⟩ := List.mem_map.mp inside
  refine ⟨kept.1, kept.2, ?_⟩
  rw [String.toList_ofList]
  exact split_solid value.toList letters split

theorem plain_filter (parts : List String) (plain : ∀ part ∈ parts, Plain part) :
    (parts.filter fun part => decide (part ≠ "") && decide (part ≠ ".")) = parts := by
  rw [List.filter_eq_self]
  intro part member
  rw [decide_eq_true (plain part member).filled, decide_eq_true (plain part member).moving]
  rfl

theorem plain_first (part : String) (plain : Plain part) : ∃ c rest, part.toList = c :: rest ∧ c ≠ '/' := by
  cases letters : part.toList with
  | nil => exact absurd (String.toList_eq_nil_iff.mp letters) plain.filled
  | cons c rest =>
      refine ⟨c, rest, rfl, fun slash => plain.solid ?_⟩
      rw [letters, slash]
      exact List.mem_cons_self ..

theorem root_join (parts : List String) (filled : parts ≠ []) (plain : ∀ part ∈ parts, Plain part) :
    posixRoot (joinSlash parts) = "" := by
  cases parts with
  | nil => exact absurd rfl filled
  | cons part rest =>
      obtain ⟨c, others, letters, different⟩ := plain_first part (plain part (List.mem_cons_self ..))
      have starts : ∃ tail, (joinSlash (part :: rest)).toList = c :: tail := by
        rw [joinSlash, String.toList_ofList, List.map_cons, letters]
        cases rest.map String.toList with
        | nil => exact ⟨_, List.intercalate_singleton ..⟩
        | cons second later => exact ⟨_, rfl⟩
      obtain ⟨tail, starts⟩ := starts
      rw [posixRoot, starts, List.takeWhile_cons, decide_eq_false different]
      rfl

theorem posix_join (parts : List String) (filled : parts ≠ []) (plain : ∀ part ∈ parts, Plain part) :
    posixPath (joinSlash parts) = ⟨"", parts⟩ := by
  rw [posixPath, root_join parts filled plain, split_join parts filled fun part member => (plain part member).solid,
    plain_filter parts plain]

theorem join_length (parts : List String) :
    (joinSlash parts).length = (parts.map fun part => part.length + 1).sum - 1 := by
  rw [joinSlash, String.length_ofList]
  cases parts with
  | nil => rfl
  | cons first rest =>
      induction rest generalizing first with
      | nil => rw [List.map_singleton, List.intercalate_singleton, String.length_toList, List.map_singleton,
          List.sum_singleton, Nat.add_sub_cancel]
      | cons second rest ih =>
          have later := ih second
          simp only [List.map_cons, List.sum_cons] at later ⊢
          rw [List.intercalate_cons_cons, List.length_append, List.length_append, later, String.length_toList,
            List.length_singleton]
          omega

theorem posix_length (value : String) : (joinSlash (posixPath value).tail).length ≤ value.length := by
  have shorter : (posixPath value).tail.Sublist (splitSlash value) := List.filter_sublist
  have total := (shorter.map fun part => part.length + 1).sum_le_sum fun _ _ => Nat.zero_le _
  have whole := join_length (splitSlash value)
  rw [join_split] at whole
  rw [join_length, whole]
  omega

end DataPilot.Base
