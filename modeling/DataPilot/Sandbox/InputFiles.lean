import DataPilot.Base.Base64
import DataPilot.Base.JsonMerged
import DataPilot.Base.PosixPath
import DataPilot.Base.Utf8

set_option autoImplicit false

namespace DataPilot.Sandbox

open DataPilot.Base

inductive InputContent where
  | text (value : String)
  | bytes (value : List UInt8)

-- content if isinstance(content, bytes) else content.encode("utf-8")
def InputContent.raw : InputContent → List UInt8
  | .text value => utf8 value.toList
  | .bytes value => value

-- A mapping of paths, in its order.
structure InputFiles where
  entries : List (String × InputContent)
  distinct : (entries.map Prod.fst).Nodup

structure SandboxDatasetMount where
  datasetId : String
  targetName : String

structure PayloadLimits where
  maxCodeChars : Nat
  maxCodeLines : Nat
  maxInputBytes : Nat

def maxDatasetMounts : Nat := 5

-- relative_path.replace("\\", "/")
def slashed (c : Char) : Char := if c = '\\' then '/' else c

def withSlashes (value : String) : String := String.ofList (value.toList.map slashed)

def validateRelativePath (relativePath : String) : Except PyException Unit :=
  let parts := splitSlash (withSlashes relativePath)
  if relativePath = "" ∨ relativePath.toList.head? = some '/' ∨ (parts.any fun part => part ∈ ["", ".", ".."]) = true then
    .error ⟨"ValueError", s!"Invalid sandbox input path: {relativePath}"⟩
  else if parts.head? = some "main.py" then .error ⟨"ValueError", "Input files must not overwrite main.py."⟩
  else .ok ()

-- The loop of _validate_payload, from the bytes counted so far.
def countInputBytes : List (String × InputContent) → Nat → Except PyException Nat
  | [], total => .ok total
  | (relativePath, content) :: rest, total =>
      match validateRelativePath relativePath with
      | .error failure => .error failure
      | .ok () => countInputBytes rest (total + content.raw.length)

-- The message for the caller, or none for a payload that is taken.
def validatePayload (limits : PayloadLimits) (code : String) (files : InputFiles) (mounts : List SandboxDatasetMount) :
    Except PyException (Option String) :=
  if strip code = "" then .ok (some "Python code must not be empty.")
  else if limits.maxCodeChars < code.length then .ok (some s!"Python code exceeds {limits.maxCodeChars} characters.")
  else if limits.maxCodeLines < lineCount code then
    .ok (some s!"Python code exceeds {limits.maxCodeLines} lines and requires manual review.")
  else
    match countInputBytes files.entries 0 with
    | .error failure => .error failure
    | .ok total =>
        if limits.maxInputBytes < total then .ok (some s!"Sandbox input files exceed {limits.maxInputBytes} bytes.")
        else if maxDatasetMounts < mounts.length then
          .ok (some s!"Sandbox supports at most {maxDatasetMounts} dataset mounts.")
        else if ¬ (mounts.map SandboxDatasetMount.targetName).Nodup then
          .ok (some "Sandbox dataset mount names must be unique.")
        else if ¬ (mounts.map SandboxDatasetMount.datasetId).Nodup then
          .ok (some "Sandbox dataset mounts must reference unique datasets.")
        else .ok none

def encodedText (raw : List UInt8) : String := String.ofList (b64encode raw)

def encodedFields (files : InputFiles) : Dict := files.entries.map fun entry => (entry.1, .str (encodedText entry.2.raw))

def encodeInputFiles (files : InputFiles) : String :=
  encodedText (utf8 (dumps ⟨true, false⟩ (.obj (encodedFields files))).toList)

-- SANDBOX_CODE_B64
def encodeCode (code : String) : String := encodedText (utf8 code.toList)

theorem slashed_parts (letters : List Char) :
    (∀ first, (letters.splitOn '/').head? = some first → '\\' ∉ first →
        ((letters.map slashed).splitOn '/').head? = some first) ∧
      ∀ part ∈ (letters.splitOn '/').tail, '\\' ∉ part → part ∈ ((letters.map slashed).splitOn '/').tail := by
  induction letters with
  | nil => simp
  | cons c rest ih =>
      obtain ⟨head, tail⟩ := ih
      have whole : ∀ part ∈ rest.splitOn '/', '\\' ∉ part → part ∈ (rest.map slashed).splitOn '/' := by
        intro part member clean
        cases parts : rest.splitOn '/' with
        | nil => exact absurd parts (List.splitOn_ne_nil '/' rest)
        | cons first others =>
            rw [parts] at member head tail
            rcases List.mem_cons.mp member with rfl | later
            · exact List.mem_of_mem_head? (head part rfl clean)
            · exact List.mem_of_mem_tail (tail part later clean)
      rw [List.map_cons, List.splitOn_cons_eq_if_modifyHead, List.splitOn_cons_eq_if_modifyHead]
      by_cases slash : c = '/'
      · subst slash
        exact ⟨fun first found _ => found, whole⟩
      · rw [if_neg (by simpa using slash)]
        by_cases back : c = '\\'
        · subst back
          constructor
          · intro first found clean
            cases parts : rest.splitOn '/' with
            | nil => exact absurd parts (List.splitOn_ne_nil '/' rest)
            | cons start others =>
                rw [parts] at found
                cases found
                exact absurd (List.mem_cons_self ..) clean
          · intro part member clean
            cases parts : rest.splitOn '/' with
            | nil => exact absurd parts (List.splitOn_ne_nil '/' rest)
            | cons start others =>
                rw [parts] at member whole
                exact whole part (List.mem_cons_of_mem _ member) clean
        · rw [slashed, if_neg back, if_neg (by simpa using slash)]
          cases parts : rest.splitOn '/' with
          | nil => exact absurd parts (List.splitOn_ne_nil '/' rest)
          | cons start others =>
              cases replaced : (rest.map slashed).splitOn '/' with
              | nil => exact absurd replaced (List.splitOn_ne_nil '/' (rest.map slashed))
              | cons other later =>
                  rw [parts, replaced] at head tail
                  constructor
                  · intro first found clean
                    cases found
                    have same := head start rfl fun member => clean (List.mem_cons_of_mem _ member)
                    cases same
                    rfl
                  · exact tail

theorem slashed_part (value part : String) (member : part ∈ splitSlash value) (clean : '\\' ∉ part.toList) :
    part ∈ splitSlash (withSlashes value) := by
  obtain ⟨letters, inside, rfl⟩ := List.mem_map.mp member
  rw [String.toList_ofList] at clean
  obtain ⟨head, tail⟩ := slashed_parts value.toList
  rw [splitSlash, withSlashes, String.toList_ofList]
  apply List.mem_map_of_mem
  cases parts : value.toList.splitOn '/' with
  | nil => exact absurd parts (List.splitOn_ne_nil '/' value.toList)
  | cons first others =>
      rw [parts] at inside head tail
      rcases List.mem_cons.mp inside with rfl | later
      · exact List.mem_of_mem_head? (head letters rfl clean)
      · exact List.mem_of_mem_tail (tail letters later clean)

theorem slashed_first (value part : String) (first : (splitSlash value).head? = some part) (clean : '\\' ∉ part.toList) :
    (splitSlash (withSlashes value)).head? = some part := by
  rw [splitSlash, List.head?_map, Option.map_eq_some_iff] at first
  obtain ⟨letters, found, rfl⟩ := first
  rw [String.toList_ofList] at clean
  rw [splitSlash, withSlashes, String.toList_ofList, List.head?_map, (slashed_parts value.toList).1 letters found clean]
  rfl

-- A path that the backend takes, cut at its slashes only.
structure InputPath (value : String) : Prop where
  plain : ∀ part ∈ splitSlash value, Plain part ∧ part ≠ ".."
  first : (splitSlash value).head? ≠ some "main.py"

theorem validated_input_path (value : String) (accepted : validateRelativePath value = .ok ()) : InputPath value := by
  rw [validateRelativePath] at accepted
  split_ifs at accepted with invalid main
  rw [not_or, not_or] at invalid
  have dots : ∀ part ∈ splitSlash value, part ∉ ["", ".", ".."] := by
    intro part member bad
    have clean : '\\' ∉ part.toList := by
      rcases List.mem_cons.mp bad with rfl | bad
      · decide
      · rcases List.mem_cons.mp bad with rfl | bad
        · decide
        · rw [List.mem_singleton.mp bad]
          decide
    exact invalid.2.2 (List.any_eq_true.mpr ⟨part, slashed_part value part member clean, decide_eq_true bad⟩)
  constructor
  · intro part member
    have other := dots part member
    simp only [List.mem_cons, List.not_mem_nil, or_false, not_or] at other
    obtain ⟨letters, inside, rfl⟩ := List.mem_map.mp member
    refine ⟨⟨other.1, other.2.1, ?_⟩, other.2.2⟩
    rw [String.toList_ofList]
    exact split_solid value.toList letters inside
  · exact fun first => main (slashed_first value "main.py" first (by decide))

theorem counted_paths (entries : List (String × InputContent)) (start total : Nat)
    (counted : countInputBytes entries start = .ok total) : ∀ entry ∈ entries, validateRelativePath entry.1 = .ok () := by
  induction entries generalizing start with
  | nil => simp
  | cons entry rest ih =>
      rw [countInputBytes] at counted
      cases checked : validateRelativePath entry.1 with
      | error failure =>
          rw [checked] at counted
          cases counted
      | ok checkedPath =>
          rw [checked] at counted
          exact List.forall_mem_cons.mpr ⟨checked, ih _ counted⟩

theorem accepted_paths (limits : PayloadLimits) (code : String) (files : InputFiles) (mounts : List SandboxDatasetMount)
    (accepted : validatePayload limits code files mounts = .ok none) : ∀ entry ∈ files.entries, InputPath entry.1 := by
  intro entry member
  rw [validatePayload] at accepted
  cases counted : countInputBytes files.entries 0 with
  | ok total => exact validated_input_path entry.1 (counted_paths files.entries 0 total counted entry member)
  | error failure =>
      rw [counted] at accepted
      exfalso
      by_cases empty : strip code = ""
      · rw [if_pos empty] at accepted
        cases accepted
      · rw [if_neg empty] at accepted
        by_cases long : limits.maxCodeChars < code.length
        · rw [if_pos long] at accepted
          cases accepted
        · rw [if_neg long] at accepted
          by_cases lines : limits.maxCodeLines < lineCount code
          · rw [if_pos lines] at accepted
            cases accepted
          · rw [if_neg lines] at accepted
            cases accepted

theorem accepted_code (limits : PayloadLimits) (code : String) (files : InputFiles) (mounts : List SandboxDatasetMount)
    (accepted : validatePayload limits code files mounts = .ok none) : code ≠ "" := by
  rintro rfl
  rw [validatePayload, if_pos (by decide)] at accepted
  cases accepted

end DataPilot.Sandbox
