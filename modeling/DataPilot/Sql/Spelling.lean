import DataPilot.Base.Text

set_option autoImplicit false

namespace DataPilot.Sql

open DataPilot.Base

-- What a reader of SQL tells characters apart by.
inductive CharClass where
  | quote
  | doubleQuote
  | dash
  | slash
  | star
  | lineEnd
  | space
  | digit
  | word
  | symbol
deriving DecidableEq

def charClass (c : Char) : CharClass :=
  if c = '\'' then .quote
  else if c = '"' then .doubleQuote
  else if c = '-' then .dash
  else if c = '/' then .slash
  else if c = '*' then .star
  else if c = '\n' ∨ c = '\r' then .lineEnd
  else if isSpace c then .space
  else if c.isDigit then .digit
  else if c.isAlpha ∨ c = '_' ∨ 128 ≤ c.toNat then .word
  else .symbol

inductive Kind where
  | word
  | number
  | symbol
  | quoted
  | comment
  | gap
deriving DecidableEq

inductive Mode where
  | plain
  | word
  | number
  | quoted
  | doubleQuoted
  | line
  | opening
  | block
  | closing
deriving DecidableEq

-- Standard SQL outside quotes and comments.
def nextPlain (mode : Mode) (peek : Option CharClass) : CharClass → Kind × Mode
  | .quote => (.quoted, .quoted)
  | .doubleQuote => (.quoted, .doubleQuoted)
  | .dash => if peek = some .dash then (.comment, .line) else (.symbol, .plain)
  | .slash => if peek = some .star then (.comment, .opening) else (.symbol, .plain)
  | .lineEnd => (.gap, .plain)
  | .space => (.gap, .plain)
  | .digit => if mode = .word then (.word, .word) else (.number, .number)
  | .word => if mode = .number then (.number, .number) else (.word, .word)
  | .star => (.symbol, .plain)
  | .symbol => (.symbol, .plain)

-- The kind of a character and the mode after it. A doubled quote closes a text
-- and opens the next one.
def nextMode (mode : Mode) (peek : Option CharClass) (cls : CharClass) : Kind × Mode :=
  match mode with
  | .quoted => (.quoted, if cls = .quote then .plain else .quoted)
  | .doubleQuoted => (.quoted, if cls = .doubleQuote then .plain else .doubleQuoted)
  | .line => if cls = .lineEnd then (.gap, .plain) else (.comment, .line)
  | .opening => (.comment, .block)
  | .block => (.comment, if cls = .star ∧ peek = some .slash then .closing else .block)
  | .closing => (.comment, if cls = .slash then .plain else .closing)
  | _ => nextPlain mode peek cls

abbrev Mark := Kind × Char

def marks : Mode → List Char → List Mark
  | _, [] => []
  | mode, c :: rest =>
      let read := nextMode mode (rest.head?.map charClass) (charClass c)
      (read.1, c) :: marks read.2 rest

-- The marks of a text all of whose characters are folded.
def foldMarks (marked : List Mark) : List Mark :=
  marked.flatMap fun mark => (casefoldChar mark.2).map fun folded => (mark.1, folded)

-- " ".join(s.split()). It may move the end of a line comment.
def oneLine (s : String) : String := " ".intercalate (split s)

-- The two texts, each on one line, have the same quotes, comments, words and
-- symbols up to the letter case of all of them.
def FoldAlike (first second : String) : Prop :=
  foldMarks (marks .plain (oneLine first).toList) = foldMarks (marks .plain (oneLine second).toList)

instance (first second : String) : Decidable (FoldAlike first second) := decEq _ _

def separate : List Mark → List Mark
  | [] => []
  | (.gap, c) :: rest => (.gap, c) :: rest
  | marked => (.gap, ' ') :: marked

def spelledMarks : List Mark → List Mark
  | [] => []
  | (.gap, _) :: rest => separate (spelledMarks rest)
  | (.comment, _) :: rest => separate (spelledMarks rest)
  | (.word, c) :: rest => (.word, simpleFold c) :: spelledMarks rest
  | mark :: rest => mark :: spelledMarks rest

-- How a text is spelled: every character counts, except the letter case of
-- words, the amount of white space and comments.
def spelled (text : String) : List Mark :=
  match spelledMarks (marks .plain text.toList) with
  | (.gap, _) :: rest => rest
  | marked => marked

section Folding

def wordCode (code : Nat) : Bool := charClass (Char.ofNat code) == .word

theorem expansions_words :
    foldExpansions.all (fun entry => wordCode entry.1 && !entry.2.isEmpty && entry.2.all wordCode) = true := by
  decide +kernel

theorem wide_word (c : Char) (wide : 128 ≤ c.toNat) (letter : isSpace c = false) : charClass c = .word := by
  have apart (other : Char) (small : other.toNat < 128) : c ≠ other := by
    rintro rfl
    omega
  have digitless : ¬ c.isDigit = true := by
    simp only [Char.isDigit, Bool.and_eq_true, decide_eq_true_eq, not_and, UInt32.le_iff_toNat_le]
    intro _ upper
    exact absurd (Nat.le_trans wide upper) (by decide)
  have breakless : ¬ (c = '\n' ∨ c = '\r') := not_or.mpr ⟨apart '\n' (by decide), apart '\r' (by decide)⟩
  have unspaced : ¬ isSpace c = true := by simp [letter]
  rw [charClass, if_neg (apart '\'' (by decide)), if_neg (apart '"' (by decide)), if_neg (apart '-' (by decide)),
    if_neg (apart '/' (by decide)), if_neg (apart '*' (by decide)), if_neg breakless, if_neg unspaced, if_neg digitless,
    if_pos (.inr (.inr wide))]

def wideSpaces : List (Nat × Nat) :=
  [(133, 133), (160, 160), (5760, 5760), (8192, 8202), (8232, 8233), (8239, 8239), (8287, 8287), (12288, 12288)]

-- No code from the first to the last is a surrogate, white space or ASCII.
def lettersOnly (first last : Nat) : Bool :=
  128 ≤ first && (last < 55296 || 57343 < first && last < 1114112) &&
    wideSpaces.all fun gap => last < gap.1 || gap.2 < first

theorem letters_word (first last code : Nat) (letters : lettersOnly first last = true) (lower : first ≤ code)
    (upper : code ≤ last) : wordCode code = true := by
  simp only [lettersOnly, wideSpaces, List.all_cons, List.all_nil, Bool.and_eq_true, Bool.or_eq_true, decide_eq_true_eq,
    and_true] at letters
  have valid : code.isValidChar := by
    unfold Nat.isValidChar
    omega
  have same : (Char.ofNat code).toNat = code := by
    rw [Char.ofNat, dif_pos valid]
    rfl
  have letter : isSpace (Char.ofNat code) = false := by
    simp only [isSpace, same, Bool.or_eq_false_iff, Bool.and_eq_false_iff, decide_eq_false_iff_not, beq_eq_false_iff_ne]
    omega
  rw [wordCode, wide_word _ (by omega) letter]
  rfl

theorem runs_words : foldRuns.all (fun run => lettersOnly run.1 run.2.1 &&
    (lettersOnly run.2.2.2 (run.2.1 - run.1 + run.2.2.2) || run.1 == run.2.1 && wordCode run.2.2.2)) = true := by
  decide +kernel

theorem run_words (run : Nat × Nat × Nat × Nat) (listed : run ∈ foldRuns) (code : Nat) (lower : run.1 ≤ code)
    (upper : code ≤ run.2.1) : wordCode code = true ∧ wordCode (code - run.1 + run.2.2.2) = true := by
  have checked := List.all_eq_true.mp runs_words run listed
  simp only [Bool.and_eq_true, Bool.or_eq_true, beq_iff_eq] at checked
  refine ⟨letters_word _ _ _ checked.1 lower upper, ?_⟩
  rcases checked.2 with letters | ⟨single, word⟩
  · exact letters_word _ _ _ letters (by omega) (by omega)
  · have first : code - run.1 = 0 := by omega
    rwa [first, Nat.zero_add]

-- A character folds to itself, or is a letter that folds to letters.
def FoldsWords (c : Char) : Prop :=
  casefoldChar c = [c] ∨
    (charClass c = .word ∧ casefoldChar c ≠ [] ∧ ∀ folded ∈ casefoldChar c, charClass folded = .word)

theorem capitals_words : ∀ offset < 26, wordCode (65 + offset) = true ∧ wordCode (97 + offset) = true := by
  decide

theorem ascii_folds (c : Char) (small : c.toNat < 128) : FoldsWords c := by
  have folded : casefoldChar c = [if c.isUpper then Char.ofNat (c.toNat + 32) else c] := if_pos small
  unfold FoldsWords
  rw [folded]
  by_cases upper : c.isUpper = true
  · have capital : 'A'.val ≤ c.val ∧ c.val ≤ 'Z'.val := of_decide_eq_true upper
    have range : 65 ≤ c.toNat ∧ c.toNat ≤ 90 :=
      ⟨UInt32.le_iff_toNat_le.mp capital.1, UInt32.le_iff_toNat_le.mp capital.2⟩
    rw [if_pos upper]
    have words := capitals_words (c.toNat - 65) (by omega)
    rw [show 65 + (c.toNat - 65) = c.toNat by omega, show 97 + (c.toNat - 65) = c.toNat + 32 by omega] at words
    simp only [wordCode, beq_iff_eq, Char.ofNat_toNat] at words
    exact .inr ⟨words.1, by simp, by simpa using words.2⟩
  · rw [if_neg upper]
    exact .inl rfl

theorem wide_folds (c : Char) (wide : 128 ≤ c.toNat) : FoldsWords c := by
  have unfolded : casefoldChar c = (foldCode c.toNat).map Char.ofNat := if_neg (Nat.not_lt.mpr wide)
  unfold FoldsWords
  rw [unfolded, foldCode]
  cases expanded : foldExpansions.lookup c.toNat with
  | some image =>
      obtain ⟨before, after, split, _⟩ := List.lookup_eq_some_iff.mp expanded
      have listed := List.all_eq_true.mp expansions_words (c.toNat, image) (by simp [split])
      simp only [Bool.and_eq_true, wordCode, Char.ofNat_toNat, beq_iff_eq, List.all_eq_true] at listed
      refine .inr ⟨listed.1.1, ?_, ?_⟩
      · intro empty
        simp [List.map_eq_nil_iff.mp empty] at listed
      · intro folded member
        obtain ⟨code, inside, rfl⟩ := List.mem_map.mp member
        exact listed.2 code inside
  | none =>
      dsimp only
      cases found : foldRuns.find? (inRun c.toNat) with
      | none => exact .inl (by simp)
      | some run =>
          have inside := List.find?_some found
          simp only [inRun, Bool.and_eq_true, decide_eq_true_eq] at inside
          have words := run_words run (List.mem_of_find?_eq_some found) c.toNat inside.1.1 inside.1.2
          simp only [wordCode, beq_iff_eq, Char.ofNat_toNat] at words
          exact .inr ⟨words.1, by simp, by simpa using words.2⟩

theorem folds_words (c : Char) : FoldsWords c := by
  by_cases small : c.toNat < 128
  · exact ascii_folds c small
  · exact wide_folds c (Nat.not_lt.mp small)

theorem next_word (mode : Mode) (peek : Option CharClass) : nextMode mode peek .word = nextMode mode none .word := by
  cases mode <;> rfl

theorem next_word_twice (mode : Mode) : nextMode (nextMode mode none .word).2 none .word = nextMode mode none .word := by
  cases mode <;> rfl

theorem marks_words (mode : Mode) (first : Char) (letters rest : List Char)
    (words : ∀ letter ∈ first :: letters, charClass letter = .word) :
    marks mode (first :: letters ++ rest) =
      (first :: letters).map (fun letter => ((nextMode mode none .word).1, letter)) ++
        marks (nextMode mode none .word).2 rest := by
  induction letters generalizing mode first with
  | nil =>
      rw [List.cons_append, List.nil_append, marks, words first (by simp), next_word]
      rfl
  | cons second letters ih =>
      have again := ih (nextMode mode none .word).2 second fun letter member => words letter (List.mem_cons_of_mem _ member)
      rw [next_word_twice] at again
      rw [List.cons_append, marks, words first (by simp), next_word, again]
      rfl

theorem folded_head (rest : List Char) :
    (rest.flatMap casefoldChar).head?.map charClass = rest.head?.map charClass := by
  cases rest with
  | nil => rfl
  | cons c rest =>
      rw [List.flatMap_cons]
      rcases folds_words c with same | ⟨word, some, words⟩
      · rw [same]
        rfl
      · obtain ⟨first, letters, folded⟩ := List.exists_cons_of_ne_nil some
        rw [folded] at words ⊢
        simp [words first (by simp), word]

theorem marks_folded (mode : Mode) (text : List Char) :
    marks mode (text.flatMap casefoldChar) = foldMarks (marks mode text) := by
  induction text generalizing mode with
  | nil => rfl
  | cons c rest ih =>
      rw [List.flatMap_cons, marks, foldMarks, List.flatMap_cons, ← foldMarks, ← ih]
      rcases folds_words c with same | ⟨word, some, words⟩
      · rw [same, List.singleton_append, marks, folded_head]
        rfl
      · obtain ⟨first, letters, folded⟩ := List.exists_cons_of_ne_nil some
        rw [folded] at words ⊢
        rw [marks_words mode first letters _ words, word, next_word mode (rest.head?.map charClass)]

theorem marks_text (mode : Mode) (text : List Char) : (marks mode text).map Prod.snd = text := by
  induction text generalizing mode with
  | nil => rfl
  | cons c rest ih => rw [marks, List.map_cons, ih]

theorem fold_marks_text (marked : List Mark) :
    (foldMarks marked).map Prod.snd = (marked.map Prod.snd).flatMap casefoldChar := by
  induction marked with
  | nil => rfl
  | cons mark rest ih =>
      rw [foldMarks, List.flatMap_cons, List.map_append, ← foldMarks, ih, List.map_map, List.map_cons, List.flatMap_cons]
      congr 1
      exact List.map_id _

theorem fold_alike_iff (first second : String) :
    FoldAlike first second ↔ casefold (oneLine first) = casefold (oneLine second) := by
  rw [casefold, casefold, String.ofList_inj, FoldAlike]
  constructor
  · intro alike
    have texts := congrArg (List.map Prod.snd) alike
    rwa [fold_marks_text, fold_marks_text, marks_text, marks_text] at texts
  · intro same
    rw [← marks_folded, ← marks_folded, same]

end Folding

section OneLine

theorem class_space (c : Char) (space : isSpace c = true) : charClass c ≠ .word := by
  unfold charClass
  split_ifs <;> simp_all

theorem space_folds (c : Char) (space : isSpace c = true) : casefoldChar c = [c] := by
  rcases folds_words c with same | ⟨word, _⟩
  · exact same
  · exact absurd word (class_space c space)

theorem letters_folded (c : Char) (letter : isSpace c = false) : ∀ folded ∈ casefoldChar c, isSpace folded = false := by
  intro folded member
  rcases folds_words c with same | ⟨_, _, words⟩
  · rw [same, List.mem_singleton] at member
    rwa [member]
  · by_contra space
    exact class_space folded (by simpa using space) (words folded member)

theorem split_from_end (word : List Char) : splitFrom word [] = if word.isEmpty then [] else [word.reverse] := by
  cases word <;> rfl

theorem split_from_cons (word rest : List Char) (c : Char) :
    splitFrom word (c :: rest) =
      if isSpace c then (if word.isEmpty then splitFrom [] rest else word.reverse :: splitFrom [] rest)
      else splitFrom (c :: word) rest := by
  cases word <;> rfl

theorem split_letters (word letters rest : List Char) (plain : ∀ letter ∈ letters, isSpace letter = false) :
    splitFrom word (letters ++ rest) = splitFrom (letters.reverse ++ word) rest := by
  induction letters generalizing word with
  | nil => rfl
  | cons letter letters ih =>
      have here := plain letter (by simp)
      rw [List.cons_append, split_from_cons, if_neg (by simp [here]),
        ih _ fun other member => plain other (by simp [member])]
      simp

theorem fold_empty (word : List Char) : word.flatMap casefoldChar = [] ↔ word = [] := by
  constructor
  · intro empty
    cases word with
    | nil => rfl
    | cons c rest =>
        rw [List.flatMap_cons, List.append_eq_nil_iff] at empty
        rcases folds_words c with same | ⟨_, some, _⟩
        · simp [same] at empty
        · exact absurd empty.1 some
  · rintro rfl
    rfl

theorem split_from_folded (word text : List Char) :
    splitFrom (word.reverse.flatMap casefoldChar).reverse (text.flatMap casefoldChar) =
      (splitFrom word text).map fun read => read.flatMap casefoldChar := by
  have open_iff : (word.reverse.flatMap casefoldChar).reverse.isEmpty = word.isEmpty := by
    rw [Bool.eq_iff_iff, List.isEmpty_iff, List.isEmpty_iff, List.reverse_eq_nil_iff, fold_empty, List.reverse_eq_nil_iff]
  induction text generalizing word with
  | nil =>
      rw [List.flatMap_nil, split_from_end, split_from_end, open_iff]
      cases word.isEmpty <;> simp
  | cons c rest ih =>
      rw [List.flatMap_cons]
      cases space : isSpace c with
      | true =>
          have fresh := ih [] rfl
          rw [List.reverse_nil, List.flatMap_nil, List.reverse_nil] at fresh
          rw [space_folds c space, List.singleton_append, split_from_cons, split_from_cons, if_pos space, if_pos space,
            open_iff, fresh]
          cases word.isEmpty <;> simp
      | false =>
          rw [split_letters _ _ _ (letters_folded c space), split_from_cons, if_neg (by simp [space])]
          have longer := ih (c :: word) ?_
          · rwa [List.reverse_cons, List.flatMap_append, List.flatMap_singleton, List.reverse_append] at longer
          · rw [Bool.eq_iff_iff, List.isEmpty_iff, List.isEmpty_iff, List.reverse_eq_nil_iff, fold_empty,
              List.reverse_eq_nil_iff]

theorem casefold_join (words : List String) :
    casefold (" ".intercalate words) = " ".intercalate (words.map casefold) := by
  induction words with
  | nil => rfl
  | cons word rest ih =>
      cases rest with
      | nil => rw [String.intercalate_singleton, List.map_singleton, String.intercalate_singleton]
      | cons second rest =>
          rw [String.intercalate_cons_cons, List.map_cons, List.map_cons, String.intercalate_cons_cons, ← List.map_cons, ← ih,
            casefold_append, casefold_append]
          rfl

theorem normal_text_one_line (text : String) : normalText text = casefold (oneLine text) := by
  have folded := split_from_folded [] text.toList
  rw [List.reverse_nil, List.flatMap_nil, List.reverse_nil] at folded
  have words : casefold ∘ String.ofList = String.ofList ∘ fun read => read.flatMap casefoldChar := by
    funext read
    simp [casefold]
  rw [normalText, oneLine, casefold_join, split, split, List.map_map, words, ← List.map_map, ← folded, casefold,
    String.toList_ofList]

-- The normal form merges two texts exactly when they agree, on one line, in
-- everything but the case of letters, those in quotes and comments included.
theorem normal_text_iff (first second : String) : normalText first = normalText second ↔ FoldAlike first second := by
  rw [normal_text_one_line, normal_text_one_line, fold_alike_iff]

end OneLine

end DataPilot.Sql
