import Mathlib.Data.List.Basic

set_option autoImplicit false

namespace DataPilot.Base

-- The grammar of RFC 8259 over the characters of a text.
def Blank (text : List Char) : Prop := ∀ c ∈ text, c = ' ' ∨ c = '\t' ∨ c = '\n' ∨ c = '\r'

def Digits (text : List Char) : Prop := text ≠ [] ∧ ∀ c ∈ text, c.isDigit = true

def isHexDigit (c : Char) : Bool :=
  c.isDigit || (97 ≤ c.toNat && c.toNat ≤ 102) || (65 ≤ c.toNat && c.toNat ≤ 70)

structure NumberParts (minus integer fraction exponent : List Char) : Prop where
  minus : minus = [] ∨ minus = ['-']
  integer : Digits integer ∧ (integer = ['0'] ∨ integer.head? ≠ some '0')
  fraction : fraction = [] ∨ ∃ digits, fraction = '.' :: digits ∧ Digits digits
  exponent : exponent = [] ∨ ∃ mark sign digits, exponent = mark :: sign ++ digits ∧ (mark = 'e' ∨ mark = 'E') ∧
    (sign = [] ∨ sign = ['+'] ∨ sign = ['-']) ∧ Digits digits

def NumberText (text : List Char) : Prop :=
  ∃ minus integer fraction exponent, NumberParts minus integer fraction exponent ∧
    text = minus ++ integer ++ fraction ++ exponent

inductive StringUnit : List Char → Prop where
  | plain (c : Char) (printable : 32 ≤ c.toNat) (quote : c ≠ '"') (slash : c ≠ '\\') : StringUnit [c]
  | escape (c : Char) (known : c ∈ ['"', '\\', '/', 'b', 'f', 'n', 'r', 't']) : StringUnit ['\\', c]
  | unicode (a b c d : Char) (digits : ∀ digit ∈ [a, b, c, d], isHexDigit digit = true) : StringUnit ['\\', 'u', a, b, c, d]

def StringBody (text : List Char) : Prop := ∃ units : List (List Char), (∀ unit ∈ units, StringUnit unit) ∧ text = units.flatten

def StringText (text : List Char) : Prop := ∃ body, StringBody body ∧ text = '"' :: body ++ ['"']

inductive Symbol where
  | value
  | items
  | members

inductive Derives : Symbol → List Char → Prop where
  | null : Derives .value ['n', 'u', 'l', 'l']
  | true : Derives .value ['t', 'r', 'u', 'e']
  | false : Derives .value ['f', 'a', 'l', 's', 'e']
  | number (text : List Char) (number : NumberText text) : Derives .value text
  | string (text : List Char) (string : StringText text) : Derives .value text
  | emptyArray (blank : List Char) (between : Blank blank) : Derives .value ('[' :: blank ++ [']'])
  | array (items : List Char) (listed : Derives .items items) : Derives .value ('[' :: items ++ [']'])
  | emptyObject (blank : List Char) (between : Blank blank) : Derives .value ('{' :: blank ++ ['}'])
  | object (members : List Char) (listed : Derives .members members) : Derives .value ('{' :: members ++ ['}'])
  | lastItem (before text behind : List Char) (front : Blank before) (back : Blank behind) (item : Derives .value text) :
      Derives .items (before ++ text ++ behind)
  | item (before text behind rest : List Char) (front : Blank before) (back : Blank behind) (item : Derives .value text)
      (others : Derives .items rest) : Derives .items (before ++ text ++ behind ++ ',' :: rest)
  | lastMember (before key between after text behind : List Char) (front : Blank before) (name : StringText key)
      (left : Blank between) (right : Blank after) (back : Blank behind) (value : Derives .value text) :
      Derives .members (before ++ key ++ between ++ ':' :: (after ++ text ++ behind))
  | member (before key between after text behind rest : List Char) (front : Blank before) (name : StringText key)
      (left : Blank between) (right : Blank after) (back : Blank behind) (value : Derives .value text)
      (others : Derives .members rest) :
      Derives .members (before ++ key ++ between ++ ':' :: (after ++ text ++ behind) ++ ',' :: rest)

-- JSON-text = ws value ws
def JsonDocument (text : List Char) : Prop :=
  ∃ before value behind, Blank before ∧ Blank behind ∧ Derives .value value ∧ text = before ++ value ++ behind

-- The characters of a text that are outside its strings.
inductive ScanMode where
  | outside
  | inside
  | escaped

def bareFrom : ScanMode → List Char → List Char
  | _, [] => []
  | .outside, c :: rest => if c = '"' then bareFrom .inside rest else c :: bareFrom .outside rest
  | .inside, c :: rest =>
      if c = '"' then bareFrom .outside rest else if c = '\\' then bareFrom .escaped rest else bareFrom .inside rest
  | .escaped, _ :: rest => bareFrom .inside rest

def bare (text : List Char) : List Char := bareFrom .outside text

-- The strings of the text are closed by its end.
def Balanced (text : List Char) : Prop := ∀ rest, bare (text ++ rest) = bare text ++ bare rest

theorem balanced_append (front back : List Char) (first : Balanced front) (second : Balanced back) :
    Balanced (front ++ back) := by
  intro rest
  rw [List.append_assoc, first, second, first back, List.append_assoc]

theorem unquoted_bare (text rest : List Char) (unquoted : '"' ∉ text) : bare (text ++ rest) = text ++ bare rest := by
  induction text with
  | nil => rfl
  | cons c tail ih =>
      rw [List.mem_cons, not_or] at unquoted
      have later := ih unquoted.2
      unfold bare at later ⊢
      rw [List.cons_append, bareFrom, if_neg (Ne.symm unquoted.1), later, List.cons_append]

theorem unquoted_itself (text : List Char) (unquoted : '"' ∉ text) : bare text = text := by
  have whole := unquoted_bare text [] unquoted
  rwa [List.append_nil, show bare [] = [] from rfl, List.append_nil] at whole

theorem unquoted_balanced (text : List Char) (unquoted : '"' ∉ text) : Balanced text := by
  intro rest
  rw [unquoted_bare text rest unquoted, unquoted_itself text unquoted]

theorem unit_skipped (unit rest : List Char) (given : StringUnit unit) :
    bareFrom .inside (unit ++ rest) = bareFrom .inside rest := by
  cases given with
  | plain c printable quote slash => rw [List.singleton_append, bareFrom, if_neg quote, if_neg slash]
  | escape c known => rfl
  | unicode a b c d digits =>
      have other : ∀ digit ∈ [a, b, c, d], digit ≠ '"' ∧ digit ≠ '\\' := by
        intro digit member
        have hex := digits digit member
        constructor <;> (rintro rfl; exact absurd hex (by decide))
      obtain ⟨quoteA, slashA⟩ := other a (by simp)
      obtain ⟨quoteB, slashB⟩ := other b (by simp)
      obtain ⟨quoteC, slashC⟩ := other c (by simp)
      obtain ⟨quoteD, slashD⟩ := other d (by simp)
      simp [bareFrom, quoteA, slashA, quoteB, slashB, quoteC, slashC, quoteD, slashD]

theorem string_skipped (text rest : List Char) (string : StringText text) : bare (text ++ rest) = bare rest := by
  obtain ⟨body, ⟨units, each, rfl⟩, rfl⟩ := string
  have inside : ∀ units : List (List Char), (∀ unit ∈ units, StringUnit unit) →
      bareFrom .inside (units.flatten ++ '"' :: rest) = bareFrom .outside rest := by
    intro units
    induction units with
    | nil =>
        intro _
        rw [List.flatten_nil, List.nil_append, bareFrom, if_pos rfl]
    | cons unit others ih =>
        intro each
        rw [List.flatten_cons, List.append_assoc, unit_skipped unit _ (each unit (List.mem_cons_self ..))]
        exact ih fun other member => each other (List.mem_cons_of_mem _ member)
  unfold bare
  rw [List.cons_append, List.cons_append, bareFrom, if_pos rfl, List.append_assoc]
  exact inside units each

theorem string_bare (text : List Char) (string : StringText text) : bare text = [] := by
  have skipped := string_skipped text [] string
  rwa [List.append_nil] at skipped

theorem string_balanced (text : List Char) (string : StringText text) : Balanced text := by
  intro rest
  rw [string_skipped text rest string, string_bare text string, List.nil_append]

def Marked (text : List Char) : Prop := 'N' ∈ bare text ∨ 'I' ∈ bare text

-- Balanced, and without such a letter.
structure Standard (text : List Char) : Prop where
  balanced : Balanced text
  unmarked : ¬ Marked text

theorem marked_append (front back : List Char) (balanced : Balanced front) :
    Marked (front ++ back) ↔ Marked front ∨ Marked back := by
  unfold Marked
  rw [balanced back, List.mem_append, List.mem_append]
  tauto

theorem standard_append (front back : List Char) (first : Standard front) (second : Standard back) :
    Standard (front ++ back) := by
  refine ⟨balanced_append front back first.balanced second.balanced, fun marked => ?_⟩
  rcases (marked_append front back first.balanced).mp marked with left | right
  · exact first.unmarked left
  · exact second.unmarked right

theorem standard_plain (text : List Char) (plain : ∀ c ∈ text, c ≠ '"' ∧ c ≠ 'N' ∧ c ≠ 'I') : Standard text := by
  have unquoted : '"' ∉ text := fun member => (plain _ member).1 rfl
  refine ⟨unquoted_balanced text unquoted, ?_⟩
  unfold Marked
  rw [unquoted_itself text unquoted]
  rintro (member | member)
  · exact (plain _ member).2.1 rfl
  · exact (plain _ member).2.2 rfl

theorem standard_string (text : List Char) (string : StringText text) : Standard text := by
  refine ⟨string_balanced text string, ?_⟩
  unfold Marked
  rw [string_bare text string]
  simp

theorem blank_standard (text : List Char) (blank : Blank text) : Standard text := by
  apply standard_plain
  intro c member
  rcases blank c member with rfl | rfl | rfl | rfl <;> decide

theorem digit_plain (c : Char) (digit : c.isDigit = true) : c ≠ '"' ∧ c ≠ 'N' ∧ c ≠ 'I' := by
  refine ⟨?_, ?_, ?_⟩ <;> (rintro rfl; exact absurd digit (by decide))

theorem digits_standard (text : List Char) (digits : ∀ c ∈ text, c.isDigit = true) : Standard text :=
  standard_plain text fun c member => digit_plain c (digits c member)

theorem number_standard (text : List Char) (number : NumberText text) : Standard text := by
  obtain ⟨minus, integer, fraction, exponent, parts, rfl⟩ := number
  refine standard_append _ _ (standard_append _ _ (standard_append _ _ ?_ ?_) ?_) ?_
  · rcases parts.minus with rfl | rfl <;> exact standard_plain _ (by simp)
  · exact digits_standard integer parts.integer.1.2
  · rcases parts.fraction with rfl | ⟨digits, rfl, given⟩
    · exact standard_plain [] (by simp)
    · exact standard_append ['.'] digits (standard_plain _ (by simp)) (digits_standard digits given.2)
  · rcases parts.exponent with rfl | ⟨mark, sign, digits, rfl, marked, signed, given⟩
    · exact standard_plain [] (by simp)
    · refine standard_append (mark :: sign) digits (standard_plain _ ?_) (digits_standard digits given.2)
      rcases marked with rfl | rfl <;> rcases signed with rfl | rfl | rfl <;> simp

theorem derived_standard (symbol : Symbol) (text : List Char) (derived : Derives symbol text) : Standard text := by
  induction derived with
  | null => exact standard_plain _ (by simp)
  | true => exact standard_plain _ (by simp)
  | false => exact standard_plain _ (by simp)
  | number text number => exact number_standard text number
  | string text string => exact standard_string text string
  | emptyArray blank between =>
      exact standard_append ('[' :: blank) _ (standard_append ['['] _ (standard_plain _ (by simp)) (blank_standard _ between))
        (standard_plain _ (by simp))
  | array items listed ih =>
      have opened : Standard ('[' :: items) := standard_append ['['] _ (standard_plain _ (by simp)) ih
      exact standard_append ('[' :: items) _ opened (standard_plain _ (by simp))
  | emptyObject blank between =>
      exact standard_append ('{' :: blank) _ (standard_append ['{'] _ (standard_plain _ (by simp)) (blank_standard _ between))
        (standard_plain _ (by simp))
  | object members listed ih =>
      exact standard_append ('{' :: members) _ (standard_append ['{'] _ (standard_plain _ (by simp)) ih)
        (standard_plain _ (by simp))
  | lastItem before text behind front back item ih =>
      exact standard_append _ _ (standard_append _ _ (blank_standard _ front) ih) (blank_standard _ back)
  | item before text behind rest front back item others ih later =>
      exact standard_append _ _ (standard_append _ _ (standard_append _ _ (blank_standard _ front) ih) (blank_standard _ back))
        (standard_append [','] _ (standard_plain _ (by simp)) later)
  | lastMember before key between after text behind front name left right back value ih =>
      have named := standard_append _ _ (standard_append _ _ (blank_standard _ front) (standard_string _ name))
        (blank_standard _ left)
      have valued := standard_append _ _ (standard_append _ _ (blank_standard _ right) ih) (blank_standard _ back)
      exact standard_append _ _ named (standard_append [':'] _ (standard_plain _ (by simp)) valued)
  | member before key between after text behind rest front name left right back value others ih later =>
      have named := standard_append _ _ (standard_append _ _ (blank_standard _ front) (standard_string _ name))
        (blank_standard _ left)
      have valued := standard_append _ _ (standard_append _ _ (blank_standard _ right) ih) (blank_standard _ back)
      have first := standard_append _ _ named (standard_append [':'] _ (standard_plain _ (by simp)) valued)
      exact standard_append _ _ first (standard_append [','] _ (standard_plain _ (by simp)) later)

theorem document_standard (text : List Char) (document : JsonDocument text) : Standard text := by
  obtain ⟨before, value, behind, front, back, derived, rfl⟩ := document
  exact standard_append _ _ (standard_append _ _ (blank_standard _ front) (derived_standard _ _ derived))
    (blank_standard _ back)

end DataPilot.Base
