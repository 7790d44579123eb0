import DataPilot.Sql.Expression
import DataPilot.Sql.Spelling

set_option autoImplicit false

namespace DataPilot.Sql

open DataPilot.Base

-- The classes of nodes that are literals of their own, with their text among
-- their settings. The settings of all other nodes are keywords.
def literalClasses : List String :=
  ["BitString", "ByteString", "Heredoc", "HexString", "National", "RawString", "UnicodeString"]

def foldSettings (cls : String) (settings : List (String × String)) : List (String × String) :=
  if cls ∈ literalClasses then settings else settings.map fun setting => (setting.1, simpleCase setting.2)

-- A tree up to the letter case of its unquoted identifiers and its keywords.
mutual

def caseless : Expression → Expression
  | .absent => .absent
  | .identifier this true => .identifier this true
  | .identifier this false => .identifier (simpleCase this) false
  | .literal this isString => .literal this isString
  | .var this => .var (simpleCase this)
  | .anonymous this args => .anonymous (simpleCase this) (caselessArguments args)
  | .table this db catalog args => .table (caseless this) (caseless db) (caseless catalog) (caselessArguments args)
  | .node cls isFunc settings withClause args =>
      .node cls isFunc (foldSettings cls settings) (caselessWith withClause) (caselessArguments args)

def caselessArguments : Arguments → Arguments
  | .nil => .nil
  | .cons head tail => .cons (caseless head) (caselessArguments tail)

def caselessWith : With → With
  | .missing => .missing
  | .clause recursive ctes => .clause recursive (caselessCtes ctes)

def caselessCtes : Ctes → Ctes
  | .nil => .nil
  | .cons aliasNode this tail => .cons (caseless aliasNode) (caseless this) (caselessCtes tail)

end

-- The texts that every letter of counts: literals and quoted identifiers.
mutual

def exactParts : Expression → List String
  | .absent => []
  | .identifier this quoted => if quoted then [this] else []
  | .literal this _ => [this]
  | .var _ => []
  | .anonymous _ args => exactPartsArguments args
  | .table this db catalog args =>
      exactParts this ++ exactParts db ++ exactParts catalog ++ exactPartsArguments args
  | .node cls _ settings withClause args =>
      (if cls ∈ literalClasses then settings.map Prod.snd else []) ++ exactPartsWith withClause ++
        exactPartsArguments args

def exactPartsArguments : Arguments → List String
  | .nil => []
  | .cons head tail => exactParts head ++ exactPartsArguments tail

def exactPartsWith : With → List String
  | .missing => []
  | .clause _ ctes => exactPartsCtes ctes

def exactPartsCtes : Ctes → List String
  | .nil => []
  | .cons aliasNode this tail => exactParts aliasNode ++ exactParts this ++ exactPartsCtes tail

end

-- Folding the case of names leaves the exact parts alone.
mutual

theorem exact_parts_caseless (tree : Expression) : exactParts (caseless tree) = exactParts tree := by
  cases tree with
  | absent => rfl
  | identifier this quoted => cases quoted <;> rfl
  | literal this isString => rfl
  | var this => rfl
  | anonymous this args =>
      rw [caseless, exactParts, exactParts]
      exact exact_parts_arguments_caseless args
  | table this db catalog args =>
      rw [caseless, exactParts, exactParts, exact_parts_caseless this, exact_parts_caseless db,
        exact_parts_caseless catalog, exact_parts_arguments_caseless args]
  | node cls isFunc settings withClause args =>
      rw [caseless, exactParts, exactParts, exact_parts_with_caseless withClause, exact_parts_arguments_caseless args]
      by_cases literal : cls ∈ literalClasses <;> simp [foldSettings, literal]

theorem exact_parts_arguments_caseless (args : Arguments) :
    exactPartsArguments (caselessArguments args) = exactPartsArguments args := by
  cases args with
  | nil => rfl
  | cons head tail =>
      rw [caselessArguments, exactPartsArguments, exactPartsArguments, exact_parts_caseless head,
        exact_parts_arguments_caseless tail]

theorem exact_parts_with_caseless (withClause : With) :
    exactPartsWith (caselessWith withClause) = exactPartsWith withClause := by
  cases withClause with
  | missing => rfl
  | clause recursive ctes =>
      rw [caselessWith, exactPartsWith, exactPartsWith]
      exact exact_parts_ctes_caseless ctes

theorem exact_parts_ctes_caseless (ctes : Ctes) : exactPartsCtes (caselessCtes ctes) = exactPartsCtes ctes := by
  cases ctes with
  | nil => rfl
  | cons aliasNode this tail =>
      rw [caselessCtes, exactPartsCtes, exactPartsCtes, exact_parts_caseless aliasNode, exact_parts_caseless this,
        exact_parts_ctes_caseless tail]

end

-- A text that does not parse is compared by its tokens. A word is a keyword, an
-- operator or an unquoted identifier; an exact token a literal or a quoted one.
inductive Token where
  | word (text : String)
  | exact (text : String)
deriving DecidableEq

def Token.caseless : Token → Token
  | .word text => .word (simpleCase text)
  | .exact text => .exact text

def Token.exactText : Token → Option String
  | .word _ => none
  | .exact text => some text

theorem exact_texts_caseless (tokens : List Token) :
    (tokens.map Token.caseless).filterMap Token.exactText = tokens.filterMap Token.exactText := by
  rw [List.filterMap_map]
  congr 1
  funext token
  cases token <;> rfl

-- sqlglot's tokenizer for duckdb. A text is standard when it uses none of that
-- dialect's own quotes: dollar quotes, escape strings, templates.
structure Tokenizer where
  tokens : String → List Token
  standard : String → Bool

variable (sqlglot : Sqlglot) (tokenizer : Tokenizer)

def SameTokens (first second : String) : Prop :=
  (tokenizer.tokens first).map Token.caseless = (tokenizer.tokens second).map Token.caseless

-- The two texts are one query up to the case of unquoted names and keywords.
def SameQuery (first second : String) : Prop :=
  match sqlglot.parseOne "duckdb" first, sqlglot.parseOne "duckdb" second with
  | .ok one, .ok two => caseless one.tree = caseless two.tree
  | .error _, .error _ => SameTokens tokenizer first second
  | _, _ => False

def SameLetters (first second : String) : Prop :=
  match sqlglot.parseOne "duckdb" first, sqlglot.parseOne "duckdb" second with
  | .ok one, .ok two => exactParts one.tree = exactParts two.tree
  | .error _, .error _ =>
      (tokenizer.tokens first).filterMap Token.exactText = (tokenizer.tokens second).filterMap Token.exactText
  | _, _ => False

-- Two texts that merge although they are not spelled alike: they agree up to
-- the case of all letters and the amount of white space, and not where both count.
def Merge (first second : String) : Prop := FoldAlike first second ∧ spelled first ≠ spelled second

-- What the normal form of two SQL texts confuses, read off the text that it
-- folds: the printed statement, or the text itself when it does not parse.
def Confusable (first second : String) : Prop :=
  match sqlglot.parseOne "duckdb" first, sqlglot.parseOne "duckdb" second with
  | .ok one, .ok two =>
      ∃ left, sqlglot.sql none one = .ok left ∧ ∃ right, sqlglot.sql none two = .ok right ∧ Merge left right
  | .error _, .error _ =>
      if tokenizer.standard first ∧ tokenizer.standard second then Merge first second
      else FoldAlike first second ∧ ¬ SameTokens tokenizer first second
  | .ok one, .error _ => ∃ left, sqlglot.sql none one = .ok left ∧ FoldAlike left second
  | .error _, .ok two => ∃ right, sqlglot.sql none two = .ok right ∧ FoldAlike first right

-- A reader of the printed dialect: it gives back the tree that was printed, so
-- distinct trees have distinct prints, and outside quotes neither case nor the
-- amount of white space changes more of a tree than the case of its names. A
-- print keeps literals, quoted names and, for one tree, everything else.
structure Printing (reader : String → Option Expression) : Prop where
  inverts : ∀ sql statement printed, sqlglot.parseOne "duckdb" sql = .ok statement →
    sqlglot.sql none statement = .ok printed → reader printed = some statement.tree
  insensitive : ∀ first second one two, spelled first = spelled second → reader first = some one →
    reader second = some two → caseless one = caseless two
  preserves : ∀ first second one two left right, sqlglot.parseOne "duckdb" first = .ok one →
    sqlglot.parseOne "duckdb" second = .ok two → sqlglot.sql none one = .ok left → sqlglot.sql none two = .ok right →
    caseless one.tree = caseless two.tree → FoldAlike left right → spelled left = spelled right

-- Standard texts are cut into tokens at the same places, up to case and white space.
def Tokenizes : Prop :=
  ∀ first second, tokenizer.standard first = true → tokenizer.standard second = true → FoldAlike first second →
    (SameTokens tokenizer first second ↔ spelled first = spelled second)

theorem same_query_letters (first second : String) (same : SameQuery sqlglot tokenizer first second) :
    SameLetters sqlglot tokenizer first second := by
  unfold SameQuery at same
  unfold SameLetters
  cases one : sqlglot.parseOne "duckdb" first with
  | ok left =>
      cases two : sqlglot.parseOne "duckdb" second with
      | ok right =>
          simp only [one, two] at same ⊢
          rw [← exact_parts_caseless left.tree, same, exact_parts_caseless]
      | error failure => simp [one, two] at same
  | error failure =>
      cases two : sqlglot.parseOne "duckdb" second with
      | ok right => simp [one, two] at same
      | error other =>
          simp only [one, two] at same ⊢
          rw [← exact_texts_caseless, same, exact_texts_caseless]

section Merging

variable {sqlglot tokenizer} {reader : String → Option Expression} (printing : Printing sqlglot reader)
  (tokenizes : Tokenizes tokenizer)

include printing in
theorem printed_merge_iff (first second : String) (one two : Statement) (left right : String)
    (parsedFirst : sqlglot.parseOne "duckdb" first = .ok one) (parsedSecond : sqlglot.parseOne "duckdb" second = .ok two)
    (printedFirst : sqlglot.sql none one = .ok left) (printedSecond : sqlglot.sql none two = .ok right)
    (alike : FoldAlike left right) : caseless one.tree = caseless two.tree ↔ ¬ Merge left right := by
  have readFirst := printing.inverts first one left parsedFirst printedFirst
  have readSecond := printing.inverts second two right parsedSecond printedSecond
  constructor
  · intro same merged
    exact merged.2 (printing.preserves first second one two left right parsedFirst parsedSecond printedFirst printedSecond
      same alike)
  · intro apart
    have spelledAlike : spelled left = spelled right := by
      by_contra differ
      exact apart ⟨alike, differ⟩
    exact printing.insensitive left right one.tree two.tree spelledAlike readFirst readSecond

include tokenizes in
theorem raw_merge_iff (first second : String) (alike : FoldAlike first second) :
    SameTokens tokenizer first second ↔
      ¬ if tokenizer.standard first ∧ tokenizer.standard second then Merge first second
        else FoldAlike first second ∧ ¬ SameTokens tokenizer first second := by
  by_cases standard : tokenizer.standard first ∧ tokenizer.standard second
  · rw [if_pos standard, tokenizes first second standard.1 standard.2 alike, Merge, not_and, not_not]
    exact ⟨fun same _ => same, fun same => same alike⟩
  · rw [if_neg standard, not_and, not_not]
    exact ⟨fun same _ => same, fun same => same alike⟩

end Merging

end DataPilot.Sql
