import DataPilot.Base.Text

set_option autoImplicit false

namespace DataPilot.Sql

open DataPilot.Base

-- sqlglot's syntax tree. Nodes that the code tells apart by class have their
-- own constructor; every other node keeps its class name, the arguments that
-- are not nodes, its WITH clause and the nodes below it in order. A missing
-- optional argument is absent.
mutual

inductive Expression where
  | absent
  | identifier (this : String) (quoted : Bool)
  | literal (this : String) (isString : Bool)
  | var (this : String)
  | anonymous (this : String) (args : Arguments)
  | table (this db catalog : Expression) (args : Arguments)
  | node (cls : String) (isFunc : Bool) (settings : List (String × String)) (withClause : With) (args : Arguments)

inductive Arguments where
  | nil
  | cons (head : Expression) (tail : Arguments)

inductive With where
  | missing
  | clause (recursive : Bool) (ctes : Ctes)

inductive Ctes where
  | nil
  | cons (aliasNode this : Expression) (tail : Ctes)

end

deriving instance DecidableEq for Expression, Arguments, With, Ctes

-- Expression.text and the names derived from it.
def Expression.text : Expression → String
  | .identifier this _ => this
  | .literal this _ => this
  | .var this => this
  | _ => ""

def Expression.isIdentifier : Expression → Bool
  | .identifier _ _ => true
  | _ => false

def Expression.className : Expression → String
  | .absent => "NoneType"
  | .identifier _ _ => "Identifier"
  | .literal _ _ => "Literal"
  | .var _ => "Var"
  | .anonymous _ _ => "Anonymous"
  | .table _ _ _ _ => "Table"
  | .node cls _ _ _ _ => cls

-- Breadth-first search lists a tree level by level; the levels of siblings are
-- joined from left to right.
def joinLevels {α : Type} : List (List α) → List (List α) → List (List α)
  | [], right => right
  | left, [] => left
  | a :: left, b :: right => (a ++ b) :: joinLevels left right

-- The With and CTE nodes are levels of their own. No check of the code tests
-- them, so they are not listed.
mutual

def levels : Expression → List (List Expression)
  | .absent => []
  | .identifier this quoted => [[.identifier this quoted]]
  | .literal this isString => [[.literal this isString]]
  | .var this => [[.var this]]
  | .anonymous this args => [.anonymous this args] :: levelsArguments args
  | .table this db catalog args =>
      [.table this db catalog args] ::
        joinLevels (levels this) (joinLevels (levels db) (joinLevels (levels catalog) (levelsArguments args)))
  | .node cls isFunc settings withClause args =>
      [.node cls isFunc settings withClause args] :: joinLevels (levelsArguments args) (levelsWith withClause)

def levelsArguments : Arguments → List (List Expression)
  | .nil => []
  | .cons head tail => joinLevels (levels head) (levelsArguments tail)

def levelsWith : With → List (List Expression)
  | .missing => []
  | .clause _ ctes => [] :: levelsCtes ctes

def levelsCtes : Ctes → List (List Expression)
  | .nil => []
  | .cons aliasNode this tail => joinLevels ([] :: joinLevels ([] :: levels aliasNode) (levels this)) (levelsCtes tail)

end

def walk (tree : Expression) : List Expression := (levels tree).flatten

-- find_all(exp.CTE), as the alias node of each.
mutual

def cteAliases : Expression → List Expression
  | .anonymous _ args => cteAliasesArguments args
  | .table this db catalog args =>
      cteAliases this ++ cteAliases db ++ cteAliases catalog ++ cteAliasesArguments args
  | .node _ _ _ withClause args => cteAliasesWith withClause ++ cteAliasesArguments args
  | _ => []

def cteAliasesArguments : Arguments → List Expression
  | .nil => []
  | .cons head tail => cteAliases head ++ cteAliasesArguments tail

def cteAliasesWith : With → List Expression
  | .missing => []
  | .clause _ ctes => cteAliasesCtes ctes

def cteAliasesCtes : Ctes → List Expression
  | .nil => []
  | .cons aliasNode this tail => aliasNode :: (cteAliases aliasNode ++ cteAliases this ++ cteAliasesCtes tail)

end

-- ParseError and TokenError are siblings below SqlglotError. The third way is
-- what the interpreter raises, such as RecursionError on deep parentheses.
inductive SqlglotError where
  | parseError (text : String)
  | tokenError (text : String)
  | other (failure : PyException)
deriving DecidableEq

-- The exception itself, for a caller that does not catch it.
def SqlglotError.raised : SqlglotError → PyException
  | .parseError text => ⟨"ParseError", text⟩
  | .tokenError text => ⟨"TokenError", text⟩
  | .other failure => failure

-- A parsed statement. Its comments are written by the printer and are no part
-- of the tree that searches and comparisons see.
structure Statement where
  tree : Expression
  comments : List String := []
deriving DecidableEq

-- The third-party parser and printer. Printing raises no ParseError.
structure Sqlglot where
  parse : String → String → Except SqlglotError (List (Option Statement))
  parseOne : String → String → Except SqlglotError Statement
  sql : Option String → Statement → Except PyException String

theorem mem_join_levels {α : Type} (x : α) (left right : List (List α)) :
    x ∈ (joinLevels left right).flatten ↔ x ∈ left.flatten ∨ x ∈ right.flatten := by
  induction left generalizing right with
  | nil => simp [joinLevels]
  | cons a left ih =>
      cases right with
      | nil => simp [joinLevels]
      | cons b right =>
          simp only [joinLevels, List.flatten_cons, List.mem_append, ih]
          tauto

end DataPilot.Sql
