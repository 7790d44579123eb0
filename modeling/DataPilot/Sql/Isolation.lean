import DataPilot.Sql.Scope

set_option autoImplicit false

namespace DataPilot.Sql

open DataPilot.Base

-- Every reference of the tree that denotes a base table names an allowed one.
def Isolated (dialect : String) (tree : Expression) (allowedTables : List String) : Prop :=
  ∀ reference ∈ baseTables dialect [] tree, referenceName reference ∈ allowedTables.map casefold

-- Every table of that name is unqualified and in the scope of a CTE that the dialect
-- takes it for.
def UsedInScope (dialect : String) (tree : Expression) (name : String) : Prop :=
  ∀ visible this db catalog args, At ⟨[], tree⟩ ⟨visible, .table this db catalog args⟩ → tableName this db = name →
    db.text = "" ∧ ∃ aliasNode ∈ visible, sameName dialect this aliasNode = true

-- A CTE of the statement has the name of an allowed table or is used in its scope only.
def ScopedUses (dialect : String) (tree : Expression) (allowedTables : List String) : Prop :=
  ∀ name, Bound tree name → name ∈ allowedTables.map casefold ∨ UsedInScope dialect tree name

theorem accepted_reference (policy : SQLPolicy) (tree : Expression) (allowedTables : List String)
    (passed : checkTree policy tree allowedTables = none) (visible : List Expression) (this db catalog : Expression)
    (args : Arguments) (there : At ⟨[], tree⟩ ⟨visible, .table this db catalog args⟩) :
    catalog.text = "" ∧ (Bound tree (tableName this db) ∨ tableName this db ∈ allowedTables.map casefold) := by
  have walked := inside_walked tree _ Expression.noConfusion (at_inside _ _ there)
  obtain ⟨_, elsewhere, named⟩ := check_tree_tables policy tree allowedTables passed this db catalog args walked
  exact ⟨elsewhere, named.imp_left (cte_names_iff tree _).mp⟩

-- The guard skips a table as soon as any CTE of the statement has its casefolded
-- name, so acceptance isolates a statement exactly when such names are used in scope.
theorem accepted_isolated_iff (policy : SQLPolicy) (tree : Expression) (allowedTables : List String)
    (passed : checkTree policy tree allowedTables = none) :
    Isolated policy.dialect tree allowedTables ↔ ScopedUses policy.dialect tree allowedTables := by
  constructor
  · intro isolated name _
    by_cases allowed : name ∈ allowedTables.map casefold
    · exact .inl allowed
    · right
      rintro visible this db catalog args there rfl
      by_contra outside
      have unbound : denotesCte policy.dialect visible this db catalog = false := by
        by_contra denotes
        simp only [Bool.not_eq_false, denotesCte, Bool.and_eq_true, decide_eq_true_eq, List.any_eq_true] at denotes
        exact outside ⟨denotes.1.1, denotes.2⟩
      exact allowed (isolated _ ((base_tables_at policy.dialect ⟨[], tree⟩ _).mpr ⟨visible, there, unbound⟩))
  · intro inScope reference base
    obtain ⟨visible, there, outside⟩ := (base_tables_at policy.dialect ⟨[], tree⟩ reference).mp base
    cases reference with
    | table this db catalog args =>
        obtain ⟨elsewhere, named⟩ := accepted_reference policy tree allowedTables passed visible this db catalog args there
        rcases named with bound | allowed
        · rcases inScope _ bound with allowed | used
          · exact allowed
          · obtain ⟨plain, aliasNode, member, same⟩ := used visible this db catalog args there rfl
            have denotes : denotesCte policy.dialect visible this db catalog = true := by
              simp only [denotesCte, Bool.and_eq_true, decide_eq_true_eq, List.any_eq_true]
              exact ⟨⟨plain, elsewhere⟩, aliasNode, member, same⟩
            exact Bool.noConfusion (outside.symm.trans denotes)
        · exact allowed
    | _ => cases outside

theorem validate_isolated_iff (sqlglot : Sqlglot) (policy : SQLPolicy) (sql out : String) (allowedTables : List String)
    (statement : Statement) (accepted : validate sqlglot policy sql allowedTables = .ok out)
    (parsed : sqlglot.parse policy.dialect sql = .ok [some statement]) :
    Isolated policy.dialect statement.tree allowedTables ↔ ScopedUses policy.dialect statement.tree allowedTables := by
  obtain ⟨checked, parsedChecked, passed, _⟩ := validate_ok sqlglot policy sql out allowedTables accepted
  obtain rfl : statement = checked := by simpa [parsed] using parsedChecked
  exact accepted_isolated_iff policy statement.tree allowedTables passed

section Shadowing

def identifierNode (name : String) : Expression := .identifier name false

def tableNode (name : String) : Expression := .table (identifierNode name) .absent .absent .nil

-- SELECT * FROM name, below a WITH clause.
def selectStar (withClause : With) (name : String) : Expression :=
  .node "Select" false [] withClause
    (.cons (.node "Star" false [] .missing .nil)
      (.cons (.node "From" false [] .missing (.cons (tableNode name) .nil)) .nil))

def shadowingText : String := "WITH salaries AS (SELECT * FROM salaries) SELECT * FROM salaries"

-- The table that the CTE reads has the name of the CTE, which is not recursive.
def shadowingTree : Expression :=
  selectStar (.clause false (.cons (identifierNode "salaries") (selectStar .missing "salaries") .nil)) "salaries"

def plainText : String := "WITH recent AS (SELECT * FROM Orders) SELECT * FROM recent"

def plainTree : Expression :=
  selectStar (.clause false (.cons (identifierNode "recent") (selectStar .missing "Orders") .nil)) "recent"

def twoStatements : Sqlglot where
  parse _ sql :=
    if sql = shadowingText then .ok [some ⟨shadowingTree, []⟩]
    else if sql = plainText then .ok [some ⟨plainTree, []⟩]
    else .error (.parseError "Invalid expression / Unexpected token.")
  parseOne _ sql :=
    if sql = shadowingText then .ok ⟨shadowingTree, []⟩
    else if sql = plainText then .ok ⟨plainTree, []⟩
    else .error (.parseError "Invalid expression / Unexpected token.")
  sql _ statement :=
    if statement.tree = shadowingTree then .ok shadowingText
    else if statement.tree = plainTree then .ok plainText else .ok ""

-- Allowed to read orders only, the statement reads salaries.
theorem validate_accepts_shadowed :
    validate twoStatements {} shadowingText ["orders"] = .ok shadowingText ∧
      twoStatements.parse "duckdb" shadowingText = .ok [some ⟨shadowingTree, []⟩] ∧
      ¬ Isolated "duckdb" shadowingTree ["orders"] := by
  refine ⟨by decide +kernel, by decide +kernel, ?_⟩
  intro isolated
  have base : tableNode "salaries" ∈ baseTables "duckdb" [] shadowingTree := by decide +kernel
  have allowed : referenceName (tableNode "salaries") ∈ ["orders"].map casefold := isolated _ base
  revert allowed
  decide +kernel

-- WITH "SALARIES" AS (SELECT 1 AS x) SELECT * FROM salaries
def quotedTree : Expression :=
  selectStar (.clause false (.cons (.identifier "SALARIES" true) (.node "Select" false [] .missing .nil) .nil)) "salaries"

-- To Postgres the quoted name is another one, to DuckDB it is the same.
example : baseTables "postgres" [] quotedTree = [tableNode "salaries"] ∧ baseTables "duckdb" [] quotedTree = [] := by
  decide +kernel

end Shadowing

end DataPilot.Sql
