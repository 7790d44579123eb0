import DataPilot.Sql.Guard
import Mathlib.Logic.Relation

set_option autoImplicit false

namespace DataPilot.Sql

open DataPilot.Base

def Arguments.list : Arguments → List Expression
  | .nil => []
  | .cons head tail => head :: tail.list

def Ctes.list : Ctes → List Expression
  | .nil => []
  | .cons aliasNode this tail => aliasNode :: this :: tail.list

def With.list : With → List Expression
  | .missing => []
  | .clause _ ctes => ctes.list

def children : Expression → List Expression
  | .anonymous _ args => args.list
  | .table this db catalog args => this :: db :: catalog :: args.list
  | .node _ _ _ withClause args => args.list ++ withClause.list
  | _ => []

def Inside (tree node : Expression) : Prop := Relation.ReflTransGen (fun parent child => child ∈ children parent) tree node

def Ctes.aliases : Ctes → List Expression
  | .nil => []
  | .cons aliasNode _ tail => aliasNode :: tail.aliases

def binders : Expression → List Expression
  | .node _ _ _ (.clause _ ctes) _ => ctes.aliases
  | _ => []

def Expression.called : Expression → Option String
  | .anonymous this _ => some this
  | .node cls true _ _ _ => some cls
  | _ => none

def Permitted (policy : SQLPolicy) (named : String → Prop) : Expression → Prop
  | .table this db catalog _ =>
      this.isIdentifier = true ∧ catalog.text = "" ∧ (db.text ≠ "" → policy.allowQualifiedTables = true) ∧
        named (tableName this db)
  | _ => True

def Bound (tree : Expression) (name : String) : Prop :=
  ∃ node, Inside tree node ∧ ∃ aliasNode ∈ binders node, aliasNode.text ≠ "" ∧ name = casefold aliasNode.text

-- A query that only reads, calls nothing on the list, and names tables it may read.
structure Harmless (policy : SQLPolicy) (allowedTables : List String) (tree : Expression) : Prop where
  root : tree.className ∈ readOnlyRoots
  operations : ∀ node, Inside tree node → node.className ∉ forbiddenNodes
  calls : ∀ node name, Inside tree node → node.called = some name → functionKey name ∉ forbiddenFunctions
  tables : ∀ node, Inside tree node →
    Permitted policy (fun name => Bound tree name ∨ name ∈ allowedTables.map casefold) node

section Walk

theorem arguments_smaller (args : Arguments) (child : Expression) (member : child ∈ args.list) :
    sizeOf child < sizeOf args := by
  cases args with
  | nil => cases member
  | cons head tail =>
      rw [Arguments.cons.sizeOf_spec]
      rcases List.mem_cons.mp member with rfl | later
      · omega
      · have smaller := arguments_smaller tail child later
        omega

theorem ctes_smaller (ctes : Ctes) (child : Expression) (member : child ∈ ctes.list) : sizeOf child < sizeOf ctes := by
  cases ctes with
  | nil => cases member
  | cons aliasNode this tail =>
      rw [Ctes.cons.sizeOf_spec]
      rcases List.mem_cons.mp member with rfl | rest
      · omega
      · rcases List.mem_cons.mp rest with rfl | later
        · omega
        · have smaller := ctes_smaller tail child later
          omega

theorem child_smaller (tree child : Expression) (member : child ∈ children tree) : sizeOf child < sizeOf tree := by
  cases tree with
  | anonymous this args =>
      have smaller := arguments_smaller args child member
      rw [Expression.anonymous.sizeOf_spec]
      omega
  | table this db catalog args =>
      rw [Expression.table.sizeOf_spec]
      rw [children, List.mem_cons, List.mem_cons, List.mem_cons] at member
      rcases member with rfl | rfl | rfl | inArgs
      · omega
      · omega
      · omega
      · have smaller := arguments_smaller args child inArgs
        omega
  | node cls isFunc settings withClause args =>
      rw [Expression.node.sizeOf_spec]
      rcases List.mem_append.mp member with inArgs | inWith
      · have smaller := arguments_smaller args child inArgs
        omega
      · cases withClause with
        | missing => cases inWith
        | clause recursive ctes =>
            have smaller := ctes_smaller ctes child inWith
            rw [With.clause.sizeOf_spec]
            omega
  | _ => cases member

theorem arguments_walked (args : Arguments) (node : Expression) :
    node ∈ (levelsArguments args).flatten ↔ ∃ child ∈ args.list, node ∈ walk child := by
  cases args with
  | nil => simp [levelsArguments, Arguments.list]
  | cons head tail =>
      rw [levelsArguments, mem_join_levels, arguments_walked tail node, Arguments.list, List.exists_mem_cons_iff]
      rfl

theorem ctes_walked (ctes : Ctes) (node : Expression) :
    node ∈ (levelsCtes ctes).flatten ↔ ∃ child ∈ ctes.list, node ∈ walk child := by
  cases ctes with
  | nil => simp [levelsCtes, Ctes.list]
  | cons aliasNode this tail =>
      rw [levelsCtes, mem_join_levels, ctes_walked tail node, List.flatten_cons, List.nil_append, mem_join_levels,
        List.flatten_cons, List.nil_append, Ctes.list, List.exists_mem_cons_iff, List.exists_mem_cons_iff, or_assoc]
      rfl

theorem with_walked (withClause : With) (node : Expression) :
    node ∈ (levelsWith withClause).flatten ↔ ∃ child ∈ withClause.list, node ∈ walk child := by
  cases withClause with
  | missing => simp [levelsWith, With.list]
  | clause recursive ctes =>
      rw [levelsWith, List.flatten_cons, List.nil_append, ctes_walked]
      rfl

theorem walk_iff (tree node : Expression) :
    node ∈ walk tree ↔ (node = tree ∧ tree ≠ .absent) ∨ ∃ child ∈ children tree, node ∈ walk child := by
  cases tree with
  | absent => simp [walk, levels, children]
  | identifier this quoted => simp [walk, levels, children]
  | literal this isString => simp [walk, levels, children]
  | var this => simp [walk, levels, children]
  | anonymous this args =>
      rw [walk, levels, List.flatten_cons, List.singleton_append, List.mem_cons, arguments_walked]
      simp [children]
  | table this db catalog args =>
      rw [walk, levels, List.flatten_cons, List.singleton_append, List.mem_cons, mem_join_levels, mem_join_levels,
        mem_join_levels, arguments_walked]
      simp [children, walk]
  | node cls isFunc settings withClause args =>
      rw [walk, levels, List.flatten_cons, List.singleton_append, List.mem_cons, mem_join_levels, arguments_walked, with_walked]
      simp [children, or_and_right, exists_or]

theorem walked_inside (tree node : Expression) (walked : node ∈ walk tree) : Inside tree node := by
  rcases (walk_iff tree node).mp walked with ⟨rfl, _⟩ | ⟨child, member, below⟩
  · exact Relation.ReflTransGen.refl
  · have smaller := child_smaller tree child member
    exact Relation.ReflTransGen.head member (walked_inside child node below)
termination_by sizeOf tree

theorem inside_walked (tree node : Expression) (present : node ≠ .absent) (inside : Inside tree node) : node ∈ walk tree := by
  induction inside using Relation.ReflTransGen.head_induction_on with
  | refl => exact (walk_iff node node).mpr (.inl ⟨rfl, present⟩)
  | head member _ ih => exact (walk_iff _ node).mpr (.inr ⟨_, member, ih⟩)

end Walk

section Aliases

theorem arguments_aliases (args : Arguments) (aliasNode : Expression) :
    aliasNode ∈ cteAliasesArguments args ↔ ∃ child ∈ args.list, aliasNode ∈ cteAliases child := by
  cases args with
  | nil => simp [cteAliasesArguments, Arguments.list]
  | cons head tail =>
      rw [cteAliasesArguments, List.mem_append, arguments_aliases tail aliasNode, Arguments.list, List.exists_mem_cons_iff]

theorem ctes_aliases (ctes : Ctes) (aliasNode : Expression) :
    aliasNode ∈ cteAliasesCtes ctes ↔ aliasNode ∈ ctes.aliases ∨ ∃ child ∈ ctes.list, aliasNode ∈ cteAliases child := by
  cases ctes with
  | nil => simp [cteAliasesCtes, Ctes.list, Ctes.aliases]
  | cons first this tail =>
      rw [cteAliasesCtes, List.mem_cons, List.mem_append, List.mem_append, ctes_aliases tail aliasNode, Ctes.aliases, Ctes.list,
        List.exists_mem_cons_iff, List.exists_mem_cons_iff, List.mem_cons]
      tauto

theorem aliases_iff (tree aliasNode : Expression) :
    aliasNode ∈ cteAliases tree ↔ aliasNode ∈ binders tree ∨ ∃ child ∈ children tree, aliasNode ∈ cteAliases child := by
  cases tree with
  | absent => simp [cteAliases, binders, children]
  | identifier this quoted => simp [cteAliases, binders, children]
  | literal this isString => simp [cteAliases, binders, children]
  | var this => simp [cteAliases, binders, children]
  | anonymous this args =>
      rw [cteAliases, arguments_aliases]
      simp [binders, children]
  | table this db catalog args =>
      rw [cteAliases, List.mem_append, List.mem_append, List.mem_append, arguments_aliases]
      simp [binders, children, or_assoc]
  | node cls isFunc settings withClause args =>
      rw [cteAliases, List.mem_append, arguments_aliases]
      cases withClause with
      | missing => simp [cteAliasesWith, binders, children, With.list]
      | clause recursive ctes =>
          rw [cteAliasesWith, ctes_aliases]
          simp only [binders, children, With.list, List.mem_append, or_and_right, exists_or]
          exact or_assoc.trans (or_congr_right or_comm)

theorem aliases_inside (tree aliasNode : Expression) (found : aliasNode ∈ cteAliases tree) :
    ∃ node, Inside tree node ∧ aliasNode ∈ binders node := by
  rcases (aliases_iff tree aliasNode).mp found with own | ⟨child, member, below⟩
  · exact ⟨tree, Relation.ReflTransGen.refl, own⟩
  · have smaller := child_smaller tree child member
    obtain ⟨node, inside, bound⟩ := aliases_inside child aliasNode below
    exact ⟨node, Relation.ReflTransGen.head member inside, bound⟩
termination_by sizeOf tree

theorem inside_aliases (tree node aliasNode : Expression) (inside : Inside tree node) (bound : aliasNode ∈ binders node) :
    aliasNode ∈ cteAliases tree := by
  induction inside using Relation.ReflTransGen.head_induction_on with
  | refl => exact (aliases_iff node aliasNode).mpr (.inl bound)
  | head member _ ih => exact (aliases_iff _ aliasNode).mpr (.inr ⟨_, member, ih⟩)

theorem cte_names_iff (tree : Expression) (name : String) : name ∈ cteNames tree ↔ Bound tree name := by
  rw [cteNames, List.mem_map]
  constructor
  · rintro ⟨aliasNode, kept, rfl⟩
    obtain ⟨found, filled⟩ := List.mem_filter.mp kept
    obtain ⟨node, inside, bound⟩ := aliases_inside tree aliasNode found
    exact ⟨node, inside, aliasNode, bound, of_decide_eq_true filled, rfl⟩
  · rintro ⟨node, inside, aliasNode, bound, filled, rfl⟩
    have found := inside_aliases tree node aliasNode inside bound
    exact ⟨aliasNode, List.mem_filter.mpr ⟨found, decide_eq_true filled⟩, rfl⟩

end Aliases

section Checks

variable (policy : SQLPolicy) (allowedTables : List String)

theorem check_function_none (name : String) : checkFunction name = none ↔ functionKey name ∉ forbiddenFunctions := by
  rw [checkFunction]
  by_cases listed : functionKey name ∈ forbiddenFunctions
  · rw [if_pos listed]
    exact iff_of_false (Option.some_ne_none _) (not_not.mpr listed)
  · rw [if_neg listed]
    exact iff_of_true rfl listed

theorem check_node_none (node : Expression) :
    checkNode node = none ↔
      node.className ∉ forbiddenNodes ∧ ∀ name, node.called = some name → functionKey name ∉ forbiddenFunctions := by
  unfold checkNode
  by_cases listed : node.className ∈ forbiddenNodes
  · rw [if_pos listed]
    exact iff_of_false (Option.some_ne_none _) fun both => both.1 listed
  · rw [if_neg listed, and_iff_right listed]
    cases node with
    | anonymous this args =>
        dsimp only
        rw [check_function_none]
        simp [Expression.called]
    | node cls isFunc settings withClause args =>
        cases isFunc with
        | false => simp [Expression.called]
        | true =>
            dsimp only
            rw [check_function_none]
            simp [Expression.called]
    | _ => simp [Expression.called]

theorem check_table_none (ctes allowed : List String) (node : Expression) :
    checkTable policy ctes allowed node = none ↔ Permitted policy (fun name => name ∈ ctes ∨ name ∈ allowed) node := by
  cases node with
  | table this db catalog args =>
      rw [checkTable, Permitted]
      by_cases plain : this.isIdentifier = true
      · rw [if_neg (by simp [plain]), and_iff_right plain]
        by_cases elsewhere : catalog.text = ""
        · rw [if_neg (not_not.mpr elsewhere), and_iff_right elsewhere]
          by_cases qualified : db.text ≠ "" ∧ policy.allowQualifiedTables = false
          · rw [if_pos qualified]
            refine iff_of_false (Option.some_ne_none _) fun both => ?_
            exact Bool.noConfusion (qualified.2.symm.trans (both.1 qualified.1))
          · have free : db.text ≠ "" → policy.allowQualifiedTables = true := by
              intro schema
              exact Bool.eq_true_of_not_eq_false fun strict => qualified ⟨schema, strict⟩
            rw [if_neg qualified, and_iff_right free]
            by_cases bound : tableName this db ∈ ctes
            · rw [if_pos bound]
              exact iff_of_true rfl (.inl bound)
            · rw [if_neg bound]
              by_cases listed : tableName this db ∈ allowed
              · rw [if_pos listed]
                exact iff_of_true rfl (.inr listed)
              · rw [if_neg listed]
                exact iff_of_false (Option.some_ne_none _) (not_or.mpr ⟨bound, listed⟩)
        · rw [if_pos elsewhere]
          exact iff_of_false (Option.some_ne_none _) fun both => elsewhere both.1
      · rw [if_pos (by simp [plain])]
        exact iff_of_false (Option.some_ne_none _) fun both => plain both.1
  | _ => exact iff_of_true rfl trivial

theorem check_tree_none (tree : Expression) :
    checkTree policy tree allowedTables = none ↔ Harmless policy allowedTables tree := by
  have everywhere : ∀ test : Expression → Prop, test .absent →
      ((∀ node ∈ walk tree, test node) ↔ ∀ node, Inside tree node → test node) := by
    intro test absent
    constructor
    · intro listed node inside
      by_cases missing : node = .absent
      · rw [missing]
        exact absent
      · exact listed node (inside_walked tree node missing inside)
    · exact fun inner node walked => inner node (walked_inside tree node walked)
  have nodes : (walk tree).findSome? checkNode = none ↔ ∀ node, Inside tree node → checkNode node = none := by
    rw [List.findSome?_eq_none_iff]
    exact everywhere (fun node => checkNode node = none) (by decide)
  have tables : ((walk tree).filter isTable).findSome? (checkTable policy (cteNames tree) (allowedTables.map casefold)) = none ↔
      ∀ node, Inside tree node → Permitted policy (fun name => Bound tree name ∨ name ∈ allowedTables.map casefold) node := by
    rw [List.findSome?_eq_none_iff, ← everywhere _ trivial]
    constructor
    · intro listed node walked
      by_cases table : isTable node = true
      · have passed := listed node (List.mem_filter.mpr ⟨walked, table⟩)
        simpa only [check_table_none, cte_names_iff] using passed
      · cases node with
        | table this db catalog args => exact absurd rfl table
        | _ => trivial
    · intro inner node kept
      have permitted := inner node (List.mem_filter.mp kept).1
      simpa only [check_table_none, cte_names_iff] using permitted
  rw [checkTree]
  by_cases root : tree.className ∈ readOnlyRoots
  · rw [if_neg (not_not.mpr root)]
    cases found : (walk tree).findSome? checkNode with
    | some failure =>
        refine iff_of_false (Option.some_ne_none _) fun harmless => ?_
        have clean := nodes.mpr fun node inside =>
          (check_node_none node).mpr ⟨harmless.operations node inside, fun name => harmless.calls node name inside⟩
        rw [found] at clean
        cases clean
    | none =>
        have passed := nodes.mp found
        dsimp only
        rw [tables]
        constructor
        · intro permitted
          exact ⟨root, fun node inside => ((check_node_none node).mp (passed node inside)).1,
            fun node name inside => ((check_node_none node).mp (passed node inside)).2 name, permitted⟩
        · exact fun harmless => harmless.tables
  · rw [if_pos root]
    exact iff_of_false (Option.some_ne_none _) fun harmless => root harmless.root

end Checks

variable (sqlglot : Sqlglot)

end DataPilot.Sql
