import DataPilot.Sql.Acceptance

set_option autoImplicit false

namespace DataPilot.Sql

open DataPilot.Base

def asciiLower (text : String) : String := String.ofList (text.toList.map Char.toLower)

-- What a dialect compares two names by: Postgres takes a quoted identifier as it is
-- and folds the ASCII letters of any other, DuckDB folds them in both.
def nameKey (dialect : String) : Expression → String
  | .identifier this quoted => if dialect = "postgres" ∧ quoted = true then this else asciiLower this
  | node => asciiLower node.text

def sameName (dialect : String) (this aliasNode : Expression) : Bool :=
  decide (aliasNode.text ≠ "") && decide (nameKey dialect this = nameKey dialect aliasNode)

-- Standard SQL scoping, independent of what the guard collects. A scope is the list
-- of the aliases of the CTEs visible at a node: the WITH clause of a node binds for
-- the rest of that node and, one CTE after another, for later siblings; a CTE sees
-- its own name only under RECURSIVE.
def Ctes.bind (scope : List Expression) : Ctes → List Expression
  | .nil => scope
  | .cons aliasNode _ tail => tail.bind (aliasNode :: scope)

def With.bind (scope : List Expression) : With → List Expression
  | .missing => scope
  | .clause _ ctes => ctes.bind scope

-- A schema-qualified name never denotes a CTE.
def denotesCte (dialect : String) (scope : List Expression) (this db catalog : Expression) : Bool :=
  db.text = "" && catalog.text = "" && scope.any (sameName dialect this)

section BaseTables

variable (dialect : String)

mutual

def baseTables (scope : List Expression) : Expression → List Expression
  | .anonymous _ args => baseTablesArguments scope args
  | .table this db catalog args =>
      (if denotesCte dialect scope this db catalog then [] else [.table this db catalog args]) ++ baseTables scope this ++
        baseTables scope db ++ baseTables scope catalog ++ baseTablesArguments scope args
  | .node _ _ _ withClause args =>
      baseTablesWith scope withClause ++ baseTablesArguments (withClause.bind scope) args
  | _ => []

def baseTablesArguments (scope : List Expression) : Arguments → List Expression
  | .nil => []
  | .cons head tail => baseTables scope head ++ baseTablesArguments scope tail

def baseTablesWith (scope : List Expression) : With → List Expression
  | .missing => []
  | .clause recursive ctes => baseTablesCtes recursive scope ctes

def baseTablesCtes (recursive : Bool) (scope : List Expression) : Ctes → List Expression
  | .nil => []
  | .cons aliasNode this tail =>
      baseTables (if recursive then aliasNode :: scope else scope) this ++ baseTablesCtes recursive (aliasNode :: scope) tail

end

end BaseTables

-- The name the guard compares for a reference.
def referenceName : Expression → String
  | .table this db _ _ => tableName this db
  | _ => ""

structure Position where
  visible : List Expression
  node : Expression

def Ctes.pairs : Ctes → List (Expression × Expression)
  | .nil => []
  | .cons aliasNode this tail => (aliasNode, this) :: tail.pairs

-- One step down the tree. What stands beside a WITH clause sees the aliases of it; the
-- body of a CTE sees those of the CTEs before it, and its own under RECURSIVE.
inductive Within : Position → Position → Prop where
  | argument (visible : List Expression) (this : String) (args : Arguments) (child : Expression)
      (member : child ∈ args.list) : Within ⟨visible, .anonymous this args⟩ ⟨visible, child⟩
  | part (visible : List Expression) (this db catalog : Expression) (args : Arguments) (child : Expression)
      (member : child ∈ this :: db :: catalog :: args.list) :
      Within ⟨visible, .table this db catalog args⟩ ⟨visible, child⟩
  | body (visible : List Expression) (cls : String) (isFunc : Bool) (settings : List (String × String)) (withClause : With)
      (args : Arguments) (child : Expression) (member : child ∈ args.list) :
      Within ⟨visible, .node cls isFunc settings withClause args⟩
        ⟨(binders (.node cls isFunc settings withClause args)).reverse ++ visible, child⟩
  | definition (visible : List Expression) (cls : String) (isFunc : Bool) (settings : List (String × String))
      (recursive : Bool) (ctes : Ctes) (args : Arguments) (front back : List (Expression × Expression))
      (aliasNode this : Expression) (listed : ctes.pairs = front ++ (aliasNode, this) :: back) :
      Within ⟨visible, .node cls isFunc settings (.clause recursive ctes) args⟩
        ⟨(if recursive then [aliasNode] else []) ++ (front.map Prod.fst).reverse ++ visible, this⟩

def At : Position → Position → Prop := Relation.ReflTransGen Within

def IsBase (dialect : String) (visible : List Expression) : Expression → Prop
  | .table this db catalog _ => denotesCte dialect visible this db catalog = false
  | _ => False

theorem pairs_below (ctes : Ctes) (aliasNode this : Expression) (member : (aliasNode, this) ∈ ctes.pairs) :
    this ∈ ctes.list := by
  cases ctes with
  | nil => cases member
  | cons first body tail =>
      rw [Ctes.list]
      rcases List.mem_cons.mp member with same | later
      · cases same
        exact List.mem_cons_of_mem _ List.mem_cons_self
      · exact List.mem_cons_of_mem _ (List.mem_cons_of_mem _ (pairs_below tail aliasNode this later))

theorem within_child (parent position : Position) (within : Within parent position) :
    position.node ∈ children parent.node := by
  cases within with
  | argument visible this args child member => exact member
  | part visible this db catalog args child member => exact member
  | body visible cls isFunc settings withClause args child member => exact List.mem_append_left _ member
  | definition visible cls isFunc settings recursive ctes args front back aliasNode this listed =>
      refine List.mem_append_right _ (pairs_below ctes aliasNode this ?_)
      rw [listed]
      exact List.mem_append_right _ List.mem_cons_self

theorem at_inside (start position : Position) (there : At start position) : Inside start.node position.node := by
  induction there with
  | refl => exact Relation.ReflTransGen.refl
  | tail _ within ih => exact ih.tail (within_child _ _ within)

theorem ctes_bind_reverse (scope : List Expression) (ctes : Ctes) : ctes.bind scope = ctes.aliases.reverse ++ scope := by
  cases ctes with
  | nil => rfl
  | cons aliasNode this tail =>
      rw [Ctes.bind, ctes_bind_reverse (aliasNode :: scope) tail, Ctes.aliases, List.reverse_cons, List.append_assoc,
        List.singleton_append]

theorem with_bind_binders (scope : List Expression) (cls : String) (isFunc : Bool) (settings : List (String × String))
    (withClause : With) (args : Arguments) :
    withClause.bind scope = (binders (.node cls isFunc settings withClause args)).reverse ++ scope := by
  cases withClause with
  | missing => rfl
  | clause recursive ctes => exact ctes_bind_reverse scope ctes

section Positions

variable (dialect : String)

theorem arguments_base (scope : List Expression) (args : Arguments) (reference : Expression) :
    reference ∈ baseTablesArguments dialect scope args ↔ ∃ child ∈ args.list, reference ∈ baseTables dialect scope child := by
  cases args with
  | nil => simp [baseTablesArguments, Arguments.list]
  | cons head tail =>
      rw [baseTablesArguments, List.mem_append, arguments_base scope tail reference, Arguments.list,
        List.exists_mem_cons_iff]

theorem ctes_base (recursive : Bool) (scope : List Expression) (ctes : Ctes) (reference : Expression) :
    reference ∈ baseTablesCtes dialect recursive scope ctes ↔
      ∃ front aliasNode this back, ctes.pairs = front ++ (aliasNode, this) :: back ∧
        reference ∈ baseTables dialect
          ((if recursive then [aliasNode] else []) ++ (front.map Prod.fst).reverse ++ scope) this := by
  cases ctes with
  | nil => simp [baseTablesCtes, Ctes.pairs]
  | cons first body tail =>
      rw [baseTablesCtes, List.mem_append, ctes_base recursive (first :: scope) tail reference, Ctes.pairs]
      have own : (if recursive then first :: scope else scope) = (if recursive then [first] else []) ++ scope := by
        cases recursive <;> rfl
      rw [own]
      constructor
      · rintro (here | ⟨front, aliasNode, this, back, listed, later⟩)
        · exact ⟨[], first, body, tail.pairs, rfl, by simpa using here⟩
        · refine ⟨(first, body) :: front, aliasNode, this, back, by rw [listed, List.cons_append], ?_⟩
          simpa using later
      · rintro ⟨front, aliasNode, this, back, listed, found⟩
        cases front with
        | nil =>
            obtain ⟨same, _⟩ := List.cons.inj listed
            cases same
            exact .inl (by simpa using found)
        | cons pair front =>
            obtain ⟨same, rest⟩ := List.cons.inj listed
            obtain rfl := same
            exact .inr ⟨front, aliasNode, this, back, rest, by simpa using found⟩

theorem base_tables_iff (start : Position) (reference : Expression) :
    reference ∈ baseTables dialect start.visible start.node ↔
      (reference = start.node ∧ IsBase dialect start.visible start.node) ∨
        ∃ position, Within start position ∧ reference ∈ baseTables dialect position.visible position.node := by
  obtain ⟨visible, tree⟩ := start
  cases tree with
  | anonymous this args =>
      rw [baseTables, arguments_base]
      constructor
      · rintro ⟨child, member, found⟩
        exact .inr ⟨_, .argument visible this args child member, found⟩
      · rintro (⟨_, never⟩ | ⟨position, within, found⟩)
        · cases never
        · cases within with
          | argument _ _ _ child member => exact ⟨child, member, found⟩
  | table this db catalog args =>
      have parts : reference ∈ baseTables dialect visible (.table this db catalog args) ↔
          (reference = .table this db catalog args ∧ IsBase dialect visible (.table this db catalog args)) ∨
            ∃ child ∈ this :: db :: catalog :: args.list, reference ∈ baseTables dialect visible child := by
        rw [baseTables, IsBase]
        simp only [List.mem_append, arguments_base, List.exists_mem_cons_iff, or_assoc]
        refine or_congr_left ?_
        cases denotesCte dialect visible this db catalog <;> simp
      rw [parts]
      refine or_congr_right ?_
      constructor
      · rintro ⟨child, member, found⟩
        exact ⟨_, .part visible this db catalog args child member, found⟩
      · rintro ⟨position, within, found⟩
        cases within with
        | part _ _ _ _ _ child member => exact ⟨child, member, found⟩
  | node cls isFunc settings withClause args =>
      rw [baseTables, List.mem_append, with_bind_binders visible cls isFunc settings withClause args, arguments_base]
      constructor
      · rintro (inWith | ⟨child, member, found⟩)
        · cases withClause with
          | missing => cases inWith
          | clause recursive ctes =>
              rw [baseTablesWith, ctes_base] at inWith
              obtain ⟨front, aliasNode, this, back, listed, found⟩ := inWith
              exact .inr ⟨_, .definition visible cls isFunc settings recursive ctes args front back aliasNode this listed, found⟩
        · exact .inr ⟨_, .body visible cls isFunc settings withClause args child member, found⟩
      · rintro (⟨_, never⟩ | ⟨position, within, found⟩)
        · cases never
        · cases within with
          | body _ _ _ _ _ _ child member => exact .inr ⟨child, member, found⟩
          | definition _ _ _ _ recursive ctes _ front back aliasNode this listed =>
              exact .inl ((ctes_base dialect recursive visible ctes reference).mpr ⟨front, aliasNode, this, back, listed, found⟩)
  | _ =>
      constructor
      · intro never
        cases never
      · rintro (⟨_, never⟩ | ⟨_, within, _⟩)
        · cases never
        · cases within

theorem base_tables_at (start : Position) (reference : Expression) :
    reference ∈ baseTables dialect start.visible start.node ↔
      ∃ visible, At start ⟨visible, reference⟩ ∧ IsBase dialect visible reference := by
  constructor
  · intro base
    rcases (base_tables_iff dialect start reference).mp base with ⟨rfl, own⟩ | ⟨position, within, below⟩
    · exact ⟨start.visible, Relation.ReflTransGen.refl, own⟩
    · have smaller := child_smaller _ _ (within_child start position within)
      obtain ⟨visible, there, outside⟩ := (base_tables_at position reference).mp below
      exact ⟨visible, Relation.ReflTransGen.head within there, outside⟩
  · rintro ⟨visible, there, outside⟩
    induction there using Relation.ReflTransGen.head_induction_on with
    | refl => exact (base_tables_iff dialect _ reference).mpr (.inl ⟨rfl, outside⟩)
    | head within _ ih => exact (base_tables_iff dialect _ reference).mpr (.inr ⟨_, within, ih⟩)
termination_by sizeOf start.node

end Positions

end DataPilot.Sql
