import TextToSql.Library.Tree
import TextToSql.Domain.Text

namespace TextToSql.Sql

open Library Domain

/-- The argument of its parent that a node fills. -/
inductive Arg where
  | this | expression | expressions | with_ | from_ | joins | where_ | group | having | order
  | limit | offset | on_ | using_ | into | locks | query
  | other (name : String)
  deriving DecidableEq

inductive SetOperation where
  | union | intersect | except
  deriving DecidableEq

/-- The statements that are not queries. -/
inductive StatementKind where
  | insert | update | delete | merge | drop | alter | create | set
  | transaction | commit | rollback | truncateTable | grant | revoke | pragma
  | command (keyword : String)
  deriving DecidableEq

/-- An identifier of a node. -/
inductive Part where
  | this | table | db | catalog | alias_
  | column (index : Nat)
  deriving DecidableEq

structure TableRef where
  catalog : String := ""
  db : String := ""
  name : String
  alias_ : String := ""
  columns : List String := []
  /-- the identifiers that are written in quotes -/
  quoted : List Part := []
  deriving DecidableEq

inductive NodeType where
  | select (distinct : Bool)
  | setOperation (operation : SetOperation) (distinct : Bool)
  | subquery (alias_ : String) (columns : List String)
  | lateral (alias_ : String) (columns : List String)
  | with_ (recursive : Bool)
  | cte (alias_ : String) (columns : List String)
  | from_ | where_ | group | having | order | limit | fetch | offset | into | lock
  | join (kind side method : String)
  | ordered (desc : Bool)
  | table (ref : TableRef)
  | column (table name : String)
  | star
  | identifier (name : String)
  | alias_ (name : String)
  | literal (text : String) (isString : Bool)
  | eq | and_ | or_ | paren | exists_
  | func (sqlName : String) (aggregate : Bool)
  | anonymous (name : String)
  | operator (name : String)
  | statement (kind : StatementKind)
  | other (name : String)
  deriving DecidableEq

/-- One node of a parsed statement. Its identifiers are part of it and not nodes of their own; those
of a table are marked as quoted in its reference. -/
structure Node where
  key : Arg := .this
  type : NodeType
  comments : List String := []
  /-- the identifiers that are written in quotes -/
  quoted : List Part := []
  deriving DecidableEq

abbrev Expression := RoseTree Node

/-- `exp.Func`: the connectives and `EXISTS` are functions too. -/
def NodeType.isFunc : NodeType → Bool
  | .func _ _ | .anonymous _ | .and_ | .or_ | .exists_ => true
  | _ => false

def NodeType.isSelect : NodeType → Bool
  | .select _ => true
  | _ => false

def NodeType.isJoin : NodeType → Bool
  | .join _ _ _ => true
  | _ => false

def NodeType.isWith : NodeType → Bool
  | .with_ _ => true
  | _ => false

def NodeType.tableRef : NodeType → Option TableRef
  | .table ref => some ref
  | _ => none

namespace TableRef

/-- `table.alias or table.name`. -/
def aliasOrName (ref : TableRef) : String := if ref.alias_ = "" then ref.name else ref.alias_

end TableRef

namespace Expression

def mk (key : Arg) (type : NodeType) (children : List Expression) : Expression :=
  .node { key, type } children

def arg (k : Arg) (e : Expression) : Option Expression := e.child? fun l ↦ l.key = k

def args (k : Arg) (e : Expression) : List Expression := e.children.filter fun c ↦ c.label.key = k

def setArg (e : Expression) (k : Arg) (value : Expression) : Expression :=
  e.setChild (fun l ↦ l.key = k) value

def walk (e : Expression) : List Expression := RoseTree.walk e

def findAll (p : NodeType → Bool) (e : Expression) : List Expression :=
  e.walk.filter fun n ↦ p n.label.type

/-- The data of the nodes on which `f` is defined, in the order of `find_all`. -/
def collect {α : Type} (f : NodeType → Option α) (e : Expression) : List α :=
  e.walk.filterMap fun n ↦ f n.label.type

def tables (e : Expression) : List TableRef := e.collect NodeType.tableRef

theorem mem_findAll {p : NodeType → Bool} {e n : Expression} :
    n ∈ e.findAll p ↔ n ∈ e.walk ∧ p n.label.type := List.mem_filter

theorem mem_collect {α : Type} {f : NodeType → Option α} {e : Expression} {x : α} :
    x ∈ e.collect f ↔ ∃ n ∈ e.walk, f n.label.type = some x := List.mem_filterMap

theorem mem_tables {e : Expression} {ref : TableRef} :
    ref ∈ e.tables ↔ ∃ n ∈ e.walk, n.label.type = .table ref := by
  simp only [tables, mem_collect]
  refine exists_congr fun n ↦ and_congr_right fun _ ↦ ?_
  cases n.label.type <;> simp [NodeType.tableRef]

end Expression

end TextToSql.Sql
