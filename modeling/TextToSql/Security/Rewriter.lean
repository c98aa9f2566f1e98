import TextToSql.Domain.Schema
import TextToSql.Sql.Expression

namespace TextToSql.Security

open Library Domain Sql

def isConnector : NodeType → Bool
  | .and_ | .or_ => true
  | _ => false

section Where

variable {α : Type} (lab : α → Node) (new : Node → α)

def wrapConnector (condition : RoseTree α) : RoseTree α :=
  if isConnector (lab condition.label).type then .node (new { type := .paren }) [condition]
  else condition

def conjoin (existing : Option (RoseTree α)) (predicate : Arg → RoseTree α) : RoseTree α :=
  match existing with
  | none => predicate .this
  | some condition =>
    .node (new { type := .and_ }) [wrapConnector lab new condition, predicate .expression]

def addWhere (predicate : Arg → RoseTree α) (select : RoseTree α) : RoseTree α :=
  let existing := (select.child? fun l ↦ (lab l).key = .where_).bind fun w ↦
    w.child? fun l ↦ (lab l).key = .this
  select.setChild (fun l ↦ (lab l).key = .where_)
    (.node (new { key := .where_, type := .where_ }) [conjoin lab new existing predicate])

end Where

/-- A node of the copied statement and its identity, the path at which it stood in the original.
The nodes that the rewriting adds have none. -/
structure Object where
  id : Option (List Nat)
  node : Node

mutual

def copy (path : List Nat) : Expression → RoseTree Object
  | .node l ts => .node ⟨some path, l⟩ (copyAll path 0 ts)

def copyAll (path : List Nat) (i : Nat) : List Expression → List (RoseTree Object)
  | [] => []
  | t :: ts => copy (i :: path) t :: copyAll path (i + 1) ts

end

mutual

def modify (id : List Nat) (f : RoseTree Object → RoseTree Object) :
    RoseTree Object → RoseTree Object
  | .node o ts => if o.id = some id then f (.node o ts) else .node o (modifyAll id f ts)

def modifyAll (id : List Nat) (f : RoseTree Object → RoseTree Object) :
    List (RoseTree Object) → List (RoseTree Object)
  | [] => []
  | t :: ts => modify id f t :: modifyAll id f ts

end

/-- A table that needs a predicate: its enclosing select, the table and its tenant column. -/
structure Target (σ : Type) where
  scope : σ
  table : TableRef
  column : String

namespace Target

variable {σ : Type} (t : Target σ)

def qualifier : String := t.table.aliasOrName

def description (tenantId : String) : String := s!"{t.qualifier}.{t.column} = {tenantId}"

end Target

variable (py : Python) (schema : DatabaseSchema) (tenantId : String)

def tenantColumn (type : NodeType) : Option (TableRef × String) :=
  type.tableRef.bind fun ref ↦
    ((schema.table py ref.name).bind TableInfo.tenant).map fun column ↦ (ref, column)

def targetOf {α : Type} (lab : α → Node) (visit : RoseTree.Visit α) :
    Option (Target (RoseTree α)) :=
  (tenantColumn py schema (lab visit.2.label).type).bind fun found ↦
    (visit.1.find? fun a ↦ (lab a.label).type.isSelect).map fun scope ↦
      ⟨scope, found.1, found.2⟩

def targets {α : Type} (lab : α → Node) (expr : RoseTree α) : List (Target (RoseTree α)) :=
  (RoseTree.walkUp expr).filterMap (targetOf py schema lab)

def tenantLiteral : NodeType :=
  .literal tenantId (!(tenantId ≠ "" && tenantId.toList.all py.isDigit))

/-- `SAFE_IDENTIFIER_RE`: `^[_a-zA-Z][\w]*$`, where `$` also stands before a final line break. -/
def isSafeIdentifier (name : String) : Bool :=
  match name.toList with
  | [] => false
  | c :: cs =>
    (c == '_' || c.isAlpha) &&
      (if cs.getLast? = some '\n' then cs.dropLast else cs).all py.isWord

/-- `exp.column(column, table=qualifier)`: an identifier is quoted unless it is a safe one. -/
def columnNode (qualifier column : String) : Node where
  type := .column qualifier column
  quoted := (if isSafeIdentifier py qualifier then [] else [.table]) ++
    if isSafeIdentifier py column then [] else [.this]

def buildPredicate (qualifier column : String) (key : Arg) : Expression :=
  .node { key, type := .eq }
    [.node (columnNode py qualifier column) [],
      .node { key := .expression, type := tenantLiteral py tenantId } []]

def newPredicate (qualifier column : String) (key : Arg) : RoseTree Object :=
  (buildPredicate py tenantId qualifier column key).map fun l ↦ ⟨none, l⟩

def applyTarget (expr : RoseTree Object) (t : Target (List Nat)) : RoseTree Object :=
  modify t.scope (addWhere Object.node (⟨none, ·⟩)
    (newPredicate py tenantId t.qualifier t.column)) expr

/-- The identities of the selects and the tables they own, in the order of the first loop. -/
def collectTargets (expr : RoseTree Object) : List (Target (List Nat)) :=
  (targets py schema Object.node expr).map fun t ↦
    ⟨(t.scope.label.id).getD [], t.table, t.column⟩

def rewrite (e : Expression) : Expression × List String :=
  let expr := copy [] e
  let found := collectTargets py schema expr
  ((found.foldl (applyTarget py tenantId) expr).map Object.node,
    found.map fun t ↦ t.description tenantId)

end TextToSql.Security
