import TextToSql.Sql.Normalizer
import TextToSql.Semantics.Relation
import TextToSql.Semantics.Scope

namespace TextToSql.Semantics

open Library Domain Sql

variable {V : Type}

def NodeType.isCte : NodeType → Bool
  | .cte _ _ => true
  | _ => false

def NodeType.isSubquery : NodeType → Bool
  | .subquery _ _ => true
  | _ => false

/-- The rows of the base tables. -/
structure Database (V : Type) where
  rows : TableInfo → List (List V)
  /-- relations outside the catalog -/
  other : TableRef → Result V

inductive Operand (V : Type) where
  | value (v : V)
  | rows (r : Result V)

/-- The values of a database engine and what it computes on them. -/
structure Operations (V : Type) where
  null : V
  isTrue : V → Bool
  /-- literals, operators and scalar functions -/
  apply : NodeType → List (Arg × Operand V) → V
  /-- an aggregate, from its operands at each row of the group -/
  aggregate : NodeType → List (List (Arg × Operand V)) → V
  /-- a query as a value -/
  scalar : Result V → V
  /-- the value of a column that a join merged -/
  merge : List V → V
  /-- a row as a value, where the engine has such values -/
  row : List V → V
  /-- rows that `DISTINCT`, `GROUP BY` and the set operations identify -/
  same : List V → List V → Bool
  /-- the positions of the rows in the order of their sort keys -/
  order : List (List (NodeType × V)) → List Nat
  /-- the number of rows that a bound stands for -/
  count : V → Option Nat

def Operand.toValue (ops : Operations V) : Operand V → V
  | value v => v
  | rows r => ops.scalar r

/-- What the engine does with the parts of an injected predicate. -/
structure Operations.Lawful (ops : Operations V) : Prop where
  and_ : ∀ a b, ops.isTrue (ops.apply .and_ [(.this, a), (.expression, b)]) =
    (ops.isTrue (a.toValue ops) && ops.isTrue (b.toValue ops))
  eq_null : ∀ v, ops.isTrue (ops.apply .eq [(.this, .value ops.null), (.expression, .value v)]) =
    false

abbrev Ctes (V : Type) := List (String × Result V)

/-- The joined rows of the enclosing selects, innermost first, the rows of the current group, and
the select list that a sort key may name. -/
structure Local (V : Type) where
  frames : List (Frame V) := []
  group : List (Frame V) := []
  outputs : List (String × V) := []

namespace Local

def enter (env : Local V) (frame : Frame V) (group : List (Frame V)) : Local V :=
  { frames := frame :: env.frames, group }

def atRow (env : Local V) (frame : Frame V) : Local V :=
  { frames := frame :: env.frames.tail, group := [frame] }

def withOutputs (outputs : List (String × V)) (env : Local V) : Local V := { env with outputs }

def frameOf (env : Local V) (p : Segment V → Bool) : Option (Frame V) :=
  env.frames.find? fun f ↦ f.segments.any p

/-- A column reference; a name that no source shows is one to the row of a source. A name that
denotes nothing, or more than one column, is an error of the statement and reads as null. -/
def column (ops : Operations V) (dialect : SQLDialect) (env : Local V)
    (qualifier name : String) : V :=
  if qualifier = "" then
    match env.outputs.find? fun c ↦ isNamed name c.1 with
    | some c => c.2
    | none =>
      match env.frames.find? (Frame.shows name) with
      | some f => f.unqualified ops.null ops.merge name
      | none =>
        (env.frameOf fun s ↦ isNamed name s.name).elim ops.null fun f ↦ f.row ops.null ops.row name
  else
    (env.frameOf (Segment.answers dialect qualifier name)).elim ops.null fun f ↦
      f.qualified ops.null dialect qualifier name

end Local

/-- What an expression sees of an operand. -/
structure Term (V : Type) where
  /-- the node with the names as the database reads them -/
  node : Node
  aggregates : Bool
  value : Local V → V
  /-- the sort or grouping keys -/
  keys : Local V → List (NodeType × V)
  result : Local V → Result V

structure Meaning (V : Type) where
  term : Term V
  /-- the common table expressions after a definition -/
  bind : Local V → Ctes V
  /-- the rows of a table or a derived table -/
  source : Local V → Relation V
  /-- joins the sources of a clause to those before it -/
  extend : Local V → Relation V → Relation V

structure Interpretation (V : Type) where
  node : Node
  meaning : Ctes V → Meaning V

namespace Term

variable (ops : Operations V) (ts : List (Term V)) (env : Local V)

def args (k : Arg) (ts : List (Term V)) : List (Term V) := ts.filter fun t ↦ t.node.key = k

def arg (k : Arg) (ts : List (Term V)) : Option (Term V) := ts.find? fun t ↦ t.node.key = k

def operand (t : Term V) : Arg × Operand V :=
  (t.node.key, if isQuery t.node.type then .rows (t.result env) else .value (t.value env))

def key (t : Term V) : V :=
  match t.node.type with
  | .literal text false =>
    ((intOfText text).bind fun n ↦ env.outputs[n - 1]?.map Prod.snd).getD (t.value env)
  | _ => t.value env

def inner : V := (ts.head?.map fun t ↦ t.value env).getD ops.null

def valueOf (dialect : SQLDialect) (node : Node) : V :=
  match node.type with
  | .column qualifier name => env.column ops dialect qualifier name
  | .limit | .offset => (arg .expression ts).elim ops.null fun t ↦ t.value env
  | .paren | .alias_ _ | .where_ | .having | .fetch => inner ops ts env
  | .ordered _ => (ts.head?.map fun t ↦ t.key env).getD ops.null
  | .with_ _ => ops.null
  | .func _ true => ops.aggregate node.type
      (env.group.map fun frame ↦ ts.map fun t ↦ t.operand (env.atRow frame))
  | _ => ops.apply node.type (ts.map fun t ↦ t.operand env)

def keysOf (node : Node) : List (NodeType × V) :=
  match node.type with
  | .group | .order => ts.map fun t ↦ (t.node.type, t.key env)
  | _ => []

def aggregatesOf (node : Node) : Bool :=
  match node.type with
  | .func _ true => true
  | .select _ | .setOperation _ _ | .subquery _ _ | .with_ _ => false
  | _ => ts.any Term.aggregates

def ofNode (dialect : SQLDialect) (node : Node) (result : Local V → Result V) : Term V where
  node
  aggregates := aggregatesOf ts node
  value env := if isQuery node.type then ops.scalar (result env) else valueOf ops ts env dialect node
  keys env := keysOf ts env node
  result

end Term

def groupsBy {α : Type} (same : List V → List V → Bool) (key : α → List V) (xs : List α) :
    List (List α) :=
  ((xs.map key).eraseDupsBy same).map fun k ↦ xs.filter fun x ↦ same k (key x)

def differenceBy {α : Type} (same : α → α → Bool) (xs ys : List α) : List α :=
  ys.foldl (fun xs y ↦ xs.eraseP (same y)) xs

def combine (ops : Operations V) (operation : SetOperation) (distinct : Bool)
    (xs ys : List (List V)) : List (List V) :=
  let unique (rows : List (List V)) := if distinct then rows.eraseDupsBy ops.same else rows
  match operation with
  | .union => unique (xs ++ ys)
  | .intersect =>
    if distinct then unique (xs.filter fun x ↦ ys.any (ops.same x))
    else differenceBy ops.same xs (differenceBy ops.same xs ys)
  | .except =>
    if distinct then unique (xs.filter fun x ↦ !ys.any (ops.same x))
    else differenceBy ops.same xs ys

section Queries

variable (ops : Operations V) (ts : List (Term V)) (env : Local V)

def cells (t : Term V) (env : Local V) (frame : Frame V) : List (String × V) :=
  match t.node.type with
  | .star => frame.star ops.null ops.merge
  | .column qualifier name =>
    if name = "*" then (frame.named qualifier).flatMap (Segment.cells ops.null)
    else [(name, t.value env)]
  | .alias_ name | .subquery name _ => [(name, t.value env)]
  | _ => [("", t.value env)]

def projected (frame : Frame V) (env : Local V) : List (String × V) :=
  (Term.args .expressions ts).flatMap fun t ↦ cells ops t env frame

def arrange (rows : List (List V × Local V)) : List (List V) :=
  let sorted := match Term.arg .order ts with
    | none => rows.map Prod.fst
    | some order =>
      (ops.order (rows.map fun row : List V × Local V ↦ order.keys row.2)).filterMap fun i ↦
        rows[i]?.map Prod.fst
  let bound (k : Arg) := (Term.arg k ts).bind fun t ↦ ops.count (t.value env)
  let rest := sorted.drop ((bound .offset).getD 0)
  ((bound .limit).map fun n ↦ rest.take n).getD rest

/-- A row that a select shows: a joined row, or the first one of a group. -/
structure Shown (V : Type) where
  frame : Frame V
  group : List (Frame V)

/-- The environment of a grouping key: a name of the select list counts unless a source has it. -/
def groupingEnv (frame : Frame V) : Local V :=
  let inner := env.enter frame [frame]
  inner.withOutputs ((projected ops ts frame inner).map fun c ↦
    if frame.shows c.1 then ("", c.2) else c)

def isAggregate : Bool :=
  (Term.args .expressions ts).any Term.aggregates || (Term.args .order ts).any Term.aggregates ||
    (Term.arg .having ts).isSome

def unitsOf (blank : Frame V) (kept : List (Frame V)) : List (Shown V) :=
  match Term.arg .group ts with
  | some group =>
    (groupsBy ops.same (fun f ↦ (group.keys (groupingEnv ops ts env f)).map Prod.snd) kept).map
      fun rows ↦ ⟨rows.headD blank, rows⟩
  | none =>
    if isAggregate ts then [⟨kept.headD blank, kept⟩]
    else kept.map fun f ↦ ⟨f, [f]⟩

def selected (distinct : Bool) (blank : Frame V) (kept : List (Frame V)) : Result V :=
  let units := (unitsOf ops ts env blank kept).filter fun u ↦
    (Term.arg .having ts).all fun t ↦ ops.isTrue (t.value (env.enter u.frame u.group))
  let rows := units.map fun u ↦
    let inner := env.enter u.frame u.group
    let row := projected ops ts u.frame inner
    (row.map Prod.snd, inner.withOutputs row)
  let unique := if distinct then rows.eraseDupsBy fun a b ↦ ops.same a.1 b.1 else rows
  { columns := (projected ops ts blank (env.enter blank [])).map Prod.fst
    rows := arrange ops ts env unique }

def arranged (result : Result V) : Result V :=
  { result with
    rows := arrange ops ts env (result.rows.map fun row ↦
      (row, env.withOutputs (result.columns.zip row))) }

end Queries

section Sources

variable (ops : Operations V) (ms : List (Meaning V)) (env : Local V)

def Meaning.arg (k : Arg) (ms : List (Meaning V)) : Option (Meaning V) :=
  ms.find? fun m ↦ m.term.node.key = k

def relationOf : Relation V := ((Meaning.arg .this ms).map fun m ↦ m.source env).getD {}

def extendAll (relation : Relation V) : Relation V :=
  ms.foldl (fun relation m ↦ m.extend env relation) relation

def joinNames (ts : List (Term V)) (method : String) (left right : Frame V) : List String :=
  if method = "NATURAL" then left.columnNames.filter fun name ↦ right.shows name
  else (Term.args .using_ ts).filterMap fun t ↦
    match t.node.type with
    | .identifier name => some name
    | _ => none

def joinCondition (ts : List (Term V)) (names : List String) (left right : Frame V) : Bool :=
  (Term.args .on_ ts).all (fun t ↦
    let frame := left.append names right
    ops.isTrue (t.value (env.enter frame [frame]))) &&
  names.all fun name ↦ ops.isTrue (ops.apply .eq
    [(.this, .value (left.unqualified ops.null ops.merge name)),
      (.expression, .value (right.unqualified ops.null ops.merge name))])

def extendOf (node : Node) (left : Relation V) : Relation V :=
  match node.type with
  | .from_ => left.join false false [] (fun _ _ ↦ true) (relationOf ms env)
  | .join _ side method =>
    let ts := ms.map (·.term)
    let right := relationOf ms env
    let names := joinNames ts method left.blank right.blank
    left.join (side ∈ ["LEFT", "FULL"]) (side ∈ ["RIGHT", "FULL"]) names
      (joinCondition ops env ts names) right
  | _ => left

end Sources

def cteOf (dialect : SQLDialect) (ctes : Ctes V) (ref : TableRef) : Option (Result V) :=
  if ref.db = "" ∧ ref.catalog = "" then
    (ctes.find? fun c ↦ c.1 = ref.relation dialect).map Prod.snd
  else none

def columnsOf (dialect : SQLDialect) (table : TableInfo) : List String :=
  table.columns.map fun column ↦ dialect.fold true column.name

def tableResult (schema : DatabaseSchema) (database : Database V) (ctes : Ctes V)
    (ref : TableRef) : Result V :=
  match cteOf schema.dialect ctes ref with
  | some result => result
  | none =>
    match denoted schema ref with
    | some table => { columns := columnsOf schema.dialect table, rows := database.rows table }
    | none => database.other ref

namespace Interpretation

variable (ops : Operations V) (schema : DatabaseSchema) (database : Database V) (node : Node)
  (ds : List (Interpretation V)) (ctes : Ctes V) (env : Local V)

def meanings : List (Meaning V) := ds.map fun d ↦ d.meaning ctes

def terms : List (Term V) := (meanings ds ctes).map (·.term)

def bound : Ctes V := ds.foldl (fun ctes d ↦ (d.meaning ctes).bind env) ctes

def inside : Ctes V := bound (ds.filter fun d ↦ d.node.type.isWith) ctes env

def clauses : List (Interpretation V) :=
  ds.filter fun d ↦ d.node.key ≠ .where_ ∧ d.node.type.isWith = false

def passes (frame : Frame V) : Bool :=
  (ds.find? fun d ↦ d.node.key = .where_).all fun d ↦
    ops.isTrue ((d.meaning ctes).term.value (env.enter frame [frame]))

/-- The result of a select, from the meanings of its clauses and its condition. -/
def selectResult (ms : List (Meaning V)) (distinct : Bool) (passes : Frame V → Bool) : Result V :=
  let relation := extendAll ms env Relation.unit
  selected ops (ms.map (·.term)) env distinct relation.blank (relation.rows.filter passes)

def operandResult (ts : List (Term V)) (k : Arg) : Result V :=
  ((Term.arg k ts).map fun t ↦ t.result env).getD {}

def resultOf : Result V :=
  let inner := inside ds ctes env
  let ms := meanings (clauses ds) inner
  let ts := ms.map (·.term)
  match node.type with
  | .select distinct => selectResult ops env ms distinct (passes ops ds inner env)
  | .setOperation operation distinct =>
    let left := operandResult env ts .this
    let right := operandResult env ts .expression
    arranged ops ts env
      { left with rows := combine ops operation distinct left.rows right.rows }
  | .subquery _ _ => arranged ops ts env (operandResult env ts .this)
  | _ => {}

def bindOf : Ctes V :=
  match node.type with
  | .with_ _ => bound ds ctes env
  | .cte alias_ columns =>
    let result := operandResult env (terms ds ctes) .this
    (alias_, { result with columns := relabel columns result.columns }) :: ctes
  | _ => ctes

/-- A derived table, or joined tables in parentheses. -/
def derivedSource (ms : List (Meaning V)) (result : Result V) (alias_ : String)
    (columns : List String) : Relation V :=
  if (Meaning.arg .this ms).any fun m ↦ isQuery m.term.node.type then
    extendAll ms env (.single alias_ columns result)
  else
    let relation := extendAll ms env (relationOf ms env)
    if alias_ = "" then relation else relation.collapse ops.null alias_ columns

def sourceOf : Relation V :=
  match node.type with
  | .table ref => extendAll (meanings ds ctes) env
      (.single (ref.exposed schema.dialect) (ref.columnNames schema.dialect)
        (tableResult schema database ctes ref))
  | .subquery alias_ columns =>
    derivedSource ops env (meanings (clauses ds) (inside ds ctes env))
      (resultOf ops node ds ctes env) alias_ columns
  | _ => .unit

variable {ops schema database node ds ctes env}

theorem resultOf_of_not_query (h : isQuery node.type = false) :
    resultOf ops node ds ctes env = {} := by
  rw [resultOf]
  split <;> first | rfl | (rename_i ht; rw [ht] at h; cases h)

theorem bindOf_of_not_definition (hw : node.type.isWith = false)
    (hc : NodeType.isCte node.type = false) : bindOf node ds ctes env = ctes := by
  rw [bindOf]
  split
  · rename_i hn
    rw [hn] at hw
    cases hw
  · rename_i hn
    rw [hn] at hc
    cases hc
  · rfl

theorem sourceOf_of_not_relation (ht : node.type.tableRef = none)
    (hs : NodeType.isSubquery node.type = false) :
    sourceOf ops schema database node ds ctes env = .unit := by
  rw [sourceOf]
  split
  · rename_i hn
    rw [hn] at ht
    cases ht
  · rename_i hn
    rw [hn] at hs
    cases hs
  · rfl

theorem sourceOf_subquery {name : String} {columns : List String}
    (h : node.type = .subquery name columns) :
    sourceOf ops schema database node ds ctes env =
      derivedSource ops env (meanings (clauses ds) (inside ds ctes env))
        (resultOf ops node ds ctes env) name columns := by
  rw [sourceOf, h]

theorem resultOf_folded (dialect : SQLDialect) :
    resultOf ops (node.folded dialect) ds ctes env = resultOf ops node ds ctes env := by
  obtain ⟨key, type, comments, quoted⟩ := node
  cases type <;> rfl

variable (ops schema database node ds)

def ofNode : Interpretation V where
  node
  meaning ctes :=
    { term := .ofNode ops (terms ds ctes) schema.dialect (node.folded schema.dialect) fun env ↦
        resultOf ops node ds ctes env
      bind := fun env ↦ bindOf (node.folded schema.dialect) ds ctes env
      source := fun env ↦ sourceOf ops schema database (node.folded schema.dialect) ds ctes env
      extend := fun env ↦ extendOf ops (meanings ds ctes) env node }

end Interpretation

def denote (ops : Operations V) (schema : DatabaseSchema) (database : Database V)
    (e : Expression) : Interpretation V :=
  RoseTree.fold (Interpretation.ofNode ops schema database) e

@[simp] theorem isQuery_folded (dialect : SQLDialect) (quoted : List Part) (type : NodeType) :
    isQuery (type.folded dialect quoted) = isQuery type := by
  cases type <;> rfl

theorem denote_node (ops : Operations V) (schema : DatabaseSchema) (database : Database V)
    (l : Node) (ts : List Expression) :
    denote ops schema database (.node l ts) =
      Interpretation.ofNode ops schema database l (ts.map (denote ops schema database)) :=
  RoseTree.fold_node _ l ts

/-- The rows that a statement returns. -/
def evaluate (ops : Operations V) (schema : DatabaseSchema) (database : Database V)
    (e : Expression) : Result V :=
  ((denote ops schema database e).meaning []).term.result {}

end TextToSql.Semantics
