import TextToSql.Library.Frames
import TextToSql.Sql.Identifiers
import TextToSql.Sql.Validator

namespace TextToSql.Semantics

open Library Domain Sql

/-- A reference names a table of the catalog, in the schema that it writes if it writes one. The
catalog has the names of the database as they are. -/
def Denotes (schema : DatabaseSchema) (ref : TableRef) (table : TableInfo) : Prop :=
  table ∈ schema.tables ∧ ref.name ≠ "" ∧ ref.catalog = "" ∧
    ref.relation schema.dialect = schema.dialect.fold true table.name ∧
    (ref.db = "" ∨
      ref.schemaName schema.dialect = schema.dialect.fold true (table.schemaName.getD ""))

def matchesTable (dialect : SQLDialect) (ref : TableRef) (table : TableInfo) : Bool :=
  ref.name ≠ "" ∧ ref.catalog = "" ∧ ref.relation dialect = dialect.fold true table.name ∧
    (ref.db = "" ∨ ref.schemaName dialect = dialect.fold true (table.schemaName.getD ""))

/-- The catalog table that a reference denotes, the first one if several schemas have it. -/
def denoted (schema : DatabaseSchema) (ref : TableRef) : Option TableInfo :=
  schema.tables.find? (matchesTable schema.dialect ref)

theorem denotes_of_denoted {schema : DatabaseSchema} {ref : TableRef} {table : TableInfo}
    (h : denoted schema ref = some table) : Denotes schema ref table :=
  ⟨List.mem_of_find?_eq_some h, by simpa [matchesTable] using List.find?_some h⟩

/-- A base-table column and the reference through which it is reached. -/
structure Origin where
  ref : TableRef
  table : TableInfo
  column : ColumnInfo

/-- A column that a source shows; the columns of derived tables have no origin of their own. -/
structure Output where
  name : String
  origin : Option Origin := none

/-- An item of a `FROM` clause. -/
structure Source where
  name : String
  columns : List Output

namespace Source

def isNamed (name : String) (s : Source) : Bool := decide (s.name = name)

def shows (name : String) (s : Source) : Bool := s.columns.any fun c ↦ c.name = name

/-- A column reference can mean the source. SQLite passes over a source of the name that does not
show the column, PostgreSQL does not. -/
def answers (dialect : SQLDialect) (qualifier name : String) (s : Source) : Bool :=
  if qualifier = "" then s.shows name
  else s.isNamed qualifier && (dialect = .postgres || s.shows name)

theorem name_of_answers {dialect : SQLDialect} {qualifier name : String} {s : Source}
    (hq : qualifier ≠ "") (h : s.answers dialect qualifier name = true) : s.name = qualifier := by
  rw [answers, if_neg hq, Bool.and_eq_true] at h
  exact of_decide_eq_true h.1

end Source

/-- How a column is read: by a column reference as it is written, by one to the row of a source, by
a join or by a star. -/
inductive Via where
  | column (qualifier name : String)
  | row (source : String)
  | using_ (name : String)
  | natural
  | star
  deriving DecidableEq

structure Read where
  via : Via
  shown : String
  origin : Origin

/-- The names in scope, as the database reads them: CTEs with their columns, the sources of the
enclosing selects, innermost first, and the select-list names that a sort key may use. -/
structure Scope where
  ctes : List (String × List String) := []
  frames : List (List Source) := []
  outputs : List String := []

namespace Scope

def push (frame : List Source) (scope : Scope) : Scope :=
  { scope with frames := frame :: scope.frames, outputs := [] }

def pop (scope : Scope) : Scope := { scope with frames := scope.frames.tail, outputs := [] }

def withOutputs (outputs : List String) (scope : Scope) : Scope := { scope with outputs }

def here (scope : Scope) : List Source := scope.frames.headD []

def cte (dialect : SQLDialect) (scope : Scope) (ref : TableRef) : Option (List String) :=
  if ref.db = "" ∧ ref.catalog = "" then
    (scope.ctes.find? fun c ↦ c.1 = ref.relation dialect).map Prod.snd
  else none

end Scope

def rename : List String → List Output → List Output
  | name :: names, o :: os => { o with name } :: rename names os
  | [], os => os
  | _ :: _, [] => []

def readsOf (via : Via) (outputs : List Output) : List Read :=
  outputs.filterMap fun o ↦ o.origin.map fun origin ↦ ⟨via, o.name, origin⟩

def starReads (sources : List Source) : List Read :=
  readsOf .star (sources.flatMap (·.columns))

def columnReads (via : Via) (name : String) (sources : List Source) : List Read :=
  readsOf via (sources.flatMap fun s ↦ s.columns.filter fun c ↦ c.name = name)

/-- All columns of the sources that a name stands for, in a database with values for rows. -/
def rowReads (dialect : SQLDialect) (name : String) (sources : List Source) : List Read :=
  if dialect = .postgres then readsOf (.row name) (sources.flatMap (·.columns)) else []

/-- The columns that a column reference reads. A name that no source shows can stand for the row of
a source, and one that its own source does not show for a function of the row. -/
def resolve (dialect : SQLDialect) (scope : Scope) (via : Via) (qualifier name : String) :
    List Read :=
  if name = "*" then starReads (innermost (Source.isNamed qualifier) scope.frames)
  else if qualifier = "" then
    if name ∈ scope.outputs then []
    else if (innermost (Source.shows name) scope.frames).isEmpty then
      rowReads dialect name (innermost (Source.isNamed name) scope.frames)
    else columnReads via name (innermost (Source.shows name) scope.frames)
  else
    let sources := innermost (Source.answers dialect qualifier name) scope.frames
    columnReads via name sources ++
      rowReads dialect qualifier (sources.filter fun s ↦ !s.shows name)

def usingReads (scope : Scope) (name : String) : List Read :=
  columnReads (.using_ name) name scope.here

def naturalReads (left right : List Source) : List Read :=
  readsOf .natural
    ((left.flatMap fun s ↦ s.columns.filter fun c ↦ right.any (Source.shows c.name)) ++
      right.flatMap fun s ↦ s.columns.filter fun c ↦ left.any (Source.shows c.name))

structure Scoped where
  /-- the node with the names as the database reads them -/
  node : Node
  /-- the column names of a query -/
  outputs : Scope → List String
  /-- the scope after the definitions of a `WITH` clause -/
  bind : Scope → Scope
  /-- the sources of a relation, a `FROM` or a join -/
  sources : Scope → List Source
  /-- the table references that are not names of CTEs -/
  tables : Scope → List TableRef
  /-- the base-table columns read; the sources of a join include its own -/
  reads : Scope → List Read

namespace Scoped

def isRelationClause (m : Scoped) : Bool :=
  match m.node.type with
  | .from_ | .join _ _ _ | .lateral _ _ => true
  | _ => false

def isWith (m : Scoped) : Bool :=
  match m.node.type with
  | .with_ _ => true
  | _ => false

def isLateral (m : Scoped) : Bool :=
  match m.node.type with
  | .lateral _ _ => true
  | _ => false

def isQuery (m : Scoped) : Bool := Sql.isQuery m.node.type

def args (k : Arg) (ms : List Scoped) : List Scoped := ms.filter fun m ↦ m.node.key = k

def bindAll (ms : List Scoped) (scope : Scope) : Scope := ms.foldl (fun scope m ↦ m.bind scope) scope

def sequentially {α : Type} (f : Scoped → Scope → List α) : List Scoped → Scope → List α
  | [], _ => []
  | m :: ms, scope => f m scope ++ sequentially f ms (m.bind scope)

def definitions {α : Type} (recursive : Bool) (f : Scoped → Scope → List α) (ms : List Scoped)
    (scope : Scope) : List α :=
  if recursive then ms.flatMap fun m ↦ f m (bindAll ms scope) else sequentially f ms scope

def projectionNames (sources : List Source) (m : Scoped) : List String :=
  match m.node.type with
  | .alias_ name => [name]
  | .column qualifier name =>
    if name = "*" then
      ((sources.filter (Source.isNamed qualifier)).flatMap (·.columns)).map (·.name)
    else [name]
  | .star => (sources.flatMap (·.columns)).map (·.name)
  | _ => [""]

def selectOutputs (ms : List Scoped) (sources : List Source) : List String :=
  (args .expressions ms).flatMap (projectionNames sources)

def innerOutputs (ms : List Scoped) (scope : Scope) : List String :=
  (args .this ms).flatMap fun m ↦ m.outputs scope

def unnamed (names : List String) : List Output := names.map fun name ↦ { name }

def renamedOutputs (columns : List String) (ms : List Scoped) (scope : Scope) : List Output :=
  rename columns (unnamed (innerOutputs ms scope))

def clauseSources (ms : List Scoped) (scope : Scope) : List Source :=
  (ms.filter isRelationClause).flatMap fun m ↦ m.sources scope

def relationSources (ms : List Scoped) (scope : Scope) : List Source :=
  (args .this ms).flatMap fun m ↦ m.sources scope

def tableOutputs (schema : DatabaseSchema) (scope : Scope) (ref : TableRef) : List Output :=
  match scope.cte schema.dialect ref with
  | some names => rename (ref.columnNames schema.dialect) (unnamed names)
  | none =>
    match denoted schema ref with
    | none => unnamed (ref.columnNames schema.dialect)
    | some table =>
      rename (ref.columnNames schema.dialect) (table.columns.map fun column ↦
        { name := schema.dialect.fold true column.name, origin := some ⟨ref, table, column⟩ })

/-- A derived table shows the columns of its query; parentheses around joined tables show theirs,
under the new alias if there is one. -/
def derivedSources (alias_ : String) (columns : List String) (ms : List Scoped)
    (scope : Scope) : List Source :=
  if (args .this ms).any isQuery then
    [⟨alias_, renamedOutputs columns ms (bindAll ms scope)⟩]
  else if alias_ = "" then relationSources ms scope
  else [⟨alias_, rename columns ((relationSources ms scope).flatMap (·.columns))⟩]

def lateralSources (alias_ : String) (columns : List String) (ms : List Scoped)
    (scope : Scope) : List Source :=
  if (args .this ms).any isQuery then [⟨alias_, renamedOutputs columns ms scope⟩]
  else [⟨alias_, unnamed columns⟩]

def inertReads (ms : List Scoped) (scope : Scope) : List Read :=
  ms.flatMap fun m ↦ m.reads (scope.withOutputs [])

def clauseReads (inner : Scope) (sources upTo : List Source) (outputs : List String)
    (m : Scoped) : List Read :=
  match m.node.type with
  | .with_ _ => []
  | .from_ => m.reads inner
  | .join _ _ _ | .lateral _ _ => m.reads (inner.push upTo)
  | .order => m.reads ((inner.push sources).withOutputs outputs)
  | .group =>
    m.reads ((inner.push sources).withOutputs (outputs.filter fun name ↦
      !sources.any (Source.shows name)))
  | .star => starReads sources
  | _ => m.reads (inner.push sources)

def clausesReads (inner : Scope) (sources : List Source) (outputs : List String) :
    List Source → List Scoped → List Read
  | _, [] => []
  | before, m :: ms =>
    let upTo := before ++ if m.isRelationClause then m.sources inner else []
    clauseReads inner sources upTo outputs m ++ clausesReads inner sources outputs upTo ms

def joinReads (method : String) (ms : List Scoped) (scope : Scope) : List Read :=
  let own := relationSources ms scope.pop
  (ms.flatMap fun m ↦
    if m.node.key = .this ∧ m.isLateral = false then m.reads scope.pop else m.reads scope) ++
  if method = "NATURAL" then
    naturalReads (scope.here.take (scope.here.length - own.length)) own
  else []

def withReads (ms : List Scoped) (scope : Scope) : List Read :=
  (ms.filter isWith).flatMap fun m ↦ m.reads scope

def selectReads (ms : List Scoped) (scope : Scope) : List Read :=
  let inner := bindAll ms scope
  let sources := clauseSources ms inner
  withReads ms scope ++ clausesReads inner sources (selectOutputs ms sources) [] ms

def setReads (ms : List Scoped) (scope : Scope) : List Read :=
  let inner := bindAll ms scope
  let outputs := innerOutputs ms inner
  withReads ms scope ++
    (ms.filter fun m ↦ !m.isWith).flatMap fun m ↦
      if m.isQuery then m.reads inner
      else m.reads ((inner.push [⟨"", unnamed outputs⟩]).withOutputs outputs)

variable (schema : DatabaseSchema) (node : Node) (ms : List Scoped) (scope : Scope)

def outputsOf : List String :=
  match node.type with
  | .select _ => selectOutputs ms (clauseSources ms (bindAll ms scope))
  | .setOperation _ _ => innerOutputs ms (bindAll ms scope)
  | .subquery _ columns => (renamedOutputs columns ms (bindAll ms scope)).map (·.name)
  | _ => []

def bindOf : Scope :=
  match node.type with
  | .with_ _ => bindAll ms scope
  | .cte alias_ columns =>
    { scope with ctes := (alias_, (renamedOutputs columns ms scope).map (·.name)) :: scope.ctes }
  | _ => scope

def sourcesOf : List Source :=
  match node.type with
  | .table ref =>
    ⟨ref.exposed schema.dialect, tableOutputs schema scope ref⟩ :: clauseSources ms scope
  | .subquery alias_ columns => derivedSources alias_ columns ms scope
  | .lateral alias_ columns => lateralSources alias_ columns ms scope
  | .from_ | .join _ _ _ => relationSources ms scope
  | _ => []

def tablesOf : List TableRef :=
  match node.type with
  | .select _ | .setOperation _ _ | .subquery _ _ =>
    ms.flatMap fun m ↦ if m.isWith then m.tables scope else m.tables (bindAll ms scope)
  | .with_ recursive => definitions recursive Scoped.tables ms scope
  | .table ref =>
    (if (scope.cte schema.dialect ref).isSome then [] else [ref]) ++ ms.flatMap (·.tables scope)
  | _ => ms.flatMap (·.tables scope)

def readsOfNode : List Read :=
  match node.type with
  | .select _ => selectReads ms scope
  | .setOperation _ _ | .subquery _ _ => setReads ms scope
  | .with_ recursive => definitions recursive Scoped.reads ms scope
  | .join _ _ method => joinReads method ms scope
  | .table ref =>
    let own : Source := ⟨ref.exposed schema.dialect, tableOutputs schema scope ref⟩
    clausesReads scope (own :: clauseSources ms scope) [] [own] ms
  | .column qualifier name =>
    resolve schema.dialect scope (.column qualifier name)
        (schema.dialect.fold (.table ∈ node.quoted) qualifier)
        (schema.dialect.fold (.this ∈ node.quoted) name) ++
      inertReads ms scope
  | .identifier name =>
    usingReads scope (schema.dialect.fold (.this ∈ node.quoted) name) ++ inertReads ms scope
  | .order | .ordered _ | .group => ms.flatMap (·.reads scope)
  | _ => inertReads ms scope

def ofNode : Scoped where
  node := node.folded schema.dialect
  outputs := outputsOf (node.folded schema.dialect) ms
  bind := bindOf (node.folded schema.dialect) ms
  sources := sourcesOf schema (node.folded schema.dialect) ms
  tables := tablesOf schema node ms
  reads := readsOfNode schema node ms

end Scoped

def scoping (schema : DatabaseSchema) (e : Expression) : Scoped :=
  RoseTree.fold (Scoped.ofNode schema) e

theorem scoping_node (schema : DatabaseSchema) (l : Node) (ts : List Expression) :
    scoping schema (.node l ts) = Scoped.ofNode schema l (ts.map (scoping schema)) :=
  RoseTree.fold_node _ l ts

/-- The references to base tables, each resolved at its own position. -/
def baseTables (schema : DatabaseSchema) (e : Expression) : List TableRef :=
  (scoping schema e).tables {}

/-- The base-table columns that a statement reads, each resolved at its own position. -/
def reads (schema : DatabaseSchema) (e : Expression) : List Read := (scoping schema e).reads {}

end TextToSql.Semantics
