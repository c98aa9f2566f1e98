import TextToSql.Domain.Schema
import TextToSql.Sql.Expression

namespace TextToSql.Domain

namespace SQLDialect

/-- The identifier that the database reads where a name is written, in quotes or without them. -/
def fold (dialect : SQLDialect) (quoted : Bool) (name : String) : String :=
  match dialect, quoted with
  | .postgres, true => name
  | _, _ => asciiLower name

/-- The words that cannot stand for a column or a table where they are written without quotes. -/
def keyWords : SQLDialect → List String
  | .sqlite => ["add", "all", "alter", "and", "as", "autoincrement", "between", "case", "check",
      "collate", "commit", "constraint", "create", "default", "deferrable", "delete", "distinct",
      "drop", "else", "escape", "except", "exists", "foreign", "from", "group", "having", "in",
      "index", "insert", "intersect", "into", "is", "isnull", "join", "limit", "not", "nothing",
      "notnull", "null", "on", "or", "order", "primary", "references", "returning", "select", "set",
      "table", "then", "to", "transaction", "union", "unique", "update", "using", "values", "when",
      "where"]
  | .postgres => ["all", "analyse", "analyze", "and", "any", "array", "as", "asc", "asymmetric",
      "authorization", "binary", "both", "case", "cast", "check", "collate", "collation", "column",
      "concurrently", "constraint", "create", "cross", "current_catalog", "current_date",
      "current_role", "current_schema", "current_time", "current_timestamp", "current_user",
      "default", "deferrable", "desc", "distinct", "do", "else", "end", "except", "false", "fetch",
      "for", "foreign", "freeze", "from", "full", "grant", "group", "having", "ilike", "in",
      "initially", "inner", "intersect", "into", "is", "isnull", "join", "lateral", "leading",
      "left", "like", "limit", "localtime", "localtimestamp", "natural", "not", "notnull", "null",
      "offset", "on", "only", "or", "order", "outer", "overlaps", "placing", "primary",
      "references", "returning", "right", "select", "session_user", "similar", "some", "symmetric",
      "system_user", "table", "tablesample", "then", "to", "trailing", "true", "union", "unique",
      "user", "using", "variadic", "verbose", "when", "where", "window", "with"]

/-- Those that cannot stand after a dot either. -/
def keyWordsAfterDot : SQLDialect → List String
  | .sqlite => keyWords .sqlite
  | .postgres => []

variable {dialect : SQLDialect} {quoted quoted' : Bool} {s t : String}

theorem fold_sameLetters (dialect : SQLDialect) (quoted : Bool) (s : String) :
    SameLetters (dialect.fold quoted s) s := by
  cases dialect with
  | sqlite => exact SameLetters.asciiLower_left s
  | postgres =>
    cases quoted with
    | false => exact SameLetters.asciiLower_left s
    | true => exact SameLetters.refl s

theorem sameLetters_of_fold_eq (h : dialect.fold quoted s = dialect.fold quoted' t) :
    SameLetters s t :=
  (fold_sameLetters dialect quoted s).symm.trans (h ▸ fold_sameLetters dialect quoted' t)

theorem fold_star (dialect : SQLDialect) : dialect.fold quoted "*" = "*" := by
  cases dialect <;> cases quoted <;> decide

theorem fold_eq_empty : dialect.fold quoted s = "" ↔ s = "" :=
  (fold_sameLetters dialect quoted s).eq_empty_iff

end SQLDialect

end TextToSql.Domain

namespace TextToSql.Sql

open Library Domain

variable (dialect : SQLDialect)

def foldColumns (quoted : List Part) (columns : List String) : List String :=
  columns.zipIdx.map fun c ↦ dialect.fold (.column c.2 ∈ quoted) c.1

namespace TableRef

variable (ref : TableRef)

/-- The name under which the columns of the reference can be qualified. -/
def exposed : String :=
  dialect.fold ((if ref.alias_ = "" then Part.this else .alias_) ∈ ref.quoted) ref.aliasOrName

def relation : String := dialect.fold (.this ∈ ref.quoted) ref.name

def schemaName : String := dialect.fold (.db ∈ ref.quoted) ref.db

def columnNames : List String := foldColumns dialect ref.quoted ref.columns

theorem exposed_sameLetters : SameLetters (ref.exposed dialect) ref.aliasOrName :=
  dialect.fold_sameLetters _ _

theorem relation_sameLetters : SameLetters (ref.relation dialect) ref.name :=
  dialect.fold_sameLetters _ _

end TableRef

/-- The node with the identifiers that the database reads for its names; a table reference keeps
the names as they are written. -/
def NodeType.folded (quoted : List Part) : NodeType → NodeType
  | .subquery name columns =>
    .subquery (dialect.fold (.alias_ ∈ quoted) name) (foldColumns dialect quoted columns)
  | .lateral name columns =>
    .lateral (dialect.fold (.alias_ ∈ quoted) name) (foldColumns dialect quoted columns)
  | .cte name columns =>
    .cte (dialect.fold (.alias_ ∈ quoted) name) (foldColumns dialect quoted columns)
  | .column qualifier name =>
    .column (dialect.fold (.table ∈ quoted) qualifier) (dialect.fold (.this ∈ quoted) name)
  | .identifier name => .identifier (dialect.fold (.this ∈ quoted) name)
  | .alias_ name => .alias_ (dialect.fold (.alias_ ∈ quoted) name)
  | type => type

section

variable {dialect : SQLDialect} {quoted : List Part} {type : NodeType} {name : String}
  {columns : List String}

@[simp] theorem NodeType.isWith_folded : (type.folded dialect quoted).isWith = type.isWith := by
  cases type <;> rfl

theorem NodeType.eq_table_of_folded {ref : TableRef}
    (h : type.folded dialect quoted = .table ref) : type = .table ref := by
  cases type <;> first | exact h | cases h

theorem NodeType.eq_subquery_of_folded (h : type.folded dialect quoted = .subquery name columns) :
    ∃ name' columns', type = .subquery name' columns' ∧ SameLetters name name' := by
  cases type <;> cases h
  exact ⟨_, _, rfl, dialect.fold_sameLetters _ _⟩

theorem NodeType.eq_cte_of_folded (h : type.folded dialect quoted = .cte name columns) :
    ∃ name' columns', type = .cte name' columns' ∧ SameLetters name name' := by
  cases type <;> cases h
  exact ⟨_, _, rfl, dialect.fold_sameLetters _ _⟩

end

def Node.folded (l : Node) : Node := { l with type := l.type.folded dialect l.quoted }

@[simp] theorem Node.folded_key (l : Node) : (l.folded dialect).key = l.key := rfl

@[simp] theorem Node.folded_type (l : Node) :
    (l.folded dialect).type = l.type.folded dialect l.quoted := rfl

theorem Node.folded_eq {l : Node} (h : l.type.folded dialect l.quoted = l.type) :
    l.folded dialect = l := by
  rw [Node.folded, h]

end TextToSql.Sql
