import TextToSql.Sql.Parser

namespace TextToSql.Sql

open Library Domain

def defaultFunctionDenylist : List String :=
  ["pg_sleep", "sleep", "benchmark", "pg_read_file", "pg_read_binary_file", "pg_ls_dir",
    "pg_stat_file", "lo_import", "lo_export", "load_extension", "readfile", "writefile",
    "load_file", "dblink", "dblink_exec", "copy", "xp_cmdshell", "system", "current_setting",
    "set_config", "pg_terminate_backend", "pg_cancel_backend", "query_to_xml",
    "pg_client_encoding"]

def systemSchemas : List String := ["information_schema", "pg_catalog", "pg_temp", "sys"]

def systemTablePrefixes : List String := ["pg_", "sqlite_"]

/-- The lower-cased type name of a node that must not appear in a read-only query. -/
def forbiddenName : NodeType → Option String
  | .statement .insert => some "insert"
  | .statement .update => some "update"
  | .statement .delete => some "delete"
  | .statement .merge => some "merge"
  | .statement .drop => some "drop"
  | .statement .alter => some "alter"
  | .statement .create => some "create"
  | .statement .set => some "set"
  | .statement .transaction => some "transaction"
  | .statement .commit => some "commit"
  | .statement .rollback => some "rollback"
  | .statement (.command _) => some "command"
  | .statement .truncateTable => some "truncatetable"
  | .statement .grant => some "grant"
  | .statement .revoke => some "revoke"
  | _ => none

structure ValidationOutcome where
  isValid : Bool
  statementType : StatementType
  expression : Option Expression
  referencedTables : List String := []
  referencedColumns : List String := []
  issues : List ValidationIssue := []

namespace ValidationOutcome

def add (outcome : ValidationOutcome) (issue : ValidationIssue) : ValidationOutcome :=
  { outcome with isValid := false, issues := addIssue outcome.issues issue }

def addAll (outcome : ValidationOutcome) (found : List ValidationIssue) : ValidationOutcome :=
  found.foldl add outcome

theorem addAll_eq (outcome : ValidationOutcome) (found : List ValidationIssue) :
    outcome.addAll found =
      { outcome with
        isValid := outcome.isValid && found.isEmpty
        issues := addIssues outcome.issues found } := by
  rw [addAll, addIssues]
  induction found generalizing outcome with
  | nil => simp
  | cons i is ih => simp [ih, add]

end ValidationOutcome

def quote : Char := Char.ofNat 0x27

/-- What follows the longest match of the rest of a string literal: a doubled quote closes the
literal only when nothing after it does. -/
def closeLiteral : List Char → Option (List Char)
  | [] => none
  | [c] => if c = quote then some [] else none
  | c :: d :: cs =>
    if c = quote then
      if d = quote then (closeLiteral cs).or (some (d :: cs)) else some (d :: cs)
    else closeLiteral (d :: cs)

/-- `_STRING_LITERAL.sub` with an empty literal; `fuel` bounds the characters left. -/
def stripLiterals : Nat → List Char → List Char
  | 0, cs => cs
  | _ + 1, [] => []
  | fuel + 1, c :: cs =>
    if c = quote then
      match closeLiteral cs with
      | some rest => quote :: quote :: stripLiterals fuel rest
      | none => c :: stripLiterals fuel cs
    else c :: stripLiterals fuel cs

def hasCommentMarker : List Char → Bool
  | [] => false
  | [c] => c == '#'
  | c :: d :: cs =>
    c == '#' || (c == '-' && d == '-') || (c == '/' && d == '*') || (c == '*' && d == '/') ||
      hasCommentMarker (d :: cs)

def commentPresent : ValidationIssue :=
  { code := "comment_present", message := "SQL comments are not allowed." }

def commentBackstop (sql : String) : List ValidationIssue :=
  if hasCommentMarker (stripLiterals sql.length sql.toList) then [commentPresent] else []

def statementIssues (py : Python) (e : Expression) : List ValidationIssue :=
  let statementType := classifyStatement py e
  if statementType.isReadOnly then []
  else
    [{ code := "non_read_only_statement"
       message :=
        s!"Statement type '{statementType.value}' is not permitted (read-only only)." }]

def forbiddenIssues (e : Expression) : List ValidationIssue :=
  match e.collect forbiddenName with
  | [] => []
  | name :: _ =>
    [{ code := "forbidden_statement"
       message := s!"Prohibited operation '{name}' found in the query." }]

def commentIssues (e : Expression) : List ValidationIssue :=
  if e.walk.any fun n ↦ n.label.comments ≠ [] then [commentPresent] else []

def isBareStar (visit : RoseTree.Visit Node) : Bool :=
  visit.2.label.type = .star && !visit.1.any fun a ↦ a.label.type.isFunc

def starIssues (e : Expression) : List ValidationIssue :=
  if (RoseTree.walkUp e).any isBareStar then
    [{ code := "select_star_forbidden"
       message := "SELECT * is not allowed; list explicit columns so sensitivity can be verified." }]
  else []

def functionName (py : Python) : NodeType → Option String
  | .anonymous name => some (py.lower name)
  | .func sqlName _ => some (py.lower sqlName)
  | .and_ => some (py.lower "AND")
  | .or_ => some (py.lower "OR")
  | .exists_ => some (py.lower "EXISTS")
  | _ => none

def deniedFunctions (denylist seen : List String) : List String → List String
  | [] => []
  | name :: names =>
    if name ∈ denylist ∧ name ∉ seen then
      name :: deniedFunctions denylist (name :: seen) names
    else deniedFunctions denylist seen names

theorem mem_deniedFunctions {denylist seen names : List String} {name : String} :
    name ∈ deniedFunctions denylist seen names ↔
      name ∈ names ∧ name ∈ denylist ∧ name ∉ seen := by
  induction names generalizing seen with
  | nil => simp [deniedFunctions]
  | cons n ns ih =>
    rw [deniedFunctions]
    split
    · rw [List.mem_cons, ih, List.mem_cons, List.mem_cons]
      grind
    · rw [ih, List.mem_cons]
      grind

def cteAlias : NodeType → Option String
  | .cte alias_ _ => if alias_ = "" then none else some alias_
  | _ => none

def subqueryAlias : NodeType → Option String
  | .subquery alias_ _ => if alias_ = "" then none else some alias_
  | _ => none

def projectionAlias : NodeType → Option String
  | .alias_ name => if name = "" then none else some name
  | _ => none

def columnName : NodeType → Option (String × String)
  | .column table name => some (table, name)
  | _ => none

section

variable (py : Python)

/-- Names that refer to CTEs or derived tables, not catalog tables. -/
def virtualAliases (e : Expression) : List String :=
  (e.collect cteAlias ++ e.collect subqueryAlias).map py.lower

def outputAliases (e : Expression) : List String := (e.collect projectionAlias).map py.lower

def checkedTables (e : Expression) : List TableRef :=
  e.tables.filter fun ref ↦ ref.name ≠ "" ∧ py.lower ref.name ∉ virtualAliases py e

end

structure SQLValidator where
  functionDenylist : List String := defaultFunctionDenylist
  allowCrossDatabase : Bool := false
  allowedSchemas : List String := []

namespace SQLValidator

variable (py : Python) (validator : SQLValidator) (schema : DatabaseSchema)

def functionIssues (e : Expression) : List ValidationIssue :=
  (deniedFunctions (validator.functionDenylist.map py.lower) []
    (e.collect (functionName py))).map fun name ↦
      { code := "denied_function"
        message := s!"Function '{name}' is not allowed."
        location := some s!"function: {name}" }

def tableIssues (ref : TableRef) : List ValidationIssue :=
  (if ref.catalog ≠ "" ∧ validator.allowCrossDatabase = false then
    [{ code := "cross_database_access"
       message :=
        s!"Cross-database reference '{ref.catalog}.{ref.db}.{ref.name}' is not allowed."
       location := some s!"table: {ref.name}" }]
  else []) ++
  (if ref.db ≠ "" ∧ py.lower ref.db ∈ systemSchemas then
    [{ code := "system_catalog_access"
       message := s!"Access to system schema '{ref.db}' is not allowed."
       location := some s!"table: {ref.db}.{ref.name}" }]
  else []) ++
  (if systemTablePrefixes.any fun pre ↦ startsWith pre (py.lower ref.name) then
    [{ code := "system_catalog_access"
       message := s!"Access to system table '{ref.name}' is not allowed."
       location := some s!"table: {ref.name}" }]
  else []) ++
  (if validator.allowedSchemas ≠ [] ∧ ref.db ≠ "" ∧
      py.lower ref.db ∉ validator.allowedSchemas.map py.lower ∧
      py.lower ref.db ∉ systemSchemas then
    [{ code := "schema_not_allowed"
       message := s!"Schema '{ref.db}' is not in the allowed set."
       location := some s!"table: {ref.db}.{ref.name}" }]
  else []) ++
  (if schema.table py ref.name = none then
    [{ code := "unknown_table"
       message := s!"Unknown table '{ref.name}'."
       location := some s!"table: {ref.name}" }]
  else [])

def boundTables (e : Expression) : List (TableRef × TableInfo) :=
  (checkedTables py e).filterMap fun ref ↦ (schema.table py ref.name).map (ref, ·)

def realTables (e : Expression) : List String :=
  (boundTables py schema e).map fun b ↦ b.2.qualifiedName

def aliasToReal (e : Expression) (qualifier : String) : List String :=
  sortedSet (((boundTables py schema e).filter fun b ↦
    qualifier = py.lower b.1.aliasOrName ∨ qualifier = py.lower b.1.name).map fun b ↦ b.1.name)

def realTableInfos (e : Expression) : List TableInfo :=
  (py.enumerate ((realTables py schema e).map lastPart)).filterMap (schema.table py)

def checkQualified (e : Expression) (qualifier name : String) :
    Except ValidationIssue (List String) :=
  if qualifier ∈ virtualAliases py e then .ok []
  else
    match aliasToReal py schema e qualifier with
    | [] => .ok []
    | first :: others =>
      let owners := ((first :: others).filterMap (schema.table py)).filter (·.hasColumn py name)
      if owners = [] then
        .error
          { code := "unknown_column"
            message := "Unknown column '" ++ name ++ "' on table '" ++
              String.intercalate "', '" (first :: others) ++ "'."
            location := some s!"column: {first}.{name}" }
      else .ok (owners.map fun info ↦ s!"{info.name}.{name}")

def checkUnqualified (e : Expression) (name : String) : Except ValidationIssue (List String) :=
  if py.lower name ∈ outputAliases py e then .ok []
  else
    match (realTableInfos py schema e).filter (·.hasColumn py name) with
    | owner :: _ => .ok [s!"{owner.name}.{name}"]
    | [] =>
      if realTableInfos py schema e = [] then .ok []
      else
        .error
          { code := "unknown_column"
            message := s!"Unknown column '{name}' (not found on any referenced table)."
            location := some s!"column: {name}" }

def checkColumn (e : Expression) (column : String × String) :
    Except ValidationIssue (List String) :=
  if column.2 = "" ∨ column.2 = "*" then .ok []
  else if py.lower column.1 = "" then checkUnqualified py schema e column.2
  else checkQualified py schema e (py.lower column.1) column.2

def columnIssues (e : Expression) : List ValidationIssue :=
  (e.collect columnName).filterMap fun c ↦
    match checkColumn py schema e c with
    | .error issue => some issue
    | .ok _ => none

def resolvedColumns (e : Expression) : List String :=
  (e.collect columnName).flatMap fun c ↦
    match checkColumn py schema e c with
    | .error _ => []
    | .ok refs => refs

/-- Everything that `validate_expression` reports, in order. -/
def findings (e : Expression) : List ValidationIssue :=
  statementIssues py e ++ forbiddenIssues e ++ commentIssues e ++ starIssues e ++
    validator.functionIssues py e ++
    (checkedTables py e).flatMap (validator.tableIssues py schema) ++ columnIssues py schema e

def validateExpression (e : Expression) (outcome : ValidationOutcome) : ValidationOutcome :=
  { outcome.addAll (validator.findings py schema e) with
    statementType := classifyStatement py e
    referencedTables := sortedSet (realTables py schema e)
    referencedColumns := sortedSet (resolvedColumns py schema e) }

def newOutcome (statements : List Expression) : ValidationOutcome where
  isValid := true
  statementType :=
    match statements with
    | [] => .other
    | e :: _ => classifyStatement py e
  expression := statements.head?

def validate (glot : Sqlglot) (sql : String) (dialect : SQLDialect) :
    Except SQLParseError ValidationOutcome :=
  match parseStatements glot sql dialect with
  | .error exc => .error exc
  | .ok [e] =>
    .ok (validator.validateExpression py schema e
      ((newOutcome py [e]).addAll (commentBackstop sql)))
  | .ok statements =>
    .ok ((newOutcome py statements).add
      { code := "multiple_statements"
        message := s!"Exactly one statement is allowed; found {statements.length}." })

/-- The statements without a finding. -/
def Accepts (e : Expression) : Prop := validator.findings py schema e = []

instance (e : Expression) : Decidable (validator.Accepts py schema e) :=
  inferInstanceAs (Decidable (_ = _))

section Outcome

variable {py validator schema} {e : Expression} {outcome : ValidationOutcome}

theorem validateExpression_isValid :
    (validator.validateExpression py schema e outcome).isValid = true ↔
      outcome.isValid = true ∧ validator.Accepts py schema e := by
  simp [validateExpression, ValidationOutcome.addAll_eq, Accepts]

theorem validateExpression_expression :
    (validator.validateExpression py schema e outcome).expression = outcome.expression := by
  simp [validateExpression, ValidationOutcome.addAll_eq]

theorem expression_validated (found : List ValidationIssue) :
    (validator.validateExpression py schema e ((newOutcome py [e]).addAll found)).expression =
      some e := by
  rw [validateExpression_expression, ValidationOutcome.addAll_eq]
  rfl

theorem validateExpression_issues :
    (validator.validateExpression py schema e outcome).issues =
      addIssues outcome.issues (validator.findings py schema e) := by
  simp [validateExpression, ValidationOutcome.addAll_eq]

theorem validate_of_parse {glot : Sqlglot} {sql : String} {dialect : SQLDialect}
    (h : parseStatements glot sql dialect = .ok [e]) :
    validator.validate py schema glot sql dialect =
      .ok (validator.validateExpression py schema e
        ((newOutcome py [e]).addAll (commentBackstop sql))) := by
  rw [validate, h]

/-- A text is accepted when it is one statement without a comment marker and a finding. -/
theorem validate_isValid {glot : Sqlglot} {sql : String} {dialect : SQLDialect}
    (h : validator.validate py schema glot sql dialect = .ok outcome)
    (hv : outcome.isValid = true) :
    ∃ e, parseStatements glot sql dialect = .ok [e] ∧ commentBackstop sql = [] ∧
      validator.Accepts py schema e ∧
      outcome = validator.validateExpression py schema e (newOutcome py [e]) := by
  unfold validate at h
  split at h
  · cases h
  · rename_i e hp
    cases h
    obtain ⟨hc, ha⟩ := validateExpression_isValid.mp hv
    have hc : commentBackstop sql = [] := by
      simpa [ValidationOutcome.addAll_eq, newOutcome] using hc
    exact ⟨e, hp, hc, ha, by rw [hc]; rfl⟩
  · cases h
    simp [ValidationOutcome.add] at hv

theorem accepts_of_validate {glot : Sqlglot} {sql : String} {dialect : SQLDialect}
    (h : validator.validate py schema glot sql dialect = .ok outcome)
    (hv : outcome.isValid = true) (he : outcome.expression = some e) :
    validator.Accepts py schema e ∧
      outcome = validator.validateExpression py schema e (newOutcome py [e]) := by
  obtain ⟨e', -, -, ha, rfl⟩ := validate_isValid h hv
  obtain rfl : e' = e := by
    simpa [validateExpression, ValidationOutcome.addAll_eq, newOutcome] using he
  exact ⟨ha, rfl⟩

theorem validateExpression_tables :
    (validator.validateExpression py schema e outcome).referencedTables =
      sortedSet (realTables py schema e) := rfl

theorem validateExpression_columns :
    (validator.validateExpression py schema e outcome).referencedColumns =
      sortedSet (resolvedColumns py schema e) := rfl

end Outcome

theorem accepts_iff {e : Expression} :
    validator.Accepts py schema e ↔
      statementIssues py e = [] ∧ forbiddenIssues e = [] ∧ commentIssues e = [] ∧
        starIssues e = [] ∧ validator.functionIssues py e = [] ∧
        (∀ ref ∈ checkedTables py e, validator.tableIssues py schema ref = []) ∧
        columnIssues py schema e = [] := by
  simp only [Accepts, findings, List.append_eq_nil_iff, List.flatMap_eq_nil_iff, and_assoc]

namespace Accepts

variable {py validator schema} {e : Expression} (h : validator.Accepts py schema e)

include h

theorem parts :
    statementIssues py e = [] ∧ forbiddenIssues e = [] ∧ commentIssues e = [] ∧
      starIssues e = [] ∧ validator.functionIssues py e = [] ∧
      (∀ ref ∈ checkedTables py e, validator.tableIssues py schema ref = []) ∧
      columnIssues py schema e = [] := (accepts_iff py validator schema).mp h

theorem isQuery : isQuery e.label.type = true := by
  have hs := (parts h).1
  rw [statementIssues] at hs
  rw [← classifyStatement_isReadOnly py]
  by_contra hn
  simp [hn] at hs

theorem forbiddenName {n : Expression} (hn : n ∈ e.walk) : forbiddenName n.label.type = none := by
  have hf := (parts h).2.1
  rw [forbiddenIssues] at hf
  split at hf
  · rename_i hc
    rw [Expression.collect, List.filterMap_eq_nil_iff] at hc
    exact hc n hn
  · cases hf

theorem table {ref : TableRef} (hr : ref ∈ checkedTables py e) :
    (ref.catalog = "" ∨ validator.allowCrossDatabase = true) ∧
      (ref.db = "" ∨ py.lower ref.db ∉ systemSchemas) ∧
      (∀ pre ∈ systemTablePrefixes, startsWith pre (py.lower ref.name) = false) ∧
      ∃ info, schema.table py ref.name = some info := by
  have ht := (parts h).2.2.2.2.2.1 ref hr
  simp only [tableIssues, List.append_eq_nil_iff, and_assoc, ite_eq_right_iff,
    List.cons_ne_nil, imp_false] at ht
  obtain ⟨h₁, h₂, h₃, -, h₅⟩ := ht
  refine ⟨by grind, by grind, ?_, Option.ne_none_iff_exists'.mp h₅⟩
  simpa using h₃

theorem column {c : String × String} (hc : c ∈ e.collect columnName) :
    ∃ refs, checkColumn py schema e c = .ok refs := by
  have hi := (parts h).2.2.2.2.2.2
  rw [columnIssues, List.filterMap_eq_nil_iff] at hi
  have hi := hi c hc
  split at hi
  · cases hi
  · rename_i refs hr
    exact ⟨refs, hr⟩

end Accepts

end SQLValidator

end TextToSql.Sql
