import TextToSql.Domain.Models
import TextToSql.Sql.Validator

namespace TextToSql.Security

open Domain

structure SecurityPolicyConfig where
  tenantColumn : String := "organization_id"
  maxRows : Nat := 1000
  maxJoins : Nat := 6
  maxSubqueryDepth : Nat := 4
  maxSelectedColumns : Nat := 60
  costRowsMediumThreshold : ℚ := 100000
  costRowsHighThreshold : ℚ := 1000000
  allowedSchemas : List String := []
  allowedTables : Option (List String) := none
  deniedTables : List String := []
  functionDenylist : List String := Sql.defaultFunctionDenylist

/-- `_RULES`: the roles that may view a class, and the grant that opens it to others. -/
def rules : DataClassification → List String × Option String
  | .isPublic => (["*"], none)
  | .internal => (["*"], none)
  | .confidential => (["admin", "analyst"], none)
  | .financial => (["admin", "analyst"], some "finance_read")
  | .pii => (["admin"], some "pii_read")
  | .authSecret => ([], none)
  | .highlyRestricted => ([], none)

def isSecret (c : DataClassification) : Bool := c = .authSecret || c = .highlyRestricted

def canView (py : Python) (c : DataClassification) (roles : List String) : Bool :=
  let roleSet := roles.map py.lower
  if "admin" ∈ roleSet then !isSecret c
  else if "*" ∈ (rules c).1 then true
  else if roleSet.any fun r ↦ r ∈ (rules c).1 then true
  else (rules c).2.any fun grant ↦ grant ≠ "" ∧ grant ∈ roleSet

def denyReason (c : DataClassification) : String :=
  if isSecret c then s!"Columns classified '{c.value}' can never be selected."
  else s!"Your role is not permitted to select '{c.value}' data."

theorem canView_secret {py : Python} {c : DataClassification} (h : isSecret c = true)
    (roles : List String) : canView py c roles = false := by
  have hr : rules c = ([], none) := by
    cases c <;> first | rfl | exact absurd h (by decide)
  simp [canView, h, hr]

theorem canView_mono {py : Python} {c : DataClassification} {roles roles' : List String}
    (hsub : roles ⊆ roles') (h : canView py c roles = true) : canView py c roles' = true := by
  have hs : isSecret c = false := by
    by_contra hs
    simp [canView_secret (by simpa using hs)] at h
  have hmap : roles.map py.lower ⊆ roles'.map py.lower := List.map_subset _ hsub
  simp only [canView] at h ⊢
  split
  · simp [hs]
  · rename_i hadmin
    rw [if_neg fun ha ↦ hadmin (hmap ha)] at h
    split
    · rfl
    · rename_i hstar
      rw [if_neg hstar] at h
      split
      · rfl
      · rename_i hany
        rw [if_neg] at h
        · rw [Option.any_eq_true] at h ⊢
          obtain ⟨g, hg, h⟩ := h
          refine ⟨g, hg, ?_⟩
          simp only [decide_eq_true_eq] at h ⊢
          exact ⟨h.1, hmap h.2⟩
        · rw [List.any_eq_true] at hany ⊢
          rintro ⟨r, hr, hin⟩
          exact hany ⟨r, hmap hr, hin⟩

structure PolicyDecision where
  allowed : Bool
  issues : List ValidationIssue := []

variable (py : Python) (config : SecurityPolicyConfig) (schema : DatabaseSchema)

def tableDenials (qualified : String) : List ValidationIssue :=
  let bare := py.lower (lastPart qualified)
  (if bare ∈ config.deniedTables.map py.lower then
    [{ code := "table_denied"
       message := s!"Access to table '{bare}' is denied by policy."
       location := some s!"table: {bare}" }]
  else []) ++
  match config.allowedTables with
  | none => []
  | some tables =>
    if bare ∈ tables.map py.lower then []
    else
      [{ code := "table_not_allowed"
         message := s!"Table '{bare}' is not in the allowed set for this request."
         location := some s!"table: {bare}" }]

/-- The catalog column that a recorded reference stands for. -/
def lookupReference (ref : String) : Option ColumnInfo :=
  (schema.table py (partitionDot ref).1).bind fun table ↦ table.column py (partitionDot ref).2

def columnDenials (roles : List String) (ref : String) : List ValidationIssue :=
  match lookupReference py schema ref with
  | none => []
  | some column =>
    if canView py column.classification roles then []
    else
      let shown := (partitionDot ref).1 ++ "." ++ (partitionDot ref).2
      [{ code := "column_denied"
         message := denyReason column.classification ++ s!" (column '{shown}', classification '" ++
           column.classification.value ++ "')."
         location := some s!"column: {shown}" }]

def denials (referencedTables referencedColumns : List String) (auth : AuthContext) :
    List ValidationIssue :=
  referencedTables.flatMap (tableDenials py config) ++
    referencedColumns.flatMap (columnDenials py schema auth.roles)

def enforce (referencedTables referencedColumns : List String) (auth : AuthContext) :
    PolicyDecision :=
  let issues := denials py config schema referencedTables referencedColumns auth
  { allowed := issues.isEmpty, issues }

variable {py config schema}

/-- What the policy guarantees about every reported table. -/
theorem reported_tables_allowed {tables columns : List String}
    {auth : AuthContext} (h : (enforce py config schema tables columns auth).allowed = true)
    {qualified : String} (hq : qualified ∈ tables) :
    py.lower (lastPart qualified) ∉ config.deniedTables.map py.lower ∧
      ∀ allowed ∈ config.allowedTables, py.lower (lastPart qualified) ∈ allowed.map py.lower := by
  simp only [enforce, denials, List.isEmpty_iff, List.append_eq_nil_iff,
    List.flatMap_eq_nil_iff] at h
  have ht := h.1 qualified hq
  simp only [tableDenials, List.append_eq_nil_iff] at ht
  obtain ⟨hdenied, hallowed⟩ := ht
  refine ⟨by grind, fun allowed ha ↦ ?_⟩
  rw [Option.mem_def] at ha
  rw [ha] at hallowed
  grind

theorem canView_of_lookup {tables columns : List String}
    {auth : AuthContext} (h : (enforce py config schema tables columns auth).allowed = true)
    {recorded : String} (hr : recorded ∈ columns) {column : ColumnInfo}
    (hl : lookupReference py schema recorded = some column) :
    canView py column.classification auth.roles = true := by
  simp only [enforce, denials, List.isEmpty_iff, List.append_eq_nil_iff,
    List.flatMap_eq_nil_iff] at h
  have hd := h.2 recorded hr
  rw [columnDenials, hl] at hd
  dsimp only at hd
  by_contra hc
  simp [hc] at hd

end TextToSql.Security
