import TextToSql.Infrastructure.ReferenceNames
import TextToSql.Llm.Fake
import TextToSql.Semantics.WellScoped

namespace TextToSql.Llm.Fake

open Domain Infrastructure Semantic Sql

def Piece.isName : Piece → Bool
  | .text _ => false
  | _ => true

def names (statement : List Piece) : List Piece := statement.filter Piece.isName

@[simp] theorem names_nil : names [] = [] := rfl

@[simp] theorem names_append (s s' : List Piece) : names (s ++ s') = names s ++ names s' :=
  List.filter_append ..

@[simp] theorem names_text (text : String) (s : List Piece) : names (.text text :: s) = names s :=
  rfl

@[simp] theorem names_table (t : String) (s : List Piece) :
    names (.table t :: s) = .table t :: names s := rfl

@[simp] theorem names_column (t c : String) (s : List Piece) :
    names (.column t c :: s) = .column t c :: names s := rfl

@[simp] theorem names_alias (name : String) (s : List Piece) :
    names (.alias_ name :: s) = .alias_ name :: names s := rfl

@[simp] theorem names_output (name : String) (s : List Piece) :
    names (.output name :: s) = .output name :: names s := rfl

theorem mem_names {p : Piece} {s : List Piece} : p ∈ names s ↔ p ∈ s ∧ p.isName = true :=
  List.mem_filter

/-- A column is one of a table that the statement names, and an output column one of its own. -/
def Piece.GroundedIn (statement : List Piece) : Piece → Prop
  | .column t c => .table t ∈ statement ∧ HasColumn t c
  | .output name => .alias_ name ∈ statement
  | _ => True

instance (statement : List Piece) (p : Piece) : Decidable (p.GroundedIn statement) := by
  unfold Piece.GroundedIn
  split <;> infer_instance

def Grounded (statement : List Piece) : Prop := ∀ p ∈ statement, p.GroundedIn statement

instance (statement : List Piece) : Decidable (Grounded statement) :=
  inferInstanceAs (Decidable (∀ _ ∈ _, _))

theorem grounded_names (s : List Piece) : Grounded (names s) ↔ Grounded s := by
  have hin (p : Piece) : p.GroundedIn (names s) ↔ p.GroundedIn s := by
    cases p <;> simp [Piece.GroundedIn, mem_names, Piece.isName]
  constructor
  · intro h p hp
    by_cases hname : p.isName = true
    · exact (hin p).mp (h p (mem_names.mpr ⟨hp, hname⟩))
    · cases p with
      | text => trivial
      | _ => exact absurd rfl hname
  · intro h p hp
    exact (hin p).mpr (h p (mem_names.mp hp).1)

theorem grounded_congr {s s' : List Piece} (h : names s = names s') : Grounded s ↔ Grounded s' := by
  rw [← grounded_names, h, grounded_names]

theorem names_intercalate (t sep : String) (columns : List String) :
    names ([Piece.text sep].intercalate (columns.map fun c ↦ [.column t c])) =
      columns.map (.column t) := by
  induction columns with
  | nil => rfl
  | cons c cs ih =>
    cases cs with
    | nil => rfl
    | cons d ds =>
      simp only [List.map_cons] at ih ⊢
      rw [List.intercalate_cons_cons, names_append, names_append, ih]
      rfl

def noDate : ResolvedDate := ⟨"", "", ""⟩

theorem grounded_noDate :
    (∀ date ∈ [none, some noDate],
      Grounded (topProductsByRevenue 0 date).statement ∧ Grounded (scalarRevenue date).statement ∧
        ∀ dialect ∈ [SQLDialect.sqlite, .postgres],
        ∀ dimension ∈ [Dimension.region, .category, .product, .month, .customer],
        ∀ excludesRefunded ∈ [true, false],
          Grounded (revenueByDimension dialect dimension excludesRefunded date).statement) ∧
      Grounded (customersWithoutOrders noDate).statement ∧ Grounded mrr.statement := by
  decide +kernel

theorem grounded_topProductsByRevenue (k : ℕ) (date : Option ResolvedDate) :
    Grounded (topProductsByRevenue k date).statement := by
  have hplain (date : Option ResolvedDate) (h : date ∈ [none, some noDate]) :
      Grounded (topProductsByRevenue 0 date).statement := (grounded_noDate.1 date h).1
  cases date with
  | none =>
    have hnames : names (topProductsByRevenue k none).statement =
        names (topProductsByRevenue 0 none).statement := rfl
    exact (grounded_congr hnames).mpr (hplain _ (by simp))
  | some date =>
    have hnames : names (topProductsByRevenue k (some date)).statement =
        names (topProductsByRevenue 0 (some noDate)).statement := rfl
    exact (grounded_congr hnames).mpr (hplain _ (by simp))

theorem grounded_revenueByDimension (dialect : SQLDialect) (dimension : Dimension)
    (excludesRefunded : Bool) (date : Option ResolvedDate) :
    Grounded (revenueByDimension dialect dimension excludesRefunded date).statement := by
  have hdialect : dialect ∈ [SQLDialect.sqlite, .postgres] := by cases dialect <;> simp
  have hdimension : dimension ∈ [Dimension.region, .category, .product, .month, .customer] := by
    cases dimension <;> simp
  have hplain (date : Option ResolvedDate) (h : date ∈ [none, some noDate]) :
      Grounded (revenueByDimension dialect dimension excludesRefunded date).statement :=
    (grounded_noDate.1 date h).2.2 dialect hdialect dimension hdimension excludesRefunded (by simp)
  cases date with
  | none => exact hplain none (by simp)
  | some date =>
    have hnames :
        names (revenueByDimension dialect dimension excludesRefunded (some date)).statement =
          names (revenueByDimension dialect dimension excludesRefunded (some noDate)).statement := by
      cases excludesRefunded <;> simp [revenueByDimension, whereClause, orderedAt, dateClause,
        List.intercalate_cons_cons]
    exact (grounded_congr hnames).mpr (hplain _ (by simp))

theorem grounded_scalarRevenue (date : Option ResolvedDate) :
    Grounded (scalarRevenue date).statement := by
  have hplain (date : Option ResolvedDate) (h : date ∈ [none, some noDate]) :
      Grounded (scalarRevenue date).statement := (grounded_noDate.1 date h).2.1
  cases date with
  | none => exact hplain none (by simp)
  | some date =>
    have hnames : names (scalarRevenue (some date)).statement =
        names (scalarRevenue (some noDate)).statement := rfl
    exact (grounded_congr hnames).mpr (hplain _ (by simp))

theorem grounded_customersWithoutOrders (date : ResolvedDate) :
    Grounded (customersWithoutOrders date).statement := by
  have hnames : names (customersWithoutOrders date).statement =
      names (customersWithoutOrders noDate).statement := rfl
  exact (grounded_congr hnames).mpr grounded_noDate.2.1

theorem grounded_mrr : Grounded mrr.statement := grounded_noDate.2.2

def entityNames : List String := entityTables.map Prod.snd

def statusTables : List String := ["orders", "payments", "subscriptions", "support_tickets"]

def countField (table : String) : String :=
  ((defaultDateFields.find? fun entry ↦ entry.1 = table).map Prod.snd).getD "created_at"

theorem entityNames_checked : (∀ t ∈ entityNames, t ∈ referenceNames ∧
    (HasColumn t "status" ↔ t ∈ statusTables) ∧ (HasColumn t (countField t) ↔ t ≠ "regions") ∧
      LowerName (countField t)) ∧ (∀ entry ∈ defaultDateFields, LowerName entry.1) ∧
    "customers" ∈ entityNames ∧ "organizations" ∈ referenceNames ∧ "" ∉ referenceNames := by
  decide +kernel

theorem entityNames_subset : ∀ t ∈ entityNames, t ∈ referenceNames := fun t ht ↦
  (entityNames_checked.1 t ht).1

theorem hasColumn_status : ∀ t ∈ entityNames, HasColumn t "status" ↔ t ∈ statusTables := fun t ht ↦
  (entityNames_checked.1 t ht).2.1

theorem hasColumn_countField : ∀ t ∈ entityNames, HasColumn t (countField t) ↔ t ≠ "regions" :=
  fun t ht ↦ (entityNames_checked.1 t ht).2.2.1

theorem lowerName_countField : ∀ t ∈ entityNames, LowerName (countField t) := fun t ht ↦
  (entityNames_checked.1 t ht).2.2.2

theorem lowerName_defaultDateFields : ∀ entry ∈ defaultDateFields, LowerName entry.1 :=
  entityNames_checked.2.1

theorem empty_not_mem_referenceNames : "" ∉ referenceNames := entityNames_checked.2.2.2.2

section

variable {py : Python} (hpy : py.LowersAscii)

include hpy

theorem defaultDateField_eq {table : String} (h : LowerName table) :
    (defaultDateField py table).getD "created_at" = countField table := by
  rw [defaultDateField, countField, h.plainName.stripped, h.lower_eq hpy]
  congr 2
  apply List.find?_congr
  intro entry hentry
  rw [(lowerName_defaultDateFields entry hentry).lower_eq hpy]

theorem hasColumn_safeColumns {schema : DatabaseSchema}
    (hschema : schema.tables ⊆ referenceSchema.tables) {table : String}
    (ht : table ∈ referenceNames) {c : String} (hc : c ∈ safeColumns py schema table) :
    HasColumn table c := by
  unfold safeColumns at hc
  cases hfound : schema.table py table with
  | none =>
    rw [hfound] at hc
    obtain rfl := List.mem_singleton.mp hc
    exact hasColumn_id table ht
  | some info =>
    obtain ⟨hinfo, hname⟩ := reference_of_table hpy hschema
      (lowerName_of_mem_referenceNames table ht) hfound
    rw [hfound] at hc
    dsimp only at hc
    split at hc
    · obtain rfl := List.mem_singleton.mp hc
      exact hasColumn_id table ht
    · obtain ⟨column, hcolumn, rfl⟩ := List.mem_map.mp (List.mem_of_mem_take hc)
      exact ⟨info, hinfo, hname, column, (List.mem_filter.mp hcolumn).1, rfl⟩

end

theorem names_selectColumns (table : String) (columns : List String) :
    names (selectColumns table columns) = columns.map (.column table) ++ [.table table] := by
  simp [selectColumns, names_intercalate]

theorem grounded_listed {table : String} {columns : List String} (more : List String) :
    Grounded (columns.map (.column table) ++ .table table :: more.map (.column table)) ↔
      ∀ c ∈ columns ++ more, HasColumn table c := by
  constructor
  · intro h c hc
    have hmem : Piece.column table c ∈
        columns.map (.column table) ++ .table table :: more.map (.column table) := by
      rcases List.mem_append.mp hc with hc | hc <;> simp [hc]
    exact (h _ hmem).2
  · intro h p hp
    simp only [List.mem_append, List.mem_map, List.mem_cons] at hp
    rcases hp with ⟨c, hc, rfl⟩ | rfl | ⟨c, hc, rfl⟩
    · exact ⟨by simp, h c (List.mem_append_left _ hc)⟩
    · trivial
    · exact ⟨by simp, h c (List.mem_append_right _ hc)⟩

def Branch.Named : Branch → Prop
  | .count table _ | .statusListing table _ => table ∈ entityNames
  | .listing table | .fallback table => table ∈ referenceNames
  | _ => True

def Branch.Fits : Branch → Prop
  | .count table (some _) => table ≠ "regions"
  | .statusListing table _ => table ∈ statusTables
  | _ => True

def Branch.Fixed : Branch → Prop
  | .count _ _ | .statusListing _ _ | .listing _ | .fallback _ => False
  | _ => True

theorem Branch.Fixed.named {b : Branch} (h : b.Fixed) : b.Named := by
  cases b <;> first | exact True.intro | exact h.elim

theorem Branch.Fixed.fits {b : Branch} (h : b.Fixed) : b.Fits := by
  cases b <;> first | exact True.intro | exact h.elim

def asksWithoutOrders (q : String) : Bool :=
  (hasWord "not" q || hasWord "haven't" q || hasWord "have not" q || hasWord "without" q) &&
    hasWord "order" q

/-- One of the first five rules answers the question. -/
inductive FixedRule (q : String) (date : Option ResolvedDate) : Prop
  | revenue (h : hasWord "revenue" q = true)
  | grossSales (h : hasWord "gross sales" q = true)
  | mrr (h : hasWord "mrr" q = true)
  | recurringRevenue (h : hasWord "recurring revenue" q = true)
  | withoutOrders (hq : asksWithoutOrders q = true) (hdate : date ≠ none)

def AsksCount (q : String) : Prop :=
  hasWord "how many" q = true ∨ hasWord "number of" q = true ∨ startsWith "count" q = true

instance (q : String) : Decidable (AsksCount q) := inferInstanceAs (Decidable (_ ∨ _ ∨ _))

theorem branch_cases (py : Python) (cc : CharClasses) (schema : DatabaseSchema)
    {request : GenerationRequest} {q : String} (hq : normalizeQuestion py request.question = q)
    {date : Option ResolvedDate} (hdate : request.resolvedDate = date) :
    (FixedRule q date ∧ ∃ b : Branch, b.Fixed ∧ branch py cc schema request = b) ∨
      (¬FixedRule q date ∧ AsksCount q ∧ branch py cc schema request =
        .count ((detectEntityTable py cc schema q).getD "customers") date) ∨
      (¬FixedRule q date ∧ ¬AsksCount q ∧
        branch py cc schema request = listingBranch py cc schema q) := by
  generalize hb : branch py cc schema request = found
  rw [branch, hq, hdate] at hb
  by_cases htop : (hasWord "top" q = true ∨ hasWord "best" q = true ∨ hasWord "highest" q = true) ∧
      hasWord "revenue" q = true ∧ hasWord "product" q = true
  · rw [if_pos htop] at hb
    exact .inl ⟨.revenue htop.2.1, .topProductsByRevenue _ _, True.intro, hb.symm⟩
  rw [if_neg htop] at hb
  by_cases hby : hasWord "revenue" q = true ∧ hasWord " by " q = true
  · rw [if_pos hby] at hb
    exact .inl ⟨.revenue hby.1, .revenueByDimension _ _ _, True.intro, hb.symm⟩
  rw [if_neg hby] at hb
  cases hwindow : date.filter fun _ ↦ asksWithoutOrders q with
  | some window =>
    obtain ⟨hsome, horders⟩ := Option.filter_eq_some_iff.mp hwindow
    unfold asksWithoutOrders at hwindow
    rw [hwindow] at hb
    refine .inl ⟨.withoutOrders horders ?_, .customersWithoutOrders window, True.intro, hb.symm⟩
    rw [hsome]
    exact Option.some_ne_none window
  | none =>
    have hwithout : ¬(asksWithoutOrders q = true ∧ date ≠ none) := by
      rintro ⟨horders, hne⟩
      obtain ⟨window, hsome⟩ := Option.ne_none_iff_exists'.mp hne
      rw [hsome, Option.filter_some, if_pos horders] at hwindow
      cases hwindow
    unfold asksWithoutOrders at hwindow
    rw [hwindow] at hb
    dsimp only at hb
    by_cases hmrr : hasWord "mrr" q = true ∨ hasWord "recurring revenue" q = true
    · rw [if_pos hmrr] at hb
      refine .inl ⟨?_, .mrr, True.intro, hb.symm⟩
      rcases hmrr with h | h
      · exact .mrr h
      · exact .recurringRevenue h
    rw [if_neg hmrr] at hb
    by_cases hrevenue : hasWord "revenue" q = true ∨ hasWord "gross sales" q = true
    · rw [if_pos hrevenue] at hb
      refine .inl ⟨?_, .scalarRevenue _, True.intro, hb.symm⟩
      rcases hrevenue with h | h
      · exact .revenue h
      · exact .grossSales h
    rw [if_neg hrevenue] at hb
    have hnone : ¬FixedRule q date := by
      intro h
      cases h with
      | revenue h => exact hrevenue (.inl h)
      | grossSales h => exact hrevenue (.inr h)
      | mrr h => exact hmrr (.inl h)
      | recurringRevenue h => exact hmrr (.inr h)
      | withoutOrders horders hne => exact hwithout ⟨horders, hne⟩
    by_cases hcount : AsksCount q
    · unfold AsksCount at hcount
      rw [if_pos hcount] at hb
      exact .inr (.inl ⟨hnone, hcount, hb.symm⟩)
    · unfold AsksCount at hcount
      rw [if_neg hcount] at hb
      exact .inr (.inr ⟨hnone, hcount, hb.symm⟩)

section

variable {py : Python} (hpy : py.LowersAscii) {schema : DatabaseSchema}
  (hschema : schema.tables ⊆ referenceSchema.tables)

theorem detectEntityTable_mem {cc : CharClasses} {q table : String}
    (h : detectEntityTable py cc schema q = some table) : table ∈ entityNames := by
  obtain ⟨entry, hentry, rfl⟩ := Option.map_eq_some_iff.mp h
  exact List.mem_map_of_mem (List.mem_of_find?_eq_some hentry)

include hschema

theorem named_listingBranch (cc : CharClasses) (q : String) :
    (listingBranch py cc schema q).Named := by
  unfold listingBranch
  cases hentity : detectEntityTable py cc schema q with
  | none =>
    cases htables : schema.tables with
    | nil =>
      exact entityNames_checked.2.2.2.1
    | cons t ts =>
      exact List.mem_map_of_mem (hschema (htables ▸ List.mem_cons_self))
  | some table =>
    have hmem := detectEntityTable_mem hentity
    cases detectStatus q with
    | some status => exact hmem
    | none =>
      dsimp only
      split
      · exact entityNames_subset table hmem
      · exact entityNames_subset table hmem

theorem named_branch {cc : CharClasses} {request : GenerationRequest} {found : Branch}
    (hfound : branch py cc schema request = found) : found.Named := by
  generalize hq : normalizeQuestion py request.question = q
  have h := branch_cases py cc schema hq rfl
  rw [hfound] at h
  rcases h with ⟨-, b, hfixed, hb⟩ | ⟨-, -, hcount⟩ | ⟨-, -, hlisting⟩
  · rw [hb]
    exact hfixed.named
  · rw [hcount]
    cases hentity : detectEntityTable py cc schema q with
    | none =>
      exact entityNames_checked.2.2.1
    | some table => exact detectEntityTable_mem hentity
  · rw [hlisting]
    exact named_listingBranch hschema cc _

include hpy

theorem grounded_listing {table : String} (ht : table ∈ referenceNames) (limit : ℕ) :
    Grounded (listing table (safeColumns py schema table) limit).statement := by
  rw [← grounded_names]
  simp only [listing, names_append, names_selectColumns, limitText, names_text, names_nil,
    List.append_nil]
  apply (grounded_listed []).mpr
  intro c hc
  rw [List.append_nil] at hc
  exact hasColumn_safeColumns hpy hschema ht hc

/-- What a branch generates is grounded in the reference catalog when the branch fits. -/
theorem grounded_generated (dialect : SQLDialect) (limit : ℕ) {b : Branch} (hnamed : b.Named)
    (hfits : b.Fits) : Grounded (b.generated py schema dialect limit).statement := by
  cases b with
  | topProductsByRevenue k date => exact grounded_topProductsByRevenue k date
  | revenueByDimension dimension excludesRefunded date =>
    exact grounded_revenueByDimension dialect dimension excludesRefunded date
  | customersWithoutOrders date => exact grounded_customersWithoutOrders date
  | mrr => exact grounded_mrr
  | scalarRevenue date => exact grounded_scalarRevenue date
  | count table date =>
    have hlower := lowerName_of_mem_referenceNames table (entityNames_subset table hnamed)
    rw [← grounded_names]
    cases date with
    | none =>
      intro p hp
      simp only [Branch.generated, count, whereClause, Option.toList_none, List.map_nil, if_pos,
        List.append_nil, names_text, names_alias, names_table, names_nil, List.mem_cons, List.not_mem_nil, or_false] at hp
      rcases hp with rfl | rfl <;> trivial
    | some date =>
      have hcolumn := (hasColumn_countField table hnamed).mpr hfits
      simp only [Branch.generated, count, defaultDateField_eq hpy hlower, whereClause,
        Option.toList_some, List.map_cons, List.map_nil, dateClause, List.cons_append,
        List.nil_append, names_text, names_alias, names_table, reduceCtorEq, if_false,
        List.intercalate_singleton, names_column, names_nil]
      intro p hp
      simp only [List.mem_cons, List.not_mem_nil, or_false] at hp
      rcases hp with rfl | rfl | rfl | rfl
      · trivial
      · trivial
      · exact ⟨by simp, hcolumn⟩
      · exact ⟨by simp, hcolumn⟩
  | statusListing table status =>
    have ht := entityNames_subset table hnamed
    rw [← grounded_names]
    simp only [Branch.generated, statusListing, names_append, names_selectColumns, limitText,
      names_text, names_column, names_nil, List.append_assoc, List.cons_append, List.nil_append]
    apply (grounded_listed ["status"]).mpr
    intro c hc
    rcases List.mem_append.mp hc with hc | hc
    · exact hasColumn_safeColumns hpy hschema ht hc
    · obtain rfl := List.mem_singleton.mp hc
      exact (hasColumn_status table hnamed).mpr hfits
  | listing table => exact grounded_listing hpy hschema hnamed limit
  | fallback table => exact grounded_listing hpy hschema hnamed limit

end

/-- The statement that the toolkit reads has the names of the generated text. -/
structure ReadsAs (e : Expression) (statement : List Piece) : Prop where
  tables : ∀ ref, ref ∈ e.tables ↔ ∃ name, .table name ∈ statement ∧ ref = { name }
  columns : ∀ qualifier name, (qualifier, name) ∈ e.collect columnName ↔
    .column qualifier name ∈ statement ∨ qualifier = "" ∧ .output name ∈ statement
  aliases : ∀ name, name ∈ e.collect projectionAlias ↔ .alias_ name ∈ statement
  ctes : e.collect cteAlias = []
  subqueries : e.collect subqueryAlias = []

/-- Every table is one of the catalog, and every column a column of a referenced table or an output
column. -/
structure InCatalog (py : Python) (catalog : DatabaseSchema) (e : Expression) : Prop where
  tables : ∀ ref ∈ e.tables, ∃ info, catalog.table py ref.name = some info
  columns : ∀ qualifier name, (qualifier, name) ∈ e.collect columnName →
    qualifier = "" ∧ name ∈ e.collect projectionAlias ∨
      ∃ ref ∈ e.tables, ref.name = qualifier ∧ ∃ info, catalog.table py ref.name = some info ∧
        info.hasColumn py name = true

/-- The question is answered by a fixed statement; or it is a count, not of regions in a window; or
it is a listing, whose table has a status if the question has one. -/
def Fits (py : Python) (cc : CharClasses) (schema : DatabaseSchema) (request : GenerationRequest) :
    Prop :=
  let q := normalizeQuestion py request.question
  FixedRule q request.resolvedDate ∨
    if AsksCount q then
      request.resolvedDate = none ∨ detectEntityTable py cc schema q ≠ some "regions"
    else
      detectStatus q = none ∨
        ∀ table, detectEntityTable py cc schema q = some table → table ∈ statusTables

theorem fits_listingBranch {py : Python} {cc : CharClasses} {schema : DatabaseSchema} {q : String} :
    (listingBranch py cc schema q).Fits ↔ detectStatus q = none ∨
      ∀ table, detectEntityTable py cc schema q = some table → table ∈ statusTables := by
  unfold listingBranch
  cases detectEntityTable py cc schema q with
  | none => simp [Branch.Fits]
  | some table =>
    cases detectStatus q with
    | none =>
      dsimp only
      split <;> simp [Branch.Fits]
    | some status => simp [Branch.Fits]

theorem fits_branch {py : Python} {cc : CharClasses} {schema : DatabaseSchema}
    {request : GenerationRequest} :
    (branch py cc schema request).Fits ↔ Fits py cc schema request := by
  unfold Fits
  generalize hq : normalizeQuestion py request.question = q
  have h := branch_cases py cc schema hq rfl
  generalize branch py cc schema request = found at h ⊢
  dsimp only
  rcases h with ⟨hrule, b, hfixed, hb⟩ | ⟨hrule, hcount, hb⟩ | ⟨hrule, hcount, hb⟩
  · rw [hb]
    exact iff_of_true hfixed.fits (.inl hrule)
  · rw [hb, if_pos hcount, or_iff_right hrule]
    cases request.resolvedDate with
    | none => simp [Branch.Fits]
    | some date =>
      cases detectEntityTable py cc schema q with
      | none => simp [Branch.Fits]
      | some table => simp [Branch.Fits]
  · rw [hb, if_neg hcount, or_iff_right hrule]
    exact fits_listingBranch

section

variable {py : Python} {catalog : DatabaseSchema} {e : Expression} {validator : SQLValidator}

theorem not_isUnknown_of_inCatalog (h : InCatalog py catalog e)
    (hctes : e.collect cteAlias = []) (hsubqueries : e.collect subqueryAlias = [])
    (hnamed : ∀ ref ∈ e.tables, ref.name ≠ "") :
    ∀ issue ∈ validator.findings py catalog e, ¬Semantics.IsUnknown issue := by
  have hvirtual (name : String) : py.lower name ∉ virtualAliases py e := by
    simp [virtualAliases, hctes, hsubqueries]
  rw [Semantics.forall_not_isUnknown]
  constructor
  · intro ref hr
    obtain ⟨info, hinfo⟩ := h.tables ref (mem_checkedTables.mp hr).1
    exact hinfo ▸ Option.some_ne_none info
  · rintro ⟨qualifier, name⟩ hc
    rcases h.columns qualifier name hc with ⟨rfl, halias⟩ | ⟨ref, hr, rfl, info, hinfo, hcolumn⟩
    · exact .output rfl (List.mem_map_of_mem halias)
    · have hchecked : ref ∈ checkedTables py e :=
        mem_checkedTables.mpr ⟨hr, hnamed ref hr, hvirtual ref.name⟩
      exact .owned (hnamed ref hr) (ref, info) (mem_boundTables.mpr ⟨hchecked, hinfo⟩)
        (.inr rfl) hcolumn

theorem not_isUnknown_of_validate {glot : Sqlglot} {sql : String} {dialect : SQLDialect}
    {outcome : ValidationOutcome} (hparse : parseStatements glot sql dialect = .ok [e])
    (hvalidate : validator.validate py catalog glot sql dialect = .ok outcome)
    (h : ∀ issue ∈ validator.findings py catalog e, ¬Semantics.IsUnknown issue) :
    ∀ issue ∈ outcome.issues, ¬Semantics.IsUnknown issue := by
  rw [SQLValidator.validate_of_parse hparse] at hvalidate
  cases hvalidate
  intro issue hi hu
  have hcode := List.mem_map_of_mem (f := ValidationIssue.code) hi
  rw [SQLValidator.validateExpression_issues, mem_addIssues_code, ValidationOutcome.addAll_eq,
    mem_addIssues_code] at hcode
  rcases hcode with (hnil | hcomment) | hfound
  · cases hnil
  · rw [commentBackstop] at hcomment
    split at hcomment
    · rw [List.map_singleton, List.mem_singleton] at hcomment
      simp [Semantics.IsUnknown, hcomment, commentPresent] at hu
    · cases hcomment
  · obtain ⟨found, hfound, hcode⟩ := List.mem_map.mp hfound
    apply h found hfound
    rwa [Semantics.IsUnknown, hcode]

variable (hpy : py.LowersAscii) (hcatalog : catalog.tables ⊆ referenceSchema.tables)
  {statement : List Piece} (hreads : ReadsAs e statement)

include hpy hcatalog hreads

theorem hasColumn_of_inCatalog (h : InCatalog py catalog e) {table column : String}
    (ht : table ∈ referenceNames) (hcolumn : LowerName column)
    (hc : .column table column ∈ statement) : HasColumn table column := by
  have hlower := lowerName_of_mem_referenceNames table ht
  rcases h.columns table column ((hreads.columns _ _).mpr (.inl hc)) with
    ⟨rfl, -⟩ | ⟨ref, -, rfl, info, hinfo, hhas⟩
  · exact absurd ht empty_not_mem_referenceNames
  · exact (hasColumn_iff_reference hpy hcatalog hlower hcolumn hinfo).mp hhas

theorem inCatalog_of_grounded (h : Grounded statement)
    (hnamed : ∀ name, .table name ∈ statement → (catalog.table py name).isSome = true) :
    InCatalog py catalog e where
  tables := by
    intro ref hr
    obtain ⟨name, hname, rfl⟩ := (hreads.tables ref).mp hr
    exact Option.isSome_iff_exists.mp (hnamed name hname)
  columns := by
    intro qualifier name hc
    rcases (hreads.columns qualifier name).mp hc with hcolumn | ⟨rfl, houtput⟩
    · obtain ⟨htable, hhas⟩ := h _ hcolumn
      obtain ⟨info, hinfo⟩ := Option.isSome_iff_exists.mp (hnamed qualifier htable)
      have hlower := lowerName_of_mem_referenceNames qualifier hhas.mem_referenceNames
      exact .inr ⟨_, (hreads.tables _).mpr ⟨qualifier, htable, rfl⟩, rfl, info, hinfo,
        (hasColumn_iff_reference hpy hcatalog hlower hhas.lowerName_column hinfo).mpr hhas⟩
    · exact .inl ⟨rfl, (hreads.aliases name).mpr (h _ houtput)⟩

end

theorem filtered_generated {py : Python} (hpy : py.LowersAscii) (schema : DatabaseSchema)
    (dialect : SQLDialect) (limit : ℕ) {b : Branch} (hnamed : b.Named) (hfits : ¬b.Fits) :
    ∃ table ∈ referenceNames, ∃ column, LowerName column ∧ ¬HasColumn table column ∧
      .column table column ∈ (b.generated py schema dialect limit).statement := by
  cases b with
  | count table date =>
    cases date with
    | none => exact absurd True.intro hfits
    | some date =>
      have ht := entityNames_subset table hnamed
      refine ⟨table, ht, countField table, lowerName_countField table hnamed, ?_, ?_⟩
      · exact (hasColumn_countField table hnamed).not.mpr hfits
      · simp [Branch.generated, count, whereClause, dateClause,
          defaultDateField_eq hpy (lowerName_of_mem_referenceNames table ht)]
  | statusListing table status =>
    refine ⟨table, entityNames_subset table hnamed, "status", by decide, ?_, ?_⟩
    · exact (hasColumn_status table hnamed).not.mpr hfits
    · simp [Branch.generated, statusListing]
  | _ => exact absurd True.intro hfits

/-- The generated statement stays in the catalog, and no name in it is reported as unknown, exactly
when the question fits. -/
theorem staysInCatalog_iff {py : Python} (hpy : py.LowersAscii) {cc : CharClasses}
    {schema catalog : DatabaseSchema} (hschema : schema.tables ⊆ referenceSchema.tables)
    (hcatalog : catalog.tables ⊆ referenceSchema.tables) {dialect : SQLDialect}
    {request : GenerationRequest}
    (hnamed : ∀ name, .table name ∈ (generate py cc schema dialect request).statement →
      (catalog.table py name).isSome = true)
    (validator : SQLValidator) {glot : Sqlglot} {e : Expression}
    (hparse : parseStatements glot (generate py cc schema dialect request).sql dialect = .ok [e])
    (hreads : ReadsAs e (generate py cc schema dialect request).statement) :
    (InCatalog py catalog e ∧ ∀ outcome,
      validator.validate py catalog glot (generate py cc schema dialect request).sql dialect =
        .ok outcome → ∀ issue ∈ outcome.issues, ¬Semantics.IsUnknown issue) ↔
      Fits py cc schema request := by
  rw [← fits_branch]
  unfold generate at hnamed hparse hreads ⊢
  generalize hb : branch py cc schema request = b at hnamed hparse hreads ⊢
  have hbranch := named_branch hschema hb
  constructor
  · rintro ⟨h, -⟩
    by_contra hfits
    obtain ⟨table, ht, column, hcolumn, hno, hmem⟩ :=
      filtered_generated hpy schema dialect request.maxRows hbranch hfits
    exact hno (hasColumn_of_inCatalog hpy hcatalog hreads h ht hcolumn hmem)
  · intro hfits
    have h := inCatalog_of_grounded hpy hcatalog hreads
      (grounded_generated hpy hschema dialect request.maxRows hbranch hfits) hnamed
    refine ⟨h, ?_⟩
    intro outcome hvalidate
    apply not_isUnknown_of_validate hparse hvalidate
    apply not_isUnknown_of_inCatalog h hreads.ctes hreads.subqueries
    intro ref hr hempty
    obtain ⟨info, hinfo⟩ := h.tables ref hr
    rw [hempty] at hinfo
    obtain ⟨hmem, hname⟩ := reference_of_table hpy hcatalog (by decide) hinfo
    exact empty_not_mem_referenceNames (hname ▸ List.mem_map_of_mem hmem)

theorem readsAs_listed {e : Expression} {statement : List Piece} {table : String}
    {columns more : List String} (htables : e.tables = [{ name := table }])
    (hcolumns : e.collect columnName = (columns ++ more).map fun c ↦ (table, c))
    (haliases : e.collect projectionAlias = []) (hctes : e.collect cteAlias = [])
    (hsubqueries : e.collect subqueryAlias = [])
    (hnames : names statement =
      columns.map (.column table) ++ .table table :: more.map (.column table)) :
    ReadsAs e statement := by
  have hmem (p : Piece) (hp : p.isName = true) : p ∈ statement ↔
      p ∈ columns.map (.column table) ++ .table table :: more.map (.column table) := by
    rw [← hnames, mem_names, and_iff_left hp]
  have htable (name : String) : .table name ∈ statement ↔ name = table := by
    rw [hmem _ rfl]
    simp
  have hcolumn (qualifier name : String) : .column qualifier name ∈ statement ↔
      table = qualifier ∧ (name ∈ columns ∨ name ∈ more) := by
    rw [hmem _ rfl]
    simp only [List.mem_append, List.mem_map, List.mem_cons, Piece.column.injEq, reduceCtorEq,
      false_or]
    grind
  have houtput (name : String) : .output name ∉ statement := by
    rw [hmem _ rfl]
    simp
  refine ⟨?_, ?_, ?_, hctes, hsubqueries⟩
  · intro ref
    simp [htables, htable]
  · intro qualifier name
    simp only [hcolumns, hcolumn, houtput, and_false, or_false, List.mem_map, List.mem_append,
      Prod.mk.injEq]
    grind
  · intro name
    rw [haliases, hmem _ rfl]
    simp

def selectListing (table : String) (columns : List String) (clauses : List Expression) :
    Expression :=
  .mk .this (.select false)
    (columns.map (fun c ↦ .mk .expressions (.column table c) []) ++
      .mk .from_ .from_ [.mk .this (.table { name := table }) []] :: clauses)

def limitFive : Expression := .mk .limit .limit [.mk .expression (.literal "5" false) []]

def regionListing : Expression := selectListing "regions" ["id", "name", "code"] [limitFive]

def activeUsers : Expression :=
  selectListing "users" ["id", "organization_id", "role", "created_at", "deleted_at"]
    [.mk .where_ .where_ [.mk .this .eq
        [.mk .this (.column "users" "status") [], .mk .expression (.literal "active" true) []]],
      limitFive]

def generateFive (question : String) : Generated :=
  generate .ascii .ascii referenceSchema .sqlite ⟨question, none, 5⟩

theorem readsAs_regionListing :
    ReadsAs regionListing (generateFive "List the regions").statement :=
  @readsAs_listed _ _ "regions" ["id", "name", "code"] [] (by decide +kernel) (by decide +kernel)
    (by decide +kernel) (by decide +kernel) (by decide +kernel) (by decide +kernel)

theorem readsAs_activeUsers :
    ReadsAs activeUsers (generateFive "Show active users").statement :=
  @readsAs_listed _ _ "users" ["id", "organization_id", "role", "created_at", "deleted_at"]
    ["status"] (by decide +kernel) (by decide +kernel) (by decide +kernel) (by decide +kernel)
    (by decide +kernel) (by decide +kernel)

theorem lowersAscii_ascii : Python.ascii.LowersAscii := fun _ _ ↦ rfl

theorem named_regionListing {name : String}
    (h : .table name ∈ (generateFive "List the regions").statement) :
    (referenceSchema.table .ascii name).isSome = true := by
  have hregions : ∀ ref ∈ regionListing.tables,
      (referenceSchema.table .ascii ref.name).isSome = true := by
    decide +kernel
  exact hregions { name } ((readsAs_regionListing.tables _).mpr ⟨name, h, rfl⟩)

theorem staysInCatalog_regions :
    (InCatalog .ascii referenceSchema regionListing ∧ ∀ outcome,
      ({} : SQLValidator).validate .ascii referenceSchema
        (.one (generateFive "List the regions").sql regionListing "")
        (generateFive "List the regions").sql .sqlite = .ok outcome →
          ∀ issue ∈ outcome.issues, ¬Semantics.IsUnknown issue) ↔
      Fits .ascii .ascii referenceSchema ⟨"List the regions", none, 5⟩ :=
  staysInCatalog_iff lowersAscii_ascii (List.Subset.refl _) (List.Subset.refl _)
    (fun _ ↦ named_regionListing) {} (parseStatements_one _ _ _ _) readsAs_regionListing

theorem unknown_activeUsers (sql : String) : ∃ outcome,
    ({} : SQLValidator).validate .ascii referenceSchema (.one sql activeUsers "") sql .sqlite =
      .ok outcome ∧ ∃ issue ∈ outcome.issues, issue.code = "unknown_column" := by
  have hvalidate := @SQLValidator.validate_of_parse .ascii {} referenceSchema activeUsers _ _ _
    (parseStatements_one sql "" activeUsers .sqlite)
  refine ⟨_, hvalidate, ?_⟩
  have hfound : "unknown_column" ∈
      (({} : SQLValidator).findings .ascii referenceSchema activeUsers).map
        ValidationIssue.code := by
    decide +kernel
  rw [SQLValidator.validateExpression_issues]
  obtain ⟨issue, hissue, hcode⟩ := List.mem_map.mp (mem_addIssues_code.mpr (.inr hfound))
  exact ⟨issue, hissue, hcode⟩

/-- Users have no status, and a question about active users asks for it. -/
theorem active_users_unknown :
    ReadsAs activeUsers (generateFive "Show active users").statement ∧
      ∃ outcome, ({} : SQLValidator).validate .ascii referenceSchema
        (.one (generateFive "Show active users").sql activeUsers "")
        (generateFive "Show active users").sql .sqlite = .ok outcome ∧
          ∃ issue ∈ outcome.issues, issue.code = "unknown_column" :=
  ⟨readsAs_activeUsers, unknown_activeUsers _⟩

end TextToSql.Llm.Fake
