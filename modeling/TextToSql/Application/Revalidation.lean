import TextToSql.Application.Gate
import TextToSql.Security.ResolutionOrder
import TextToSql.Security.RewriterNodes
import TextToSql.Sql.Tolerated

namespace TextToSql.Application

open Library Domain Sql SQLValidator Security Infrastructure

def TenantText (py : Python) (schema : DatabaseSchema) (reported : List String) (text : String) :
    Prop :=
  ∃ table ∈ schema.tables, table.qualifiedName ∈ reported ∧
    ∃ column, (∃ c ∈ table.tenant, py.norm c = py.norm column) ∧ text = recordedText table column

/-- The second outcome is valid and differs from the first one in tenant columns only. -/
structure Preserved (py : Python) (schema : DatabaseSchema) (first second : ValidationOutcome) :
    Prop where
  valid : second.isValid = true
  statementType : second.statementType = first.statementType
  tables : second.referencedTables = first.referencedTables
  columns : first.referencedColumns ⊆ second.referencedColumns
  added : ∀ text ∈ second.referencedColumns,
    text ∈ first.referencedColumns ∨ TenantText py schema first.referencedTables text

def isName (t : NodeType) : Bool :=
  t.tableRef.isSome || (cteAlias t).isSome || (subqueryAlias t).isSome ||
    (projectionAlias t).isSome || (columnName t).isSome

variable (gate : Gate) (schema : DatabaseSchema) (maxRows : Nat) (tenantId : String)
  (e : Expression)

/-- A row bound that is replaced has no subquery, and the owners of unqualified columns come first
in both enumerations of the referenced tables. -/
structure Regular : Prop where
  bound : Replaces e maxRows → ∀ c ∈ e.args .limit, ∀ n ∈ c.walk, isName n.label.type = false
  order : ∀ column ∈ unqualifiedColumns gate.py (gate.finalExpression schema maxRows tenantId e),
    (gate.py.enumerate (referencedNames gate.py schema
        (gate.finalExpression schema maxRows tenantId e))).find? (offers gate.py schema column) =
      (gate.py.enumerate (referencedNames gate.py schema e)).find? (offers gate.py schema column)

/-- What the added predicate of a tenant table is taken for: a reference that has the name of a
CTE or derived table needs another reading of its column, and what is recorded for it are tenant
columns or columns that the statement reads anyway. -/
structure Fits (py : Python) (schema : DatabaseSchema) (e : Expression)
    (table : TableRef × String) : Prop where
  tolerated : table.1 ∉ checkedTables py e →
    Tolerated py schema e table.1.aliasOrName table.2
  recorded : ∀ owner ∈ owners py schema e (table.1.aliasOrName, table.2),
    recordedText owner table.2 ∈ resolvedColumns py schema e ∨
      TenantText py schema (realTables py schema e) (recordedText owner table.2)

def PredicatesFit : Prop :=
  (∀ table ∈ tenantTables gate.py schema e, Fits gate.py schema e table) ∧
    (gate.py.lower "AND" ∈ gate.validator.functionDenylist.map gate.py.lower →
      ∀ n ∈ e.walk, ¬Conjoins gate.py schema n)

variable {gate schema maxRows tenantId e} {py : Python}

theorem mem_tenantTables {table : TableRef × String} (h : table ∈ tenantTables py schema e) :
    table.1 ∈ e.tables ∧ ∃ info, schema.table py table.1.name = some info ∧
      table.2 ∈ info.tenant := by
  obtain ⟨n, hn, h⟩ := List.mem_flatMap.mp h
  obtain ⟨m, hm, hc⟩ := mem_owned h
  obtain ⟨ht, hinfo⟩ := tenantColumn_eq_some hc
  exact ⟨Expression.mem_tables.mpr ⟨m, RoseTree.mem_walk_trans hm hn, ht⟩, hinfo⟩

section Names

variable {p : Node → Prop}
  (hbound : Replaces e maxRows → ∀ c ∈ e.args .limit, ∀ n ∈ c.walk, isName n.label.type = false)

include hbound

theorem kept_of_name {c n : Expression} (hc : c ∈ e.children) (hn : n ∈ c.walk)
    (hname : isName n.label.type = true) : keptArg e maxRows c.label.key := by
  intro hr hkey
  have h := hbound hr c (List.mem_filter.mpr ⟨hc, decide_eq_true hkey⟩) n hn
  rw [hname] at h
  cases h

theorem occursIn_kept (hp : ∀ n, p n → isName n.type = true) :
    OccursIn (keptArg e maxRows) p e ↔ Occurs p e := by
  rw [← occursIn_all, OccursIn, OccursIn]
  refine or_congr_right ⟨?_, ?_⟩
  · rintro ⟨c, hc, -, ho⟩
    exact ⟨c, hc, trivial, ho⟩
  · rintro ⟨c, hc, -, n, hn, hpn⟩
    exact ⟨c, hc, kept_of_name hbound hc hn (hp _ hpn), n, hn, hpn⟩

theorem addedIn_kept :
    AddedIn py schema (keptArg e maxRows) p e ↔ Added py schema p e := by
  rw [← addedIn_all, AddedIn, AddedIn]
  refine or_congr_right ⟨?_, ?_⟩
  · rintro ⟨c, hc, -, ha⟩
    exact ⟨c, hc, trivial, ha⟩
  · rintro ⟨c, hc, -, n, hn, ha⟩
    obtain ⟨table, htable⟩ : ∃ table, table ∈ owned py schema n.label n.children := by
      rcases ha with ⟨table, ht, -⟩ | ⟨⟨hne, -⟩, -⟩
      · exact ⟨table, ht⟩
      · exact List.exists_mem_of_ne_nil _ hne
    obtain ⟨m, hm, hcolumn⟩ := mem_owned htable
    refine ⟨c, hc, kept_of_name hbound hc (RoseTree.mem_walk_trans hm hn) ?_, n, hn, ha⟩
    rw [(tenantColumn_eq_some hcolumn).1]
    rfl

theorem mem_collect_final {α : Type} {f : NodeType → Option α} {x : α}
    (hw : PlainWhere e) (hs : SingleWhere e) (hname : ∀ t, (f t).isSome = true → isName t = true) :
    x ∈ (gate.finalExpression schema maxRows tenantId e).collect f ↔
      x ∈ e.collect f ∨ ∃ table ∈ tenantTables gate.py schema e,
        f (.column table.1.aliasOrName table.2) = some x := by
  have hnone {t : NodeType} (ht : isName t = false) : f t ≠ some x := by
    intro h
    rw [hname t (by rw [h]; rfl)] at ht
    cases ht
  have hp : Followed (fun n ↦ f n.type = some x) e := by
    refine ⟨⟨hnone rfl, hnone rfl, fun _ ↦ hnone rfl, fun _ _ _ ↦ hnone rfl⟩, ?_⟩
    intro n _ ht hx
    rw [ht] at hx
    exact hnone rfl hx
  have hadded : Added gate.py schema (fun n ↦ f n.type = some x) e ↔
      ∃ table ∈ tenantTables gate.py schema e,
        f (.column table.1.aliasOrName table.2) = some x := by
    constructor
    · rintro ⟨n, hn, ⟨table, ht, hx⟩ | ⟨-, hand⟩⟩
      · exact ⟨table, List.mem_flatMap.mpr ⟨n, hn, ht⟩, hx⟩
      · exact absurd hand (hnone rfl)
    · rintro ⟨table, ht, hx⟩
      obtain ⟨n, hn, ht⟩ := List.mem_flatMap.mp ht
      exact ⟨n, hn, .inl ⟨table, ht, hx⟩⟩
  rw [Expression.mem_collect, Expression.mem_collect, ← hadded, ← addedIn_kept hbound]
  have hfinal := @occurs_final gate.py schema tenantId _ e hp (hnone rfl) hw hs maxRows
  rw [occursIn_kept hbound fun n hn ↦ hname _ (by rw [hn]; rfl)] at hfinal
  exact hfinal

theorem sameNames_final (hw : PlainWhere e) (hs : SingleWhere e) :
    SameNames e (gate.finalExpression schema maxRows tenantId e) := by
  have hsame {α : Type} (f : NodeType → Option α)
      (hname : ∀ t, (f t).isSome = true → isName t = true)
      (hcolumn : ∀ q n, f (.column q n) = none) (x : α) :
      x ∈ (gate.finalExpression schema maxRows tenantId e).collect f ↔ x ∈ e.collect f := by
    rw [mem_collect_final hbound hw hs hname]
    simp [hcolumn]
  constructor
  · exact hsame _ (fun t ht ↦ by simp [isName, ht]) fun _ _ ↦ rfl
  · exact hsame _ (fun t ht ↦ by simp [isName, ht]) fun _ _ ↦ rfl
  · exact hsame _ (fun t ht ↦ by simp [isName, ht]) fun _ _ ↦ rfl
  · exact hsame _ (fun t ht ↦ by simp [isName, ht]) fun _ _ ↦ rfl

theorem mem_columns_final (hw : PlainWhere e) (hs : SingleWhere e) {c : String × String} :
    c ∈ (gate.finalExpression schema maxRows tenantId e).collect columnName ↔
      c ∈ e.collect columnName ∨ ∃ table ∈ tenantTables gate.py schema e,
        (table.1.aliasOrName, table.2) = c := by
  rw [mem_collect_final hbound hw hs fun t ht ↦ by simp [isName, ht]]
  simp [columnName]

end Names

theorem functionIssues_eq_nil {validator : SQLValidator} :
    validator.functionIssues py e = [] ↔ ∀ name ∈ e.collect (functionName py),
      name ∉ validator.functionDenylist.map py.lower := by
  rw [functionIssues, List.map_eq_nil_iff, List.eq_nil_iff_forall_not_mem]
  simp only [mem_deniedFunctions, List.not_mem_nil, not_false_eq_true, and_true, not_and]

theorem label_final :
    (gate.finalExpression schema maxRows tenantId e).label = e.label := by
  rw [Gate.finalExpression, Gate.scopedExpression]
  by_cases hr : Replaces (rewrite gate.py schema tenantId e).1 maxRows
  · rw [enforceLimit_replaces hr]
    exact label_rewrite _ _ _ e
  · rw [enforceLimit_leaves hr]
    exact label_rewrite _ _ _ e

section Accepted

variable (ha : gate.validator.Accepts gate.py schema e) (hw : PlainWhere e) (hs : SingleWhere e)

include ha hw hs

omit ha in
theorem occurs_final_of_not {p : Node → Prop} (hp : Overlooks p)
    (hlimit : ¬p { key := .limit, type := .limit }) (hnone : ∀ n ∈ e.walk, ¬p n.label)
    (h : Occurs p (gate.finalExpression schema maxRows tenantId e)) :
    Added gate.py schema p e := by
  have hfollowed : Followed p e := ⟨hp, fun n hn _ ↦ hnone n hn⟩
  rcases (occurs_final hfollowed hlimit hw hs maxRows).mp h with ho | hadded
  · exfalso
    rcases ho with hroot | ⟨c, hc, -, n, hn, hpn⟩
    · exact hnone e (RoseTree.self_mem_walk e) hroot
    · exact hnone n (RoseTree.mem_walk_trans hn
        (RoseTree.mem_walk_child (RoseTree.self_mem_walk e) hc)) hpn
  · rcases hadded with hat | ⟨c, hc, -, n, hn, hat⟩
    · exact ⟨e, RoseTree.self_mem_walk e, hat⟩
    · exact ⟨n, RoseTree.mem_walk_trans hn
        (RoseTree.mem_walk_child (RoseTree.self_mem_walk e) hc), hat⟩

theorem forbiddenIssues_final :
    forbiddenIssues (gate.finalExpression schema maxRows tenantId e) = [] := by
  unfold forbiddenIssues
  split
  · rfl
  · rename_i name names hcons
    have hmem : name ∈ (gate.finalExpression schema maxRows tenantId e).collect forbiddenName := by
      rw [hcons]
      exact List.mem_cons_self
    obtain ⟨n, hn, hname⟩ := Expression.mem_collect.mp hmem
    have hocc : Occurs (fun n ↦ forbiddenName n.type ≠ none)
        (gate.finalExpression schema maxRows tenantId e) :=
      ⟨n, hn, Option.ne_none_iff_exists'.mpr ⟨name, hname⟩⟩
    obtain ⟨m, -, ⟨table, -, h⟩ | ⟨-, h⟩⟩ := occurs_final_of_not hw hs
      ⟨by simp [forbiddenName], by simp [forbiddenName], by simp [forbiddenName],
        by simp [forbiddenName]⟩ (by simp [forbiddenName])
      (fun n hn ↦ not_not.mpr (ha.forbiddenName hn)) hocc
    · exact absurd rfl h
    · exact absurd rfl h

theorem commentIssues_final :
    commentIssues (gate.finalExpression schema maxRows tenantId e) = [] := by
  have hnone : ∀ n ∈ e.walk, ¬n.label.comments ≠ [] := by
    have hc := ha.parts.2.2.1
    rw [commentIssues] at hc
    split at hc
    · cases hc
    · rename_i hany
      simpa using hany
  unfold commentIssues
  split
  · rename_i hany
    obtain ⟨n, hn, hcomments⟩ := List.any_eq_true.mp hany
    have hocc : Occurs (fun n ↦ n.comments ≠ [])
        (gate.finalExpression schema maxRows tenantId e) := ⟨n, hn, of_decide_eq_true hcomments⟩
    obtain ⟨m, -, ⟨table, -, h⟩ | ⟨-, h⟩⟩ := occurs_final_of_not hw hs
      ⟨by simp, by simp, by simp, by simp⟩ (by simp) hnone hocc
    · exact absurd rfl h
    · exact absurd rfl h
  · rfl

omit hs in
theorem starIssues_final :
    starIssues (gate.finalExpression schema maxRows tenantId e) = [] := by
  have hnone := starIssues_eq_nil.mp ha.parts.2.2.2.1
  rw [starIssues_eq_nil, ← Bool.not_eq_true]
  intro h
  rw [showsStar_final hw maxRows h] at hnone
  cases hnone

theorem functionIssues_final
    (hbound : Replaces e maxRows →
      ∀ c ∈ e.args .limit, ∀ n ∈ c.walk, isName n.label.type = false) :
    gate.validator.functionIssues gate.py (gate.finalExpression schema maxRows tenantId e) = [] ↔
      (gate.py.lower "AND" ∈ gate.validator.functionDenylist.map gate.py.lower →
        ∀ n ∈ e.walk, ¬Conjoins gate.py schema n) := by
  have he := functionIssues_eq_nil.mp ha.parts.2.2.2.2.1
  rw [functionIssues_eq_nil]
  constructor
  · intro h hdenied n hn hconj
    have hadded : Added gate.py schema (fun n ↦ n.type = .and_) e := ⟨n, hn, .inr ⟨hconj, rfl⟩⟩
    have hp : Followed (fun n ↦ n.type = .and_) e :=
      ⟨⟨nofun, nofun, fun _ ↦ nofun, fun _ _ _ ↦ nofun⟩, fun n _ ht h ↦ by
        rw [ht] at h
        cases h⟩
    obtain ⟨m, hm, hand⟩ := (occurs_final hp nofun hw hs maxRows).mpr
      (.inr ((addedIn_kept hbound).mpr hadded))
    refine h _ (Expression.mem_collect.mpr ⟨m, hm, ?_⟩) hdenied
    rw [show m.label.type = .and_ from hand]
    rfl
  · intro h name hname hdenied
    obtain ⟨n, hn, hx⟩ := Expression.mem_collect.mp hname
    have hocc : Occurs (fun n ↦ functionName gate.py n.type = some name)
        (gate.finalExpression schema maxRows tenantId e) := ⟨n, hn, hx⟩
    obtain ⟨m, hm, ⟨table, -, hcol⟩ | ⟨hconj, hand⟩⟩ := occurs_final_of_not hw hs
      ⟨nofun, nofun, fun _ ↦ nofun, fun _ _ _ ↦ nofun⟩ nofun
      (fun n hn hx ↦ he name (Expression.mem_collect.mpr ⟨n, hn, hx⟩) hdenied) hocc
    · cases hcol
    · cases hand
      exact h hdenied m hm hconj

end Accepted

section Columns

variable (hr : Regular gate schema maxRows tenantId e) (hw : PlainWhere e) (hs : SingleWhere e)

include hr hw hs

theorem owners_final {c : String × String}
    (hc : c ∈ (gate.finalExpression schema maxRows tenantId e).collect columnName) :
    owners gate.py schema (gate.finalExpression schema maxRows tenantId e) c =
      owners gate.py schema e c := by
  have hnames := @sameNames_final gate schema maxRows tenantId e hr.bound hw hs
  by_cases hq : gate.py.lower c.1 = ""
  · by_cases hname : c.2 = "" ∨ c.2 = "*"
    · rw [SQLValidator.owners, SQLValidator.owners, if_pos hname, if_pos hname]
    · by_cases ho : gate.py.lower c.2 ∈ outputAliases gate.py e
      · rw [SQLValidator.owners, SQLValidator.owners, if_neg hname, if_neg hname, if_pos hq,
          if_pos hq, if_pos ho, if_pos ((hnames.outputAliases _).mpr ho)]
      · have ho' : gate.py.lower c.2 ∉
            outputAliases gate.py (gate.finalExpression schema maxRows tenantId e) :=
          fun h ↦ ho ((hnames.outputAliases _).mp h)
        push Not at hname
        have hcolumn := mem_unqualifiedColumns.mpr ⟨c.1, hc, hq, hname.1, hname.2, ho'⟩
        rw [owners_first hq (by simp [hname]) ho', owners_first hq (by simp [hname]) ho,
          hr.order _ hcolumn]
  · exact hnames.owners_qualified hq

theorem mem_resolvedColumns_final {text : String} :
    text ∈ resolvedColumns gate.py schema (gate.finalExpression schema maxRows tenantId e) ↔
      text ∈ resolvedColumns gate.py schema e ∨
        ∃ table ∈ tenantTables gate.py schema e,
          ∃ owner ∈ owners gate.py schema e (table.1.aliasOrName, table.2),
            text = recordedText owner table.2 := by
  have hmem (c : String × String) :=
    @mem_columns_final gate schema maxRows tenantId e hr.bound hw hs c
  simp only [resolvedColumns_owners, List.mem_flatMap, List.mem_map]
  constructor
  · rintro ⟨c, hc, owner, ho, rfl⟩
    rw [owners_final hr hw hs hc] at ho
    rcases (hmem c).mp hc with hc | ⟨table, ht, rfl⟩
    · exact .inl ⟨c, hc, owner, ho, rfl⟩
    · exact .inr ⟨table, ht, owner, ho, rfl⟩
  · rintro (⟨c, hc, owner, ho, rfl⟩ | ⟨table, ht, owner, ho, rfl⟩)
    · have hfinal := (hmem c).mpr (.inl hc)
      exact ⟨c, hfinal, owner, (owners_final hr hw hs hfinal).symm ▸ ho, rfl⟩
    · have hfinal := (hmem _).mpr (.inr ⟨table, ht, rfl⟩)
      exact ⟨_, hfinal, owner, (owners_final hr hw hs hfinal).symm ▸ ho, rfl⟩

theorem columnIssues_final (ha : gate.validator.Accepts gate.py schema e) :
    columnIssues gate.py schema (gate.finalExpression schema maxRows tenantId e) = [] ↔
      ∀ table ∈ tenantTables gate.py schema e,
        Tolerated gate.py schema e table.1.aliasOrName table.2 := by
  have hnames := @sameNames_final gate schema maxRows tenantId e hr.bound hw hs
  have he (c : String × String) (hc : c ∈ e.collect columnName) :
      Tolerated gate.py schema e c.1 c.2 :=
    (checkColumn_ok_iff c.1 c.2).mp (columnIssues_eq_nil.mp ha.parts.2.2.2.2.2.2 c hc)
  rw [columnIssues_eq_nil]
  have hmem (c : String × String) :=
    @mem_columns_final gate schema maxRows tenantId e hr.bound hw hs c
  constructor
  · intro h table ht
    have hcheck := h (table.1.aliasOrName, table.2) ((hmem _).mpr (.inr ⟨table, ht, rfl⟩))
    exact (hnames.tolerated _ _).mp ((checkColumn_ok_iff _ _).mp hcheck)
  · intro h c hc
    refine (checkColumn_ok_iff c.1 c.2).mpr ((hnames.tolerated _ _).mpr ?_)
    rcases (hmem c).mp hc with hc | ⟨table, ht, rfl⟩
    · exact he c hc
    · exact h table ht

end Columns

theorem tolerated_of_checked
    (hcatalog : ∀ table ∈ schema.tables, ∀ c ∈ table.tenant, table.hasColumn py c = true)
    {table : TableRef × String} (ht : table ∈ tenantTables py schema e)
    (hc : table.1 ∈ checkedTables py e) :
    Tolerated py schema e table.1.aliasOrName table.2 := by
  obtain ⟨-, info, hinfo, htenant⟩ := mem_tenantTables ht
  have hname := (mem_checkedTables.mp hc).2.1
  have hq : table.1.aliasOrName ≠ "" := by
    rw [TableRef.aliasOrName]
    split
    · exact hname
    · assumption
  exact .owned hq (table.1, info) (mem_boundTables.mpr ⟨hc, hinfo⟩) (.inl rfl)
    (hcatalog info (DatabaseSchema.table_mem py hinfo) _ htenant)

/-- The second validation finds a regular accepted statement as the first one did exactly when the
added predicates fit into it. -/
theorem preserved_iff {dialect : SQLDialect} {sql : String} {outcome : ValidationOutcome}
    (h : gate.validator.validate gate.py schema gate.glot sql dialect = .ok outcome)
    (hv : outcome.isValid = true) (he : outcome.expression = some e)
    (hcatalog : ∀ table ∈ schema.tables, ∀ c ∈ table.tenant, table.hasColumn gate.py c = true)
    (hw : PlainWhere e) (hs : SingleWhere e) (hr : Regular gate schema maxRows tenantId e) :
    Preserved gate.py schema outcome
        (gate.revalidate schema (gate.finalExpression schema maxRows tenantId e)) ↔
      PredicatesFit gate schema e := by
  obtain ⟨ha, rfl⟩ := accepts_of_validate h hv he
  have hnames := @sameNames_final gate schema maxRows tenantId e hr.bound hw hs
  have haccepts : gate.validator.Accepts gate.py schema
      (gate.finalExpression schema maxRows tenantId e) ↔
      (gate.py.lower "AND" ∈ gate.validator.functionDenylist.map gate.py.lower →
        ∀ n ∈ e.walk, ¬Conjoins gate.py schema n) ∧
        ∀ table ∈ tenantTables gate.py schema e,
          Tolerated gate.py schema e table.1.aliasOrName table.2 := by
    have hstatement : statementIssues gate.py (gate.finalExpression schema maxRows tenantId e) =
        statementIssues gate.py e := by
      rw [statementIssues, statementIssues, classifyStatement, classifyStatement, label_final]
    have htables : ∀ ref ∈ checkedTables gate.py (gate.finalExpression schema maxRows tenantId e),
        gate.validator.tableIssues gate.py schema ref = [] :=
      fun ref href ↦ ha.parts.2.2.2.2.2.1 ref ((hnames.checkedTables ref).mp href)
    rw [accepts_iff, hstatement, functionIssues_final ha hw hs hr.bound,
      columnIssues_final hr hw hs ha]
    simp only [ha.parts.1, forbiddenIssues_final ha hw hs, commentIssues_final ha hw hs,
      starIssues_final ha hw, true_and]
    exact and_congr_right fun _ ↦ and_iff_right htables
  have hcolumns (text : String) := @mem_resolvedColumns_final gate schema maxRows tenantId e hr hw
    hs text
  have htext (text : String) :
      TenantText gate.py schema (sortedSet (realTables gate.py schema e)) text ↔
        TenantText gate.py schema (realTables gate.py schema e) text := by
    simp only [TenantText, mem_sortedSet]
  constructor
  · intro hp
    obtain ⟨hand, htolerated⟩ := haccepts.mp (validateExpression_isValid.mp hp.valid).2
    refine ⟨fun table ht ↦ ⟨fun _ ↦ htolerated table ht, fun owner ho ↦ ?_⟩, hand⟩
    have hadded := hp.added (recordedText owner table.2)
      (mem_sortedSet.mpr ((hcolumns _).mpr (.inr ⟨table, ht, owner, ho, rfl⟩)))
    rwa [validateExpression_columns, validateExpression_tables, mem_sortedSet, htext] at hadded
  · rintro ⟨hfit, hand⟩
    refine ⟨validateExpression_isValid.mpr ⟨rfl, haccepts.mpr ⟨hand, fun table ht ↦ ?_⟩⟩, ?_, ?_,
      fun text hx ↦ ?_, fun text hx ↦ ?_⟩
    · by_cases hc : table.1 ∈ checkedTables gate.py e
      · exact tolerated_of_checked hcatalog ht hc
      · exact (hfit table ht).tolerated hc
    · change classifyStatement gate.py _ = classifyStatement gate.py e
      rw [classifyStatement, classifyStatement, label_final]
    · exact sortedSet_congr hnames.realTables
    · exact mem_sortedSet.mpr ((hcolumns text).mpr (.inl (mem_sortedSet.mp hx)))
    · rw [validateExpression_columns, validateExpression_tables, mem_sortedSet, htext]
      rcases (hcolumns text).mp (mem_sortedSet.mp hx) with hx | ⟨table, ht, owner, ho, rfl⟩
      · exact .inl hx
      · exact (hfit table ht).recorded owner ho

def firstOutcome (sql : String) (e : Expression) : ValidationOutcome :=
  validateExpression .ascii {} usersAndOrders e
    ((newOutcome .ascii [e]).addAll (commentBackstop sql))

def secondOutcome (sql : String) (e : Expression) : ValidationOutcome :=
  (Gate.offline sql e).revalidate usersAndOrders
    ((Gate.offline sql e).finalExpression usersAndOrders 100 "1" e)

theorem validate_offline (sql : String) (e : Expression) :
    (Gate.offline sql e).validator.validate (Gate.offline sql e).py usersAndOrders
      (Gate.offline sql e).glot sql .postgres = .ok (firstOutcome sql e) :=
  validate_of_parse (parseStatements_one sql sql e .postgres)

def selectOrders : Expression := selectFrom "id" "orders" []

theorem preserved_orders :
    Preserved .ascii usersAndOrders (firstOutcome "SELECT id FROM orders" selectOrders)
        (secondOutcome "SELECT id FROM orders" selectOrders) ↔
      PredicatesFit (.offline "SELECT id FROM orders" selectOrders) usersAndOrders selectOrders :=
  preserved_iff (validate_offline _ _) (by decide +kernel) rfl (by decide +kernel)
    (by decide +kernel) (by decide +kernel) ⟨by decide +kernel, by decide +kernel⟩

/-- `WITH orders AS (SELECT r.id AS id FROM regions AS r) SELECT r.id FROM orders AS r`. -/
def regionsAsOrders : Expression :=
  .mk .this (.select false)
    [.mk .with_ (.with_ false)
        [.mk .expressions (.cte "orders" [])
          [.mk .this (.select false)
            [.mk .expressions (.alias_ "id") [.mk .this (.column "r" "id") []],
              .mk .from_ .from_ [.mk .this (.table { name := "regions", alias_ := "r" }) []]]]],
      .mk .expressions (.column "r" "id") [],
      .mk .from_ .from_ [.mk .this (.table { name := "orders", alias_ := "r" }) []]]

def regionsAsOrdersText : String :=
  "WITH orders AS (SELECT r.id AS id FROM regions AS r) SELECT r.id FROM orders AS r"

theorem own_predicate_rejected :
    (∀ table ∈ usersAndOrders.tables, ∀ c ∈ table.tenant, table.hasColumn .ascii c = true) ∧
      (Gate.offline regionsAsOrdersText regionsAsOrders).validator.validate .ascii usersAndOrders
        (.one regionsAsOrdersText regionsAsOrders regionsAsOrdersText) regionsAsOrdersText
        .postgres = .ok (firstOutcome regionsAsOrdersText regionsAsOrders) ∧
      (firstOutcome regionsAsOrdersText regionsAsOrders).isValid = true ∧
      ¬Preserved .ascii usersAndOrders (firstOutcome regionsAsOrdersText regionsAsOrders)
        (secondOutcome regionsAsOrdersText regionsAsOrders) := by
  refine ⟨by decide +kernel, validate_offline _ _, by decide +kernel, fun h ↦ ?_⟩
  have hinvalid : (secondOutcome regionsAsOrdersText regionsAsOrders).isValid = false := by
    decide +kernel
  rw [h.valid] at hinvalid
  cases hinvalid

end TextToSql.Application
