import TextToSql.Application.Gate
import TextToSql.Infrastructure.ReferenceSchema
import TextToSql.Security.Complexity
import TextToSql.Security.RewriterRelations
import TextToSql.Sql.LetterCase

namespace TextToSql.Application

open Library Domain Sql Security Infrastructure

def SameReferences (refs refs' : List String) : Prop :=
  ∀ ref, ref ∈ refs.map asciiLower ↔ ref ∈ refs'.map asciiLower

def SameCodes (issues issues' : List ValidationIssue) : Prop :=
  ∀ code, code ∈ issues.map ValidationIssue.code ↔ code ∈ issues'.map ValidationIssue.code

theorem SameCodes.eq_nil_iff {issues issues' : List ValidationIssue}
    (h : SameCodes issues issues') : issues = [] ↔ issues' = [] := by
  rw [← List.map_eq_nil_iff (f := ValidationIssue.code), List.eq_nil_iff_forall_not_mem,
    ← List.map_eq_nil_iff (f := ValidationIssue.code) (l := issues'),
    List.eq_nil_iff_forall_not_mem]
  exact forall_congr' fun code ↦ not_congr (h code)

section Policy

variable {py : Python} {config : SecurityPolicyConfig} {schema : DatabaseSchema}
  {auth : AuthContext}

theorem lookupReference_congr {ref ref' : String} (h : SameLetters ref ref') :
    lookupReference py schema ref = lookupReference py schema ref' := by
  rw [lookupReference, lookupReference, DatabaseSchema.table_congr py h.partitionDot.1]
  refine congrArg (Option.bind _) (funext fun table ↦ ?_)
  exact TableInfo.column_congr py h.partitionDot.2

theorem columnDenials_congr {roles : List String} {ref ref' : String}
    (h : SameLetters ref ref') :
    (columnDenials py schema roles ref).map ValidationIssue.code =
      (columnDenials py schema roles ref').map ValidationIssue.code := by
  rw [columnDenials, columnDenials, lookupReference_congr h]
  cases lookupReference py schema ref' with
  | none => rfl
  | some column =>
    dsimp only
    split
    · rfl
    · rfl

theorem columnDenials_subset {roles columns columns' : List String}
    (h : SameReferences columns columns') {code : String}
    (hc : code ∈ (columns.flatMap (columnDenials py schema roles)).map ValidationIssue.code) :
    code ∈ (columns'.flatMap (columnDenials py schema roles)).map ValidationIssue.code := by
  rw [List.map_flatMap, List.mem_flatMap] at hc ⊢
  obtain ⟨ref, hr, hc⟩ := hc
  obtain ⟨ref', hr', hsame⟩ := List.mem_map.mp ((h _).mp (List.mem_map_of_mem hr))
  refine ⟨ref', hr', ?_⟩
  rwa [columnDenials_congr hsame]

theorem sameCodes_denials (py : Python) (config : SecurityPolicyConfig) (schema : DatabaseSchema)
    (auth : AuthContext) (tables : List String) {columns columns' : List String}
    (h : SameReferences columns columns') :
    SameCodes (denials py config schema tables columns auth)
      (denials py config schema tables columns' auth) := by
  intro code
  rw [denials, denials, List.map_append, List.map_append, List.mem_append, List.mem_append]
  refine or_congr_right ⟨columnDenials_subset h, columnDenials_subset fun ref ↦ (h ref).symm⟩

end Policy

/-- The same node at the same place, up to the case of its names. -/
def SameObject (o o' : Object) : Prop := o.id = o'.id ∧ o.node.lowerNames = o'.node.lowerNames

def SameTarget (t t' : Target (List Nat)) : Prop :=
  t.scope = t'.scope ∧ t.table.lowerNames = t'.table.lowerNames ∧ t.column = t'.column

def tenantOccurrences (py : Python) (schema : DatabaseSchema) (e : Expression) :
    List (Option (List Nat)) :=
  ((RoseTree.walkUp (copy [] e)).filter fun visit ↦
    (targetOf py schema Object.node visit).isSome).map fun visit ↦ visit.2.label.id

section Rewriting

variable {py : Python} {schema : DatabaseSchema} {tenantId : String} {e e' : Expression}

theorem type_of_lowerNames {n n' : Node} (h : n.lowerNames = n'.lowerNames) :
    n.type.lowerNames = n'.type.lowerNames := congrArg Node.type h

theorem isConnector_lowerNames (t : NodeType) : isConnector t.lowerNames = isConnector t := by
  cases t <;> rfl

theorem isSelect_lowerNames (t : NodeType) : t.lowerNames.isSelect = t.isSelect := by
  cases t <;> rfl

theorem SameObject.respects : Respects SameObject where
  id _ _ h := h.1
  key o o' h := by
    rw [← Node.lowerNames_key o.node, h.2, Node.lowerNames_key]
  connector o o' h := by
    rw [← isConnector_lowerNames, type_of_lowerNames h.2, isConnector_lowerNames]
  fresh _ := ⟨rfl, rfl⟩

theorem caseVariant_copy (h : CaseVariant e e') :
    RoseTree.Lift SameObject (copy [] e) (copy [] e') :=
  lift_copy (fun _ _ _ hn ↦ ⟨rfl, hn⟩) (RoseTree.lift_iff_map_eq.mpr h) []

theorem tenantColumn_lowerNames (t : NodeType) :
    tenantColumn py schema t.lowerNames =
      (tenantColumn py schema t).map fun found ↦ (found.1.lowerNames, found.2) := by
  cases t with
  | table ref =>
    have hname : schema.table py ref.lowerNames.name = schema.table py ref.name :=
      DatabaseSchema.table_congr py (SameLetters.asciiLower_left ref.name)
    simp only [tenantColumn, NodeType.lowerNames, NodeType.tableRef, Option.bind_some, hname,
      Option.map_map]
    rfl
  | _ => rfl

theorem targetOf_congr (py : Python) (schema : DatabaseSchema)
    {visit visit' : RoseTree.Visit Object}
    (h : RoseTree.LiftVisit SameObject visit visit') :
    Option.Rel (fun t t' ↦ RoseTree.Lift SameObject t.scope t'.scope ∧
        t.table.lowerNames = t'.table.lowerNames ∧ t.column = t'.column)
      (targetOf py schema Object.node visit) (targetOf py schema Object.node visit') := by
  have hfound : (tenantColumn py schema visit.2.label.node.type).map
        (fun found ↦ (found.1.lowerNames, found.2)) =
      (tenantColumn py schema visit'.2.label.node.type).map
        fun found ↦ (found.1.lowerNames, found.2) := by
    rw [← tenantColumn_lowerNames, ← tenantColumn_lowerNames, type_of_lowerNames h.2.label.2]
  have hscope : Option.Rel (RoseTree.Lift SameObject)
      (visit.1.find? fun a ↦ a.label.node.type.isSelect)
      (visit'.1.find? fun a ↦ a.label.node.type.isSelect) := by
    refine RoseTree.forall₂_find? (p := fun o : Object ↦ o.node.type.isSelect)
      (q := fun o : Object ↦ o.node.type.isSelect) (fun o o' ho ↦ ?_) h.1
    rw [← isSelect_lowerNames, type_of_lowerNames ho.2, isSelect_lowerNames]
  rw [targetOf, targetOf]
  cases hc : tenantColumn py schema visit.2.label.node.type with
  | none =>
    rw [hc, Option.map_none, eq_comm, Option.map_eq_none_iff] at hfound
    rw [hfound]
    exact .none
  | some found =>
    rw [hc, Option.map_some, eq_comm, Option.map_eq_some_iff] at hfound
    obtain ⟨found', hc', heq⟩ := hfound
    rw [Prod.mk.injEq] at heq
    rw [hc', Option.bind_some, Option.bind_some]
    generalize visit.1.find? _ = scope at hscope ⊢
    generalize visit'.1.find? _ = scope' at hscope ⊢
    cases hscope with
    | none => exact .none
    | some hs => exact .some ⟨hs, heq.1.symm, heq.2.symm⟩

theorem isSome_of_rel {α β : Type} {R : α → β → Prop} {a : Option α} {b : Option β}
    (h : Option.Rel R a b) : a.isSome = b.isSome := by
  cases h with
  | none => rfl
  | some => rfl

theorem caseVariant_targets (h : CaseVariant e e') :
    List.Forall₂ SameTarget (collectTargets py schema (copy [] e))
      (collectTargets py schema (copy [] e')) := by
  rw [collectTargets, collectTargets, targets, targets,
    List.forall₂_map_left_iff, List.forall₂_map_right_iff]
  have hrel := List.rel_filterMap (fun _ _ hv ↦ targetOf_congr py schema hv)
    (caseVariant_copy h).walkUp
  refine hrel.imp fun t t' ht ↦ ⟨?_, ht.2⟩
  rw [ht.1.label.1]

theorem caseVariant_occurrences (h : CaseVariant e e') :
    tenantOccurrences py schema e = tenantOccurrences py schema e' := by
  have hw := (caseVariant_copy h).walkUp
  rw [tenantOccurrences, tenantOccurrences]
  generalize RoseTree.walkUp (copy [] e) = visits at hw
  generalize RoseTree.walkUp (copy [] e') = visits' at hw
  induction hw with
  | nil => rfl
  | cons hv _ ih =>
    rw [List.filter_cons, List.filter_cons, isSome_of_rel (targetOf_congr py schema hv)]
    split
    · rw [List.map_cons, List.map_cons, ih, hv.2.label.1]
    · exact ih

theorem SameTarget.predicate {t t' : Target (List Nat)} (h : SameTarget t t') (key : Arg) :
    RoseTree.Lift SameObject (newPredicate py tenantId t.qualifier t.column key)
      (newPredicate py tenantId t'.qualifier t'.column key) := by
  have hq : asciiLower t.qualifier = asciiLower t'.qualifier := by
    rw [Target.qualifier, Target.qualifier, ← SQLValidator.aliasOrName_lowerNames, h.2.1,
      SQLValidator.aliasOrName_lowerNames]
  simp only [newPredicate, buildPredicate, RoseTree.map_node, List.map_cons, List.map_nil,
    RoseTree.lift_node, h.2.2]
  refine ⟨⟨rfl, rfl⟩, .cons ?_ (.cons ?_ .nil)⟩
  · refine RoseTree.lift_node.mpr ⟨⟨rfl, ?_⟩, .nil⟩
    simp [columnNode, Node.lowerNames, NodeType.lowerNames, hq]
  · exact RoseTree.lift_node.mpr ⟨⟨rfl, rfl⟩, .nil⟩

theorem caseVariant_rewrite (h : CaseVariant e e') :
    CaseVariant (rewrite py schema tenantId e).1 (rewrite py schema tenantId e').1 := by
  have hobjects : RoseTree.Lift SameObject (rewriteObjects py schema tenantId e)
      (rewriteObjects py schema tenantId e') := by
    refine lift_applyTargets SameObject.respects ?_ (caseVariant_copy h)
    exact (caseVariant_targets h).imp fun t t' ht ↦ ⟨ht.1, ht.predicate⟩
  rw [rewrite_fst, rewrite_fst]
  exact RoseTree.lift_iff_map_eq.mp (hobjects.map fun _ _ ho ↦ ho.2)

theorem limitView_lowerNames (e : Expression) :
    limitView id e.lowerNames =
      (limitView id e).map fun v ↦ (v.1.lowerNames, v.2.map NodeType.lowerNames) := by
  have hchild (c : Expression) (k : Arg) :
      (c.lowerNames.child? fun l ↦ (id l).key = k) =
        (c.child? fun l ↦ (id l).key = k).map Expression.lowerNames :=
    RoseTree.child?_map (fun _ ↦ rfl) c
  rw [limitView, limitView, hchild, Option.map_map, Option.map_map]
  refine congrArg (Option.map · _) (funext fun c ↦ ?_)
  rw [Function.comp_apply, Function.comp_apply, hchild, Option.map_map, Option.map_map,
    Expression.lowerNames, RoseTree.label_map]
  refine congrArg (Prod.mk _) (congrArg (Option.map · _) (funext fun d ↦ ?_))
  rw [Function.comp_apply, Function.comp_apply, Expression.lowerNames, RoseTree.label_map]
  rfl

theorem limitValue_lowerNames (e : Expression) :
    limitValue (e.lowerNames.arg .limit) = limitValue (e.arg .limit) := by
  have hint (t : NodeType) : typeInt t.lowerNames = typeInt t := by
    cases t <;> rfl
  have hlimit (t : NodeType) : t.lowerNames = .limit ↔ t = .limit := by
    cases t <;> simp [NodeType.lowerNames]
  rw [limitValue_eq, limitValue_eq, limitView_lowerNames]
  cases limitView id e with
  | none => rfl
  | some v =>
    simp only [limitOfView, Option.map_some, Option.bind_some, hlimit]
    split
    · simp only [Option.map_map, Function.comp_def, hint]
    · simp only [Option.map_some, hint]

theorem caseVariant_enforceLimit (h : CaseVariant e e') (maxRows : Nat) :
    CaseVariant (enforceLimit e maxRows).expression (enforceLimit e' maxRows).expression := by
  have hset : CaseVariant (setLimit e maxRows) (setLimit e' maxRows) := by
    rw [setLimit, setLimit, Expression.setArg, Expression.setArg]
    refine RoseTree.lift_iff_map_eq.mp (RoseTree.Lift.setChild (fun n n' hn ↦ ?_)
      (RoseTree.lift_iff_map_eq.mpr h) (RoseTree.lift_iff_map_eq.mpr rfl))
    rw [← Node.lowerNames_key n, hn, Node.lowerNames_key]
  have hquery : isQuery e.label.type = isQuery e'.label.type := by
    have hlabel := congrArg (fun t : Expression ↦ isQuery t.label.type) h.skeleton
    simpa [Expression.skeleton, NodeType.isQuery_skeleton] using hlabel
  have hvalue : limitValue (e.arg .limit) = limitValue (e'.arg .limit) := by
    rw [← limitValue_lowerNames, h, limitValue_lowerNames]
  rw [enforceLimit, enforceLimit, hquery, hvalue]
  split
  · split
    · exact hset
    · split
      · exact hset
      · exact h
  · exact h

end Rewriting

/-- Outcomes that agree up to the case of the recorded columns. -/
structure SameOutcome (outcome outcome' : ValidationOutcome) : Prop where
  isValid : outcome.isValid = outcome'.isValid
  codes : SameCodes outcome.issues outcome'.issues
  tables : outcome.referencedTables = outcome'.referencedTables
  columns : SameReferences outcome.referencedColumns outcome'.referencedColumns

structure SameSecured (s s' : Secured) : Prop where
  ok : s.ok = s'.ok
  codes : SameCodes s.issues s'.issues
  tables : s.referencedTables = s'.referencedTables

namespace Gate

variable {gate : Gate} {dialect : SQLDialect} {schema : DatabaseSchema} {auth : AuthContext}
  {maxRows : Nat} {e e' : Expression}

def secureExpression (gate : Gate) (dialect : SQLDialect) (schema : DatabaseSchema)
    (auth : AuthContext) (maxRows : Nat) (e : Expression) : Secured :=
  gate.secureOutcome dialect schema auth maxRows (gate.revalidate schema e)

/-- A text without a comment marker fares as the statement that it is read as. -/
theorem secureCandidate_of_parse {sql : String}
    (hp : parseStatements gate.glot sql dialect = .ok [e]) (hc : commentBackstop sql = []) :
    gate.secureCandidate dialect schema auth maxRows sql =
      gate.secureExpression dialect schema auth maxRows e := by
  rw [secureCandidate, SQLValidator.validate_of_parse hp, hc, ValidationOutcome.addAll,
    List.foldl_nil, secureExpression, revalidate]

theorem sameCodes_findings (h : CaseVariant e e') :
    SameCodes (gate.validator.findings gate.py schema e)
      (gate.validator.findings gate.py schema e') := by
  intro code
  rw [← SQLValidator.findings_lowerNames, h, SQLValidator.findings_lowerNames]

theorem sameOutcome_revalidate (gate : Gate) (schema : DatabaseSchema) (h : CaseVariant e e') :
    SameOutcome (gate.revalidate schema e) (gate.revalidate schema e') where
  isValid := by
    rw [Bool.eq_iff_iff, revalidate, revalidate, SQLValidator.validateExpression_isValid,
      SQLValidator.validateExpression_isValid]
    exact and_congr_right fun _ ↦ (sameCodes_findings h).eq_nil_iff
  codes code := by
    rw [revalidate, revalidate, SQLValidator.validateExpression_issues,
      SQLValidator.validateExpression_issues, mem_addIssues_code, mem_addIssues_code]
    exact or_congr_right (sameCodes_findings h code)
  tables := by
    rw [revalidate, revalidate, SQLValidator.validateExpression_tables,
      SQLValidator.validateExpression_tables, ← SQLValidator.realTables_lowerNames, h,
      SQLValidator.realTables_lowerNames]
  columns ref := by
    have hresolved := (SQLValidator.resolvedColumns_lowerNames gate.py schema e ref).symm.trans
      ((iff_of_eq (by rw [h])).trans
        (SQLValidator.resolvedColumns_lowerNames gate.py schema e' ref))
    rw [revalidate, revalidate, SQLValidator.validateExpression_columns,
      SQLValidator.validateExpression_columns]
    simpa only [List.mem_map, mem_sortedSet] using hresolved

theorem caseVariant_final (gate : Gate) (schema : DatabaseSchema) (maxRows : Nat)
    (tenantId : String) (h : CaseVariant e e') :
    CaseVariant (gate.finalExpression schema maxRows tenantId e)
      (gate.finalExpression schema maxRows tenantId e') :=
  caseVariant_enforceLimit (caseVariant_rewrite h) maxRows

theorem sameSecured_charge (hno : NoPlanner dialect gate.readonlyEngine) {p p' : Prepared}
    (hexpr : CaseVariant p.expression p'.expression)
    (hrev : p.revalidation.referencedTables = p'.revalidation.referencedTables) :
    SameSecured (gate.charge dialect p) (gate.charge dialect p') := by
  rw [charge, charge, analyze_of_skeleton gate.config hno hexpr.skeleton p.sql p'.sql]
  split
  · exact ⟨rfl, fun _ ↦ Iff.rfl, hrev⟩
  · exact ⟨rfl, fun _ ↦ Iff.rfl, rfl⟩

theorem sameSecured_secureExpression (schema : DatabaseSchema) (auth : AuthContext)
    (maxRows : Nat) (hno : NoPlanner dialect gate.readonlyEngine) (h : CaseVariant e e') :
    SameSecured (gate.secureExpression dialect schema auth maxRows e)
      (gate.secureExpression dialect schema auth maxRows e') := by
  have hout := sameOutcome_revalidate gate schema h
  have hfinal := caseVariant_final gate schema maxRows auth.tenantId h
  have hrev := sameOutcome_revalidate gate schema hfinal
  have hcodes := sameCodes_denials gate.py gate.config schema auth
    (gate.revalidate schema e').referencedTables hout.columns
  have he : (gate.revalidate schema e).expression = some e := by
    simp [revalidate, SQLValidator.validateExpression, ValidationOutcome.addAll_eq,
      SQLValidator.newOutcome]
  have he' : (gate.revalidate schema e').expression = some e' := by
    simp [revalidate, SQLValidator.validateExpression, ValidationOutcome.addAll_eq,
      SQLValidator.newOutcome]
  unfold secureExpression secureOutcome prepare
  rw [he, he', hout.isValid]
  cases hv : (gate.revalidate schema e').isValid with
  | false =>
    constructor
    · dsimp only [reject]
    · dsimp only [reject]
      exact hout.codes
    · dsimp only [reject]
      exact hout.tables
  | true =>
    dsimp only
    rw [hout.tables]
    have hallowed : (enforce gate.py gate.config schema
          (gate.revalidate schema e').referencedTables
          (gate.revalidate schema e).referencedColumns auth).allowed =
        (enforce gate.py gate.config schema (gate.revalidate schema e').referencedTables
          (gate.revalidate schema e').referencedColumns auth).allowed := by
      rw [Bool.eq_iff_iff, enforce, enforce, List.isEmpty_iff, List.isEmpty_iff]
      exact hcodes.eq_nil_iff
    rw [hallowed]
    by_cases ha : (enforce gate.py gate.config schema
      (gate.revalidate schema e').referencedTables
      (gate.revalidate schema e').referencedColumns auth).allowed = true
    · rw [if_pos ha, if_pos ha, hrev.isValid]
      by_cases hvalid : (gate.revalidate schema
        (gate.finalExpression schema maxRows auth.tenantId e')).isValid = true
      · rw [if_pos hvalid, if_pos hvalid]
        exact sameSecured_charge hno hfinal hrev.tables
      · rw [if_neg hvalid, if_neg hvalid]
        constructor
        · dsimp only
        · dsimp only
          exact hrev.codes
        · dsimp only
    · rw [if_neg ha, if_neg ha]
      constructor
      · dsimp only [reject]
      · dsimp only [reject, enforce]
        exact hcodes
      · dsimp only [reject]
        exact hout.tables

/-- The case of the letters in names decides nothing: the same verdict, the same codes, the same
tables, and predicates for the same table occurrences at the same selects. -/
theorem secureExpression_caseInvariant (gate : Gate) (dialect : SQLDialect)
    (schema : DatabaseSchema) (auth : AuthContext) (maxRows : Nat)
    (hno : NoPlanner dialect gate.readonlyEngine) (e e' : Expression) (h : CaseVariant e e') :
    (gate.secureExpression dialect schema auth maxRows e).ok =
      (gate.secureExpression dialect schema auth maxRows e').ok ∧
    (∀ code, code ∈ (gate.secureExpression dialect schema auth maxRows e).issues.map
        ValidationIssue.code ↔
      code ∈ (gate.secureExpression dialect schema auth maxRows e').issues.map
        ValidationIssue.code) ∧
    (gate.secureExpression dialect schema auth maxRows e).referencedTables =
      (gate.secureExpression dialect schema auth maxRows e').referencedTables ∧
    tenantOccurrences gate.py schema e = tenantOccurrences gate.py schema e' ∧
    List.Forall₂ SameTarget (collectTargets gate.py schema (copy [] e))
      (collectTargets gate.py schema (copy [] e')) := by
  have hsame := sameSecured_secureExpression schema auth maxRows hno h
  exact ⟨hsame.ok, hsame.codes, hsame.tables, caseVariant_occurrences h, caseVariant_targets h⟩

def orderIdsAs (column table : String) : Secured :=
  (offline "" (selectFrom "id" "orders" [])).secureExpression .sqlite usersAndOrders
    { userId := "u1", tenantId := "1" } 100 (selectFrom column table [])

theorem caseVariant_selectFrom {column column' table table' : String}
    (hc : SameLetters column column') (ht : SameLetters table table') :
    CaseVariant (selectFrom column table []) (selectFrom column' table' []) := by
  rw [SameLetters] at hc ht
  simp [CaseVariant, Expression.lowerNames, selectFrom, Expression.mk, Node.lowerNames,
    NodeType.lowerNames, TableRef.lowerNames, hc, ht]

theorem secureExpression_orderIds :
    (orderIdsAs "id" "orders").ok = true ∧
      (orderIdsAs "id" "orders").ok = (orderIdsAs "ID" "Orders").ok :=
  ⟨by decide +kernel,
    (secureExpression_caseInvariant (offline "" (selectFrom "id" "orders" [])) .sqlite
      usersAndOrders { userId := "u1", tenantId := "1" } 100 (.inl rfl)
      (selectFrom "id" "orders" []) (selectFrom "ID" "Orders" [])
      (caseVariant_selectFrom (by decide) (by decide))).1⟩

end Gate

end TextToSql.Application
