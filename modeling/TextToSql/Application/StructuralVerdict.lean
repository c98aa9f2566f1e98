import TextToSql.Application.RewriteMeasures
import TextToSql.Infrastructure.ReferenceSchema

namespace TextToSql.Application

open Library Domain Sql Security Infrastructure

variable {py : Python} {schema : DatabaseSchema} {tenantId : String} {e e' : Expression}
  {config : SecurityPolicyConfig}

theorem hasCartesianProduct_iff_count :
    hasCartesianProduct py e = decide (countNodes (isUnconditional py) e ≠ 0) := by
  have hfalse : hasCartesianProduct py e = false ↔ countNodes (isUnconditional py) e = 0 := by
    rw [hasCartesianProduct_eq_false, countNodes, List.countP_eq_zero]
    simp
  by_cases h : countNodes (isUnconditional py) e = 0
  · rw [hfalse.mpr h]
    simp [h]
  · rw [decide_eq_true h, ← Bool.not_eq_false, hfalse]
    exact h

theorem structuralIssues_congr
    (hjoins : countNodes (fun n ↦ n.label.type.isJoin) e' =
      countNodes (fun n ↦ n.label.type.isJoin) e)
    (hdepth : selectDepth e' = selectDepth e) (hcolumns : outermost e' = outermost e)
    (hconditions : countNodes (isUnconditional py) e' = countNodes (isUnconditional py) e) :
    structuralIssues py config e' = structuralIssues py config e := by
  have hcount (e : Expression) : (e.findAll NodeType.isJoin).length =
      countNodes (fun n ↦ n.label.type.isJoin) e := by
    rw [countNodes, List.countP_eq_length_filter]
    rfl
  rw [structuralIssues, structuralIssues, maxSelectDepth_eq, maxSelectDepth_eq,
    projectedColumnCount_eq, projectedColumnCount_eq, hasCartesianProduct_iff_count,
    hasCartesianProduct_iff_count, hcount, hcount, hjoins, hdepth, hcolumns, hconditions]

theorem structuralIssues_final (hw : PlainWhere e) (hs : SingleWhere e) (maxRows : Nat) :
    structuralIssues py config (enforceLimit (rewrite py schema tenantId e).1 maxRows).expression =
      structuralIssues py config (if Replaces e maxRows then withoutLimit e else e) :=
  structuralIssues_congr
    (measure_final (unmoved_countNodes ofJoins_isJoin) (unbounded_countNodes ofJoins_isJoin) hw hs
      maxRows)
    (measure_final unmoved_selectDepth unbounded_selectDepth hw hs maxRows)
    (measure_final unmoved_outermost unbounded_outermost hw hs maxRows)
    (measure_final (unmoved_countNodes ofJoins_isUnconditional)
      (unbounded_countNodes ofJoins_isUnconditional) hw hs maxRows)

/-- No structural limit is lowered. -/
structure Raised (config config' : SecurityPolicyConfig) : Prop where
  joins : config.maxJoins ≤ config'.maxJoins
  depth : config.maxSubqueryDepth ≤ config'.maxSubqueryDepth
  columns : config.maxSelectedColumns ≤ config'.maxSelectedColumns

/-- Without an estimate, the verdict is that of the structural limits. -/
structure StructuralVerdict (py : Python) (config : SecurityPolicyConfig) (e : Expression) :
    Prop where
  allowed : ∀ sqlText dialect engine, NoEstimate py sqlText dialect engine →
    ((analyze py config e sqlText dialect engine).allowed = true ↔ Within py config e)
  risk : ∀ sqlText dialect engine, NoEstimate py sqlText dialect engine →
    ((analyze py config e sqlText dialect engine).riskLevel = .high ↔
      (analyze py config e sqlText dialect engine).allowed = false)
  issues : ∀ sqlText dialect engine, NoEstimate py sqlText dialect engine →
    ((analyze py config e sqlText dialect engine).issues = [] ↔
      (analyze py config e sqlText dialect engine).allowed = true)
  unchanged : ∀ schema tenantId maxRows sqlText sqlText' dialect engine,
    NoEstimate py sqlText dialect engine → NoEstimate py sqlText' dialect engine →
      ((analyze py config (enforceLimit (rewrite py schema tenantId e).1 maxRows).expression sqlText'
          dialect engine).allowed = true ↔
        (analyze py config e sqlText dialect engine).allowed = true)
  monotone : ∀ config' sqlText dialect engine, NoEstimate py sqlText dialect engine →
    Raised config config' → (analyze py config e sqlText dialect engine).allowed = true →
      (analyze py config' e sqlText dialect engine).allowed = true

theorem joinWords_withoutLimit (h : JoinWords py e) : JoinWords py (withoutLimit e) := by
  intro n hn kind side method htype
  obtain ⟨l, ts⟩ := e
  rcases (RoseTree.mem_walk_node _ _).mp hn with rfl | ⟨t, ht, hn⟩
  · exact h _ (RoseTree.self_mem_walk _) kind side method htype
  · exact h n (RoseTree.mem_walk_of_child (List.mem_filter.mp ht).1 hn) kind side method htype

theorem joinWords_of_no_join (h : ∀ n ∈ e.walk, n.label.type.isJoin = false) : JoinWords py e := by
  intro n hn kind side method htype
  have hj := h n hn
  rw [htype] at hj
  cases hj

theorem within_mono {config' : SecurityPolicyConfig} (h : Within py config e)
    (hr : Raised config config') : Within py config' e :=
  ⟨h.joins.trans hr.joins, h.depth.trans hr.depth,
    fun select hs ↦ (h.columns select hs).trans hr.columns, h.conditions⟩

/-- The verdict is that of the limits exactly when a statement within them has no natural join
that is counted as a Cartesian product, and a row bound that is replaced does not decide. -/
theorem structuralVerdict_iff (hw : PlainWhere e) (hs : SingleWhere e) (hj : JoinWords py e) :
    StructuralVerdict py config e ↔
      (Within py config e → Countable py config e) ∧
        ∀ maxRows, Replaces e maxRows →
          (Within py config e ↔
            Within py config (withoutLimit e) ∧ Countable py config (withoutLimit e)) := by
  have hfindings (config : SecurityPolicyConfig) : structuralIssues py config e = [] ↔
      Within py config e ∧ Countable py config e := structuralIssues_eq_nil hj
  have hfinal (schema : DatabaseSchema) (tenantId : String) (maxRows : Nat) :
      structuralIssues py config
          (enforceLimit (rewrite py schema tenantId e).1 maxRows).expression = [] ↔
        if Replaces e maxRows then
          Within py config (withoutLimit e) ∧ Countable py config (withoutLimit e)
        else Within py config e ∧ Countable py config e := by
    rw [structuralIssues_final hw hs]
    split
    · exact structuralIssues_eq_nil (joinWords_withoutLimit hj)
    · exact structuralIssues_eq_nil hj
  constructor
  · intro h
    have hno : NoEstimate py "" .sqlite none := fun hd ↦ nomatch hd
    have hcountable : Within py config e → Countable py config e := fun hwithin ↦
      ((hfindings config).mp ((analyze_of_noEstimate hno).1.mp
        ((h.allowed "" .sqlite none hno).mpr hwithin))).2
    refine ⟨hcountable, fun maxRows hr ↦ ?_⟩
    have hsame := h.unchanged { dialect := .sqlite } "" maxRows "" "" .sqlite none hno hno
    rw [(analyze_of_noEstimate hno).1, (analyze_of_noEstimate hno).1, hfinal, if_pos hr,
      hfindings] at hsame
    rw [hsame]
    exact (and_iff_left_of_imp hcountable).symm
  · rintro ⟨hcountable, hbound⟩
    have hallowed (sqlText : String) (dialect : SQLDialect) (engine : Option Planner)
        (hno : NoEstimate py sqlText dialect engine) :
        (analyze py config e sqlText dialect engine).allowed = true ↔ Within py config e := by
      rw [(analyze_of_noEstimate hno).1, hfindings]
      exact and_iff_left_of_imp hcountable
    refine ⟨hallowed, fun _ _ _ hno ↦ (analyze_of_noEstimate hno).2.1,
      fun _ _ _ hno ↦ (analyze_of_noEstimate hno).2.2, ?_, ?_⟩
    · intro schema tenantId maxRows sqlText sqlText' dialect engine hno hno'
      rw [hallowed _ _ _ hno, (analyze_of_noEstimate hno').1, hfinal]
      split
      · rename_i hr
        exact (hbound maxRows hr).symm
      · exact and_iff_left_of_imp hcountable
    · intro config' sqlText dialect engine hno hraised hok
      have hfound := (hfindings config).mp ((analyze_of_noEstimate hno).1.mp hok)
      refine (analyze_of_noEstimate hno).1.mpr ((hfindings config').mpr ⟨within_mono hfound.1 hraised, ?_⟩)
      exact ⟨hfound.2.natural, hfound.2.depth.trans hraised.depth⟩

def userIds : Expression := selectFrom "id" "users" []

theorem structuralVerdict_userIds :
    StructuralVerdict .ascii {} userIds ↔
      (Within .ascii {} userIds → Countable .ascii {} userIds) ∧
        ∀ maxRows, Replaces userIds maxRows →
          (Within .ascii {} userIds ↔
            Within .ascii {} (withoutLimit userIds) ∧ Countable .ascii {} (withoutLimit userIds)) :=
  structuralVerdict_iff (by decide +kernel) (by decide +kernel)
    (joinWords_of_no_join (by decide +kernel))

def naturalOrders : Expression :=
  .mk .this (.select false)
    [.mk .expressions (.column "o" "id") [],
      .mk .from_ .from_ [.mk .this (.table { name := "orders", alias_ := "o" }) []],
      .mk .joins (.join "" "" "NATURAL")
        [.mk .this (.table { name := "regions", alias_ := "r" }) []]]

theorem natural_join_rejected :
    Within .ascii {} naturalOrders ∧
      (analyze .ascii {} naturalOrders "" .sqlite none).issues.map ValidationIssue.code =
        ["cartesian_product"] ∧
      ¬StructuralVerdict .ascii {} naturalOrders := by
  have hwithin : Within .ascii {} naturalOrders :=
    ⟨by decide +kernel, by decide +kernel, by decide +kernel, by decide +kernel⟩
  refine ⟨hwithin, by decide +kernel, fun h ↦ ?_⟩
  have hallowed := (h.allowed "" .sqlite none fun hd ↦ nomatch hd).mpr hwithin
  revert hallowed
  decide +kernel

end TextToSql.Application
