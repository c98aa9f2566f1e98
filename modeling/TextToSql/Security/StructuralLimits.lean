import TextToSql.Library.Levels
import TextToSql.Security.PlannerEstimate

namespace TextToSql.Security

open Library Domain Sql

def selectDepth (e : Expression) : Nat :=
  RoseTree.fold (fun l depths ↦ depths.foldr max 0 + if l.type.isSelect then 1 else 0) e

theorem selectDepth_node (l : Node) (ts : List Expression) :
    selectDepth (.node l ts) =
      (ts.map selectDepth).foldr max 0 + if l.type.isSelect then 1 else 0 :=
  RoseTree.fold_node _ l ts

theorem le_foldr_max {d : Nat} {ds : List Nat} (hd : 0 < d) :
    d ≤ ds.foldr max 0 ↔ ∃ x ∈ ds, d ≤ x := by
  induction ds with
  | nil => simp; omega
  | cons x ds ih => simp [ih]

theorem le_foldl_max {d : Nat} {ds : List Nat} (hd : 0 < d) :
    d ≤ ds.foldl max 0 ↔ ∃ x ∈ ds, d ≤ x := by
  have hfold : ds.foldl max 0 = ds.foldr max 0 := by
    rw [List.foldl_eq_foldr]
  rw [hfold, le_foldr_max hd]

theorem exists_select_iff (up : List Expression) (e : Expression) (d : Nat) :
    (∃ v ∈ (RoseTree.levels up e).flatten, v.2.label.type.isSelect = true ∧
        d ≤ 1 + v.1.countP fun a ↦ a.label.type.isSelect) ↔
      0 < selectDepth e ∧ d ≤ (up.countP fun a ↦ a.label.type.isSelect) + selectDepth e := by
  induction e using RoseTree.inductionOn generalizing up with
  | node l ts ih =>
    have hsplit : (∃ v ∈ (RoseTree.levels up (.node l ts)).flatten,
        v.2.label.type.isSelect = true ∧ d ≤ 1 + v.1.countP fun a ↦ a.label.type.isSelect) ↔
        (l.type.isSelect = true ∧ d ≤ 1 + up.countP fun a ↦ a.label.type.isSelect) ∨
          ∃ t ∈ ts, 0 < selectDepth t ∧
            d ≤ ((RoseTree.node l ts :: up).countP fun a ↦ a.label.type.isSelect) +
              selectDepth t := by
      simp only [RoseTree.mem_levels_node]
      constructor
      · rintro ⟨v, rfl | ⟨t, ht, hv⟩, hs, hle⟩
        · exact .inl ⟨hs, hle⟩
        · exact .inr ⟨t, ht, (ih t ht _).mp ⟨v, hv, hs, hle⟩⟩
      · rintro (⟨hs, hle⟩ | ⟨t, ht, h⟩)
        · exact ⟨_, .inl rfl, hs, hle⟩
        · obtain ⟨v, hv, hs, hle⟩ := (ih t ht _).mpr h
          exact ⟨v, .inr ⟨t, ht, hv⟩, hs, hle⟩
    rw [hsplit, selectDepth_node, List.countP_cons, RoseTree.label_node]
    generalize (up.countP fun a ↦ a.label.type.isSelect) = above
    have hmax {x : Nat} (hx : 0 < x) : x ≤ (ts.map selectDepth).foldr max 0 ↔
        ∃ t ∈ ts, x ≤ selectDepth t := by
      rw [le_foldr_max hx]
      simp only [List.mem_map, exists_exists_and_eq_and]
    generalize (ts.map selectDepth).foldr max 0 = deepest at hmax
    cases l.type.isSelect with
    | true =>
      simp only [if_true, true_and]
      constructor
      · rintro (hle | ⟨t, ht, hpos, hle⟩)
        · omega
        · have hdeep : selectDepth t ≤ deepest := (hmax hpos).mpr ⟨t, ht, le_rfl⟩
          omega
      · rintro ⟨-, hle⟩
        by_cases hpos : 0 < deepest
        · obtain ⟨t, ht, hdeep⟩ := (hmax hpos).mp le_rfl
          exact .inr ⟨t, ht, by omega, by omega⟩
        · exact .inl (by omega)
    | false =>
      simp only [Bool.false_eq_true, if_false, false_and, false_or, Nat.add_zero]
      constructor
      · rintro ⟨t, ht, hpos, hle⟩
        have hdeep : selectDepth t ≤ deepest := (hmax hpos).mpr ⟨t, ht, le_rfl⟩
        omega
      · rintro ⟨hpos, hle⟩
        obtain ⟨t, ht, hdeep⟩ := (hmax hpos).mp le_rfl
        exact ⟨t, ht, by omega, by omega⟩

theorem maxSelectDepth_eq (e : Expression) : maxSelectDepth e = max 1 (selectDepth e) := by
  have hdepths : (((RoseTree.walkUp e).filter fun v ↦ v.2.label.type.isSelect).map fun v ↦
      1 + v.1.countP fun a ↦ a.label.type.isSelect).foldl max 0 = selectDepth e := by
    apply eq_of_forall_le_iff
    intro d
    rcases Nat.eq_zero_or_pos d with rfl | hd
    · simp
    · rw [le_foldl_max hd]
      have hselect := exists_select_iff [] e d
      rw [List.countP_nil, Nat.zero_add] at hselect
      refine Iff.trans ?_ (hselect.trans ⟨And.right, fun hle ↦ ⟨by omega, hle⟩⟩)
      constructor
      · intro h
        obtain ⟨x, hx, hle⟩ := h
        obtain ⟨v, hv, rfl⟩ := List.mem_map.mp hx
        obtain ⟨hv, hs⟩ := List.mem_filter.mp hv
        exact ⟨v, hv, hs, hle⟩
      · intro h
        obtain ⟨v, hv, hs, hle⟩ := h
        exact ⟨_, List.mem_map_of_mem (List.mem_filter.mpr ⟨hv, hs⟩), hle⟩
  rw [maxSelectDepth, hdepths]
  split <;> omega

def projections (select : Expression) : Nat := (select.args .expressions).length

def outermostOf (e : Expression) : Node × Option (Nat × Nat) :=
  RoseTree.fold (fun l (rs : List (Node × Option (Nat × Nat))) ↦
    (l, if l.type.isSelect then some (0, rs.countP fun r ↦ r.1.key = .expressions)
      else ((rs.map Prod.snd).foldr shallower none).map fun found ↦ (found.1 + 1, found.2))) e

def outermost (e : Expression) : Option (Nat × Nat) := (outermostOf e).2

theorem fst_outermostOf (e : Expression) : (outermostOf e).1 = e.label := by
  obtain ⟨l, ts⟩ := e
  rw [outermostOf, RoseTree.fold_node]
  rfl

theorem outermost_node (l : Node) (ts : List Expression) :
    outermost (.node l ts) =
      if l.type.isSelect then some (0, projections (.node l ts))
      else ((ts.map outermost).foldr shallower none).map fun found ↦ (found.1 + 1, found.2) := by
  have hcount : ((ts.map outermostOf).countP fun r ↦ decide (r.1.key = .expressions)) =
      projections (.node l ts) := by
    rw [List.countP_map, projections, Expression.args, List.countP_eq_length_filter]
    refine congrArg List.length (List.filter_congr fun t _ ↦ ?_)
    rw [Function.comp_apply, fst_outermostOf]
  rw [outermost, outermostOf, RoseTree.fold_node]
  change (if l.type.isSelect then some (0, (ts.map outermostOf).countP _)
    else (((ts.map outermostOf).map Prod.snd).foldr shallower none).map _) = _
  rw [hcount, List.map_map]
  rfl

theorem outermost_eq (up : List Expression) (e : Expression) :
    outermost e =
      (firstLevel (fun v : RoseTree.Visit Node ↦ v.2.label.type.isSelect)
        (RoseTree.levels up e)).map fun found ↦
          (found.1, projections found.2.2) := by
  induction e using RoseTree.inductionOn generalizing up with
  | node l ts ih =>
    rw [outermost_node, RoseTree.firstLevel_levels, RoseTree.label_node]
    cases l.type.isSelect with
    | true => rfl
    | false =>
      simp only [Bool.false_eq_true, if_false]
      have hchildren : (ts.map outermost).foldr shallower none =
          ((ts.map fun t ↦ firstLevel (fun v : RoseTree.Visit Node ↦ v.2.label.type.isSelect)
            (RoseTree.levels (.node l ts :: up) t)).foldr shallower none).map fun found ↦
              (found.1, projections found.2.2) := by
        generalize RoseTree.node l ts :: up = above
        induction ts with
        | nil => rfl
        | cons t ts ihts =>
          rw [List.map_cons, List.map_cons, List.foldr_cons, List.foldr_cons,
            ih t List.mem_cons_self above, ihts fun t ht ↦ ih t (.tail _ ht)]
          exact shallower_map (fun v : RoseTree.Visit Node ↦ projections v.2) _ _
      rw [hchildren, Option.map_map, Option.map_map]
      rfl

theorem findAll_select_head? (e : Expression) :
    (e.findAll NodeType.isSelect).head? =
      (firstLevel (fun v : RoseTree.Visit Node ↦ v.2.label.type.isSelect)
        (RoseTree.levels [] e)).map fun found ↦ found.2.2 := by
  rw [Expression.findAll, List.head?_filter, Expression.walk, RoseTree.walk, List.find?_map,
    RoseTree.walkUp, find?_flatten_eq, Option.map_map]
  rfl

theorem projectedColumnCount_head? (e : Expression) :
    projectedColumnCount e = ((e.findAll NodeType.isSelect).head?).elim 0 projections := by
  have hroot : (if e.label.type.isSelect then some e
      else (e.findAll NodeType.isSelect).head?) = (e.findAll NodeType.isSelect).head? := by
    split
    · rename_i hs
      obtain ⟨l, ts⟩ := e
      rw [findAll_select_head?, RoseTree.firstLevel_levels, if_pos hs]
      rfl
    · rfl
  rw [projectedColumnCount, hroot]
  cases (e.findAll NodeType.isSelect).head? <;> rfl

theorem projectedColumnCount_eq (e : Expression) :
    projectedColumnCount e = (outermost e).elim 0 Prod.snd := by
  rw [projectedColumnCount_head?, findAll_select_head?, outermost_eq []]
  cases firstLevel (fun v : RoseTree.Visit Node ↦ v.2.label.type.isSelect)
    (RoseTree.levels [] e) <;> rfl

/-- A cross join, or a join with neither `ON` nor `USING` that is not natural. -/
def isCartesian (py : Python) (join : Expression) : Bool :=
  match join.label.type with
  | .join kind _ method =>
    py.upper kind = "CROSS" ||
      (!((join.arg .on_).isSome || (join.arg .using_).isSome) && py.upper method ≠ "NATURAL")
  | _ => false

def isBareNatural (py : Python) (join : Expression) : Bool :=
  match join.label.type with
  | .join kind _ method =>
    py.upper kind ≠ "CROSS" &&
      (!((join.arg .on_).isSome || (join.arg .using_).isSome) && py.upper method = "NATURAL")
  | _ => false

/-- The toolkit writes the keyword of a natural join neither as kind nor as side. -/
def JoinWords (py : Python) (e : Expression) : Prop :=
  ∀ n ∈ e.walk, ∀ kind side method, n.label.type = .join kind side method →
    hasWord "NATURAL" (py.upper kind) = false ∧ hasWord "NATURAL" (py.upper side) = false

/-- The statement is within the limits. -/
structure Within (py : Python) (config : SecurityPolicyConfig) (e : Expression) : Prop where
  joins : (e.findAll NodeType.isJoin).length ≤ config.maxJoins
  depth : selectDepth e ≤ config.maxSubqueryDepth
  columns : ∀ select ∈ (e.findAll NodeType.isSelect).head?,
    projections select ≤ config.maxSelectedColumns
  conditions : ∀ n ∈ e.walk, isCartesian py n = false

/-- Neither the natural joins nor the least depth that is counted make a difference. -/
structure Countable (py : Python) (config : SecurityPolicyConfig) (e : Expression) : Prop where
  natural : ∀ n ∈ e.walk, isBareNatural py n = false
  depth : 1 ≤ config.maxSubqueryDepth

variable {py : Python} {config : SecurityPolicyConfig} {e : Expression}

theorem isUnconditional_eq (hj : JoinWords py e) {n : Expression} (hn : n ∈ e.walk) :
    isUnconditional py n = (isCartesian py n || isBareNatural py n) := by
  rw [isUnconditional, isCartesian, isBareNatural]
  cases htype : n.label.type with
  | join kind side method =>
    obtain ⟨hkind, hside⟩ := hj n hn kind side method htype
    dsimp only
    rw [hkind, hside]
    by_cases hcross : py.upper kind = "CROSS"
    · simp [hcross]
    · by_cases hnatural : py.upper method = "NATURAL" <;> simp [hcross, hnatural]
  | _ => rfl

theorem hasCartesianProduct_eq_false : hasCartesianProduct py e = false ↔
    ∀ n ∈ e.walk, isUnconditional py n = false := by
  rw [hasCartesianProduct, List.any_eq_false]
  constructor
  · intro h n hn
    by_cases hj : n.label.type.isJoin = true
    · simpa using h n (Expression.mem_findAll.mpr ⟨hn, hj⟩)
    · rw [isUnconditional]
      cases htype : n.label.type with
      | join kind side method =>
        rw [htype] at hj
        exact absurd rfl hj
      | _ => rfl
  · intro h n hn
    simpa using h n (Expression.mem_findAll.mp hn).1

/-- The analysis finds nothing in a statement exactly when it is within the limits, up to natural
joins and the least depth. -/
theorem structuralIssues_eq_nil (hj : JoinWords py e) :
    structuralIssues py config e = [] ↔ Within py config e ∧ Countable py config e := by
  have hcolumns : projectedColumnCount e ≤ config.maxSelectedColumns ↔
      ∀ select ∈ (e.findAll NodeType.isSelect).head?,
        projections select ≤ config.maxSelectedColumns := by
    rw [projectedColumnCount_head?]
    cases (e.findAll NodeType.isSelect).head? <;> simp
  have hconditions : hasCartesianProduct py e = false ↔
      (∀ n ∈ e.walk, isCartesian py n = false) ∧ ∀ n ∈ e.walk, isBareNatural py n = false := by
    rw [hasCartesianProduct_eq_false, ← forall₂_and]
    refine forall₂_congr fun n hn ↦ ?_
    rw [isUnconditional_eq hj hn, Bool.or_eq_false_iff]
  have hif {p : Prop} [Decidable p] (issue : ValidationIssue) :
      (if p then [issue] else []) = [] ↔ ¬p := by
    split <;> simp_all
  rw [structuralIssues]
  simp only [List.append_eq_nil_iff, hif, not_lt, Bool.not_eq_true, maxSelectDepth_eq, hcolumns,
    hconditions, max_le_iff]
  constructor
  · rintro ⟨⟨⟨hjoins, hone, hdepth⟩, hcols⟩, hcart, hnat⟩
    exact ⟨⟨hjoins, hdepth, hcols, hcart⟩, hnat, hone⟩
  · rintro ⟨⟨hjoins, hdepth, hcols, hcart⟩, hnat, hone⟩
    exact ⟨⟨⟨hjoins, hone, hdepth⟩, hcols⟩, hcart, hnat⟩

def NoEstimate (py : Python) (sqlText : String) (dialect : SQLDialect) (engine : Option Planner) :
    Prop :=
  dialect = .postgres → ∀ planner ∈ engine, planRows py planner sqlText = none

theorem estimateWithExplain_none {sqlText : String} {planner : Planner}
    (h : planRows py planner sqlText = none) (report : CostReport) :
    estimateWithExplain py sqlText planner report = report := by
  rw [planRows] at h
  rw [estimateWithExplain]
  split
  · rfl
  · rfl
  · rename_i row _ hrow
    rw [hrow, Option.bind_some] at h
    split
    · rfl
    · rename_i plan hplan
      rw [hplan, Option.bind_some] at h
      rw [h]

theorem rejectAll_eq (report : CostReport) (found : List ValidationIssue) :
    report.rejectAll found =
      if found = [] then report
      else { report with
        allowed := false, riskLevel := .high, issues := report.issues ++ found } := by
  induction found generalizing report with
  | nil => rfl
  | cons issue found ih =>
    rw [CostReport.rejectAll, List.foldl_cons]
    change (report.reject issue).rejectAll found = _
    rw [ih, if_neg (List.cons_ne_nil _ _)]
    split
    · rename_i hnil
      rw [hnil]
      rfl
    · simp [CostReport.reject]

def initialReport (e : Expression) : CostReport where
  allowed := true
  riskLevel := .low
  joinCount := (e.findAll NodeType.isJoin).length
  subqueryDepth := maxSelectDepth e
  selectedColumns := projectedColumnCount e

section NoEstimate

variable {sqlText : String} {dialect : SQLDialect} {engine : Option Planner}
  (h : NoEstimate py sqlText dialect engine)

include h

theorem analyze_noEstimate :
    analyze py config e sqlText dialect engine =
      classify config ((initialReport e).rejectAll (structuralIssues py config e)) := by
  unfold analyze
  refine congrArg (classify config) ?_
  split
  · exact estimateWithExplain_none (h rfl _ rfl) _
  · rfl

theorem analyze_allowed (hs : structuralIssues py config e = []) :
    ∃ risk, risk ≠ .high ∧
      analyze py config e sqlText dialect engine = { initialReport e with riskLevel := risk } := by
  refine ⟨classifyRisk config (initialReport e), ?_, ?_⟩
  · change (if _ then RiskLevel.medium else .low) ≠ .high
    split <;> decide
  · rw [analyze_noEstimate h, hs]
    rfl

theorem analyze_rejected (hs : structuralIssues py config e ≠ []) :
    analyze py config e sqlText dialect engine =
      { initialReport e with
        allowed := false, riskLevel := .high, issues := structuralIssues py config e } := by
  rw [analyze_noEstimate h, rejectAll_eq, if_neg hs]
  rfl

theorem analyze_of_noEstimate :
    ((analyze py config e sqlText dialect engine).allowed = true ↔
        structuralIssues py config e = []) ∧
      ((analyze py config e sqlText dialect engine).riskLevel = .high ↔
        (analyze py config e sqlText dialect engine).allowed = false) ∧
      ((analyze py config e sqlText dialect engine).issues = [] ↔
        (analyze py config e sqlText dialect engine).allowed = true) := by
  by_cases hs : structuralIssues py config e = []
  · obtain ⟨risk, hrisk, hreport⟩ := analyze_allowed h hs
    rw [hreport]
    exact ⟨iff_of_true rfl hs, iff_of_false hrisk (by decide : ¬true = false), iff_of_true rfl rfl⟩
  · rw [analyze_rejected h hs]
    exact ⟨iff_of_false Bool.false_ne_true hs, iff_of_true rfl rfl,
      iff_of_false hs Bool.false_ne_true⟩

end NoEstimate

end TextToSql.Security
