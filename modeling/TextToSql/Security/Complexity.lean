import TextToSql.Security.Cost
import TextToSql.Sql.Skeleton

namespace TextToSql.Security

open Library Domain Sql

variable {py : Python} (config : SecurityPolicyConfig) {e e' : Expression}

theorem joinCount_skeleton (e : Expression) :
    (e.skeleton.findAll NodeType.isJoin).length = (e.findAll NodeType.isJoin).length :=
  Expression.findAll_map_length _ e fun n ↦ NodeType.isJoin_skeleton n.type

theorem maxSelectDepth_skeleton (e : Expression) :
    maxSelectDepth e.skeleton = maxSelectDepth e := by
  have hd : ((RoseTree.walkUp e.skeleton).filter fun v ↦ v.2.label.type.isSelect).map
        (fun v ↦ 1 + v.1.countP fun a ↦ a.label.type.isSelect) =
      ((RoseTree.walkUp e).filter fun v ↦ v.2.label.type.isSelect).map
        fun v ↦ 1 + v.1.countP fun a ↦ a.label.type.isSelect := by
    rw [Expression.skeleton, RoseTree.walkUp_map, List.filter_map, List.map_map]
    have hp : (fun v : RoseTree.Visit Node ↦ v.2.label.type.isSelect) ∘
        RoseTree.mapVisit Node.skeleton = fun v ↦ v.2.label.type.isSelect := by
      funext v
      simp [RoseTree.mapVisit, NodeType.isSelect_skeleton]
    rw [hp]
    refine List.map_congr_left fun v _ ↦ ?_
    simp only [Function.comp_apply, RoseTree.mapVisit, List.countP_map]
    congr 2
    funext a
    simp [NodeType.isSelect_skeleton]
  rw [maxSelectDepth, maxSelectDepth, hd]

theorem projectedColumnCount_skeleton (e : Expression) :
    projectedColumnCount e.skeleton = projectedColumnCount e := by
  have hf : e.skeleton.findAll NodeType.isSelect =
      (e.findAll NodeType.isSelect).map Expression.skeleton := by
    rw [Expression.findAll, Expression.findAll, Expression.walk, Expression.skeleton,
      RoseTree.walk_map, List.filter_map]
    refine congrArg (List.map _) (List.filter_congr fun n _ ↦ ?_)
    simp [NodeType.isSelect_skeleton]
  have hargs (s : Expression) :
      (s.skeleton.args .expressions).length = (s.args .expressions).length := by
    rw [Expression.skeleton, Expression.args_map Node.skeleton s fun _ ↦ rfl, List.length_map]
  rw [projectedColumnCount, projectedColumnCount, hf, List.head?_map, Expression.skeleton,
    RoseTree.label_map, Node.skeleton_type, NodeType.isSelect_skeleton]
  cases e.label.type.isSelect
  · cases (e.findAll NodeType.isSelect).head? with
    | none => rfl
    | some s => exact hargs s
  · exact hargs e

theorem isUnconditional_skeleton (py : Python) (join : Expression) :
    isUnconditional py join.skeleton = isUnconditional py join := by
  have harg (k : Arg) : (join.skeleton.arg k).isSome = (join.arg k).isSome := by
    rw [Expression.skeleton, Expression.arg_map Node.skeleton join fun _ ↦ rfl, Option.isSome_map]
  rw [isUnconditional, isUnconditional, harg, harg, Expression.skeleton, RoseTree.label_map,
    Node.skeleton_type]
  cases join.label.type <;> rfl

theorem hasCartesianProduct_skeleton (py : Python) (e : Expression) :
    hasCartesianProduct py e.skeleton = hasCartesianProduct py e := by
  rw [hasCartesianProduct, hasCartesianProduct, Expression.findAll, Expression.findAll,
    Expression.walk, Expression.skeleton, RoseTree.walk_map, List.filter_map, List.any_map]
  have hp : (fun n : Expression ↦ n.label.type.isJoin) ∘ RoseTree.map Node.skeleton =
      fun n ↦ n.label.type.isJoin := by
    funext n
    simp [NodeType.isJoin_skeleton]
  rw [hp]
  exact congrArg (List.any _) (funext (isUnconditional_skeleton py))

theorem structuralIssues_skeleton (py : Python) (e : Expression) :
    structuralIssues py config e.skeleton = structuralIssues py config e := by
  simp only [structuralIssues, joinCount_skeleton, maxSelectDepth_skeleton,
    projectedColumnCount_skeleton, hasCartesianProduct_skeleton]

def NoPlanner (dialect : SQLDialect) (engine : Option Planner) : Prop :=
  dialect = .sqlite ∨ engine = none

instance (dialect : SQLDialect) (engine : Option Planner) :
    Decidable (NoPlanner dialect engine) :=
  match dialect, engine with
  | .sqlite, _ => .isTrue (.inl rfl)
  | .postgres, none => .isTrue (.inr rfl)
  | .postgres, some _ => .isFalse (by simp [NoPlanner])

/-- Without a planner the report is a function of the skeleton. -/
theorem analyze_of_skeleton {dialect : SQLDialect} {engine : Option Planner}
    (hno : NoPlanner dialect engine) (h : e.skeleton = e'.skeleton) (sql sql' : String) :
    analyze py config e sql dialect engine = analyze py config e' sql' dialect engine := by
  have hjoins := (joinCount_skeleton e).symm.trans ((congrArg
    (fun t : Expression ↦ (t.findAll NodeType.isJoin).length) h).trans (joinCount_skeleton e'))
  have hdepth := (maxSelectDepth_skeleton e).symm.trans ((congrArg maxSelectDepth h).trans
    (maxSelectDepth_skeleton e'))
  have hcolumns := (projectedColumnCount_skeleton e).symm.trans
    ((congrArg projectedColumnCount h).trans (projectedColumnCount_skeleton e'))
  have hissues := (structuralIssues_skeleton config py e).symm.trans
    ((congrArg (structuralIssues py config) h).trans (structuralIssues_skeleton config py e'))
  rcases hno with rfl | rfl
  · simp only [analyze, hjoins, hdepth, hcolumns, hissues]
  · simp only [analyze, hjoins, hdepth, hcolumns, hissues]

end TextToSql.Security
