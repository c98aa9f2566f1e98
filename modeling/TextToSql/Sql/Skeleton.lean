import TextToSql.Library.Relabel
import TextToSql.Sql.Validator

namespace TextToSql.Sql

open Library Domain

namespace Expression

variable (g : Node → Node) (e : Expression)

theorem collect_map {α : Type} (f : NodeType → Option α) :
    collect f (e.map g) = e.walk.filterMap fun n ↦ f (g n.label).type := by
  rw [collect, walk, RoseTree.walk_map, List.filterMap_map]
  exact List.filterMap_congr fun n _ ↦ by simp

theorem collect_map_of_eq {α : Type} {f : NodeType → Option α}
    (h : ∀ n, f (g n).type = f n.type) : collect f (e.map g) = collect f e := by
  rw [collect_map, collect]
  exact List.filterMap_congr fun n _ ↦ h n.label

theorem collect_map_of_map {α β : Type} {f : NodeType → Option β} {f' : NodeType → Option α}
    {k : α → β} (h : ∀ n, f (g n).type = (f' n.type).map k) :
    collect f (e.map g) = (collect f' e).map k := by
  rw [collect_map, collect, List.map_filterMap]
  exact List.filterMap_congr fun n _ ↦ h n.label

theorem findAll_map_length {p : NodeType → Bool} (h : ∀ n, p (g n).type = p n.type) :
    (findAll p (e.map g)).length = (findAll p e).length := by
  rw [findAll, findAll, walk, RoseTree.walk_map, List.filter_map, List.length_map, walk]
  congr 2
  funext n
  simp [h]

theorem arg_map (h : ∀ n, (g n).key = n.key) (k : Arg) :
    arg k (e.map g) = (arg k e).map (RoseTree.map g) :=
  RoseTree.child?_map (fun n ↦ by rw [h]) e

theorem args_map (h : ∀ n, (g n).key = n.key) (k : Arg) :
    args k (e.map g) = (args k e).map (RoseTree.map g) := by
  rw [args, args, RoseTree.children_map, List.filter_map]
  congr 2
  funext n
  simp [h]

end Expression

namespace NodeType

def skeleton : NodeType → NodeType
  | .subquery _ _ => .subquery "" []
  | .lateral _ _ => .lateral "" []
  | .cte _ _ => .cte "" []
  | .table _ => .table { name := "" }
  | .column _ _ => .column "" ""
  | .identifier _ => .identifier ""
  | .alias_ _ => .alias_ ""
  | .literal _ _ => .literal "" false
  | .func _ aggregate => .func "" aggregate
  | .anonymous _ => .anonymous ""
  | t => t

theorem isFunc_skeleton (t : NodeType) : t.skeleton.isFunc = t.isFunc := by cases t <;> rfl

theorem isSelect_skeleton (t : NodeType) : t.skeleton.isSelect = t.isSelect := by cases t <;> rfl

theorem isJoin_skeleton (t : NodeType) : t.skeleton.isJoin = t.isJoin := by cases t <;> rfl

theorem isQuery_skeleton (t : NodeType) : isQuery t.skeleton = isQuery t := by cases t <;> rfl

theorem forbiddenName_skeleton (t : NodeType) : forbiddenName t.skeleton = forbiddenName t := by
  cases t <;> rfl

theorem skeleton_eq_star (t : NodeType) : t.skeleton = .star ↔ t = .star := by
  cases t <;> simp [skeleton]

end NodeType

namespace Node

def skeleton (n : Node) : Node := { n with type := n.type.skeleton, quoted := [] }

@[simp] theorem skeleton_key (n : Node) : n.skeleton.key = n.key := rfl

@[simp] theorem skeleton_type (n : Node) : n.skeleton.type = n.type.skeleton := rfl

@[simp] theorem skeleton_comments (n : Node) : n.skeleton.comments = n.comments := rfl

end Node

/-- The statement with every name and literal left out. -/
def Expression.skeleton (e : Expression) : Expression := RoseTree.map Node.skeleton e

variable {py : Python} {e e' : Expression}

theorem classifyStatement_skeleton (py : Python) (e : Expression) :
    classifyStatement py e.skeleton = classifyStatement py e := by
  unfold classifyStatement Expression.skeleton
  rw [RoseTree.label_map, Node.skeleton_type]
  cases e.label.type <;> rfl

theorem statementIssues_skeleton (py : Python) (e : Expression) :
    statementIssues py e.skeleton = statementIssues py e := by
  rw [statementIssues, statementIssues, classifyStatement_skeleton]

theorem forbiddenIssues_skeleton (e : Expression) :
    forbiddenIssues e.skeleton = forbiddenIssues e := by
  have h : e.skeleton.collect forbiddenName = e.collect forbiddenName :=
    Expression.collect_map_of_eq _ e fun n ↦ NodeType.forbiddenName_skeleton n.type
  rw [forbiddenIssues, forbiddenIssues, h]

theorem commentIssues_skeleton (e : Expression) : commentIssues e.skeleton = commentIssues e := by
  rw [commentIssues, commentIssues, Expression.walk, Expression.skeleton, RoseTree.walk_map,
    List.any_map]
  congr 3
  funext n
  simp

theorem isBareStar_skeleton (visit : RoseTree.Visit Node) :
    isBareStar (RoseTree.mapVisit Node.skeleton visit) = isBareStar visit := by
  simp only [isBareStar, RoseTree.mapVisit, RoseTree.label_map, Node.skeleton_type,
    NodeType.skeleton_eq_star, List.any_map]
  congr 3
  funext n
  simp [NodeType.isFunc_skeleton]

theorem starIssues_skeleton (e : Expression) : starIssues e.skeleton = starIssues e := by
  rw [starIssues, starIssues, Expression.skeleton, RoseTree.walkUp_map, List.any_map]
  congr 2
  exact congrArg (RoseTree.walkUp e).any (funext isBareStar_skeleton)

def NodeType.eraseLiteral : NodeType → NodeType
  | .literal _ _ => .literal "" false
  | t => t

def Node.eraseLiteral (n : Node) : Node := { n with type := n.type.eraseLiteral }

@[simp] theorem Node.eraseLiteral_key (n : Node) : n.eraseLiteral.key = n.key := rfl

theorem NodeType.skeleton_eraseLiteral (t : NodeType) : t.eraseLiteral.skeleton = t.skeleton := by
  cases t <;> rfl

theorem collect_eraseLiteral {α : Type} {f : NodeType → Option α}
    (h : ∀ text isString, f (.literal text isString) = none) (e : Expression) :
    Expression.collect f (e.map Node.eraseLiteral) = e.collect f := by
  apply Expression.collect_map_of_eq
  intro n
  rw [Node.eraseLiteral]
  cases n.type <;> simp [NodeType.eraseLiteral, h]

theorem skeleton_of_eraseLiteral
    (h : e.map Node.eraseLiteral = e'.map Node.eraseLiteral) : e.skeleton = e'.skeleton := by
  have hmap (t : Expression) : (t.map Node.eraseLiteral).map Node.skeleton = t.skeleton := by
    rw [RoseTree.map_map, Expression.skeleton]
    congr 1
    funext n
    simp [Node.skeleton, Node.eraseLiteral, NodeType.skeleton_eraseLiteral]
  rw [← hmap e, ← hmap e', h]

section EraseLiteral

variable (py : Python) (validator : SQLValidator) (schema : DatabaseSchema) (e : Expression)

theorem virtualAliases_eraseLiteral :
    virtualAliases py (e.map Node.eraseLiteral) = virtualAliases py e := by
  rw [virtualAliases, virtualAliases, collect_eraseLiteral fun _ _ ↦ rfl,
    collect_eraseLiteral fun _ _ ↦ rfl]

theorem outputAliases_eraseLiteral :
    outputAliases py (e.map Node.eraseLiteral) = outputAliases py e := by
  rw [outputAliases, outputAliases, collect_eraseLiteral fun _ _ ↦ rfl]

theorem checkedTables_eraseLiteral :
    checkedTables py (e.map Node.eraseLiteral) = checkedTables py e := by
  rw [checkedTables, checkedTables, virtualAliases_eraseLiteral, Expression.tables,
    Expression.tables, collect_eraseLiteral fun _ _ ↦ rfl]

namespace SQLValidator

theorem realTables_eraseLiteral :
    realTables py schema (e.map Node.eraseLiteral) = realTables py schema e := by
  rw [realTables, realTables, boundTables, boundTables, checkedTables_eraseLiteral]

theorem checkColumn_eraseLiteral :
    checkColumn py schema (e.map Node.eraseLiteral) = checkColumn py schema e := by
  have hq : checkQualified py schema (e.map Node.eraseLiteral) = checkQualified py schema e := by
    funext qualifier name
    rw [checkQualified, checkQualified, virtualAliases_eraseLiteral, aliasToReal, aliasToReal,
      boundTables, boundTables, checkedTables_eraseLiteral]
  have hu : checkUnqualified py schema (e.map Node.eraseLiteral) =
      checkUnqualified py schema e := by
    funext name
    rw [checkUnqualified, checkUnqualified, outputAliases_eraseLiteral, realTableInfos,
      realTableInfos, realTables_eraseLiteral]
  funext column
  rw [checkColumn, checkColumn, hq, hu]

theorem resolvedColumns_eraseLiteral :
    resolvedColumns py schema (e.map Node.eraseLiteral) = resolvedColumns py schema e := by
  rw [resolvedColumns, resolvedColumns, checkColumn_eraseLiteral,
    collect_eraseLiteral fun _ _ ↦ rfl]

theorem columnIssues_eraseLiteral :
    columnIssues py schema (e.map Node.eraseLiteral) = columnIssues py schema e := by
  rw [columnIssues, columnIssues, checkColumn_eraseLiteral, collect_eraseLiteral fun _ _ ↦ rfl]

variable {e}

/-- Statements that differ in literals only have the same findings. -/
theorem findings_of_eraseLiteral {e' : Expression}
    (h : e.map Node.eraseLiteral = e'.map Node.eraseLiteral) :
    validator.findings py schema e = validator.findings py schema e' := by
  have hs := skeleton_of_eraseLiteral h
  have hnamed (t : Expression) :
      validator.functionIssues py (t.map Node.eraseLiteral) = validator.functionIssues py t := by
    rw [functionIssues, functionIssues, collect_eraseLiteral fun _ _ ↦ rfl]
  rw [findings, findings, ← statementIssues_skeleton, hs, statementIssues_skeleton,
    ← forbiddenIssues_skeleton, hs, forbiddenIssues_skeleton, ← commentIssues_skeleton, hs,
    commentIssues_skeleton, ← starIssues_skeleton, hs, starIssues_skeleton, ← hnamed, h, hnamed,
    ← checkedTables_eraseLiteral, h, checkedTables_eraseLiteral, ← columnIssues_eraseLiteral, h,
    columnIssues_eraseLiteral]

theorem validateExpression_of_eraseLiteral {e' : Expression}
    (h : e.map Node.eraseLiteral = e'.map Node.eraseLiteral) (outcome : ValidationOutcome) :
    validator.validateExpression py schema e outcome =
      validator.validateExpression py schema e' outcome := by
  have hclass : classifyStatement py e = classifyStatement py e' := by
    rw [← classifyStatement_skeleton, skeleton_of_eraseLiteral h, classifyStatement_skeleton]
  rw [validateExpression, validateExpression, findings_of_eraseLiteral py validator schema h,
    hclass, ← realTables_eraseLiteral, h, realTables_eraseLiteral,
    ← resolvedColumns_eraseLiteral, h, resolvedColumns_eraseLiteral]

end SQLValidator

end EraseLiteral

end TextToSql.Sql
