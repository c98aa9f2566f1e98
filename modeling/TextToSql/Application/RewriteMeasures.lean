import TextToSql.Application.BoundedResults
import TextToSql.Security.RewriterNodes
import TextToSql.Security.StructuralLimits

namespace TextToSql.Application

open Library Domain Sql Security

variable {py : Python} {schema : DatabaseSchema} {tenantId : String} {e e' : Expression}

theorem arg_withoutLimit {k : Arg} (hk : k ≠ .limit) (e : Expression) :
    (withoutLimit e).arg k = e.arg k := by
  rw [Expression.arg, Expression.arg, RoseTree.child?, RoseTree.child?, withoutLimit,
    RoseTree.children_node, List.find?_filter]
  refine congrArg (List.find? · e.children) (funext fun c ↦ ?_)
  by_cases h : c.label.key = k <;> simp [h, hk]

theorem withoutLimit_guardScope (select : Expression) (table : TableRef × String) :
    withoutLimit (guardScope py tenantId select table) =
      guardScope py tenantId (withoutLimit select) table := by
  have hcondition : condition (withoutLimit select) = condition select := by
    rw [condition, condition, arg_withoutLimit (by decide)]
  have hset (select : Expression) : guardScope py tenantId select table =
      select.setArg .where_ (.node { key := .where_, type := .where_ }
        [conjoin id id (condition select)
          (buildPredicate py tenantId table.1.aliasOrName table.2)]) := rfl
  rw [hset, hset, hcondition]
  refine RoseTree.filter_setChild (t := select) (p := fun l : Node ↦ decide (l.key = .where_))
    (q := fun l : Node ↦ decide (l.key ≠ .limit)) rfl ?_
  intro l hl
  simp [of_decide_eq_true hl]

theorem withoutLimit_foldl (found : List (TableRef × String)) (select : Expression) :
    withoutLimit (found.foldl (guardScope py tenantId) select) =
      found.foldl (guardScope py tenantId) (withoutLimit select) := by
  induction found generalizing select with
  | nil => rfl
  | cons table found ih => rw [List.foldl_cons, List.foldl_cons, ih, withoutLimit_guardScope]

def isGuardPart : NodeType → Bool
  | .where_ | .paren | .and_ | .eq | .column _ _ | .literal _ _ => true
  | _ => false

def Foreign (n : Node) : Prop := isGuardPart n.type = false

theorem overlooks_foreign : Overlooks Foreign := by
  constructor <;> simp [Foreign, isGuardPart]

theorem followed_foreign (e : Expression) : Followed Foreign e :=
  ⟨overlooks_foreign, fun n _ hn ↦ by simp [Foreign, isGuardPart, hn]⟩

def SameMeasure {M : Type} (μ : Expression → M) (t u : Expression) : Prop :=
  u.label = t.label ∧ μ u = μ t

/-- The measure of a node comes from the labels and the measures of its children, and a predicate
more in the `WHERE` of a select does not change it. -/
structure Unmoved {M : Type} (py : Python) (tenantId : String) (μ : Expression → M) : Prop where
  congr : ∀ l ts us, List.Forall₂ (SameMeasure μ) ts us → μ (.node l us) = μ (.node l ts)
  guard : ∀ select table, select.label.type.isSelect = true → GuardReady Foreign select →
    μ (guardScope py tenantId select table) = μ select

section Unmoved

variable {M : Type} {μ : Expression → M} (hμ : Unmoved py tenantId μ)

include hμ

theorem Unmoved.foldl (found : List (TableRef × String)) {select : Expression}
    (hs : select.label.type.isSelect = true) (hr : GuardReady Foreign select) :
    μ (found.foldl (guardScope py tenantId) select) = μ select := by
  induction found generalizing select with
  | nil => rfl
  | cons table found ih =>
    have hready : GuardReady Foreign (guardScope py tenantId select table) :=
      guardReady_guardScope overlooks_foreign hr table
    have hlabel : (guardScope py tenantId select table).label.type.isSelect = true := hs
    rw [List.foldl_cons]
    exact (ih hlabel hready).trans (hμ.guard select table hs hr)

theorem Unmoved.found {l : Node} {ts us : List Expression} {found : List (TableRef × String)}
    (hfound : found.Perm (owned py schema l ts)) (hr : GuardReady Foreign (.node l us)) :
    μ (found.foldl (guardScope py tenantId) (.node l us)) = μ (.node l us) := by
  by_cases hs : l.type.isSelect = true
  · exact hμ.foldl found hs hr
  · rw [owned, if_neg hs, List.perm_nil] at hfound
    rw [hfound]
    rfl

theorem Unmoved.rewritten (h : Rewritten py schema tenantId e e') (hw : PlainWhere e)
    (hs : SingleWhere e) : μ e' = μ e := by
  induction e using RoseTree.inductionOn generalizing e' with
  | node l ts ih =>
    rw [Rewritten] at h
    obtain ⟨us, found, hus, hfound, rfl⟩ := h
    rw [rewrittenAll_iff] at hus
    rw [hμ.found hfound (guardReady_rewritten hus hw hs (followed_foreign _))]
    apply hμ.congr
    refine forall₂_imp_mem hus fun t ht u hr ↦ ⟨hr.label, ?_⟩
    exact ih t ht hr (hw.child ht) (hs.child ht)

theorem Unmoved.rewritten_withoutLimit (h : Rewritten py schema tenantId e e')
    (hw : PlainWhere e) (hs : SingleWhere e) : μ (withoutLimit e') = μ (withoutLimit e) := by
  obtain ⟨l, ts⟩ := e
  rw [Rewritten] at h
  obtain ⟨us, found, hus, hfound, rfl⟩ := h
  rw [rewrittenAll_iff] at hus
  have hready := guardReady_rewritten hus hw hs (followed_foreign _)
  have hargs : Expression.args .where_ (withoutLimit (.node l us)) =
      Expression.args .where_ (.node l us) := by
    rw [Expression.args, Expression.args, withoutLimit, RoseTree.children_node, List.filter_filter]
    refine List.filter_congr fun c _ ↦ ?_
    by_cases hk : c.label.key = .where_ <;> simp [hk]
  have hready' : GuardReady Foreign (withoutLimit (.node l us)) :=
    ⟨hargs ▸ hready.single, hargs ▸ hready.plain⟩
  have hsame : List.Forall₂ (SameMeasure μ) ts us :=
    forall₂_imp_mem hus fun t ht u hr ↦
      ⟨hr.label, hμ.rewritten hr (hw.child ht) (hs.child ht)⟩
  have hkept := forall₂_filter_label (fun _ _ h ↦ And.left h) hsame fun l ↦ decide (l.key ≠ .limit)
  rw [withoutLimit_foldl]
  exact (hμ.found hfound hready').trans (hμ.congr l _ _ hkept)

end Unmoved

/-- The measure of a node that belongs to a condition is the total of its children. -/
structure AddsUp {M : Type} (op : M → M → M) (zero : M) (μ : Expression → M) : Prop where
  zero_op : ∀ x, op zero x = x
  op_zero : ∀ x, op x zero = x
  part : ∀ l ts, isGuardPart l.type = true → μ (.node l ts) = (ts.map μ).foldr op zero
  select : ∀ l ts us, l.type.isSelect = true →
    (us.map μ).foldr op zero = (ts.map μ).foldr op zero → μ (.node l us) = μ (.node l ts)

section AddsUp

variable {M : Type} {op : M → M → M} {zero : M} {μ : Expression → M} (h : AddsUp op zero μ)

include h

theorem AddsUp.leaf {l : Node} (hl : isGuardPart l.type = true) : μ (.node l []) = zero :=
  h.part l [] hl

theorem AddsUp.one {l : Node} (hl : isGuardPart l.type = true) (t : Expression) :
    μ (.node l [t]) = μ t := by
  rw [h.part l [t] hl]
  exact h.op_zero _

theorem AddsUp.buildPredicate (table : TableRef × String) (key : Arg) :
    μ (buildPredicate py tenantId table.1.aliasOrName table.2 key) = zero := by
  rw [Security.buildPredicate, h.part _ _ rfl, List.map_cons, List.map_singleton, h.leaf rfl,
    h.leaf rfl, List.foldr_cons, List.foldr_cons, List.foldr_nil, h.zero_op, h.zero_op]

theorem AddsUp.conjoin (existing : Option Expression) (table : TableRef × String) :
    μ (conjoin id id existing (Security.buildPredicate py tenantId table.1.aliasOrName table.2)) =
      (existing.map μ).getD zero := by
  cases existing with
  | none => exact h.buildPredicate table .this
  | some c =>
    have hwrap : μ (wrapConnector id id c) = μ c := by
      rw [wrapConnector]
      split
      · exact h.one rfl c
      · rfl
    rw [Security.conjoin, h.part _ _ rfl, List.map_cons, List.map_singleton, hwrap,
      h.buildPredicate]
    change op (μ c) (op zero zero) = μ c
    rw [h.zero_op, h.op_zero]

theorem AddsUp.guardScope {select : Expression} (hs : select.label.type.isSelect = true)
    (hr : GuardReady Foreign select) (table : TableRef × String) :
    μ (guardScope py tenantId select table) = μ select := by
  obtain ⟨l, ts⟩ := select
  have hwhere : μ (.node { key := .where_, type := .where_ }
      [Security.conjoin id id (condition (.node l ts))
        (Security.buildPredicate py tenantId table.1.aliasOrName table.2)]) =
      ((condition (.node l ts)).map μ).getD zero := by
    rw [h.one rfl, h.conjoin]
  have hold (w : Expression) (hw : w ∈ ts) (hk : w.label.key = .where_) :
      μ w = ((condition (.node l ts)).map μ).getD zero := by
    have hmem : w ∈ Expression.args .where_ (.node l ts) :=
      List.mem_filter.mpr ⟨hw, decide_eq_true hk⟩
    obtain ⟨hpart, c, hc, hkey⟩ := hr.plain w hmem
    rw [condition_of_mem hr.single hmem hc hkey]
    obtain ⟨lw, ws⟩ := w
    obtain rfl : ws = [c] := hc
    exact h.one (by simpa [Foreign] using hpart) c
  have htotal (v : Expression) (hv : μ v = ((condition (.node l ts)).map μ).getD zero) :
      ((((RoseTree.node l ts).setChild (fun l : Node ↦ decide (l.key = .where_)) v).children).map
        μ).foldr op zero = (ts.map μ).foldr op zero := by
    refine RoseTree.foldr_setChild (h.zero_op zero) ?_ fun hany ↦ ?_
    · intro w hw hk
      exact (hold w hw (of_decide_eq_true hk)).trans hv.symm
    · have hnone : condition (.node l ts) = none := by
        cases hc : condition (.node l ts) with
        | none => rfl
        | some c =>
          obtain ⟨w, hw, -⟩ := mem_of_condition hc
          obtain ⟨hw, hk⟩ := List.mem_filter.mp hw
          exact absurd hk (by simpa using List.any_eq_false.mp hany w hw)
      rw [hv, hnone]
      rfl
  exact h.select l ts _ hs (htotal _ hwhere)

theorem AddsUp.unmoved
    (hcongr : ∀ l ts us, List.Forall₂ (SameMeasure μ) ts us → μ (.node l us) = μ (.node l ts)) :
    Unmoved py tenantId μ :=
  ⟨hcongr, fun _ table hs hr ↦ h.guardScope hs hr table⟩

end AddsUp

theorem map_measure {M : Type} {μ : Expression → M} {ts us : List Expression}
    (h : List.Forall₂ (SameMeasure μ) ts us) : us.map μ = ts.map μ := by
  induction h with
  | nil => rfl
  | cons ht _ ih => rw [List.map_cons, List.map_cons, ht.2, ih]

theorem map_label_measure {M : Type} {μ : Expression → M} {ts us : List Expression}
    (h : List.Forall₂ (SameMeasure μ) ts us) :
    us.map RoseTree.label = ts.map RoseTree.label := by
  induction h with
  | nil => rfl
  | cons ht _ ih => rw [List.map_cons, List.map_cons, ht.1, ih]

theorem addsUp_selectDepth : AddsUp max 0 selectDepth where
  zero_op x := Nat.zero_max x
  op_zero x := Nat.max_zero x
  part l ts hl := by
    have hs : l.type.isSelect = false := by
      revert hl
      cases l.type <;> first | exact fun _ ↦ rfl | exact fun h ↦ nomatch h
    rw [selectDepth_node, hs]
    rfl
  select l ts us _ htotal := by rw [selectDepth_node, selectDepth_node, htotal]

theorem unmoved_selectDepth : Unmoved py tenantId selectDepth :=
  addsUp_selectDepth.unmoved fun l ts us h ↦ by
    rw [selectDepth_node, selectDepth_node, map_measure h]

/-- A property of joins that depends on the labels of their children. -/
structure OfJoins (p : Expression → Bool) : Prop where
  join : ∀ n, p n = true → n.label.type.isJoin = true
  labels : ∀ l ts us, us.map RoseTree.label = ts.map RoseTree.label → p (.node l us) = p (.node l ts)

theorem ofJoins_isJoin : OfJoins fun n ↦ n.label.type.isJoin := ⟨fun _ h ↦ h, fun _ _ _ _ ↦ rfl⟩

theorem arg_isSome {k : Arg} {l : Node} {ts us : List Expression}
    (h : us.map RoseTree.label = ts.map RoseTree.label) :
    (Expression.arg k (.node l us)).isSome = (Expression.arg k (.node l ts)).isSome := by
  have hany (ts : List Expression) : (Expression.arg k (.node l ts)).isSome =
      (ts.map RoseTree.label).any fun n ↦ decide (n.key = k) := by
    rw [Expression.arg, RoseTree.child?, RoseTree.children_node, List.isSome_find?, List.any_map]
    rfl
  rw [hany, hany, h]

theorem ofJoins_isUnconditional : OfJoins (isUnconditional py) where
  join n h := by
    rw [isUnconditional] at h
    cases htype : n.label.type with
    | join kind side method => rfl
    | _ => rw [htype] at h; cases h
  labels l ts us h := by
    rw [isUnconditional, isUnconditional, arg_isSome h, arg_isSome h]
    rfl

def countNodes (p : Expression → Bool) (e : Expression) : Nat := e.walk.countP p

theorem countNodes_node (p : Expression → Bool) (l : Node) (ts : List Expression) :
    countNodes p (.node l ts) =
      (ts.map (countNodes p)).foldr (· + ·) 0 + if p (.node l ts) then 1 else 0 :=
  RoseTree.countP_walk_node p l ts

section Count

variable {p : Expression → Bool} (hp : OfJoins p)

include hp

theorem OfJoins.eq_false {l : Node} (hl : l.type.isJoin = false) (ts : List Expression) :
    p (.node l ts) = false := by
  by_contra h
  have hjoin := hp.join _ (by simpa using h)
  rw [RoseTree.label_node, hl] at hjoin
  cases hjoin

theorem addsUp_countNodes : AddsUp (· + ·) 0 (countNodes p) where
  zero_op := Nat.zero_add
  op_zero := Nat.add_zero
  part l ts hl := by
    have hj : l.type.isJoin = false := by
      revert hl
      cases l.type <;> first | exact fun _ ↦ rfl | exact fun h ↦ nomatch h
    rw [countNodes_node, hp.eq_false hj]
    rfl
  select l ts us hs htotal := by
    have hj : l.type.isJoin = false := by
      revert hs
      cases l.type <;> first | exact fun _ ↦ rfl | exact fun h ↦ nomatch h
    rw [countNodes_node, countNodes_node, htotal, hp.eq_false hj, hp.eq_false hj]

theorem unmoved_countNodes : Unmoved py tenantId (countNodes p) :=
  (addsUp_countNodes hp).unmoved fun l ts us h ↦ by
    rw [countNodes_node, countNodes_node, map_measure h, hp.labels l ts us (map_label_measure h)]

end Count

theorem projections_labels {l : Node} {ts us : List Expression}
    (h : us.map RoseTree.label = ts.map RoseTree.label) :
    projections (.node l us) = projections (.node l ts) := by
  have hcount (ts : List Expression) : projections (.node l ts) =
      (ts.map RoseTree.label).countP fun n ↦ decide (n.key = .expressions) := by
    rw [projections, Expression.args, RoseTree.children_node, ← List.countP_eq_length_filter,
      List.countP_map]
    rfl
  rw [hcount, hcount, h]

theorem args_guardScope {k : Arg} (hk : k ≠ .where_) (select : Expression)
    (table : TableRef × String) :
    (guardScope py tenantId select table).args k = select.args k := by
  have hkept (ts : List Expression) : (ts.filter fun c ↦ decide (c.label.key = k)) =
      (ts.filter fun c ↦ !decide (c.label.key = .where_)).filter fun c ↦ c.label.key = k := by
    rw [List.filter_filter]
    refine List.filter_congr fun c _ ↦ ?_
    by_cases h : c.label.key = k <;> simp [h, hk]
  rw [Expression.args, Expression.args, hkept, hkept select.children]
  exact congrArg _ (RoseTree.filter_children_setChild (t := select)
    (p := fun l : Node ↦ decide (l.key = .where_)) rfl)

theorem unmoved_outermost : Unmoved py tenantId outermost where
  congr l ts us h := by
    rw [outermost_node, outermost_node, map_measure h, projections_labels (map_label_measure h)]
  guard select table hs hr := by
    have hargs : projections (guardScope py tenantId select table) = projections select := by
      rw [projections, projections, args_guardScope (by decide)]
    obtain ⟨l, ts⟩ := select
    have hs : l.type.isSelect = true := hs
    rw [outermost_node, if_pos hs, ← hargs]
    exact (outermost_node l _).trans (if_pos hs)

/-- A literal row bound in the place of the old one measures nothing. -/
structure Unbounded {M : Type} (μ : Expression → M) : Prop where
  setLimit : ∀ e n, isQuery e.label.type = true → μ (setLimit e n) = μ (withoutLimit e)

theorem unbounded_of_total {M : Type} {op : M → M → M} {zero : M} {μ : Expression → M}
    (hzero : ∀ x, op zero x = x) (hlimit : ∀ n, μ (limitNode n) = zero)
    (hnode : ∀ l ts us, isQuery l.type = true →
      projections (.node l us) = projections (.node l ts) →
      (us.map μ).foldr op zero = (ts.map μ).foldr op zero → μ (.node l us) = μ (.node l ts)) :
    Unbounded μ where
  setLimit e n hq := by
    have hprojections : projections (withoutLimit (setLimit e n)) = projections (setLimit e n) := by
      rw [projections, projections, Expression.args, Expression.args, withoutLimit,
        RoseTree.children_node, List.filter_filter]
      refine congrArg List.length (List.filter_congr fun c _ ↦ ?_)
      by_cases h : c.label.key = .expressions <;> simp [h]
    have hold : ∀ t ∈ (setLimit e n).children, decide (t.label.key ≠ .limit) = false →
        μ t = zero := by
      intro t ht hk
      rw [Sql.setLimit, Expression.setArg] at ht
      rcases (RoseTree.mem_children_setChild_iff (p := fun l : Node ↦ decide (l.key = .limit))
        (decide_eq_true rfl)).mp ht with rfl | ⟨-, hno⟩
      · exact hlimit n
      · simp_all
    have htotal := RoseTree.foldr_filter hzero hold
    rw [← withoutLimit_setLimit n]
    exact (hnode e.label _ _ hq hprojections htotal).symm

theorem unbounded_selectDepth : Unbounded selectDepth :=
  unbounded_of_total Nat.zero_max (fun _ ↦ rfl) fun l ts us _ _ htotal ↦ by
    rw [selectDepth_node, selectDepth_node, htotal]

theorem unbounded_outermost : Unbounded outermost :=
  unbounded_of_total none_shallower (fun _ ↦ rfl) fun l ts us _ hprojections htotal ↦ by
    rw [outermost_node, outermost_node, hprojections, htotal]

theorem unbounded_countNodes {p : Expression → Bool} (hp : OfJoins p) :
    Unbounded (countNodes p) := by
  refine unbounded_of_total Nat.zero_add (fun n ↦ ?_) fun l ts us hq _ htotal ↦ ?_
  · rw [limitNode, countNodes_node, hp.eq_false rfl, List.map_singleton, countNodes_node,
      hp.eq_false rfl]
    rfl
  · have hj : l.type.isJoin = false := by
      revert hq
      cases l.type <;> first | exact fun _ ↦ rfl | (intro h; cases h)
    rw [countNodes_node, countNodes_node, htotal, hp.eq_false hj, hp.eq_false hj]

/-- What is measured of the statement that is sent to the database. -/
theorem measure_final {M : Type} {μ : Expression → M} (hμ : Unmoved py tenantId μ)
    (hb : Unbounded μ) (hw : PlainWhere e) (hs : SingleWhere e) (maxRows : Nat) :
    μ (enforceLimit (rewrite py schema tenantId e).1 maxRows).expression =
      μ (if Replaces e maxRows then withoutLimit e else e) := by
  have hr := @rewritten_rewrite py schema tenantId e hw
  by_cases h : Replaces (rewrite py schema tenantId e).1 maxRows
  · rw [enforceLimit_replaces h, hb.setLimit _ _ h.1, if_pos (replaces_rewrite.mp h)]
    exact hμ.rewritten_withoutLimit hr hw hs
  · rw [enforceLimit_leaves h, if_neg (replaces_rewrite.not.mp h)]
    exact hμ.rewritten hr hw hs

end TextToSql.Application
