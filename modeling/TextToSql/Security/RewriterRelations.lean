import TextToSql.Library.Relabel
import TextToSql.Security.Rewriter
import TextToSql.Sql.Normalizer

namespace TextToSql.Security

open Library Domain Sql

def rewriteObjects (py : Python) (schema : DatabaseSchema) (tenantId : String) (e : Expression) :
    RoseTree Object :=
  (collectTargets py schema (copy [] e)).foldl (applyTarget py tenantId) (copy [] e)

theorem rewrite_fst (py : Python) (schema : DatabaseSchema) (tenantId : String)
    (e : Expression) :
    (rewrite py schema tenantId e).1 = (rewriteObjects py schema tenantId e).map Object.node := rfl

/-- What the rewriting of nodes sees of an object is the same in related ones. -/
structure Respects (R : Object → Object → Prop) : Prop where
  id : ∀ o o', R o o' → o.id = o'.id
  key : ∀ o o', R o o' → o.node.key = o'.node.key
  connector : ∀ o o', R o o' → isConnector o.node.type = isConnector o'.node.type
  fresh : ∀ n, R ⟨none, n⟩ ⟨none, n⟩

section Lift

variable {R : Object → Object → Prop} (hR : Respects R) {t u : RoseTree Object}

include hR

theorem Respects.hasKey (k : Arg) (o o' : Object) (h : R o o') :
    decide (o.node.key = k) = decide (o'.node.key = k) := by rw [hR.key o o' h]

theorem lift_wrapConnector (h : RoseTree.Lift R t u) :
    RoseTree.Lift R (wrapConnector Object.node (⟨none, ·⟩) t)
      (wrapConnector Object.node (⟨none, ·⟩) u) := by
  rw [wrapConnector, wrapConnector, hR.connector _ _ h.label]
  split
  · exact RoseTree.lift_node.mpr ⟨hR.fresh _, .cons h .nil⟩
  · exact h

theorem lift_conjoin {existing existing' : Option (RoseTree Object)}
    (he : Option.Rel (RoseTree.Lift R) existing existing')
    {predicate predicate' : Arg → RoseTree Object}
    (hp : ∀ k, RoseTree.Lift R (predicate k) (predicate' k)) :
    RoseTree.Lift R (conjoin Object.node (⟨none, ·⟩) existing predicate)
      (conjoin Object.node (⟨none, ·⟩) existing' predicate') := by
  cases he with
  | none => exact hp .this
  | some hc =>
    exact RoseTree.lift_node.mpr
      ⟨hR.fresh _, .cons (lift_wrapConnector hR hc) (.cons (hp .expression) .nil)⟩

theorem lift_addWhere {predicate predicate' : Arg → RoseTree Object}
    (hp : ∀ k, RoseTree.Lift R (predicate k) (predicate' k)) (h : RoseTree.Lift R t u) :
    RoseTree.Lift R (addWhere Object.node (⟨none, ·⟩) predicate t)
      (addWhere Object.node (⟨none, ·⟩) predicate' u) := by
  have hexisting : Option.Rel (RoseTree.Lift R)
      ((t.child? fun l ↦ l.node.key = .where_).bind fun w ↦ w.child? fun l ↦ l.node.key = .this)
      ((u.child? fun l ↦ l.node.key = .where_).bind
        fun w ↦ w.child? fun l ↦ l.node.key = .this) := by
    have hw := RoseTree.Lift.child? (hR.hasKey .where_) h
    generalize (t.child? fun l ↦ decide (l.node.key = .where_)) = x at hw
    generalize (u.child? fun l ↦ decide (l.node.key = .where_)) = y at hw
    cases hw with
    | none => exact .none
    | some hw => exact RoseTree.Lift.child? (hR.hasKey .this) hw
  refine RoseTree.Lift.setChild (hR.hasKey .where_) h (RoseTree.lift_node.mpr ⟨hR.fresh _, ?_⟩)
  exact .cons (lift_conjoin hR hexisting hp) .nil

omit hR in
theorem modifyAll_eq (id : List Nat) (f : RoseTree Object → RoseTree Object)
    (ts : List (RoseTree Object)) : modifyAll id f ts = ts.map (modify id f) := by
  induction ts with
  | nil => rfl
  | cons t ts ih => simp only [modifyAll, ih, List.map_cons]

theorem lift_modify (id : List Nat) {f g : RoseTree Object → RoseTree Object}
    (hf : ∀ t u, RoseTree.Lift R t u → RoseTree.Lift R (f t) (g u))
    (h : RoseTree.Lift R t u) : RoseTree.Lift R (modify id f t) (modify id g u) := by
  induction t using RoseTree.inductionOn generalizing u with
  | node o ts ih =>
    obtain ⟨o', us⟩ := u
    obtain ⟨ho, hts⟩ := RoseTree.lift_node.mp h
    rw [modify, modify, hR.id _ _ ho]
    split
    · exact hf _ _ h
    · rw [RoseTree.lift_node]
      refine ⟨ho, ?_⟩
      clear h
      induction hts with
      | nil => exact .nil
      | cons ht _ ihts =>
        rw [modifyAll, modifyAll]
        exact .cons (ih _ List.mem_cons_self ht) (ihts fun t ht' ↦ ih t (.tail _ ht'))

theorem lift_applyTargets {py : Python} {tenantId tenantId' : String}
    {found found' : List (Target (List Nat))}
    (hfound : List.Forall₂ (fun a b ↦ a.scope = b.scope ∧ ∀ key, RoseTree.Lift R
      (newPredicate py tenantId a.qualifier a.column key)
      (newPredicate py tenantId' b.qualifier b.column key)) found found')
    (h : RoseTree.Lift R t u) :
    RoseTree.Lift R (found.foldl (applyTarget py tenantId) t)
      (found'.foldl (applyTarget py tenantId') u) := by
  induction hfound generalizing t u with
  | nil => exact h
  | cons ha _ ih =>
    rw [List.foldl_cons, List.foldl_cons]
    apply ih
    rw [applyTarget, applyTarget, ha.1]
    exact lift_modify hR _ (fun _ _ htu ↦ lift_addWhere hR ha.2 htu) h

end Lift

theorem lift_copy {r : Node → Node → Prop} {R : Object → Object → Prop}
    (hr : ∀ id n n', r n n' → R ⟨some id, n⟩ ⟨some id, n'⟩) {e e' : Expression}
    (h : RoseTree.Lift r e e') (path : List Nat) :
    RoseTree.Lift R (copy path e) (copy path e') := by
  induction e using RoseTree.inductionOn generalizing e' path with
  | node l ts ih =>
    obtain ⟨l', us⟩ := e'
    obtain ⟨hl, hts⟩ := RoseTree.lift_node.mp h
    rw [copy, copy, RoseTree.lift_node]
    refine ⟨hr _ _ _ hl, ?_⟩
    clear h hl
    generalize 0 = i
    induction hts generalizing i with
    | nil => exact .nil
    | cons ht _ ihts =>
      rw [copyAll, copyAll]
      exact .cons (ih _ List.mem_cons_self ht _) (ihts (fun t ht' ↦ ih t (.tail _ ht')) _)

def limitView {α : Type} (lab : α → Node) (t : RoseTree α) :
    Option (NodeType × Option NodeType) :=
  (t.child? fun l ↦ (lab l).key = .limit).map fun c ↦
    ((lab c.label).type, (c.child? fun l ↦ (lab l).key = .expression).map fun c ↦
      (lab c.label).type)

def typeInt : NodeType → Option Nat
  | .literal text false => intOfText text
  | _ => none

def limitOfView (view : Option (NodeType × Option NodeType)) : Option Nat :=
  view.bind fun v ↦ (if v.1 = .limit then v.2 else some v.1).map fun type ↦
    (typeInt type).getD (10 ^ 12)

theorem limitValue_eq (e : Expression) :
    limitValue (e.arg .limit) = limitOfView (limitView id e) := by
  have hview : limitView id e = (e.arg .limit).map fun c ↦
      (c.label.type, (c.arg .expression).map fun c ↦ c.label.type) := rfl
  rw [hview]
  cases e.arg .limit with
  | none => rfl
  | some c =>
    have hvalue : limitValue (some c) = (limitInner c).map fun inner ↦
        (typeInt inner.label.type).getD (10 ^ 12) := by
      rw [limitValue, Option.bind_some]
      cases limitInner c <;> rfl
    rw [hvalue, limitInner, limitOfView, Option.map_some, Option.bind_some]
    dsimp only
    split
    · rw [Option.map_map]
      rfl
    · rfl

/-- A change of one object that keeps its label and the arguments of interest. -/
structure KeepsArgs (f : RoseTree Object → RoseTree Object) : Prop where
  label : ∀ t, (f t).label = t.label
  child : ∀ t k, k ≠ .where_ →
    ((f t).child? fun l ↦ l.node.key = k) = t.child? fun l ↦ l.node.key = k

theorem keepsArgs_addWhere (predicate : Arg → RoseTree Object) :
    KeepsArgs (addWhere Object.node (⟨none, ·⟩) predicate) where
  label _ := rfl
  child t k hk := by
    rw [addWhere]
    apply RoseTree.child?_setChild_of_ne
    · intro o ho
      rw [decide_eq_true_eq] at ho
      rw [decide_eq_false_iff_not, ho]
      exact fun h ↦ hk h.symm
    · rw [decide_eq_false_iff_not]
      exact fun h ↦ hk h.symm

section Modify

variable {f : RoseTree Object → RoseTree Object} (hf : KeepsArgs f) (id : List Nat)
  (t : RoseTree Object)

include hf

theorem label_modify : (modify id f t).label = t.label := by
  obtain ⟨o, ts⟩ := t
  rw [modify]
  split
  · exact hf.label _
  · rfl

theorem child?_modify {k : Arg} (hk : k ≠ .where_) :
    ((modify id f t).child? fun l ↦ l.node.key = k) = (t.child? fun l ↦ l.node.key = k) ∨
      ((modify id f t).child? fun l ↦ l.node.key = k) =
        (t.child? fun l ↦ l.node.key = k).map (modify id f) := by
  obtain ⟨o, ts⟩ := t
  rw [modify]
  split
  · exact .inl (hf.child _ k hk)
  · right
    rw [modifyAll_eq, RoseTree.child?, RoseTree.child?, RoseTree.children_node,
      RoseTree.children_node, List.find?_map]
    refine congrArg (Option.map _) (congrArg (List.find? · ts) (funext fun c ↦ ?_))
    rw [Function.comp_apply, label_modify hf]

theorem limitView_modify :
    limitView Object.node (modify id f t) = limitView Object.node t := by
  have hinner (c : RoseTree Object) :
      (((modify id f c).child? fun l ↦ l.node.key = .expression).map fun c ↦ c.label.node.type) =
        (c.child? fun l ↦ l.node.key = .expression).map fun c ↦ c.label.node.type := by
    rcases child?_modify hf id c (k := .expression) (by decide) with h | h
    · rw [h]
    · rw [h, Option.map_map]
      refine congrArg (Option.map · _) (funext fun c ↦ ?_)
      rw [Function.comp_apply, label_modify hf]
  rw [limitView, limitView]
  rcases child?_modify hf id t (k := .limit) (by decide) with h | h
  · rw [h]
  · rw [h, Option.map_map]
    refine congrArg (Option.map · _) (funext fun c ↦ ?_)
    rw [Function.comp_apply, label_modify hf, hinner]

end Modify

theorem map_node_copy (path : List Nat) (e : Expression) :
    (copy path e).map Object.node = e := by
  induction e using RoseTree.inductionOn generalizing path with
  | node l ts ih =>
    rw [copy, RoseTree.map_node]
    congr 1
    generalize 0 = i
    induction ts generalizing i with
    | nil => rfl
    | cons t ts ihts =>
      rw [copyAll, List.map_cons, ih t List.mem_cons_self,
        ihts (fun t ht ↦ ih t (.tail _ ht)) (i + 1)]

theorem limitView_map_node (t : RoseTree Object) :
    limitView id (t.map Object.node) = limitView Object.node t := by
  have hchild (c : RoseTree Object) (k : Arg) :
      ((c.map Object.node).child? fun l ↦ (id l).key = k) =
        (c.child? fun l ↦ l.node.key = k).map (RoseTree.map Object.node) :=
    RoseTree.child?_map (fun _ ↦ rfl) c
  rw [limitView, limitView, hchild, Option.map_map]
  refine congrArg (Option.map · _) (funext fun c ↦ ?_)
  rw [Function.comp_apply, hchild, Option.map_map, RoseTree.label_map]
  refine congrArg (Prod.mk _) (congrArg (Option.map · _) (funext fun c ↦ ?_))
  rw [Function.comp_apply, RoseTree.label_map]
  rfl

/-- Rewriting leaves the row bound of a statement alone. -/
theorem limitValue_rewrite (py : Python) (schema : DatabaseSchema) (tenantId : String)
    (e : Expression) :
    limitValue ((rewrite py schema tenantId e).1.arg .limit) = limitValue (e.arg .limit) := by
  have hfold (found : List (Target (List Nat))) (t : RoseTree Object) :
      limitView Object.node (found.foldl (applyTarget py tenantId) t) =
        limitView Object.node t := by
    induction found generalizing t with
    | nil => rfl
    | cons target found ih =>
      rw [List.foldl_cons, ih, applyTarget]
      exact limitView_modify (keepsArgs_addWhere _) _ _
  rw [limitValue_eq, limitValue_eq, rewrite_fst, limitView_map_node, rewriteObjects, hfold,
    ← limitView_map_node, map_node_copy]

theorem label_rewrite (py : Python) (schema : DatabaseSchema) (tenantId : String)
    (e : Expression) : (rewrite py schema tenantId e).1.label = e.label := by
  have hfold (found : List (Target (List Nat))) (t : RoseTree Object) :
      (found.foldl (applyTarget py tenantId) t).label = t.label := by
    induction found generalizing t with
    | nil => rfl
    | cons target found ih =>
      rw [List.foldl_cons, ih, applyTarget]
      exact label_modify (keepsArgs_addWhere _) _ _
  rw [rewrite_fst, RoseTree.label_map, rewriteObjects, hfold, ← RoseTree.label_map Object.node,
    map_node_copy]

end TextToSql.Security
