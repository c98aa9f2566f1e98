import TextToSql.Security.RewriterRelations

namespace TextToSql.Security

open Library Domain Sql

variable (py : Python) (schema : DatabaseSchema) (tenantId : String)

/-- The tenant tables of a node that belong to the select around it. -/
def exposed (e : Expression) : List (TableRef × String) :=
  RoseTree.fold (fun l found ↦ (tenantColumn py schema l.type).toList ++
    if l.type.isSelect then [] else found.flatten) e

theorem exposed_node (l : Node) (ts : List Expression) :
    exposed py schema (.node l ts) = (tenantColumn py schema l.type).toList ++
      if l.type.isSelect then [] else ts.flatMap (exposed py schema) :=
  RoseTree.fold_node _ l ts

/-- The tenant tables that belong to a select itself. -/
def owned (l : Node) (ts : List Expression) : List (TableRef × String) :=
  if l.type.isSelect then ts.flatMap (exposed py schema) else []

def guardScope (select : Expression) (table : TableRef × String) : Expression :=
  addWhere id id (buildPredicate py tenantId table.1.aliasOrName table.2) select

mutual

/-- The second statement is the first one with the predicates of all tenant tables, each in the
select that the table belongs to. -/
def Rewritten : Expression → Expression → Prop
  | .node l ts, e' => ∃ (us : List Expression) (found : List (TableRef × String)),
      RewrittenAll ts us ∧ found.Perm (owned py schema l ts) ∧
      e' = found.foldl (guardScope py tenantId) (.node l us)

def RewrittenAll : List Expression → List Expression → Prop
  | [], [] => True
  | t :: ts, u :: us => Rewritten t u ∧ RewrittenAll ts us
  | _, _ => False

end

variable {py schema tenantId}

theorem mem_exposed {t : Expression} {table : TableRef × String} (h : table ∈ exposed py schema t) :
    ∃ n ∈ t.walk, tenantColumn py schema n.label.type = some table := by
  induction t using RoseTree.inductionOn with
  | node l ts ih =>
    rw [exposed_node] at h
    rcases List.mem_append.mp h with h | h
    · exact ⟨_, RoseTree.self_mem_walk _, Option.mem_toList.mp h⟩
    · split at h
      · cases h
      · obtain ⟨t, ht, h⟩ := List.mem_flatMap.mp h
        obtain ⟨n, hn, hc⟩ := ih t ht h
        exact ⟨n, RoseTree.mem_walk_of_child ht hn, hc⟩

theorem mem_owned {t : Expression} {table : TableRef × String}
    (h : table ∈ owned py schema t.label t.children) :
    ∃ n ∈ t.walk, tenantColumn py schema n.label.type = some table := by
  obtain ⟨l, ts⟩ := t
  rw [owned] at h
  split at h
  · obtain ⟨t, ht, h⟩ := List.mem_flatMap.mp h
    obtain ⟨n, hn, hc⟩ := mem_exposed h
    exact ⟨n, RoseTree.mem_walk_of_child ht hn, hc⟩
  · cases h

theorem tenantColumn_eq_some {t : NodeType} {table : TableRef × String}
    (h : tenantColumn py schema t = some table) :
    t = .table table.1 ∧ ∃ info, schema.table py table.1.name = some info ∧
      table.2 ∈ info.tenant := by
  obtain ⟨ref, href, h⟩ := Option.bind_eq_some_iff.mp h
  obtain ⟨column, hcolumn, rfl⟩ := Option.map_eq_some_iff.mp h
  obtain ⟨info, hinfo, hcolumn⟩ := Option.bind_eq_some_iff.mp hcolumn
  refine ⟨?_, info, hinfo, hcolumn⟩
  revert href
  cases t <;> simp [NodeType.tableRef]

theorem rewrittenAll_iff {ts us : List Expression} :
    RewrittenAll py schema tenantId ts us ↔
      List.Forall₂ (Rewritten py schema tenantId) ts us := by
  induction ts generalizing us with
  | nil => cases us <;> simp [RewrittenAll]
  | cons t ts ih => cases us <;> simp [RewrittenAll, ih]

theorem label_foldl_guardScope (found : List (TableRef × String)) (select : Expression) :
    (found.foldl (guardScope py tenantId) select).label = select.label := by
  induction found generalizing select with
  | nil => rfl
  | cons table found ih =>
    rw [List.foldl_cons, ih]
    rfl

theorem Rewritten.label {e e' : Expression} (h : Rewritten py schema tenantId e e') :
    e'.label = e.label := by
  obtain ⟨l, ts⟩ := e
  rw [Rewritten] at h
  obtain ⟨us, found, -, -, rfl⟩ := h
  exact label_foldl_guardScope found _

/-- A `WHERE` is a node with one condition. -/
def PlainWhere (e : Expression) : Prop :=
  ∀ n ∈ e.walk, n.label.key = .where_ →
    n.label.type = .where_ ∧ ∃ c, n.children = [c] ∧ c.label.key = .this

theorem PlainWhere.child {l : Node} {ts : List Expression} (h : PlainWhere (.node l ts))
    {t : Expression} (ht : t ∈ ts) : PlainWhere t :=
  fun n hn ↦ h n (RoseTree.mem_walk_of_child ht hn)

section Owners

variable (py schema)

mutual

def owners (path : List Nat) : Expression → List (Target (List Nat))
  | .node l ts => ((owned py schema l ts).map fun table ↦ ⟨path, table.1, table.2⟩) ++
      ownersAll path 0 ts

def ownersAll (path : List Nat) (i : Nat) : List Expression → List (Target (List Nat))
  | [] => []
  | t :: ts => owners (i :: path) t ++ ownersAll path (i + 1) ts

end

end Owners

theorem ownersAll_eq (path : List Nat) (i : Nat) (ts : List Expression) :
    ownersAll py schema path i ts =
      (ts.zipIdx i).flatMap fun p ↦ owners py schema (p.2 :: path) p.1 := by
  induction ts generalizing i with
  | nil => rfl
  | cons t ts ih => rw [ownersAll, ih, List.zipIdx_cons, List.flatMap_cons]

theorem owners_node (path : List Nat) (l : Node) (ts : List Expression) :
    owners py schema path (.node l ts) =
      ((owned py schema l ts).map fun table ↦ ⟨path, table.1, table.2⟩) ++
        ts.zipIdx.flatMap fun p ↦ owners py schema (p.2 :: path) p.1 := by
  rw [owners, ownersAll_eq]

theorem copyAll_eq (path : List Nat) (i : Nat) (ts : List Expression) :
    copyAll path i ts = (ts.zipIdx i).map fun p ↦ copy (p.2 :: path) p.1 := by
  induction ts generalizing i with
  | nil => rfl
  | cons t ts ih => rw [copyAll, ih, List.zipIdx_cons, List.map_cons]

theorem suffix_scope {path : List Nat} {e : Expression} {t : Target (List Nat)}
    (h : t ∈ owners py schema path e) : path <:+ t.scope := by
  induction e using RoseTree.inductionOn generalizing path with
  | node l ts ih =>
    rw [owners_node] at h
    rcases List.mem_append.mp h with h | h
    · obtain ⟨table, -, rfl⟩ := List.mem_map.mp h
      exact List.suffix_rfl
    · obtain ⟨p, hp, h⟩ := List.mem_flatMap.mp h
      exact (List.suffix_cons _ _).trans (ih _ (List.fst_mem_of_mem_zipIdx hp) h)

theorem not_cons_suffix (i : Nat) (path : List Nat) : ¬(i :: path) <:+ path := by
  intro h
  have hlen := h.length_le
  rw [List.length_cons] at hlen
  omega

theorem head_eq_of_suffix {i j : Nat} {path scope : List Nat} (hi : (i :: path) <:+ scope)
    (hj : (j :: path) <:+ scope) : i = j := by
  have h := List.suffix_of_suffix_length_le hi hj (by simp)
  have heq := h.eq_of_length (by simp)
  exact (List.cons.inj heq).1

theorem filter_owners_here (path : List Nat) (l : Node) (ts : List Expression) :
    ((owners py schema path (.node l ts)).filter fun t ↦ path = t.scope) =
      (owned py schema l ts).map fun table ↦ ⟨path, table.1, table.2⟩ := by
  rw [owners_node, List.filter_append, List.filter_eq_self.mpr, List.filter_eq_nil_iff.mpr,
    List.append_nil]
  · intro t ht hpath
    obtain ⟨p, -, ht⟩ := List.mem_flatMap.mp ht
    apply not_cons_suffix p.2 path
    have hsuffix := suffix_scope ht
    rwa [← of_decide_eq_true hpath] at hsuffix
  · intro t ht
    obtain ⟨table, -, rfl⟩ := List.mem_map.mp ht
    exact decide_eq_true rfl

theorem flatMap_eq_of_nodup {α β : Type} {f : α × Nat → List β} {xs : List (α × Nat)}
    {p : α × Nat} (hp : p ∈ xs) (hn : (xs.map Prod.snd).Nodup)
    (hf : ∀ q ∈ xs, q.2 ≠ p.2 → f q = []) : xs.flatMap f = f p := by
  induction xs with
  | nil => cases hp
  | cons x xs ih =>
    rw [List.map_cons, List.nodup_cons] at hn
    rw [List.flatMap_cons]
    rcases List.mem_cons.mp hp with rfl | hp
    · have hrest : xs.flatMap f = [] := by
        apply List.flatMap_eq_nil_iff.mpr
        intro q hq
        apply hf q (.tail _ hq)
        exact fun he ↦ hn.1 (he ▸ List.mem_map_of_mem hq)
      rw [hrest, List.append_nil]
    · have hx : f x = [] := by
        apply hf x List.mem_cons_self
        exact fun he ↦ hn.1 (he ▸ List.mem_map_of_mem hp)
      rw [hx, ih hp hn.2 fun q hq ↦ hf q (.tail _ hq)]
      rfl

theorem filter_owners_child {path : List Nat} {l : Node} {ts : List Expression}
    {p : Expression × Nat} (hp : p ∈ ts.zipIdx) :
    ((owners py schema path (.node l ts)).filter fun t ↦ (p.2 :: path) <:+ t.scope) =
      owners py schema (p.2 :: path) p.1 := by
  have hself : ((owners py schema (p.2 :: path) p.1).filter fun t ↦
      decide ((p.2 :: path) <:+ t.scope)) = owners py schema (p.2 :: path) p.1 :=
    List.filter_eq_self.mpr fun t ht ↦ decide_eq_true (suffix_scope ht)
  have hroot : (((owned py schema l ts).map fun table ↦ (⟨path, table.1, table.2⟩ :
      Target (List Nat))).filter fun t ↦ decide ((p.2 :: path) <:+ t.scope)) = [] := by
    apply List.filter_eq_nil_iff.mpr
    intro t ht hs
    obtain ⟨table, -, rfl⟩ := List.mem_map.mp ht
    exact not_cons_suffix _ _ (of_decide_eq_true hs)
  rw [owners_node, List.filter_append, hroot, List.nil_append, List.filter_flatMap]
  refine (flatMap_eq_of_nodup hp (List.nodup_zipIdx_map_snd ts) ?_).trans hself
  intro q _ hne
  apply List.filter_eq_nil_iff.mpr
  intro t ht hs
  exact hne (head_eq_of_suffix (suffix_scope ht) (of_decide_eq_true hs))

section Targets

variable (py schema)

def recorded (up : List (RoseTree Object)) (tree : RoseTree Object) : List (Target (List Nat)) :=
  ((RoseTree.levels up tree).flatten.filterMap (targetOf py schema Object.node)).map fun t ↦
    ⟨t.scope.label.id.getD [], t.table, t.column⟩

def around (up : List (RoseTree Object)) (tables : List (TableRef × String)) :
    List (Target (List Nat)) :=
  ((up.find? fun a ↦ a.label.node.type.isSelect).map fun scope ↦
    tables.map fun table ↦ ⟨scope.label.id.getD [], table.1, table.2⟩).getD []

end Targets

theorem tenantColumn_of_isSelect {type : NodeType} (h : type.isSelect = true) :
    tenantColumn py schema type = none := by
  cases type <;> first | rfl | cases h

theorem around_append (up : List (RoseTree Object)) (xs ys : List (TableRef × String)) :
    around up (xs ++ ys) = around up xs ++ around up ys := by
  rw [around, around, around]
  cases up.find? fun a ↦ a.label.node.type.isSelect with
  | none => rfl
  | some scope => simp

theorem around_flatMap {α : Type} (up : List (RoseTree Object))
    (f : α → List (TableRef × String)) (xs : List α) :
    around up (xs.flatMap f) = xs.flatMap fun x ↦ around up (f x) := by
  induction xs with
  | nil =>
    rw [around]
    cases up.find? fun a ↦ a.label.node.type.isSelect <;> rfl
  | cons x xs ih => rw [List.flatMap_cons, List.flatMap_cons, around_append, ih]

theorem around_cons (o : Object) (us up : List (RoseTree Object))
    (tables : List (TableRef × String)) :
    around (.node o us :: up) tables =
      if o.node.type.isSelect then
        tables.map fun table ↦ ⟨o.id.getD [], table.1, table.2⟩
      else around up tables := by
  rw [around, List.find?_cons, RoseTree.label_node]
  by_cases hs : o.node.type.isSelect = true
  · rw [hs]
    rfl
  · rw [if_neg hs]
    rw [Bool.not_eq_true] at hs
    rw [hs]
    rfl

theorem recorded_node (up : List (RoseTree Object)) (o : Object) (us : List (RoseTree Object)) :
    (recorded py schema up (.node o us)).Perm
      (around up (tenantColumn py schema o.node.type).toList ++
        us.flatMap (recorded py schema (.node o us :: up))) := by
  have hroot : ((targetOf py schema Object.node (up, .node o us)).toList.map fun t ↦
      (⟨t.scope.label.id.getD [], t.table, t.column⟩ : Target (List Nat))) =
      around up (tenantColumn py schema o.node.type).toList := by
    rw [targetOf, around, RoseTree.label_node]
    cases tenantColumn py schema o.node.type with
    | none => cases up.find? fun a ↦ a.label.node.type.isSelect <;> rfl
    | some table => cases up.find? fun a ↦ a.label.node.type.isSelect <;> rfl
  rw [recorded, RoseTree.levels, List.flatten_cons, List.filterMap_append, List.map_append]
  apply List.Perm.append
  · rw [List.filterMap_cons, List.filterMap_nil, ← hroot]
    cases targetOf py schema Object.node (up, RoseTree.node o us) <;> exact .refl _
  · have hperm := (RoseTree.perm_levelsAll (.node o us :: up) us).filterMap
      (targetOf py schema Object.node)
    refine (hperm.map _).trans ?_
    rw [List.filterMap_flatMap, List.map_flatMap]
    exact .refl _

theorem recorded_copy (path : List Nat) (e : Expression) (up : List (RoseTree Object)) :
    (recorded py schema up (copy path e)).Perm
      (owners py schema path e ++ around up (exposed py schema e)) := by
  induction e using RoseTree.inductionOn generalizing path up with
  | node l ts ih =>
    have hchildren (up : List (RoseTree Object)) :
        ((copyAll path 0 ts).flatMap (recorded py schema up)).Perm
          ((ts.zipIdx.flatMap fun p ↦ owners py schema (p.2 :: path) p.1) ++
            around up (ts.flatMap (exposed py schema))) := by
      have hfst : ts.flatMap (exposed py schema) =
          ts.zipIdx.flatMap fun p ↦ exposed py schema p.1 := by
        conv_lhs => rw [← List.zipIdx_map_fst 0 ts, List.flatMap_map]
      rw [copyAll_eq, List.flatMap_map, hfst, around_flatMap]
      refine List.Perm.trans ?_ (List.flatMap_append_perm _ _ _).symm
      exact List.Perm.flatMap_left _ fun p hp ↦ ih p.1 (List.fst_mem_of_mem_zipIdx hp) _ _
    rw [copy]
    refine ((recorded_node up _ _).trans ((hchildren _).append_left _)).trans ?_
    rw [owners_node, exposed_node, around_cons, around_append, owned]
    dsimp only
    by_cases hs : l.type.isSelect = true
    · have hnil : around up [] = [] := around_flatMap up (fun _ : Unit ↦ []) []
      rw [if_pos hs, if_pos hs, if_pos hs, tenantColumn_of_isSelect hs, Option.toList_none, hnil,
        List.append_nil, List.nil_append, List.append_nil]
      exact List.perm_append_comm
    · rw [if_neg hs, if_neg hs, if_neg hs, List.map_nil, List.nil_append]
      exact List.perm_append_comm_assoc _ _ _

/-- The first loop finds one target for every tenant table in a select. -/
theorem perm_collectTargets (e : Expression) :
    (collectTargets py schema (copy [] e)).Perm (owners py schema [] e) := by
  have h := @recorded_copy py schema [] e []
  rwa [around, List.find?_nil, Option.map_none, Option.getD_none, List.append_nil] at h

section Guard

variable (py tenantId)

def guardObject (select : RoseTree Object) (t : Target (List Nat)) : RoseTree Object :=
  addWhere Object.node (⟨none, ·⟩) (newPredicate py tenantId t.qualifier t.column) select

def guardAll (found : List (Target (List Nat))) (tree : RoseTree Object) : RoseTree Object :=
  RoseTree.fold (fun o us ↦
    (found.filter fun t ↦ o.id = some t.scope).foldl (guardObject py tenantId) (.node o us)) tree

end Guard

theorem guardAll_node (found : List (Target (List Nat))) (o : Object)
    (us : List (RoseTree Object)) :
    guardAll py tenantId found (.node o us) =
      (found.filter fun t ↦ o.id = some t.scope).foldl (guardObject py tenantId)
        (.node o (us.map (guardAll py tenantId found))) := RoseTree.fold_node _ o us

theorem guardAll_copy (found : List (Target (List Nat))) (path : List Nat) (l : Node)
    (ts : List Expression) :
    guardAll py tenantId found (copy path (.node l ts)) =
      (found.filter fun t ↦ path = t.scope).foldl (guardObject py tenantId)
        (.node ⟨some path, l⟩ (ts.zipIdx.map fun p ↦
          guardAll py tenantId found (copy (p.2 :: path) p.1))) := by
  rw [copy, guardAll_node, copyAll_eq, List.map_map]
  simp only [Option.some.injEq]
  rfl

theorem label_foldl_guardObject (found : List (Target (List Nat))) (tree : RoseTree Object) :
    (found.foldl (guardObject py tenantId) tree).label = tree.label := by
  induction found generalizing tree with
  | nil => rfl
  | cons t found ih =>
    rw [List.foldl_cons, ih]
    rfl

theorem guardAll_append_of_not_suffix {found : List (Target (List Nat))}
    {t : Target (List Nat)} {path : List Nat} {e : Expression} (h : ¬path <:+ t.scope) :
    guardAll py tenantId (found ++ [t]) (copy path e) =
      guardAll py tenantId found (copy path e) := by
  induction e using RoseTree.inductionOn generalizing path with
  | node l ts ih =>
    have hne : path ≠ t.scope := fun he ↦ h (he ▸ List.suffix_rfl)
    rw [guardAll_copy, guardAll_copy, List.filter_append]
    have hnone : ([t].filter fun t ↦ decide (path = t.scope)) = [] := by simp [hne]
    rw [hnone, List.append_nil]
    congr 2
    apply List.map_congr_left
    intro p hp
    apply ih _ (List.fst_mem_of_mem_zipIdx hp)
    exact fun hs ↦ h ((List.suffix_cons _ _).trans hs)

section Commute

variable {id : List Nat} {f : RoseTree Object → RoseTree Object}
  (hf : ∀ t, (f t).label = t.label)

theorem modify_node_of_ne {o : Object} (ho : o.id ≠ some id) (us : List (RoseTree Object)) :
    modify id f (.node o us) = .node o (us.map (modify id f)) := by
  rw [modify, if_neg ho, modifyAll_eq]

theorem modify_of_id {t : RoseTree Object} (ht : t.label.id = some id) :
    modify id f t = f t := by
  obtain ⟨o, us⟩ := t
  exact if_pos ht

theorem modify_newPredicate (qualifier column : String) (key : Arg) :
    modify id f (newPredicate py tenantId qualifier column key) =
      newPredicate py tenantId qualifier column key := by
  rw [newPredicate, buildPredicate, RoseTree.map_node, modify_node_of_ne (by simp)]
  simp [modify_node_of_ne]

include hf

theorem label_modify' (t : RoseTree Object) : (modify id f t).label = t.label := by
  obtain ⟨o, us⟩ := t
  rw [modify]
  split
  · exact hf _
  · rfl

theorem modify_wrapConnector (t : RoseTree Object) :
    modify id f (wrapConnector Object.node (⟨none, ·⟩) t) =
      wrapConnector Object.node (⟨none, ·⟩) (modify id f t) := by
  rw [wrapConnector, wrapConnector, label_modify' hf]
  split
  · rw [modify_node_of_ne (by simp)]
    rfl
  · rfl

theorem modify_conjoin (existing : Option (RoseTree Object)) (t : Target (List Nat)) :
    modify id f (conjoin Object.node (⟨none, ·⟩) existing
        (newPredicate py tenantId t.qualifier t.column)) =
      conjoin Object.node (⟨none, ·⟩) (existing.map (modify id f))
        (newPredicate py tenantId t.qualifier t.column) := by
  cases existing with
  | none => exact modify_newPredicate _ _ _
  | some c =>
    rw [Option.map_some, conjoin, conjoin, modify_node_of_ne (by simp), List.map_cons,
      List.map_singleton, modify_wrapConnector hf, modify_newPredicate]

def NotWhere (id : List Nat) (tree : RoseTree Object) : Prop :=
  ∀ c ∈ tree.children, c.label.node.key = .where_ → c.label.id ≠ some id

omit hf in
theorem NotWhere.guardObject {tree : RoseTree Object} (h : NotWhere id tree)
    (t : Target (List Nat)) : NotWhere id (guardObject py tenantId tree t) := by
  intro c hc hkey
  rw [Security.guardObject, addWhere] at hc
  rcases RoseTree.mem_children_setChild hc with rfl | hc
  · intro hid
    cases hid
  · exact h c hc hkey

theorem modify_guardObject {tree : RoseTree Object} (hid : tree.label.id ≠ some id)
    (hw : NotWhere id tree) (t : Target (List Nat)) :
    modify id f (guardObject py tenantId tree t) =
      guardObject py tenantId (modify id f tree) t := by
  obtain ⟨o, us⟩ := tree
  have hkey (k : Arg) (c : RoseTree Object) :
      (fun l : Object ↦ decide (l.node.key = k)) (modify id f c).label =
        (fun l : Object ↦ decide (l.node.key = k)) c.label := by
    rw [label_modify' hf]
  have hwhere : ((RoseTree.node o (us.map (modify id f))).child?
      fun l ↦ l.node.key = .where_) =
      ((RoseTree.node o us).child? fun l ↦ l.node.key = .where_).map (modify id f) :=
    RoseTree.child?_map_children (hkey .where_) o (.node o us)
  have hexisting : (((RoseTree.node o us).child? fun l ↦ l.node.key = .where_).bind fun w ↦
      w.child? fun l ↦ l.node.key = .this).map (modify id f) =
      ((RoseTree.node o (us.map (modify id f))).child? fun l ↦ l.node.key = .where_).bind
        fun w ↦ w.child? fun l ↦ l.node.key = .this := by
    rw [hwhere]
    cases hfind : (RoseTree.node o us).child? fun l ↦ l.node.key = .where_ with
    | none => rfl
    | some w =>
      obtain ⟨ow, ws⟩ := w
      have how : ow.id ≠ some id :=
        hw _ (List.mem_of_find?_eq_some hfind) (of_decide_eq_true (List.find?_some hfind :))
      rw [Option.map_some, Option.bind_some, Option.bind_some, modify_node_of_ne how]
      exact (RoseTree.child?_map_children (hkey .this) ow (.node ow ws)).symm
  have hset := RoseTree.setChild_map_children (p := fun l : Object ↦ l.node.key = .where_)
    (q := fun l : Object ↦ l.node.key = .where_) (hkey .where_) o (.node o us)
    (.node ⟨none, { key := .where_, type := .where_ }⟩
      [conjoin Object.node (⟨none, ·⟩)
        (((RoseTree.node o us).child? fun l ↦ l.node.key = .where_).bind fun w ↦
          w.child? fun l ↦ l.node.key = .this)
        (newPredicate py tenantId t.qualifier t.column)])
  rw [modify_node_of_ne (by simp), List.map_singleton, modify_conjoin hf, hexisting] at hset
  have ho : o.id ≠ some id := hid
  rw [modify_node_of_ne ho, Security.guardObject, Security.guardObject, addWhere, addWhere]
  refine Eq.trans ?_ hset.symm
  exact modify_node_of_ne ho _

end Commute

section Copy

variable {path : List Nat} {e : Expression}

theorem modify_foldl_guardObject {id : List Nat} {f : RoseTree Object → RoseTree Object}
    (hf : ∀ t, (f t).label = t.label) (found : List (Target (List Nat)))
    {tree : RoseTree Object} (hid : tree.label.id ≠ some id) (hw : NotWhere id tree) :
    modify id f (found.foldl (guardObject py tenantId) tree) =
      found.foldl (guardObject py tenantId) (modify id f tree) := by
  induction found generalizing tree with
  | nil => rfl
  | cons t found ih =>
    rw [List.foldl_cons, List.foldl_cons, ← modify_guardObject hf hid hw]
    exact ih hid (hw.guardObject t)

def Owned (py : Python) (schema : DatabaseSchema) (path : List Nat) (e : Expression)
    (t : Target (List Nat)) : Prop :=
  path <:+ t.scope → t ∈ owners py schema path e

theorem Owned.child {l : Node} {ts : List Expression} {t : Target (List Nat)}
    (h : Owned py schema path (.node l ts) t) {p : Expression × Nat} (hp : p ∈ ts.zipIdx) :
    Owned py schema (p.2 :: path) p.1 t := by
  intro hs
  rw [← filter_owners_child hp]
  exact List.mem_filter.mpr ⟨h ((List.suffix_cons _ _).trans hs), decide_eq_true hs⟩

theorem isSelect_of_mem_owners {t : Target (List Nat)}
    (h : t ∈ owners py schema t.scope e) : e.label.type.isSelect = true := by
  obtain ⟨l, ts⟩ := e
  have hmem : t ∈ (owners py schema t.scope (.node l ts)).filter fun u ↦ t.scope = u.scope :=
    List.mem_filter.mpr ⟨h, decide_eq_true rfl⟩
  rw [filter_owners_here, owned] at hmem
  by_contra hs
  rw [RoseTree.label_node] at hs
  rw [if_neg hs] at hmem
  cases hmem

theorem label_guardAll_copy (found : List (Target (List Nat))) :
    (guardAll py tenantId found (copy path e)).label = ⟨some path, e.label⟩ := by
  obtain ⟨l, ts⟩ := e
  rw [guardAll_copy, label_foldl_guardObject]
  rfl

theorem applyTarget_guardAll (hw : PlainWhere e) (found : List (Target (List Nat)))
    {t : Target (List Nat)} (ht : Owned py schema path e t) :
    applyTarget py tenantId (guardAll py tenantId found (copy path e)) t =
      guardAll py tenantId (found ++ [t]) (copy path e) := by
  have hf (tree : RoseTree Object) : (guardObject py tenantId tree t).label = tree.label := rfl
  induction e using RoseTree.inductionOn generalizing path with
  | node l ts ih =>
    rw [guardAll_copy, guardAll_copy, List.filter_append]
    by_cases hpath : path = t.scope
    · have hone : ([t].filter fun t ↦ decide (path = t.scope)) = [t] := by simp [hpath]
      have hchildren : (ts.zipIdx.map fun p ↦
          guardAll py tenantId (found ++ [t]) (copy (p.2 :: path) p.1)) =
          ts.zipIdx.map fun p ↦ guardAll py tenantId found (copy (p.2 :: path) p.1) := by
        apply List.map_congr_left
        intro p _
        apply guardAll_append_of_not_suffix
        rw [← hpath]
        exact not_cons_suffix _ _
      rw [hone, hchildren, List.foldl_append, List.foldl_cons, List.foldl_nil]
      apply modify_of_id
      rw [label_foldl_guardObject, hpath]
      rfl
    · have hnone : ([t].filter fun t ↦ decide (path = t.scope)) = [] := by simp [hpath]
      have hid : (⟨some path, l⟩ : Object).id ≠ some t.scope := fun he ↦ hpath (Option.some.inj he)
      have hnot : NotWhere t.scope (.node ⟨some path, l⟩ (ts.zipIdx.map fun p ↦
          guardAll py tenantId found (copy (p.2 :: path) p.1))) := by
        -- the scope of a target is a select
        intro c hc hkey hcid
        obtain ⟨p, hp, rfl⟩ := List.mem_map.mp hc
        rw [label_guardAll_copy] at hkey hcid
        have hmem := List.fst_mem_of_mem_zipIdx hp
        have hscope : p.2 :: path = t.scope := Option.some.inj hcid
        have howned := ht.child hp (hscope ▸ List.suffix_rfl)
        rw [hscope] at howned
        have hselect := isSelect_of_mem_owners howned
        rw [(hw _ (RoseTree.mem_walk_of_child hmem (RoseTree.self_mem_walk _)) hkey).1] at hselect
        cases hselect
      rw [hnone, List.append_nil, applyTarget]
      refine (@modify_foldl_guardObject py tenantId _ _ hf _ (.node ⟨some path, l⟩ _) hid hnot).trans ?_
      rw [modify_node_of_ne hid, List.map_map]
      congr 2
      apply List.map_congr_left
      intro p hp
      exact ih p.1 (List.fst_mem_of_mem_zipIdx hp)
        (hw.child (List.fst_mem_of_mem_zipIdx hp)) (ht.child hp)

theorem guardAll_nil (tree : RoseTree Object) : guardAll py tenantId [] tree = tree := by
  induction tree using RoseTree.inductionOn with
  | node o us ih =>
    rw [guardAll_node, List.map_congr_left ih, List.map_id']
    rfl

/-- The second loop adds to every select the predicates of its targets. -/
theorem foldl_applyTarget (hw : PlainWhere e) {found : List (Target (List Nat))}
    (hfound : ∀ t ∈ found, Owned py schema path e t) :
    found.foldl (applyTarget py tenantId) (copy path e) =
      guardAll py tenantId found (copy path e) := by
  induction found using List.reverseRecOn with
  | nil => exact (guardAll_nil _).symm
  | append_singleton found t ih =>
    rw [List.foldl_append, ih fun t ht ↦ hfound t (List.mem_append_left _ ht), List.foldl_cons,
      List.foldl_nil]
    exact applyTarget_guardAll hw found (hfound t (by simp))

end Copy

theorem map_node_conjoin (existing : Option (RoseTree Object))
    (predicate : Arg → RoseTree Object) :
    (conjoin Object.node (⟨none, ·⟩) existing predicate).map Object.node =
      conjoin id id (existing.map (RoseTree.map Object.node))
        fun k ↦ (predicate k).map Object.node := by
  cases existing with
  | none => rfl
  | some c =>
    have hwrap : (wrapConnector Object.node (⟨none, ·⟩) c).map Object.node =
        wrapConnector id id (c.map Object.node) := by
      rw [wrapConnector, wrapConnector, RoseTree.label_map]
      dsimp only [id]
      split
      · rw [RoseTree.map_node]
        rfl
      · rfl
    rw [Option.map_some, conjoin, conjoin, RoseTree.map_node, List.map_cons, List.map_singleton,
      hwrap]
    rfl

theorem map_node_guardObject (tree : RoseTree Object) (t : Target (List Nat)) :
    (guardObject py tenantId tree t).map Object.node =
      guardScope py tenantId (tree.map Object.node) (t.table, t.column) := by
  have hpredicate (key : Arg) :
      (newPredicate py tenantId t.qualifier t.column key).map Object.node =
        buildPredicate py tenantId t.qualifier t.column key := by
    rw [newPredicate, RoseTree.map_map]
    exact RoseTree.map_id _
  have hchild (c : RoseTree Object) (k : Arg) :
      ((c.map Object.node).child? fun l ↦ l.key = k) =
        (c.child? fun l ↦ l.node.key = k).map (RoseTree.map Object.node) :=
    RoseTree.child?_map (fun _ ↦ rfl) c
  have hexisting : (((tree.map Object.node).child? fun l ↦ l.key = .where_).bind fun w ↦
      w.child? fun l ↦ l.key = .this) =
      ((tree.child? fun l ↦ l.node.key = .where_).bind fun w ↦
        w.child? fun l ↦ l.node.key = .this).map (RoseTree.map Object.node) := by
    rw [hchild]
    cases tree.child? fun l ↦ l.node.key = .where_ with
    | none => rfl
    | some w => exact hchild w .this
  rw [guardObject, guardScope, addWhere, addWhere,
    RoseTree.map_setChild (p := fun l : Node ↦ l.key = .where_) fun _ ↦ rfl, RoseTree.map_node,
    List.map_singleton, map_node_conjoin, ← hexisting, funext hpredicate]
  rfl

theorem map_node_foldl_guardObject (found : List (Target (List Nat))) (tree : RoseTree Object) :
    (found.foldl (guardObject py tenantId) tree).map Object.node =
      (found.map fun t ↦ (t.table, t.column)).foldl (guardScope py tenantId)
        (tree.map Object.node) := by
  induction found generalizing tree with
  | nil => rfl
  | cons t found ih =>
    rw [List.foldl_cons, ih, map_node_guardObject, List.map_cons, List.foldl_cons]

theorem rewritten_guardAll {path : List Nat} {e : Expression} {found : List (Target (List Nat))}
    (hfound : (found.filter fun t ↦ path <:+ t.scope).Perm (owners py schema path e)) :
    Rewritten py schema tenantId e
      ((guardAll py tenantId found (copy path e)).map Object.node) := by
  induction e using RoseTree.inductionOn generalizing path with
  | node l ts ih =>
    rw [guardAll_copy, map_node_foldl_guardObject, RoseTree.map_node, List.map_map, Rewritten]
    refine ⟨_, _, rewrittenAll_iff.mpr ?_, ?_, rfl⟩
    · rw [← List.zipIdx_map_fst 0 ts, List.forall₂_map_left_iff, List.zipIdx_map_fst,
        List.forall₂_map_right_iff, List.forall₂_same]
      intro p hp
      apply ih _ (List.fst_mem_of_mem_zipIdx hp)
      rw [← filter_owners_child hp]
      refine List.Perm.trans (List.Perm.of_eq ?_) (hfound.filter _)
      rw [List.filter_filter]
      apply List.filter_congr
      intro t _
      have hsuffix : (p.2 :: path) <:+ t.scope → path <:+ t.scope :=
        (List.suffix_cons _ _).trans
      simpa using hsuffix
    · have hown := (hfound.filter fun t ↦ path = t.scope).map fun t ↦ (t.table, t.column)
      rw [filter_owners_here, List.map_map, List.filter_filter] at hown
      refine List.Perm.trans (List.Perm.of_eq ?_) (hown.trans (List.Perm.of_eq (List.map_id _)))
      congr 1
      apply List.filter_congr
      intro t _
      have hsuffix : path = t.scope → path <:+ t.scope := fun he ↦ he ▸ List.suffix_rfl
      simpa using hsuffix

/-- Rewriting adds to every select the predicates of the tenant tables that belong to it, and
nothing else. -/
theorem rewritten_rewrite {e : Expression} (hw : PlainWhere e) :
    Rewritten py schema tenantId e (rewrite py schema tenantId e).1 := by
  have hfound := @perm_collectTargets py schema e
  rw [rewrite_fst, rewriteObjects, foldl_applyTarget hw fun t ht _ ↦ hfound.mem_iff.mp ht]
  apply rewritten_guardAll
  rwa [List.filter_eq_self.mpr fun t _ ↦ decide_eq_true (List.nil_suffix)]

end TextToSql.Security
