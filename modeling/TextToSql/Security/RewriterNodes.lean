import TextToSql.Security.TenantScoping
import TextToSql.Sql.Stars

namespace TextToSql.Security

open Library Domain Sql

def Occurs (p : Node → Prop) (e : Expression) : Prop := ∃ n ∈ e.walk, p n.label

def OccursIn (kept : Arg → Prop) (p : Node → Prop) (e : Expression) : Prop :=
  p e.label ∨ ∃ c ∈ e.children, kept c.label.key ∧ Occurs p c

def predicateColumn (py : Python) (table : TableRef × String) : Node :=
  columnNode py table.1.aliasOrName table.2

def Conjoins (py : Python) (schema : DatabaseSchema) (select : Expression) : Prop :=
  owned py schema select.label select.children ≠ [] ∧
    2 ≤ (owned py schema select.label select.children).length +
      (condition select).toList.length

/-- The rewriting adds a column or an `AND` with the property to the select. -/
def AddedAt (py : Python) (schema : DatabaseSchema) (p : Node → Prop) (select : Expression) :
    Prop :=
  (∃ table ∈ owned py schema select.label select.children, p (predicateColumn py table)) ∨
    Conjoins py schema select ∧ p { type := .and_ }

def Added (py : Python) (schema : DatabaseSchema) (p : Node → Prop) (e : Expression) : Prop :=
  ∃ n ∈ e.walk, AddedAt py schema p n

def AddedIn (py : Python) (schema : DatabaseSchema) (kept : Arg → Prop) (p : Node → Prop)
    (e : Expression) : Prop :=
  AddedAt py schema p e ∨ ∃ c ∈ e.children, kept c.label.key ∧ Added py schema p c

/-- The other nodes that the rewriting adds do not have the property. -/
structure Overlooks (p : Node → Prop) : Prop where
  where_ : ¬p { key := .where_, type := .where_ }
  paren : ¬p { type := .paren }
  eq : ∀ key, ¬p { key, type := .eq }
  literal : ∀ key text isString, ¬p { key, type := .literal text isString }

/-- The node has at most one `WHERE`, which has one condition and not the property. -/
structure GuardReady (p : Node → Prop) (select : Expression) : Prop where
  single : (select.args .where_).length ≤ 1
  plain : ∀ w ∈ select.args .where_, ¬p w.label ∧ ∃ c, w.children = [c] ∧ c.label.key = .this

def SingleWhere (e : Expression) : Prop := ∀ n ∈ e.walk, (n.args .where_).length ≤ 1

instance (e : Expression) : Decidable (SingleWhere e) :=
  inferInstanceAs (Decidable (∀ n ∈ e.walk, _))

variable {py : Python} {schema : DatabaseSchema} {tenantId : String} {p : Node → Prop}
  {kept : Arg → Prop}

theorem occurs_node (l : Node) (ts : List Expression) :
    Occurs p (.node l ts) ↔ p l ∨ ∃ t ∈ ts, Occurs p t := by
  simp only [Occurs, Expression.walk, RoseTree.mem_walk_node]
  constructor
  · rintro ⟨n, rfl | ⟨t, ht, hn⟩, hp⟩
    · exact .inl hp
    · exact .inr ⟨t, ht, n, hn, hp⟩
  · rintro (hp | ⟨t, ht, n, hn, hp⟩)
    · exact ⟨_, .inl rfl, hp⟩
    · exact ⟨n, .inr ⟨t, ht, hn⟩, hp⟩

theorem added_node (l : Node) (ts : List Expression) :
    Added py schema p (.node l ts) ↔
      AddedAt py schema p (.node l ts) ∨ ∃ t ∈ ts, Added py schema p t := by
  simp only [Added, Expression.walk, RoseTree.mem_walk_node]
  constructor
  · rintro ⟨n, rfl | ⟨t, ht, hn⟩, hp⟩
    · exact .inl hp
    · exact .inr ⟨t, ht, n, hn, hp⟩
  · rintro (hp | ⟨t, ht, n, hn, hp⟩)
    · exact ⟨_, .inl rfl, hp⟩
    · exact ⟨n, .inr ⟨t, ht, hn⟩, hp⟩

theorem occursIn_all (e : Expression) : OccursIn (fun _ ↦ True) p e ↔ Occurs p e := by
  obtain ⟨l, ts⟩ := e
  rw [occurs_node, OccursIn]
  simp

theorem addedIn_all (e : Expression) :
    AddedIn py schema (fun _ ↦ True) p e ↔ Added py schema p e := by
  obtain ⟨l, ts⟩ := e
  rw [added_node, AddedIn]
  simp

section Guard

variable (hp : Overlooks p)

include hp

theorem occurs_buildPredicate (table : TableRef × String) (key : Arg) :
    Occurs p (buildPredicate py tenantId table.1.aliasOrName table.2 key) ↔
      p (predicateColumn py table) := by
  have hliteral := hp.literal .expression tenantId
    (!(tenantId ≠ "" && tenantId.toList.all py.isDigit))
  simp only [buildPredicate, occurs_node, List.exists_mem_cons_iff, List.not_mem_nil, false_and,
    exists_false, or_false, hp.eq, false_or]
  exact or_iff_left hliteral

theorem occurs_wrapConnector (c : Expression) :
    Occurs p (wrapConnector id id c) ↔ Occurs p c := by
  rw [wrapConnector]
  split
  · simp [occurs_node, hp.paren]
  · rfl

theorem occurs_conjoin (existing : Option Expression) (table : TableRef × String) :
    Occurs p (conjoin id id existing
        (buildPredicate py tenantId table.1.aliasOrName table.2)) ↔
      p (predicateColumn py table) ∨ ∃ c ∈ existing, p { type := .and_ } ∨ Occurs p c := by
  cases existing with
  | none => simp [conjoin, occurs_buildPredicate hp]
  | some c =>
    simp only [conjoin, occurs_node, List.exists_mem_cons_iff, List.not_mem_nil, false_and,
      exists_false, or_false, occurs_wrapConnector hp, occurs_buildPredicate hp, Option.mem_def,
      Option.some.injEq, exists_eq_left', id]
    tauto

theorem occurs_newWhere (select : Expression) (table : TableRef × String) :
    Occurs p (.node { key := .where_, type := .where_ } [conjoin id id (condition select)
        (buildPredicate py tenantId table.1.aliasOrName table.2)]) ↔
      p (predicateColumn py table) ∨ ∃ c ∈ condition select, p { type := .and_ } ∨ Occurs p c := by
  have hconjoin := @occurs_conjoin py tenantId p hp (condition select) table
  rw [occurs_node, ← hconjoin]
  simp [hp.where_]

end Guard

theorem arg_of_args {select w : Expression} {k : Arg} (h : select.args k = [w]) :
    select.arg k = some w := by
  rw [Expression.arg, RoseTree.child?, ← List.head?_filter]
  exact congrArg List.head? h

theorem condition_of_mem {select w c : Expression} (hr : (select.args .where_).length ≤ 1)
    (hw : w ∈ select.args .where_) (hc : w.children = [c]) (hkey : c.label.key = .this) :
    condition select = some c := by
  obtain ⟨x, hx⟩ : ∃ x, select.args .where_ = [x] :=
    List.length_eq_one_iff.mp (by
      have := List.length_pos_of_mem hw
      omega)
  obtain rfl : w = x := by
    rw [hx] at hw
    exact List.mem_singleton.mp hw
  rw [condition, arg_of_args hx, Option.bind_some, Expression.arg, RoseTree.child?, hc,
    List.find?_cons_of_pos (by simpa using hkey)]

theorem mem_of_condition {select c : Expression} (h : condition select = some c) :
    ∃ w ∈ select.args .where_, c ∈ w.children := by
  obtain ⟨w, hw, hc⟩ := Option.bind_eq_some_iff.mp h
  refine ⟨w, List.mem_filter.mpr ⟨List.mem_of_find?_eq_some hw, ?_⟩,
    List.mem_of_find?_eq_some hc⟩
  exact (List.find?_some hw :)

section Step

variable (hp : Overlooks p) (hkept : kept .where_) {select : Expression}
  (hr : GuardReady p select) (table : TableRef × String)

include hp hkept hr

theorem occursIn_guardScope :
    OccursIn kept p (guardScope py tenantId select table) ↔
      OccursIn kept p select ∨ p (predicateColumn py table) ∨
        (condition select).isSome = true ∧ p { type := .and_ } := by
  have hchildren (c : Expression) :
      c ∈ (guardScope py tenantId select table).children ↔
        c = .node { key := .where_, type := .where_ } [conjoin id id (condition select)
          (buildPredicate py tenantId table.1.aliasOrName table.2)] ∨
        c ∈ select.children ∧ c.label.key ≠ .where_ := by
    refine (RoseTree.mem_children_setChild_iff (p := fun l : Node ↦ l.key = .where_)
      (decide_eq_true rfl)).trans ?_
    rw [decide_eq_false_iff_not]
    rfl
  rw [OccursIn, OccursIn]
  constructor
  · rintro (hl | ⟨c, hc, hk, ho⟩)
    · exact .inl (.inl hl)
    · rcases (hchildren c).mp hc with rfl | ⟨hc, -⟩
      · rcases (occurs_newWhere hp select table).mp ho with hcol | ⟨c, hcond, hand | ho⟩
        · exact .inr (.inl hcol)
        · exact .inr (.inr ⟨Option.isSome_iff_exists.mpr ⟨c, hcond⟩, hand⟩)
        · obtain ⟨w, hw, hcw⟩ := mem_of_condition hcond
          obtain ⟨hwc, hwk⟩ := List.mem_filter.mp hw
          refine .inl (.inr ⟨w, hwc, of_decide_eq_true hwk ▸ hkept, ?_⟩)
          obtain ⟨lw, ws⟩ := w
          exact (occurs_node lw ws).mpr (.inr ⟨c, hcw, ho⟩)
      · exact .inl (.inr ⟨c, hc, hk, ho⟩)
  · have hnew {q : Prop} (h : q → p (predicateColumn py table) ∨
        ∃ c ∈ condition select, p { type := .and_ } ∨ Occurs p c) (hq : q) :
        p (guardScope py tenantId select table).label ∨
          ∃ c ∈ (guardScope py tenantId select table).children,
            kept c.label.key ∧ Occurs p c :=
      .inr ⟨_, (hchildren _).mpr (.inl rfl), hkept, (occurs_newWhere hp select table).mpr (h hq)⟩
    rintro ((hl | ⟨c, hc, hk, ho⟩) | hcol | ⟨hsome, hand⟩)
    · exact .inl hl
    · by_cases hkey : c.label.key = .where_
      · have hw : c ∈ select.args .where_ := List.mem_filter.mpr ⟨hc, decide_eq_true hkey⟩
        obtain ⟨hnot, d, hd, hdkey⟩ := hr.plain c hw
        have hcond := condition_of_mem hr.single hw hd hdkey
        obtain ⟨lw, ws⟩ := c
        rcases (occurs_node lw ws).mp ho with hlw | ⟨d', hd', ho⟩
        · exact absurd hlw hnot
        · rw [RoseTree.children_node] at hd
          rw [hd] at hd'
          obtain rfl := List.mem_singleton.mp hd'
          exact hnew (fun h ↦ .inr ⟨d', hcond, .inr h⟩) ho
      · exact .inr ⟨c, (hchildren c).mpr (.inr ⟨hc, hkey⟩), hk, ho⟩
    · exact hnew .inl hcol
    · obtain ⟨c, hc⟩ := Option.isSome_iff_exists.mp hsome
      exact hnew (fun h ↦ .inr ⟨c, hc, .inl h⟩) hand

omit hp hkept hr in
theorem condition_guardScope :
    (condition (guardScope py tenantId select table)).isSome = true := by
  have h := @condition_setArg select _ (@key_conjoin py tenantId (condition select) table)
  exact Option.isSome_iff_exists.mpr ⟨_, h⟩

omit hkept in
theorem guardReady_guardScope : GuardReady p (guardScope py tenantId select table) := by
  have hargs : (guardScope py tenantId select table).args .where_ =
      [.node { key := .where_, type := .where_ } [conjoin id id (condition select)
        (buildPredicate py tenantId table.1.aliasOrName table.2)]] :=
    RoseTree.filter_setChild_of_length_le (p := fun l : Node ↦ l.key = .where_)
      (decide_eq_true rfl) hr.single
  constructor
  · rw [hargs]
    exact Nat.le_refl 1
  · intro w hw
    rw [hargs] at hw
    obtain rfl := List.mem_singleton.mp hw
    exact ⟨hp.where_, _, rfl, key_conjoin _ table⟩

theorem occursIn_foldl_guardScope (tables : List (TableRef × String)) :
    OccursIn kept p (tables.foldl (guardScope py tenantId) select) ↔
      OccursIn kept p select ∨ (∃ table ∈ tables, p (predicateColumn py table)) ∨
        (tables ≠ [] ∧ 2 ≤ tables.length + (condition select).toList.length) ∧
          p { type := .and_ } := by
  induction tables generalizing select with
  | nil => simp
  | cons table tables ih =>
    rw [List.foldl_cons, ih (guardReady_guardScope hp hr table), occursIn_guardScope hp hkept hr]
    have hsome := @condition_guardScope py tenantId select table
    have hone : (condition (guardScope py tenantId select table)).toList.length = 1 := by
      obtain ⟨c, hc⟩ := Option.isSome_iff_exists.mp hsome
      rw [hc]
      rfl
    have hcount : (tables ≠ [] ∧ 2 ≤ tables.length + 1) ∨ (condition select).isSome = true ↔
        2 ≤ (table :: tables).length + (condition select).toList.length := by
      cases condition select <;> cases tables <;> simp
    rw [hone, List.exists_mem_cons_iff, ← hcount]
    simp only [ne_eq, reduceCtorEq, not_false_eq_true, true_and]
    grind

end Step

/-- What a property needs to be followed through the rewriting of a statement. -/
structure Followed (p : Node → Prop) (e : Expression) : Prop where
  overlooks : Overlooks p
  wheres : ∀ n ∈ e.walk, n.label.type = .where_ → ¬p n.label

theorem Followed.child {l : Node} {ts : List Expression} (h : Followed p (.node l ts))
    {t : Expression} (ht : t ∈ ts) : Followed p t :=
  ⟨h.overlooks, fun n hn ↦ h.wheres n (RoseTree.mem_walk_of_child ht hn)⟩

theorem SingleWhere.child {l : Node} {ts : List Expression} (h : SingleWhere (.node l ts))
    {t : Expression} (ht : t ∈ ts) : SingleWhere t :=
  fun n hn ↦ h n (RoseTree.mem_walk_of_child ht hn)

theorem rewritten_of_not_select {l : Node} {ts : List Expression} {e' : Expression}
    (hl : l.type.isSelect = false) (h : Rewritten py schema tenantId (.node l ts) e') :
    ∃ us, List.Forall₂ (Rewritten py schema tenantId) ts us ∧ e' = .node l us := by
  rw [Rewritten] at h
  obtain ⟨us, found, hus, hperm, rfl⟩ := h
  rw [owned, hl] at hperm
  obtain rfl := hperm.eq_nil
  exact ⟨us, rewrittenAll_iff.mp hus, rfl⟩

theorem forall₂_filter_label {R : Expression → Expression → Prop}
    (hR : ∀ t u, R t u → u.label = t.label) {ts us : List Expression} (h : List.Forall₂ R ts us)
    (p : Node → Bool) :
    List.Forall₂ R (ts.filter fun t ↦ p t.label) (us.filter fun u ↦ p u.label) := by
  induction h with
  | nil => exact .nil
  | cons ht _ ih =>
    rw [List.filter_cons, List.filter_cons, hR _ _ ht]
    split
    · exact .cons ht ih
    · exact ih

theorem forall₂_args {ts us : List Expression}
    (h : List.Forall₂ (Rewritten py schema tenantId) ts us) (k : Arg) :
    List.Forall₂ (Rewritten py schema tenantId) (ts.filter fun t ↦ t.label.key = k)
      (us.filter fun u ↦ u.label.key = k) :=
  forall₂_filter_label (fun _ _ h ↦ Rewritten.label h) h fun l ↦ decide (l.key = k)

theorem forall₂_imp_mem {α β : Type} {R S : α → β → Prop} {xs : List α} {ys : List β}
    (h : List.Forall₂ R xs ys) (hS : ∀ x ∈ xs, ∀ y, R x y → S x y) : List.Forall₂ S xs ys := by
  induction h with
  | nil => exact .nil
  | cons hx _ ih =>
    exact .cons (hS _ List.mem_cons_self _ hx) (ih fun x hm ↦ hS x (.tail _ hm))

theorem mem_of_forall₂ {α β : Type} {R : α → β → Prop} {xs : List α} {ys : List β}
    (h : List.Forall₂ R xs ys) {y : β} (hy : y ∈ ys) : ∃ x ∈ xs, R x y := by
  induction h with
  | nil => cases hy
  | cons hx _ ih =>
    rcases List.mem_cons.mp hy with rfl | hy
    · exact ⟨_, List.mem_cons_self, hx⟩
    · obtain ⟨x, hx, hr⟩ := ih hy
      exact ⟨x, .tail _ hx, hr⟩

section Root

variable {l : Node} {ts us : List Expression}
  (h : List.Forall₂ (Rewritten py schema tenantId) ts us) (hw : PlainWhere (.node l ts))
  (hs : SingleWhere (.node l ts))

include h hw

theorem where_rewritten {u : Expression} (hu : u ∈ Expression.args .where_ (.node l us)) :
    ∃ t ∈ Expression.args .where_ (.node l ts), u.label = t.label ∧ t.label.type = .where_ ∧
      (∃ d, t.children = [d] ∧ d.label.key = .this) ∧
        ∃ c, u.children = [c] ∧ c.label.key = .this := by
  obtain ⟨t, ht, hr⟩ := mem_of_forall₂ (forall₂_args h .where_) hu
  obtain ⟨hmem, hkey⟩ := List.mem_filter.mp ht
  obtain ⟨htype, d, hd, hdkey⟩ := hw t (RoseTree.mem_walk_of_child hmem (RoseTree.self_mem_walk t))
    (of_decide_eq_true hkey)
  obtain ⟨lw, ws⟩ := t
  rw [RoseTree.children_node] at hd
  subst hd
  obtain ⟨vs, hvs, rfl⟩ := rewritten_of_not_select (by rw [show lw.type = .where_ from htype]; rfl) hr
  obtain ⟨c, rfl, hc⟩ : ∃ c, vs = [c] ∧ Rewritten py schema tenantId d c := by
    cases hvs with
    | cons hc hrest =>
      cases hrest
      exact ⟨_, rfl, hc⟩
  exact ⟨_, ht, rfl, htype, ⟨d, rfl, hdkey⟩, c, rfl, hc.label ▸ hdkey⟩

theorem condition_rewritten :
    (condition (.node l us)).toList.length = (condition (.node l ts)).toList.length := by
  have hargs := forall₂_args h .where_
  have hhas {vs : List Expression} {w : Expression} {rest : List Expression}
      (hv : Expression.args .where_ (.node l vs) = w :: rest)
      (hc : ∃ c, w.children = [c] ∧ c.label.key = .this) :
      (condition (.node l vs)).toList.length = 1 := by
    obtain ⟨c, hc, hkey⟩ := hc
    have harg : Expression.arg .where_ (.node l vs) = some w := by
      rw [Expression.arg, RoseTree.child?, ← List.head?_filter]
      exact congrArg List.head? hv
    rw [condition, harg, Option.bind_some, Expression.arg, RoseTree.child?, hc,
      List.find?_cons_of_pos (by simpa using hkey)]
    rfl
  have hnone {vs : List Expression} (hv : Expression.args .where_ (.node l vs) = []) :
      condition (.node l vs) = none := by
    have harg : Expression.arg .where_ (.node l vs) = none := by
      rw [Expression.arg, RoseTree.child?, ← List.head?_filter]
      exact congrArg List.head? hv
    rw [condition, harg, Option.bind_none]
  cases hus : Expression.args .where_ (.node l us) with
  | nil =>
    have hts : Expression.args .where_ (.node l ts) = [] := by
      have hlen := hargs.length_eq
      rw [show us.filter _ = [] from hus] at hlen
      exact List.eq_nil_of_length_eq_zero hlen
    rw [hnone hus, hnone hts]
  | cons u rest =>
    obtain ⟨t, ht, -, -, hd, hc⟩ := where_rewritten h hw (hus ▸ List.mem_cons_self)
    rw [hhas hus hc]
    cases hts : Expression.args .where_ (.node l ts) with
    | nil =>
      rw [hts] at ht
      cases ht
    | cons t' rest' =>
      have hmem : t' ∈ ts.filter fun t ↦ decide (t.label.key = .where_) :=
        (show ts.filter _ = t' :: rest' from hts) ▸ List.mem_cons_self
      obtain ⟨hmem, hkey⟩ := List.mem_filter.mp hmem
      exact (hhas hts (hw t' (RoseTree.mem_walk_of_child hmem (RoseTree.self_mem_walk t'))
        (of_decide_eq_true hkey)).2).symm

include hs

theorem guardReady_rewritten (hp : Followed p (.node l ts)) : GuardReady p (.node l us) where
  single := by
    have hlen := (forall₂_args h .where_).length_eq
    exact hlen.symm.trans_le (hs _ (RoseTree.self_mem_walk _))
  plain := by
    intro u hu
    obtain ⟨t, ht, hlabel, htype, -, hc⟩ := where_rewritten h hw hu
    refine ⟨?_, hc⟩
    rw [hlabel]
    exact hp.wheres t (RoseTree.mem_walk_of_child (List.mem_filter.mp ht).1
      (RoseTree.self_mem_walk t)) htype

end Root

theorem occurs_children (kept : Arg → Prop) {ts us : List Expression}
    (h : List.Forall₂ (Rewritten py schema tenantId) ts us)
    (hstep : ∀ t ∈ ts, ∀ u, Rewritten py schema tenantId t u →
      (Occurs p u ↔ Occurs p t ∨ Added py schema p t)) :
    (∃ u ∈ us, kept u.label.key ∧ Occurs p u) ↔
      (∃ t ∈ ts, kept t.label.key ∧ Occurs p t) ∨
        ∃ t ∈ ts, kept t.label.key ∧ Added py schema p t := by
  induction h with
  | nil => simp
  | cons ht _ ih =>
    have hrest := ih fun t ht ↦ hstep t (.tail _ ht)
    have hone := hstep _ List.mem_cons_self _ ht
    rw [List.exists_mem_cons_iff, List.exists_mem_cons_iff, List.exists_mem_cons_iff, hrest,
      ht.label, hone, and_or_left]
    exact or_or_or_comm

/-- The nodes of a rewritten statement are the nodes of the statement and those of the
predicates. -/
theorem occursIn_rewritten {e e' : Expression} (h : Rewritten py schema tenantId e e')
    (hp : Followed p e) (hw : PlainWhere e) (hs : SingleWhere e) (hkept : kept .where_) :
    OccursIn kept p e' ↔ OccursIn kept p e ∨ AddedIn py schema kept p e := by
  induction e using RoseTree.inductionOn generalizing e' kept with
  | node l ts ih =>
    rw [Rewritten] at h
    obtain ⟨us, found, hus, hperm, rfl⟩ := h
    rw [rewrittenAll_iff] at hus
    have hready := guardReady_rewritten hus hw hs hp
    rw [occursIn_foldl_guardScope hp.overlooks hkept hready, condition_rewritten hus hw]
    have hadded : AddedAt py schema p (.node l ts) ↔
        (∃ table ∈ found, p (predicateColumn py table)) ∨
          (found ≠ [] ∧ 2 ≤ found.length + (condition (.node l ts)).toList.length) ∧
            p { type := .and_ } := by
      have hnil : owned py schema l ts = [] ↔ found = [] := by
        constructor
        · intro h
          exact (h ▸ hperm).eq_nil
        · intro h
          exact (h ▸ hperm.symm).eq_nil
      simp only [AddedAt, Conjoins, RoseTree.label_node, RoseTree.children_node, hperm.mem_iff,
        hperm.length_eq, ne_eq, hnil]
    have hchildren := occurs_children kept hus fun t ht u hr ↦ by
      rw [← occursIn_all, ← occursIn_all, ← addedIn_all]
      exact ih t ht hr (hp.child ht) (hw.child ht) (hs.child ht) trivial
    rw [OccursIn, OccursIn, AddedIn, hadded, RoseTree.label_node, RoseTree.label_node,
      RoseTree.children_node, RoseTree.children_node, hchildren]
    have hswap {a b c d : Prop} : (a ∨ b ∨ c) ∨ d ↔ (a ∨ b) ∨ d ∨ c := by tauto
    exact hswap

theorem showsStar_setChild {e value : Expression} {q : Node → Bool}
    (hv : showsStar value = false) (h : showsStar (e.setChild q value) = true) :
    showsStar e = true := by
  obtain ⟨l, ts⟩ := e
  change showsStar (.node l ((RoseTree.node l ts).setChild q value).children) = true at h
  rw [showsStar_node] at h ⊢
  refine h.imp_right (And.imp_right ?_)
  rintro ⟨t, ht, hstar⟩
  rcases RoseTree.mem_children_setChild ht with rfl | ht
  · rw [hv] at hstar
    cases hstar
  · exact ⟨t, ht, hstar⟩

theorem showsStar_guardScope (select : Expression) (table : TableRef × String)
    (h : showsStar (guardScope py tenantId select table) = true) : showsStar select = true := by
  rw [guardScope, addWhere] at h
  refine showsStar_setChild ?_ h
  rw [← Bool.not_eq_true]
  change ¬showsStar (.node _ [conjoin id id (condition select) _]) = true
  cases condition select <;>
    simp [conjoin, buildPredicate, columnNode, showsStar_node, tenantLiteral, NodeType.isFunc]

theorem showsStar_rewritten {e e' : Expression} (h : Rewritten py schema tenantId e e')
    (hstar : showsStar e' = true) : showsStar e = true := by
  induction e using RoseTree.inductionOn generalizing e' with
  | node l ts ih =>
    rw [Rewritten] at h
    obtain ⟨us, found, hus, -, rfl⟩ := h
    have hroot : showsStar (.node l us) = true := by
      clear hus
      induction found using List.reverseRecOn with
      | nil => exact hstar
      | append_singleton found table ihf =>
        rw [List.foldl_append] at hstar
        exact ihf (showsStar_guardScope _ table hstar)
    rw [showsStar_node] at hroot ⊢
    refine hroot.imp_right (And.imp_right ?_)
    rintro ⟨u, hu, hstar⟩
    obtain ⟨t, ht, hr⟩ := mem_of_forall₂ (rewrittenAll_iff.mp hus) hu
    exact ⟨t, ht, ih t ht hr hstar⟩

theorem showsStar_setLimit {e : Expression} {maxRows : Nat}
    (h : showsStar (setLimit e maxRows) = true) : showsStar e = true := by
  rw [setLimit, Expression.setArg] at h
  refine showsStar_setChild ?_ h
  rw [← Bool.not_eq_true]
  simp [limitNode, showsStar_node]

def Replaces (e : Expression) (maxRows : Nat) : Prop :=
  isQuery e.label.type = true ∧ ∀ current ∈ limitValue (e.arg .limit), maxRows < current

instance (e : Expression) (maxRows : Nat) : Decidable (Replaces e maxRows) :=
  inferInstanceAs (Decidable (_ ∧ _))

def keptArg (e : Expression) (maxRows : Nat) (k : Arg) : Prop := Replaces e maxRows → k ≠ .limit

theorem enforceLimit_replaces {e : Expression} {maxRows : Nat} (h : Replaces e maxRows) :
    (enforceLimit e maxRows).expression = setLimit e maxRows := by
  obtain ⟨hq, hall⟩ := h
  rw [enforceLimit, if_pos hq]
  split
  · rfl
  · rename_i current hc
    rw [if_pos (hall current hc)]

theorem enforceLimit_leaves {e : Expression} {maxRows : Nat} (h : ¬Replaces e maxRows) :
    (enforceLimit e maxRows).expression = e := by
  unfold enforceLimit
  split
  · rename_i hq
    split
    · rename_i hnone
      exact absurd ⟨hq, fun current hc ↦ by rw [hnone] at hc; cases hc⟩ h
    · rename_i current hc
      split
      · rename_i hlt
        refine absurd ⟨hq, fun other ho ↦ ?_⟩ h
        rw [hc] at ho
        exact Option.some.inj ho ▸ hlt
      · rfl
  · rfl

theorem replaces_rewrite {e : Expression} {maxRows : Nat} :
    Replaces (rewrite py schema tenantId e).1 maxRows ↔ Replaces e maxRows := by
  rw [Replaces, Replaces, limitValue_rewrite, label_rewrite]

theorem occurs_setLimit (hp : Overlooks p) (hlimit : ¬p { key := .limit, type := .limit })
    (e : Expression) (maxRows : Nat) :
    Occurs p (setLimit e maxRows) ↔ OccursIn (· ≠ .limit) p e := by
  have hnode : ¬Occurs p (limitNode maxRows) := by
    simp [limitNode, occurs_node, hlimit, hp.literal]
  have hchildren (c : Expression) : c ∈ (setLimit e maxRows).children ↔
      c = limitNode maxRows ∨ c ∈ e.children ∧ c.label.key ≠ .limit := by
    refine (RoseTree.mem_children_setChild_iff (p := fun l : Node ↦ l.key = .limit)
      (decide_eq_true rfl)).trans ?_
    rw [decide_eq_false_iff_not]
  rw [← occursIn_all, OccursIn, OccursIn]
  refine or_congr_right ⟨?_, ?_⟩
  · rintro ⟨c, hc, -, ho⟩
    rcases (hchildren c).mp hc with rfl | ⟨hc, hkey⟩
    · exact absurd ho hnode
    · exact ⟨c, hc, hkey, ho⟩
  · rintro ⟨c, hc, hkey, ho⟩
    exact ⟨c, (hchildren c).mpr (.inr ⟨hc, hkey⟩), trivial, ho⟩

/-- The nodes of the statement that is sent to the database. -/
theorem occurs_final {e : Expression} (hp : Followed p e)
    (hlimit : ¬p { key := .limit, type := .limit }) (hw : PlainWhere e) (hs : SingleWhere e)
    (maxRows : Nat) :
    Occurs p (enforceLimit (rewrite py schema tenantId e).1 maxRows).expression ↔
      OccursIn (keptArg e maxRows) p e ∨ AddedIn py schema (keptArg e maxRows) p e := by
  have hr := @rewritten_rewrite py schema tenantId e hw
  by_cases h : Replaces e maxRows
  · have hkept : keptArg e maxRows = (· ≠ .limit) := by
      funext k
      simp [keptArg, h]
    rw [enforceLimit_replaces (replaces_rewrite.mpr h), occurs_setLimit hp.overlooks hlimit,
      hkept]
    exact occursIn_rewritten hr hp hw hs (by decide)
  · have hkept : keptArg e maxRows = fun _ ↦ True := by
      funext k
      simp [keptArg, h]
    rw [enforceLimit_leaves (replaces_rewrite.not.mpr h), ← occursIn_all, hkept]
    exact occursIn_rewritten hr hp hw hs trivial

theorem showsStar_final {e : Expression} (hw : PlainWhere e) (maxRows : Nat)
    (h : showsStar (enforceLimit (rewrite py schema tenantId e).1 maxRows).expression = true) :
    showsStar e = true := by
  apply showsStar_rewritten (rewritten_rewrite hw)
  by_cases hr : Replaces (rewrite py schema tenantId e).1 maxRows
  · rw [enforceLimit_replaces hr] at h
    exact showsStar_setLimit h
  · rwa [enforceLimit_leaves hr] at h

end TextToSql.Security
