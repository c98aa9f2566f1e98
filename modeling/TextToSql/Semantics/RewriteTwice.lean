import TextToSql.Semantics.TenantExactness
import TextToSql.Semantics.Truncation

namespace TextToSql.Semantics

open Library Domain Sql Security Infrastructure Application

variable {V : Type} {ops : Operations V} {py : Python} {schema : DatabaseSchema}
  {tenantId : String} {database : Database V}

/-- What the function collects from a condition is what it collects from the `WHERE` around it, and
it collects nothing from an injected predicate. -/
structure PassesPredicates {α : Type} (py : Python) (tenantId : String)
    (f : Expression → List α) : Prop where
  where_ : ∀ (w : Node) (c : Expression), w.type = .where_ → c.label.key = .this →
    ∀ x, x ∈ f (.node w [c]) ↔ x ∈ f c
  conjunction : ∀ a b x, x ∈ f (.node { type := .and_ } [a, b]) → x ∈ f a ∨ x ∈ f b
  paren : ∀ c x, x ∈ f (.node { type := .paren } [c]) → x ∈ f c
  predicate : ∀ (table : TableRef × String) (key : Arg), key ≠ .where_ →
    f (buildPredicate py tenantId table.1.aliasOrName table.2 key) = []

section Collected

variable {α : Type} {f : Expression → List α} (hf : PassesPredicates py tenantId f)

include hf

theorem mem_conjoin {existing : Option Expression} {table : TableRef × String} {x : α}
    (h : x ∈ f (conjoin id id existing (buildPredicate py tenantId table.1.aliasOrName table.2))) :
    ∃ c ∈ existing, x ∈ f c := by
  cases existing with
  | none =>
    rw [conjoin, hf.predicate table .this (by decide)] at h
    cases h
  | some c =>
    rcases hf.conjunction _ _ x h with h | h
    · refine ⟨c, rfl, ?_⟩
      rw [wrapConnector] at h
      split at h
      · exact hf.paren c x h
      · exact h
    · rw [hf.predicate table .expression (by decide)] at h
      cases h

theorem mem_guardScope {select c : Expression} {table : TableRef × String} {x : α}
    (hplain : PlainChildren select.children)
    (hc : c ∈ (guardScope py tenantId select table).children) (hx : x ∈ f c) :
    ∃ c' ∈ select.children, x ∈ f c' := by
  rw [guardScope_eq] at hc
  rcases RoseTree.mem_children_setChild hc with rfl | hc
  · have hkey : (conjoin id id ((select.arg .where_).bind (Expression.arg .this))
        (buildPredicate py tenantId table.1.aliasOrName table.2)).label.key = .this := by
      cases (select.arg .where_).bind (Expression.arg .this) <;> rfl
    have hconjoin := (hf.where_ _ _ rfl hkey x).mp hx
    obtain ⟨condition, hcondition, hx⟩ := mem_conjoin hf hconjoin
    obtain ⟨w, hw, hthis⟩ := Option.bind_eq_some_iff.mp hcondition
    have hmem : w ∈ select.children := List.mem_of_find?_eq_some hw
    obtain ⟨htype, d, hd, hdkey⟩ := hplain w hmem (of_decide_eq_true (List.find?_some hw :))
    obtain ⟨lw, ws⟩ := w
    obtain rfl : ws = [d] := hd
    have hfind : [d].find? (fun t ↦ decide (t.label.key = .this)) = some condition := hthis
    obtain rfl : condition = d := List.mem_singleton.mp (List.mem_of_find?_eq_some hfind)
    exact ⟨_, hmem, (hf.where_ lw condition htype hdkey x).mpr hx⟩
  · exact ⟨c, hc, hx⟩

theorem mem_foldl_guardScope (found : List (TableRef × String)) {select c : Expression} {x : α}
    (hplain : PlainChildren select.children)
    (hc : c ∈ (found.foldl (guardScope py tenantId) select).children) (hx : x ∈ f c) :
    ∃ c' ∈ select.children, x ∈ f c' := by
  induction found generalizing select with
  | nil => exact ⟨c, hc, hx⟩
  | cons table found ih =>
    obtain ⟨d, hd, hxd⟩ := ih (plainChildren_guardScope hplain table) hc
    exact mem_guardScope hf hplain hd hxd

end Collected

theorem passes_filter_walk {p : Expression → Bool}
    (hwhere : ∀ w c, w.type = .where_ → c.label.key = .this → p (.node w [c]) = false)
    (hand : ∀ a b, p (.node { type := .and_ } [a, b]) = false)
    (hparen : ∀ c, p (.node { type := .paren } [c]) = false)
    (hpredicate : ∀ (table : TableRef × String) key, key ≠ .where_ →
      ∀ n ∈ (buildPredicate py tenantId table.1.aliasOrName table.2 key).walk, p n = false) :
    PassesPredicates py tenantId fun e ↦ e.walk.filter p where
  where_ w c hw hc x := by
    simp only [List.mem_filter, Expression.walk, RoseTree.mem_walk_node]
    constructor
    · rintro ⟨rfl | ⟨t, ht, hx⟩, hp⟩
      · rw [hwhere w c hw hc] at hp
        cases hp
      · rw [List.mem_singleton.mp ht] at hx
        exact ⟨hx, hp⟩
    · rintro ⟨hx, hp⟩
      exact ⟨.inr ⟨c, List.mem_cons_self, hx⟩, hp⟩
  conjunction a b x hx := by
    simp only [List.mem_filter, Expression.walk, RoseTree.mem_walk_node] at hx ⊢
    obtain ⟨rfl | ⟨t, ht, hx⟩, hp⟩ := hx
    · rw [hand] at hp
      cases hp
    · rcases List.mem_cons.mp ht with rfl | ht
      · exact .inl ⟨hx, hp⟩
      · rw [List.mem_singleton.mp ht] at hx
        exact .inr ⟨hx, hp⟩
  paren c x hx := by
    simp only [List.mem_filter, Expression.walk, RoseTree.mem_walk_node] at hx ⊢
    obtain ⟨rfl | ⟨t, ht, hx⟩, hp⟩ := hx
    · rw [hparen] at hp
      cases hp
    · rw [List.mem_singleton.mp ht] at hx
      exact ⟨hx, hp⟩
  predicate table key hkey := by
    rw [List.filter_eq_nil_iff]
    intro n hn
    rw [hpredicate table key hkey n hn]
    exact Bool.false_ne_true

theorem walk_buildPredicate (table : TableRef × String) (key : Arg) {n : Expression}
    (hn : n ∈ (buildPredicate py tenantId table.1.aliasOrName table.2 key).walk) :
    n.label = { key, type := .eq } ∨
      n.label.key ≠ .where_ ∧ n.label.type.isSelect = false := by
  simp only [buildPredicate, Expression.walk, RoseTree.mem_walk_node, List.mem_cons,
    List.not_mem_nil, or_false, exists_eq_or_imp, exists_eq_left, false_and, exists_false] at hn
  rcases hn with rfl | rfl | rfl
  · exact .inl rfl
  · exact .inr ⟨Arg.noConfusion, rfl⟩
  · exact .inr ⟨Arg.noConfusion, rfl⟩

theorem passes_exposed : PassesPredicates py tenantId (exposed py schema) where
  where_ w c hw _ x := by
    rw [exposed_node, hw]
    simp [tenantColumn, NodeType.tableRef, NodeType.isSelect]
  conjunction a b x hx := by
    rw [exposed_node] at hx
    simpa [tenantColumn, NodeType.tableRef, NodeType.isSelect] using hx
  paren c x hx := by
    rw [exposed_node] at hx
    simpa [tenantColumn, NodeType.tableRef, NodeType.isSelect] using hx
  predicate table key _ := by
    rw [buildPredicate, exposed_node]
    simp [columnNode, tenantColumn, NodeType.tableRef, NodeType.isSelect, exposed_node,
      tenantLiteral]

theorem passes_selects :
    PassesPredicates py tenantId fun e ↦ e.walk.filter fun n ↦ n.label.type.isSelect := by
  apply passes_filter_walk
  · intro w c hw _
    rw [RoseTree.label_node, hw]
    rfl
  · exact fun _ _ ↦ rfl
  · exact fun _ ↦ rfl
  · intro table key _ n hn
    rcases walk_buildPredicate table key hn with h | ⟨-, h⟩
    · rw [h]
      rfl
    · exact h

theorem exposed_rewritten {e e' : Expression} (h : Rewritten py schema tenantId e e') :
    exposed py schema e' ⊆ exposed py schema e := by
  induction e using RoseTree.inductionOn generalizing e' with
  | node l ts ih =>
    by_cases hs : l.type.isSelect = true
    · have hlabel := h.label
      obtain ⟨l', us⟩ := e'
      obtain rfl : l' = l := hlabel
      rw [exposed_node, exposed_node, if_pos hs, if_pos hs]
      exact List.Subset.refl _
    · obtain ⟨us, hus, rfl⟩ := rewritten_of_not_select (by simpa using hs) h
      rw [exposed_node, exposed_node, if_neg hs, if_neg hs]
      intro x hx
      rw [List.mem_append, List.mem_flatMap] at hx ⊢
      refine hx.imp_right ?_
      rintro ⟨u, hu, hx⟩
      obtain ⟨t, ht, hr⟩ := mem_of_forall₂ hus hu
      exact ⟨t, ht, ih t ht hr hx⟩

/-- A select of a rewritten statement has the predicates of its tables. -/
theorem guarded_of_mem_walk {e e' n : Expression} (h : Rewritten py schema tenantId e e')
    (hw : PlainWhere e) (hn : n ∈ e'.walk) (hs : n.label.type.isSelect = true) :
    ∃ (l : Node) (us : List Expression) (found : List (TableRef × String)), PlainChildren us ∧
      n = found.foldl (guardScope py tenantId) (.node l us) ∧
      owned py schema n.label n.children ⊆ found := by
  induction e using RoseTree.inductionOn generalizing e' with
  | node l ts ih =>
    rw [Rewritten] at h
    obtain ⟨us, found, hus, hfound, rfl⟩ := h
    rw [rewrittenAll_iff] at hus
    have hplain := plainChildren_rewritten hus (plainChildren_of_plainWhere hw)
    have hparts : PlainChildren (RoseTree.node l us).children := hplain
    have hlabel := @label_foldl_guardScope py tenantId found (.node l us)
    have hselects {c : Expression} (hc : c ∈ (found.foldl (guardScope py tenantId)
        (.node l us)).children) (hnc : n ∈ c.walk) : ∃ c' ∈ us, n ∈ c'.walk := by
      obtain ⟨c', hc', hn'⟩ := mem_foldl_guardScope passes_selects found
        hparts hc (List.mem_filter.mpr ⟨hnc, hs⟩)
      exact ⟨c', hc', (List.mem_filter.mp hn').1⟩
    have hexposed {c : Expression} {x : TableRef × String}
        (hc : c ∈ (found.foldl (guardScope py tenantId) (.node l us)).children)
        (hx : x ∈ exposed py schema c) : ∃ c' ∈ us, x ∈ exposed py schema c' :=
      mem_foldl_guardScope passes_exposed found hparts hc hx
    generalize hselect : found.foldl (guardScope py tenantId) (.node l us) = select at *
    obtain ⟨l', cs⟩ := select
    obtain rfl : l' = l := hlabel
    rcases (RoseTree.mem_walk_node l' cs).mp hn with rfl | ⟨c, hc, hnc⟩
    · refine ⟨l', us, found, hplain, hselect.symm, ?_⟩
      intro x hx
      rw [owned, if_pos hs, List.mem_flatMap] at hx
      obtain ⟨c, hc, hx⟩ := hx
      obtain ⟨u, hu, hxu⟩ := hexposed hc hx
      obtain ⟨t, ht, hr⟩ := mem_of_forall₂ hus hu
      rw [hfound.mem_iff, owned, if_pos (by exact hs)]
      exact List.mem_flatMap.mpr ⟨t, ht, exposed_rewritten hr hxu⟩
    · obtain ⟨u, hu, hnu⟩ := hselects hc hnc
      obtain ⟨t, ht, hr⟩ := mem_of_forall₂ hus hu
      exact ih t ht hr (hw.child ht) hnu

theorem hasPlainWhere_iff (n : Expression) : hasPlainWhere n = true ↔
    (n.label.key = .where_ →
      n.label.type = .where_ ∧ ∃ c, n.children = [c] ∧ c.label.key = .this) := by
  rw [hasPlainWhere, Bool.or_eq_true, Bool.and_eq_true, decide_eq_true_eq, decide_eq_true_eq,
    ne_eq, ← imp_iff_not_or]
  refine imp_congr_right fun _ ↦ and_congr_right fun _ ↦ ?_
  rcases n.children with _ | ⟨c, _ | ⟨c', cs⟩⟩
  · simp
  · simp
  · simp

theorem passes_misplaced :
    PassesPredicates py tenantId fun e ↦ e.walk.filter fun n ↦ !hasPlainWhere n := by
  apply passes_filter_walk
  · intro w c hw hc
    rw [Bool.not_eq_false', hasPlainWhere_iff]
    exact fun _ ↦ ⟨hw, c, rfl, hc⟩
  · exact fun _ _ ↦ rfl
  · exact fun _ ↦ rfl
  · intro table key hkey n hn
    rw [Bool.not_eq_false', hasPlainWhere_iff]
    rcases walk_buildPredicate table key hn with h | ⟨h, -⟩
    · rw [h]
      exact fun hwhere ↦ absurd hwhere hkey
    · exact fun hwhere ↦ absurd hwhere h

theorem plainWhere_rewritten {e e' : Expression} (h : Rewritten py schema tenantId e e')
    (hw : PlainWhere e) : PlainWhere e' := by
  induction e using RoseTree.inductionOn generalizing e' with
  | node l ts ih =>
    have hroot := plainChildren_rewritten (.cons h .nil)
      (fun t ht ↦ List.mem_singleton.mp ht ▸ hw _ (RoseTree.self_mem_walk _)) e'
      List.mem_cons_self
    rw [Rewritten] at h
    obtain ⟨us, found, hus, hfound, rfl⟩ := h
    rw [rewrittenAll_iff] at hus
    have hparts : PlainChildren (RoseTree.node l us).children :=
      plainChildren_rewritten hus (plainChildren_of_plainWhere hw)
    intro n hn
    rw [← hasPlainWhere_iff]
    by_contra hbad
    have hchildren {c : Expression} (hc : c ∈ (found.foldl (guardScope py tenantId)
        (.node l us)).children) (hnc : n ∈ c.walk) : False := by
      obtain ⟨c', hc', hn'⟩ := mem_foldl_guardScope passes_misplaced found
        hparts hc (List.mem_filter.mpr ⟨hnc, by simpa using hbad⟩)
      obtain ⟨t, ht, hr⟩ := mem_of_forall₂ hus hc'
      exact hbad ((hasPlainWhere_iff n).mpr
        (ih t ht hr (hw.child ht) n (List.mem_filter.mp hn').1))
    generalize found.foldl (guardScope py tenantId) (.node l us) = select at *
    obtain ⟨l', cs⟩ := select
    rcases (RoseTree.mem_walk_node l' cs).mp hn with rfl | ⟨c, hc, hnc⟩
    · exact hbad ((hasPlainWhere_iff _).mpr hroot)
    · exact hchildren hc hnc

/-- The condition of a select contains the predicates of its tables. -/
def Guarded (ops : Operations V) (py : Python) (schema : DatabaseSchema) (tenantId : String)
    (database : Database V) (select : Expression) : Prop :=
  ∀ ctes env, whereHolds ops schema database ctes env select = true →
    ∀ table ∈ owned py schema select.label select.children,
      guardHolds ops py schema tenantId table env = true

theorem lossless_of_guarded {e : Expression}
    (h : ∀ n ∈ e.walk, n.label.type.isSelect = true →
      Guarded ops py schema tenantId database n) (ctes : Ctes V) :
    Lossless ops schema database py tenantId e ctes := by
  intro n inner hmeets
  by_cases hs : n.label.type.isSelect = true
  · have hguarded := h n hmeets.mem_walk hs
    obtain ⟨l, ts⟩ := n
    intro env frame hpassing table htable
    have hpasses := hpassing.2
    rw [passes_eq _ _ l] at hpasses
    exact hguarded _ _ hpasses table htable
  · exact losesNone_of_not_select (by simpa using hs)

theorem guarded_rewritten (hops : ops.Lawful) {e e' : Expression}
    (h : Rewritten py schema tenantId e e') (hw : PlainWhere e) :
    ∀ n ∈ e'.walk, n.label.type.isSelect = true → Guarded ops py schema tenantId database n := by
  intro n hn hs ctes env hholds table htable
  obtain ⟨l, us, found, hplain, rfl, howned⟩ := guarded_of_mem_walk h hw hn hs
  have hparts : PlainChildren (RoseTree.node l us).children := hplain
  rw [whereHolds_foldl hops ctes env found hparts, Bool.and_eq_true, List.all_eq_true] at hholds
  exact hholds.2 table (howned htable)

theorem mem_children_setLimit {e c : Expression} {maxRows : Nat}
    (hc : c ∈ (setLimit e maxRows).children) : c = limitNode maxRows ∨ c ∈ e.children := by
  rw [setLimit, Expression.setArg] at hc
  exact RoseTree.mem_children_setChild hc

theorem mem_walk_setLimit {e n : Expression} {maxRows : Nat} (hn : n ∈ (setLimit e maxRows).walk) :
    n = setLimit e maxRows ∨ n.label.key ≠ .where_ ∧ n.label.type.isSelect = false ∨
      ∃ c ∈ e.children, n ∈ c.walk := by
  rcases (RoseTree.mem_walk_node e.label (setLimit e maxRows).children).mp hn with
    rfl | ⟨c, hc, hnc⟩
  · exact .inl rfl
  · rcases mem_children_setLimit hc with rfl | hc
    · simp only [limitNode, RoseTree.mem_walk_node, List.mem_singleton, List.not_mem_nil,
        exists_eq_left, false_and, exists_false, or_false] at hnc
      rcases hnc with rfl | rfl
      · exact .inr (.inl ⟨Arg.noConfusion, rfl⟩)
      · exact .inr (.inl ⟨Arg.noConfusion, rfl⟩)
    · exact .inr (.inr ⟨c, hc, hnc⟩)

theorem plainWhere_setLimit {e : Expression} (hq : isQuery e.label.type = true)
    (hw : PlainWhere e) (maxRows : Nat) : PlainWhere (setLimit e maxRows) := by
  intro n hn hkey
  rcases mem_walk_setLimit hn with rfl | ⟨hno, -⟩ | ⟨c, hc, hnc⟩
  · have htype := (hw e (RoseTree.self_mem_walk e) hkey).1
    rw [htype] at hq
    cases hq
  · exact absurd hkey hno
  · obtain ⟨l, ts⟩ := e
    exact hw n (RoseTree.mem_walk_of_child hc hnc) hkey

theorem guarded_setLimit {e : Expression}
    (h : ∀ n ∈ e.walk, n.label.type.isSelect = true →
      Guarded ops py schema tenantId database n) (maxRows : Nat) :
    ∀ n ∈ (setLimit e maxRows).walk, n.label.type.isSelect = true →
      Guarded ops py schema tenantId database n := by
  intro n hn hs
  rcases mem_walk_setLimit hn with rfl | ⟨-, hno⟩ | ⟨c, hc, hnc⟩
  · intro ctes env hholds table htable
    have hwhere : (setLimit e maxRows).arg .where_ = e.arg .where_ := by
      rw [Expression.arg, Expression.arg, setLimit, Expression.setArg]
      exact RoseTree.child?_setChild_of_ne (fun l hl ↦ by simp [of_decide_eq_true hl]) rfl
    rw [whereHolds, hwhere] at hholds
    refine h e (RoseTree.self_mem_walk e) hs ctes env hholds table ?_
    rw [owned, if_pos hs, List.mem_flatMap] at htable
    obtain ⟨c, hc, hx⟩ := htable
    rcases mem_children_setLimit hc with rfl | hc
    · cases hx
    · rw [owned, if_pos (by exact hs)]
      exact List.mem_flatMap.mpr ⟨c, hc, hx⟩
  · rw [hs] at hno
    cases hno
  · obtain ⟨l, ts⟩ := e
    exact h n (RoseTree.mem_walk_of_child hc hnc) hs

theorem not_replaces_setLimit (e : Expression) (maxRows : Nat) :
    ¬Replaces (setLimit e maxRows) maxRows := by
  rintro ⟨-, h⟩
  have hvalue : limitValue ((setLimit e maxRows).arg .limit) = some maxRows := by
    rw [arg_setLimit]
    exact limitValue_literal (x := .node { key := .expression, type := _ } []) rfl rfl
      (intOfText_toString maxRows)
  exact absurd (h maxRows hvalue) (Nat.lt_irrefl _)

/-- The statement that is sent to the database, submitted again, returns the same rows. -/
theorem evaluate_final_again (hops : ops.Lawful) (gate : Gate) (maxRows : Nat) {e : Expression}
    (hw : PlainWhere e) (database : Database V) :
    evaluate ops schema database (gate.finalExpression schema maxRows tenantId
        (gate.finalExpression schema maxRows tenantId e)) =
      evaluate ops schema database (gate.finalExpression schema maxRows tenantId e) := by
  have hr := @rewritten_rewrite gate.py schema tenantId e hw
  have hguarded := @guarded_rewritten V ops gate.py schema tenantId database hops _ _ hr hw
  have hplain := plainWhere_rewritten hr hw
  have hagain {x : Expression} (hx : PlainWhere x) (hno : ¬Replaces x maxRows)
      (hs : ∀ n ∈ x.walk, n.label.type.isSelect = true →
        Guarded ops gate.py schema tenantId database n) :
      evaluate ops schema database (gate.finalExpression schema maxRows tenantId x) =
        evaluate ops schema database x := by
    have hexact := (exact_rewritten hops (@rewritten_rewrite gate.py schema tenantId x hx) hx).same
      [] (lossless_of_guarded hs [])
    rw [Gate.finalExpression, Gate.scopedExpression,
      enforceLimit_leaves (fun h ↦ hno (replaces_rewrite.mp h)), evaluate, evaluate, hexact]
  have hfinal : gate.finalExpression schema maxRows tenantId e =
      (enforceLimit (rewrite gate.py schema tenantId e).1 maxRows).expression := rfl
  rw [hfinal]
  by_cases hreplaces : Replaces (rewrite gate.py schema tenantId e).1 maxRows
  · rw [enforceLimit_replaces hreplaces]
    exact hagain (plainWhere_setLimit hreplaces.1 hplain maxRows) (not_replaces_setLimit _ _)
      (guarded_setLimit hguarded maxRows)
  · rw [enforceLimit_leaves hreplaces]
    exact hagain hplain hreplaces hguarded

theorem evaluate_final_again_selectOrders :
    evaluate integerEngine usersAndOrders twoOrders
        ((Gate.offline "SELECT id FROM orders" selectOrders).finalExpression usersAndOrders 100 "1"
          ((Gate.offline "SELECT id FROM orders" selectOrders).finalExpression usersAndOrders 100
            "1" selectOrders)) =
      evaluate integerEngine usersAndOrders twoOrders
        ((Gate.offline "SELECT id FROM orders" selectOrders).finalExpression usersAndOrders 100 "1"
          selectOrders) :=
  evaluate_final_again integerEngine_lawful _ 100 (by decide +kernel) twoOrders

end TextToSql.Semantics
