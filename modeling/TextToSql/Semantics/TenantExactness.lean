import TextToSql.Semantics.TenantIsolation

namespace TextToSql.Semantics

open Library Domain Sql Security Infrastructure Application

variable {V : Type}

section

variable (ops : Operations V) (schema : DatabaseSchema) (database : Database V)

/-- Evaluating a statement, with some common table expressions in scope, evaluates a part of it with
others in scope. -/
inductive Meets : Expression → Ctes V → Expression → Ctes V → Prop
  | self (e : Expression) (ctes : Ctes V) : Meets e ctes e ctes
  | with_ {l : Node} {ts before after : List Expression} {t n : Expression} {ctes inner : Ctes V}
      (env : Local V) (hq : isQuery l.type = true)
      (hts : (ts.filter fun t ↦ t.label.type.isWith) = before ++ t :: after)
      (h : Meets t (Interpretation.bound (before.map (denote ops schema database)) ctes env) n
        inner) : Meets (.node l ts) ctes n inner
  | clause {l : Node} {ts : List Expression} {t n : Expression} {ctes inner : Ctes V}
      (env : Local V) (hq : isQuery l.type = true) (ht : t ∈ ts)
      (hw : t.label.type.isWith = false)
      (h : Meets t (Interpretation.inside (ts.map (denote ops schema database)) ctes env) n
        inner) : Meets (.node l ts) ctes n inner
  | definition {l : Node} {before after : List Expression} {t n : Expression}
      {ctes inner : Ctes V} (env : Local V) (hw : l.type.isWith = true)
      (h : Meets t (Interpretation.bound (before.map (denote ops schema database)) ctes env) n
        inner) : Meets (.node l (before ++ t :: after)) ctes n inner
  | part {l : Node} {ts : List Expression} {t n : Expression} {ctes inner : Ctes V}
      (hq : isQuery l.type = false) (hw : l.type.isWith = false) (ht : t ∈ ts)
      (h : Meets t ctes n inner) : Meets (.node l ts) ctes n inner

def Passing (select : Expression) (ctes : Ctes V) (env : Local V) (frame : Frame V) : Prop :=
  let ds := select.children.map (denote ops schema database)
  let inner := Interpretation.inside ds ctes env
  frame ∈ (extendAll (Interpretation.meanings (Interpretation.clauses ds) inner) env .unit).rows ∧
    Interpretation.passes ops ds inner env frame = true

variable (py : Python) (tenantId : String)

/-- The predicates of the tables of a select take away none of its rows. -/
def LosesNone (select : Expression) (ctes : Ctes V) : Prop :=
  ∀ env frame, Passing ops schema database select ctes env frame →
    ∀ table ∈ owned py schema select.label select.children,
      guardHolds ops py schema tenantId table (env.enter frame [frame]) = true

/-- No select that the evaluation meets loses a row by the predicates. -/
def Lossless (e : Expression) (ctes : Ctes V) : Prop :=
  ∀ n inner, Meets ops schema database e ctes n inner →
    LosesNone ops schema database py tenantId n inner

/-- Only the rows that the tenant may see. -/
def Database.restrict : Database V where
  rows table := visible ops py tenantId table (database.rows table)
  other := database.other

end

variable {ops : Operations V} {py : Python} {schema : DatabaseSchema} {tenantId : String}
  {database : Database V}

theorem visible_visible (table : TableInfo) (rows : List (List V)) :
    visible ops py tenantId table (visible ops py tenantId table rows) =
      visible ops py tenantId table rows := by
  rw [visible, visible]
  split
  · rfl
  · rw [List.filter_filter]
    simp

theorem sameVisible_restrict :
    SameVisible ops py schema tenantId database (database.restrict ops py tenantId) :=
  fun _ _ ↦ (visible_visible _ _).symm

theorem meaning_congr {l : Node} {ds ds' : List (Interpretation V)} {ctes : Ctes V}
    (hparts : isQuery l.type = false → l.type.isWith = false →
      Interpretation.meanings ds' ctes = Interpretation.meanings ds ctes)
    (hbound : l.type.isWith = true → ∀ env,
      Interpretation.bound ds' ctes env = Interpretation.bound ds ctes env)
    (hresult : ∀ env, Interpretation.resultOf ops l ds' ctes env =
      Interpretation.resultOf ops l ds ctes env)
    (hclauses : isQuery l.type = true → ∀ env,
      Interpretation.meanings (Interpretation.clauses ds') (Interpretation.inside ds' ctes env) =
        Interpretation.meanings (Interpretation.clauses ds) (Interpretation.inside ds ctes env)) :
    (Interpretation.ofNode ops schema database l ds').meaning ctes =
      (Interpretation.ofNode ops schema database l ds).meaning ctes := by
  have hterms (hw : l.type.isWith = false) (hq : isQuery l.type = false) :
      Interpretation.terms ds' ctes = Interpretation.terms ds ctes := by
    rw [Interpretation.terms, Interpretation.terms, hparts hq hw]
  have hfolded (hw : (l.folded schema.dialect).type.isWith = false)
      (hq : isQuery (l.folded schema.dialect).type = false) :
      Interpretation.terms ds' ctes = Interpretation.terms ds ctes := by
    rw [Node.folded_type, NodeType.isWith_folded] at hw
    rw [Node.folded_type, isQuery_folded] at hq
    exact hterms hw hq
  have hterm := @Term.ofNode_congr V ops schema.dialect (l.folded schema.dialect) _ _ _ _ hfolded
    (funext hresult)
  have hbind (env : Local V) :
      Interpretation.bindOf (l.folded schema.dialect) ds' ctes env =
        Interpretation.bindOf (l.folded schema.dialect) ds ctes env := by
    obtain ⟨key, type, comments, quoted⟩ := l
    cases type with
    | with_ recursive => exact hbound rfl env
    | cte alias_ columns =>
      rw [Interpretation.bindOf, Interpretation.bindOf]
      dsimp only
      rw [hterms rfl rfl]
      rfl
    | _ =>
      rw [Interpretation.bindOf_of_not_definition rfl rfl,
        Interpretation.bindOf_of_not_definition rfl rfl]
  have hsource (env : Local V) :
      Interpretation.sourceOf ops schema database (l.folded schema.dialect) ds' ctes env =
        Interpretation.sourceOf ops schema database (l.folded schema.dialect) ds ctes env := by
    obtain ⟨key, type, comments, quoted⟩ := l
    cases type with
    | table ref =>
      change extendAll (Interpretation.meanings ds' ctes) env _ = _
      rw [hparts rfl rfl]
      rfl
    | subquery alias_ columns =>
      rw [Interpretation.sourceOf_subquery rfl, Interpretation.sourceOf_subquery rfl,
        Interpretation.resultOf_folded, Interpretation.resultOf_folded, hclauses rfl, hresult]
    | _ =>
      rw [Interpretation.sourceOf_of_not_relation rfl rfl,
        Interpretation.sourceOf_of_not_relation rfl rfl]
  have hextend (env : Local V) (left : Relation V) :
      extendOf ops (Interpretation.meanings ds' ctes) env l left =
        extendOf ops (Interpretation.meanings ds ctes) env l left := by
    by_cases hpart : isQuery l.type = false ∧ l.type.isWith = false
    · rw [hparts hpart.1 hpart.2]
    · obtain ⟨key, type, comments, quoted⟩ := l
      cases type <;> first | rfl | exact absurd ⟨rfl, rfl⟩ hpart
  rw [Interpretation.ofNode, Interpretation.ofNode]
  dsimp only
  rw [Meaning.mk.injEq]
  exact ⟨hterm, funext hbind, funext hsource, funext fun env ↦ funext (hextend env)⟩

/-- With no row lost, the second statement means what the first one does. -/
structure Exact (ops : Operations V) (py : Python) (schema : DatabaseSchema) (tenantId : String)
    (database : Database V) (t u : Expression) : Prop where
  label : u.label = t.label
  same : ∀ ctes, Lossless ops schema database py tenantId t ctes →
    (denote ops schema database u).meaning ctes = (denote ops schema database t).meaning ctes

section Children

variable {l : Node} {ts us : List Expression} {ctes : Ctes V}
  (h : List.Forall₂ (Exact ops py schema tenantId database) ts us)

include h

theorem meanings_exact
    (hlossless : ∀ t ∈ ts, Lossless ops schema database py tenantId t ctes) :
    Interpretation.meanings (us.map (denote ops schema database)) ctes =
      Interpretation.meanings (ts.map (denote ops schema database)) ctes := by
  induction h with
  | nil => rfl
  | cons ht _ ih =>
    obtain ⟨hfirst, hrest⟩ := List.forall_mem_cons.mp hlossless
    rw [List.map_cons, List.map_cons, Interpretation.meanings, Interpretation.meanings,
      List.map_cons, List.map_cons, ht.same ctes hfirst]
    exact congrArg _ (ih hrest)

theorem exact_filter (p : Node → Bool) :
    List.Forall₂ (Exact ops py schema tenantId database)
      (ts.filter fun t ↦ p t.label) (us.filter fun u ↦ p u.label) :=
  forall₂_filter_label (fun _ _ ht ↦ ht.label) h p

theorem bound_exact (env : Local V)
    (hlossless : ∀ before t after, ts = before ++ t :: after →
      Lossless ops schema database py tenantId t
        (Interpretation.bound (before.map (denote ops schema database)) ctes env)) :
    Interpretation.bound (us.map (denote ops schema database)) ctes env =
      Interpretation.bound (ts.map (denote ops schema database)) ctes env := by
  induction h generalizing ctes with
  | nil => rfl
  | @cons t u ts us ht _ ih =>
    have hfirst := ht.same ctes (hlossless [] t ts rfl)
    have hrest := @ih (((denote ops schema database t).meaning ctes).bind env)
      fun before t' after hts ↦ hlossless (t :: before) t' after (congrArg (t :: ·) hts)
    rw [Interpretation.bound, Interpretation.bound, List.map_cons, List.map_cons, List.foldl_cons,
      List.foldl_cons, hfirst]
    exact hrest

variable (hq : isQuery l.type = true)
  (hlossless : Lossless ops schema database py tenantId (.node l ts) ctes)

include hq hlossless

theorem inside_exact (env : Local V) :
    Interpretation.inside (us.map (denote ops schema database)) ctes env =
      Interpretation.inside (ts.map (denote ops schema database)) ctes env := by
  rw [Interpretation.inside, Interpretation.inside, filter_denote (p := fun l ↦ l.type.isWith),
    filter_denote (p := fun l ↦ l.type.isWith)]
  apply bound_exact (exact_filter h fun l ↦ l.type.isWith)
  intro before t after hts n inner hmeets
  exact hlossless n inner (.with_ env hq hts hmeets)

theorem clauses_exact (env : Local V) :
    Interpretation.meanings (Interpretation.clauses (us.map (denote ops schema database)))
        (Interpretation.inside (us.map (denote ops schema database)) ctes env) =
      Interpretation.meanings (Interpretation.clauses (ts.map (denote ops schema database)))
        (Interpretation.inside (ts.map (denote ops schema database)) ctes env) := by
  rw [inside_exact h hq hlossless, clauses_denote, clauses_denote]
  apply meanings_exact
    (exact_filter h fun l ↦ decide (l.key ≠ .where_ ∧ l.type.isWith = false))
  intro t ht n inner hmeets
  obtain ⟨ht, hclause⟩ := List.mem_filter.mp ht
  exact hlossless n inner (.clause env hq ht (of_decide_eq_true hclause).2 hmeets)

theorem passes_exact (hwhere : PlainChildren ts) (env : Local V) :
    Interpretation.passes ops (us.map (denote ops schema database))
        (Interpretation.inside (us.map (denote ops schema database)) ctes env) env =
      Interpretation.passes ops (ts.map (denote ops schema database))
        (Interpretation.inside (ts.map (denote ops schema database)) ctes env) env := by
  funext frame
  rw [inside_exact h hq hlossless, passes_eq _ _ l, passes_eq _ _ l, whereHolds, whereHolds,
    Expression.arg, Expression.arg, RoseTree.child?, RoseTree.child?, RoseTree.children_node,
    RoseTree.children_node]
  have hchild {t : Expression} (ht : t ∈ ts) (hkey : t.label.key = .where_) :
      Lossless ops schema database py tenantId t
        (Interpretation.inside (ts.map (denote ops schema database)) ctes env) := by
    intro n inner hmeets
    refine hlossless n inner (.clause env hq ht ?_ hmeets)
    rw [(hwhere t ht hkey).1]
    rfl
  generalize Interpretation.inside (ts.map (denote ops schema database)) ctes env = inner at hchild ⊢
  clear hlossless hwhere
  induction h with
  | nil => rfl
  | @cons t u ts us ht _ ih =>
    rw [List.find?_cons, List.find?_cons, ht.label]
    by_cases hkey : t.label.key = .where_
    · rw [decide_eq_true hkey, Option.all_some, Option.all_some, holds, holds,
        ht.same inner (hchild List.mem_cons_self hkey)]
    · rw [decide_eq_false hkey]
      exact ih fun ht' ↦ hchild (.tail _ ht')

end Children

section Nodes

variable {l : Node} {ts us : List Expression} {found : List (TableRef × String)}
  (h : List.Forall₂ (Exact ops py schema tenantId database) ts us)

include h

theorem exact_select (hops : ops.Lawful) {distinct : Bool} (hl : l.type = .select distinct)
    (hts : PlainChildren ts) (hus : PlainChildren us)
    (hfound : found.Perm (owned py schema l ts)) :
    Exact ops py schema tenantId database (.node l ts)
      (found.foldl (guardScope py tenantId) (.node l us)) where
  label := label_foldl_guardScope found _
  same ctes hlossless := by
    have hq : isQuery l.type = true := by rw [hl]; rfl
    have hresult : ((denote ops schema database
          (found.foldl (guardScope py tenantId) (.node l us))).meaning ctes).term.result =
        ((denote ops schema database (.node l ts)).meaning ctes).term.result := by
      funext env
      rw [result_guarded hops hl hus, clauses_exact h hq hlossless, passes_exact h hq hlossless hts,
        denote_node]
      change _ = Interpretation.resultOf ops l (ts.map (denote ops schema database)) ctes env
      rw [Interpretation.resultOf, hl]
      dsimp only
      rw [Interpretation.selectResult, Interpretation.selectResult]
      congr 1
      apply List.filter_congr
      intro frame hframe
      cases hpasses : Interpretation.passes ops (ts.map (denote ops schema database))
          (Interpretation.inside (ts.map (denote ops schema database)) ctes env) env frame with
      | false => rfl
      | true =>
        rw [Bool.true_and, List.all_eq_true]
        intro table htable
        exact hlossless _ _ (.self _ _) env frame ⟨hframe, hpasses⟩ table
          (hfound.mem_iff.mp htable)
    have hlabel := @label_foldl_guardScope py tenantId found (.node l us)
    generalize found.foldl (guardScope py tenantId) (.node l us) = select at *
    obtain ⟨l', us'⟩ := select
    obtain rfl : l' = l := hlabel
    rw [denote_node, denote_node, meaning_select hl, meaning_select hl] at hresult ⊢
    have hterm := congrArg (fun result : Local V → Result V ↦
      ({ node := l', aggregates := false, value := fun env ↦ ops.scalar (result env)
         keys := fun _ ↦ [], result } : Term V)) hresult
    rw [Meaning.mk.injEq]
    exact ⟨hterm, rfl, rfl, rfl⟩

theorem exact_other (hs : l.type.isSelect = false) :
    Exact ops py schema tenantId database (.node l ts) (.node l us) where
  label := rfl
  same ctes hlossless := by
    have hparts (hq : isQuery l.type = false) (hw : l.type.isWith = false) :
        Interpretation.meanings (us.map (denote ops schema database)) ctes =
          Interpretation.meanings (ts.map (denote ops schema database)) ctes :=
      meanings_exact h fun t ht n inner hmeets ↦ hlossless n inner (.part hq hw ht hmeets)
    have hclauses (hq : isQuery l.type = true) := clauses_exact h hq hlossless
    rw [denote_node, denote_node]
    refine meaning_congr hparts (fun hw env ↦ ?_) (fun env ↦ ?_) hclauses
    · apply bound_exact h
      rintro before t after rfl n inner hmeets
      exact hlossless n inner (.definition env hw hmeets)
    · obtain ⟨key, type, comments, quoted⟩ := l
      cases type with
      | select distinct => cases hs
      | setOperation operation distinct =>
        rw [Interpretation.resultOf, Interpretation.resultOf]
        dsimp only
        rw [hclauses rfl]
      | subquery alias_ columns =>
        rw [Interpretation.resultOf, Interpretation.resultOf]
        dsimp only
        rw [hclauses rfl]
      | _ => rw [Interpretation.resultOf_of_not_query rfl, Interpretation.resultOf_of_not_query rfl]

end Nodes

/-- A rewritten statement means what the statement itself does where it loses no row. -/
theorem exact_rewritten (hops : ops.Lawful) {e e' : Expression}
    (h : Rewritten py schema tenantId e e') (hw : PlainWhere e) :
    Exact ops py schema tenantId database e e' := by
  induction e using RoseTree.inductionOn generalizing e' with
  | node l ts ih =>
    rw [Rewritten] at h
    obtain ⟨us, found, hus, hfound, rfl⟩ := h
    have hrewritten := rewrittenAll_iff.mp hus
    have hexact : List.Forall₂ (Exact ops py schema tenantId database) ts us :=
      forall₂_imp_mem hrewritten fun t ht u hr ↦ ih t ht hr (hw.child ht)
    have hchildren := plainChildren_of_plainWhere hw
    by_cases hs : l.type.isSelect = true
    · obtain ⟨distinct, hl⟩ : ∃ distinct, l.type = .select distinct := by
        cases htype : l.type <;> first | exact ⟨_, rfl⟩ | (rw [htype] at hs; cases hs)
      exact exact_select hexact hops hl hchildren (plainChildren_rewritten hrewritten hchildren)
        hfound
    · have hnone : owned py schema l ts = [] := by rw [owned, if_neg hs]
      rw [hnone, List.perm_nil] at hfound
      subst hfound
      exact exact_other hexact (by simpa using hs)

theorem Meets.mem_walk {e n : Expression} {ctes inner : Ctes V}
    (h : Meets ops schema database e ctes n inner) : n ∈ e.walk := by
  induction h with
  | self e ctes => exact RoseTree.self_mem_walk e
  | with_ env hq hts h ih =>
    have hmem := List.mem_filter.mp (hts ▸ List.mem_append_right _ List.mem_cons_self)
    exact RoseTree.mem_walk_of_child hmem.1 ih
  | clause env hq ht hw h ih => exact RoseTree.mem_walk_of_child ht ih
  | definition env hw h ih =>
    exact RoseTree.mem_walk_of_child (List.mem_append_right _ List.mem_cons_self) ih
  | part hq hw ht h ih => exact RoseTree.mem_walk_of_child ht ih

theorem losesNone_of_not_select {n : Expression} {ctes : Ctes V}
    (h : n.label.type.isSelect = false) :
    LosesNone ops schema database py tenantId n ctes := by
  intro env frame hpassing table htable
  rw [owned, h] at htable
  cases htable

theorem lossless_of_flat {l : Node} {ts : List Expression} {ctes : Ctes V}
    (hq : isQuery l.type = true) (hwith : ∀ t ∈ ts, t.label.type.isWith = false)
    (hflat : ∀ t ∈ ts, ∀ n ∈ t.walk, n.label.type.isSelect = false)
    (h : LosesNone ops schema database py tenantId (.node l ts) ctes) :
    Lossless ops schema database py tenantId (.node l ts) ctes := by
  intro n inner hmeets
  cases hmeets with
  | self => exact h
  | @with_ _ _ before after t _ _ _ env _ hts hmeets =>
    have hmem := List.mem_filter.mp (hts ▸ List.mem_append_right before List.mem_cons_self)
    exact absurd hmem.2 (by simp [hwith t hmem.1])
  | clause env _ ht _ hmeets => exact losesNone_of_not_select (hflat _ ht _ hmeets.mem_walk)
  | definition env hw hmeets =>
    cases htype : l.type <;> rw [htype] at hq hw <;>
      first | exact absurd hw Bool.false_ne_true | exact absurd hq Bool.false_ne_true
  | part hno => rw [hno] at hq; cases hq

def ordersWithCustomers : Expression :=
  .mk .this (.select false)
    [.mk .expressions (.column "o" "id") [],
      .mk .from_ .from_ [.mk .this (.table { name := "orders", alias_ := "o" }) []],
      .mk .joins (.join "" "" "")
        [.mk .this (.table { name := "customers", alias_ := "c" }) [],
          .mk .on_ .eq [.mk .this (.column "o" "customer_id") [],
            .mk .expression (.column "c" "id") []]]]

def twoOrders : Database (Option Int) where
  rows table :=
    if table.name = "orders" then [[some 7, some 1, some 5], [some 8, some 2, some 6]]
    else if table.name = "customers" then [[some 5, some 1], [some 6, some 2]] else []
  other _ := {}

def withoutOrders : Expression :=
  .mk .this (.select false)
    [.mk .expressions (.column "c" "id") [],
      .mk .from_ .from_ [.mk .this (.table { name := "customers", alias_ := "c" }) []],
      .mk .joins (.join "" "LEFT" "")
        [.mk .this (.table { name := "orders", alias_ := "o" }) [],
          .mk .on_ .eq [.mk .this (.column "o" "customer_id") [],
            .mk .expression (.column "c" "id") []]],
      .mk .where_ .where_ [.mk .this (.operator "IsNull") [.mk .this (.column "o" "id") []]]]

def newCustomer : Database (Option Int) where
  rows table := if table.name = "customers" then [[some 5, some 1]] else []
  other _ := {}

end TextToSql.Semantics
