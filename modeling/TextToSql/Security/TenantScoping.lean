import TextToSql.Infrastructure.ReferenceSchema
import TextToSql.Security.RewriterScopes

namespace TextToSql.Security

open Library Domain Sql Infrastructure

/-- A condition that is, up to parentheses, the conjunction of some conditions. What fills another
argument of its parent is still the same condition. -/
inductive Conjunction : List Expression → Expression → Prop where
  | whole (c : Expression) (key : Arg) :
    Conjunction [c] (.node { c.label with key } c.children)
  | paren {cs : List Expression} {c : Expression} (key : Arg) (h : Conjunction cs c) :
    Conjunction cs (.mk key .paren [c])
  | and_ {cs ds : List Expression} {c d : Expression} (key : Arg) (hc : Conjunction cs c)
    (hd : Conjunction ds d) : Conjunction (cs ++ ds) (.mk key .and_ [c, d])

def condition (select : Expression) : Option Expression :=
  (select.arg .where_).bind (Expression.arg .this)

/-- The second select is the first one, except that its condition is the conjunction of the
condition of the first one, kept whole, and the given predicates. -/
def Conjoined (select : Expression) (predicates : List Expression) (select' : Expression) : Prop :=
  (predicates = [] ∧ select' = select) ∨
    (predicates ≠ [] ∧ ∃ c, select' = select.setArg .where_ (.mk .where_ .where_ [c]) ∧
      c.label.key = .this ∧ Conjunction ((condition select).toList ++ predicates) c)

variable (py : Python) (schema : DatabaseSchema) (tenantId : String)

def tenantPredicate (table : TableRef × String) : Expression :=
  buildPredicate py tenantId table.1.aliasOrName table.2 .this

mutual

/-- The second statement is the first one, except that every select of it is conjoined with one
predicate for each of its own tenant tables. -/
def TenantScoped : Expression → Expression → Prop
  | .node l ts, e' => ∃ (us : List Expression) (tables : List (TableRef × String)),
      TenantScopedAll ts us ∧ tables.Perm (owned py schema l ts) ∧
      Conjoined (.node l us) (tables.map (tenantPredicate py tenantId)) e'

def TenantScopedAll : List Expression → List Expression → Prop
  | [], [] => True
  | t :: ts, u :: us => TenantScoped t u ∧ TenantScopedAll ts us
  | _, _ => False

end

def tenantTables (e : Expression) : List (TableRef × String) :=
  e.walk.flatMap fun n ↦ owned py schema n.label n.children

def appliedEntry (table : TableRef × String) : String :=
  s!"{table.1.aliasOrName}.{table.2} = {tenantId}"

variable {py schema tenantId}

theorem tenantScopedAll_iff {ts us : List Expression} :
    TenantScopedAll py schema tenantId ts us ↔
      List.Forall₂ (TenantScoped py schema tenantId) ts us := by
  induction ts generalizing us with
  | nil => cases us <;> simp [TenantScopedAll]
  | cons t ts ih => cases us <;> simp [TenantScopedAll, ih]

theorem conjunction_self {c : Expression} (hc : c.label.key = .this) : Conjunction [c] c := by
  obtain ⟨⟨key, type, comments⟩, ts⟩ := c
  obtain rfl : key = .this := hc
  exact .whole _ .this

theorem Conjunction.wrapConnector {cs : List Expression} {c : Expression}
    (h : Conjunction cs c) : Conjunction cs (wrapConnector id id c) := by
  rw [Security.wrapConnector]
  split
  · exact h.paren .this
  · exact h

theorem conjunction_predicate (table : TableRef × String) (key : Arg) :
    Conjunction [tenantPredicate py tenantId table]
      (buildPredicate py tenantId table.1.aliasOrName table.2 key) := .whole _ key

/-- One more predicate on a condition that is a conjunction already. -/
theorem conjunction_conjoin {cs : List Expression} {existing : Option Expression}
    (h : (existing = none ∧ cs = []) ∨ ∃ c, existing = some c ∧ Conjunction cs c)
    (table : TableRef × String) :
    Conjunction (cs ++ [tenantPredicate py tenantId table])
      (conjoin id id existing (buildPredicate py tenantId table.1.aliasOrName table.2)) := by
  rcases h with ⟨rfl, rfl⟩ | ⟨c, rfl, hc⟩
  · exact conjunction_predicate table .this
  · exact .and_ .this hc.wrapConnector (conjunction_predicate table .expression)

theorem key_conjoin (existing : Option Expression) (table : TableRef × String) :
    (conjoin id id existing
      (buildPredicate py tenantId table.1.aliasOrName table.2)).label.key = .this := by
  cases existing <;> rfl

theorem condition_setArg {select c : Expression} (hc : c.label.key = .this) :
    condition (select.setArg .where_ (.mk .where_ .where_ [c])) = some c := by
  have hwhere : (select.setArg .where_ (.mk .where_ .where_ [c])).arg .where_ =
      some (.mk .where_ .where_ [c]) := RoseTree.child?_setChild (decide_eq_true rfl)
  rw [condition, hwhere, Option.bind_some, Expression.arg, RoseTree.child?, Expression.mk,
    RoseTree.children_node, List.find?_cons_of_pos (by simpa using hc)]

theorem key_condition {select c : Expression} (h : condition select = some c) :
    c.label.key = .this := by
  obtain ⟨w, -, hc⟩ := Option.bind_eq_some_iff.mp h
  exact of_decide_eq_true (List.find?_some hc :)

theorem conjoined_guardScope {select select' : Expression} {predicates : List Expression}
    (h : Conjoined select predicates select') (table : TableRef × String) :
    Conjoined select (predicates ++ [tenantPredicate py tenantId table])
      (guardScope py tenantId select' table) := by
  refine .inr ⟨by simp, ?_⟩
  rcases h with ⟨rfl, rfl⟩ | ⟨-, c, rfl, hkey, hc⟩
  · refine ⟨_, rfl, key_conjoin _ table, ?_⟩
    rw [List.nil_append]
    apply conjunction_conjoin
    change (condition select' = none ∧ _) ∨ ∃ c, condition select' = some c ∧ _
    cases hcond : condition select' with
    | none => exact .inl ⟨rfl, rfl⟩
    | some c => exact .inr ⟨c, rfl, conjunction_self (key_condition hcond)⟩
  · have hset : guardScope py tenantId (select.setArg .where_ (.mk .where_ .where_ [c])) table =
        select.setArg .where_ (.mk .where_ .where_ [conjoin id id (some c)
          (buildPredicate py tenantId table.1.aliasOrName table.2)]) := by
      rw [← @condition_setArg select _ hkey]
      exact RoseTree.setChild_setChild (decide_eq_true rfl)
    refine ⟨_, hset, key_conjoin _ table, ?_⟩
    rw [← List.append_assoc]
    exact conjunction_conjoin (.inr ⟨c, rfl, hc⟩) table

theorem conjoined_foldl (select : Expression) (tables : List (TableRef × String)) :
    Conjoined select (tables.map (tenantPredicate py tenantId))
      (tables.foldl (guardScope py tenantId) select) := by
  induction tables using List.reverseRecOn with
  | nil => exact .inl ⟨rfl, rfl⟩
  | append_singleton tables table ih =>
    rw [List.map_append, List.foldl_append]
    exact conjoined_guardScope ih table

theorem Rewritten.tenantScoped {e e' : Expression} (h : Rewritten py schema tenantId e e') :
    TenantScoped py schema tenantId e e' := by
  induction e using RoseTree.inductionOn generalizing e' with
  | node l ts ih =>
    rw [Rewritten] at h
    obtain ⟨us, tables, hus, hperm, rfl⟩ := h
    rw [TenantScoped]
    refine ⟨us, tables, ?_, hperm, conjoined_foldl _ tables⟩
    rw [tenantScopedAll_iff]
    rw [rewrittenAll_iff] at hus
    clear hperm
    induction hus with
    | nil => exact .nil
    | cons ht _ ihs =>
      exact .cons (ih _ List.mem_cons_self ht) (ihs fun t ht ↦ ih t (.tail _ ht))

theorem perm_tenantTables (path : List Nat) (e : Expression) :
    ((owners py schema path e).map fun t ↦ (t.table, t.column)).Perm
      (tenantTables py schema e) := by
  induction e using RoseTree.inductionOn generalizing path with
  | node l ts ih =>
    have hwalk := (RoseTree.perm_walk_node l ts).flatMap_right fun n : Expression ↦
      owned py schema n.label n.children
    rw [owners_node, List.map_append, List.map_map, List.map_flatMap]
    refine List.Perm.trans ?_ hwalk.symm
    rw [List.flatMap_cons, List.flatMap_assoc]
    refine List.Perm.append (.of_eq (List.map_id' _)) ?_
    have hfst : (ts.flatMap fun t ↦ t.walk.flatMap fun n : Expression ↦
        owned py schema n.label n.children) = ts.zipIdx.flatMap fun p ↦
          tenantTables py schema p.1 := by
      conv_lhs => rw [← List.zipIdx_map_fst 0 ts, List.flatMap_map]
      rfl
    refine List.Perm.trans ?_ (.of_eq hfst.symm)
    exact List.Perm.flatMap_left _ fun p hp ↦ ih p.1 (List.fst_mem_of_mem_zipIdx hp) _

/-- Rewriting conjoins every select with the predicates of its own tenant tables, changes nothing
else and reports one entry for every tenant table in a select. -/
theorem rewrite_tenantScoped (py : Python) (schema : DatabaseSchema) (tenantId : String)
    (e : Expression) (hw : PlainWhere e) :
    TenantScoped py schema tenantId e (rewrite py schema tenantId e).1 ∧
      (rewrite py schema tenantId e).2.Perm
        ((tenantTables py schema e).map (appliedEntry tenantId)) := by
  refine ⟨(rewritten_rewrite hw).tenantScoped, ?_⟩
  have hperm := ((@perm_collectTargets py schema e).map fun t ↦
    (t.table, t.column)).trans (perm_tenantTables [] e)
  have hentries := hperm.map (appliedEntry tenantId)
  rwa [List.map_map] at hentries

def hasPlainWhere (n : Expression) : Bool :=
  n.label.key ≠ .where_ ||
    n.label.type = .where_ && match n.children with
      | [c] => c.label.key = .this
      | _ => false

instance (e : Expression) : Decidable (PlainWhere e) :=
  decidable_of_iff (∀ n ∈ e.walk, hasPlainWhere n = true) <| forall₂_congr fun n _ ↦ by
    rw [hasPlainWhere, Bool.or_eq_true, Bool.and_eq_true, decide_eq_true_eq, decide_eq_true_eq,
      ne_eq, ← imp_iff_not_or]
    refine imp_congr_right fun _ ↦ and_congr_right fun _ ↦ ?_
    match n.children with
    | [] => simp
    | [c] => simp
    | _ :: _ :: _ => simp

def paidOrOpen : Expression :=
  selectFrom "id" "orders"
    [.mk .where_ .where_
      [.mk .this .or_
        [.mk .this .eq [.mk .this (.column "" "status") [],
          .mk .expression (.literal "paid" true) []],
        .mk .expression .eq [.mk .this (.column "" "status") [],
          .mk .expression (.literal "open" true) []]]]]

theorem paidOrOpen_tenantScoped :
    TenantScoped .ascii referenceSchema "1" paidOrOpen
        (rewrite .ascii referenceSchema "1" paidOrOpen).1 ∧
      (rewrite .ascii referenceSchema "1" paidOrOpen).2.Perm
        ((tenantTables .ascii referenceSchema paidOrOpen).map (appliedEntry "1")) :=
  rewrite_tenantScoped .ascii referenceSchema "1" paidOrOpen (by decide +kernel)

end TextToSql.Security
