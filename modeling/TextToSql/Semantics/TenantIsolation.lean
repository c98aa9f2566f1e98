import TextToSql.Application.RewriteMeasures
import TextToSql.Application.Revalidation
import TextToSql.Semantics.ColumnConfidentiality
import TextToSql.Semantics.IntegerEngine
import TextToSql.Semantics.RowBounds
import TextToSql.Semantics.TenantNoninterference

namespace TextToSql.Semantics

open Library Domain Sql Security Application Infrastructure

variable {V : Type} {ops : Operations V} {py : Python} {schema : DatabaseSchema}
  {tenantId : String} {database database' : Database V} {e e' : Expression}

theorem plainWith_withoutLimit (h : PlainWith e) : PlainWith (withoutLimit e) := by
  refine ⟨?_, fun t ht ↦ h.2 t (List.mem_filter.mp ht).1⟩
  have hsub : (withoutLimit e).children.Sublist e.children := List.filter_sublist
  exact (hsub.filter _).length_le.trans h.1

theorem plainNode_withoutLimit (h : PlainNode e) : PlainNode (withoutLimit e) := by
  have hlabel : (withoutLimit e).label.type = e.label.type := rfl
  unfold PlainNode at h ⊢
  rw [hlabel]
  split at h
  · exact h
  · exact plainWith_withoutLimit h
  · exact plainWith_withoutLimit h
  · rw [arg_withoutLimit (by decide)]
    exact ⟨plainWith_withoutLimit h.1, h.2⟩
  · exact h
  · exact h
  · trivial

theorem sound_withoutLimit (hops : ops.Lawful)
    (hsame : SameVisible ops py schema tenantId database database')
    (h : Rewritten py schema tenantId e e') (hf : InFragment e) :
    Sound ops py schema tenantId database database' (withoutLimit e) (withoutLimit e') := by
  obtain ⟨l, ts⟩ := e
  rw [Rewritten] at h
  obtain ⟨us, found, hus, hfound, rfl⟩ := h
  have hrewritten := rewrittenAll_iff.mp hus
  have hchild : List.Forall₂ (Sound ops py schema tenantId database database') ts us :=
    forall₂_imp_mem hrewritten fun t ht u hr ↦ sound_rewritten hops hsame hr (hf.child ht)
  have hsound := sound_filter hchild fun l ↦ decide (l.key ≠ .limit)
  have hplain := plainNode_withoutLimit (hf.plain _ (RoseTree.self_mem_walk _))
  rw [withoutLimit_foldl]
  by_cases hs : l.type.isSelect = true
  · obtain ⟨distinct, hl⟩ : ∃ distinct, l.type = .select distinct := by
      cases htype : l.type <;> first | exact ⟨_, rfl⟩ | (rw [htype] at hs; cases hs)
    have hchildren := plainChildren_of_plainWhere hf.plainWhere
    have hfilter {ts : List Expression} (h : PlainChildren ts) :
        PlainChildren (ts.filter fun t ↦ t.label.key ≠ .limit) :=
      fun t ht ↦ h t (List.mem_filter.mp ht).1
    rw [PlainNode, withoutLimit, RoseTree.label_node, RoseTree.label_node, hl] at hplain
    refine sound_select hops hl hplain (hfilter hchildren)
      (hfilter (plainChildren_rewritten hrewritten hchildren)) (fun t ht ↦ ?_) hsound
    exact exposed_found hl hfound t (List.mem_filter.mp ht).1
  · have hnone : owned py schema l ts = [] := by rw [owned, if_neg hs]
    rw [hnone, List.perm_nil] at hfound
    subst hfound
    exact sound_other hops hsame (by simpa using hs) hplain hsound

theorem bindAll_unlimited {ts : List Expression} (hl : PlainLimit ts) (scope : Scope) :
    Scoped.bindAll ((unlimited ts).map (scoping schema)) scope =
      Scoped.bindAll (ts.map (scoping schema)) scope := by
  induction ts generalizing scope with
  | nil => rfl
  | cons t ts ih =>
    have hts : PlainLimit ts := fun u hu ↦ hl u (.tail _ hu)
    by_cases hk : t.label.key = .limit
    · have hbind : (scoping schema t).bind scope = scope := by
        have htype := hl t List.mem_cons_self hk
        obtain ⟨⟨key, type, comments⟩, us⟩ := t
        rw [RoseTree.label_node] at htype
        rw [scoping_node]
        change Scoped.bindOf _ _ scope = scope
        obtain ⟨rfl, -⟩ | rfl : (type = .limit ∧ _) ∨ type = .fetch := htype
        · rfl
        · rfl
      rw [unlimited, List.filter_cons_of_neg (by simpa using hk), List.map_cons, Scoped.bindAll,
        Scoped.bindAll, List.foldl_cons, hbind]
      exact ih hts scope
    · rw [unlimited, List.filter_cons_of_pos (by simpa using hk), List.map_cons, List.map_cons]
      exact ih hts _

theorem baseTables_withoutLimit (hq : isQuery e.label.type = true) (hl : PlainLimit e.children) :
    baseTables schema (withoutLimit e) ⊆ baseTables schema e := by
  obtain ⟨l, ts⟩ := e
  intro ref href
  obtain ⟨t, ht, hr⟩ := (mem_tables_query_iff hq).mp href
  have hbind : Scoped.bindAll (((RoseTree.node l ts).children.filter fun t ↦
      t.label.key ≠ .limit).map (scoping schema)) {} = _ := bindAll_unlimited hl {}
  rw [hbind] at hr
  exact mem_tables_query hq (List.mem_filter.mp ht).1 hr

theorem value_leaf {l : Node} {text : String} {isString : Bool}
    (hl : l.type = .literal text isString) (ctes : Ctes V) (env : Local V) :
    ((denote ops schema database (.node l [])).meaning ctes).term.value env =
      ops.apply (.literal text isString) [] := by
  have hno : ¬isQuery (.literal text isString) = true := Bool.false_ne_true
  have hfolded : l.folded schema.dialect = l := Node.folded_eq _ (by rw [hl]; rfl)
  rw [denote_node]
  change (if isQuery (l.folded schema.dialect).type then _ else _) = _
  rw [hfolded, hl, if_neg hno, Term.valueOf, hl]
  rfl

theorem rowBound_setLimit (n : Nat) :
    rowBound ops schema database (setLimit e n) =
      ops.count (ops.apply (.literal (toString n) false) []) := by
  rw [rowBound, arg_setLimit, Option.bind_some, value_limit (t := limitNode n) rfl rfl,
    value_leaf rfl]

theorem plainLimit_replaced (n : Nat) : PlainLimit (setLimit e n).children := by
  intro t ht hk
  rw [setLimit, Expression.setArg] at ht
  rcases (RoseTree.mem_children_setChild_iff (p := fun l : Node ↦ decide (l.key = .limit))
    (decide_eq_true rfl)).mp ht with rfl | ⟨-, hno⟩
  · exact .inl ⟨rfl, rfl⟩
  · exact absurd hk (of_decide_eq_false hno)

/-- The statement that is sent to the database, on two databases that the tenant cannot tell
apart. -/
theorem evaluate_final (hops : ops.Lawful)
    (hsame : SameVisible ops py schema tenantId database database') (hf : InFragment e)
    (hl : PlainLimit e.children)
    (hrefs : ∀ ref ∈ baseTables schema e, shielded py schema ref = true) (maxRows : Nat) :
    evaluate ops schema database
        (enforceLimit (rewrite py schema tenantId e).1 maxRows).expression =
      evaluate ops schema database'
        (enforceLimit (rewrite py schema tenantId e).1 maxRows).expression := by
  have hr := @rewritten_rewrite py schema tenantId e hf.plainWhere
  have hresult {t u : Expression} (hs : Sound ops py schema tenantId database database' t u)
      (hshielded : ∀ ref ∈ baseTables schema t, shielded py schema ref = true) :
      evaluate ops schema database u = evaluate ops schema database' u := by
    have hsame := hs.same {} [] rfl hshielded _ (List.Subset.refl _)
    rw [evaluate, evaluate, hsame.term]
  by_cases hreplaces : Replaces (rewrite py schema tenantId e).1 maxRows
  · have hq : isQuery e.label.type = true := (replaces_rewrite.mp hreplaces).1
    have hset := hreplaces.1
    rw [enforceLimit_replaces hreplaces]
    generalize (rewrite py schema tenantId e).1 = e' at hr hset ⊢
    have hlabel : isQuery (setLimit e' maxRows).label.type = true := hset
    rw [evaluate_withoutLimit hlabel (plainLimit_replaced maxRows),
      evaluate_withoutLimit hlabel (plainLimit_replaced maxRows), withoutLimit_setLimit,
      rowBound_setLimit, rowBound_setLimit, hresult (sound_withoutLimit hops hsame hr hf)]
    exact fun ref href ↦ hrefs ref (baseTables_withoutLimit hq hl href)
  · rw [enforceLimit_leaves hreplaces]
    exact hresult (sound_rewritten hops hsame hr hf) hrefs

section Accepted

variable {gate : Gate} {dialect : SQLDialect} {auth : AuthContext} {maxRows : Nat} {sql : String}
  {outcome : ValidationOutcome}

/-- The statement that an accepted candidate becomes returns the same on all databases that agree
on what the tenant may see, if its references to base tables are shielded. -/
theorem isolated_of_shielded (hops : ops.Lawful)
    (h : gate.validator.validate gate.py schema gate.glot sql dialect = .ok outcome)
    (he : outcome.expression = some e)
    (hok : (gate.secureCandidate dialect schema auth maxRows sql).ok = true)
    (hf : InFragment e) (hl : PlainLimit e.children)
    (hrefs : ∀ ref ∈ baseTables schema e, shielded gate.py schema ref = true) :
    (gate.secureCandidate dialect schema auth maxRows sql).finalSql =
        some (gate.glot.sql dialect (gate.finalExpression schema maxRows auth.tenantId e)) ∧
      ∀ database database', SameVisible ops gate.py schema auth.tenantId database database' →
        evaluate ops schema database (gate.finalExpression schema maxRows auth.tenantId e) =
          evaluate ops schema database' (gate.finalExpression schema maxRows auth.tenantId e) := by
  obtain ⟨outcome', prepared, hv, hp, hcharge, hsecured⟩ := Gate.secureCandidate_ok hok
  obtain rfl : outcome' = outcome := Except.ok.inj (hv.symm.trans h)
  obtain ⟨e', hpasses, hexpression, hsql, -, -⟩ := Gate.prepare_ok hp
  obtain rfl : e' = e := Option.some.inj (hpasses.expression.symm.trans he)
  refine ⟨?_, fun database database' hsame ↦ evaluate_final hops hsame hf hl hrefs maxRows⟩
  rw [hsecured, Gate.charge_finalSql hcharge, hsql, hexpression]

end Accepted

instance (e : Expression) : Decidable (PlainWith e) := inferInstanceAs (Decidable (_ ∧ _))

instance (e : Expression) : Decidable (PlainNode e) := by
  unfold PlainNode
  split <;> infer_instance

def postgresOrders : DatabaseSchema := { usersAndOrders with dialect := .postgres }

def finalOrders (sql : String) (e : Expression) : Expression :=
  (Gate.offline sql e).finalExpression postgresOrders 100 "1" e

def securedOrders (sql : String) (e : Expression) : Secured :=
  (Gate.offline sql e).secureCandidate .postgres postgresOrders member 100 sql

theorem isolated_recentRoles :
    (securedOrders recentRolesText recentRoles).finalSql =
        some ((Gate.offline recentRolesText recentRoles).glot.sql .postgres
          (finalOrders recentRolesText recentRoles)) ∧
      ∀ database database', SameVisible integerEngine .ascii postgresOrders "1" database database' →
        evaluate integerEngine postgresOrders database (finalOrders recentRolesText recentRoles) =
          evaluate integerEngine postgresOrders database' (finalOrders recentRolesText recentRoles) :=
  isolated_of_shielded integerEngine_lawful
    (SQLValidator.validate_of_parse (parseStatements_one _ _ _ .postgres))
    (SQLValidator.expression_validated _) (by decide +kernel)
    ⟨by decide +kernel, by decide +kernel⟩ (by decide +kernel) (by decide +kernel)

def swappedColumns : Expression :=
  .mk .this (.select false)
    [.mk .expressions (.column "o" "status") [],
      .mk .from_ .from_
        [.mk .this (.table
          { name := "orders", alias_ := "o", columns := ["organization_id", "id"] }) []]]

def swappedText : String := "SELECT o.status FROM orders AS o(organization_id, id)"

def capturedAlias : Expression :=
  .mk .this (.select false)
    [.node { key := .expressions, type := .column "O" "status", quoted := [.table] } [],
      .mk .from_ .from_
        [.mk .this (.table { name := "orders", alias_ := "O", quoted := [.alias_] }) []],
      .mk .joins (.join "" "" "")
        [.mk .this (.table { name := "users", alias_ := "o" }) [],
          .mk .on_ .eq [.mk .this (.column "o" "id") [],
            .mk .expression (.column "o" "id") []]]]

def capturedText : String :=
  "SELECT \"O\".status FROM orders AS \"O\" JOIN users AS o ON o.id = o.id"

def withOrders (rows : List (List (Option Int))) : Database (Option Int) where
  rows table :=
    if table.name = "orders" then rows
    else if table.name = "users" then [[some 4, some 1]] else []
  other _ := {}

def foreignOrder : Database (Option Int) :=
  withOrders [[some 1, some 2, some 3, some 7, none, none, none]]

/-- The accepted statement shows the order. -/
def ShowsOrder (sql : String) (e : Expression) : Prop :=
  (securedOrders sql e).ok = true ∧
    (evaluate integerEngine postgresOrders foreignOrder (finalOrders sql e)).rows = [[some 7]] ∧
    (evaluate integerEngine postgresOrders (withOrders []) (finalOrders sql e)).rows = []

instance (sql : String) (e : Expression) : Decidable (ShowsOrder sql e) :=
  inferInstanceAs (Decidable (_ ∧ _))

theorem foreign_order_shown :
    SameVisible integerEngine .ascii postgresOrders "1" foreignOrder (withOrders []) ∧
      ShowsOrder swappedText swappedColumns ∧ ShowsOrder capturedText capturedAlias := by
  refine ⟨?_, by decide +kernel, by decide +kernel⟩
  intro table ht
  revert table
  decide +kernel

end TextToSql.Semantics
