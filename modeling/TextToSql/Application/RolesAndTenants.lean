import TextToSql.Application.Gate
import TextToSql.Infrastructure.ReferenceSchema
import TextToSql.Security.Complexity
import TextToSql.Security.RewriterRelations

namespace TextToSql.Application

open Library Domain Sql Security Infrastructure

section Roles

variable {py : Python} {config : SecurityPolicyConfig} {schema : DatabaseSchema}
  {tables columns : List String} {auth auth' : AuthContext}

theorem columnDenials_mono {roles roles' : List String} (hsub : roles ⊆ roles') {ref : String}
    (h : columnDenials py schema roles ref = []) : columnDenials py schema roles' ref = [] := by
  rw [columnDenials] at h ⊢
  cases hl : lookupReference py schema ref with
  | none => rfl
  | some column =>
    rw [hl] at h
    dsimp only at h ⊢
    split at h
    · rename_i hview
      rw [if_pos (canView_mono hsub hview)]
    · cases h

theorem enforce_mono (hsub : auth.roles ⊆ auth'.roles)
    (h : (enforce py config schema tables columns auth).allowed = true) :
    (enforce py config schema tables columns auth').allowed = true := by
  simp only [enforce, denials, List.isEmpty_iff, List.append_eq_nil_iff,
    List.flatMap_eq_nil_iff] at h ⊢
  exact ⟨h.1, fun ref hr ↦ columnDenials_mono hsub (h.2 ref hr)⟩

theorem canView_congr {roles roles' : List String} (h : ∀ role, role ∈ roles ↔ role ∈ roles')
    (c : DataClassification) : canView py c roles = canView py c roles' := by
  rw [Bool.eq_iff_iff]
  constructor
  · exact canView_mono fun role hr ↦ (h role).mp hr
  · exact canView_mono fun role hr ↦ (h role).mpr hr

theorem enforce_congr (h : ∀ role, role ∈ auth.roles ↔ role ∈ auth'.roles) :
    enforce py config schema tables columns auth =
      enforce py config schema tables columns auth' := by
  have hd (ref : String) :
      columnDenials py schema auth.roles ref = columnDenials py schema auth'.roles ref := by
    simp only [columnDenials, canView_congr h]
  rw [enforce, enforce, denials, denials, funext hd]

end Roles

namespace Gate

variable {gate : Gate} {dialect : SQLDialect} {schema : DatabaseSchema}
  {auth auth' : AuthContext} {maxRows : Nat} {outcome : ValidationOutcome} {sql : String}

theorem prepare_mono (ht : auth.tenantId = auth'.tenantId) (hsub : auth.roles ⊆ auth'.roles)
    {prepared : Prepared} (h : gate.prepare dialect schema auth maxRows outcome = .ok prepared) :
    gate.prepare dialect schema auth' maxRows outcome = .ok prepared := by
  unfold prepare at h ⊢
  split at h
  · dsimp only at h ⊢
    split at h
    · rename_i hallowed
      rw [if_pos (enforce_mono hsub hallowed), ← ht]
      exact h
    · cases h
  · cases h

theorem secureCandidate_mono (ht : auth.tenantId = auth'.tenantId)
    (hsub : auth.roles ⊆ auth'.roles)
    (h : (gate.secureCandidate dialect schema auth maxRows sql).ok = true) :
    gate.secureCandidate dialect schema auth' maxRows sql =
      gate.secureCandidate dialect schema auth maxRows sql := by
  obtain ⟨outcome, prepared, hv, hp, -, heq⟩ := secureCandidate_ok h
  rw [heq, secureCandidate, hv]
  dsimp only
  rw [secureOutcome, prepare_mono ht hsub hp]

end Gate

def tenantObject (py : Python) (tenantId : String) : Object :=
  ⟨none, { key := .expression, type := tenantLiteral py tenantId }⟩

/-- The same object, or the tenant literals of the same injected predicate. -/
inductive SameButTenant (py : Python) (t t' : String) (o o' : Object) : Prop where
  | same (h : o = o')
  | tenant (h : o = tenantObject py t) (h' : o' = tenantObject py t')

section Tenants

variable {py : Python} {schema : DatabaseSchema} {t t' : String}

theorem SameButTenant.respects (py : Python) (t t' : String) :
    Respects (SameButTenant py t t') where
  id o o' h := by
    cases h with
    | same h => rw [h]
    | tenant h h' => rw [h, h', tenantObject, tenantObject]
  key o o' h := by
    cases h with
    | same h => rw [h]
    | tenant h h' => rw [h, h', tenantObject, tenantObject]
  connector o o' h := by
    cases h with
    | same h => rw [h]
    | tenant h h' =>
      rw [h, h', tenantObject, tenantObject]
      rfl
  fresh _ := .same rfl

theorem SameButTenant.predicate (qualifier column : String) (key : Arg) :
    RoseTree.Lift (SameButTenant py t t') (newPredicate py t qualifier column key)
      (newPredicate py t' qualifier column key) := by
  simp only [newPredicate, buildPredicate, RoseTree.map_node, List.map_cons, List.map_nil,
    RoseTree.lift_node]
  refine ⟨.same rfl, .cons ?_ (.cons ?_ .nil)⟩
  · exact RoseTree.lift_node.mpr ⟨.same rfl, .nil⟩
  · exact RoseTree.lift_node.mpr ⟨.tenant rfl rfl, .nil⟩

/-- Two tenants get the same statement, but for the literals of the injected predicates. -/
theorem rewriteObjects_parametric (py : Python) (schema : DatabaseSchema) (t t' : String)
    (e : Expression) :
    RoseTree.Lift (SameButTenant py t t') (rewriteObjects py schema t e)
      (rewriteObjects py schema t' e) := by
  refine lift_applyTargets (SameButTenant.respects py t t') ?_
    (RoseTree.Lift.refl (fun _ ↦ .same rfl) _)
  rw [List.forall₂_same]
  exact fun target _ ↦ ⟨rfl, fun key ↦ SameButTenant.predicate _ _ key⟩

theorem scoped_eraseLiteral (py : Python) (schema : DatabaseSchema) (t t' : String)
    (e : Expression) :
    RoseTree.Lift (fun n n' ↦ n.eraseLiteral = n'.eraseLiteral) (rewrite py schema t e).1
      (rewrite py schema t' e).1 := by
  rw [rewrite_fst, rewrite_fst]
  refine (rewriteObjects_parametric py schema t t' e).map fun o o' h ↦ ?_
  cases h with
  | same h => rw [h]
  | tenant h h' =>
    rw [h, h']
    rfl

end Tenants

namespace Gate

variable {gate : Gate} {dialect : SQLDialect} {schema : DatabaseSchema}
  {auth auth' : AuthContext} {maxRows : Nat} {outcome : ValidationOutcome} {sql : String}

theorem final_eraseLiteral (gate : Gate) (schema : DatabaseSchema) (maxRows : Nat)
    (t t' : String) (e : Expression) :
    (gate.finalExpression schema maxRows t e).map Node.eraseLiteral =
      (gate.finalExpression schema maxRows t' e).map Node.eraseLiteral := by
  rw [← RoseTree.lift_iff_map_eq]
  have hscoped := scoped_eraseLiteral gate.py schema t t' e
  have hnode : RoseTree.Lift (fun n n' ↦ n.eraseLiteral = n'.eraseLiteral) (limitNode maxRows)
      (limitNode maxRows) := RoseTree.lift_iff_map_eq.mpr rfl
  have hlimit : RoseTree.Lift (fun n n' ↦ n.eraseLiteral = n'.eraseLiteral)
      (setLimit (rewrite gate.py schema t e).1 maxRows)
      (setLimit (rewrite gate.py schema t' e).1 maxRows) := by
    rw [setLimit, setLimit, Expression.setArg, Expression.setArg]
    refine RoseTree.Lift.setChild (fun n n' h ↦ ?_) hscoped hnode
    rw [← Node.eraseLiteral_key n, h, Node.eraseLiteral_key]
  simp only [finalExpression, scopedExpression, enforceLimit, limitValue_rewrite, label_rewrite]
  split
  · split
    · exact hlimit
    · split
      · exact hlimit
      · exact hscoped
  · exact hscoped

theorem revalidate_of_eraseLiteral (gate : Gate) (schema : DatabaseSchema) {e e' : Expression}
    (h : e.map Node.eraseLiteral = e'.map Node.eraseLiteral) :
    gate.revalidate schema e = { gate.revalidate schema e' with expression := some e } := by
  have hclass : classifyStatement gate.py e = classifyStatement gate.py e' := by
    rw [← classifyStatement_skeleton, skeleton_of_eraseLiteral h, classifyStatement_skeleton]
  rw [revalidate, revalidate, SQLValidator.validateExpression_of_eraseLiteral _ _ _ h]
  simp [SQLValidator.validateExpression, SQLValidator.newOutcome, ValidationOutcome.addAll_eq,
    hclass]

def withoutTenant (secured : Secured) : Secured :=
  { secured with finalSql := none, appliedRewrites := [] }

@[simp] theorem withoutTenant_ok (s : Secured) : (withoutTenant s).ok = s.ok := rfl

@[simp] theorem withoutTenant_issues (s : Secured) : (withoutTenant s).issues = s.issues := rfl

theorem charge_parametric (hno : NoPlanner dialect gate.readonlyEngine) {p p' : Prepared}
    (hexpr : p.expression.skeleton = p'.expression.skeleton) {expression : Option Expression}
    (hrev : p.revalidation = { p'.revalidation with expression }) :
    withoutTenant (gate.charge dialect p) = withoutTenant (gate.charge dialect p') := by
  rw [charge, charge, analyze_of_skeleton gate.config hno hexpr p.sql p'.sql, hrev]
  dsimp only
  split
  · rfl
  · rfl

theorem secureOutcome_parametric (hno : NoPlanner dialect gate.readonlyEngine)
    (hroles : ∀ role, role ∈ auth.roles ↔ role ∈ auth'.roles) :
    withoutTenant (gate.secureOutcome dialect schema auth maxRows outcome) =
      withoutTenant (gate.secureOutcome dialect schema auth' maxRows outcome) := by
  unfold secureOutcome prepare
  cases hv : outcome.isValid with
  | false => rfl
  | true =>
    cases he : outcome.expression with
    | none => rfl
    | some e =>
      have hfinal := final_eraseLiteral gate schema maxRows auth.tenantId auth'.tenantId e
      have hrev := revalidate_of_eraseLiteral gate schema hfinal
      dsimp only
      rw [enforce_congr hroles]
      by_cases hallowed : (enforce gate.py gate.config schema outcome.referencedTables
        outcome.referencedColumns auth').allowed = true
      · rw [if_pos hallowed, if_pos hallowed, congrArg ValidationOutcome.isValid hrev]
        dsimp only
        by_cases hvalid : (gate.revalidate schema
          (gate.finalExpression schema maxRows auth'.tenantId e)).isValid = true
        · rw [if_pos hvalid, if_pos hvalid]
          apply charge_parametric hno
          · exact skeleton_of_eraseLiteral hfinal
          · exact hrev
        · rw [if_neg hvalid, if_neg hvalid, congrArg ValidationOutcome.issues hrev]
      · rw [if_neg hallowed, if_neg hallowed]

/-- More roles keep an accepted candidate with the same result; another tenant changes the tenant
literals of the injected predicates and nothing else. -/
theorem secureCandidate_roles_tenants (gate : Gate) (dialect : SQLDialect)
    (schema : DatabaseSchema) (maxRows : Nat) (sql : String)
    (hno : NoPlanner dialect gate.readonlyEngine) :
    (∀ auth auth' : AuthContext, auth.tenantId = auth'.tenantId → auth.roles ⊆ auth'.roles →
      (gate.secureCandidate dialect schema auth maxRows sql).ok = true →
      gate.secureCandidate dialect schema auth' maxRows sql =
        gate.secureCandidate dialect schema auth maxRows sql) ∧
    ∀ auth auth' : AuthContext, (∀ role, role ∈ auth.roles ↔ role ∈ auth'.roles) →
      (gate.secureCandidate dialect schema auth maxRows sql).ok =
        (gate.secureCandidate dialect schema auth' maxRows sql).ok ∧
      (gate.secureCandidate dialect schema auth maxRows sql).issues.map ValidationIssue.code =
        (gate.secureCandidate dialect schema auth' maxRows sql).issues.map
          ValidationIssue.code ∧
      ∀ e, gate.scopedExpression schema auth.tenantId e =
          (rewriteObjects gate.py schema auth.tenantId e).map Object.node ∧
        gate.scopedExpression schema auth'.tenantId e =
          (rewriteObjects gate.py schema auth'.tenantId e).map Object.node ∧
        RoseTree.Lift (SameButTenant gate.py auth.tenantId auth'.tenantId)
          (rewriteObjects gate.py schema auth.tenantId e)
          (rewriteObjects gate.py schema auth'.tenantId e) := by
  constructor
  · intro auth auth' ht hsub hok
    exact secureCandidate_mono ht hsub hok
  · intro auth auth' hroles
    have hsame : withoutTenant (gate.secureCandidate dialect schema auth maxRows sql) =
        withoutTenant (gate.secureCandidate dialect schema auth' maxRows sql) := by
      unfold secureCandidate
      split
      · rfl
      · exact secureOutcome_parametric hno hroles
    have hissues := congrArg Secured.issues hsame
    rw [withoutTenant_issues, withoutTenant_issues] at hissues
    refine ⟨by simpa using congrArg Secured.ok hsame, by rw [hissues], fun e ↦ ⟨rfl, rfl, ?_⟩⟩
    · exact rewriteObjects_parametric gate.py schema auth.tenantId auth'.tenantId e

def analyst (tenantId : String) : AuthContext := { userId := "u1", tenantId, roles := ["analyst"] }

def orderIdsFor (tenantId : String) : Secured :=
  (offline "SELECT id FROM orders" (selectFrom "id" "orders" [])).secureCandidate .sqlite
    usersAndOrders (analyst tenantId) 100 "SELECT id FROM orders"

theorem secureCandidate_two_tenants :
    (orderIdsFor "1").ok = true ∧ (orderIdsFor "1").ok = (orderIdsFor "2").ok :=
  ⟨by decide +kernel,
    ((secureCandidate_roles_tenants (offline "SELECT id FROM orders" (selectFrom "id" "orders" []))
      .sqlite usersAndOrders 100 "SELECT id FROM orders" (.inl rfl)).2
      (analyst "1") (analyst "2") fun _ ↦ Iff.rfl).1⟩

end Gate

end TextToSql.Application
