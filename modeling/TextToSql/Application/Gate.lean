import TextToSql.Security.Cost
import TextToSql.Security.Rewriter
import TextToSql.Sql.Normalizer

namespace TextToSql.Application

open Domain Sql Security

/-- The result of running one candidate through all deterministic checks. -/
structure Secured where
  ok : Bool
  issues : List ValidationIssue := []
  finalSql : Option String := none
  statementType : StatementType := .other
  referencedTables : List String := []
  referencedColumns : List String := []
  appliedRewrites : List String := []
  cost : Option CostReport := none

/-- A candidate that has passed every check but the cost analysis. -/
structure Prepared where
  expression : Expression
  sql : String
  revalidation : ValidationOutcome
  appliedRewrites : List String

/-- The components that `_secure_candidate` calls. -/
structure Gate where
  py : Python
  glot : Sqlglot
  validator : SQLValidator
  config : SecurityPolicyConfig
  readonlyEngine : Option Planner

namespace Gate

def offline (sql : String) (e : Expression) : Gate where
  py := .ascii
  glot := .one sql e sql
  validator := {}
  config := {}
  readonlyEngine := none

variable (gate : Gate) (dialect : SQLDialect) (schema : DatabaseSchema) (auth : AuthContext)
  (maxRows : Nat)

def scopedExpression (tenantId : String) (e : Expression) : Expression :=
  (rewrite gate.py schema tenantId e).1

/-- The statement that is sent to the database. -/
def finalExpression (tenantId : String) (e : Expression) : Expression :=
  (enforceLimit (gate.scopedExpression schema tenantId e) maxRows).expression

def revalidate (e : Expression) : ValidationOutcome :=
  gate.validator.validateExpression gate.py schema e (SQLValidator.newOutcome gate.py [e])

def reject (outcome : ValidationOutcome) (issues : List ValidationIssue) : Secured :=
  { ok := false
    issues
    statementType := outcome.statementType
    referencedTables := outcome.referencedTables
    referencedColumns := outcome.referencedColumns }

/-- Steps 2 to 5: policy, tenant rewrite, limit, second validation. -/
def prepare (outcome : ValidationOutcome) : Except Secured Prepared :=
  match outcome.isValid, outcome.expression with
  | true, some e =>
    let decision := enforce gate.py gate.config schema outcome.referencedTables
      outcome.referencedColumns auth
    if decision.allowed then
      let final := gate.finalExpression schema maxRows auth.tenantId e
      let revalidation := gate.revalidate schema final
      if revalidation.isValid then
        .ok
          { expression := final
            sql := normalizeSql gate.glot final dialect
            revalidation
            appliedRewrites := (rewrite gate.py schema auth.tenantId e).2 }
      else .error { ok := false, issues := revalidation.issues }
    else .error (reject outcome decision.issues)
  | _, _ => .error (reject outcome outcome.issues)

/-- Step 6: cost and complexity. -/
def charge (prepared : Prepared) : Secured :=
  let cost := analyze gate.py gate.config prepared.expression prepared.sql dialect
    gate.readonlyEngine
  if cost.allowed then
    { ok := true
      finalSql := some prepared.sql
      statementType := prepared.revalidation.statementType
      referencedTables := prepared.revalidation.referencedTables
      referencedColumns := prepared.revalidation.referencedColumns
      appliedRewrites := prepared.appliedRewrites
      cost := some cost }
  else { ok := false, issues := cost.issues, cost := some cost }

def secureOutcome (outcome : ValidationOutcome) : Secured :=
  match gate.prepare dialect schema auth maxRows outcome with
  | .error secured => secured
  | .ok prepared => gate.charge dialect prepared

def secureCandidate (sql : String) : Secured :=
  match gate.validator.validate gate.py schema gate.glot sql dialect with
  | .error exc =>
    { ok := false
      issues :=
        [{ code := "sql_parse_failed"
           message := exc.reason.getD "SQL could not be parsed." }] }
  | .ok outcome => gate.secureOutcome dialect schema auth maxRows outcome

section Steps

variable {gate dialect schema auth maxRows} {outcome : ValidationOutcome}

/-- The first validation, the policy and the second validation all pass. -/
structure Passes (gate : Gate) (schema : DatabaseSchema) (auth : AuthContext) (maxRows : Nat)
    (outcome : ValidationOutcome) (e : Expression) : Prop where
  valid : outcome.isValid = true
  expression : outcome.expression = some e
  allowed : (enforce gate.py gate.config schema outcome.referencedTables
    outcome.referencedColumns auth).allowed = true
  revalidated :
    (gate.revalidate schema (gate.finalExpression schema maxRows auth.tenantId e)).isValid = true

theorem prepare_ok {prepared : Prepared}
    (h : gate.prepare dialect schema auth maxRows outcome = .ok prepared) :
    ∃ e, Passes gate schema auth maxRows outcome e ∧
      prepared.expression = gate.finalExpression schema maxRows auth.tenantId e ∧
      prepared.sql = gate.glot.sql dialect prepared.expression ∧
      prepared.revalidation = gate.revalidate schema prepared.expression ∧
      prepared.appliedRewrites = (rewrite gate.py schema auth.tenantId e).2 := by
  unfold prepare at h
  split at h
  · rename_i e hv he
    dsimp only at h
    split at h
    · rename_i ha
      split at h
      · rename_i hr
        cases h
        exact ⟨e, ⟨hv, he, ha, hr⟩, rfl, rfl, rfl, rfl⟩
      · cases h
    · cases h
  · cases h

theorem prepare_error {secured : Secured}
    (h : gate.prepare dialect schema auth maxRows outcome = .error secured) :
    secured.ok = false := by
  unfold prepare at h
  split at h
  · dsimp only at h
    split at h
    · split at h
      · cases h
      · cases h
        rfl
    · cases h
      rfl
  · cases h
    rfl

theorem charge_ok {prepared : Prepared} :
    (gate.charge dialect prepared).ok =
      (analyze gate.py gate.config prepared.expression prepared.sql dialect
        gate.readonlyEngine).allowed := by
  unfold charge
  dsimp only
  split
  · rename_i h
    exact h.symm
  · rename_i h
    exact (Bool.not_eq_true _ ▸ h).symm

theorem secureCandidate_ok {sql : String}
    (h : (gate.secureCandidate dialect schema auth maxRows sql).ok = true) :
    ∃ outcome prepared,
      gate.validator.validate gate.py schema gate.glot sql dialect = .ok outcome ∧
      gate.prepare dialect schema auth maxRows outcome = .ok prepared ∧
      (gate.charge dialect prepared).ok = true ∧
      gate.secureCandidate dialect schema auth maxRows sql = gate.charge dialect prepared := by
  unfold secureCandidate at h ⊢
  split at h
  · cases h
  · rename_i outcome hv
    unfold secureOutcome at h ⊢
    split at h
    · rename_i secured hp
      rw [prepare_error hp] at h
      cases h
    · rename_i prepared hp
      refine ⟨outcome, prepared, hv, hp, h, rfl⟩

theorem charge_finalSql {prepared : Prepared} (h : (gate.charge dialect prepared).ok = true) :
    (gate.charge dialect prepared).finalSql = some prepared.sql := by
  rw [charge_ok] at h
  simp [charge, h]

end Steps

end Gate

end TextToSql.Application
