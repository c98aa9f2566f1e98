import TextToSql.Application.Container
import TextToSql.Application.RepairLoop

namespace TextToSql.Application

open Domain Sql Security Execution Infrastructure

namespace Orchestrator

variable {γ : Type}

/-- In every execution of the run the guards precede the query. -/
def GuardedRun (run : Run γ) : Prop := ∀ x ∈ run.executions, Guarded x.sent

def withProvider (o : Orchestrator γ) (generate : List (GenerationRequest γ) → GenerationResponse) :
    Orchestrator γ := { o with generate }

/-- The request is answered without a query being sent, whatever the provider generates. -/
inductive NeverExecutes (o : Orchestrator γ) (request : QueryRequest) (auth : AuthContext)
    (execute : Bool) : Prop where
  | preview (h : execute = false)
  | dryRun (h : request.dryRun = true)
  | sqlOnly (h : request.sqlOnly = true)
  | tenant (h : tenantMismatch request auth = true)
  | ambiguous (h : o.detect request.question ≠ none)
  | rejected (h : ∀ sql, (o.secure request auth sql).ok = false)

section Executions

variable {o : Orchestrator γ} {request : QueryRequest} {auth : AuthContext} {execute : Bool}

theorem mem_executions_dispatch {rounds : List (Round γ)} {generation : GenerationResponse}
    {secured : Secured} {attempts : Nat} {x : ExecutorCall}
    (hx : x ∈ (o.dispatch request execute rounds generation secured attempts).executions) :
    (execute && !request.dryRun && !request.sqlOnly) = true ∧ secured.ok = true ∧
      ∃ sql, secured.finalSql = some sql ∧
        x = ⟨sql, o.dialect request, o.effectiveMaxRows request,
          (Execution.execute o.gate.py o.readonlyEngine (o.dialect request) o.statementTimeoutMs
            sql (o.effectiveMaxRows request)).1⟩ := by
  unfold dispatch at hx
  split at hx
  · rename_i sql hok hsql
    split at hx
    · rename_i hdo
      exact ⟨hdo, hok, sql, hsql, List.mem_singleton.mp hx⟩
    · cases hx
  · cases hx

theorem mem_executions {x : ExecutorCall}
    (hx : x ∈ (o.process request auth execute).executions) :
    tenantMismatch request auth = false ∧ o.detect request.question = none ∧
      ∃ rounds last attempts,
        o.generateWithRepair request auth [] none 0 o.maxRepairAttempts = (rounds, attempts) ∧
        rounds.getLast? = some last ∧
        x ∈ (o.dispatch request execute rounds last.generation last.secured
          attempts).executions := by
  unfold process at hx
  split at hx
  · cases hx
  · rename_i hmismatch
    split at hx
    · cases hx
    · rename_i hdetect
      dsimp only at hx
      split at hx
      · cases hx
      · rename_i last hlast
        exact ⟨by simpa using hmismatch, hdetect, _, last, _, rfl, hlast, hx⟩

theorem guardedRun_of_postgres (h : o.dialect request = .postgres) :
    GuardedRun (o.process request auth execute) := by
  intro x hx
  obtain ⟨-, -, rounds, last, attempts, -, -, hx⟩ := mem_executions hx
  obtain ⟨-, -, sql, -, rfl⟩ := mem_executions_dispatch hx
  rw [h]
  exact guarded_execute_postgres

theorem executions_of_neverExecutes (h : NeverExecutes o request auth execute) :
    (o.process request auth execute).executions = [] := by
  refine List.eq_nil_iff_forall_not_mem.mpr fun x hx ↦ ?_
  obtain ⟨htenant, hdetect, rounds, last, attempts, hloop, hlast, hx⟩ := mem_executions hx
  obtain ⟨hdo, hok, -⟩ := mem_executions_dispatch hx
  cases h with
  | preview h => simp [h] at hdo
  | dryRun h => simp [h] at hdo
  | sqlOnly h => simp [h] at hdo
  | tenant h => simp [h] at htenant
  | ambiguous h => exact h hdetect
  | rejected h =>
    have hl := loop_generateWithRepair o request auth [] none 0 o.maxRepairAttempts
    rw [hloop] at hl
    have hc := (hl.checked last (List.mem_of_getLast? hlast))
    have hs := h last.generation.sql
    rw [secure, ← hc.auth, ← hc.maxRows, ← hc.secured, hok] at hs
    cases hs

theorem executions_of_accepted {sql : String}
    (hdo : (execute && !request.dryRun && !request.sqlOnly) = true)
    (htenant : tenantMismatch request auth = false) (hdetect : o.detect request.question = none)
    (hgenerate : ∀ sent, (o.generate sent).sql = sql)
    (hok : (o.secure request auth sql).ok = true) :
    ∃ final, (o.process request auth execute).executions =
      [⟨final, o.dialect request, o.effectiveMaxRows request,
        (Execution.execute o.gate.py o.readonlyEngine (o.dialect request) o.statementTimeoutMs
          final (o.effectiveMaxRows request)).1⟩] := by
  obtain ⟨final, hfinal⟩ := finalSql_of_ok hok
  have hround : (o.round request auth [] none).secured = o.secure request auth sql :=
    congrArg (o.secure request auth) (hgenerate _)
  have hloop (n : Nat) : o.generateWithRepair request auth [] none 0 n =
      ([o.round request auth [] none], 0) := by
    cases n with
    | zero => rfl
    | succ n => rw [generateWithRepair, hround, if_pos hok]
  refine ⟨final, ?_⟩
  have hfinal : (o.secure request auth sql).finalSql = some final := hfinal
  simp [process, htenant, hdetect, hloop, dispatch, hround, hok, hfinal, hdo, executeFinal]

end Executions

/-- For every provider the guards come before the query, exactly when the dialect in effect is
PostgreSQL or the request never leads to an execution. -/
theorem guardedRun_iff (o : Orchestrator γ) (request : QueryRequest) (auth : AuthContext)
    (execute : Bool) :
    (∀ generate, GuardedRun ((o.withProvider generate).process request auth execute)) ↔
      o.dialect request = .postgres ∨ NeverExecutes o request auth execute := by
  constructor
  · intro h
    by_contra hno
    obtain ⟨hdialect, hno⟩ := not_or.mp hno
    have hsqlite : o.dialect request = .sqlite := by
      cases hd : o.dialect request with
      | sqlite => rfl
      | postgres => exact absurd hd hdialect
    have hdo : (execute && !request.dryRun && !request.sqlOnly) = true := by
      by_contra hdo
      simp only [Bool.and_eq_true, Bool.not_eq_true', not_and_or, Bool.not_eq_true,
        Bool.not_eq_false] at hdo
      rcases hdo with (h | h) | h
      · exact hno (.preview h)
      · exact hno (.dryRun h)
      · exact hno (.sqlOnly h)
    have htenant : tenantMismatch request auth = false := by
      by_contra h
      exact hno (.tenant (by simpa using h))
    have hdetect : o.detect request.question = none := by
      by_contra h
      exact hno (.ambiguous h)
    have hok : ∃ sql, (o.secure request auth sql).ok = true := by
      by_contra h
      exact hno (.rejected fun sql ↦ by simpa using not_exists.mp h sql)
    obtain ⟨sql, hok⟩ := hok
    have hg := h fun _ ↦ { sql }
    obtain ⟨final, hx⟩ := @executions_of_accepted _ (o.withProvider fun _ ↦ { sql }) request auth
      execute sql hdo htenant hdetect (fun _ ↦ rfl) hok
    rw [GuardedRun, hx] at hg
    have hg := hg _ List.mem_cons_self
    rw [show (o.withProvider fun _ ↦ { sql }).dialect request = .sqlite from hsqlite] at hg
    exact not_guarded_execute_sqlite hg
  · rintro (h | h) generate
    · exact @guardedRun_of_postgres _ (o.withProvider generate) request auth execute h
    · have hnever : NeverExecutes (o.withProvider generate) request auth execute := by
        cases h with
        | preview h => exact .preview h
        | dryRun h => exact .dryRun h
        | sqlOnly h => exact .sqlOnly h
        | tenant h => exact .tenant h
        | ambiguous h => exact .ambiguous h
        | rejected h => exact .rejected h
      rw [GuardedRun, executions_of_neverExecutes hnever]
      exact fun _ hx ↦ nomatch hx

def postgresDeployment : Orchestrator Unit :=
  create { defaultSettings with sqlDialect := .postgres } .ascii
    (.one "SELECT status FROM orders" (selectFrom "status" "orders" [])
      "SELECT status FROM orders WHERE orders.organization_id = 1 LIMIT 1000")
    { usersAndOrders with dialect := .postgres }
    { backend := .postgresql, answer := fun _ _ ↦ .ok ⟨["status"], []⟩ }
    (fun _ ↦ none) (fun _ ↦ { sql := "SELECT status FROM orders" })

def sqliteRequest : QueryRequest where
  question := "order statuses"
  question_length := by decide
  dialect := some .sqlite
  maxRows_bounds := QueryRequest.bounds_of_none

/-- The dialect of the request turns the guards off: the query is the only statement sent. -/
theorem unguarded_dialect_override :
    postgresDeployment.readonlyEngine.backend = .postgresql ∧
      ¬GuardedRun (postgresDeployment.process sqliteRequest ⟨"u1", "1", []⟩ true) := by
  refine ⟨rfl, fun h ↦ ?_⟩
  have hsent : (postgresDeployment.process sqliteRequest ⟨"u1", "1", []⟩ true).executions.map
      (·.sent) = [[.query
        "SELECT status FROM orders WHERE orders.organization_id = 1 LIMIT 1000"]] := by
    decide +kernel
  obtain ⟨x, hx, hq⟩ := List.mem_map.mp (hsent ▸ List.mem_singleton_self _)
  have hguard := (h x hx [] _ [] hq).1
  cases hguard

end Orchestrator

end TextToSql.Application
