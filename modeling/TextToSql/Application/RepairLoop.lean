import TextToSql.Application.Orchestrator

namespace TextToSql.Application

open Domain Sql Security Execution

/-- A failure after which the provider is asked again. -/
structure Retryable (secured : Secured) : Prop where
  failed : secured.ok = false
  issues : secured.issues ≠ []
  repairable : ∀ i ∈ secured.issues, i.code ∉ nonRepairableCodes

namespace Orchestrator

variable {γ : Type} {o : Orchestrator γ} {request : QueryRequest} {auth : AuthContext}

/-- The candidate of a round was checked by the whole gate, for this caller and row bound. -/
structure Checked (o : Orchestrator γ) (request : QueryRequest) (auth : AuthContext)
    (r : Round γ) : Prop where
  auth : r.auth = auth
  maxRows : r.maxRows = o.effectiveMaxRows request
  secured : r.secured =
    o.gate.secureCandidate (o.dialect request) o.schema r.auth r.maxRows r.generation.sql

/-- What the loop guarantees about its rounds, when `sent` requests came before them. -/
structure Loop (o : Orchestrator γ) (request : QueryRequest) (auth : AuthContext)
    (sent : List (GenerationRequest γ)) (rounds : List (Round γ)) : Prop where
  nonempty : rounds ≠ []
  checked : ∀ r ∈ rounds, Checked o request auth r
  answered : ∀ i (h : i < rounds.length),
    rounds[i].generation = o.generate (sent ++ (rounds.take (i + 1)).map (·.request))
  chain : rounds.IsChain fun r _ ↦ Retryable r.secured

theorem checked_round (sent : List (GenerationRequest γ)) (repair : Option RepairContext) :
    Checked o request auth (o.round request auth sent repair) := ⟨rfl, rfl, rfl⟩

theorem loop_singleton (sent : List (GenerationRequest γ)) (repair : Option RepairContext) :
    Loop o request auth sent [o.round request auth sent repair] where
  nonempty := List.cons_ne_nil _ _
  checked := by simpa using checked_round sent repair
  answered := by
    intro i h
    obtain rfl : i = 0 := by simpa using h
    rfl
  chain := List.isChain_singleton _

theorem loop_cons {sent : List (GenerationRequest γ)} {repair : Option RepairContext}
    {rounds : List (Round γ)} (hr : Retryable (o.round request auth sent repair).secured)
    (h : Loop o request auth (sent ++ [(o.round request auth sent repair).request]) rounds) :
    Loop o request auth sent (o.round request auth sent repair :: rounds) where
  nonempty := List.cons_ne_nil _ _
  checked := by
    intro r hmem
    rcases List.mem_cons.mp hmem with rfl | hmem
    · exact checked_round sent repair
    · exact h.checked r hmem
  answered := by
    intro i hi
    cases i with
    | zero => rfl
    | succ i => simpa using h.answered i (by simpa using hi)
  chain := (List.isChain_cons_iff _ _ _).mpr (.inr (by
    cases rounds with
    | nil => exact absurd rfl h.nonempty
    | cons next rest => exact ⟨next, rest, hr, h.chain, rfl⟩))

theorem retryable_of_isRepairable {secured : Secured} (hok : secured.ok = false)
    (h : isRepairable secured.issues = true) : Retryable secured := by
  obtain ⟨hnon, i, hi, -⟩ := isRepairable_iff.mp h
  exact ⟨hok, List.ne_nil_of_mem hi, hnon⟩

theorem loop_generateWithRepair (o : Orchestrator γ) (request : QueryRequest)
    (auth : AuthContext) (sent : List (GenerationRequest γ))
    (repair : Option RepairContext) (attempts remaining : Nat) :
    Loop o request auth sent
      (o.generateWithRepair request auth sent repair attempts remaining).1 := by
  induction remaining generalizing sent repair attempts with
  | zero => exact loop_singleton sent repair
  | succ remaining ih =>
    rw [generateWithRepair]
    split
    · exact loop_singleton sent repair
    · rename_i hok
      split
      · rename_i hrep
        exact loop_cons (retryable_of_isRepairable (by simpa using hok) hrep) (ih _ _ _)
      · exact loop_singleton sent repair

/-- The number of repairs is one less than the number of calls, and bounded. -/
theorem length_generateWithRepair (o : Orchestrator γ) (request : QueryRequest)
    (auth : AuthContext) (sent : List (GenerationRequest γ))
    (repair : Option RepairContext) (attempts remaining : Nat) :
    let looped := o.generateWithRepair request auth sent repair attempts remaining
    looped.2 + 1 = attempts + looped.1.length ∧ looped.1.length ≤ remaining + 1 := by
  induction remaining generalizing sent repair attempts with
  | zero => exact ⟨rfl, le_rfl⟩
  | succ remaining ih =>
    rw [generateWithRepair]
    split
    · simp
    · split
      · have h := ih (sent ++ [(o.round request auth sent repair).request]) (some
          { attempt := attempts + 1
            attempt_pos := Nat.le_add_left 1 attempts
            previousSql := (o.round request auth sent repair).generation.sql
            errors := sanitizedFeedback (o.round request auth sent repair).secured.issues })
          (attempts + 1)
        simp only [List.length_cons] at h ⊢
        omega
      · simp

/-- The number of repairs that a run reports, in its model metadata or in the error details. -/
def reportedAttempts : Except EngineError QueryResponse → Option Nat
  | .ok response => response.model.map (·.repairAttempts)
  | .error error =>
    match error.details with
    | .rejected _ attempts => some attempts
    | _ => none

def rejectionTypes : List ErrorType :=
  [.authorizationError, .costRejectedError, .sqlValidationError, .repairExhaustedError]

theorem failure_type (secured : Secured) (attempts : Nat) :
    (failure secured attempts).type ∈ rejectionTypes ∧
      (failure secured attempts).details = .rejected secured.issues attempts := by
  unfold failure
  dsimp only
  split
  · exact ⟨by simp [rejectionTypes], rfl⟩
  · split
    · exact ⟨by simp [rejectionTypes], rfl⟩
    · split
      · exact ⟨by simp [rejectionTypes], rfl⟩
      · exact ⟨by simp [rejectionTypes], rfl⟩

theorem finalSql_of_ok {gate : Gate} {dialect : SQLDialect} {schema : DatabaseSchema}
    {maxRows : Nat} {sql : String}
    (h : (gate.secureCandidate dialect schema auth maxRows sql).ok = true) :
    ∃ final, (gate.secureCandidate dialect schema auth maxRows sql).finalSql = some final := by
  obtain ⟨outcome, prepared, -, -, hc, heq⟩ := Gate.secureCandidate_ok h
  exact ⟨prepared.sql, by rw [heq, Gate.charge_finalSql hc]⟩

/-- What a run guarantees about generation, checking and execution. -/
structure Gated (o : Orchestrator γ) (request : QueryRequest) (auth : AuthContext)
    (run : Run γ) : Prop where
  /-- generation is reached unless the tenant is refused or the question is ambiguous -/
  reached : tenantMismatch request auth = false → o.detect request.question = none →
    run.rounds ≠ []
  bounded : run.rounds.length ≤ o.maxRepairAttempts + 1
  reported : ∀ n, reportedAttempts run.outcome = some n → n + 1 = run.rounds.length
  loop : run.rounds ≠ [] → Loop o request auth [] run.rounds
  atMostOnce : run.executions.length ≤ 1
  executed : ∀ x ∈ run.executions, ∃ last, run.rounds.getLast? = some last ∧
    last.secured.ok = true ∧ last.secured.finalSql = some x.sql
  rejected : ∀ last, run.rounds.getLast? = some last → last.secured.ok = false →
    run.executions = [] ∧ ∃ error, run.outcome = .error error ∧ error.type ∈ rejectionTypes ∧
      ∃ n, error.details = .rejected last.secured.issues n

theorem reportedAttempts_metadata {generation : GenerationResponse} {attempts n : Nat}
    (h : (o.modelMetadata generation attempts).map (·.repairAttempts) = some n) :
    n = attempts := by
  unfold modelMetadata at h
  split at h
  · simpa using h.symm
  · cases h

section Dispatch

variable {execute : Bool} {rounds : List (Round γ)} {last : Round γ} {attempts : Nat}

theorem gated_failure (hloop : Loop o request auth [] rounds)
    (hlength : attempts + 1 = rounds.length) (hbound : rounds.length ≤ o.maxRepairAttempts + 1)
    (hlast : rounds.getLast? = some last) (hok : last.secured.ok = false) :
    Gated o request auth
      (o.dispatch request execute rounds last.generation last.secured attempts) := by
  obtain ⟨htype, hdetails⟩ := failure_type last.secured attempts
  simp only [dispatch, hok]
  refine ⟨fun _ _ ↦ hloop.nonempty, hbound, ?_, fun _ ↦ hloop, Nat.zero_le 1,
    (fun _ hx ↦ nomatch hx), ?_⟩
  · intro n hn
    simp only [reportedAttempts, hdetails, Option.some.injEq] at hn
    rw [← hn, hlength]
  · intro last' hlast' _
    obtain rfl := Option.some.inj (hlast.symm.trans hlast')
    exact ⟨rfl, _, rfl, htype, _, hdetails⟩

theorem reportedAttempts_executeFinal {sql : String} {generation : GenerationResponse}
    {secured : Secured} {n : Nat}
    (h : reportedAttempts
      (o.executeFinal request rounds generation secured attempts sql).outcome = some n) :
    n = attempts := by
  simp only [executeFinal] at h
  cases hx : (Execution.execute o.gate.py o.readonlyEngine (o.dialect request)
    o.statementTimeoutMs sql (o.effectiveMaxRows request)).2 with
  | error error =>
    obtain ⟨-, reason, hreason⟩ := Execution.execute_error hx
    rw [hx] at h
    simp [reportedAttempts, Except.map, hreason] at h
  | ok result =>
    rw [hx] at h
    exact reportedAttempts_metadata h

theorem gated_accepted (hloop : Loop o request auth [] rounds)
    (hlength : attempts + 1 = rounds.length) (hbound : rounds.length ≤ o.maxRepairAttempts + 1)
    (hlast : rounds.getLast? = some last) (hok : last.secured.ok = true) :
    Gated o request auth
      (o.dispatch request execute rounds last.generation last.secured attempts) := by
  have hchecked := (hloop.checked last (List.mem_of_getLast? hlast)).secured
  obtain ⟨sql, hsql⟩ := finalSql_of_ok (by rw [← hchecked, hok])
  rw [← hchecked] at hsql
  have hrejected : ∀ last', rounds.getLast? = some last' → last'.secured.ok ≠ false := by
    intro last' hlast'
    obtain rfl := Option.some.inj (hlast.symm.trans hlast')
    simp [hok]
  simp only [dispatch, hok, hsql]
  split
  · refine ⟨fun _ _ ↦ hloop.nonempty, hbound, ?_, fun _ ↦ hloop, le_rfl, ?_,
      fun last' hlast' hno ↦ absurd hno (hrejected last' hlast')⟩
    · intro n hn
      rw [reportedAttempts_executeFinal hn]
      exact hlength
    · intro x hx
      obtain rfl := List.mem_singleton.mp hx
      exact ⟨last, hlast, hok, hsql⟩
  · refine ⟨fun _ _ ↦ hloop.nonempty, hbound, ?_, fun _ ↦ hloop, Nat.zero_le 1,
      (fun _ hx ↦ nomatch hx), fun last' hlast' hno ↦ absurd hno (hrejected last' hlast')⟩
    intro n hn
    rw [reportedAttempts_metadata hn]
    exact hlength

end Dispatch

/-- Every run, for every provider, request, caller and bound on the repairs. -/
theorem process_gated (o : Orchestrator γ) (request : QueryRequest) (auth : AuthContext)
    (execute : Bool) : Gated o request auth (o.process request auth execute) := by
  unfold process
  split
  · rename_i hmismatch
    refine ⟨fun h ↦ absurd hmismatch (by simp [h]), Nat.zero_le _, (fun n hn ↦ nomatch hn),
      fun h ↦ absurd rfl h, Nat.zero_le 1, (fun _ hx ↦ nomatch hx), (fun _ hlast ↦ nomatch hlast)⟩
  · split
    · rename_i hdetect
      refine ⟨fun _ h ↦ absurd (hdetect.symm.trans h) (by simp), Nat.zero_le _,
        (fun n hn ↦ nomatch hn), fun h ↦ absurd rfl h, Nat.zero_le 1, (fun _ hx ↦ nomatch hx),
        (fun _ hlast ↦ nomatch hlast)⟩
    · have hloop := loop_generateWithRepair o request auth [] none 0 o.maxRepairAttempts
      obtain ⟨hlength, hbound⟩ :=
        length_generateWithRepair o request auth [] none 0 o.maxRepairAttempts
      dsimp only
      cases hlast : (o.generateWithRepair request auth [] none 0 o.maxRepairAttempts).1.getLast?
        with
      | none => exact absurd (List.getLast?_eq_none_iff.mp hlast) hloop.nonempty
      | some last =>
        cases hok : last.secured.ok with
        | false => exact gated_failure hloop (by omega) hbound hlast hok
        | true => exact gated_accepted hloop (by omega) hbound hlast hok

end Orchestrator

end TextToSql.Application
