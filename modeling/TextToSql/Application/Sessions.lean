import TextToSql.Application.RepairLoop
import TextToSql.Library.Processes
import TextToSql.Llm.Retries

namespace TextToSql

def Domain.AmbiguityCategory.value : Domain.AmbiguityCategory → String
  | .metricDefinition => "metric_definition"
  | .timeRange => "time_range"
  | .entityReference => "entity_reference"
  | .measureUnspecified => "measure_unspecified"
  | .unknownTerm => "unknown_term"

namespace Application

open Domain Sql Security Execution

/-- The exceptions that leave `process`. -/
inductive Fault where
  | engine (error : EngineError)
  | provider (error : Llm.OpenaiAdapter.ProviderError)
  | unhandled

/-- The exceptions that leave a provider. -/
inductive ProviderFault where
  | provider (error : Llm.OpenaiAdapter.ProviderError)
  | unhandled

def ProviderFault.fault : ProviderFault → Fault
  | .provider error => .provider error
  | .unhandled => .unhandled

/-- What the database answers at one moment: to the planner of the gate, and to a query. -/
structure Environment where
  planner : Option Planner
  engine : Engine

/-- A call of `inc` by one, other than the one that counts suspicious questions. -/
structure Increment where
  counter : String
  labels : List (String × String) := []
  deriving DecidableEq

/-- Where a call of `process` waits, or how it has ended. -/
inductive Phase (γ : Type) where
  /-- for the provider, with the requests sent before this one and the attempts left after it -/
  | generating (sent : List (GenerationRequest γ)) (repair : Option RepairContext)
      (attempts remaining : ℕ)
  /-- for the thread in which the accepted statement runs -/
  | executing (generation : GenerationResponse) (secured : Secured) (attempts : ℕ) (sql : String)
  | finished (outcome : Except Fault QueryResponse)

/-- One call of `process`, from the schema that it was served. It has bound an id of its own, and
the transport has bound one around it. -/
structure Session (γ : Type) where
  request : QueryRequest
  auth : AuthContext
  execute : Bool
  correlationId : String
  bound : String
  schema : DatabaseSchema
  rounds : List (Round γ) := []
  executions : List ExecutorCall := []
  phase : Phase γ

/-- What wakes a session up. -/
inductive Input where
  | generated (answer : Except ProviderFault GenerationResponse)
  | executed

def modeLabel (mode : String) : List (String × String) := [("mode", mode)]

def requestsTotal (execute : Bool) : Increment :=
  ⟨"t2sql_requests_total", modeLabel (if execute then "execute" else "preview")⟩

def clarificationsTotal (category : AmbiguityCategory) : Increment :=
  ⟨"t2sql_clarifications_total", [("category", category.value)]⟩

def repairAttemptsTotal : Increment := { counter := "t2sql_repair_attempts_total" }

def requestsRejectedTotal : Increment := { counter := "t2sql_requests_rejected_total" }

def requestsSuccessTotal (mode : String) : Increment :=
  ⟨"t2sql_requests_success_total", modeLabel mode⟩

namespace Session

variable {γ : Type} (o : Orchestrator γ) (s : Session γ)

def orchestrator (env : Environment)
    (generate : List (GenerationRequest γ) → GenerationResponse) : Orchestrator γ :=
  { o with
    gate := { o.gate with readonlyEngine := env.planner }
    readonlyEngine := env.engine
    schema := s.schema
    generate
    sanitizeCorrelationId := fun _ ↦ s.correlationId }

def settle (env : Environment) (generation : GenerationResponse) (secured : Secured)
    (attempts : ℕ) : Session γ × List Increment :=
  match secured.ok, secured.finalSql with
  | true, some sql =>
    if s.execute && !s.request.dryRun && !s.request.sqlOnly then
      ({ s with phase := .executing generation secured attempts sql }, [])
    else
      ({ s with
          phase := .finished (.ok ((s.orchestrator o env fun _ ↦ generation).preview s.request
            generation secured attempts)) },
        [requestsSuccessTotal "preview"])
  | _, _ =>
    ({ s with phase := .finished (.error (.engine (failure secured attempts))) },
      [requestsRejectedTotal])

def recorded (current : Round γ) : Session γ := { s with rounds := s.rounds ++ [current] }

theorem one_le_succ (attempts : ℕ) : 1 ≤ attempts + 1 := Nat.le_add_left 1 attempts

def repairContext (current : Round γ) (attempts : ℕ) : RepairContext where
  attempt := attempts + 1
  attempt_pos := one_le_succ attempts
  previousSql := current.generation.sql
  errors := sanitizedFeedback current.secured.issues

def repaired (current : Round γ) (sent : List (GenerationRequest γ)) (attempts remaining : ℕ) :
    Session γ :=
  { s.recorded current with
    phase := .generating (sent ++ [current.request]) (some (repairContext current attempts))
      (attempts + 1) remaining }

def judge (env : Environment) (sent : List (GenerationRequest γ)) (repair : Option RepairContext)
    (attempts remaining : ℕ) (generation : GenerationResponse) : Session γ × List Increment :=
  let current := (s.orchestrator o env fun _ ↦ generation).round s.request s.auth sent repair
  if current.secured.ok then
    (s.recorded current).settle o env generation current.secured attempts
  else
    match remaining with
    | 0 => (s.recorded current).settle o env generation current.secured attempts
    | remaining + 1 =>
      if isRepairable current.secured.issues then
        (s.repaired current sent attempts remaining, [repairAttemptsTotal])
      else (s.recorded current).settle o env generation current.secured attempts

def conclude (env : Environment) (generation : GenerationResponse) (secured : Secured)
    (attempts : ℕ) (sql : String) : Session γ × List Increment :=
  let run := (s.orchestrator o env fun _ ↦ generation).executeFinal s.request s.rounds generation
    secured attempts sql
  ({ s with executions := run.executions, phase := .finished (run.outcome.mapError .engine) },
    match run.outcome with
    | .ok _ => [requestsSuccessTotal "execute"]
    | .error _ => [])

/-- One step of a session; an input that it does not wait for changes nothing. -/
def resume (env : Environment) (input : Input) : Session γ × List Increment :=
  match s.phase, input with
  | .generating sent repair attempts remaining, .generated (.ok generation) =>
    s.judge o env sent repair attempts remaining generation
  | .generating _ _ _ _, .generated (.error fault) =>
    ({ s with phase := .finished (.error fault.fault) }, [])
  | .executing generation secured attempts sql, .executed =>
    s.conclude o env generation secured attempts sql
  | _, _ => (s, [])

abbrev Wake : Type := Environment × Input

def next (w : Wake) : Session γ := (s.resume o w.1 w.2).1

def run (ws : List Wake) : Session γ := ws.foldl (next o) s

def opened (request : QueryRequest) (auth : AuthContext) (execute : Bool)
    (correlationId bound : String) (schema : DatabaseSchema) : Session γ :=
  { request, auth, execute, correlationId, bound, schema
    phase := .generating [] none 0 o.maxRepairAttempts }

end Session

def Input.answer : Input → Option GenerationResponse
  | .generated (.ok generation) => some generation
  | _ => none

def answers (ws : List Session.Wake) : List GenerationResponse := ws.filterMap (·.2.answer)

def inTurn {γ : Type} (answers : List GenerationResponse) (sent : List (GenerationRequest γ)) :
    GenerationResponse := answers.getD (sent.length - 1) { sql := "" }

theorem Orchestrator.process_eq_dispatch {γ : Type} {o : Orchestrator γ} {request : QueryRequest}
    {auth : AuthContext} {execute : Bool} {looped : List (Round γ) × ℕ} {last : Round γ}
    (htenant : tenantMismatch request auth = false) (hdetect : o.detect request.question = none)
    (hlooped : o.generateWithRepair request auth [] none 0 o.maxRepairAttempts = looped)
    (hlast : looped.1.getLast? = some last) :
    o.process request auth execute =
      o.dispatch request execute looped.1 last.generation last.secured looped.2 := by
  simp [process, htenant, hdetect, hlooped, hlast]

namespace Session

variable {γ : Type} {o : Orchestrator γ} {s : Session γ} {ws : List Wake}
  {outcome : Except Fault QueryResponse}

theorem run_cons (w : Wake) (ws : List Wake) : s.run o (w :: ws) = (s.next o w).run o ws := rfl

theorem run_append (ws ws' : List Wake) : s.run o (ws ++ ws') = (s.run o ws).run o ws' :=
  List.foldl_append

/-- The four things that an input can do to a session. -/
inductive Resumes (o : Orchestrator γ) (s : Session γ) (env : Environment) (input : Input) : Prop
  | ignored (resume_eq : s.resume o env input = (s, []))
  | answered (sent : List (GenerationRequest γ)) (repair : Option RepairContext)
      (attempts remaining : ℕ) (generation : GenerationResponse)
      (phase : s.phase = .generating sent repair attempts remaining)
      (input_eq : input = .generated (.ok generation))
      (resume_eq : s.resume o env input =
        s.judge o env sent repair attempts remaining generation)
  | failed (sent : List (GenerationRequest γ)) (repair : Option RepairContext)
      (attempts remaining : ℕ) (fault : ProviderFault)
      (phase : s.phase = .generating sent repair attempts remaining)
      (input_eq : input = .generated (.error fault))
      (resume_eq : s.resume o env input = ({ s with phase := .finished (.error fault.fault) }, []))
  | concluded (generation : GenerationResponse) (secured : Secured) (attempts : ℕ) (sql : String)
      (phase : s.phase = .executing generation secured attempts sql)
      (input_eq : input = .executed)
      (resume_eq : s.resume o env input = s.conclude o env generation secured attempts sql)

theorem resumes (env : Environment) (input : Input) : s.Resumes o env input := by
  cases hphase : s.phase with
  | generating sent repair attempts remaining =>
    cases input with
    | generated answer =>
      cases answer with
      | ok generation =>
        refine .answered sent repair attempts remaining generation hphase rfl ?_
        unfold resume
        rw [hphase]
      | error fault =>
        refine .failed sent repair attempts remaining fault hphase rfl ?_
        unfold resume
        rw [hphase]
    | executed =>
      refine .ignored ?_
      unfold resume
      rw [hphase]
  | executing generation secured attempts sql =>
    cases input with
    | generated answer =>
      refine .ignored ?_
      unfold resume
      rw [hphase]
    | executed =>
      refine .concluded generation secured attempts sql hphase rfl ?_
      unfold resume
      rw [hphase]
  | finished outcome =>
    refine .ignored ?_
    unfold resume
    rw [hphase]

theorem next_answered {sent : List (GenerationRequest γ)} {repair : Option RepairContext}
    {attempts remaining : ℕ} (h : s.phase = .generating sent repair attempts remaining)
    (env : Environment) (generation : GenerationResponse) :
    s.next o (env, .generated (.ok generation)) =
      (s.judge o env sent repair attempts remaining generation).1 := by
  unfold next resume
  rw [h]

theorem next_failed {sent : List (GenerationRequest γ)} {repair : Option RepairContext}
    {attempts remaining : ℕ} (h : s.phase = .generating sent repair attempts remaining)
    (env : Environment) (fault : ProviderFault) :
    s.next o (env, .generated (.error fault)) =
      { s with phase := .finished (.error fault.fault) } := by
  unfold next resume
  rw [h]

theorem next_unanswered {sent : List (GenerationRequest γ)} {repair : Option RepairContext}
    {attempts remaining : ℕ} (h : s.phase = .generating sent repair attempts remaining)
    (env : Environment) : s.next o (env, .executed) = s := by
  unfold next resume
  rw [h]

theorem next_concluded {generation : GenerationResponse} {secured : Secured} {attempts : ℕ}
    {sql : String} (h : s.phase = .executing generation secured attempts sql) (env : Environment) :
    s.next o (env, .executed) = (s.conclude o env generation secured attempts sql).1 := by
  unfold next resume
  rw [h]

theorem next_executing {generation : GenerationResponse} {secured : Secured} {attempts : ℕ}
    {sql : String} (h : s.phase = .executing generation secured attempts sql) (env : Environment)
    (answer : Except ProviderFault GenerationResponse) :
    s.next o (env, .generated answer) = s := by
  unfold next resume
  rw [h]

theorem run_finished (h : s.phase = .finished outcome) (ws : List Wake) : s.run o ws = s := by
  induction ws with
  | nil => rfl
  | cons w ws ih =>
    rw [run_cons, show s.next o w = s from ?_, ih]
    unfold next resume
    rw [h]

def Steady (env : Environment) (ws : List Wake) : Prop :=
  ∀ w ∈ ws, w.1 = env ∧ ∀ fault, w.2 ≠ .generated (.error fault)

theorem Steady.head {env : Environment} {w : Wake} (h : Steady env (w :: ws)) :
    w.1 = env ∧ ∀ fault, w.2 ≠ .generated (.error fault) := h w List.mem_cons_self

theorem Steady.tail {env : Environment} {w : Wake} (h : Steady env (w :: ws)) : Steady env ws :=
  fun w' hw' ↦ h w' (List.mem_cons_of_mem _ hw')

/-- The session has ended with the rounds, the executions and the outcome of the run. -/
structure EndsAs (s : Session γ) (run : Run γ) : Prop where
  rounds : s.rounds = run.rounds
  executions : s.executions = run.executions
  phase : s.phase = .finished (run.outcome.mapError .engine)

theorem endsAs_executing {env : Environment} {generation : GenerationResponse} {secured : Secured}
    {attempts : ℕ} {sql : String} (henv : Steady env ws)
    (h : s.phase = .executing generation secured attempts sql)
    (hend : (s.run o ws).phase = .finished outcome)
    (generate : List (GenerationRequest γ) → GenerationResponse) :
    (s.run o ws).EndsAs ((s.orchestrator o env generate).executeFinal s.request s.rounds generation
      secured attempts sql) := by
  induction ws with
  | nil => cases h.symm.trans hend
  | cons w ws ih =>
    obtain ⟨env', input⟩ := w
    obtain rfl : env' = env := henv.head.1
    rw [run_cons] at hend ⊢
    cases input with
    | generated answer =>
      rw [next_executing h] at hend ⊢
      exact ih henv.tail hend
    | executed =>
      rw [next_concluded h, run_finished rfl]
      exact ⟨rfl, rfl, rfl⟩

def mayExecute (s : Session γ) : Bool := s.execute && !s.request.dryRun && !s.request.sqlOnly

/-- The three things that can follow the last candidate. -/
inductive Settles (o : Orchestrator γ) (s : Session γ) (env : Environment)
    (generation : GenerationResponse) (secured : Secured) (attempts : ℕ) : Prop
  | executing (sql : String) (ok : secured.ok = true) (finalSql : secured.finalSql = some sql)
      (may : s.mayExecute = true)
      (settle_eq : s.settle o env generation secured attempts =
        ({ s with phase := .executing generation secured attempts sql }, []))
  | previewed (sql : String) (ok : secured.ok = true) (finalSql : secured.finalSql = some sql)
      (may : s.mayExecute = false)
      (settle_eq : s.settle o env generation secured attempts =
        ({ s with
            phase := .finished (.ok ((s.orchestrator o env fun _ ↦ generation).preview s.request
              generation secured attempts)) },
          [requestsSuccessTotal "preview"]))
  | rejected (no : secured.ok = false ∨ secured.finalSql = none)
      (settle_eq : s.settle o env generation secured attempts =
        ({ s with phase := .finished (.error (.engine (failure secured attempts))) },
          [requestsRejectedTotal]))

theorem settles (env : Environment) (generation : GenerationResponse) (secured : Secured)
    (attempts : ℕ) : s.Settles o env generation secured attempts := by
  cases hok : secured.ok with
  | false => exact .rejected (.inl hok) (by simp [settle, hok])
  | true =>
    cases hsql : secured.finalSql with
    | none => exact .rejected (.inr hsql) (by simp [settle, hok, hsql])
    | some sql =>
      cases hmay : s.mayExecute with
      | false =>
        refine .previewed sql hok hsql hmay ?_
        rw [mayExecute] at hmay
        simp only [settle, hok, hsql, hmay, Bool.false_eq_true, ↓reduceIte]
      | true =>
        refine .executing sql hok hsql hmay ?_
        rw [mayExecute] at hmay
        simp only [settle, hok, hsql, hmay, ↓reduceIte]

theorem endsAs_settled {env : Environment} {generation : GenerationResponse} {secured : Secured}
    {attempts : ℕ} (henv : Steady env ws) (hfresh : s.executions = [])
    (hend : ((s.settle o env generation secured attempts).1.run o ws).phase = .finished outcome)
    (generate : List (GenerationRequest γ) → GenerationResponse) :
    ((s.settle o env generation secured attempts).1.run o ws).EndsAs
      ((s.orchestrator o env generate).dispatch s.request s.execute s.rounds generation secured
        attempts) := by
  cases @settles γ o s env generation secured attempts with
  | executing sql hok hsql hmay hsettle =>
    rw [hsettle] at hend ⊢
    have hdispatch : (s.orchestrator o env generate).dispatch s.request s.execute s.rounds
        generation secured attempts = (s.orchestrator o env generate).executeFinal s.request
          s.rounds generation secured attempts sql := by
      rw [mayExecute] at hmay
      simp only [Orchestrator.dispatch, hok, hsql, hmay, ↓reduceIte]
    rw [hdispatch]
    exact endsAs_executing henv rfl hend generate
  | previewed sql hok hsql hmay hsettle =>
    have hdispatch : (s.orchestrator o env generate).dispatch s.request s.execute s.rounds
        generation secured attempts =
          { rounds := s.rounds
            outcome := .ok ((s.orchestrator o env generate).preview s.request generation secured
              attempts) } := by
      rw [mayExecute] at hmay
      simp only [Orchestrator.dispatch, hok, hsql, hmay, Bool.false_eq_true, ↓reduceIte]
    rw [hsettle, hdispatch, run_finished rfl]
    exact ⟨rfl, hfresh, rfl⟩
  | rejected hno hsettle =>
    have hdispatch : (s.orchestrator o env generate).dispatch s.request s.execute s.rounds
        generation secured attempts =
          { rounds := s.rounds, outcome := .error (failure secured attempts) } := by
      rcases hno with hok | hsql
      · simp [Orchestrator.dispatch, hok]
      · simp [Orchestrator.dispatch, hsql]
    rw [hsettle, hdispatch, run_finished rfl]
    exact ⟨rfl, hfresh, rfl⟩

theorem round_orchestrator {env : Environment} {sent : List (GenerationRequest γ)}
    {repair : Option RepairContext} {generation : GenerationResponse}
    {generate : List (GenerationRequest γ) → GenerationResponse}
    (h : ∀ r, generate (sent ++ [r]) = generation) :
    (s.orchestrator o env generate).round s.request s.auth sent repair =
      (s.orchestrator o env fun _ ↦ generation).round s.request s.auth sent repair := by
  unfold Orchestrator.round
  dsimp only [orchestrator]
  rw [h]
  rfl

theorem inTurn_append {before after : List GenerationResponse} {generation : GenerationResponse}
    {sent : List (GenerationRequest γ)} (h : before.length = sent.length) (r : GenerationRequest γ) :
    inTurn (before ++ generation :: after) (sent ++ [r]) = generation := by
  rw [inTurn, List.length_append, List.length_singleton, Nat.add_sub_cancel, ← h,
    List.getD_eq_getElem?_getD, List.getElem?_append_right le_rfl]
  simp

def EndsAfter (s final : Session γ) (during : Orchestrator γ) (looped : List (Round γ) × ℕ) :
    Prop :=
  ∃ last, looped.1.getLast? = some last ∧ final.EndsAs
    (during.dispatch s.request s.execute (s.rounds ++ looped.1) last.generation last.secured
      looped.2)

theorem judge_cases {env : Environment} {sent : List (GenerationRequest γ)}
    {repair : Option RepairContext} {attempts remaining : ℕ} {generation : GenerationResponse}
    {generate : List (GenerationRequest γ) → GenerationResponse}
    (hgenerate : ∀ r, generate (sent ++ [r]) = generation) :
    let loop := (s.orchestrator o env generate).generateWithRepair s.request s.auth
    ∃ current,
      current.secured = (s.orchestrator o env generate).secure s.request s.auth
        current.generation.sql ∧
      ((s.judge o env sent repair attempts remaining generation =
          (s.recorded current).settle o env current.generation current.secured attempts ∧
        loop sent repair attempts remaining = ([current], attempts)) ∨
      ∃ left, s.judge o env sent repair attempts remaining generation =
          (s.repaired current sent attempts left, [repairAttemptsTotal]) ∧
        loop sent repair attempts remaining =
          (current :: (loop (sent ++ [current.request]) (some (repairContext current attempts))
              (attempts + 1) left).1,
            (loop (sent ++ [current.request]) (some (repairContext current attempts))
              (attempts + 1) left).2)) := by
  intro loop
  let during := s.orchestrator o env generate
  let current := during.round s.request s.auth sent repair
  have hround : (s.orchestrator o env fun _ ↦ generation).round s.request s.auth sent repair =
      current := (round_orchestrator hgenerate).symm
  have hgeneration : current.generation = generation := by
    rw [← hround]
    rfl
  have hloop : during.round s.request s.auth sent repair = current := rfl
  refine ⟨current, rfl, ?_⟩
  unfold judge
  dsimp only [loop]
  rw [hround, ← hgeneration]
  cases remaining with
  | zero =>
    refine .inl ⟨?_, rfl⟩
    split <;> rfl
  | succ remaining =>
    rw [Orchestrator.generateWithRepair, hloop]
    by_cases hok : current.secured.ok = true
    · exact .inl ⟨by rw [if_pos hok], by rw [if_pos hok]⟩
    · by_cases hrepairable : isRepairable current.secured.issues = true
      · refine .inr ⟨remaining, ?_, ?_⟩
        · rw [if_neg hok]
          dsimp only
          rw [if_pos hrepairable]
        · rw [if_neg hok, if_pos hrepairable]
          rfl
      · refine .inl ⟨?_, ?_⟩
        · rw [if_neg hok]
          dsimp only
          rw [if_neg hrepairable]
        · rw [if_neg hok, if_neg hrepairable]

theorem endsAfter_repaired {final : Session γ} {during : Orchestrator γ} {current : Round γ}
    {sent : List (GenerationRequest γ)} {attempts left : ℕ} {looped : List (Round γ) × ℕ}
    (h : (s.repaired current sent attempts left).EndsAfter final during looped) :
    s.EndsAfter final during (current :: looped.1, looped.2) := by
  obtain ⟨last, hlast, hends⟩ := h
  have hrounds : (s.repaired current sent attempts left).rounds ++ looped.1 =
      s.rounds ++ current :: looped.1 := by
    rw [List.append_cons]
    rfl
  rw [hrounds] at hends
  refine ⟨last, ?_, hends⟩
  rw [List.getLast?_cons, hlast]
  rfl

theorem endsAfter_generating {env : Environment} (henv : Steady env ws)
    {sent : List (GenerationRequest γ)} {repair : Option RepairContext} {attempts remaining : ℕ}
    (h : s.phase = .generating sent repair attempts remaining) (hfresh : s.executions = [])
    (hend : (s.run o ws).phase = .finished outcome) {before : List GenerationResponse}
    (hbefore : before.length = sent.length) :
    s.EndsAfter (s.run o ws) (s.orchestrator o env (inTurn (before ++ answers ws)))
      ((s.orchestrator o env (inTurn (before ++ answers ws))).generateWithRepair s.request s.auth
        sent repair attempts remaining) := by
  induction ws generalizing s sent repair attempts remaining before with
  | nil => cases h.symm.trans hend
  | cons w ws ih =>
    obtain ⟨env', input⟩ := w
    obtain ⟨rfl, hinput⟩ : env' = env ∧ _ := henv.head
    rw [run_cons] at hend ⊢
    cases input with
    | executed =>
      rw [next_unanswered h] at hend ⊢
      exact ih henv.tail h hfresh hend hbefore
    | generated answer =>
      cases answer with
      | error fault => exact absurd rfl (hinput fault)
      | ok generation =>
        have hanswers : answers ((env', .generated (.ok generation)) :: ws) =
            generation :: answers ws := rfl
        rw [next_answered h] at hend ⊢
        rw [hanswers]
        obtain ⟨current, -, ⟨hjudge, hloop⟩ | ⟨left, hjudge, hloop⟩⟩ :=
          @judge_cases γ o s env' sent repair attempts remaining generation _
            (inTurn_append hbefore)
        · rw [hjudge] at hend ⊢
          rw [hloop]
          have hsettled := @endsAs_settled γ o (s.recorded current) ws outcome env' _ _ _ henv.tail
            hfresh hend (inTurn (before ++ generation :: answers ws))
          exact ⟨current, rfl, hsettled⟩
        · rw [hjudge] at hend ⊢
          rw [hloop]
          have hlength : (before ++ [generation]).length = (sent ++ [current.request]).length := by
            rw [List.length_append, List.length_append, hbefore]
            rfl
          have hphase : (s.repaired current sent attempts left).phase = .generating
              (sent ++ [current.request]) (some (repairContext current attempts)) (attempts + 1)
              left := rfl
          have hlater := ih henv.tail hphase hfresh hend hlength
          rw [List.append_assoc, List.singleton_append] at hlater
          exact endsAfter_repaired hlater

/-- A call of `process` that waits for its answers ends as a call that gets them all at once, if
the database does not change meanwhile and the provider does not raise. -/
theorem endsAs_process {request : QueryRequest} {auth : AuthContext} {execute : Bool}
    {correlationId bound : String} {schema : DatabaseSchema}
    (htenant : Orchestrator.tenantMismatch request auth = false)
    (hdetect : o.detect request.question = none) {env : Environment} (henv : Steady env ws)
    (hs : s = opened o request auth execute correlationId bound schema)
    (hend : (s.run o ws).phase = .finished outcome) :
    (s.run o ws).EndsAs
      ((s.orchestrator o env (inTurn (answers ws))).process request auth execute) := by
  subst hs
  obtain ⟨last, hlast, hends⟩ := endsAfter_generating henv rfl rfl hend
    (show ([] : List GenerationResponse).length = ([] : List (GenerationRequest γ)).length from rfl)
  rw [Orchestrator.process_eq_dispatch (o := (opened o request auth execute correlationId bound
    schema).orchestrator o env (inTurn (answers ws))) htenant hdetect rfl hlast]
  exact hends

/-- Two states of one call of `process`. -/
structure SameCall (s t : Session γ) : Prop where
  request : t.request = s.request
  auth : t.auth = s.auth
  execute : t.execute = s.execute
  correlationId : t.correlationId = s.correlationId
  bound : t.bound = s.bound
  schema : t.schema = s.schema

theorem SameCall.refl (s : Session γ) : s.SameCall s := ⟨rfl, rfl, rfl, rfl, rfl, rfl⟩

theorem SameCall.trans {s t u : Session γ} (h : s.SameCall t) (h' : t.SameCall u) :
    s.SameCall u where
  request := h'.request.trans h.request
  auth := h'.auth.trans h.auth
  execute := h'.execute.trans h.execute
  correlationId := h'.correlationId.trans h.correlationId
  bound := h'.bound.trans h.bound
  schema := h'.schema.trans h.schema

/-- The statement is the final form of a candidate that the whole gate has accepted for this caller
and this schema, and the call may execute it. -/
def Accepted (o : Orchestrator γ) (s : Session γ) (sql : String) : Prop :=
  s.mayExecute = true ∧
    ∃ planner candidate, let gate : Gate := { o.gate with readonlyEngine := planner }
      let secured := gate.secureCandidate (o.dialect s.request) s.schema s.auth
        (o.effectiveMaxRows s.request) candidate
      secured.ok = true ∧ secured.finalSql = some sql

/-- What a session has sent to the database, or is about to send, has been accepted. -/
structure Sound (o : Orchestrator γ) (s : Session γ) : Prop where
  waiting : ∀ generation secured attempts sql,
    s.phase = .executing generation secured attempts sql → s.Accepted o sql
  executed : ∀ x ∈ s.executions, s.Accepted o x.sql ∧ x.dialect = o.dialect s.request ∧
    x.maxRows = o.effectiveMaxRows s.request
  atMostOnce : s.executions.length ≤ 1
  first : s.executions ≠ [] → ∃ outcome, s.phase = .finished outcome

theorem Sound.of_silent {s t : Session γ} (h : s.Sound o) (hnone : s.executions = [])
    (hkept : t.executions = s.executions)
    (hwaiting : ∀ generation secured attempts sql,
      t.phase = .executing generation secured attempts sql → t.Accepted o sql) : t.Sound o where
  waiting := hwaiting
  executed := by
    rw [hkept, hnone]
    intro x hx
    cases hx
  atMostOnce := by
    rw [hkept]
    exact h.atMostOnce
  first hne := absurd (hkept.trans hnone) hne

theorem sound_settle {env : Environment} {generation : GenerationResponse} {secured : Secured}
    {attempts : ℕ} (h : s.Sound o) (hnone : s.executions = [])
    (hsecured : secured = (s.orchestrator o env fun _ ↦ generation).secure s.request s.auth
      generation.sql) :
    (s.settle o env generation secured attempts).1.Sound o ∧
      s.SameCall (s.settle o env generation secured attempts).1 := by
  cases @settles γ o s env generation secured attempts with
  | executing sql hok hsql hmay hsettle =>
    rw [hsettle]
    have hsame : s.SameCall { s with phase := .executing generation secured attempts sql } :=
      ⟨rfl, rfl, rfl, rfl, rfl, rfl⟩
    refine ⟨h.of_silent hnone rfl ?_, hsame⟩
    intro generation' secured' attempts' sql' hphase
    cases hphase
    rw [hsecured] at hok hsql
    exact ⟨hmay, env.planner, generation.sql, hok, hsql⟩
  | previewed sql hok hsql hmay hsettle =>
    rw [hsettle]
    refine ⟨h.of_silent hnone rfl ?_, rfl, rfl, rfl, rfl, rfl, rfl⟩
    intro _ _ _ _ hphase
    cases hphase
  | rejected hno hsettle =>
    rw [hsettle]
    refine ⟨h.of_silent hnone rfl ?_, rfl, rfl, rfl, rfl, rfl, rfl⟩
    intro _ _ _ _ hphase
    cases hphase

theorem sound_next (h : s.Sound o) (w : Wake) : (s.next o w).Sound o ∧ s.SameCall (s.next o w) := by
  obtain ⟨env, input⟩ := w
  have hnone (hphase : ∀ outcome, s.phase ≠ .finished outcome) : s.executions = [] := by
    by_contra hne
    obtain ⟨outcome, ho⟩ := h.first hne
    exact hphase outcome ho
  rw [next]
  cases @resumes γ o s env input with
  | ignored hresume =>
    rw [hresume]
    exact ⟨h, SameCall.refl s⟩
  | answered sent repair attempts remaining generation hphase _ hresume =>
    have hnone := hnone fun outcome ho ↦ by cases hphase.symm.trans ho
    rw [hresume]
    obtain ⟨current, hsecured, ⟨hjudge, -⟩ | ⟨left, hjudge, -⟩⟩ :=
      @judge_cases γ o s env sent repair attempts remaining generation (fun _ ↦ generation)
        fun _ ↦ rfl
    · rw [hjudge]
      have hrecorded : s.SameCall (s.recorded current) := ⟨rfl, rfl, rfl, rfl, rfl, rfl⟩
      have hsound : (s.recorded current).Sound o :=
        h.of_silent hnone rfl fun _ _ _ _ he ↦ by cases hphase.symm.trans he
      have hsettled := @sound_settle γ o (s.recorded current) env current.generation
        current.secured attempts hsound hnone hsecured
      exact ⟨hsettled.1, hrecorded.trans hsettled.2⟩
    · rw [hjudge]
      refine ⟨h.of_silent hnone rfl ?_, rfl, rfl, rfl, rfl, rfl, rfl⟩
      intro _ _ _ _ hexecuting
      cases hexecuting
  | failed sent repair attempts remaining fault hphase _ hresume =>
    have hnone := hnone fun outcome ho ↦ by cases hphase.symm.trans ho
    rw [hresume]
    refine ⟨h.of_silent hnone rfl ?_, rfl, rfl, rfl, rfl, rfl, rfl⟩
    intro _ _ _ _ hexecuting
    cases hexecuting
  | concluded generation secured attempts sql hphase _ hresume =>
    rw [hresume]
    refine ⟨⟨?_, ?_, le_rfl, fun _ ↦ ⟨_, rfl⟩⟩, rfl, rfl, rfl, rfl, rfl, rfl⟩
    · intro _ _ _ _ hexecuting
      cases hexecuting
    · intro x hx
      obtain rfl := List.mem_singleton.mp hx
      exact ⟨h.waiting generation secured attempts sql hphase, rfl, rfl⟩

theorem sound_run (h : s.Sound o) (ws : List Wake) :
    (s.run o ws).Sound o ∧ s.SameCall (s.run o ws) := by
  induction ws generalizing s with
  | nil => exact ⟨h, SameCall.refl s⟩
  | cons w ws ih =>
    have hnext := sound_next h w
    have hrest := ih hnext.1
    exact ⟨hrest.1, hnext.2.trans hrest.2⟩

theorem sound_opened (request : QueryRequest) (auth : AuthContext) (execute : Bool)
    (correlationId bound : String) (schema : DatabaseSchema) :
    (opened o request auth execute correlationId bound schema).Sound o where
  waiting _ _ _ _ h := by cases h
  executed _ hx := by cases hx
  atMostOnce := Nat.zero_le 1
  first h := absurd rfl h

end Session

end Application

end TextToSql
