import TextToSql.Api.Interleaving

namespace TextToSql.Api

open Library Domain Application

variable {γ : Type} {o : Orchestrator γ} {service : Service γ}

inductive Verdict where
  | clarified | previewed | executed | rejected | mismatched | failed
  deriving DecidableEq

def verdict : Except Fault QueryResponse → Verdict
  | .ok response =>
    match response.status with
    | .clarificationRequired => .clarified
    | .preview => .previewed
    | .success => .executed
  | .error (.engine error) =>
    match error.details with
    | .rejected _ _ => .rejected
    | .code _ => .mismatched
    | .reason _ => .failed
  | .error (.provider _) => .failed
  | .error .unhandled => .failed

def tally (o : Orchestrator γ) (past : Past γ) (v : Verdict) : ℕ :=
  (outcomes o past).countP fun outcome ↦ verdict outcome = v

def inFlight (service : Service γ) : ℕ :=
  service.sessions.countP fun session ↦ (Service.ended session).isNone

def counted (counter : String) (increments : List Increment) : ℕ :=
  increments.countP fun i ↦ i.counter = counter

/-- What an event may count, and how it may end a call of `process`. -/
inductive Books : List Increment → Option (Except Fault QueryResponse) → Prop
  | silent : Books [] none
  | opened (execute : Bool) : Books [requestsTotal execute] none
  | repaired : Books [repairAttemptsTotal] none
  | mismatched {outcome : Except Fault QueryResponse} (h : verdict outcome = .mismatched) :
      Books [] (some outcome)
  | clarified {outcome : Except Fault QueryResponse} (h : verdict outcome = .clarified)
      (execute : Bool) (category : AmbiguityCategory) :
      Books [requestsTotal execute, clarificationsTotal category] (some outcome)
  | unserved {outcome : Except Fault QueryResponse} (h : verdict outcome = .failed)
      (execute : Bool) : Books [requestsTotal execute] (some outcome)
  | previewed {outcome : Except Fault QueryResponse} (h : verdict outcome = .previewed) :
      Books [requestsSuccessTotal "preview"] (some outcome)
  | executed {outcome : Except Fault QueryResponse} (h : verdict outcome = .executed) :
      Books [requestsSuccessTotal "execute"] (some outcome)
  | rejected {outcome : Except Fault QueryResponse} (h : verdict outcome = .rejected) :
      Books [requestsRejectedTotal] (some outcome)
  | failed {outcome : Except Fault QueryResponse} (h : verdict outcome = .failed) :
      Books [] (some outcome)

/-- The inputs of a session neither count a request nor refuse a tenant. -/
inductive Continues : List Increment → Option (Except Fault QueryResponse) → Prop
  | silent : Continues [] none
  | repaired : Continues [repairAttemptsTotal] none
  | previewed {outcome : Except Fault QueryResponse} (h : verdict outcome = .previewed) :
      Continues [requestsSuccessTotal "preview"] (some outcome)
  | executed {outcome : Except Fault QueryResponse} (h : verdict outcome = .executed) :
      Continues [requestsSuccessTotal "execute"] (some outcome)
  | rejected {outcome : Except Fault QueryResponse} (h : verdict outcome = .rejected) :
      Continues [requestsRejectedTotal] (some outcome)
  | failed {outcome : Except Fault QueryResponse} (h : verdict outcome = .failed) :
      Continues [] (some outcome)

theorem Continues.books {increments : List Increment}
    {outcome : Option (Except Fault QueryResponse)} (h : Continues increments outcome) :
    Books increments outcome := by
  cases h with
  | silent => exact .silent
  | repaired => exact .repaired
  | previewed h => exact .previewed h
  | executed h => exact .executed h
  | rejected h => exact .rejected h
  | failed h => exact .failed h

theorem execute_error {py : Python} {engine : Execution.Engine} {dialect : SQLDialect}
    {timeoutMs maxRows : ℕ} {sql : String} {error : EngineError}
    (h : (Execution.execute py engine dialect timeoutMs sql maxRows).2 = .error error) :
    ∃ reason, error.details = .reason reason := by
  unfold Execution.execute at h
  split at h
  · cases h
  · cases h
    exact ⟨_, rfl⟩

theorem verdict_executeFinal (o : Orchestrator γ) (request : QueryRequest)
    (rounds : List (Round γ)) (generation : GenerationResponse) (secured : Secured) (attempts : ℕ)
    (sql : String) :
    let run := o.executeFinal request rounds generation secured attempts sql
    (∃ response, run.outcome = .ok response ∧ verdict (.ok response) = .executed) ∨
      ∃ error, run.outcome = .error error ∧ verdict (.error (.engine error)) = .failed := by
  intro run
  cases hexecuted : (Execution.execute o.gate.py o.readonlyEngine (o.dialect request)
      o.statementTimeoutMs sql (o.effectiveMaxRows request)).2 with
  | ok result =>
    refine .inl ⟨o.success request generation secured attempts result, ?_, rfl⟩
    dsimp only [run, Orchestrator.executeFinal]
    rw [hexecuted]
    rfl
  | error error =>
    obtain ⟨reason, hreason⟩ := execute_error hexecuted
    refine .inr ⟨error, ?_, ?_⟩
    · dsimp only [run, Orchestrator.executeFinal]
      rw [hexecuted]
      rfl
    · rw [verdict, hreason]

variable {s : Session γ} {env : Environment}

theorem continues_settle (generation : GenerationResponse)
    (secured : Secured) (attempts : ℕ) :
    Continues (s.settle o env generation secured attempts).2
      (Service.ended (s.settle o env generation secured attempts).1) := by
  cases @Session.settles γ o s env generation secured attempts with
  | executing sql _ _ _ hsettle =>
    rw [hsettle]
    exact .silent
  | previewed sql _ _ _ hsettle =>
    rw [hsettle]
    exact .previewed rfl
  | rejected _ hsettle =>
    rw [hsettle]
    refine .rejected ?_
    rw [verdict, (Orchestrator.failure_type secured attempts).2]

theorem continues_resume (hopen : Service.ended s = none) (input : Input) :
    Continues (s.resume o env input).2 (Service.ended (s.resume o env input).1) := by
  cases @Session.resumes γ o s env input with
  | ignored hresume =>
    rw [hresume, hopen]
    exact .silent
  | answered sent repair attempts remaining generation hphase _ hresume =>
    rw [hresume]
    obtain ⟨current, -, ⟨hjudge, -⟩ | ⟨left, hjudge, -⟩⟩ :=
      @Session.judge_cases γ o s env sent repair attempts remaining generation
        (fun _ ↦ generation) fun _ ↦ rfl
    · rw [hjudge]
      exact continues_settle _ _ _
    · rw [hjudge]
      exact .repaired
  | failed sent repair attempts remaining fault hphase _ hresume =>
    rw [hresume]
    refine .failed ?_
    cases fault <;> rfl
  | concluded generation secured attempts sql hphase _ hresume =>
    rw [hresume]
    unfold Session.conclude
    rcases verdict_executeFinal (s.orchestrator o env fun _ ↦ generation) s.request s.rounds
      generation secured attempts sql with ⟨response, hrun, hverdict⟩ | ⟨error, hrun, hverdict⟩
    · dsimp only
      rw [hrun]
      exact .executed hverdict
    · dsimp only
      rw [hrun]
      exact .failed hverdict

/-- What an event does to the calls of `process` and to the counters. -/
inductive Reacts (o : Orchestrator γ) (service : Service γ) (r : Reaction γ) : Prop
  | quiet (increments : r.increments = []) (outcome : r.outcome = none) (session : r.session = none)
  | atOnce (outcome : Except Fault QueryResponse) (books : Books r.increments (some outcome))
      (outcome_eq : r.outcome = some outcome) (session : r.session = none)
      (requests : counted "t2sql_requests_total" r.increments =
        if verdict outcome = .mismatched then 0 else 1)
  | opened (execute : Bool) (process : Session γ)
      (increments : r.increments = [requestsTotal execute])
      (outcome : r.outcome = none) (session : r.session = some (.spawn process))
      (isOpen : Service.ended process = none)
  | woken (id : ℕ) (wake : Session.Wake) (process : Session γ)
      (found : service.sessions[id]? = some process) (isOpen : Service.ended process = none)
      (session : r.session = some (.deliver id wake))
      (outcome : r.outcome = Service.ended (process.next o wake))
      (continues : Continues r.increments r.outcome)

theorem reacts_begin (request : QueryRequest) (auth : AuthContext) (execute : Bool)
    (correlationId bound : String) :
    Reacts o service (service.begin_ o request auth execute correlationId bound) := by
  unfold Service.begin_
  by_cases htenant : Orchestrator.tenantMismatch request auth = true
  · rw [if_pos htenant]
    exact .atOnce _ (.mismatched rfl) rfl rfl rfl
  · rw [if_neg htenant]
    cases o.detect request.question with
    | some clarification =>
      refine .atOnce _ (.clarified rfl execute clarification.category) rfl rfl ?_
      simp [counted, requestsTotal, clarificationsTotal, verdict]
    | none =>
      dsimp only
      cases service.served o with
      | error exc =>
        refine .atOnce _ (.unserved rfl execute) rfl rfl ?_
        simp [counted, requestsTotal, verdict]
      | ok schema => exact .opened execute _ rfl rfl rfl rfl

theorem reacts (event : Event) : Reacts o service (service.react o event) := by
  cases event with
  | query headers uuid bound request execute =>
    unfold Service.react
    dsimp only
    cases getAuthContext headers with
    | error error => exact .quiet rfl rfl rfl
    | ok auth => exact reacts_begin request auth execute _ _
  | wake id input =>
    rcases @wake_cases γ o service id input with
      ⟨hsession, hincrements, houtcome⟩ | ⟨process, hfound, hopen, hsession, hincrements, houtcome⟩
    · exact .quiet hincrements houtcome hsession
    · refine .woken id (service.environment, input) process hfound hopen hsession houtcome ?_
      have hcontinues := @continues_resume γ o process service.environment hopen input
      rw [← hincrements, ← houtcome] at hcontinues
      exact hcontinues
  | validate headers bound request =>
    unfold Service.react
    dsimp only
    cases getAuthContext headers <;> exact .quiet rfl rfl rfl
  | schema headers bound =>
    unfold Service.react
    dsimp only
    cases getAuthContext headers <;> exact .quiet rfl rfl rfl
  | refresh headers bound =>
    unfold Service.react
    dsimp only
    cases requireAdmin o.gate.py headers <;> exact .quiet rfl rfl rfl
  | ready connected => exact .quiet rfl rfl rfl
  | advance seconds nonneg => exact .quiet rfl rfl rfl
  | change database => exact .quiet rfl rfl rfl
  | write environment => exact .quiet rfl rfl rfl

theorem books_react (event : Event) :
    Books (service.react o event).increments (service.react o event).outcome := by
  cases @reacts γ o service event with
  | quiet hincrements houtcome _ =>
    rw [hincrements, houtcome]
    exact .silent
  | atOnce outcome hbooks houtcome _ _ =>
    rw [houtcome]
    exact hbooks
  | opened execute process hincrements houtcome _ _ =>
    rw [hincrements, houtcome]
    exact .opened execute
  | woken id wake process _ _ _ _ hcontinues => exact hcontinues.books

theorem requests_continues {increments : List Increment}
    {outcome : Option (Except Fault QueryResponse)} (h : Continues increments outcome) :
    counted "t2sql_requests_total" increments = 0 := by
  cases h <;>
    simp [counted, repairAttemptsTotal, requestsSuccessTotal, requestsRejectedTotal]

theorem admitted_continues {increments : List Increment} {outcome : Except Fault QueryResponse}
    (h : Continues increments (some outcome)) : verdict outcome ≠ .mismatched := by
  cases h <;> simp_all

def admitted (outcome : Except Fault QueryResponse) : Bool := verdict outcome ≠ .mismatched

theorem requests_step (event : Event) :
    counted "t2sql_requests_total" (service.react o event).increments + inFlight service =
      (service.react o event).outcome.toList.countP admitted +
        inFlight (service.step o event) := by
  have hstep : (service.step o event).sessions = (service.react o event).session.elim
      service.sessions (Processes.move (Session.next o) service.sessions) := rfl
  rw [inFlight, inFlight, hstep]
  cases @reacts γ o service event with
  | quiet hincrements houtcome hsession =>
    rw [hincrements, houtcome, hsession]
    rfl
  | atOnce outcome _ houtcome hsession hrequests =>
    rw [hrequests, houtcome, hsession, Option.toList_some, List.countP_singleton, Option.elim_none]
    by_cases h : verdict outcome = .mismatched <;> simp [admitted, h]
  | opened execute process hincrements houtcome hsession hopen =>
    rw [hincrements, houtcome, hsession, Option.elim_some, Processes.countP_spawn, hopen]
    simp [counted, requestsTotal, add_comm]
  | woken id wake process hfound hopen hsession houtcome hcontinues =>
    have hmoved := @Processes.countP_deliver _ _ (Session.next o) service.sessions id process
      (fun session ↦ (Service.ended session).isNone) hfound wake
    rw [hopen, ← houtcome] at hmoved
    rw [hsession, Option.elim_some, requests_continues hcontinues]
    cases ho : (service.react o event).outcome with
    | none =>
      rw [ho] at hmoved
      simp only [Option.isNone_none, ↓reduceIte] at hmoved
      simp only [Option.toList_none, List.countP_nil]
      omega
    | some outcome =>
      rw [ho] at hmoved hcontinues
      simp only [Option.isNone_none, Option.isNone_some, Bool.false_eq_true, ↓reduceIte] at hmoved
      have hadmitted : admitted outcome = true := by
        simpa [admitted] using admitted_continues hcontinues
      simp only [Option.toList_some, List.countP_singleton, hadmitted, ↓reduceIte]
      omega

def endedAs (outcome : Option (Except Fault QueryResponse)) (v : Verdict) : ℕ :=
  outcome.toList.countP fun outcome ↦ verdict outcome = v

/-- The books of a run: every counter is the number of calls that ended in its way, and every
request that was counted has ended or still waits. -/
structure Accounted (o : Orchestrator γ) (past : Past γ) (service : Service γ) : Prop where
  requests : counted "t2sql_requests_total" service.increments =
    tally o past .clarified + tally o past .previewed + tally o past .executed +
      tally o past .rejected + tally o past .failed + inFlight service
  clarified : counted "t2sql_clarifications_total" service.increments = tally o past .clarified
  previewed : service.increments.count (requestsSuccessTotal "preview") = tally o past .previewed
  executed : service.increments.count (requestsSuccessTotal "execute") = tally o past .executed
  rejected : counted "t2sql_requests_rejected_total" service.increments = tally o past .rejected

theorem tally_of_books {p : Increment → Bool} {v : Verdict}
    (h : ∀ increments outcome, Books increments outcome →
      increments.countP p = endedAs outcome v) (past : Past γ) :
    (past.flatMap fun x ↦ (x.1.react o x.2).increments).countP p = tally o past v := by
  induction past with
  | nil => rfl
  | cons x past ih =>
    rw [List.flatMap_cons, List.countP_append, ih, h _ _ (books_react x.2), tally, tally, outcomes,
      outcomes, List.filterMap_cons]
    cases (x.1.react o x.2).outcome with
    | none => simp [endedAs]
    | some outcome => simp [endedAs, List.countP_cons, add_comm]

theorem countP_admitted (l : List (Except Fault QueryResponse)) :
    l.countP admitted = l.countP (fun x ↦ verdict x = .clarified) +
      l.countP (fun x ↦ verdict x = .previewed) + l.countP (fun x ↦ verdict x = .executed) +
      l.countP (fun x ↦ verdict x = .rejected) + l.countP (fun x ↦ verdict x = .failed) := by
  induction l with
  | nil => rfl
  | cons x l ih =>
    rw [List.countP_cons, List.countP_cons, List.countP_cons, List.countP_cons, List.countP_cons,
      List.countP_cons, ih, admitted]
    cases verdict x <;> simp <;> omega

def Balanced (o : Orchestrator γ) (past : Past γ) (service : Service γ) : Prop :=
  counted "t2sql_requests_total" service.increments =
    (outcomes o past).countP admitted + inFlight service

theorem balanced_step (past : Past γ) (service : Service γ) (event : Event)
    (ih : Balanced o past service) :
    Balanced o (past ++ [(service, event)]) (service.step o event) := by
  rw [Balanced] at ih
  have hincrements : (service.step o event).increments =
      service.increments ++ (service.react o event).increments := rfl
  have hstep := @requests_step γ o service event
  have houtcomes : outcomes o (past ++ [(service, event)]) =
      outcomes o past ++ (service.react o event).outcome.toList := by
    rw [outcomes, List.filterMap_append, ← outcomes]
    cases houtcome : (service.react o event).outcome <;> simp [houtcome]
  rw [Balanced, hincrements, houtcomes, counted, List.countP_append, ← counted, ← counted, ih,
    List.countP_append]
  omega

/-- However the events of a run interleave, the counters keep correct books. -/
theorem requests_accounted (o : Orchestrator γ) (ttl : ℚ) (semantic : Schema.SemanticLayer) (now : ℚ)
    (database : Except String DatabaseSchema) (environment : Environment) (events : List Event) :
    Accounted o
      (Runs.history (Service.step o) (.start ttl semantic now database environment) events)
      (events.foldl (Service.step o) (.start ttl semantic now database environment)) := by
  have hincrements := (Runs.invariant_run (@traced_step γ o)
    (traced_start ttl semantic now database environment) events).increments
  have hstart : Balanced o [] (.start ttl semantic now database environment) := rfl
  have hbalanced := Runs.invariant_run balanced_step hstart events
  refine ⟨?_, ?_, ?_, ?_, ?_⟩
  · rw [hbalanced, countP_admitted]
    rfl
  · rw [counted, hincrements]
    refine tally_of_books (fun increments outcome hbooks ↦ ?_) _
    cases hbooks <;> simp_all [endedAs, requestsTotal, clarificationsTotal, repairAttemptsTotal,
      requestsSuccessTotal, requestsRejectedTotal]
  · rw [List.count, hincrements]
    refine tally_of_books (fun increments outcome hbooks ↦ ?_) _
    cases hbooks <;> simp_all [endedAs, requestsTotal, clarificationsTotal, repairAttemptsTotal,
      requestsSuccessTotal, requestsRejectedTotal, modeLabel]
  · rw [List.count, hincrements]
    refine tally_of_books (fun increments outcome hbooks ↦ ?_) _
    cases hbooks <;> simp_all [endedAs, requestsTotal, clarificationsTotal, repairAttemptsTotal,
      requestsSuccessTotal, requestsRejectedTotal, modeLabel]
  · rw [counted, hincrements]
    refine tally_of_books (fun increments outcome hbooks ↦ ?_) _
    cases hbooks <;> simp_all [endedAs, requestsTotal, clarificationsTotal, repairAttemptsTotal,
      requestsSuccessTotal, requestsRejectedTotal]

end TextToSql.Api
