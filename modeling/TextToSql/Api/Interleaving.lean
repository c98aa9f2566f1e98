import TextToSql.Api.Service
import TextToSql.Application.Container

namespace TextToSql.Api

open Library Domain Application Sql Infrastructure

variable {γ : Type} (o : Orchestrator γ)

def catalogPast (past : Past γ) : Schema.Past :=
  past.filterMap fun x ↦ (x.1.react o x.2).catalog.map fun event ↦ (x.1.world, event)

def sessionMoves (past : Past γ) : List (Processes.Move (Session γ) Session.Wake) :=
  past.filterMap fun x ↦ (x.1.react o x.2).session

def wakes (id : ℕ) (past : Past γ) : List Session.Wake :=
  Processes.inputs id (sessionMoves o past)

def outcomes (past : Past γ) : List (Except Fault QueryResponse) :=
  past.filterMap fun x ↦ (x.1.react o x.2).outcome

/-- The state of the service is what its past has made of it. -/
structure Traced (past : Past γ) (service : Service γ) : Prop where
  world : Schema.Tracked o.gate.py (catalogPast o past) service.world
  sessions : service.sessions = Processes.moves (Session.next o) [] (sessionMoves o past)
  increments : service.increments = past.flatMap fun x ↦ (x.1.react o x.2).increments

variable {o}

theorem traced_start (ttl : ℚ) (semantic : Schema.SemanticLayer) (now : ℚ)
    (database : Except String DatabaseSchema) (environment : Environment) :
    Traced o [] (.start ttl semantic now database environment : Service γ) where
  world := Schema.tracked_start ttl semantic now database
  sessions := rfl
  increments := rfl

theorem traced_step (past : Past γ) (service : Service γ) (event : Event)
    (h : Traced o past service) : Traced o (past ++ [(service, event)]) (service.step o event) where
  world := by
    rw [catalogPast, List.filterMap_append, ← catalogPast]
    unfold Service.step
    cases hc : (service.react o event).catalog with
    | none => simpa [hc] using h.world
    | some e => simpa [hc] using Schema.tracked_step e h.world
  sessions := by
    rw [sessionMoves, List.filterMap_append, ← sessionMoves, Processes.moves_append, ← h.sessions]
    unfold Service.step
    cases hs : (service.react o event).session <;> simp [hs, Processes.moves]
  increments := by
    rw [List.flatMap_append, ← h.increments]
    unfold Service.step
    simp

/-- The state after a run that starts from nothing. -/
structure Reached (o : Orchestrator γ) (ttl : ℚ) (past : Past γ) (service : Service γ) : Prop where
  run : ∃ semantic now database environment events,
    past = Runs.history (Service.step o) (.start ttl semantic now database environment) events ∧
      service = events.foldl (Service.step o) (.start ttl semantic now database environment)

variable {ttl : ℚ} {past : Past γ} {service : Service γ}

theorem Reached.traced (h : Reached o ttl past service) : Traced o past service := by
  obtain ⟨semantic, now, database, environment, events, rfl, rfl⟩ := h.run
  exact Runs.invariant_run traced_step (traced_start ttl semantic now database environment) events

theorem Reached.traced_before (h : Reached o ttl past service) {before after : Past γ} {w : Service γ}
    {event : Event} (hp : past = before ++ (w, event) :: after) : Traced o before w := by
  obtain ⟨semantic, now, database, environment, events, rfl, -⟩ := h.run
  exact Runs.invariant_history traced_step (traced_start ttl semantic now database environment) hp

/-- A session starts with a query of an identified caller, from the schema served at that time. -/
structure Opens (o : Orchestrator γ) (w : Service γ) (event : Event) (session : Session γ) :
    Prop where
  event_eq : ∃ headers uuid bound, event = .query headers uuid bound session.request
      session.execute ∧ getAuthContext headers = .ok session.auth
  tenant : Orchestrator.tenantMismatch session.request session.auth = false
  unambiguous : o.detect session.request.question = none
  served : w.served o = .ok session.schema
  opened : session = .opened o session.request session.auth session.execute session.correlationId
    session.bound session.schema

theorem begin_session {request : QueryRequest} {auth : AuthContext} {execute : Bool}
    {correlationId bound : String} {move : Processes.Move (Session γ) Session.Wake}
    (h : (service.begin_ o request auth execute correlationId bound).session = some move) :
    Orchestrator.tenantMismatch request auth = false ∧ o.detect request.question = none ∧
      ∃ schema, service.served o = .ok schema ∧
        move = .spawn (.opened o request auth execute correlationId bound schema) := by
  unfold Service.begin_ at h
  split at h
  · cases h
  · rename_i htenant
    split at h
    · cases h
    · rename_i hdetect
      split at h
      · cases h
      · rename_i schema hserved
        exact ⟨by simpa using htenant, hdetect, schema, hserved, (Option.some.inj h).symm⟩

theorem wake_cases (id : ℕ) (input : Input) :
    ((service.wake o id input).session = none ∧ (service.wake o id input).increments = [] ∧
      (service.wake o id input).outcome = none) ∨
    ∃ session, service.sessions[id]? = some session ∧ Service.ended session = none ∧
      (service.wake o id input).session = some (.deliver id (service.environment, input)) ∧
      (service.wake o id input).increments =
        (session.resume o service.environment input).2 ∧
      (service.wake o id input).outcome =
        Service.ended (session.resume o service.environment input).1 := by
  unfold Service.wake
  cases hsession : service.sessions[id]? with
  | none => exact .inl ⟨rfl, rfl, rfl⟩
  | some session =>
    dsimp only
    cases hphase : session.phase with
    | finished outcome => exact .inl ⟨rfl, rfl, rfl⟩
    | generating sent repair attempts remaining =>
      have hended : Service.ended session = none := by
        rw [Service.ended, hphase]
      exact .inr ⟨session, rfl, hended, rfl, rfl, rfl⟩
    | executing generation secured attempts sql =>
      have hended : Service.ended session = none := by
        rw [Service.ended, hphase]
      exact .inr ⟨session, rfl, hended, rfl, rfl, rfl⟩

theorem wake_session {id : ℕ} {input : Input}
    {move : Processes.Move (Session γ) Session.Wake}
    (h : (service.wake o id input).session = some move) :
    ∃ session, service.sessions[id]? = some session ∧ Service.ended session = none ∧
      move = .deliver id (service.environment, input) := by
  rcases @wake_cases γ o service id input with ⟨hnone, -⟩ | ⟨session, hs, hended, hmove, -⟩
  · cases hnone.symm.trans h
  · exact ⟨session, hs, hended, Option.some.inj (h.symm.trans hmove)⟩

theorem react_session {event : Event} {move : Processes.Move (Session γ) Session.Wake}
    (h : (service.react o event).session = some move) :
    (∃ session, move = .spawn session ∧ Opens o service event session) ∨
      ∃ id input session, event = .wake id input ∧ move = .deliver id (service.environment, input) ∧
        service.sessions[id]? = some session ∧ Service.ended session = none := by
  cases event with
  | query headers uuid bound request execute =>
    unfold Service.react at h
    dsimp only at h
    split at h
    · cases h
    · rename_i auth hauth
      obtain ⟨htenant, hdetect, schema, hserved, rfl⟩ := begin_session h
      exact .inl ⟨_, rfl, ⟨_, _, _, rfl, hauth⟩, htenant, hdetect, hserved, rfl⟩
  | wake id input =>
    have h : (service.wake o id input).session = some move := h
    obtain ⟨session, hsession, hended, hmove⟩ := wake_session h
    exact .inr ⟨id, input, session, rfl, hmove, hsession, hended⟩
  | validate headers bound request =>
    unfold Service.react at h
    dsimp only at h
    split at h <;> cases h
  | schema headers bound =>
    unfold Service.react at h
    dsimp only at h
    split at h <;> cases h
  | refresh headers bound =>
    unfold Service.react at h
    dsimp only at h
    split at h <;> cases h
  | ready connected => cases h
  | advance seconds nonneg => cases h
  | change database => cases h
  | write environment => cases h

theorem mem_wakes {id : ℕ} {wake : Session.Wake} (h : wake ∈ wakes o id past) :
    ∃ w event, (w, event) ∈ past ∧ wake.1 = w.environment ∧ event = .wake id wake.2 := by
  obtain ⟨move, hmove, hinput⟩ := List.mem_filterMap.mp h
  obtain ⟨⟨w, event⟩, hmem, hsession⟩ := List.mem_filterMap.mp hmove
  refine ⟨w, event, hmem, ?_⟩
  rcases react_session hsession with ⟨session, rfl, -⟩ | ⟨j, input, session, rfl, rfl, -⟩
  · cases hinput
  · rw [Processes.Move.inputFor] at hinput
    by_cases hj : j = id
    · rw [if_pos hj] at hinput
      rw [← Option.some.inj hinput, hj]
      exact ⟨rfl, rfl⟩
    · rw [if_neg hj] at hinput
      cases hinput

/-- Where a session of the table was started, and what it has received since. -/
theorem Reached.origin (h : Reached o ttl past service) {id : ℕ} {session : Session γ}
    (hs : service.sessions[id]? = some session) :
    ∃ before w event after first, past = before ++ (w, event) :: after ∧
      (w.react o event).session = some (.spawn first) ∧ Opens o w event first ∧
      w.sessions.length = id ∧ session = first.run o (wakes o id after) := by
  rw [h.traced.sessions] at hs
  obtain ⟨ms, first, ms', hmoves, hlength, hsession⟩ := Processes.exists_spawn hs
  obtain ⟨before, rest, hpast, hbefore, hrest⟩ := List.filterMap_eq_append_iff.mp hmoves
  obtain ⟨skipped, x, after, hrest', hskipped, hx, hafter⟩ := List.filterMap_eq_cons_iff.mp hrest
  obtain ⟨w, event⟩ := x
  rw [hrest', ← List.append_assoc] at hpast
  have hmoves' : sessionMoves o (before ++ skipped) = ms := by
    rw [sessionMoves, List.filterMap_append, hbefore]
    simpa using hskipped
  refine ⟨before ++ skipped, w, event, after, first, hpast, hx, ?_, ?_, ?_⟩
  · rcases react_session hx with ⟨session', hspawn, hopens⟩ | ⟨_, _, _, _, hdeliver, _⟩
    · cases hspawn
      exact hopens
    · cases hdeliver
  · rw [(h.traced_before hpast).sessions, hmoves', hlength]
  · rw [hsession, wakes, sessionMoves, hafter]
    rfl

theorem length_zeros : (String.ofList (List.replicate 32 '0')).length = 32 := by
  rw [String.length_ofList, List.length_replicate]

theorem digits_zeros : ∀ c ∈ (String.ofList (List.replicate 32 '0')).toList,
    c.isDigit ∨ c ∈ ['a', 'b', 'c', 'd', 'e', 'f'] := by
  intro c hc
  rw [String.toList_ofList] at hc
  rw [List.eq_of_mem_replicate hc]
  decide

def zeroUuid : Uuid where
  hex := String.ofList (List.replicate 32 '0')
  length_hex := length_zeros
  digits := digits_zeros

def ordersEngine : Execution.Engine where
  backend := .sqlite
  answer _ _ := .ok ⟨["status"], [[.text "paid"]]⟩

def ordersOrchestrator : Orchestrator Unit :=
  create defaultSettings .ascii
    (.one "SELECT status FROM orders" (selectFrom "status" "orders" [])
      "SELECT status FROM orders WHERE orders.organization_id = 1 LIMIT 1000")
    usersAndOrders ordersEngine (fun _ ↦ none) (fun _ ↦ { sql := "" })

theorem length_orderStatuses : 1 ≤ "order statuses".length ∧ "order statuses".length ≤ 2000 := by
  decide

def ordersQuery : Event :=
  .query { userId := some "u1", tenantId := some "1", roles := some "analyst" } zeroUuid zeroUuid
    { question := "order statuses"
      question_length := length_orderStatuses
      maxRows_bounds := QueryRequest.bounds_of_none }
    true

def ordersEvents : List Event :=
  [ordersQuery,
    .refresh { userId := some "u2", tenantId := some "2", roles := some "admin" } zeroUuid,
    .wake 0 (.generated (.ok { sql := "SELECT status FROM orders" })),
    .wake 0 .executed]

def ordersEnvironment : Environment := ⟨none, ordersEngine⟩

def ordersStart : Service Unit :=
  .start 300 { tableAnnotations := [{ table := "orders", tenantColumn := some "organization_id" }] }
    0 (.ok usersAndOrders) ordersEnvironment

def ordersPast : Past Unit :=
  Runs.history (Service.step ordersOrchestrator) ordersStart ordersEvents

def ordersService : Service Unit := ordersEvents.foldl (Service.step ordersOrchestrator) ordersStart

theorem reached_orders : Reached ordersOrchestrator 300 ordersPast ordersService :=
  ⟨_, _, _, _, ordersEvents, rfl, rfl⟩

theorem executions_orders :
    ordersService.sessions.map (fun session ↦ session.executions.map (·.sql)) =
      [["SELECT status FROM orders WHERE orders.organization_id = 1 LIMIT 1000"]] := by
  decide +kernel

theorem session_orders : ∃ session x, ordersService.sessions[0]? = some session ∧
    x ∈ session.executions := by
  have hexecuted := executions_orders
  cases hsessions : ordersService.sessions with
  | nil =>
    rw [hsessions] at hexecuted
    cases hexecuted
  | cons session rest =>
    rw [hsessions, List.map_cons] at hexecuted
    have hone := (List.cons.inj hexecuted).1
    cases hx : session.executions with
    | nil =>
      rw [hx] at hone
      cases hone
    | cons x xs => exact ⟨session, x, rfl, hx ▸ List.mem_cons_self⟩

theorem steady_orders {after : Past Unit} (h : after ⊆ ordersPast) :
    Session.Steady ordersEnvironment (wakes ordersOrchestrator 0 after) := by
  intro wake hwake
  obtain ⟨service, event, hmem, henvironment, hevent⟩ := mem_wakes hwake
  have hmem := h hmem
  simp only [ordersPast, ordersEvents, Runs.history, List.mem_cons, List.not_mem_nil, or_false,
    Prod.mk.injEq] at hmem
  rw [henvironment]
  rcases hmem with ⟨rfl, rfl⟩ | ⟨rfl, rfl⟩ | ⟨rfl, rfl⟩ | ⟨rfl, rfl⟩
  · cases hevent
  · cases hevent
  · refine ⟨rfl, ?_⟩
    intro fault hfault
    rw [hfault] at hevent
    cases hevent
  · refine ⟨rfl, ?_⟩
    intro fault hfault
    rw [hfault] at hevent
    cases hevent

theorem opens_sound {w : Service γ} {event : Event} {first : Session γ}
    (h : Opens o w event first) (ws : List Session.Wake) :
    (first.run o ws).Sound o ∧ first.SameCall (first.run o ws) := by
  refine Session.sound_run ?_ ws
  rw [h.opened]
  exact Session.sound_opened _ _ _ _ _ _

theorem Reached.ended_of_executed (h : Reached o ttl past service) {id : ℕ} {session : Session γ}
    (hs : service.sessions[id]? = some session) (hx : session.executions ≠ []) :
    ∃ outcome, session.phase = .finished outcome := by
  obtain ⟨before, w, event, after, first, hpast, -, hopens, -, rfl⟩ := h.origin hs
  exact (opens_sound hopens _).1.first hx

theorem orchestrator_of_same {s t : Session γ} (h : s.SameCall t) (env : Environment)
    (generate : List (GenerationRequest γ) → GenerationResponse) :
    t.orchestrator o env generate = s.orchestrator o env generate := by
  rw [Session.orchestrator, Session.orchestrator, h.schema, h.correlationId]

/-- The event in which a session starts: a query of the session's caller, answered from the schema
served at that time. -/
structure Start (o : Orchestrator γ) (w : Service γ) (event : Event) (session : Session γ) :
    Prop where
  event_eq : ∃ headers uuid bound, event = .query headers uuid bound session.request
      session.execute ∧ getAuthContext headers = .ok session.auth
  tenant : ∀ t ∈ session.request.tenantId, t = session.auth.tenantId
  served : w.served o = .ok session.schema

theorem Opens.start {w : Service γ} {event : Event} {first session : Session γ}
    (h : Opens o w event first) (hsame : first.SameCall session) : Start o w event session where
  event_eq := by
    rw [hsame.request, hsame.execute, hsame.auth]
    exact h.event_eq
  tenant := by
    intro t ht
    rw [hsame.request] at ht
    rw [hsame.auth]
    have hmatch := h.tenant
    rw [Orchestrator.tenantMismatch, Option.mem_def.mp ht] at hmatch
    simpa using hmatch
  served := by
    rw [hsame.schema]
    exact h.served

/-- However the events of a run interleave, a session that has ended did what `process` does at once
with the schema served at its start and with the answers that it got. The inputs of other sessions,
refreshes and changes of the schema do not matter. -/
theorem sessions_atomic (o : Orchestrator γ) (ttl : ℚ) (past : Past γ) (service : Service γ)
    (h : Reached o ttl past service) (id : ℕ) (session : Session γ)
    (hs : service.sessions[id]? = some session) :
    ∃ before w event after, past = before ++ (w, event) :: after ∧ Start o w event session ∧
      w.sessions.length = id ∧
      ∀ env outcome, Session.Steady env (wakes o id after) → session.phase = .finished outcome →
        session.EndsAs ((session.orchestrator o env (inTurn (answers (wakes o id after)))).process
          session.request session.auth session.execute) := by
  obtain ⟨before, w, event, after, first, hpast, -, hopens, hlength, rfl⟩ := h.origin hs
  have hsame := (opens_sound hopens (wakes o id after)).2
  refine ⟨before, w, event, after, hpast, hopens.start hsame, hlength, ?_⟩
  intro env outcome hsteady hend
  rw [orchestrator_of_same hsame, hsame.request, hsame.auth, hsame.execute]
  exact Session.endsAs_process hopens.tenant hopens.unambiguous hsteady hopens.opened hend

theorem sessions_orders : ∃ session ws, ordersService.sessions[0]? = some session ∧
    session.EndsAs ((session.orchestrator ordersOrchestrator ordersEnvironment
      (inTurn (answers ws))).process session.request session.auth session.execute) := by
  obtain ⟨session, x, hs, hx⟩ := session_orders
  obtain ⟨outcome, hend⟩ := reached_orders.ended_of_executed hs (List.ne_nil_of_mem hx)
  obtain ⟨before, w, event, after, hpast, -, -, hends⟩ := sessions_atomic ordersOrchestrator 300
    ordersPast ordersService reached_orders 0 session hs
  have hafter : after ⊆ ordersPast := by
    rw [hpast]
    exact List.subset_append_of_subset_right before (List.subset_cons_self _ after)
  exact ⟨session, _, hs, hends ordersEnvironment outcome (steady_orders hafter) hend⟩

/-- One call of the executor in a run: its session was started by a query to be executed, the
schema was fresh then, and the statement is the final form of a candidate that has passed every
check for this caller. -/
structure Authorized (o : Orchestrator γ) (past : Past γ) (session : Session γ)
    (x : ExecutorCall) : Prop where
  origin : ∃ before w event after, past = before ++ (w, event) :: after ∧
    Start o w event session ∧ Schema.Fresh o.gate.py (catalogPast o before) w.world (.getSchema false)
  may : session.execute = true ∧ session.request.dryRun = false ∧ session.request.sqlOnly = false
  passed : ∃ planner candidate outcome e,
    o.gate.validator.validate o.gate.py session.schema o.gate.glot candidate
      (o.dialect session.request) = .ok outcome ∧
    Gate.Passes { o.gate with readonlyEngine := planner } session.schema session.auth
      (o.effectiveMaxRows session.request) outcome e ∧
    x.sql = o.gate.glot.sql (o.dialect session.request)
      (o.gate.finalExpression session.schema (o.effectiveMaxRows session.request)
        session.auth.tenantId e)
  dialect : x.dialect = o.dialect session.request
  maxRows : x.maxRows = o.effectiveMaxRows session.request
  once : session.executions = [x]

theorem passed_of_accepted {session : Session γ} {sql : String} (h : session.Accepted o sql) :
    ∃ planner candidate outcome e,
      o.gate.validator.validate o.gate.py session.schema o.gate.glot candidate
        (o.dialect session.request) = .ok outcome ∧
      Gate.Passes { o.gate with readonlyEngine := planner } session.schema session.auth
        (o.effectiveMaxRows session.request) outcome e ∧
      sql = o.gate.glot.sql (o.dialect session.request)
        (o.gate.finalExpression session.schema (o.effectiveMaxRows session.request)
          session.auth.tenantId e) := by
  obtain ⟨-, planner, candidate, hok, hsql⟩ := h
  obtain ⟨outcome, prepared, hvalidate, hprepare, hcharge, heq⟩ := Gate.secureCandidate_ok hok
  obtain ⟨e, hpasses, hexpression, hprepared, -, -⟩ := Gate.prepare_ok hprepare
  refine ⟨planner, candidate, outcome, e, hvalidate, hpasses, ?_⟩
  rw [heq, Gate.charge_finalSql hcharge, hprepared, hexpression] at hsql
  exact (Option.some.inj hsql).symm

/-- In every run, whatever the order of its events, everything that reaches the executor is
authorized. -/
theorem executions_authorized (o : Orchestrator γ) (ttl : ℚ) (past : Past γ) (service : Service γ)
    (h : Reached o ttl past service) (id : ℕ) (session : Session γ)
    (hs : service.sessions[id]? = some session) (x : ExecutorCall) (hx : x ∈ session.executions) :
    Authorized o past session x := by
  obtain ⟨before, w, event, after, first, hpast, -, hopens, -, rfl⟩ := h.origin hs
  obtain ⟨hsound, hsame⟩ := opens_sound hopens (wakes o id after)
  obtain ⟨haccepted, hdialect, hrows⟩ := hsound.executed x hx
  have honce : (first.run o (wakes o id after)).executions = [x] := by
    obtain ⟨y, hy⟩ := List.length_eq_one_iff.mp
      (Nat.le_antisymm hsound.atMostOnce (List.length_pos_of_mem hx))
    rw [hy] at hx ⊢
    rw [List.mem_singleton.mp hx]
  have hmay := haccepted.1
  rw [Session.mayExecute] at hmay
  simp only [Bool.and_eq_true, Bool.not_eq_true'] at hmay
  exact
    { origin := ⟨before, w, event, after, hpast, hopens.start hsame,
        Schema.fresh_of_tracked (h.traced_before hpast).world _⟩
      may := ⟨hmay.1.1, hmay.1.2, hmay.2⟩
      passed := passed_of_accepted haccepted
      dialect := hdialect
      maxRows := hrows
      once := honce }

theorem authorized_orders : ∃ session x, ordersService.sessions[0]? = some session ∧
    Authorized ordersOrchestrator ordersPast session x := by
  obtain ⟨session, x, hs, hx⟩ := session_orders
  exact ⟨session, x, hs, executions_authorized ordersOrchestrator 300 ordersPast ordersService
    reached_orders 0 session hs x hx⟩

end TextToSql.Api
