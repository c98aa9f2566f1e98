import TextToSql.Api.Interleaving

namespace TextToSql.Api

open Library Domain Application

variable {γ : Type} {o : Orchestrator γ} {service : Service γ}

def AdminRefresh (o : Orchestrator γ) (event : Event) : Prop :=
  ∃ headers bound auth, event = .refresh headers bound ∧ getAuthContext headers = .ok auth ∧
    isAdmin o.gate.py auth = true

/-- An event in which an introspection succeeds. -/
def Introspects (o : Orchestrator γ) (x : Service γ × Event) : Prop :=
  ∃ event schema, (x.1.react o x.2).catalog = some event ∧
    Schema.Introspected o.gate.py x.1.world event schema

theorem requireAdmin_ok {py : Python} {headers : Headers} {auth : AuthContext}
    (h : requireAdmin py headers = .ok auth) :
    getAuthContext headers = .ok auth ∧ isAdmin py auth = true := by
  unfold requireAdmin at h
  cases hauth : getAuthContext headers with
  | error error =>
    rw [hauth] at h
    cases h
  | ok found =>
    rw [hauth] at h
    dsimp only at h
    by_cases hadmin : isAdmin py found = true
    · rw [if_pos hadmin] at h
      cases h
      exact ⟨rfl, hadmin⟩
    · rw [if_neg hadmin] at h
      cases h

theorem begin_catalog {request : QueryRequest} {auth : AuthContext} {execute : Bool}
    {correlationId bound : String} {event : Schema.Event}
    (h : (service.begin_ o request auth execute correlationId bound).catalog = some event) :
    event = .call (.getSchema false) := by
  unfold Service.begin_ at h
  by_cases htenant : Orchestrator.tenantMismatch request auth = true
  · rw [if_pos htenant] at h
    cases h
  · rw [if_neg htenant] at h
    cases hdetect : o.detect request.question with
    | some clarification =>
      rw [hdetect] at h
      cases h
    | none =>
      rw [hdetect] at h
      dsimp only at h
      cases hserved : service.served o with
      | error exc =>
        rw [hserved] at h
        exact (Option.some.inj h).symm
      | ok schema =>
        rw [hserved] at h
        exact (Option.some.inj h).symm

theorem wake_catalog (id : ℕ) (input : Input) : (service.wake o id input).catalog = none := by
  unfold Service.wake
  cases service.sessions[id]? with
  | none => rfl
  | some session =>
    dsimp only
    cases session.phase <;> rfl

theorem react_catalog {event : Event} {call : Schema.Call}
    (h : (service.react o event).catalog = some (.call call)) :
    call = .getSchema false ∨ call = .refresh ∧ AdminRefresh o event := by
  cases event with
  | query headers uuid bound request execute =>
    unfold Service.react at h
    dsimp only at h
    cases hauth : getAuthContext headers with
    | error error =>
      rw [hauth] at h
      cases h
    | ok auth =>
      rw [hauth] at h
      have hcall := begin_catalog h
      cases hcall
      exact .inl rfl
  | wake id input =>
    have hnone := @wake_catalog γ o service id input
    cases hnone.symm.trans h
  | validate headers bound request =>
    unfold Service.react at h
    dsimp only at h
    cases hauth : getAuthContext headers with
    | error error =>
      rw [hauth] at h
      cases h
    | ok auth =>
      rw [hauth] at h
      cases h
      exact .inl rfl
  | schema headers bound =>
    unfold Service.react at h
    dsimp only at h
    cases hauth : getAuthContext headers with
    | error error =>
      rw [hauth] at h
      cases h
    | ok auth =>
      rw [hauth] at h
      cases h
      exact .inl rfl
  | refresh headers bound =>
    unfold Service.react at h
    dsimp only at h
    cases hadmin : requireAdmin o.gate.py headers with
    | error error =>
      rw [hadmin] at h
      cases h
    | ok auth =>
      rw [hadmin] at h
      cases h
      exact .inr ⟨rfl, headers, bound, auth, rfl, requireAdmin_ok hadmin⟩
  | ready connected =>
    cases h
    exact .inl rfl
  | advance seconds nonneg => cases h
  | change database => cases h
  | write environment => cases h

theorem ttl_history {ttl : ℚ} {past before after : Past γ} {w : Service γ} {event : Event}
    (h : Reached o ttl past service) (hp : past = before ++ (w, event) :: after) :
    w.world.catalog.cache.ttl = ttl := by
  obtain ⟨semantic, now, database, environment, events, rfl, -⟩ := h.run
  refine @Runs.invariant_history _ _ (Service.step o) (fun _ s ↦ s.world.catalog.cache.ttl = ttl) ?_
    (.start ttl semantic now database environment) rfl events before after w event hp
  intro _ s e hs
  unfold Service.step
  cases (s.react o e).catalog with
  | none => exact hs
  | some catalogEvent => exact (Schema.step_ttl catalogEvent).trans hs

/-- Whatever the callers do, and in whatever order, two successful introspections are more than the
TTL apart, unless an admin asks for a refresh after the first of them. -/
theorem introspections_apart (o : Orchestrator γ) (ttl : ℚ) (semantic : Schema.SemanticLayer)
    (now : ℚ) (database : Except String DatabaseSchema) (environment : Environment)
    (events : List Event) (before between after : Past γ) (x y : Service γ × Event)
    (hp : Runs.history (Service.step o) (.start ttl semantic now database environment) events =
      before ++ x :: (between ++ y :: after))
    (hx : Introspects o x) (hy : Introspects o y) :
    (∃ z ∈ between ++ [y], AdminRefresh o z.2) ∨
      Schema.Elapsed ttl x.1.world.now y.1.world.now := by
  obtain ⟨w, event⟩ := y
  have hreached : Reached o ttl
      (Runs.history (Service.step o) (.start ttl semantic now database environment) events) _ :=
    ⟨semantic, now, database, environment, events, rfl, rfl⟩
  have hsplit : before ++ x :: (between ++ (w, event) :: after) =
      (before ++ x :: between) ++ (w, event) :: after := by simp
  have htracked := (hreached.traced_before (hp.trans hsplit)).world
  have httl := ttl_history hreached (hp.trans hsplit)
  obtain ⟨catalogEvent, schema, hcatalog, call, raw, rfl, hintrospected, -, -⟩ := hy
  rcases react_catalog hcatalog with rfl | ⟨rfl, hadmin⟩
  · obtain ⟨first, found, hfirst, hfound⟩ := hx
    have hpast : catalogPast o (before ++ x :: between) =
        catalogPast o before ++ (x.1.world, first) :: catalogPast o between := by
      rw [catalogPast, List.filterMap_append, List.filterMap_cons, hfirst]
      rfl
    rcases (Schema.fresh_of_tracked htracked (.getSchema false)).reuse rfl hintrospected _ _ _ _ _
      hpast hfound with ⟨z, hz, hrefresh⟩ | helapsed
    · obtain ⟨z', hz', hmap⟩ := List.mem_filterMap.mp hz
      obtain ⟨e, he, rfl⟩ := Option.map_eq_some_iff.mp hmap
      obtain rfl : e = .call .refresh := hrefresh
      rcases react_catalog he with hcall | ⟨-, hadmin⟩
      · cases hcall
      · exact .inl ⟨z', List.mem_append_left _ hz', hadmin⟩
    · rw [httl] at helapsed
      exact .inr helapsed
  · exact .inl ⟨_, List.mem_append_right _ (List.mem_singleton_self _), hadmin⟩

def someoneElse : Headers := { userId := some "u2", tenantId := some "2" }

theorem getAuthContext_someoneElse :
    getAuthContext someoneElse = .ok { userId := "u2", tenantId := "2", roles := splitRoles "" } := by
  simp [getAuthContext, someoneElse, Option.filter]

theorem introspects_of_schema {headers : Headers} {auth : AuthContext} {raw : DatabaseSchema}
    (hauth : getAuthContext headers = .ok auth) (bound : Uuid)
    (hintrospected : (service.world.reply o.gate.py (.getSchema false)).introspected = true)
    (hraw : service.world.database = .ok raw) : Introspects o (service, .schema headers bound) := by
  refine ⟨.call (.getSchema false), _, ?_, .getSchema false, raw, rfl, hintrospected, hraw, rfl⟩
  unfold Service.react
  dsimp only
  rw [hauth]
  rfl

def scheduleEvents : List Event :=
  [.schema someoneElse zeroUuid, .advance 301 (by norm_num), .schema someoneElse zeroUuid]

def scheduleLater : Service Unit :=
  (scheduleEvents.take 2).foldl (Service.step ordersOrchestrator) ordersStart

theorem introspected_orders :
    (ordersStart.world.reply ordersOrchestrator.gate.py (.getSchema false)).introspected = true ∧
      (scheduleLater.world.reply ordersOrchestrator.gate.py (.getSchema false)).introspected =
        true := by
  decide +kernel

theorem introspections_schedule :
    (∃ z ∈ [(ordersStart.step ordersOrchestrator (.schema someoneElse zeroUuid),
        Event.advance 301 (by norm_num)), (scheduleLater, .schema someoneElse zeroUuid)],
      AdminRefresh ordersOrchestrator z.2) ∨
      Schema.Elapsed 300 ordersStart.world.now scheduleLater.world.now :=
  introspections_apart ordersOrchestrator 300 _ 0 _ ordersEnvironment scheduleEvents [] [_] []
    (ordersStart, .schema someoneElse zeroUuid) (scheduleLater, .schema someoneElse zeroUuid) rfl
    (introspects_of_schema getAuthContext_someoneElse _ introspected_orders.1 rfl)
    (introspects_of_schema getAuthContext_someoneElse _ introspected_orders.2 rfl)

end TextToSql.Api
