import TextToSql.Api.Interleaving
import TextToSql.Application.SessionProgress

namespace TextToSql.Api

open Library Domain Application

variable {γ : Type} {o : Orchestrator γ} {ttl : ℚ} {past : Past γ} {service : Service γ}

def heardIn (id : ℕ) (x : Service γ × Event) : Option Session.Wake :=
  match x.2 with
  | .wake j input => if j = id then some (x.1.environment, input) else none
  | _ => none

def heard (id : ℕ) (past : Past γ) : List Session.Wake := past.filterMap (heardIn id)

theorem heard_append (id : ℕ) (before after : Past γ) :
    heard id (before ++ after) = heard id before ++ heard id after := List.filterMap_append

theorem wakes_append (id : ℕ) (before after : Past γ) :
    wakes o id (before ++ after) = wakes o id before ++ wakes o id after := by
  simp [wakes, sessionMoves, Processes.inputs]

variable {id : ℕ} {session first : Session γ} {w : Service γ} {event : Event}

theorem wakes_eq_nil (h : ∀ input, event ≠ .wake id input) : wakes o id [(w, event)] = [] := by
  refine List.eq_nil_iff_forall_not_mem.mpr ?_
  intro wake hwake
  obtain ⟨w', event', hmem, -, hevent⟩ := mem_wakes hwake
  cases List.mem_singleton.mp hmem
  exact h _ hevent

theorem heard_eq_nil (h : ∀ input, event ≠ .wake id input) : heard id [(w, event)] = [] := by
  cases event with
  | wake j input =>
    have hj : j ≠ id := by
      rintro rfl
      exact h input rfl
    simp [heard, heardIn, hj]
  | _ => rfl

theorem wake_move (hs : service.sessions[id]? = some session) (input : Input) :
    (service.wake o id input).session = some (.deliver id (service.environment, input)) ∨
      ∃ outcome, session.phase = .finished outcome := by
  cases hphase : session.phase with
  | finished outcome => exact .inr ⟨outcome, rfl⟩
  | generating sent repair attempts remaining =>
    refine .inl ?_
    unfold Service.wake
    rw [hs]
    dsimp only
    rw [hphase]
  | executing generation secured attempts sql =>
    refine .inl ?_
    unfold Service.wake
    rw [hs]
    dsimp only
    rw [hphase]

theorem run_heard_one (hs : w.sessions[id]? = some session) (event : Event) :
    session.run o (wakes o id [(w, event)]) = session.run o (heard id [(w, event)]) := by
  by_cases hwake : ∃ input, event = .wake id input
  · obtain ⟨input, rfl⟩ := hwake
    rcases @wake_move γ o w id session hs input with hdeliver | ⟨outcome, hphase⟩
    · have hmove : (w.react o (.wake id input)).session =
          some (.deliver id (w.environment, input)) := hdeliver
      have hwakes : wakes o id [(w, .wake id input)] = [(w.environment, input)] := by
        simp [wakes, sessionMoves, hmove, Processes.inputs, Processes.Move.inputFor]
      have hheard : heard id [(w, .wake id input)] = [(w.environment, input)] := by
        simp [heard, heardIn]
      rw [hwakes, hheard]
    · rw [Session.run_finished hphase, Session.run_finished hphase]
  · have hother : ∀ input, event ≠ .wake id input := fun input h ↦ hwake ⟨input, h⟩
    rw [wakes_eq_nil hother, heard_eq_nil hother]

/-- A session is where everything that came for it has brought it: what came after its end changes
nothing. -/
theorem Reached.run_heard (h : Reached o ttl past service) {before after : Past γ}
    (hpast : past = before ++ (w, event) :: after)
    (hspawn : (w.react o event).session = some (.spawn first)) {between rest : Past γ}
    (hafter : after = between ++ rest) :
    first.run o (wakes o w.sessions.length between) =
      first.run o (heard w.sessions.length between) := by
  induction between using List.reverseRecOn generalizing rest with
  | nil => rfl
  | append_singleton between x ih =>
    obtain ⟨w', event'⟩ := x
    have hearlier : after = between ++ (w', event') :: rest := by
      rw [hafter, List.append_assoc, List.singleton_append]
    have hbetween := ih hearlier
    have hsplit : past = (before ++ (w, event) :: between) ++ (w', event') :: rest := by
      rw [hpast, hearlier, List.append_assoc, List.cons_append]
    have hmoves : sessionMoves o (before ++ (w, event) :: between) =
        sessionMoves o before ++ .spawn first :: sessionMoves o between := by
      rw [sessionMoves, List.filterMap_append, List.filterMap_cons, hspawn]
      rfl
    have hs : w'.sessions[w.sessions.length]? =
        some (first.run o (wakes o w.sessions.length between)) := by
      have hspawned : (Processes.move (Session.next o) w.sessions
          (.spawn first))[w.sessions.length]? = some first := by
        simp [Processes.move]
      rw [(h.traced_before hsplit).sessions, hmoves, Processes.moves_append,
        ← (h.traced_before hpast).sessions]
      exact Processes.getElem?_moves hspawned _
    rw [wakes_append, heard_append, Session.run_append, Session.run_append, ← hbetween]
    exact run_heard_one hs event'

/-- However the events of a run interleave, no call of `process` goes on for ever: it has at most
`max_repair_attempts + 1` rounds, and once that many answers and then the end of an execution have
come for it, it has ended. -/
theorem sessions_end (o : Orchestrator γ) (ttl : ℚ) (past : Past γ) (service : Service γ)
    (h : Reached o ttl past service) (id : ℕ) (session : Session γ)
    (hs : service.sessions[id]? = some session) :
    session.rounds.length + session.phase.patience ≤ o.maxRepairAttempts + 1 ∧
      ∃ before w event after, past = before ++ (w, event) :: after ∧ Start o w event session ∧
        w.sessions.length = id ∧
        ∀ answered rest, heard id after = answered ++ rest →
          o.maxRepairAttempts < answered.countP (·.2.isAnswer) →
          (∃ x ∈ rest, x.2 = .executed) → ∃ outcome, session.phase = .finished outcome := by
  obtain ⟨before, w, event, after, first, hpast, hspawn, hopens, hlength, rfl⟩ := h.origin hs
  have hsame := (opens_sound hopens (wakes o id after)).2
  have hpatience : first.phase.patience = o.maxRepairAttempts + 1 := by
    rw [hopens.opened]
    rfl
  have hrounds : first.rounds.length = 0 := by
    rw [hopens.opened]
    rfl
  refine ⟨?_, before, w, event, after, hpast, hopens.start hsame, hlength, ?_⟩
  · have hrun := @Session.rounds_run γ o first (wakes o id after)
    omega
  · intro answered rest hheard hanswers hexecuted
    have hall := h.run_heard hpast hspawn (List.append_nil after).symm
    rw [hlength, hheard] at hall
    rw [hall]
    exact Session.finished_of_answers (by omega) hexecuted

def patientEvents : List Event :=
  [ordersQuery,
    .wake 0 (.generated (.ok { sql := "SELECT" })),
    .wake 0 (.generated (.ok { sql := "SELECT" })),
    .wake 0 (.generated (.ok { sql := "SELECT status FROM orders" })),
    .wake 0 .executed]

def patientPast : Past Unit :=
  Runs.history (Service.step ordersOrchestrator) ordersStart patientEvents

def patientService : Service Unit :=
  patientEvents.foldl (Service.step ordersOrchestrator) ordersStart

theorem reached_patient : Reached ordersOrchestrator 300 patientPast patientService :=
  ⟨_, _, _, _, patientEvents, rfl, rfl⟩

theorem length_patient : patientService.sessions.length = 1 := by decide +kernel

theorem session_patient_ends :
    ∃ session outcome, patientService.sessions[0]? = some session ∧
      session.phase = .finished outcome := by
  have hzero : 0 < patientService.sessions.length := by
    rw [length_patient]
    exact Nat.zero_lt_one
  have hs := List.getElem?_eq_getElem hzero
  obtain ⟨-, before, w, event, after, hpast, hstart, -, hends⟩ := sessions_end ordersOrchestrator
    300 patientPast patientService reached_patient 0 _ hs
  obtain ⟨headers, uuid, bound, hquery, -⟩ := hstart.event_eq
  cases before with
  | nil =>
    obtain ⟨-, rfl⟩ := List.cons.inj hpast
    obtain ⟨outcome, hend⟩ := hends [_, _, _] [_] rfl (by decide)
      ⟨_, List.mem_singleton_self _, rfl⟩
    exact ⟨_, outcome, hs, hend⟩
  | cons x before =>
    have hmem : (w, event) ∈ Runs.history (Service.step ordersOrchestrator)
        (ordersStart.step ordersOrchestrator ordersQuery) patientEvents.tail := by
      have htail := (List.cons.inj hpast).2
      exact htail ▸ List.mem_append_right before List.mem_cons_self
    simp only [patientEvents, List.tail_cons, Runs.history, List.mem_cons, List.not_mem_nil,
      or_false, Prod.mk.injEq] at hmem
    rcases hmem with ⟨-, rfl⟩ | ⟨-, rfl⟩ | ⟨-, rfl⟩ | ⟨-, rfl⟩ <;> cases hquery

end TextToSql.Api
