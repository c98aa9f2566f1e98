import TextToSql.Application.Sessions

namespace TextToSql.Application

open Domain Sql Security Execution

def Input.isAnswer : Input → Bool
  | .generated _ => true
  | .executed => false

/-- The number of answers that a call of `process` can still need. -/
def Phase.patience {γ : Type} : Phase γ → ℕ
  | .generating _ _ _ remaining => remaining + 1
  | _ => 0

namespace Session

variable {γ : Type} {o : Orchestrator γ} {s : Session γ}

theorem settle_spent (env : Environment) (generation : GenerationResponse) (secured : Secured)
    (attempts : ℕ) : (s.settle o env generation secured attempts).1.phase.patience = 0 ∧
      (s.settle o env generation secured attempts).1.rounds = s.rounds := by
  cases @settles γ o s env generation secured attempts with
  | executing sql _ _ _ hsettle =>
    rw [hsettle]
    exact ⟨rfl, rfl⟩
  | previewed sql _ _ _ hsettle =>
    rw [hsettle]
    exact ⟨rfl, rfl⟩
  | rejected _ hsettle =>
    rw [hsettle]
    exact ⟨rfl, rfl⟩

theorem judge_spent (env : Environment) (sent : List (GenerationRequest γ))
    (repair : Option RepairContext) (attempts remaining : ℕ) (generation : GenerationResponse) :
    (s.judge o env sent repair attempts remaining generation).1.phase.patience ≤ remaining ∧
      (s.judge o env sent repair attempts remaining generation).1.rounds.length =
        s.rounds.length + 1 := by
  have hrecorded (current : Round γ) : (s.recorded current).rounds.length = s.rounds.length + 1 := by
    rw [recorded, List.length_append, List.length_singleton]
  unfold judge
  generalize (s.orchestrator o env fun _ ↦ generation).round s.request s.auth sent repair = current
  obtain ⟨hpatience, hrounds⟩ := @settle_spent γ o (s.recorded current) env generation
    current.secured attempts
  have hsettled :
      ((s.recorded current).settle o env generation current.secured attempts).1.phase.patience ≤
        remaining ∧
      ((s.recorded current).settle o env generation current.secured attempts).1.rounds.length =
        s.rounds.length + 1 := by
    rw [hpatience, hrounds]
    exact ⟨Nat.zero_le _, hrecorded current⟩
  dsimp only
  by_cases hok : current.secured.ok = true
  · rw [if_pos hok]
    exact hsettled
  · rw [if_neg hok]
    cases remaining with
    | zero => exact hsettled
    | succ remaining =>
      dsimp only
      by_cases hrepairable : isRepairable current.secured.issues = true
      · rw [if_pos hrepairable]
        exact ⟨le_rfl, hrecorded current⟩
      · rw [if_neg hrepairable]
        exact hsettled

/-- What an input can cost. -/
structure Spent (s t : Session γ) (input : Input) : Prop where
  patience : t.phase.patience ≤ s.phase.patience - input.isAnswer.toNat
  rounds : t.rounds.length + t.phase.patience ≤ s.rounds.length + s.phase.patience

theorem spent_next (w : Wake) : s.Spent (s.next o w) w.2 := by
  obtain ⟨env, input⟩ := w
  cases hphase : s.phase with
  | generating sent repair attempts remaining =>
    cases input with
    | generated answer =>
      cases answer with
      | ok generation =>
        have hnext := @next_answered γ o s sent repair attempts remaining hphase env generation
        obtain ⟨hpatience, hrounds⟩ :=
          @judge_spent γ o s env sent repair attempts remaining generation
        have hbefore : s.phase.patience = remaining + 1 := by
          rw [hphase]
          rfl
        have hone : (Input.generated (.ok generation)).isAnswer.toNat = 1 := rfl
        refine ⟨?_, ?_⟩
        · rw [hnext, hone, hbefore]
          exact hpatience
        · rw [hnext, hbefore, hrounds]
          omega
      | error fault =>
        rw [next_failed hphase]
        exact ⟨Nat.zero_le _, Nat.add_le_add_left (Nat.zero_le _) _⟩
    | executed =>
      rw [next_unanswered hphase]
      exact ⟨le_rfl, le_rfl⟩
  | executing generation secured attempts sql =>
    cases input with
    | generated answer =>
      have hbefore : s.phase.patience = 0 := by
        rw [hphase]
        rfl
      rw [next_executing hphase]
      exact ⟨hbefore ▸ Nat.zero_le _, le_rfl⟩
    | executed =>
      rw [next_concluded hphase]
      exact ⟨Nat.zero_le _, Nat.add_le_add_left (Nat.zero_le _) _⟩
  | finished outcome =>
    have hnext : s.next o (env, input) = s := run_finished hphase [(env, input)]
    have hbefore : s.phase.patience = 0 := by
      rw [hphase]
      rfl
    rw [hnext]
    exact ⟨hbefore ▸ Nat.zero_le _, le_rfl⟩

theorem patience_run (ws : List Wake) :
    (s.run o ws).phase.patience ≤ s.phase.patience - ws.countP (·.2.isAnswer) := by
  induction ws generalizing s with
  | nil => exact le_rfl
  | cons w ws ih =>
    have hstep := (@spent_next γ o s w).patience
    have hrest := @ih (s.next o w)
    rw [run_cons, List.countP_cons]
    cases hanswer : w.2.isAnswer with
    | false =>
      rw [hanswer, Bool.toNat_false] at hstep
      simp only [Bool.false_eq_true, ↓reduceIte]
      omega
    | true =>
      rw [hanswer, Bool.toNat_true] at hstep
      simp only [↓reduceIte]
      omega

theorem rounds_run (ws : List Wake) :
    (s.run o ws).rounds.length + (s.run o ws).phase.patience ≤
      s.rounds.length + s.phase.patience := by
  induction ws generalizing s with
  | nil => exact le_rfl
  | cons w ws ih =>
    rw [run_cons]
    exact ih.trans (@spent_next γ o s w).rounds

theorem finished_of_executed {ws : List Wake} (h : s.phase.patience = 0)
    (hw : ∃ w ∈ ws, w.2 = .executed) : ∃ outcome, (s.run o ws).phase = .finished outcome := by
  induction ws generalizing s with
  | nil =>
    obtain ⟨w, hw, -⟩ := hw
    cases hw
  | cons w ws ih =>
    obtain ⟨env, input⟩ := w
    cases hphase : s.phase with
    | generating sent repair attempts remaining =>
      rw [hphase] at h
      cases h
    | finished outcome =>
      rw [run_finished hphase]
      exact ⟨outcome, hphase⟩
    | executing generation secured attempts sql =>
      rw [run_cons]
      cases input with
      | executed =>
        rw [next_concluded hphase, run_finished rfl]
        exact ⟨_, rfl⟩
      | generated answer =>
        rw [next_executing hphase]
        refine ih h ?_
        obtain ⟨w, hw, hexecuted⟩ := hw
        rcases List.mem_cons.mp hw with rfl | hw
        · cases hexecuted
        · exact ⟨w, hw, hexecuted⟩

/-- A call that gets all the answers that it can need, and then the end of its execution, ends. -/
theorem finished_of_answers {answered rest : List Wake}
    (hanswers : s.phase.patience ≤ answered.countP (·.2.isAnswer))
    (hexecuted : ∃ w ∈ rest, w.2 = .executed) :
    ∃ outcome, (s.run o (answered ++ rest)).phase = .finished outcome := by
  have hpatience := @patience_run γ o s answered
  rw [run_append]
  exact finished_of_executed (by omega) hexecuted

end Session

end TextToSql.Application
