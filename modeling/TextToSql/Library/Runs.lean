import Mathlib.Data.List.Basic

namespace TextToSql.Library.Runs

variable {σ ε : Type} (step : σ → ε → σ)

/-- The events of a run, each with the state in which it happens. -/
def history : σ → List ε → List (σ × ε)
  | _, [] => []
  | s, e :: es => (s, e) :: history (step s e) es

variable {step}

theorem append_singleton_eq_split {α : Type} {past before after : List α} {x y : α}
    (h : past ++ [x] = before ++ y :: after) :
    (before = past ∧ y = x ∧ after = []) ∨
      ∃ rest, after = rest ++ [x] ∧ past = before ++ y :: rest := by
  rcases List.eq_nil_or_concat after with rfl | ⟨rest, z, rfl⟩
  · obtain ⟨rfl, hx⟩ := List.append_inj' h rfl
    exact .inl ⟨rfl, (List.cons.inj hx).1.symm, rfl⟩
  · right
    rw [List.concat_eq_append, ← List.cons_append, ← List.append_assoc] at h
    obtain ⟨hp, hx⟩ := List.append_inj' h rfl
    exact ⟨rest, by rw [(List.cons.inj hx).1, List.concat_eq_append], hp⟩

theorem invariant_history {Inv : List (σ × ε) → σ → Prop}
    (keep : ∀ past s e, Inv past s → Inv (past ++ [(s, e)]) (step s e)) {start : σ}
    (init : Inv [] start) {events : List ε} {past rest : List (σ × ε)} {s : σ} {e : ε}
    (h : history step start events = past ++ (s, e) :: rest) : Inv past s := by
  suffices hs : ∀ events before start, Inv before start → ∀ past,
      history step start events = past ++ (s, e) :: rest → Inv (before ++ past) s from
    hs events [] start init past h
  intro events
  induction events with
  | nil =>
    intro before start _ past h
    exact absurd h.symm (by simp [history])
  | cons d events ih =>
    intro before start hi past h
    cases past with
    | nil =>
      obtain ⟨hd, -⟩ := List.cons.inj h
      cases hd
      rwa [List.append_nil]
    | cons x past =>
      have htail : history step (step start d) events = past ++ (s, e) :: rest :=
        (List.cons.inj h).2
      obtain rfl : (start, d) = x := (List.cons.inj h).1
      have hnext := ih _ _ (keep before start d hi) past htail
      rwa [List.append_assoc, List.singleton_append] at hnext

/-- What holds at the start and is kept by every event holds after a run. -/
theorem invariant_run {Inv : List (σ × ε) → σ → Prop}
    (keep : ∀ past s e, Inv past s → Inv (past ++ [(s, e)]) (step s e)) {start : σ}
    (init : Inv [] start) (events : List ε) :
    Inv (history step start events) (events.foldl step start) := by
  suffices hs : ∀ events before start, Inv before start →
      Inv (before ++ history step start events) (events.foldl step start) from
    hs events [] start init
  intro events
  induction events with
  | nil =>
    intro before start h
    rwa [history, List.append_nil]
  | cons e events ih =>
    intro before start h
    have hnext := ih _ _ (keep before start e h)
    rwa [List.append_assoc, List.singleton_append] at hnext

end TextToSql.Library.Runs
