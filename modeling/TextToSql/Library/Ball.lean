import TextToSql.Library.BreadthFirst

namespace TextToSql.Library.BreadthFirst

open Graphs

variable {α : Type} [DecidableEq α]

/-- Add the neighbours of the last layer, at most so many times and until there are no new ones. -/
def grow (next : α → List α) : ℕ → List α → List α → List α
  | 0, _, seen => seen
  | hops + 1, frontier, seen =>
    let nxt := (frontier.flatMap next).dedup.filter (· ∉ seen)
    let seen := seen ++ nxt
    if nxt = [] then seen else grow next hops nxt seen

variable {next : α → List α} {src : α} {n : ℕ}

theorem mem_layer {frontier seen : List α} {v : α}
    (hfrontier : ∀ v, v ∈ frontier ↔ Distance (Edge next) src n v)
    (hseen : ∀ v, v ∈ seen ↔ ∃ m ≤ n, Distance (Edge next) src m v) :
    v ∈ (frontier.flatMap next).dedup.filter (· ∉ seen) ↔ Distance (Edge next) src (n + 1) v := by
  rw [List.mem_filter, List.mem_dedup, List.mem_flatMap, decide_eq_true_eq]
  constructor
  · rintro ⟨⟨u, hu, hedge⟩, hnot⟩
    have hsteps := Steps.succ ((hfrontier u).mp hu).steps hedge
    obtain ⟨m, hm, hdistance⟩ := hsteps.exists_distance
    rcases Nat.lt_succ_iff_lt_or_eq.mp (Nat.lt_succ_of_le hm) with hlt | rfl
    · exact absurd ((hseen v).mpr ⟨m, Nat.le_of_lt_succ hlt, hdistance⟩) hnot
    · exact hdistance
  · intro h
    obtain ⟨u, hu, hedge⟩ := h.pred
    refine ⟨⟨u, (hfrontier u).mpr hu, hedge⟩, fun hv ↦ ?_⟩
    obtain ⟨m, hm, hdistance⟩ := (hseen v).mp hv
    have := hdistance.unique h
    omega

omit [DecidableEq α] in
theorem Distance.none_beyond (h : ∀ v, ¬Distance (Edge next) src n v) (k : ℕ) :
    ∀ v, ¬Distance (Edge next) src (n + k) v := by
  induction k with
  | zero => exact h
  | succ k ih =>
    intro v hv
    obtain ⟨u, hu, -⟩ := hv.pred
    exact ih u hu

theorem mem_grow (hops : ℕ) {frontier seen : List α}
    (hfrontier : ∀ v, v ∈ frontier ↔ Distance (Edge next) src n v)
    (hseen : ∀ v, v ∈ seen ↔ ∃ m ≤ n, Distance (Edge next) src m v) (v : α) :
    v ∈ grow next hops frontier seen ↔ ∃ m ≤ n + hops, Distance (Edge next) src m v := by
  induction hops generalizing n frontier seen with
  | zero => exact hseen v
  | succ hops ih =>
    have hlayer (v : α) := mem_layer (v := v) hfrontier hseen
    have hseen' (v : α) : v ∈ seen ++ (frontier.flatMap next).dedup.filter (· ∉ seen) ↔
        ∃ m ≤ n + 1, Distance (Edge next) src m v := by
      rw [List.mem_append, hseen, hlayer]
      constructor
      · rintro (⟨m, hm, hdistance⟩ | hdistance)
        · exact ⟨m, Nat.le_succ_of_le hm, hdistance⟩
        · exact ⟨n + 1, Nat.le_refl _, hdistance⟩
      · rintro ⟨m, hm, hdistance⟩
        rcases Nat.lt_succ_iff_lt_or_eq.mp (Nat.lt_succ_of_le hm) with hlt | rfl
        · exact .inl ⟨m, Nat.le_of_lt_succ hlt, hdistance⟩
        · exact .inr hdistance
    rw [grow]
    split
    · rename_i hnil
      rw [hseen']
      have hnone (v : α) : ¬Distance (Edge next) src (n + 1) v := by
        rw [← hlayer, hnil]
        exact List.not_mem_nil
      constructor
      · rintro ⟨m, hm, hdistance⟩
        exact ⟨m, by omega, hdistance⟩
      · rintro ⟨m, hm, hdistance⟩
        refine ⟨m, ?_, hdistance⟩
        by_contra hlt
        obtain ⟨k, rfl⟩ := Nat.exists_eq_add_of_lt (Nat.lt_of_not_le hlt)
        have := Distance.none_beyond hnone (k + 1) v
        rw [← Nat.add_assoc] at this
        exact this hdistance
    · rw [ih hlayer hseen', show n + 1 + hops = n + (hops + 1) by omega]

end TextToSql.Library.BreadthFirst
