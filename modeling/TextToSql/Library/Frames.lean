import Mathlib.Data.List.Basic

namespace TextToSql.Library

variable {α β : Type}

/-- The elements with the property in the innermost frame that has one; the innermost frame comes
first. -/
def innermost (p : α → Bool) : List (List α) → List α
  | [] => []
  | frame :: frames => if frame.any p then frame.filter p else innermost p frames

theorem mem_innermost {p : α → Bool} {frames : List (List α)} {x : α}
    (h : x ∈ innermost p frames) : p x = true ∧ ∃ frame ∈ frames, x ∈ frame := by
  induction frames with
  | nil => cases h
  | cons frame frames ih =>
    rw [innermost] at h
    split at h
    · obtain ⟨hx, hp⟩ := List.mem_filter.mp h
      exact ⟨hp, frame, List.mem_cons_self, hx⟩
    · obtain ⟨hp, frame', hf, hx⟩ := ih h
      exact ⟨hp, frame', .tail _ hf, hx⟩

end TextToSql.Library
