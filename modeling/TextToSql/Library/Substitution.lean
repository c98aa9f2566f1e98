import Mathlib.Order.Basic
import Mathlib.Tactic
import TextToSql.Library.Backtracking

namespace TextToSql.Library.Backtracking

variable {κ α : Type}

def Cursor.text (c : Cursor κ) : List κ := c.before.reverse ++ c.after

theorem Cursor.eq_of_position {c d : Cursor κ} (htext : c.text = d.text)
    (hposition : c.position = d.position) : c = d := by
  have hlength : c.before.reverse.length = d.before.reverse.length := by
    rw [List.length_reverse, List.length_reverse]
    exact hposition
  obtain ⟨hbefore, hafter⟩ := List.append_inj htext hlength
  exact Cursor.ext (List.reverse_injective hbefore) hafter

theorem Reads.text_eq {c d : Cursor κ} {xs : List κ} (h : Reads c xs d) : d.text = c.text := by
  rw [Cursor.text, Cursor.text, h.before, h.after]
  simp

theorem Reads.position_eq {c d : Cursor κ} {xs : List κ} (h : Reads c xs d) :
    d.position = c.position + xs.length := by
  rw [Cursor.position, Cursor.position, h.before, List.length_append, List.length_reverse,
    Nat.add_comm]

theorem reads_append {c : Cursor κ} {xs ys : List κ} (h : c.after = xs ++ ys) :
    Reads c xs ⟨xs.reverse ++ c.before, ys⟩ := ⟨h, rfl⟩

/-- The matcher prefers to read from the one position to the other. -/
def Match (m : Matcher κ α) (c d : Cursor κ) : Prop := ∃ a, (m c).head? = some (a, d)

def Ends (m : Matcher κ α) (d : Cursor κ) : Prop := ∃ c, Match m c d

/-- Matches are not empty, and two of them that overlap end at one place. -/
structure Laminar (m : Matcher κ α) : Prop where
  reads : ∀ {c d}, Match m c d → ∃ xs, xs ≠ [] ∧ Reads c xs d
  same_end : ∀ {c d e f xs ys}, Match m c d → Match m e f → xs ≠ [] → ys ≠ [] →
    Reads c xs e → Reads e ys d → f = d

theorem Match.unique {m : Matcher κ α} {c d e : Cursor κ} (h : Match m c d) (h' : Match m c e) :
    d = e := by
  obtain ⟨a, h⟩ := h
  obtain ⟨b, h'⟩ := h'
  rw [h] at h'
  exact (Prod.mk.inj (Option.some.inj h')).2

open Classical in
/-- The text with the last element of each match replaced. -/
noncomputable def marked (m : Matcher κ α) (g : κ → κ) : List κ → List κ → List κ
  | _, [] => []
  | before, x :: xs =>
    (if Ends m ⟨x :: before, xs⟩ then g x else x) :: marked m g (x :: before) xs

theorem marked_append {m : Matcher κ α} {g : κ → κ} (before xs ys : List κ) :
    ∃ zs, List.Forall₂ (fun a b ↦ b = a ∨ b = g a) xs zs ∧
      marked m g before (xs ++ ys) = zs ++ marked m g (xs.reverse ++ before) ys := by
  classical
  induction xs generalizing before with
  | nil => exact ⟨[], .nil, rfl⟩
  | cons x xs ih =>
    obtain ⟨zs, hzs, heq⟩ := ih (x :: before)
    refine ⟨(if Ends m ⟨x :: before, xs ++ ys⟩ then g x else x) :: zs, .cons ?_ hzs, ?_⟩
    · split
      · exact .inr rfl
      · exact .inl rfl
    · rw [List.cons_append, marked, heq]
      simp

theorem marked_of_not_ends {m : Matcher κ α} {g : κ → κ} {before xs ys : List κ}
    (h : ∀ e : Cursor κ, e.text = before.reverse ++ (xs ++ ys) → before.length < e.position →
      e.position ≤ before.length + xs.length → ¬Ends m e) :
    marked m g before (xs ++ ys) = xs ++ marked m g (xs.reverse ++ before) ys := by
  induction xs generalizing before with
  | nil => rfl
  | cons x xs ih =>
    have hx : ¬Ends m ⟨x :: before, xs ++ ys⟩ := by
      apply h
      · simp [Cursor.text]
      · simp [Cursor.position]
      · simp [Cursor.position]
    have hrest := @ih (x :: before) fun e htext hlt hle ↦ by
      apply h e
      · simpa using htext
      · simp only [List.length_cons] at hlt
        omega
      · simp only [List.length_cons] at hle ⊢
        omega
    rw [List.cons_append, marked, if_neg hx, hrest]
    simp

theorem substitute_skip (m : Matcher κ α) (f : List κ → List κ) (before xs ys : List κ) :
    substitute m f before (xs ++ ys) xs.length = substitute m f (xs.reverse ++ before) ys 0 := by
  induction xs generalizing before with
  | nil => rfl
  | cons x xs ih =>
    rw [List.cons_append, List.length_cons, substitute, ih]
    simp

def Settled (m : Matcher κ α) (c : Cursor κ) : Prop :=
  ∀ e d, Match m e d → e.text = c.text → e.position < c.position → d.position ≤ c.position

theorem settled_start (m : Matcher κ α) (text : List κ) : Settled m ⟨[], text⟩ := by
  intro e d _ _ hlt
  exact absurd hlt (Nat.not_lt_zero _)

section Laminar

variable {m : Matcher κ α} {c d : Cursor κ}

theorem Laminar.position_lt (hm : Laminar m) (h : Match m c d) : c.position < d.position := by
  obtain ⟨xs, hne, hreads⟩ := hm.reads h
  rw [hreads.position_eq]
  have := List.length_pos_iff.mpr hne
  omega

theorem Laminar.text_eq (hm : Laminar m) (h : Match m c d) : d.text = c.text := by
  obtain ⟨xs, -, hreads⟩ := hm.reads h
  exact hreads.text_eq

theorem exists_reads {c d : Cursor κ} (htext : c.text = d.text) (hlt : c.position < d.position) :
    ∃ xs, xs ≠ [] ∧ Reads c xs d := by
  rw [Cursor.position, Cursor.position, ← List.length_reverse, ← @List.length_reverse _ d.before]
    at hlt
  rcases List.append_eq_append_iff.mp htext with ⟨xs, hbefore, hafter⟩ | ⟨xs, hbefore, -⟩
  · refine ⟨xs, ?_, hafter, ?_⟩
    · rintro rfl
      rw [hbefore, List.append_nil] at hlt
      exact lt_irrefl _ hlt
    · rw [← List.reverse_reverse d.before, hbefore, List.reverse_append, List.reverse_reverse]
  · rw [hbefore, List.length_append] at hlt
    omega

theorem reads_next {x : κ} {xs : List κ} (hc : c.after = x :: xs) :
    Reads c [x] ⟨x :: c.before, xs⟩ := ⟨hc, rfl⟩

theorem Settled.of_no_match (h : Settled m c) (hno : ∀ d, ¬Match m c d) {x : κ} {xs : List κ}
    (hc : c.after = x :: xs) : Settled m ⟨x :: c.before, xs⟩ := by
  have hnext := reads_next hc
  intro e d hmatch htext hlt
  rw [hnext.position_eq, List.length_singleton] at hlt ⊢
  rw [hnext.text_eq] at htext
  rcases Nat.lt_succ_iff_lt_or_eq.mp hlt with hlt | heq
  · have := h e d hmatch htext hlt
    omega
  · rw [Cursor.eq_of_position htext heq] at hmatch
    exact absurd hmatch (hno d)

theorem Settled.not_ends (h : Settled m c) (hm : Laminar m) (hno : ∀ d, ¬Match m c d) {x : κ}
    {xs : List κ} (hc : c.after = x :: xs) : ¬Ends m ⟨x :: c.before, xs⟩ := by
  have hnext := reads_next hc
  rintro ⟨e, hmatch⟩
  have htext := (hm.text_eq hmatch).symm.trans hnext.text_eq
  have hlt := hm.position_lt hmatch
  rw [hnext.position_eq, List.length_singleton] at hlt
  rcases Nat.lt_succ_iff_lt_or_eq.mp hlt with hlt | heq
  · have := h e _ hmatch htext hlt
    rw [hnext.position_eq, List.length_singleton] at this
    omega
  · rw [Cursor.eq_of_position htext heq] at hmatch
    exact hno _ hmatch

theorem Settled.of_match (h : Settled m c) (hm : Laminar m) (hmatch : Match m c d) :
    Settled m d := by
  have htext' := hm.text_eq hmatch
  have hlt' := hm.position_lt hmatch
  intro e f hmatch' htext hlt
  rw [htext'] at htext
  rcases lt_trichotomy e.position c.position with hec | hec | hec
  · exact (h e f hmatch' htext hec).trans hlt'.le
  · rw [Cursor.eq_of_position htext hec] at hmatch'
    rw [hmatch.unique hmatch']
  · obtain ⟨xs, hxs, hreads⟩ := exists_reads htext.symm hec
    obtain ⟨ys, hys, hreads'⟩ := exists_reads (htext.trans htext'.symm) hlt
    rw [hm.same_end hmatch hmatch' hxs hys hreads hreads']

theorem Settled.not_ends_inside (h : Settled m c) (hm : Laminar m) (hmatch : Match m c d)
    {e : Cursor κ} (htext : e.text = c.text) (hlt : c.position < e.position)
    (hlt' : e.position < d.position) : ¬Ends m e := by
  rintro ⟨b, hmatch'⟩
  have hbe := hm.position_lt hmatch'
  have htext' := (hm.text_eq hmatch').symm.trans htext
  rcases lt_trichotomy b.position c.position with hbc | hbc | hbc
  · exact absurd (h b e hmatch' htext' hbc) (by omega)
  · rw [Cursor.eq_of_position htext' hbc] at hmatch'
    rw [hmatch.unique hmatch'] at hlt'
    exact lt_irrefl _ hlt'
  · obtain ⟨xs, hxs, hreads⟩ := exists_reads htext'.symm hbc
    obtain ⟨ys, hys, hreads'⟩ :=
      exists_reads (htext'.trans (hm.text_eq hmatch).symm) (hbe.trans hlt')
    rw [hm.same_end hmatch hmatch' hxs hys hreads hreads'] at hlt'
    exact lt_irrefl _ hlt'

end Laminar

/-- A substitution that changes the last element of each match. -/
theorem substitute_eq_marked {m : Matcher κ α} {f : List κ → List κ} {g : κ → κ} (hm : Laminar m)
    (hf : ∀ c d xs x, Match m c d → Reads c (xs ++ [x]) d → f (xs ++ [x]) = xs ++ [g x])
    (c : Cursor κ) (h : Settled m c) :
    substitute m f c.before c.after 0 = marked m g c.before c.after := by
  induction hn : c.after.length using Nat.strong_induction_on generalizing c with
  | _ n ih =>
    obtain ⟨before, after⟩ := c
    cases after with
    | nil => rfl
    | cons x xs =>
      cases hhead : (m ⟨before, x :: xs⟩).head? with
      | none =>
        have hno (d : Cursor κ) : ¬Match m ⟨before, x :: xs⟩ d := by
          rintro ⟨a, ha⟩
          rw [hhead] at ha
          cases ha
        have hrest := ih xs.length (by simp [← hn]) ⟨x :: before, xs⟩ (h.of_no_match hno rfl) rfl
        rw [substitute, hhead, marked, if_neg (h.not_ends hm hno rfl)]
        exact congrArg (x :: ·) hrest
      | some r =>
        obtain ⟨a, d⟩ := r
        have hmatch : Match m ⟨before, x :: xs⟩ d := ⟨a, hhead⟩
        obtain ⟨ys, hne, hreads⟩ := hm.reads hmatch
        obtain ⟨zs, z, rfl⟩ : ∃ zs z, ys = zs ++ [z] :=
          ⟨_, _, (List.dropLast_append_getLast hne).symm⟩
        obtain ⟨ts, hts⟩ : ∃ ts, zs ++ [z] = x :: ts := by
          obtain ⟨y, ts, hts⟩ := List.exists_cons_of_ne_nil hne
          have hafter := hreads.after
          rw [hts, List.cons_append] at hafter
          exact ⟨ts, by rw [hts, (List.cons.inj hafter).1]⟩
        have hxs : xs = ts ++ d.after := by
          have hafter := hreads.after
          rw [hts, List.cons_append] at hafter
          exact (List.cons.inj hafter).2
        have hlength : ts.length = zs.length := by
          simpa using congrArg List.length hts.symm
        have hdpos : d.position = before.length + (zs.length + 1) := by
          rw [hreads.position_eq, List.length_append, List.length_singleton]
          rfl
        have hposition : d.position - before.length = ts.length + 1 := by omega
        have htake : (x :: xs).take (ts.length + 1) = zs ++ [z] := by
          rw [hxs, ← List.cons_append, ← hts, List.take_left' (by simp [hlength])]
        have hbefore : ts.reverse ++ x :: before = d.before := by
          rw [hreads.before, hts]
          simp
        have hrest := ih d.after.length (by simp [← hn, hxs]) d (h.of_match hm hmatch) rfl
        have hinside : marked m g before (zs ++ z :: d.after) =
            zs ++ marked m g (zs.reverse ++ before) (z :: d.after) := by
          apply marked_of_not_ends
          intro e htext hlt hle
          apply h.not_ends_inside hm hmatch ?_ hlt ?_
          · rw [htext, Cursor.text, hreads.after]
            simp
          · omega
        have hz : z :: (zs.reverse ++ before) = d.before := by
          rw [hreads.before]
          simp
        rw [substitute, hhead]
        dsimp only
        rw [hposition]
        dsimp only
        rw [htake, hf _ _ _ _ hmatch hreads]
        have hafter : x :: xs = zs ++ z :: d.after := by simpa using hreads.after
        rw [hafter, hinside, marked, hz, if_pos ⟨_, hmatch⟩, hxs, substitute_skip, hbefore, hrest]
        simp

end TextToSql.Library.Backtracking
