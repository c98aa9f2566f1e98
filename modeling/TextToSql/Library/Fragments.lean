import Mathlib.Algebra.BigOperators.Group.List.Basic
import Mathlib.Data.List.Infix

namespace TextToSql.Library.Fragments

variable {α : Type}

section Lines

variable [DecidableEq α] (brk : α)

theorem flatMap_splitOn {parts : List (List α)} (h : parts ≠ []) :
    ([brk].intercalate parts).splitOn brk = parts.flatMap (List.splitOn brk) := by
  induction parts with
  | nil => exact absurd rfl h
  | cons part parts ih =>
    cases parts with
    | nil => simp
    | cons next rest =>
      rw [List.intercalate_cons_cons, List.append_assoc, List.singleton_append,
        List.splitOn_append_cons_self, ih (List.cons_ne_nil _ _)]
      rfl

omit [DecidableEq α] in
theorem intercalate_append_singleton (front : List (List α)) (last : List α) :
    [brk].intercalate (front ++ [last]) = front.flatMap (· ++ [brk]) ++ last := by
  induction front with
  | nil => simp
  | cons part front ih =>
    rw [List.cons_append, List.intercalate_cons_of_ne_nil (by simp), ih, List.flatMap_cons,
      List.append_assoc, List.append_assoc]
    simp

theorem length_splitOn (l : List α) : (l.splitOn brk).length = l.count brk + 1 := by
  induction l with
  | nil => simp
  | cons x l ih =>
    rw [List.splitOn_cons_eq_if_modifyHead, List.count_cons]
    split
    · rw [List.length_cons, ih]
    · rw [List.length_modifyHead, ih, Nat.add_zero]

theorem length_lines_iff {parts : List (List α)} (h : parts ≠ []) :
    (([brk].intercalate parts).splitOn brk).length = parts.length ↔ ∀ part ∈ parts, brk ∉ part := by
  rw [flatMap_splitOn brk h, List.length_flatMap]
  clear h
  induction parts with
  | nil => simp
  | cons part parts ih =>
    have hleast : parts.length ≤ (parts.map fun l ↦ (l.splitOn brk).length).sum := by
      have hone := List.length_le_sum_of_one_le (parts.map fun l ↦ (l.splitOn brk).length)
      rw [List.length_map] at hone
      apply hone
      simp [length_splitOn]
    rw [List.forall_mem_cons, ← ih, List.map_cons, List.sum_cons, List.length_cons,
      length_splitOn, ← List.count_eq_zero]
    omega

variable {brk} {w : List α}

theorem head_prefix_iff (hw : brk ∉ w) {l line : List α} {rest : List (List α)}
    (h : l.splitOn brk = line :: rest) : w <+: line ↔ w <+: l := by
  induction l generalizing w line rest with
  | nil =>
    rw [List.splitOn_nil] at h
    rw [(List.cons.inj h).1]
  | cons x l ih =>
    rw [List.splitOn_cons_eq_if_modifyHead] at h
    split at h
    · rename_i hx
      obtain rfl := eq_of_beq hx
      rw [← (List.cons.inj h).1]
      cases w with
      | nil => simp
      | cons y w =>
        have hne : y ≠ x := fun hyx ↦ hw (hyx ▸ List.mem_cons_self)
        simp [hne]
    · cases hl : l.splitOn brk with
      | nil => exact absurd hl (List.splitOn_ne_nil _ _)
      | cons first others =>
        rw [hl, List.modifyHead_cons] at h
        rw [← (List.cons.inj h).1]
        cases w with
        | nil => simp
        | cons y w =>
          rw [List.cons_prefix_cons, List.cons_prefix_cons,
            ih (fun hmem ↦ hw (List.mem_cons_of_mem y hmem)) hl]

theorem exists_later_line (hw : brk ∉ w) (l : List α) :
    (∃ line ∈ (l.splitOn brk).tail, w <+: line) ↔ brk :: w <:+: l := by
  induction l with
  | nil => simp
  | cons x l ih =>
    rw [List.infix_cons_iff, List.cons_prefix_cons, ← ih, List.splitOn_cons_eq_if_modifyHead]
    cases hl : l.splitOn brk with
    | nil => exact absurd hl (List.splitOn_ne_nil _ _)
    | cons first others =>
      split
      · rename_i hx
        obtain rfl := eq_of_beq hx
        rw [List.tail_cons, List.tail_cons, List.exists_mem_cons_iff, head_prefix_iff hw hl]
        simp
      · rename_i hx
        have hne : brk ≠ x := fun h ↦ hx (by simp [h])
        simp [hne]

theorem exists_line (hw : brk ∉ w) (l : List α) :
    (∃ line ∈ l.splitOn brk, w <+: line) ↔ w <+: l ∨ brk :: w <:+: l := by
  cases hl : l.splitOn brk with
  | nil => exact absurd hl (List.splitOn_ne_nil _ _)
  | cons first others =>
    rw [← exists_later_line hw, hl, List.exists_mem_cons_iff, head_prefix_iff hw hl, List.tail_cons]

end Lines

structure Fragment (α : Type) where
  text : List α
  given : Bool

def own (text : List α) : Fragment α := ⟨text, false⟩

def given (text : List α) : Fragment α := ⟨text, true⟩

def flat (fs : List (Fragment α)) : List α := fs.flatMap Fragment.text

def cut : ℕ → List (Fragment α) → List (Fragment α)
  | _, [] => []
  | n, f :: fs => ⟨f.text.take n, f.given⟩ :: cut (n - f.text.length) fs

@[simp] theorem flat_nil : flat ([] : List (Fragment α)) = [] := rfl

@[simp] theorem flat_cons (f : Fragment α) (fs : List (Fragment α)) :
    flat (f :: fs) = f.text ++ flat fs := List.flatMap_cons ..

@[simp] theorem flat_append (fs fs' : List (Fragment α)) : flat (fs ++ fs') = flat fs ++ flat fs' :=
  List.flatMap_append ..

@[simp] theorem text_own (text : List α) : (own text).text = text := rfl

@[simp] theorem text_given (text : List α) : (given text).text = text := rfl

theorem flat_cut (n : ℕ) (fs : List (Fragment α)) : flat (cut n fs) = (flat fs).take n := by
  induction fs generalizing n with
  | nil => simp [cut]
  | cons f fs ih => rw [cut, flat_cons, flat_cons, ih, List.take_append]

def givenTexts (fs : List (Fragment α)) : List (List α) :=
  (fs.filter Fragment.given).map Fragment.text

@[simp] theorem givenTexts_nil : givenTexts ([] : List (Fragment α)) = [] := rfl

@[simp] theorem givenTexts_own (text : List α) (fs : List (Fragment α)) :
    givenTexts (own text :: fs) = givenTexts fs := rfl

@[simp] theorem givenTexts_given (text : List α) (fs : List (Fragment α)) :
    givenTexts (given text :: fs) = text :: givenTexts fs := rfl

@[simp] theorem givenTexts_append (fs fs' : List (Fragment α)) :
    givenTexts (fs ++ fs') = givenTexts fs ++ givenTexts fs' := by
  rw [givenTexts, List.filter_append, List.map_append, givenTexts, givenTexts]

theorem mem_flat_iff {x : α} {fs : List (Fragment α)}
    (h : ∀ f ∈ fs, f.given = false → x ∉ f.text) : x ∈ flat fs ↔ ∃ text ∈ givenTexts fs, x ∈ text := by
  rw [flat, List.mem_flatMap]
  constructor
  · rintro ⟨f, hf, hx⟩
    have hgiven : f.given = true := by
      by_contra hown
      exact h f hf (by simpa using hown) hx
    exact ⟨f.text, List.mem_map_of_mem (List.mem_filter.mpr ⟨hf, hgiven⟩), hx⟩
  · rintro ⟨text, htext, hx⟩
    obtain ⟨f, hf, rfl⟩ := List.mem_map.mp htext
    exact ⟨f, (List.mem_filter.mp hf).1, hx⟩

theorem infix_append_of_not_mem {l xs ys : List α} {x : α} (h : x ∉ ys) :
    l ++ [x] <:+: xs ++ ys ↔ l ++ [x] <:+: xs := by
  rw [List.infix_append_iff_ne_nil]
  constructor
  · rintro (hxs | hys | ⟨p, q, -, hq, heq, -, hpre⟩)
    · exact hxs
    · exact absurd (hys.mem (by simp)) h
    · have hmem : x ∈ q := by
        rw [← List.dropLast_append_getLast hq, ← List.append_assoc] at heq
        have hlast := (List.append_inj' heq rfl).2
        rw [List.cons.inj hlast |>.1]
        exact List.getLast_mem hq
      exact absurd (hpre.mem hmem) h
  · exact .inl

/-- An own part has no break in it or is one, and no mark follows a given part or a break. -/
def Sealed (brk mark : α) : List (Fragment α) → Prop
  | [] => True
  | f :: fs =>
    (f.given = false ∧ brk ∉ f.text ∨
      (f.given = true ∨ f.text = [brk]) ∧ (flat fs).head? ≠ some mark) ∧ Sealed brk mark fs

variable {brk mark : α}

theorem Sealed.own {text : List α} {fs : List (Fragment α)} (htext : brk ∉ text)
    (h : Sealed brk mark fs) : Sealed brk mark (own text :: fs) := ⟨.inl ⟨rfl, htext⟩, h⟩

theorem Sealed.given {text : List α} {fs : List (Fragment α)} (hhead : (flat fs).head? ≠ some mark)
    (h : Sealed brk mark fs) : Sealed brk mark (given text :: fs) := ⟨.inr ⟨.inl rfl, hhead⟩, h⟩

theorem Sealed.append {fs fs' : List (Fragment α)} (h : Sealed brk mark fs)
    (h' : Sealed brk mark fs') (hhead : (flat fs').head? ≠ some mark) :
    Sealed brk mark (fs ++ fs') := by
  induction fs with
  | nil => exact h'
  | cons f fs ih =>
    obtain ⟨hf, hfs⟩ := h
    refine ⟨?_, ih hfs⟩
    rcases hf with hown | ⟨hgiven, hfollow⟩
    · exact .inl hown
    · refine .inr ⟨hgiven, ?_⟩
      change (flat (fs ++ fs')).head? ≠ some mark
      rw [flat_append, List.head?_append]
      cases hflat : (flat fs).head? with
      | none => simpa using hhead
      | some x => simpa [hflat] using hfollow

def joined (sep : List α) (parts : List (List (Fragment α))) : List (Fragment α) :=
  [own sep].intercalate parts

theorem joined_cons_cons {sep : List α} (part next : List (Fragment α))
    (rest : List (List (Fragment α))) :
    joined sep (part :: next :: rest) = part ++ own sep :: joined sep (next :: rest) := by
  rw [joined, List.intercalate_cons_cons, ← joined, List.append_assoc]
  rfl

theorem flat_joined (sep : List α) (parts : List (List (Fragment α))) :
    flat (joined sep parts) = sep.intercalate (parts.map flat) := by
  induction parts with
  | nil => rfl
  | cons part parts ih =>
    cases parts with
    | nil => simp [joined]
    | cons next rest =>
      rw [joined_cons_cons, flat_append, flat_cons, ih, ← List.append_assoc]
      exact List.intercalate_cons_cons.symm

theorem givenTexts_joined (sep : List α) (parts : List (List (Fragment α))) :
    givenTexts (joined sep parts) = parts.flatMap givenTexts := by
  induction parts with
  | nil => rfl
  | cons part parts ih =>
    cases parts with
    | nil => simp [joined]
    | cons next rest =>
      rw [joined_cons_cons, givenTexts_append, givenTexts_own, ih]
      rfl

theorem Sealed.joined {sep : List α} (hsep : sep ≠ []) (hhead : sep.head? ≠ some mark)
    {parts : List (List (Fragment α))} (h : ∀ part ∈ parts, Sealed brk mark part)
    (hbreak : brk ∉ sep ∨ sep = [brk] ∧ ∀ part ∈ parts, (flat part).head? ≠ some mark) :
    Sealed brk mark (joined sep parts) := by
  induction parts with
  | nil => exact True.intro
  | cons part parts ih =>
    obtain ⟨hpart, hparts⟩ := List.forall_mem_cons.mp h
    cases parts with
    | nil => simpa [Fragments.joined] using hpart
    | cons next rest =>
      have hrest : Sealed brk mark (Fragments.joined sep (next :: rest)) := by
        apply ih hparts
        rcases hbreak with hno | ⟨heq, hmarks⟩
        · exact .inl hno
        · exact .inr ⟨heq, (List.forall_mem_cons.mp hmarks).2⟩
      have hfirst : (sep ++ flat (Fragments.joined sep (next :: rest))).head? ≠ some mark := by
        cases sep with
        | nil => exact absurd rfl hsep
        | cons x sep => exact hhead
      rw [joined_cons_cons]
      refine hpart.append ⟨?_, hrest⟩ hfirst
      rcases hbreak with hno | ⟨heq, hmarks⟩
      · exact .inl ⟨rfl, hno⟩
      · refine .inr ⟨.inr heq, ?_⟩
        have hnext := (List.forall_mem_cons.mp (List.forall_mem_cons.mp hmarks).2).1
        rw [flat_joined, List.map_cons]
        cases rest with
        | nil => simpa using hnext
        | cons third rest =>
          rw [List.map_cons, List.intercalate_cons_cons, List.append_assoc, List.head?_append]
          cases hflat : (flat next).head? with
          | none => simpa [heq] using hhead
          | some x => simpa [hflat] using hnext

theorem Sealed.cut {fs : List (Fragment α)} (h : Sealed brk mark fs) (n : ℕ) :
    Sealed brk mark (cut n fs) := by
  induction fs generalizing n with
  | nil => exact True.intro
  | cons f fs ih =>
    obtain ⟨hf, hfs⟩ := h
    refine ⟨?_, ih hfs _⟩
    rcases hf with ⟨hown, hbrk⟩ | ⟨hgiven, hfollow⟩
    · exact .inl ⟨hown, fun hmem ↦ hbrk (List.mem_of_mem_take hmem)⟩
    · have hhead : (flat (Fragments.cut (n - f.text.length) fs)).head? ≠ some mark := by
        rw [flat_cut, List.head?_take]
        split
        · simp
        · exact hfollow
      by_cases hown : f.given = false ∧ brk ∉ f.text.take n
      · exact .inl hown
      · refine .inr ⟨?_, hhead⟩
        rcases hgiven with hgiven | hbreak
        · exact .inl hgiven
        · cases n with
          | zero => simpa using hown
          | succ n => simp [hbreak]

/-- A marked line begins in a given part. -/
theorem Sealed.infix_iff {fs : List (Fragment α)} (h : Sealed brk mark fs) (k : ℕ) :
    brk :: List.replicate (k + 1) mark <:+: flat fs ↔
      ∃ text ∈ givenTexts fs, brk :: List.replicate (k + 1) mark <:+: text := by
  induction fs with
  | nil => simp
  | cons f fs ih =>
    obtain ⟨hf, hfs⟩ := h
    -- a mark after the seam would be the first character of the rest
    have hseam : ¬∃ p q, p ≠ [] ∧ q ≠ [] ∧ brk :: List.replicate (k + 1) mark = p ++ q ∧
        p <:+ f.text ∧ q <+: flat fs := by
      rintro ⟨p, q, hp, hq, heq, hsuffix, hpre⟩
      obtain ⟨x, p, rfl⟩ := List.exists_cons_of_ne_nil hp
      obtain ⟨y, q, rfl⟩ := List.exists_cons_of_ne_nil hq
      rw [List.cons_append] at heq
      obtain ⟨rfl, hrun⟩ := List.cons.inj heq
      have hmem : y ∈ List.replicate (k + 1) mark := by
        rw [hrun]
        simp
      have hy := List.eq_of_mem_replicate hmem
      rcases hf with ⟨-, hbrk⟩ | ⟨-, hfollow⟩
      · exact hbrk (hsuffix.mem List.mem_cons_self)
      · obtain ⟨rest, hrest⟩ := hpre
        rw [← hrest] at hfollow
        simp [hy] at hfollow
    have hrest : brk :: List.replicate (k + 1) mark <:+: flat (f :: fs) ↔
        brk :: List.replicate (k + 1) mark <:+: f.text ∨
          ∃ text ∈ givenTexts fs, brk :: List.replicate (k + 1) mark <:+: text := by
      rw [flat_cons, List.infix_append_iff_ne_nil, or_iff_left hseam, ih hfs]
    obtain ⟨text, isGiven⟩ := f
    rw [hrest]
    cases isGiven with
    | true => exact (List.exists_mem_cons_iff ..).symm
    | false =>
      have hown : ¬brk :: List.replicate (k + 1) mark <:+: text := by
        intro hmark
        rcases hf with ⟨-, hbrk⟩ | ⟨hbreak, -⟩
        · exact hbrk (hmark.mem List.mem_cons_self)
        · obtain rfl : text = [brk] := by simpa using hbreak
          have hlength := hmark.length_le
          simp at hlength
      exact or_iff_right hown

end TextToSql.Library.Fragments
