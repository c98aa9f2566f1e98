import TextToSql.Domain.Words

namespace TextToSql.Domain

def Unbroken (text : List Char) : Prop := ∀ c ∈ text, isLineBreak c = false

def LineStart (text : List Char) : Prop :=
  text = [] ∨ ∃ front b, text = front ++ [b] ∧ isLineBreak b = true

theorem LineStart.append {xs ys : List Char} (hxs : LineStart xs) (hys : LineStart ys) :
    LineStart (xs ++ ys) := by
  rcases hys with rfl | ⟨front, b, rfl, hb⟩
  · simpa using hxs
  · exact .inr ⟨xs ++ front, b, by simp, hb⟩

theorem isSpace_of_isLineBreak {c : Char} (h : isLineBreak c = true) : isSpace c = true := by
  simp only [isLineBreak, List.mem_cons, List.not_mem_nil, or_false, decide_eq_true_eq] at h
  rcases h with h | h | h | h | h | h | h | h | h | h <;> simp [isSpace, h]

theorem of_mem_splitLinesFrom {line text : List Char} (hline : Unbroken line.reverse) :
    ∀ l ∈ splitLinesFrom line text, Unbroken l ∧
      ∃ front back, line.reverse ++ text = front ++ (l ++ back) ∧ LineStart front := by
  -- the lines behind a break begin afresh
  have hfresh {rest before : List Char} (hbefore : LineStart before)
      (ih : ∀ l ∈ splitLinesFrom [] rest, Unbroken l ∧
        ∃ front back, [].reverse ++ rest = front ++ (l ++ back) ∧ LineStart front) :
      ∀ l ∈ splitLinesFrom [] rest, Unbroken l ∧
        ∃ front back, before ++ rest = front ++ (l ++ back) ∧ LineStart front := by
    intro l hl
    obtain ⟨hunbroken, front, back, heq, hstart⟩ := ih l hl
    have heq : rest = front ++ (l ++ back) := heq
    exact ⟨hunbroken, before ++ front, back, by rw [heq, List.append_assoc],
      hbefore.append hstart⟩
  fun_induction splitLinesFrom line text with
  | case1 => simp
  | case2 line hne =>
    intro l hl
    obtain rfl := List.mem_singleton.mp hl
    exact ⟨hline, [], [], by simp, .inl rfl⟩
  | case3 line rest ih =>
    intro l hl
    rcases List.mem_cons.mp hl with rfl | hl
    · exact ⟨hline, [], '\r' :: '\n' :: rest, by simp, .inl rfl⟩
    · have hstart : LineStart (line.reverse ++ ['\r', '\n']) :=
        .inr ⟨line.reverse ++ ['\r'], '\n', by simp, by decide⟩
      simpa using hfresh hstart (ih (by simp [Unbroken])) l hl
  | case4 line c rest hcrlf hbreak ih =>
    intro l hl
    rcases List.mem_cons.mp hl with rfl | hl
    · exact ⟨hline, [], c :: rest, by simp, .inl rfl⟩
    · have hstart : LineStart (line.reverse ++ [c]) := .inr ⟨line.reverse, c, rfl, hbreak⟩
      simpa using hfresh hstart (ih (by simp [Unbroken])) l hl
  | case5 line c rest hcrlf hbreak ih =>
    have hline' : Unbroken (c :: line).reverse := by
      intro d hd
      rw [List.reverse_cons, List.mem_append, List.mem_singleton] at hd
      rcases hd with hd | rfl
      · exact hline d hd
      · simpa using hbreak
    simpa using ih hline'

theorem of_mem_splitLines {text l : List Char} (h : l ∈ splitLines text) :
    Unbroken l ∧ ∃ front back, text = front ++ (l ++ back) ∧ LineStart front :=
  of_mem_splitLinesFrom (by simp [Unbroken]) l h

theorem splitLinesFrom_cons {line rest : List Char} {c : Char} (hc : isLineBreak c = false) :
    splitLinesFrom line (c :: rest) = splitLinesFrom (c :: line) rest := by
  rw [splitLinesFrom, hc]
  · rfl
  · rintro rest' rfl rfl
    exact absurd hc (by decide)

theorem splitLinesFrom_append {line text rest : List Char} (h : Unbroken text) :
    splitLinesFrom line (text ++ rest) = splitLinesFrom (text.reverse ++ line) rest := by
  induction text generalizing line with
  | nil => rfl
  | cons c text ih =>
    obtain ⟨hc, htext⟩ := List.forall_mem_cons.mp h
    rw [List.cons_append, splitLinesFrom_cons hc, ih htext]
    simp

theorem exists_mem_splitLinesFrom {line text : List Char} (h : line ≠ []) :
    ∃ l ∈ splitLinesFrom line text, line.reverse <+: l := by
  fun_induction splitLinesFrom line text with
  | case1 => exact absurd rfl h
  | case2 line hne => exact ⟨line.reverse, List.mem_singleton_self _, List.prefix_refl _⟩
  | case3 line rest ih => exact ⟨line.reverse, List.mem_cons_self, List.prefix_refl _⟩
  | case4 line c rest hcrlf hbreak ih =>
    exact ⟨line.reverse, List.mem_cons_self, List.prefix_refl _⟩
  | case5 line c rest hcrlf hbreak ih =>
    obtain ⟨l, hl, hfront⟩ := ih (List.cons_ne_nil _ _)
    refine ⟨l, hl, List.IsPrefix.trans ?_ hfront⟩
    rw [List.reverse_cons]
    exact List.prefix_append _ _

theorem mem_splitLinesFrom_append {line front text rest : List Char} {b : Char}
    (hb : isLineBreak b = true) (htext : Unbroken text) (hne : text ≠ []) :
    ∃ l ∈ splitLinesFrom line (front ++ b :: (text ++ rest)), text <+: l := by
  have hlast : ∃ l ∈ splitLinesFrom [] (text ++ rest), text <+: l := by
    rw [splitLinesFrom_append htext, List.append_nil]
    have hne' : text.reverse ≠ [] := by simpa using hne
    obtain ⟨l, hl, hfront⟩ := @exists_mem_splitLinesFrom text.reverse rest hne'
    exact ⟨l, hl, by simpa using hfront⟩
  generalize hwhole : front ++ b :: (text ++ rest) = whole
  fun_induction splitLinesFrom line whole generalizing front with
  | case1 => simp at hwhole
  | case2 => simp at hwhole
  | case3 line whole ih =>
    cases front with
    | nil =>
      obtain ⟨d, text, rfl⟩ := List.exists_cons_of_ne_nil hne
      obtain ⟨-, hrest⟩ := List.cons.inj hwhole
      obtain ⟨rfl, -⟩ := List.cons.inj hrest
      exact absurd (htext '\n' List.mem_cons_self) (by decide)
    | cons x front =>
      obtain ⟨-, hwhole⟩ := List.cons.inj hwhole
      cases front with
      | nil =>
        obtain ⟨-, rfl⟩ := List.cons.inj hwhole
        obtain ⟨l, hl, hfront⟩ := hlast
        exact ⟨l, List.mem_cons_of_mem _ hl, hfront⟩
      | cons y front =>
        obtain ⟨-, hwhole⟩ := List.cons.inj hwhole
        obtain ⟨l, hl, hfront⟩ := ih hwhole
        exact ⟨l, List.mem_cons_of_mem _ hl, hfront⟩
  | case4 line c whole hcrlf hbreak ih =>
    cases front with
    | nil =>
      obtain ⟨-, rfl⟩ := List.cons.inj hwhole
      obtain ⟨l, hl, hfront⟩ := hlast
      exact ⟨l, List.mem_cons_of_mem _ hl, hfront⟩
    | cons x front =>
      obtain ⟨l, hl, hfront⟩ := ih (List.cons.inj hwhole).2
      exact ⟨l, List.mem_cons_of_mem _ hl, hfront⟩
  | case5 line c whole hcrlf hbreak ih =>
    cases front with
    | nil =>
      obtain ⟨rfl, -⟩ := List.cons.inj hwhole
      exact absurd hb hbreak
    | cons x front => exact ih (List.cons.inj hwhole).2

theorem exists_mem_splitLines {front text rest : List Char} {b : Char}
    (hb : isLineBreak b = true) (htext : Unbroken text) (hne : text ≠ []) :
    ∃ l ∈ splitLines (front ++ b :: (text ++ rest)), text <+: l :=
  mem_splitLinesFrom_append hb htext hne

theorem splitLines_of_unbroken {text : List Char} (h : Unbroken text) (hne : text ≠ []) :
    splitLines text = [text] := by
  have hlines := @splitLinesFrom_append [] text [] h
  rw [List.append_nil, List.append_nil] at hlines
  rw [splitLines, hlines, splitLinesFrom, if_neg (by simpa using hne), List.reverse_reverse]

theorem length_splitLines_le {text : List Char} (h : Unbroken text) :
    (splitLines text).length ≤ 1 := by
  by_cases hne : text = []
  · rw [hne]
    exact Nat.zero_le _
  · rw [splitLines_of_unbroken h hne]
    exact Nat.le_refl _

end TextToSql.Domain
