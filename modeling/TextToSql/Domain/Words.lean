import TextToSql.Domain.Lines

namespace TextToSql.Domain

def AllSpace (text : List Char) : Prop := ∀ c ∈ text, isSpace c = true

theorem AllSpace.append {xs ys : List Char} (h : AllSpace xs) (h' : AllSpace ys) :
    AllSpace (xs ++ ys) := by
  intro c hc
  rcases List.mem_append.mp hc with hc | hc
  · exact h c hc
  · exact h' c hc

theorem front_unique {p : Char → Bool} {xs ys rest rest' : List Char}
    (heq : xs ++ rest = ys ++ rest') (hxs : ∀ c ∈ xs, p c = true) (hys : ∀ c ∈ ys, p c = true)
    (hrest : ∀ c ∈ rest.head?, p c = false) (hrest' : ∀ c ∈ rest'.head?, p c = false) :
    xs = ys ∧ rest = rest' := by
  have hfront {xs rest : List Char} (hxs : ∀ c ∈ xs, p c = true)
      (hrest : ∀ c ∈ rest.head?, p c = false) : (xs ++ rest).takeWhile p = xs := by
    rw [List.takeWhile_append_of_pos hxs]
    cases rest with
    | nil => simp
    | cons c rest =>
      have hc := hrest c (by simp)
      simp [hc]
  have h := congrArg (List.takeWhile p) heq
  rw [hfront hxs hrest, hfront hys hrest'] at h
  subst h
  exact ⟨rfl, List.append_cancel_left heq⟩

theorem append_eq_append_cons {xs rest front back : List Char} {z : Char}
    (h : xs ++ rest = front ++ z :: back) :
    (∃ more, xs = front ++ z :: more ∧ back = more ++ rest) ∨
      ∃ more, front = xs ++ more ∧ rest = more ++ z :: back := by
  rcases List.append_eq_append_iff.mp h with ⟨more, hfront, hrest⟩ | ⟨more, hxs, hrest⟩
  · exact .inr ⟨more, hfront, hrest⟩
  · cases more with
    | nil => exact .inr ⟨[], by simpa using hxs.symm, by simpa using hrest.symm⟩
    | cons y more =>
      obtain ⟨rfl, rfl⟩ := List.cons.inj hrest
      exact .inl ⟨more, hxs, rfl⟩

theorem exists_last (p : Char → Bool) (text : List Char) :
    (∀ c ∈ text, p c = false) ∨ ∃ front y back, text = front ++ y :: back ∧ p y = true ∧
      ∀ c ∈ back, p c = false := by
  induction text with
  | nil => exact .inl (by simp)
  | cons c text ih =>
    rcases ih with hall | ⟨front, y, back, rfl, hy, hback⟩
    · by_cases hc : p c = true
      · exact .inr ⟨[], c, text, rfl, hc, hall⟩
      · exact .inl (List.forall_mem_cons.mpr ⟨by simpa using hc, hall⟩)
    · exact .inr ⟨c :: front, y, back, rfl, hy, hback⟩

theorem not_isSpace_of_mem_splitOnP {text : List Char} :
    ∀ word ∈ text.splitOnP isSpace, ∀ c ∈ word, isSpace c = false := by
  induction text with
  | nil => simp
  | cons x text ih =>
    intro word hword
    rw [List.splitOnP_cons_eq_if_modifyHead] at hword
    split at hword
    · rcases List.mem_cons.mp hword with rfl | hword
      · simp
      · exact ih word hword
    · rename_i hx
      obtain ⟨first, others, hsplit⟩ := List.exists_cons_of_ne_nil (List.splitOnP_ne_nil isSpace text)
      rw [hsplit, List.modifyHead_cons] at hword
      rw [hsplit] at ih
      rcases List.mem_cons.mp hword with rfl | hword
      · intro c hc
        rcases List.mem_cons.mp hc with rfl | hc
        · simpa using hx
        · exact ih first List.mem_cons_self c hc
      · exact ih word (List.mem_cons_of_mem _ hword)

/-- A word is not empty and has no blank. -/
structure IsWord (word : List Char) : Prop where
  ne_nil : word ≠ []
  not_isSpace : ∀ c ∈ word, isSpace c = false

theorem isWord_of_mem {text word : List Char} (h : word ∈ words text) : IsWord word := by
  obtain ⟨hmem, hne⟩ := List.mem_filter.mp h
  exact ⟨by simpa using hne, not_isSpace_of_mem_splitOnP word hmem⟩

@[simp] theorem words_nil : words [] = [] := by simp [words]

theorem words_append_cons {s : Char} (hs : isSpace s = true) (xs ys : List Char) :
    words (xs ++ s :: ys) = words xs ++ words ys := by
  rw [words, List.splitOnP_append_cons xs ys hs, List.filter_append]
  rfl

theorem IsWord.words_eq {word : List Char} (h : IsWord word) : words word = [word] := by
  rw [words, List.splitOnP_eq_singleton fun c hc ↦ by simpa using h.not_isSpace c hc]
  simp [h.ne_nil]

theorem words_append_left {xs : List Char} (h : AllSpace xs) (ys : List Char) :
    words (xs ++ ys) = words ys := by
  induction xs with
  | nil => rfl
  | cons s xs ih =>
    obtain ⟨hs, hxs⟩ := List.forall_mem_cons.mp h
    have hfirst := words_append_cons hs [] (xs ++ ys)
    rw [words_nil, List.nil_append, List.nil_append] at hfirst
    rw [List.cons_append, hfirst, ih hxs]

theorem AllSpace.words_eq {xs : List Char} (h : AllSpace xs) : words xs = [] := by
  rw [← List.append_nil xs, words_append_left h, words_nil]

theorem words_append_right {ys : List Char} (h : AllSpace ys) (xs : List Char) :
    words (xs ++ ys) = words xs := by
  cases ys with
  | nil => rw [List.append_nil]
  | cons s ys =>
    obtain ⟨hs, hys⟩ := List.forall_mem_cons.mp h
    rw [words_append_cons hs, AllSpace.words_eq hys, List.append_nil]

def Breaks (rest : List Char) : Prop := ∀ c ∈ rest.head?, isSpace c = true

theorem IsWord.words_append {word rest : List Char} (h : IsWord word) (hrest : Breaks rest) :
    words (word ++ rest) = word :: words rest := by
  cases rest with
  | nil => rw [List.append_nil, h.words_eq, words_nil]
  | cons s rest =>
    have hs := hrest s (by simp)
    have hfirst := words_append_cons hs [] rest
    rw [words_nil, List.nil_append, List.nil_append] at hfirst
    rw [words_append_cons hs, h.words_eq, hfirst]
    rfl

theorem breaks_dropWhile (text : List Char) :
    Breaks (text.dropWhile fun c ↦ !isSpace c) := by
  intro c hc
  have := List.head?_dropWhile_not (fun c ↦ !isSpace c) text
  cases hhead : (text.dropWhile fun c ↦ !isSpace c).head? with
  | none => simp [hhead] at hc
  | some d =>
    rw [hhead] at hc this
    obtain rfl := Option.some.inj hc
    simpa using this

theorem words_eq_cons {text word : List Char} {others : List (List Char)}
    (h : words text = word :: others) :
    ∃ lead rest, text = lead ++ (word ++ rest) ∧ AllSpace lead ∧ Breaks rest ∧
      words rest = others := by
  induction text with
  | nil => cases h
  | cons c text ih =>
    by_cases hc : isSpace c = true
    · have hone : AllSpace [c] := by simpa [AllSpace] using hc
      have hfirst := words_append_left hone text
      rw [List.singleton_append] at hfirst
      obtain ⟨lead, rest, rfl, hlead, hrest⟩ := ih (hfirst.symm.trans h)
      exact ⟨c :: lead, rest, rfl, hone.append hlead, hrest⟩
    · have hsplit := List.takeWhile_append_dropWhile (p := fun c ↦ !isSpace c) (l := c :: text)
      have hword : IsWord ((c :: text).takeWhile fun c ↦ !isSpace c) := by
        refine ⟨?_, fun d hd ↦ by simpa using List.mem_takeWhile_imp hd⟩
        rw [List.takeWhile_cons, if_pos (by simpa using hc)]
        exact List.cons_ne_nil _ _
      have hwords := hword.words_append (breaks_dropWhile (c :: text))
      rw [hsplit, h] at hwords
      obtain ⟨rfl, rfl⟩ := List.cons.inj hwords
      exact ⟨[], _, hsplit.symm, by simp [AllSpace], breaks_dropWhile _, rfl⟩

theorem words_intercalate {ws : List (List Char)} (h : ∀ w ∈ ws, IsWord w) :
    words ([' '].intercalate ws) = ws := by
  induction ws with
  | nil => rfl
  | cons w ws ih =>
    obtain ⟨hw, hws⟩ := List.forall_mem_cons.mp h
    cases ws with
    | nil => simpa using hw.words_eq
    | cons v ws =>
      rw [List.intercalate_cons_cons, List.append_assoc, List.singleton_append,
        words_append_cons (by decide), hw.words_eq, ih hws]
      rfl

@[simp] theorem words_collapse (text : List Char) : words (collapse text) = words text :=
  words_intercalate fun _ ↦ isWord_of_mem

theorem collapse_congr {text text' : List Char} (h : words text = words text') :
    collapse text = collapse text' := by
  rw [collapse, collapse, h]

theorem mem_of_mem_words {text word : List Char} (h : word ∈ words text) : word <:+: text := by
  induction hn : words text generalizing text with
  | nil => simp [hn] at h
  | cons first others ih =>
    obtain ⟨lead, rest, rfl, -, -, hrest⟩ := words_eq_cons hn
    rw [hn] at h
    rcases List.mem_cons.mp h with rfl | h
    · exact ⟨lead, rest, by simp⟩
    · rw [← hrest] at h
      have hinside := ih h hrest
      rw [← List.append_assoc]
      exact hinside.trans (List.suffix_append _ _).isInfix

theorem mem_collapse {text : List Char} {c : Char} (h : c ∈ collapse text) :
    c = ' ' ∨ c ∈ text ∧ isSpace c = false := by
  have hpieces {ws : List (List Char)} (hc : c ∈ [' '].intercalate ws) :
      c = ' ' ∨ ∃ w ∈ ws, c ∈ w := by
    induction ws with
    | nil => cases hc
    | cons w ws ih =>
      cases ws with
      | nil => exact .inr ⟨w, by simp, by simpa using hc⟩
      | cons v ws =>
        rw [List.intercalate_cons_cons, List.mem_append, List.mem_append,
          List.mem_singleton] at hc
        rcases hc with (hc | hc) | hc
        · exact .inr ⟨w, by simp, hc⟩
        · exact .inl hc
        · obtain hc | ⟨u, hu, hc⟩ := ih hc
          · exact .inl hc
          · exact .inr ⟨u, List.mem_cons_of_mem _ hu, hc⟩
  obtain rfl | ⟨w, hw, hc⟩ := hpieces h
  · exact .inl rfl
  · exact .inr ⟨(mem_of_mem_words hw).subset hc, (isWord_of_mem hw).not_isSpace c hc⟩

theorem words_cons {c : Char} (hc : isSpace c = false) (text : List Char) :
    ∃ front, words (c :: text) = (c :: front) :: words (text.dropWhile fun c ↦ !isSpace c) ∧
      (front = [] ∧ words text = words (text.dropWhile fun c ↦ !isSpace c) ∨
        words text = front :: words (text.dropWhile fun c ↦ !isSpace c)) := by
  have hsplit := List.takeWhile_append_dropWhile (p := fun c ↦ !isSpace c) (l := text)
  have hplain : ∀ d ∈ text.takeWhile fun c ↦ !isSpace c, isSpace d = false :=
    fun d hd ↦ by simpa using List.mem_takeWhile_imp hd
  have hword : IsWord (c :: text.takeWhile fun c ↦ !isSpace c) :=
    ⟨List.cons_ne_nil _ _, List.forall_mem_cons.mpr ⟨hc, hplain⟩⟩
  have hwords := hword.words_append (breaks_dropWhile text)
  rw [List.cons_append, hsplit] at hwords
  refine ⟨_, hwords, ?_⟩
  by_cases hnil : (text.takeWhile fun c ↦ !isSpace c) = []
  · rw [hnil, List.nil_append] at hsplit
    exact .inl ⟨hnil, by rw [hsplit]⟩
  · have hfirst : IsWord (text.takeWhile fun c ↦ !isSpace c) := ⟨hnil, hplain⟩
    have := hfirst.words_append (breaks_dropWhile text)
    rw [hsplit] at this
    exact .inr this

theorem IsWord.exists_mem_words {piece text : List Char} (hpiece : IsWord piece)
    (h : piece <:+: text) : ∃ word ∈ words text, piece <:+: word := by
  obtain ⟨front, back, rfl⟩ := h
  rw [List.append_assoc]
  induction front with
  | nil =>
    have hsplit := List.takeWhile_append_dropWhile (p := fun c ↦ !isSpace c) (l := back)
    have hword : IsWord (piece ++ back.takeWhile fun c ↦ !isSpace c) := by
      refine ⟨List.append_ne_nil_of_left_ne_nil hpiece.ne_nil _, ?_⟩
      intro c hc
      rcases List.mem_append.mp hc with hc | hc
      · exact hpiece.not_isSpace c hc
      · simpa using List.mem_takeWhile_imp hc
    have hwords := hword.words_append (breaks_dropWhile back)
    rw [List.append_assoc, hsplit] at hwords
    refine ⟨_, ?_, (List.prefix_append piece (back.takeWhile fun c ↦ !isSpace c)).isInfix⟩
    rw [List.nil_append, hwords]
    exact List.mem_cons_self
  | cons c front ih =>
    obtain ⟨word, hmem, hinside⟩ := ih
    rw [List.cons_append]
    by_cases hc : isSpace c = true
    · have hone : AllSpace [c] := by simpa [AllSpace] using hc
      rw [← List.singleton_append, words_append_left hone]
      exact ⟨word, hmem, hinside⟩
    · obtain ⟨first, hwords, ⟨-, hrest⟩ | hrest⟩ := words_cons (by simpa using hc)
        (front ++ (piece ++ back))
      · rw [hwords, ← hrest]
        exact ⟨word, List.mem_cons_of_mem _ hmem, hinside⟩
      · rw [hrest] at hmem
        rw [hwords]
        rcases List.mem_cons.mp hmem with rfl | hmem
        · exact ⟨c :: word, List.mem_cons_self, hinside.trans (List.suffix_cons c word).isInfix⟩
        · exact ⟨word, List.mem_cons_of_mem _ hmem, hinside⟩

theorem exists_trimBy (p : Char → Bool) (text : List Char) :
    ∃ lead trail, text = lead ++ (trimBy p text ++ trail) ∧ (∀ c ∈ lead, p c = true) ∧
      ∀ c ∈ trail, p c = true := by
  refine ⟨text.takeWhile p, ((text.dropWhile p).reverse.takeWhile p).reverse, ?_, ?_, ?_⟩
  · rw [trimBy, ← List.reverse_append, List.takeWhile_append_dropWhile, List.reverse_reverse,
      List.takeWhile_append_dropWhile]
  · intro c hc
    exact List.mem_takeWhile_imp hc
  · intro c hc
    exact List.mem_takeWhile_imp (List.mem_reverse.mp hc)

theorem dropWhile_trimBy (p : Char → Bool) (text : List Char) :
    (trimBy p text).dropWhile p = trimBy p text := by
  have hlead : trimBy p text <+: text.dropWhile p := by
    rw [trimBy, ← List.reverse_suffix, List.reverse_reverse]
    exact List.dropWhile_suffix p
  rw [List.dropWhile_eq_self_iff]
  intro hpos
  have hpos' := hpos.trans_le hlead.length_le
  rw [hlead.getElem hpos]
  exact List.dropWhile_get_zero_not p text hpos'

theorem trimBy_idempotent (p : Char → Bool) (text : List Char) :
    trimBy p (trimBy p text) = trimBy p text := by
  rw [trimBy, dropWhile_trimBy, trimBy, List.reverse_reverse, List.dropWhile_idempotent]

theorem words_trimBy (text : List Char) : words (trimBy isSpace text) = words text := by
  obtain ⟨lead, trail, htext, hlead, htrail⟩ := exists_trimBy isSpace text
  have h : words text = words (lead ++ (trimBy isSpace text ++ trail)) := by rw [← htext]
  rw [h, words_append_left hlead, words_append_right htrail]

end TextToSql.Domain
