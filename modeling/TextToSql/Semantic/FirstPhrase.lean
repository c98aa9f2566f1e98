import TextToSql.Semantic.DateWindows

namespace TextToSql.Semantic

open Domain Library.Backtracking Library.Backtracking.Matcher Library.Calendar

def secondWord (text : List Char) : Option Char := ((text.drop 4).dropWhile isSpace).head?

def afterLast : Option Char → Phrase
  | some 'q' => .lastQuarter
  | some 'm' => .lastMonth
  | some 'y' => .lastYear
  | some 'w' => .lastWeek
  | _ => .lastNDays

def afterThis : Option Char → Phrase
  | some 'q' => .thisQuarter
  | some 'm' => .thisMonth
  | _ => .thisYear

def phraseAt (text : List Char) : Phrase :=
  match text with
  | 'l' :: _ => afterLast (secondWord text)
  | 't' :: 'h' :: _ => afterThis (secondWord text)
  | 't' :: _ => .today
  | 'y' :: 'e' :: 's' :: _ => .yesterday
  | 'y' :: _ => .thisYear
  | _ => .lastNDays

variable {cc : CharClasses} {c : Cursor Char}

theorem dropWhile_spaces {blanks rest : List Char} {x : Char}
    (h : ∀ y ∈ blanks, isSpace y = true) (hx : isSpace x = false) :
    (blanks ++ x :: rest).dropWhile isSpace = x :: rest := by
  rw [List.dropWhile_append_of_pos h, List.dropWhile_cons_of_neg (by simp [hx])]

theorem mem_bounded {m : Matcher Char (List Char)} {r : List Char × Cursor Char}
    (h : r ∈ cc.bounded m c) : ∃ s, s ∈ m c := by
  rw [CharClasses.bounded, mem_seq] at h
  obtain ⟨_, d, hd, h⟩ := h
  obtain ⟨group, e, he, -⟩ := mem_seq.mp h
  rw [(Prod.mk.inj (mem_boundary.mp hd).2).2] at he
  exact ⟨_, he⟩

theorem after_of_spaced_one {word : String} (h : ∃ r, r ∈ spaced [word] c) :
    ∃ rest, c.after = word.toList ++ rest := by
  obtain ⟨⟨xs, d⟩, h⟩ := h
  exact ⟨_, (mem_literal.mp h).2.after⟩

theorem after_of_spaced {word : String} {words : List String} (h : ∃ r, r ∈ spaced (word :: words) c) :
    ∃ rest, c.after = word.toList ++ rest := by
  cases words with
  | nil => exact after_of_spaced_one h
  | cons word' words =>
    obtain ⟨r, h⟩ := h
    obtain ⟨xs, d, hword, -⟩ := mem_seq.mp h
    exact ⟨_, (mem_literal.mp hword).2.after⟩

theorem after_of_two {word word' : String} {words : List String}
    (h : ∃ r, r ∈ spaced (word :: word' :: words) c) :
    ∃ blanks rest, (∀ y ∈ blanks, isSpace y = true) ∧
      c.after = word.toList ++ (blanks ++ (word'.toList ++ rest)) := by
  obtain ⟨r, h⟩ := h
  obtain ⟨xs, d, hword, h⟩ := mem_seq.mp h
  obtain ⟨blanks, e, hblanks, h⟩ := mem_seq.mp h
  obtain ⟨rest, hrest⟩ := after_of_spaced ⟨_, h⟩
  obtain ⟨-, hspace, hreads⟩ := mem_many1.mp hblanks
  exact ⟨blanks, rest, hspace,
    by rw [(mem_literal.mp hword).2.after, hreads.after, hrest]⟩

theorem after_of_nDays (h : ∃ r, r ∈ cc.nDays c) :
    (∃ rest, c.after = 'p' :: rest) ∨
      ∃ blanks x rest, (∀ y ∈ blanks, isSpace y = true) ∧ cc.isDecimal x = true ∧
        c.after = "last".toList ++ (blanks ++ x :: rest) := by
  obtain ⟨r, h⟩ := h
  obtain ⟨xs, d, hword, h⟩ := mem_seq.mp h
  obtain ⟨blanks, e, hblanks, h⟩ := mem_seq.mp h
  obtain ⟨digits, g, hdigits, -⟩ := mem_seq.mp h
  obtain ⟨m, hm, hword⟩ := mem_oneOf.mp hword
  obtain ⟨-, hspace, hreads⟩ := mem_many1.mp hblanks
  obtain ⟨hne, -, hdecimal, hreads'⟩ := mem_oneUpTo.mp hdigits
  simp only [List.mem_cons, List.not_mem_nil, or_false] at hm
  rcases hm with rfl | rfl | rfl
  · right
    obtain ⟨x, digits, rfl⟩ := List.exists_cons_of_ne_nil hne
    refine ⟨blanks, x, digits ++ g.after, hspace, hdecimal x (by simp), ?_⟩
    rw [(mem_literal.mp hword).2.after, hreads.after, hreads'.after, List.cons_append]
  · exact .inl ⟨_, (mem_literal.mp hword).2.after⟩
  · exact .inl ⟨_, (mem_literal.mp hword).2.after⟩

theorem secondWord_eq {w blanks rest : List Char} {x : Char} (hw : w.length = 4)
    (h : ∀ y ∈ blanks, isSpace y = true) (hx : isSpace x = false) :
    secondWord (w ++ (blanks ++ x :: rest)) = some x := by
  rw [secondWord, ← hw, List.drop_left, dropWhile_spaces h hx]
  rfl

theorem phraseAt_last {blanks rest : List Char} {x : Char} (h : ∀ y ∈ blanks, isSpace y = true)
    (hx : isSpace x = false) :
    phraseAt ("last".toList ++ (blanks ++ x :: rest)) = afterLast (some x) := by
  rw [← secondWord_eq (w := "last".toList) rfl h hx]
  rfl

theorem phraseAt_this {blanks rest : List Char} {x : Char} (h : ∀ y ∈ blanks, isSpace y = true)
    (hx : isSpace x = false) :
    phraseAt ("this".toList ++ (blanks ++ x :: rest)) = afterThis (some x) := by
  rw [← secondWord_eq (w := "this".toList) rfl h hx]
  rfl

theorem afterLast_of_not_alpha {x : Char} (h : x.isAlpha = false) :
    afterLast (some x) = .lastNDays := by
  unfold afterLast
  split
  · rename_i heq
    cases heq
    cases h
  · rename_i heq
    cases heq
    cases h
  · rename_i heq
    cases heq
    cases h
  · rename_i heq
    cases heq
    cases h
  · rfl

theorem phraseAt_of_mem {phrase : Phrase} {r : List Char × Cursor Char}
    (h : r ∈ cc.pattern phrase c) : phraseAt c.after = phrase := by
  cases phrase with
  | lastQuarter | lastMonth | lastYear | lastWeek =>
    obtain ⟨blanks, rest, hspace, hafter⟩ := after_of_two (mem_bounded h)
    rw [hafter]
    exact phraseAt_last hspace (by decide)
  | thisQuarter | thisMonth =>
    obtain ⟨blanks, rest, hspace, hafter⟩ := after_of_two (mem_bounded h)
    rw [hafter]
    exact phraseAt_this hspace (by decide)
  | thisYear =>
    obtain ⟨s, hs⟩ := mem_bounded h
    obtain ⟨m, hm, hs⟩ := mem_oneOf.mp hs
    simp only [List.mem_cons, List.not_mem_nil, or_false] at hm
    rcases hm with rfl | rfl | rfl
    · obtain ⟨blanks, rest, hspace, hafter⟩ := after_of_two ⟨_, hs⟩
      rw [hafter]
      exact phraseAt_this hspace (by decide)
    · obtain ⟨rest, hafter⟩ := after_of_spaced ⟨_, hs⟩
      rw [hafter]
      rfl
    · obtain ⟨rest, hafter⟩ := after_of_spaced ⟨_, hs⟩
      rw [hafter]
      rfl
  | yesterday | today =>
    obtain ⟨rest, hafter⟩ := after_of_spaced (mem_bounded h)
    rw [hafter]
    rfl
  | lastNDays =>
    rcases after_of_nDays (mem_bounded h) with ⟨rest, hafter⟩ | ⟨blanks, x, rest, hspace, hx, hafter⟩
    · rw [hafter]
      rfl
    · rw [hafter, phraseAt_last hspace (cc.isSpace_decimal x hx)]
      exact afterLast_of_not_alpha (cc.isAlpha_decimal x hx)

theorem phrase_unique {phrase phrase' : Phrase} (h : cc.pattern phrase c ≠ [])
    (h' : cc.pattern phrase' c ≠ []) : phrase = phrase' := by
  obtain ⟨r, hr⟩ := List.exists_mem_of_ne_nil _ h
  obtain ⟨r', hr'⟩ := List.exists_mem_of_ne_nil _ h'
  rw [← phraseAt_of_mem hr, phraseAt_of_mem hr']

/-- The phrase occurs at this place of the text, and no phrase occurs before it. -/
structure Earliest (cc : CharClasses) (text : List Char) (phrase : Phrase) (c : Cursor Char) :
    Prop where
  occurs : MatchesAt (cc.pattern phrase) text c
  first : ∀ phrase' d, MatchesAt (cc.pattern phrase') text d → c.position ≤ d.position

/-- Without a phrase there is no window, and otherwise the earliest phrase is the one resolved. -/
def ResolvesFirst (py : Python) (cc : CharClasses) (question : String) (now : Datetime) : Prop :=
  (resolveRelativeDate py cc question now = .ok none ↔
    ∀ phrase c, ¬MatchesAt (cc.pattern phrase) (dateText py question) c) ∧
  ((∃ phrase c, MatchesAt (cc.pattern phrase) (dateText py question) c) →
    ∃ phrase c r, Earliest cc (dateText py question) phrase c ∧
      (cc.pattern phrase c).head? = some r ∧
      resolveRelativeDate py cc question now = (phrase.resolved cc now (c, r)).map some)

def Unresolvable (now : Datetime) (phrase : Phrase) (days : ℕ) : Prop :=
  ¬(InRange (phrase.start now days) ∧ InRange (phrase.end now))

/-- No phrase of a higher priority occurs behind the earliest one, unless both raise the same
exception. -/
def PriorityAgrees (py : Python) (cc : CharClasses) (question : String) (now : Datetime) : Prop :=
  ∀ phrase c r, Earliest cc (dateText py question) phrase c →
    (cc.pattern phrase c).head? = some r →
    (∀ phrase' ∈ priority.takeWhile (· ≠ phrase), found cc phrase' (dateText py question) = false) ∨
    ∃ phrase' r', firstOf cc (dateText py question) priority = some (phrase', r') ∧
      phrase.error = phrase'.error ∧ Unresolvable now phrase (cc.int r.1) ∧
      Unresolvable now phrase' (cc.int r'.2.1)

section

variable {py : Python} {question : String} {now : Datetime} {text : List Char}
  {phrase phrase' : Phrase} {d : Cursor Char}

theorem Earliest.unique (h : Earliest cc text phrase c) (h' : Earliest cc text phrase' d) :
    phrase = phrase' ∧ c = d := by
  obtain rfl := cursor_unique h.occurs.1 h'.occurs.1
    (le_antisymm (h.first _ _ h'.occurs) (h'.first _ _ h.occurs))
  exact ⟨phrase_unique h.occurs.2 h'.occurs.2, rfl⟩

theorem exists_earliest (h : ∃ phrase c, MatchesAt (cc.pattern phrase) text c) :
    ∃ phrase c, Earliest cc text phrase c := by
  obtain ⟨phrase, c, h⟩ := h
  have hwf := (measure fun x : Phrase × Cursor Char ↦ x.2.position).wf
  obtain ⟨⟨phrase, c⟩, hmem, hmin⟩ :=
    hwf.has_min {x | MatchesAt (cc.pattern x.1) text x.2} ⟨(phrase, c), h⟩
  exact ⟨phrase, c, hmem, fun phrase' d hd ↦ not_lt.mp (hmin (phrase', d) hd)⟩

theorem Earliest.search_eq (h : Earliest cc text phrase c) {r : List Char × Cursor Char}
    (hr : (cc.pattern phrase c).head? = some r) : search (cc.pattern phrase) text = some (c, r) :=
  search_of_first h.occurs hr (h.first phrase)

theorem firstOf_eq_none_iff {phrases : List Phrase} :
    firstOf cc text phrases = none ↔ ∀ phrase ∈ phrases, found cc phrase text = false := by
  simp [firstOf, found, List.findSome?_eq_none_iff]

theorem firstOf_eq_some_iff {phrases : List Phrase} {r : Cursor Char × List Char × Cursor Char} :
    firstOf cc text phrases = some (phrase, r) ↔
      phrase ∈ phrases ∧ search (cc.pattern phrase) text = some r ∧
        ∀ phrase' ∈ phrases.takeWhile (· ≠ phrase), found cc phrase' text = false := by
  induction phrases with
  | nil => simp [firstOf]
  | cons p phrases ih =>
    rw [firstOf] at ih
    rw [firstOf, List.findSome?_cons]
    by_cases hp : p = phrase
    · subst hp
      cases hsearch : search (cc.pattern p) text with
      | none => simpa [hsearch] using fun h ↦ (ih.mp h).2.1
      | some s => simp
    · cases hsearch : search (cc.pattern p) text with
      | none => simp [ih, hp, Ne.symm hp, found, hsearch]
      | some s => simp [hp, found, hsearch]

theorem exists_firstOf (h : ∃ phrase c, MatchesAt (cc.pattern phrase) text c) :
    ∃ phrase r, firstOf cc text priority = some (phrase, r) := by
  obtain ⟨phrase, c, h⟩ := h
  cases hfirst : firstOf cc text priority with
  | some found => exact ⟨found.1, found.2, rfl⟩
  | none =>
    have hfound := firstOf_eq_none_iff.mp hfirst phrase (mem_priority phrase)
    rw [found, Option.isSome_eq_false_iff, Option.isNone_iff_eq_none] at hfound
    exact absurd h (search_eq_none_iff.mp hfound c)

theorem description_injective {days days' : ℕ}
    (h : phrase.description days = phrase'.description days') : phrase = phrase' := by
  have hnDays (n : ℕ) : (Phrase.lastNDays.description n).toList.getLast? = some 's' := by
    rw [Phrase.description, String.toList_append, List.getLast?_append]
    rfl
  have hfixed {p : Phrase} (hp : p ≠ .lastNDays) (n : ℕ) : p.description n = p.description 0 := by
    cases p <;> first | rfl | exact absurd rfl hp
  have hother {p : Phrase} (hp : p ≠ .lastNDays) :
      (p.description 0).toList.getLast? ≠ some 's' := by
    cases p <;> first | exact absurd rfl hp | decide
  by_cases hphrase : phrase = .lastNDays
  · by_contra hne
    rw [hphrase] at h hne
    rw [hfixed (Ne.symm hne)] at h
    exact hother (Ne.symm hne) (h ▸ hnDays days)
  · rw [hfixed hphrase] at h
    by_cases hphrase' : phrase' = .lastNDays
    · rw [hphrase'] at h
      exact absurd (h ▸ hnDays days') (hother hphrase)
    · rw [hfixed hphrase'] at h
      cases phrase <;> cases phrase' <;>
        first | rfl | exact absurd rfl hphrase | exact absurd rfl hphrase' | exact absurd h (by decide)

theorem Unresolvable.range_eq {days : ℕ} (h : Unresolvable now phrase days) (matched : String) :
    phrase.range now days matched = .error phrase.error := by
  rw [Phrase.range_eq, window, dif_neg h]

theorem eq_or_unresolvable {days days' : ℕ} {matched matched' : String}
    (h : phrase.range now days matched = phrase'.range now days' matched') :
    phrase = phrase' ∨
      phrase.error = phrase'.error ∧ Unresolvable now phrase days ∧
        Unresolvable now phrase' days' := by
  rw [Phrase.range_eq, Phrase.range_eq, window, window] at h
  split at h
  · split at h
    · left
      exact description_injective (ResolvedDateRange.mk.inj (Except.ok.inj h)).2.2.1
    · cases h
  · rename_i hout
    split at h
    · cases h
    · rename_i hout'
      exact .inr ⟨Except.error.inj h, hout, hout'⟩

theorem except_map_some_injective {α : Type} {x y : Except PyError α}
    (h : x.map some = y.map some) : x = y := by
  cases x <;> cases y <;> cases h <;> rfl

theorem resolvesFirst_of_none (h : ¬∃ phrase c, MatchesAt (cc.pattern phrase) (dateText py question) c) :
    ResolvesFirst py cc question now := by
  have hchosen : chosen py cc question = none := by
    cases hchosen : chosen py cc question with
    | none => rfl
    | some found =>
      have hsearch := (firstOf_eq_some_iff.mp hchosen).2.1
      exact absurd ⟨found.1, found.2.1, (search_eq_some hsearch).1⟩ h
  refine ⟨iff_of_true (resolveRelativeDate_of_none hchosen) ?_, fun hoccurs ↦ absurd hoccurs h⟩
  intro phrase c hoccurs
  exact h ⟨phrase, c, hoccurs⟩

theorem resolved_ne_none {r : Cursor Char × List Char × Cursor Char}
    (h : chosen py cc question = some (phrase, r)) :
    resolveRelativeDate py cc question now ≠ .ok none := by
  rw [resolveRelativeDate_of_some h]
  cases phrase.resolved cc now r with
  | ok _ => exact fun heq ↦ Option.some_ne_none _ (Except.ok.inj heq)
  | error _ => exact fun heq ↦ by cases heq

/-- The earliest phrase wins exactly when no later phrase has a higher priority. -/
theorem resolvesFirst_iff (py : Python) (cc : CharClasses) (question : String) (now : Datetime) :
    ResolvesFirst py cc question now ↔ PriorityAgrees py cc question now := by
  by_cases hoccurs : ∃ phrase c, MatchesAt (cc.pattern phrase) (dateText py question) c
  · obtain ⟨phrase', r', hchosen⟩ := exists_firstOf hoccurs
    have hsearch' := (firstOf_eq_some_iff.mp hchosen).2.1
    constructor
    · rintro ⟨-, hfirst⟩ phrase c r hearliest hr
      obtain ⟨p, d, s, hp, hs, hresolved⟩ := hfirst hoccurs
      obtain ⟨rfl, rfl⟩ := hearliest.unique hp
      rw [hr] at hs
      cases hs
      rw [resolveRelativeDate_of_some hchosen] at hresolved
      have hequal := except_map_some_injective hresolved
      rcases eq_or_unresolvable hequal.symm with heq | hunresolvable
      · left
        rw [heq]
        exact (firstOf_eq_some_iff.mp hchosen).2.2
      · exact .inr ⟨phrase', r', hchosen, hunresolvable⟩
    · intro hagrees
      refine ⟨iff_of_false (resolved_ne_none hchosen) ?_, fun _ ↦ ?_⟩
      · intro hnone
        obtain ⟨phrase, c, h⟩ := hoccurs
        exact hnone phrase c h
      obtain ⟨phrase, c, hearliest⟩ := exists_earliest hoccurs
      obtain ⟨r, hr⟩ : ∃ r, (cc.pattern phrase c).head? = some r :=
        Option.isSome_iff_exists.mp (List.isSome_head?.mpr hearliest.occurs.2)
      refine ⟨phrase, c, r, hearliest, hr, ?_⟩
      rcases hagrees phrase c r hearliest hr with hnone | ⟨p, s, hp, herror, hout, hout'⟩
      · have hfirst : chosen py cc question = some (phrase, c, r) :=
          firstOf_eq_some_iff.mpr ⟨mem_priority phrase, hearliest.search_eq hr, hnone⟩
        exact resolveRelativeDate_of_some hfirst
      · rw [resolveRelativeDate_of_some hp, Phrase.resolved, Phrase.resolved, hout.range_eq,
          hout'.range_eq, herror]
  · refine iff_of_true (resolvesFirst_of_none hoccurs) ?_
    intro phrase c r hearliest
    exact absurd ⟨phrase, c, hearliest.occurs⟩ hoccurs

/-- "today", although it stands first, is read as "yesterday". -/
theorem later_phrase_wins :
    ¬ResolvesFirst .ascii .ascii "today or yesterday"
      ⟨.midnight ⟨2024, 5, 15, by decide, by decide⟩, by decide⟩ := by
  rw [resolvesFirst_iff]
  intro h
  have htext : dateText .ascii "today or yesterday" = "today or yesterday".toList := by
    decide +kernel
  have hoccurs : MatchesAt (CharClasses.pattern .ascii .today) "today or yesterday".toList
      ⟨[], "today or yesterday".toList⟩ :=
    ⟨List.mem_cons_self, by decide +kernel⟩
  have hagrees := h .today _ ("today".toList, ⟨"today".toList.reverse, " or yesterday".toList⟩)
    ⟨htext ▸ hoccurs, fun _ _ _ ↦ Nat.zero_le _⟩ (by decide +kernel)
  rw [htext] at hagrees
  rcases hagrees with hnone | ⟨_, _, -, -, hout, -⟩
  · exact absurd (hnone .yesterday (by decide)) (by decide +kernel)
  · apply hout
    exact ⟨inRange_dayFirst.mpr (by decide), inRange_dayFirst.mpr (by decide)⟩

end

end TextToSql.Semantic
