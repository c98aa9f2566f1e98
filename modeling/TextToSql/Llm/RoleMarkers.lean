import TextToSql.Domain.Words
import TextToSql.Library.Substitution
import TextToSql.Llm.Sanitize

namespace TextToSql.Llm

open Domain Library.Backtracking Library.Backtracking.Matcher

def IsRole (word : List Char) : Prop :=
  ∃ name ∈ roleNames, List.Forall₂ (fun letter c ↦ caseless letter c = true) name.toList word

/-- Blanks, a role and blanks; a colon behind them completes a marker. -/
structure Marker (lead word gap : List Char) : Prop where
  lead : AllSpace lead
  role : IsRole word
  gap : AllSpace gap

theorem caseless_plain {letter c : Char} (hletter : letter.isAlpha) (h : caseless letter c = true) :
    isSpace c = false ∧ c ≠ ':' ∧ c ≠ ratio ∧ c ≠ backtick ∧ c ≠ accent := by
  simp only [caseless, Bool.or_eq_true, Bool.and_eq_true, beq_iff_eq] at h
  rcases h with (h | ⟨-, rfl⟩) | ⟨-, rfl | rfl⟩
  · have halpha : c.isAlpha = true := by rw [← Char.isAlpha_toLower_eq_isAlpha, h, hletter]
    refine ⟨isSpace_of_isAlpha c halpha, ?_⟩
    refine ⟨?_, ?_, ?_, ?_⟩ <;> rintro rfl <;> exact absurd halpha (by decide)
  · decide
  · decide
  · decide

theorem roleNames_alpha : ∀ name ∈ roleNames, name.toList ≠ [] ∧
    ∀ letter ∈ name.toList, letter.isAlpha = true := by
  intro name hname
  simp only [roleNames, List.mem_cons, List.not_mem_nil, or_false] at hname
  rcases hname with rfl | rfl | rfl | rfl <;> exact ⟨by simp, by simp [Char.isAlpha, Char.isLower, Char.isUpper]⟩

theorem IsRole.plain {word : List Char} (h : IsRole word) :
    ∀ c ∈ word, isSpace c = false ∧ c ≠ ':' ∧ c ≠ ratio ∧ c ≠ backtick ∧ c ≠ accent := by
  obtain ⟨name, hname, hall⟩ := h
  have halpha := (roleNames_alpha name hname).2
  intro c hc
  obtain ⟨i, hi, rfl⟩ := List.mem_iff_getElem.mp hc
  have hlength := hall.length_eq
  exact caseless_plain (halpha _ (List.getElem_mem (by omega))) (hall.get (by omega) hi)

theorem IsRole.ne_nil {word : List Char} (h : IsRole word) : word ≠ [] := by
  obtain ⟨name, hname, hall⟩ := h
  rintro rfl
  rw [List.forall₂_nil_right_iff] at hall
  exact (roleNames_alpha name hname).1 hall

theorem mem_rolePrefix {c d : Cursor Char} {a : List Char} :
    (a, d) ∈ rolePrefix c ↔ c.before.head?.all (· == '\n') = true ∧ a = [':'] ∧
      ∃ lead word gap, Marker lead word gap ∧ Reads c (lead ++ (word ++ (gap ++ [':']))) d := by
  constructor
  · intro h
    obtain ⟨_, e, hstart, h₁⟩ := mem_seq.mp h
    obtain ⟨lead, f, hlead, h₂⟩ := mem_seq.mp h₁
    obtain ⟨_, g, hword, h₃⟩ := mem_seq.mp h₂
    obtain ⟨gap, i, hgap, h₄⟩ := mem_seq.mp h₃
    obtain ⟨hline, rfl⟩ := mem_lineStart.mp hstart
    obtain ⟨rfl, hcolon⟩ := mem_literal.mp h₄
    obtain ⟨hspace, hreads⟩ := mem_many.mp hlead
    obtain ⟨m, hm, hword⟩ := mem_oneOf.mp hword
    obtain ⟨name, hname, rfl⟩ := List.mem_map.mp hm
    obtain ⟨word, hall, hreads'⟩ := mem_each.mp hword
    obtain ⟨hspace', hreads''⟩ := mem_many.mp hgap
    exact ⟨hline, rfl, lead, word, gap, ⟨hspace, ⟨name, hname, List.forall₂_map_left_iff.mp hall⟩,
      hspace'⟩, hreads.append (hreads'.append (hreads''.append hcolon))⟩
  · rintro ⟨hline, rfl, lead, word, gap, ⟨hspace, ⟨name, hname, hall⟩, hspace'⟩, hreads⟩
    have hcolon : Reads ⟨gap.reverse ++ (word.reverse ++ (lead.reverse ++ c.before)), ':' :: d.after⟩
        [':'] d := ⟨rfl, by rw [hreads.before]; simp⟩
    have hafter : c.after = lead ++ (word ++ (gap ++ ':' :: d.after)) := by
      rw [hreads.after]
      simp
    let d₁ : Cursor Char := ⟨lead.reverse ++ c.before, word ++ (gap ++ ':' :: d.after)⟩
    let d₂ : Cursor Char := ⟨word.reverse ++ d₁.before, gap ++ ':' :: d.after⟩
    have hword : ((), d₂) ∈ oneOf (roleNames.map role) d₁ :=
      mem_oneOf.mpr ⟨role name, List.mem_map_of_mem hname,
        mem_each.mpr ⟨word, List.forall₂_map_left_iff.mpr hall, reads_append rfl⟩⟩
    have hlead : (lead, d₁) ∈ many isSpace c := mem_many.mpr ⟨hspace, reads_append hafter⟩
    have hgap := mem_many.mpr ⟨hspace', reads_append (c := d₂) rfl⟩
    exact mem_seq.mpr ⟨(), c, mem_lineStart.mpr ⟨hline, rfl⟩, mem_seq.mpr ⟨lead, d₁, hlead,
      mem_seq.mpr ⟨(), d₂, hword, mem_seq.mpr ⟨gap, _, hgap, mem_literal.mpr ⟨rfl, hcolon⟩⟩⟩⟩⟩

theorem IsRole.head {word : List Char} (h : IsRole word) (rest : List Char) :
    ∃ c ∈ word, ∃ more, word ++ rest = c :: more := by
  obtain ⟨c, word, rfl⟩ := List.exists_cons_of_ne_nil h.ne_nil
  exact ⟨c, List.mem_cons_self, word ++ rest, rfl⟩

theorem Marker.unique {lead word gap rest lead' word' gap' rest' : List Char}
    (h : Marker lead word gap) (h' : Marker lead' word' gap')
    (heq : lead ++ (word ++ (gap ++ ':' :: rest)) = lead' ++ (word' ++ (gap' ++ ':' :: rest'))) :
    lead = lead' ∧ word = word' ∧ gap = gap' ∧ rest = rest' := by
  have hword {word rest : List Char} (h : IsRole word) :
      ∀ c ∈ (word ++ rest).head?, isSpace c = false := by
    obtain ⟨d, hd, more, hmore⟩ := h.head rest
    rw [hmore]
    intro c hc
    obtain rfl := Option.some.inj hc
    exact (h.plain d hd).1
  obtain ⟨rfl, heq₁⟩ := front_unique heq h.lead h'.lead (hword h.role) (hword h'.role)
  -- a role ends at a blank or at the colon
  have hletters {word : List Char} (h : IsRole word) :
      ∀ c ∈ word, (!isSpace c && c != ':') = true := by
    intro c hc
    have hc := h.plain c hc
    simp [hc.1, hc.2.1]
  have hgap {gap rest : List Char} (h : AllSpace gap) :
      ∀ c ∈ (gap ++ ':' :: rest).head?, (!isSpace c && c != ':') = false := by
    cases gap with
    | nil => simp
    | cons s gap =>
      have hs := h s List.mem_cons_self
      simp [hs]
  obtain ⟨rfl, heq₂⟩ := front_unique heq₁ (hletters h.role) (hletters h'.role) (hgap h.gap)
    (hgap h'.gap)
  have hcolon {rest : List Char} : ∀ c ∈ (':' :: rest).head?, isSpace c = false := by
    simp [show isSpace ':' = false by decide]
  obtain ⟨rfl, heq₃⟩ := front_unique heq₂ h.gap h'.gap hcolon hcolon
  exact ⟨rfl, rfl, rfl, (List.cons.inj heq₃).2⟩

def AtLineStart (c : Cursor Char) : Prop := c.before.head?.all (· == '\n') = true

theorem match_iff {c d : Cursor Char} :
    Match rolePrefix c d ↔ AtLineStart c ∧
      ∃ lead word gap, Marker lead word gap ∧ Reads c (lead ++ (word ++ (gap ++ [':']))) d := by
  constructor
  · rintro ⟨a, ha⟩
    obtain ⟨hstart, -, h⟩ := mem_rolePrefix.mp (List.mem_of_mem_head? ha)
    exact ⟨hstart, h⟩
  · rintro ⟨hstart, lead, word, gap, hmarker, hreads⟩
    have hmem := mem_rolePrefix.mpr ⟨hstart, rfl, lead, word, gap, hmarker, hreads⟩
    cases hhead : (rolePrefix c).head? with
    | none =>
      rw [List.head?_eq_none_iff.mp hhead] at hmem
      cases hmem
    | some r =>
      obtain ⟨a, e⟩ := r
      obtain ⟨-, -, lead', word', gap', hmarker', hreads'⟩ :=
        mem_rolePrefix.mp (List.mem_of_mem_head? hhead)
      have heq := hreads.after.symm.trans hreads'.after
      simp only [List.append_assoc, List.singleton_append] at heq
      obtain ⟨rfl, rfl, rfl, hrest⟩ := hmarker.unique hmarker' heq
      obtain rfl : d = e := Cursor.ext (hreads.before.trans hreads'.before.symm) hrest
      exact ⟨a, hhead⟩

theorem laminar_rolePrefix : Laminar rolePrefix where
  reads := by
    intro c d h
    obtain ⟨-, lead, word, gap, -, hreads⟩ := match_iff.mp h
    exact ⟨_, by simp, hreads⟩
  same_end := by
    intro c d e f xs ys hcd hef hxs hys hce hed
    obtain ⟨-, lead, word, gap, hmarker, hreads⟩ := match_iff.mp hcd
    obtain ⟨hstart, lead', word', gap', hmarker', hreads'⟩ := match_iff.mp hef
    -- the inner match begins behind a line feed
    obtain ⟨zs, z, rfl⟩ : ∃ zs z, xs = zs ++ [z] := ⟨_, _, (List.dropLast_append_getLast hxs).symm⟩
    obtain rfl : z = '\n' := by
      rw [AtLineStart, hce.before] at hstart
      simpa using hstart
    have hinner : ys ++ d.after = lead' ++ (word' ++ (gap' ++ ':' :: f.after)) := by
      rw [← hed.after, hreads'.after]
      simp
    have houter : lead ++ (word ++ (gap ++ [':'])) = zs ++ '\n' :: ys := by
      have hafter := hreads.after.symm.trans (hce.append hed).after
      simpa using List.append_cancel_right hafter
    rcases append_eq_append_cons houter with ⟨more, rfl, hys⟩ | ⟨more, rfl, hwhole⟩
    · -- both matches read the same role and the same colon
      have hmore : Marker more word gap := by
        refine ⟨fun s hs ↦ hmarker.lead s ?_, hmarker.role, hmarker.gap⟩
        exact List.mem_append_right _ (List.mem_cons_of_mem _ hs)
      have heq : more ++ (word ++ (gap ++ ':' :: d.after)) =
          lead' ++ (word' ++ (gap' ++ ':' :: f.after)) := by
        rw [← hinner, hys]
        simp
      obtain ⟨rfl, rfl, rfl, hrest⟩ := hmore.unique hmarker' heq
      have htext : d.text = f.text := by rw [hed.text_eq, hreads'.text_eq]
      apply Eq.symm
      apply Cursor.ext ?_ hrest
      rw [Cursor.text, Cursor.text, hrest] at htext
      exact List.reverse_injective (List.append_cancel_right htext)
    · rcases append_eq_append_cons hwhole with ⟨more', rfl, -⟩ | ⟨more', rfl, hgap⟩
      · exact absurd (hmarker.role.plain '\n' (by simp)).1 (by decide)
      · rcases append_eq_append_cons hgap with ⟨more, rfl, hys'⟩ | ⟨more, rfl, hlast⟩
        · -- behind the role there is nothing but blanks and the colon
          rw [hys', List.append_assoc, List.singleton_append] at hinner
          have hmore : AllSpace more := fun s hs ↦ hmarker.gap s (by simp [hs])
          obtain ⟨y, hy, rest, hrest⟩ := hmarker'.role.head (gap' ++ ':' :: f.after)
          rw [hrest] at hinner
          have hy' := hmarker'.role.plain y hy
          obtain ⟨-, heq⟩ := front_unique hinner hmore hmarker'.lead
            (by simp [show isSpace ':' = false by decide]) (by simp [hy'.1])
          exact absurd (List.cons.inj heq).1.symm hy'.2.1
        · cases more with
          | nil => exact absurd (List.cons.inj hlast).1 (by decide)
          | cons x more =>
            have hlength := congrArg List.length hlast
            simp at hlength

def Fed (text : List Char) : Prop := text = [] ∨ ∃ front, text = front ++ ['\n']

theorem ends_iff {xs ys : List Char} :
    Ends rolePrefix ⟨':' :: xs.reverse, ys⟩ ↔ ∃ front lead word gap, Fed front ∧
      Marker lead word gap ∧ xs = front ++ (lead ++ (word ++ gap)) := by
  constructor
  · rintro ⟨c, hmatch⟩
    obtain ⟨hstart, lead, word, gap, hmarker, hreads⟩ := match_iff.mp hmatch
    refine ⟨c.before.reverse, lead, word, gap, ?_, hmarker, ?_⟩
    · obtain ⟨before, after⟩ := c
      cases before with
      | nil => exact .inl rfl
      | cons x before =>
        obtain rfl : x = '\n' := by simpa [AtLineStart] using hstart
        exact .inr ⟨before.reverse, by simp⟩
    · have hbefore := congrArg List.reverse hreads.before
      simp only [List.reverse_cons, List.reverse_append, List.reverse_reverse] at hbefore
      have hbefore : xs ++ [':'] = (c.before.reverse ++ (lead ++ (word ++ gap))) ++ [':'] := by
        simpa using hbefore
      exact List.append_cancel_right hbefore
  · rintro ⟨front, lead, word, gap, hfed, hmarker, rfl⟩
    refine ⟨⟨front.reverse, lead ++ (word ++ (gap ++ ':' :: ys))⟩, match_iff.mpr ⟨?_, lead, word,
      gap, hmarker, ?_, ?_⟩⟩
    · rcases hfed with rfl | ⟨front, rfl⟩ <;> simp [AtLineStart]
    · simp
    · simp

theorem neutralizeRoles_eq (text : List Char) :
    neutralizeRoles text = marked rolePrefix withRatio [] text := by
  apply substitute_eq_marked laminar_rolePrefix ?_ ⟨[], text⟩ (settled_start _ _)
  intro c d xs x hmatch hreads
  obtain ⟨-, lead, word, gap, hmarker, hreads'⟩ := match_iff.mp hmatch
  have heq : xs ++ [x] = (lead ++ (word ++ gap)) ++ [':'] := by
    have hafter := hreads.after.symm.trans hreads'.after
    simpa using List.append_cancel_right hafter
  obtain ⟨rfl, hx⟩ := List.append_inj' heq rfl
  obtain rfl := (List.cons.inj hx).1
  rw [List.map_append, List.map_singleton, List.map_congr_left, List.map_id]
  intro s hs
  rw [withRatio, if_neg]
  · rfl
  · rintro rfl
    rcases List.mem_append.mp hs with hs | hs
    · exact absurd (hmarker.lead _ hs) (by decide)
    · rcases List.mem_append.mp hs with hs | hs
      · exact (hmarker.role.plain _ hs).2.1 rfl
      · exact absurd (hmarker.gap _ hs) (by decide)

/-- What may stand where this character stood. -/
def Disguise (a b : Char) : Prop :=
  b = a ∨ a = ':' ∧ b = ratio ∨ a = backtick ∧ b = accent

def fence : List Char := [backtick, backtick, backtick]

theorem replaceFences_forall₂ (text : List Char) :
    List.Forall₂ (fun a b ↦ b = a ∨ a = backtick ∧ b = accent) text (replaceFences text) := by
  fun_induction replaceFences text with
  | case1 a b c rest h ih =>
    obtain ⟨rfl, rfl, rfl⟩ := h
    exact .cons (.inr ⟨rfl, rfl⟩) (.cons (.inr ⟨rfl, rfl⟩) (.cons (.inr ⟨rfl, rfl⟩) ih))
  | case2 a b c rest h ih => exact .cons (.inl rfl) ih
  | case3 rest => exact List.forall₂_same.mpr fun _ _ ↦ .inl rfl

def disguised (text : List Char) : List Char := replaceFences (neutralizeRoles text)

theorem forall₂_split {R : Char → Char → Prop} {xs ys zs : List Char} {x : Char}
    (h : List.Forall₂ R (xs ++ x :: ys) zs) :
    ∃ xs' x' ys', zs = xs' ++ x' :: ys' ∧ List.Forall₂ R xs xs' ∧ R x x' ∧
      List.Forall₂ R ys ys' := by
  induction xs generalizing zs with
  | nil =>
    obtain ⟨x', ys', hx, hys, rfl⟩ := List.forall₂_cons_left_iff.mp h
    exact ⟨[], x', ys', rfl, .nil, hx, hys⟩
  | cons y xs ih =>
    obtain ⟨y', zs', hy, hrest, rfl⟩ := List.forall₂_cons_left_iff.mp h
    obtain ⟨xs', x', ys', rfl, hxs, hx⟩ := ih hrest
    exact ⟨y' :: xs', x', ys', rfl, .cons hy hxs, hx⟩

theorem forall₂_comp {R S T : Char → Char → Prop} (hcomp : ∀ a b c, R a b → S b c → T a c)
    {xs ys zs : List Char} (h : List.Forall₂ R xs ys) (h' : List.Forall₂ S ys zs) :
    List.Forall₂ T xs zs := by
  induction h generalizing zs with
  | nil =>
    cases h'
    exact .nil
  | cons hr _ ih =>
    obtain ⟨z, zs, hs, hrest, rfl⟩ := List.forall₂_cons_left_iff.mp h'
    exact .cons (hcomp _ _ _ hr hs) (ih hrest)

theorem disguise_trans {a b c : Char} (h : b = a ∨ b = withRatio a)
    (h' : c = b ∨ b = backtick ∧ c = accent) : Disguise a c := by
  have h : b = a ∨ a = ':' ∧ b = ratio := by
    rcases h with rfl | rfl
    · exact .inl rfl
    · rw [withRatio]
      split
      · rename_i ha
        exact .inr ⟨ha, rfl⟩
      · exact .inl rfl
  rcases h with rfl | ⟨rfl, rfl⟩
  · rcases h' with rfl | ⟨rfl, rfl⟩
    · exact .inl rfl
    · exact .inr (.inr ⟨rfl, rfl⟩)
  · rcases h' with rfl | ⟨h, -⟩
    · exact .inr (.inl ⟨rfl, rfl⟩)
    · exact absurd h (by decide)

theorem disguised_split (xs ys : List Char) (x : Char) :
    ∃ xs' x' ys', disguised (xs ++ x :: ys) = xs' ++ x' :: ys' ∧ List.Forall₂ Disguise xs xs' ∧
      (x' = ':' ↔ x = ':' ∧ ¬Ends rolePrefix ⟨x :: xs.reverse, ys⟩) := by
  obtain ⟨zs, hzs, heq⟩ :=
    marked_append (m := rolePrefix) (g := withRatio) [] xs (x :: ys)
  rw [List.append_nil] at heq
  have hfences := replaceFences_forall₂ (neutralizeRoles (xs ++ x :: ys))
  rw [neutralizeRoles_eq, heq, marked] at hfences
  obtain ⟨xs', x', ys', hdisguised, hxs, hx, -⟩ := forall₂_split hfences
  have hall : List.Forall₂ Disguise xs xs' := by
    apply forall₂_comp ?_ hzs hxs
    intro a b c
    exact disguise_trans
  refine ⟨xs', x', ys', ?_, hall, ?_⟩
  · rw [disguised, neutralizeRoles_eq, heq, marked, hdisguised]
  · constructor
    · rintro rfl
      rcases hx with hx | ⟨-, hx⟩
      · split at hx
        · rw [withRatio] at hx
          split at hx
          · exact absurd hx (by decide)
          · rename_i hne
            exact absurd hx.symm hne
        · rename_i hends
          exact ⟨hx.symm, hx ▸ hends⟩
      · exact absurd hx (by decide)
    · rintro ⟨rfl, hends⟩
      rw [if_neg hends] at hx
      rcases hx with rfl | ⟨hx, -⟩
      · rfl
      · exact absurd hx (by decide)

theorem disguised_forall₂ (text : List Char) : List.Forall₂ Disguise text (disguised text) := by
  obtain ⟨zs, hzs, heq⟩ := marked_append (m := rolePrefix) (g := withRatio) [] text []
  rw [List.append_nil, marked, List.append_nil] at heq
  have hfences := replaceFences_forall₂ (neutralizeRoles text)
  rw [neutralizeRoles_eq, heq] at hfences
  rw [disguised, neutralizeRoles_eq, heq]
  apply forall₂_comp ?_ hzs hfences
  intro a b c
  exact disguise_trans

theorem length_disguised (text : List Char) : (disguised text).length = text.length :=
  (disguised_forall₂ text).length_eq.symm

theorem isSpace_disguise {a b : Char} (h : Disguise a b) : isSpace b = isSpace a := by
  rcases h with rfl | ⟨rfl, rfl⟩ | ⟨rfl, rfl⟩
  · rfl
  · decide
  · decide

theorem eq_of_forall₂ {R : Char → Char → Prop} {xs ys : List Char} (h : List.Forall₂ R xs ys)
    (hfixed : ∀ a ∈ xs, ∀ b ∈ ys, R a b → b = a) : ys = xs := by
  induction h with
  | nil => rfl
  | cons hd _ ih =>
    rw [hfixed _ List.mem_cons_self _ List.mem_cons_self hd, ih]
    intro a ha b hb
    exact hfixed a (List.mem_cons_of_mem _ ha) b (List.mem_cons_of_mem _ hb)

theorem eq_of_plain {xs ys : List Char} (h : List.Forall₂ Disguise xs ys)
    (hplain : ∀ c ∈ xs, c ≠ ':' ∧ c ≠ backtick) : ys = xs := by
  apply eq_of_forall₂ h
  rintro a ha b - (rfl | ⟨rfl, -⟩ | ⟨rfl, -⟩)
  · rfl
  · exact absurd rfl (hplain _ ha).1
  · exact absurd rfl (hplain _ ha).2

theorem eq_of_plain' {xs ys : List Char} (h : List.Forall₂ Disguise xs ys)
    (hplain : ∀ c ∈ ys, c ≠ ratio ∧ c ≠ accent) : ys = xs := by
  apply eq_of_forall₂ h
  rintro a - b hb (rfl | ⟨-, rfl⟩ | ⟨-, rfl⟩)
  · rfl
  · exact absurd rfl (hplain _ hb).1
  · exact absurd rfl (hplain _ hb).2

theorem plain_of_isSpace {c : Char} (h : isSpace c = true) :
    c ≠ ':' ∧ c ≠ ratio ∧ c ≠ backtick ∧ c ≠ accent := by
  refine ⟨?_, ?_, ?_, ?_⟩ <;> rintro rfl <;> exact absurd h (by decide)

/-- A role and a colon that keep their place and their form: something else than blanks stands
before them on their line, as far as line feeds go. -/
structure Veiled (text before : List Char) (y : Char) (blanks word gap rest : List Char) : Prop where
  text : text = before ++ y :: (blanks ++ (word ++ (gap ++ ':' :: rest)))
  not_blank : isSpace y = false
  marker : Marker blanks word gap
  no_feed : '\n' ∉ blanks

theorem exists_last_nonblank (text : List Char) :
    AllSpace text ∨ ∃ front y blanks, text = front ++ y :: blanks ∧ isSpace y = false ∧
      AllSpace blanks := by
  rcases exists_last (!isSpace ·) text with hall | ⟨front, y, blanks, htext, hy, hblanks⟩
  · exact .inl fun c hc ↦ by simpa using hall c hc
  · exact .inr ⟨front, y, blanks, htext, by simpa using hy, fun c hc ↦ by simpa using hblanks c hc⟩

theorem forall₂_split' {R : Char → Char → Prop} {xs ys zs : List Char}
    (h : List.Forall₂ R xs (ys ++ zs)) :
    ∃ ys' zs', xs = ys' ++ zs' ∧ List.Forall₂ R ys' ys ∧ List.Forall₂ R zs' zs :=
  ⟨_, _, (List.take_append_drop ys.length xs).symm, List.forall₂_take_append xs ys zs h,
    List.forall₂_drop_append xs ys zs h⟩

theorem exists_split {xs : List Char} {n : ℕ} (h : n < xs.length) :
    ∃ front x back, xs = front ++ x :: back ∧ front.length = n :=
  ⟨xs.take n, xs[n], xs.drop (n + 1), by simp, by simp; omega⟩

theorem veiled_of_disguised {text front word gap rest : List Char} (hword : IsRole word)
    (hgap : AllSpace gap) (h : disguised text = front ++ (word ++ (gap ++ ':' :: rest))) :
    ∃ before y blanks before' y' rest', front = before ++ y :: blanks ∧ isSpace y = false ∧
      Veiled text before' y' blanks word gap rest' := by
  have hlength := length_disguised text
  rw [h] at hlength
  simp only [List.length_append, List.length_cons] at hlength
  have hshorter : (front ++ (word ++ gap)).length < text.length := by
    simp only [List.length_append]
    omega
  obtain ⟨xs, x, ys, rfl, hxs⟩ := exists_split hshorter
  obtain ⟨xs', x', ys', heq, hall, hcolon⟩ := disguised_split xs ys x
  have hsame : xs' ++ x' :: ys' = (front ++ (word ++ gap)) ++ ':' :: rest := by
    rw [← heq, h]
    simp
  obtain ⟨rfl, htail⟩ := List.append_inj hsame (hall.length_eq.symm.trans hxs)
  obtain ⟨rfl, hends⟩ := hcolon.mp (List.cons.inj htail).1
  obtain ⟨front', back, rfl, hfront, hback⟩ := forall₂_split' hall
  have hplain : ∀ c ∈ word ++ gap, c ≠ ratio ∧ c ≠ accent := by
    intro c hc
    rcases List.mem_append.mp hc with hc | hc
    · have hc := hword.plain c hc
      exact ⟨hc.2.2.1, hc.2.2.2.2⟩
    · have hc := plain_of_isSpace (hgap c hc)
      exact ⟨hc.2.1, hc.2.2.2⟩
  obtain rfl := eq_of_plain' hback hplain
  rcases exists_last_nonblank front' with hspace | ⟨before', y', blanks, rfl, hy', hblanks⟩
  · refine absurd (ends_iff.mpr ⟨[], front', word, gap, .inl rfl, ⟨hspace, hword, hgap⟩, ?_⟩) hends
    simp
  · obtain ⟨before, y, blanks', rfl, -, hy, hsame⟩ := forall₂_split hfront
    obtain rfl : blanks' = blanks := by
      apply eq_of_plain hsame
      intro c hc
      have hc := plain_of_isSpace (hblanks c hc)
      exact ⟨hc.1, hc.2.2.1⟩
    have hmarker : Marker blanks' word gap := ⟨hblanks, hword, hgap⟩
    refine ⟨before, y, blanks', before', y', ys, rfl, (isSpace_disguise hy).trans hy', ?_, hy',
      hmarker, ?_⟩
    · simp
    · -- a line feed among the blanks would start the line of a marker
      intro hfeed
      obtain ⟨b, b', rfl⟩ := List.append_of_mem hfeed
      refine hends (ends_iff.mpr ⟨before' ++ y' :: (b ++ ['\n']), b', word, gap,
        .inr ⟨before' ++ y' :: b, by simp⟩, ⟨?_, hword, hgap⟩, by simp⟩)
      exact fun c hc ↦ hblanks c (by simp [hc])

theorem Veiled.not_ends {text before blanks word gap rest : List Char} {y : Char}
    (h : Veiled text before y blanks word gap rest) (hne : blanks ≠ []) :
    ¬Ends rolePrefix ⟨':' :: (before ++ y :: (blanks ++ (word ++ gap))).reverse, rest⟩ := by
  intro hends
  obtain ⟨front, lead, word', gap', hfed, hmarker, heq⟩ := ends_iff.mp hends
  have heq := congrArg List.reverse heq
  simp only [List.reverse_append, List.reverse_cons, List.append_assoc, List.singleton_append]
    at heq
  -- read backwards, both roles end at the same blank
  have hrole {word rest : List Char} (hword : IsRole word) :
      ∀ c ∈ (word.reverse ++ rest).head?, isSpace c = false := by
    have hne : word.reverse ≠ [] := by simpa using hword.ne_nil
    obtain ⟨d, more, hmore⟩ := List.exists_cons_of_ne_nil hne
    have hd : d ∈ word := by
      rw [← List.mem_reverse, hmore]
      exact List.mem_cons_self
    rw [hmore]
    simpa using (hword.plain d hd).1
  obtain ⟨-, heq₁⟩ := front_unique heq (fun c hc ↦ h.marker.gap c (List.mem_reverse.mp hc))
    (fun c hc ↦ hmarker.gap c (List.mem_reverse.mp hc)) (hrole h.marker.role) (hrole hmarker.role)
  have hletters {word : List Char} (hword : IsRole word) :
      ∀ c ∈ word.reverse, (!isSpace c) = true := by
    intro c hc
    simp [(hword.plain c (List.mem_reverse.mp hc)).1]
  have hblank {blanks rest : List Char} (hblanks : AllSpace blanks) (hne : blanks ≠ []) :
      ∀ c ∈ (blanks.reverse ++ rest).head?, (!isSpace c) = false := by
    have hne' : blanks.reverse ≠ [] := by simpa using hne
    obtain ⟨d, more, hmore⟩ := List.exists_cons_of_ne_nil hne'
    have hd : d ∈ blanks := by
      rw [← List.mem_reverse, hmore]
      exact List.mem_cons_self
    rw [hmore]
    simpa using hblanks d hd
  have hfront : ∀ c ∈ (lead.reverse ++ front.reverse).head?, (!isSpace c) = false := by
    by_cases hlead : lead = []
    · rcases hfed with rfl | ⟨front, rfl⟩
      · simp [hlead]
      · simp [hlead, show isSpace '\n' = true by decide]
    · exact hblank hmarker.lead hlead
  obtain ⟨-, heq₂⟩ := front_unique heq₁ (hletters h.marker.role) (hletters hmarker.role)
    (hblank h.marker.lead hne) hfront
  have hy : y ∉ lead.reverse := by
    intro hy
    have hspace := hmarker.lead y (List.mem_reverse.mp hy)
    rw [h.not_blank] at hspace
    exact absurd hspace (by decide)
  rcases hfed with rfl | ⟨front, rfl⟩
  · apply hy
    rw [List.reverse_nil, List.append_nil] at heq₂
    simp [← heq₂]
  · rw [List.reverse_append, List.reverse_singleton, List.singleton_append] at heq₂
    rcases append_eq_append_cons heq₂ with ⟨more, hblanks, -⟩ | ⟨more, hlead, hrest⟩
    · apply h.no_feed
      rw [← List.mem_reverse, hblanks]
      simp
    · cases more with
      | nil =>
        have hy := h.not_blank
        rw [(List.cons.inj hrest).1] at hy
        exact absurd hy (by decide)
      | cons z more =>
        apply hy
        rw [hlead, (List.cons.inj hrest).1]
        simp

theorem disguised_of_veiled {text before blanks word gap rest : List Char} {y : Char}
    (h : Veiled text before y blanks word gap rest) (hne : blanks ≠ []) :
    ∃ before' y' rest', Veiled (disguised text) before' y' blanks word gap rest' := by
  obtain ⟨xs', x', rest', heq, hall, hcolon⟩ :=
    disguised_split (before ++ y :: (blanks ++ (word ++ gap))) rest ':'
  obtain rfl := hcolon.mpr ⟨rfl, h.not_ends hne⟩
  obtain ⟨before', y', back, rfl, -, hy, hback⟩ := forall₂_split hall
  have hplain : ∀ c ∈ blanks ++ (word ++ gap), c ≠ ':' ∧ c ≠ backtick := by
    intro c hc
    rw [List.mem_append, List.mem_append] at hc
    rcases hc with hc | hc | hc
    · have hc := plain_of_isSpace (h.marker.lead c hc)
      exact ⟨hc.1, hc.2.2.1⟩
    · have hc := h.marker.role.plain c hc
      exact ⟨hc.2.1, hc.2.2.2.1⟩
    · have hc := plain_of_isSpace (h.marker.gap c hc)
      exact ⟨hc.1, hc.2.2.1⟩
  obtain rfl := eq_of_plain hback hplain
  refine ⟨before', y', rest', ?_, (isSpace_disguise hy).trans h.not_blank, h.marker, h.no_feed⟩
  have htext : text = (before ++ y :: (blanks ++ (word ++ gap))) ++ ':' :: rest := by
    rw [h.text]
    simp
  rw [htext, heq]
  simp

end TextToSql.Llm
