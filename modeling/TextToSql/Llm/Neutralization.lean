import TextToSql.Domain.LineBreaks
import TextToSql.Llm.RoleMarkers

namespace TextToSql.Llm

open Domain Library.Backtracking

def BeginsWithRole (line : List Char) : Prop :=
  ∃ blanks word gap rest, Marker blanks word gap ∧
    line = blanks ++ (word ++ (gap ++ ':' :: rest))

/-- What a sanitized text promises. -/
structure Neutralized (singleLine : Bool) (out : String) : Prop where
  no_fence : ¬fence <:+: out.toList
  no_control : ∀ c ∈ out.toList, c.toNat < 0x20 → c = '\t' ∨ c = '\n' ∨ c = '\r'
  no_role : ∀ line ∈ splitLines out.toList, ¬BeginsWithRole line
  one_line : singleLine = true → (splitLines out.toList).length ≤ 1
  idempotent : sanitizeUntrusted out singleLine = out

def isBlank (c : Char) : Bool := isSpace c || isControl c

def keepsBreak (c : Char) : Bool := isLineBreak c && !isControl c

/-- A role and a colon begin a line of the text, but what separates them from the text before them
are line breaks other than line feeds. -/
def HidesRole (text : List Char) : Prop :=
  ∃ before y blanks word gap rest, text = before ++ y :: (blanks ++ (word ++ (gap ++ ':' :: rest))) ∧
    isBlank y = false ∧ (∀ c ∈ blanks, isBlank c = true) ∧ IsRole word ∧
    (∀ c ∈ gap, isBlank c = true) ∧ '\n' ∉ blanks ∧ (∃ c ∈ blanks, keepsBreak c = true) ∧
    ∀ c ∈ gap, keepsBreak c = false

theorem replaceFences_head {text rest : List Char}
    (h : replaceFences text = backtick :: backtick :: rest) :
    ∃ rest', text = backtick :: backtick :: rest' := by
  have hall := replaceFences_forall₂ text
  rw [h] at hall
  obtain ⟨a, text, ha, htail, rfl⟩ := List.forall₂_cons_right_iff.mp hall
  obtain ⟨b, text, hb, -, rfl⟩ := List.forall₂_cons_right_iff.mp htail
  have hkept {a : Char} (h : backtick = a ∨ a = backtick ∧ backtick = accent) : a = backtick := by
    rcases h with h | ⟨-, h⟩
    · exact h.symm
    · exact absurd h (by decide)
  exact ⟨text, by rw [hkept ha, hkept hb]⟩

theorem not_fence_replaceFences (text : List Char) : ¬fence <:+: replaceFences text := by
  fun_induction replaceFences text with
  | case1 a b c rest h ih =>
    have haccent (out : List Char) (hout : ¬fence <:+: out) : ¬fence <:+: accent :: out := by
      rw [List.infix_cons_iff, not_or]
      refine ⟨?_, hout⟩
      rintro ⟨back, hback⟩
      exact absurd (List.cons.inj hback).1 (by decide)
    exact haccent _ (haccent _ (haccent _ ih))
  | case2 a b c rest h ih =>
    rw [List.infix_cons_iff, not_or]
    refine ⟨?_, ih⟩
    rintro ⟨back, hback⟩
    obtain ⟨ha, htail⟩ := List.cons.inj hback
    obtain ⟨rest', hrest⟩ := replaceFences_head htail.symm
    obtain ⟨hb, htail⟩ := List.cons.inj hrest
    exact h ⟨ha.symm, hb, (List.cons.inj htail).1⟩
  | case3 rest h =>
    rintro ⟨front, back, rfl⟩
    cases front with
    | nil => exact h _ _ _ _ rfl
    | cons x front =>
      cases front with
      | nil => exact h _ _ _ _ rfl
      | cons y front =>
        cases front with
        | nil => exact h _ _ _ _ rfl
        | cons z front => exact h _ _ _ _ rfl

theorem replaceFences_of_not_fence {text : List Char} (h : ¬fence <:+: text) :
    replaceFences text = text := by
  fun_induction replaceFences text with
  | case1 a b c rest hfence ih =>
    obtain ⟨rfl, rfl, rfl⟩ := hfence
    exact absurd ⟨[], rest, rfl⟩ h
  | case2 a b c rest hfence ih =>
    rw [ih fun htail ↦ h (htail.trans (List.suffix_cons a _).isInfix)]
  | case3 rest _ => rfl

def Clean (text : List Char) : Prop := ∀ c ∈ text, isControl c = false

theorem clean_stripControl (text : List Char) : Clean (stripControl text) := by
  intro c hc
  obtain ⟨d, -, rfl⟩ := List.mem_map.mp hc
  split
  · decide
  · rename_i hd
    simpa using hd

theorem Clean.stripControl_eq {text : List Char} (h : Clean text) : stripControl text = text := by
  rw [stripControl, List.map_congr_left (g := id), List.map_id]
  intro c hc
  rw [h c hc]
  rfl

theorem Clean.disguised {text : List Char} (h : Clean text) : Clean (disguised text) := by
  intro c hc
  obtain ⟨i, hi, rfl⟩ := List.mem_iff_getElem.mp hc
  have hall := disguised_forall₂ text
  have hi' : i < text.length := by rw [← length_disguised]; exact hi
  rcases hall.get hi' hi with heq | ⟨-, heq⟩ | ⟨-, heq⟩
  · rw [List.get_eq_getElem, List.get_eq_getElem] at heq
    rw [heq]
    exact h _ (List.getElem_mem hi')
  · rw [List.get_eq_getElem] at heq
    rw [heq]
    decide
  · rw [List.get_eq_getElem] at heq
    rw [heq]
    decide

theorem Clean.collapse {text : List Char} (h : Clean text) : Clean (collapse text) := by
  intro c hc
  rcases mem_collapse hc with rfl | ⟨hc, -⟩
  · decide
  · exact h c hc

theorem trimBy_isInfix (p : Char → Bool) (text : List Char) : trimBy p text <:+: text := by
  obtain ⟨lead, trail, htext, -, -⟩ := exists_trimBy p text
  exact ⟨lead, trail, by rw [List.append_assoc, ← htext]⟩

theorem isControl_eq_false {c : Char} (h : isControl c = false) (hc : c.toNat < 0x20) :
    c = '\t' ∨ c = '\n' ∨ c = '\r' := by
  simp only [isControl, Bool.or_eq_false_iff, Bool.and_eq_false_iff, decide_eq_false_iff_not,
    beq_eq_false_iff_ne] at h
  have h : c.toNat = 0x09 ∨ c.toNat = 0x0a ∨ c.toNat = 0x0d := by omega
  rcases h with h | h | h
  · exact .inl (Char.toNat_inj.mp h)
  · exact .inr (.inl (Char.toNat_inj.mp h))
  · exact .inr (.inr (Char.toNat_inj.mp h))

def dropControl (c : Char) : Char := if isControl c then ' ' else c

theorem isSpace_dropControl (c : Char) : isSpace (dropControl c) = isBlank c := by
  rw [dropControl, isBlank]
  split
  · rename_i hc
    simp [hc, show isSpace ' ' = true by decide]
  · rename_i hc
    simp [hc]

theorem isLineBreak_dropControl (c : Char) : isLineBreak (dropControl c) = keepsBreak c := by
  rw [dropControl, keepsBreak]
  split
  · rename_i hc
    simp [hc, show isLineBreak ' ' = false by decide]
  · rename_i hc
    simp [hc]

theorem dropControl_eq_feed {c : Char} : dropControl c = '\n' ↔ c = '\n' := by
  constructor
  · intro h
    rw [dropControl] at h
    split at h
    · exact absurd h (by decide)
    · exact h
  · rintro rfl
    decide

theorem dropControl_of_not_isSpace {c : Char} (h : isSpace (dropControl c) = false) :
    dropControl c = c := by
  rw [dropControl] at h ⊢
  split at h
  · exact absurd h (by decide)
  · rename_i hc
    rw [if_neg hc]

theorem not_isControl_of_caseless {letter c : Char} (hletter : letter.isAlpha)
    (h : caseless letter c = true) : isControl c = false := by
  simp only [caseless, Bool.or_eq_true, Bool.and_eq_true, beq_iff_eq] at h
  rcases h with (h | ⟨-, rfl⟩) | ⟨-, rfl | rfl⟩
  · have halpha : c.isAlpha = true := by rw [← Char.isAlpha_toLower_eq_isAlpha, h, hletter]
    simp [Char.isAlpha, Char.isUpper, Char.isLower, UInt32.le_iff_toNat_le] at halpha
    simp [isControl]
    omega
  · decide
  · decide
  · decide

theorem IsRole.stripControl_eq {word : List Char} (h : IsRole word) : stripControl word = word := by
  apply Clean.stripControl_eq
  obtain ⟨name, hname, hall⟩ := h
  intro c hc
  obtain ⟨i, hi, rfl⟩ := List.mem_iff_getElem.mp hc
  have hlength := hall.length_eq
  exact not_isControl_of_caseless ((roleNames_alpha name hname).2 _ (List.getElem_mem (by omega)))
    (hall.get (by omega) hi)

theorem hidesRole_iff {text : List Char} :
    HidesRole text ↔ ∃ before y blanks word gap rest,
      Veiled (stripControl text) before y blanks word gap rest ∧ ¬Unbroken blanks ∧
        Unbroken gap := by
  constructor
  · rintro ⟨before, y, blanks, word, gap, rest, rfl, hy, hblanks, hword, hgap, hfeed, ⟨b, hb, hbreak⟩,
      hunbroken⟩
    refine ⟨stripControl before, dropControl y, stripControl blanks, word, stripControl gap,
      stripControl rest, ⟨?_, ?_, ⟨?_, hword, ?_⟩, ?_⟩, ?_, ?_⟩
    · have hw := hword.stripControl_eq
      rw [stripControl] at hw
      simp [stripControl, dropControl, hw, show isControl ':' = false by decide]
    · rw [isSpace_dropControl, hy]
    · intro c hc
      obtain ⟨d, hd, rfl⟩ := List.mem_map.mp hc
      exact (isSpace_dropControl d).trans (hblanks d hd)
    · intro c hc
      obtain ⟨d, hd, rfl⟩ := List.mem_map.mp hc
      exact (isSpace_dropControl d).trans (hgap d hd)
    · intro hc
      obtain ⟨d, hd, heq⟩ := List.mem_map.mp hc
      exact hfeed (dropControl_eq_feed.mp heq ▸ hd)
    · intro h
      have := h (dropControl b) (List.mem_map_of_mem hb)
      rw [isLineBreak_dropControl, hbreak] at this
      cases this
    · intro c hc
      obtain ⟨d, hd, rfl⟩ := List.mem_map.mp hc
      exact (isLineBreak_dropControl d).trans (hunbroken d hd)
  · rintro ⟨before', y', blanks', word', gap', rest', h, hbroken, hunbroken⟩
    obtain ⟨before, tail₁, rfl, rfl, h₁⟩ := List.map_eq_append_iff.mp h.text
    obtain ⟨y, tail₂, rfl, rfl, h₂⟩ := List.map_eq_cons_iff.mp h₁
    obtain ⟨blanks, tail₃, rfl, rfl, h₃⟩ := List.map_eq_append_iff.mp h₂
    obtain ⟨word, tail₄, rfl, hword, h₄⟩ := List.map_eq_append_iff.mp h₃
    obtain ⟨gap, tail₅, rfl, rfl, h₅⟩ := List.map_eq_append_iff.mp h₄
    obtain ⟨x, rest, rfl, hx, rfl⟩ := List.map_eq_cons_iff.mp h₅
    have hspace {text : List Char} (htext : AllSpace (text.map dropControl)) :
        ∀ c ∈ text, isBlank c = true := by
      intro c hc
      rw [← isSpace_dropControl]
      exact htext _ (List.mem_map_of_mem hc)
    have hx' : isSpace (dropControl x) = false := by
      rw [show dropControl x = ':' from hx]
      decide
    obtain rfl : x = ':' := (dropControl_of_not_isSpace hx').symm.trans hx
    have hsame : word = word' := by
      rw [← hword, List.map_congr_left (g := id), List.map_id]
      intro c hc
      have hplain := h.marker.role.plain (dropControl c) (hword ▸ List.mem_map_of_mem hc)
      exact dropControl_of_not_isSpace hplain.1
    subst hsame
    refine ⟨before, y, blanks, word, gap, rest, rfl, ?_, hspace h.marker.lead, h.marker.role,
      hspace h.marker.gap, ?_, ?_, ?_⟩
    · rw [← isSpace_dropControl]
      exact h.not_blank
    · intro hfeed
      exact h.no_feed (List.mem_map.mpr ⟨_, hfeed, dropControl_eq_feed.mpr rfl⟩)
    · by_contra hnone
      apply hbroken
      intro c hc
      obtain ⟨d, hd, rfl⟩ := List.mem_map.mp hc
      rw [← Bool.not_eq_true]
      intro hbreak
      exact hnone ⟨d, hd, (isLineBreak_dropControl d).symm.trans hbreak⟩
    · intro c hc
      rw [← isLineBreak_dropControl]
      exact hunbroken _ (List.mem_map_of_mem hc)

theorem words_starting {word : List Char} (h : IsWord word) (rest : List Char) :
    ∃ more others, words (word ++ rest) = (word ++ more) :: others := by
  have hsplit := List.takeWhile_append_dropWhile (p := fun c ↦ !isSpace c) (l := rest)
  have hword : IsWord (word ++ rest.takeWhile fun c ↦ !isSpace c) := by
    refine ⟨List.append_ne_nil_of_left_ne_nil h.ne_nil _, ?_⟩
    intro c hc
    rcases List.mem_append.mp hc with hc | hc
    · exact h.not_isSpace c hc
    · simpa using List.mem_takeWhile_imp hc
  have hwords := hword.words_append (breaks_dropWhile rest)
  rw [List.append_assoc, hsplit] at hwords
  exact ⟨_, _, hwords⟩

theorem IsRole.isWord {word : List Char} (h : IsRole word) : IsWord word :=
  ⟨h.ne_nil, fun c hc ↦ (h.plain c hc).1⟩

theorem beginsWithRole_iff {text : List Char} :
    BeginsWithRole text ↔ ∃ word more others, IsRole word ∧
      (words text = (word ++ ':' :: more) :: others ∨
        words text = word :: (':' :: more) :: others) := by
  constructor
  · rintro ⟨blanks, word, gap, rest, hmarker, rfl⟩
    rw [words_append_left hmarker.lead]
    have hword := hmarker.role.isWord
    cases gap with
    | nil =>
      have hcolon : IsWord (word ++ [':']) := by
        refine ⟨by simp, ?_⟩
        intro c hc
        rcases List.mem_append.mp hc with hc | hc
        · exact hword.not_isSpace c hc
        · rw [List.mem_singleton.mp hc]
          decide
      obtain ⟨more, others, hwords⟩ := words_starting hcolon rest
      refine ⟨word, more, others, hmarker.role, .inl ?_⟩
      simpa using hwords
    | cons s gap =>
      have hcolon : IsWord [':'] := ⟨by simp, by simp [show isSpace ':' = false by decide]⟩
      obtain ⟨more, others, hwords⟩ := words_starting hcolon rest
      have hbreaks : Breaks (s :: gap ++ ':' :: rest) := by
        simpa [Breaks] using hmarker.gap s List.mem_cons_self
      refine ⟨word, more, others, hmarker.role, .inr ?_⟩
      rw [hword.words_append hbreaks, words_append_left hmarker.gap]
      exact congrArg (word :: ·) hwords
  · rintro ⟨word, more, others, hrole, hwords | hwords⟩
    · obtain ⟨lead, rest, rfl, hlead, -, -⟩ := words_eq_cons hwords
      refine ⟨lead, word, [], more ++ rest, ⟨hlead, hrole, by simp [AllSpace]⟩, by simp⟩
    · obtain ⟨lead, rest, rfl, hlead, -, hrest⟩ := words_eq_cons hwords
      obtain ⟨gap, rest, rfl, hgap, -, -⟩ := words_eq_cons hrest
      exact ⟨lead, word, gap, more ++ rest, ⟨hlead, hrole, hgap⟩, by simp⟩

theorem not_beginsWithRole_disguised (text : List Char) : ¬BeginsWithRole (disguised text) := by
  rintro ⟨blanks, word, gap, rest, hmarker, heq⟩
  obtain ⟨before, y, blanks', -, -, -, rfl, hy, -⟩ := veiled_of_disguised hmarker.role hmarker.gap heq
  rw [hmarker.lead y (by simp)] at hy
  cases hy

theorem beginsWithRole_congr {text text' : List Char} (h : words text = words text') :
    BeginsWithRole text ↔ BeginsWithRole text' := by
  rw [beginsWithRole_iff, beginsWithRole_iff, h]

theorem neutralizeRoles_of_no_marker {text : List Char}
    (h : ∀ front lead word gap rest, Fed front → Marker lead word gap →
      text ≠ front ++ (lead ++ (word ++ (gap ++ ':' :: rest)))) : neutralizeRoles text = text := by
  have hnone := @marked_of_not_ends _ _ rolePrefix withRatio [] text [] ?_
  · rw [neutralizeRoles_eq]
    simpa [marked] using hnone
  · intro e htext _ _ hends
    obtain ⟨c, hmatch⟩ := hends
    obtain ⟨-, lead, word, gap, -, hreads⟩ := match_iff.mp hmatch
    have hbefore : e.before = ':' :: ((e.before.drop 1).reverse).reverse := by
      rw [hreads.before]
      simp
    have he : e = ⟨':' :: ((e.before.drop 1).reverse).reverse, e.after⟩ := Cursor.ext hbefore rfl
    have hends : Ends rolePrefix ⟨':' :: ((e.before.drop 1).reverse).reverse, e.after⟩ := by
      rw [← he]
      exact ⟨c, hmatch⟩
    obtain ⟨front, lead, word, gap, hfed, hmarker, heq⟩ := ends_iff.mp hends
    apply h front lead word gap e.after hfed hmarker
    have htext : e.before.reverse ++ e.after = text := by simpa [Cursor.text] using htext
    rw [← htext, hbefore, List.reverse_cons, List.reverse_reverse, heq]
    simp

theorem toList_sanitizeUntrusted (text : String) (singleLine : Bool) :
    (sanitizeUntrusted text singleLine).toList =
      trimBy isSpace (if singleLine then collapse (disguised (stripControl text.toList))
        else disguised (stripControl text.toList)) := by
  simp [sanitizeUntrusted, disguised]

theorem mem_of_append_eq {p : Char → Prop} (hp : ∀ c, p c → isSpace c = true)
    {lead front blanks before after : List Char} {y : Char} (hlead : AllSpace lead)
    (hfront : front = [] ∨ ∃ f b, front = f ++ [b] ∧ p b) (hblanks : AllSpace blanks)
    (hy : isSpace y = false) (h : lead ++ (front ++ blanks) = before ++ y :: after) :
    ∃ b ∈ after, p b := by
  have hnot {xs : List Char} (hxs : AllSpace xs) : y ∉ xs := by
    intro hmem
    rw [hxs y hmem] at hy
    cases hy
  rcases hfront with rfl | ⟨f, b, rfl, hb⟩
  · refine absurd ?_ (hnot (hlead.append hblanks))
    have h : lead ++ blanks = before ++ y :: after := h
    simp [h]
  · have h : before ++ y :: after = (lead ++ f) ++ b :: blanks := by
      rw [← h]
      simp
    rcases append_eq_append_cons h with ⟨more, -, hback⟩ | ⟨more, -, hback⟩
    · refine absurd ?_ (hnot hblanks)
      simp [hback]
    · cases more with
      | nil =>
        rw [(List.cons.inj hback).1, hp b hb] at hy
        cases hy
      | cons z more =>
        obtain ⟨-, rfl⟩ := List.cons.inj hback
        exact ⟨b, by simp, hb⟩

section Lines

variable {text out : List Char} (hout : out = trimBy isSpace (disguised (stripControl text)))

include hout

theorem hidesRole_of_line {line : List Char} (hline : line ∈ splitLines out)
    (hrole : BeginsWithRole line) : HidesRole text := by
  obtain ⟨hunbroken, front, back, heq, hstart⟩ := of_mem_splitLines hline
  obtain ⟨blanks, word, gap, rest, hmarker, rfl⟩ := hrole
  obtain ⟨lead, trail, htrim, hlead, -⟩ := exists_trimBy isSpace (disguised (stripControl text))
  rw [← hout, heq] at htrim
  have htrim : disguised (stripControl text) =
      (lead ++ (front ++ blanks)) ++ (word ++ (gap ++ ':' :: (rest ++ (back ++ trail)))) := by
    rw [htrim]
    simp
  obtain ⟨before, y, blanks', before', y', rest', hfront, hy, hveiled⟩ :=
    veiled_of_disguised hmarker.role hmarker.gap htrim
  obtain ⟨b, hb, hbreak⟩ := mem_of_append_eq (fun _ ↦ isSpace_of_isLineBreak) hlead hstart
    hmarker.lead hy hfront
  refine hidesRole_iff.mpr ⟨before', y', blanks', word, gap, rest', hveiled, ?_, ?_⟩
  · intro hall
    rw [hall b hb] at hbreak
    cases hbreak
  · exact fun c hc ↦ hunbroken c (by simp [hc])

theorem exists_line_of_hidesRole (h : HidesRole text) :
    ∃ line ∈ splitLines out, BeginsWithRole line := by
  obtain ⟨before, y, blanks, word, gap, rest, hveiled, hbroken, hunbroken⟩ := hidesRole_iff.mp h
  obtain ⟨front, b, back, rfl, hb, hback⟩ : ∃ front b back, blanks = front ++ b :: back ∧
      isLineBreak b = true ∧ Unbroken back := (exists_last isLineBreak blanks).resolve_left hbroken
  obtain ⟨before', y', rest', hveiled'⟩ := disguised_of_veiled hveiled (by simp)
  obtain ⟨lead, trail, htrim, hlead, htrail⟩ :=
    exists_trimBy isSpace (disguised (stripControl text))
  have htext := htrim.symm.trans hveiled'.text
  rw [← hout] at htext
  have hnot {c : Char} {xs : List Char} (hxs : AllSpace xs) (hc : isSpace c = false) : c ∉ xs := by
    intro hmem
    rw [hxs c hmem] at hc
    cases hc
  rcases append_eq_append_cons htext with ⟨more, hmore, -⟩ | ⟨more, -, hrest⟩
  · exact absurd (by simp [hmore]) (hnot hlead hveiled'.not_blank)
  · have hrest : out ++ trail =
        (more ++ y' :: (front ++ b :: (back ++ (word ++ gap)))) ++ ':' :: rest' := by
      rw [hrest]
      simp
    rcases append_eq_append_cons hrest with ⟨more', rfl, -⟩ | ⟨more', -, hcolon⟩
    · have hunbroken' : Unbroken (back ++ (word ++ (gap ++ [':']))) := by
        intro c hc
        rw [List.mem_append, List.mem_append, List.mem_append, List.mem_singleton] at hc
        rcases hc with hc | hc | hc | rfl
        · exact hback c hc
        · rw [← Bool.not_eq_true]
          intro hbreak
          have hspace := isSpace_of_isLineBreak hbreak
          rw [(hveiled.marker.role.plain c hc).1] at hspace
          cases hspace
        · exact hunbroken c hc
        · decide
      obtain ⟨line, hline, rest'', rfl⟩ :=
        @exists_mem_splitLines (more ++ y' :: front) _ more' b hb hunbroken' (by simp)
      have hmarker : Marker back word gap :=
        ⟨fun c hc ↦ hveiled.marker.lead c (by simp [hc]), hveiled.marker.role, hveiled.marker.gap⟩
      refine ⟨(back ++ (word ++ (gap ++ [':']))) ++ rest'', ?_, back, word, gap, rest'', hmarker,
        by simp⟩
      · have heq : (more ++ y' :: (front ++ b :: (back ++ (word ++ gap)))) ++ ':' :: more' =
            (more ++ y' :: front) ++ b :: ((back ++ (word ++ (gap ++ [':']))) ++ more') := by
          simp
        rw [heq]
        exact hline
    · exact absurd (by simp [hcolon]) (hnot htrail (show isSpace ':' = false by decide))

theorem neutralizeRoles_line : neutralizeRoles out = out := by
  apply neutralizeRoles_of_no_marker
  rintro front blanks word gap rest hfed hmarker heq
  obtain ⟨lead, trail, htrim, hlead, -⟩ := exists_trimBy isSpace (disguised (stripControl text))
  rw [← hout, heq] at htrim
  have htrim : disguised (stripControl text) =
      (lead ++ (front ++ blanks)) ++ (word ++ (gap ++ ':' :: (rest ++ trail))) := by
    rw [htrim]
    simp
  obtain ⟨before, y, blanks', before', y', rest', hfront, hy, hveiled⟩ :=
    veiled_of_disguised hmarker.role hmarker.gap htrim
  have hfed : front = [] ∨ ∃ f b, front = f ++ [b] ∧ b = '\n' := by
    rcases hfed with rfl | ⟨f, rfl⟩
    · exact .inl rfl
    · exact .inr ⟨f, '\n', rfl, rfl⟩
  obtain ⟨b, hb, rfl⟩ := mem_of_append_eq (p := (· = '\n')) (by rintro c rfl; decide) hlead hfed
    hmarker.lead hy hfront
  exact hveiled.no_feed hb

end Lines

theorem clean_sanitizeUntrusted (text : String) (singleLine : Bool) :
    Clean (sanitizeUntrusted text singleLine).toList := by
  have hclean := (clean_stripControl text.toList).disguised
  rw [toList_sanitizeUntrusted]
  intro c hc
  replace hc := (trimBy_isInfix _ _).subset hc
  cases singleLine with
  | false => exact hclean c hc
  | true => exact hclean.collapse c hc

theorem isWord_fence : IsWord fence := by
  refine ⟨by simp [fence], ?_⟩
  simp [fence, show isSpace backtick = false by decide]

theorem no_fence_sanitizeUntrusted (text : String) (singleLine : Bool) :
    ¬fence <:+: (sanitizeUntrusted text singleLine).toList := by
  have hnone := not_fence_replaceFences (neutralizeRoles (stripControl text.toList))
  rw [toList_sanitizeUntrusted]
  intro h
  replace h := h.trans (trimBy_isInfix _ _)
  cases singleLine with
  | false => exact hnone h
  | true =>
    obtain ⟨word, hword, hinside⟩ := isWord_fence.exists_mem_words h
    rw [if_pos rfl, words_collapse] at hword
    exact hnone (hinside.trans (mem_of_mem_words hword))

theorem disguised_of_sanitized {text out : List Char} (hout : Clean out) (hfence : ¬fence <:+: out)
    (hroles : neutralizeRoles out = out) (htext : stripControl out = text) :
    disguised text = out := by
  rw [← htext, hout.stripControl_eq, disguised, hroles, replaceFences_of_not_fence hfence]

theorem unbroken_collapse (text : List Char) : Unbroken (collapse text) := by
  intro c hc
  rcases mem_collapse hc with rfl | ⟨-, hc⟩
  · decide
  · rw [← Bool.not_eq_true]
    intro hbreak
    rw [isSpace_of_isLineBreak hbreak] at hc
    cases hc

section SingleLine

variable {text : String} {out : List Char} (hout : (sanitizeUntrusted text true).toList = out)

include hout

theorem words_single : words out = words (disguised (stripControl text.toList)) := by
  rw [← hout, toList_sanitizeUntrusted, if_pos rfl, words_trimBy, words_collapse]

theorem unbroken_single : Unbroken out := by
  rw [← hout, toList_sanitizeUntrusted, if_pos rfl]
  exact fun c hc ↦ unbroken_collapse _ c ((trimBy_isInfix _ _).subset hc)

theorem not_beginsWithRole_single : ¬BeginsWithRole out := by
  rw [beginsWithRole_congr (words_single hout)]
  exact not_beginsWithRole_disguised _

theorem neutralizeRoles_single : neutralizeRoles out = out := by
  apply neutralizeRoles_of_no_marker
  rintro front blanks word gap rest (rfl | ⟨front, rfl⟩) hmarker heq
  · exact not_beginsWithRole_single hout ⟨blanks, word, gap, rest, hmarker, heq⟩
  · have hbreak := unbroken_single hout '\n' (by simp [heq])
    exact absurd hbreak (by decide)

theorem not_mem_splitLines_single {line : List Char} (hline : line ∈ splitLines out) :
    ¬BeginsWithRole line := by
  by_cases hne : out = []
  · rw [hne] at hline
    cases hline
  · rw [splitLines_of_unbroken (unbroken_single hout) hne] at hline
    rw [List.mem_singleton.mp hline]
    exact not_beginsWithRole_single hout

end SingleLine

theorem idempotent_sanitizeUntrusted (text : String) (singleLine : Bool) :
    sanitizeUntrusted (sanitizeUntrusted text singleLine) singleLine =
      sanitizeUntrusted text singleLine := by
  rw [← String.toList_inj, toList_sanitizeUntrusted]
  have hclean := clean_sanitizeUntrusted text singleLine
  have hfence := no_fence_sanitizeUntrusted text singleLine
  cases singleLine with
  | false =>
    have hout := toList_sanitizeUntrusted text false
    rw [disguised_of_sanitized hclean hfence (neutralizeRoles_line hout) rfl]
    rw [hout]
    exact trimBy_idempotent _ _
  | true =>
    rw [disguised_of_sanitized hclean hfence (neutralizeRoles_single rfl) rfl]
    have hwords := @words_single text _ rfl
    rw [if_pos rfl, collapse_congr hwords]
    exact (toList_sanitizeUntrusted text true).symm

theorem not_neutralized_of_hidesRole {text : String} (h : HidesRole text.toList) :
    ¬Neutralized false (sanitizeUntrusted text false) := by
  intro hneutralized
  obtain ⟨line, hline, hrole⟩ := exists_line_of_hidesRole (toList_sanitizeUntrusted text false) h
  exact hneutralized.no_role line hline hrole

theorem neutralized_iff (text : String) (singleLine : Bool) :
    Neutralized singleLine (sanitizeUntrusted text singleLine) ↔
      singleLine = true ∨ ¬HidesRole text.toList := by
  constructor
  · intro h
    cases singleLine with
    | true => exact .inl rfl
    | false => exact .inr fun hhides ↦ not_neutralized_of_hidesRole hhides h
  · intro h
    refine ⟨no_fence_sanitizeUntrusted _ _, ?_, ?_, ?_, idempotent_sanitizeUntrusted _ _⟩
    · intro c hc hlow
      exact isControl_eq_false (clean_sanitizeUntrusted _ _ c hc) hlow
    · intro line hline hrole
      cases singleLine with
      | true => exact not_mem_splitLines_single rfl hline hrole
      | false =>
        have hnone := h.resolve_left (by decide)
        exact hnone (hidesRole_of_line (toList_sanitizeUntrusted text false) hline hrole)
    · intro hsingle
      subst hsingle
      exact length_splitLines_le (unbroken_single rfl)

/-- A carriage return hides a role. -/
theorem role_kept : ¬Neutralized false (sanitizeUntrusted "x\rsystem: y" false) := by
  apply not_neutralized_of_hidesRole
  have hrole : IsRole "system".toList := by
    refine ⟨"system", by simp [roleNames], ?_⟩
    simp [caseless]
  refine ⟨[], 'x', ['\r'], "system".toList, [], " y".toList, by simp, by decide +kernel, ?_, hrole,
    by simp, by simp, ⟨'\r', by simp, by decide +kernel⟩, by simp⟩
  simp [isBlank, isSpace]

end TextToSql.Llm
