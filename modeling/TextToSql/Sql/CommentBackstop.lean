import Mathlib.Algebra.Ring.Parity
import TextToSql.Sql.Validator

namespace TextToSql.Sql

def startsMarker : List Char → Bool
  | [] => false
  | c :: cs =>
    c == '#' || (c == '-' && cs.head? == some '-') || (c == '/' && cs.head? == some '*') ||
      (c == '*' && cs.head? == some '/')

/-- A marker stands behind an even number of single quotes, or in front of no further one. -/
def ShowsMarker (text : List Char) : Prop :=
  ∃ before rest, text = before ++ rest ∧ startsMarker rest = true ∧
    (Even (before.count quote) ∨ quote ∉ rest)

theorem hasCommentMarker_cons (c : Char) (cs : List Char) :
    hasCommentMarker (c :: cs) = (startsMarker (c :: cs) || hasCommentMarker cs) := by
  cases cs with
  | nil => simp [hasCommentMarker, startsMarker]
  | cons d cs => simp [hasCommentMarker, startsMarker]

theorem startsMarker_congr {c : Char} {cs ds : List Char} (h : cs.head? = ds.head?) :
    startsMarker (c :: cs) = startsMarker (c :: ds) := by
  rw [startsMarker, startsMarker, h]

theorem startsMarker_quote (cs : List Char) : startsMarker (quote :: cs) = false := by
  simp [startsMarker, quote]

theorem closeLiteral_eq_none {cs : List Char} : closeLiteral cs = none ↔ quote ∉ cs := by
  fun_induction closeLiteral cs with
  | case1 => simp
  | case2 => simp
  | case3 c hc => simp [Ne.symm hc]
  | case4 cs ih => simp
  | case5 d cs hd => simp
  | case6 c d cs hc ih =>
    rw [ih, List.mem_cons, List.mem_cons (b := c), not_or]
    simp [Ne.symm hc]

/-- The body of a literal: its quotes are doubled, so that no marker stands behind an odd number of
them. -/
structure LiteralBody (body after : List Char) : Prop where
  even_quotes : Even (body.count quote)
  even_before : ∀ front back, body = front ++ back → startsMarker (back ++ after) = true →
    Even (front.count quote)

theorem LiteralBody.nil (after : List Char) : LiteralBody [] after where
  even_quotes := ⟨0, rfl⟩
  even_before front back h _ := by
    rw [(List.append_eq_nil_iff.mp h.symm).1]
    exact ⟨0, rfl⟩

theorem LiteralBody.cons {c : Char} {body after : List Char} (hc : c ≠ quote)
    (h : LiteralBody body after) : LiteralBody (c :: body) after where
  even_quotes := by
    rw [List.count_cons_of_ne hc]
    exact h.even_quotes
  even_before front back heq hmarker := by
    cases front with
    | nil => exact ⟨0, rfl⟩
    | cons d front =>
      obtain ⟨rfl, heq'⟩ := List.cons.inj heq
      rw [List.count_cons_of_ne hc]
      exact h.even_before front back heq' hmarker

theorem LiteralBody.double {body after : List Char} (h : LiteralBody body after) :
    LiteralBody (quote :: quote :: body) after where
  even_quotes := by
    rw [List.count_cons_self, List.count_cons_self, Nat.add_assoc]
    exact h.even_quotes.add ⟨1, rfl⟩
  even_before front back heq hmarker := by
    match front with
    | [] => exact ⟨0, rfl⟩
    | [d] =>
      -- between the two quotes of a pair stands a quote
      have hback : quote :: body = back := (List.cons.inj heq).2
      rw [← hback, List.cons_append, startsMarker_quote] at hmarker
      cases hmarker
    | d :: e :: front =>
      obtain ⟨hd, htail⟩ := List.cons.inj heq
      obtain ⟨he, hbody⟩ := List.cons.inj htail
      rw [← hd, ← he, List.count_cons_self, List.count_cons_self, Nat.add_assoc]
      exact (h.even_before front back hbody hmarker).add ⟨1, rfl⟩

theorem closeLiteral_eq_some {cs rest : List Char} (h : closeLiteral cs = some rest) :
    ∃ body, cs = body ++ quote :: rest ∧ LiteralBody body (quote :: rest) := by
  fun_induction closeLiteral cs generalizing rest with
  | case1 => cases h
  | case2 =>
    cases h
    exact ⟨[], rfl, .nil _⟩
  | case3 => cases h
  | case4 cs ih =>
    cases hclose : closeLiteral cs with
    | none =>
      rw [hclose] at h
      cases h
      exact ⟨[], rfl, .nil _⟩
    | some rest' =>
      rw [hclose] at h
      cases h
      obtain ⟨body, heq, hbody⟩ := ih hclose
      exact ⟨quote :: quote :: body, by rw [heq]; rfl, hbody.double⟩
  | case5 d cs hd =>
    cases h
    exact ⟨[], rfl, .nil _⟩
  | case6 c d cs hc ih =>
    obtain ⟨body, heq, hbody⟩ := ih h
    exact ⟨c :: body, by rw [heq]; rfl, hbody.cons hc⟩

theorem showsMarker_nil : ¬ShowsMarker [] := by
  rintro ⟨before, rest, heq, hmarker, -⟩
  rw [(List.append_eq_nil_iff.mp heq.symm).2] at hmarker
  cases hmarker

theorem showsMarker_cons {c : Char} (hc : c ≠ quote) (cs : List Char) :
    ShowsMarker (c :: cs) ↔ startsMarker (c :: cs) = true ∨ ShowsMarker cs := by
  constructor
  · rintro ⟨before, rest, heq, hmarker, hquotes⟩
    cases before with
    | nil =>
      rw [List.nil_append] at heq
      exact .inl (heq ▸ hmarker)
    | cons d before =>
      obtain ⟨rfl, heq'⟩ := List.cons.inj heq
      rw [List.count_cons_of_ne hc] at hquotes
      exact .inr ⟨before, rest, heq', hmarker, hquotes⟩
  · rintro (hmarker | ⟨before, rest, rfl, hmarker, hquotes⟩)
    · exact ⟨[], c :: cs, rfl, hmarker, .inl ⟨0, rfl⟩⟩
    · refine ⟨c :: before, rest, rfl, hmarker, ?_⟩
      rwa [List.count_cons_of_ne hc]

theorem showsMarker_literal {cs rest : List Char} (h : closeLiteral cs = some rest) :
    ShowsMarker (quote :: cs) ↔ ShowsMarker rest := by
  obtain ⟨body, rfl, hbody⟩ := closeLiteral_eq_some h
  have hcount (front : List Char) : Even ((quote :: (body ++ quote :: front)).count quote) ↔
      Even (front.count quote) := by
    rw [List.count_cons_self, List.count_append, List.count_cons_self]
    have heven := hbody.even_quotes
    grind
  constructor
  · rintro ⟨before, rest', heq, hmarker, hquotes⟩
    cases before with
    | nil =>
      rw [List.nil_append] at heq
      rw [← heq, startsMarker_quote] at hmarker
      cases hmarker
    | cons d before =>
      obtain ⟨rfl, htail⟩ := List.cons.inj heq
      rcases List.append_eq_append_iff.mp htail with ⟨middle, hbefore, hrest⟩ | ⟨back, hfront, hrest⟩
      · cases middle with
        | nil =>
          rw [List.nil_append] at hrest
          rw [← hrest, startsMarker_quote] at hmarker
          cases hmarker
        | cons e middle =>
          obtain ⟨rfl, hrest'⟩ := List.cons.inj hrest
          rw [hbefore, hcount] at hquotes
          exact ⟨middle, rest', hrest', hmarker, hquotes⟩
      · -- inside the literal, where the quotes before are odd and the closing one follows
        rw [hrest] at hmarker
        have heven := hbody.even_before before back hfront hmarker
        rcases hquotes with hquotes | hquotes
        · rw [List.count_cons_self] at hquotes
          grind
        · exact absurd (hrest ▸ by simp) hquotes
  · rintro ⟨before, rest', rfl, hmarker, hquotes⟩
    refine ⟨quote :: (body ++ quote :: before), rest', by simp, hmarker, ?_⟩
    rwa [hcount]

theorem showsMarker_open {cs : List Char} (h : quote ∉ cs) :
    ShowsMarker (quote :: cs) ↔ ShowsMarker cs := by
  constructor
  · rintro ⟨before, rest, heq, hmarker, -⟩
    cases before with
    | nil =>
      rw [List.nil_append] at heq
      rw [← heq, startsMarker_quote] at hmarker
      cases hmarker
    | cons d before =>
      obtain ⟨rfl, rfl⟩ := List.cons.inj heq
      exact ⟨before, rest, rfl, hmarker, .inr fun hmem ↦ h (List.mem_append_right _ hmem)⟩
  · rintro ⟨before, rest, rfl, hmarker, -⟩
    exact ⟨quote :: before, rest, rfl, hmarker, .inr fun hmem ↦ h (List.mem_append_right _ hmem)⟩

theorem head?_stripLiterals (fuel : ℕ) (cs : List Char) :
    (stripLiterals fuel cs).head? = cs.head? := by
  cases fuel with
  | zero => rfl
  | succ fuel =>
    cases cs with
    | nil => rfl
    | cons c cs =>
      rw [stripLiterals]
      split
      · rename_i hc
        rw [hc]
        split <;> rfl
      · rfl

theorem hasCommentMarker_stripLiterals (fuel : ℕ) (cs : List Char) (hfuel : cs.length ≤ fuel) :
    hasCommentMarker (stripLiterals fuel cs) = true ↔ ShowsMarker cs := by
  induction fuel generalizing cs with
  | zero =>
    rw [List.eq_nil_of_length_eq_zero (Nat.le_zero.mp hfuel)]
    exact iff_of_false Bool.false_ne_true showsMarker_nil
  | succ fuel ih =>
    cases cs with
    | nil => exact iff_of_false Bool.false_ne_true showsMarker_nil
    | cons c cs =>
      have hlength : cs.length ≤ fuel := Nat.le_of_succ_le_succ hfuel
      rw [stripLiterals]
      by_cases hc : c = quote
      · rw [if_pos hc, hc]
        cases hclose : closeLiteral cs with
        | none =>
          rw [showsMarker_open (closeLiteral_eq_none.mp hclose), ← ih cs hlength,
            hasCommentMarker_cons, startsMarker_quote, Bool.false_or]
        | some rest =>
          have hrest : rest.length ≤ fuel := by
            obtain ⟨body, rfl, -⟩ := closeLiteral_eq_some hclose
            rw [List.length_append, List.length_cons] at hlength
            omega
          rw [showsMarker_literal hclose, ← ih rest hrest, hasCommentMarker_cons,
            hasCommentMarker_cons, startsMarker_quote, startsMarker_quote, Bool.false_or,
            Bool.false_or]
      · rw [if_neg hc, showsMarker_cons hc, ← ih cs hlength, hasCommentMarker_cons,
          Bool.or_eq_true, startsMarker_congr (head?_stripLiterals fuel cs)]

theorem mem_commentBackstop {sql : String} :
    commentPresent ∈ commentBackstop sql ↔ ShowsMarker sql.toList := by
  rw [← hasCommentMarker_stripLiterals sql.length sql.toList String.length_toList.le,
    commentBackstop]
  split
  · rename_i h
    exact iff_of_true List.mem_cons_self h
  · rename_i h
    exact iff_of_false List.not_mem_nil h

inductive ScanMode where
  | plain | literal | identifier
  deriving DecidableEq

/-- Where a scan meets its first comment: what it has read, how many of the single quotes among that
stand in quoted identifiers, and the rest, which starts with the comment. -/
structure FirstComment where
  before : List Char
  identifierQuotes : ℕ
  rest : List Char

def FirstComment.after (read : List Char) (identifierQuotes : ℕ) (found : FirstComment) :
    FirstComment where
  before := read ++ found.before
  identifierQuotes := identifierQuotes + found.identifierQuotes
  rest := found.rest

def startsComment : List Char → Bool
  | c :: d :: _ => (c == '-' && d == '-') || (c == '/' && d == '*')
  | _ => false

/-- The first comment that a scan of the text meets outside literals and quoted identifiers. -/
def firstComment : ScanMode → List Char → Option FirstComment
  | _, [] => none
  | .plain, c :: cs =>
    if startsComment (c :: cs) then some ⟨[], 0, c :: cs⟩
    else if c = quote then (firstComment .literal cs).map (.after [c] 0)
    else if c = '"' then (firstComment .identifier cs).map (.after [c] 0)
    else (firstComment .plain cs).map (.after [c] 0)
  | .literal, [_] => none
  | .literal, c :: d :: cs =>
    if c = quote then
      if d = quote then (firstComment .literal cs).map (.after [c, d] 0)
      else (firstComment .plain (d :: cs)).map (.after [c] 0)
    else (firstComment .literal (d :: cs)).map (.after [c] 0)
  | .identifier, [_] => none
  | .identifier, c :: d :: cs =>
    if c = '"' then
      if d = '"' then (firstComment .identifier cs).map (.after [c, d] 0)
      else (firstComment .plain (d :: cs)).map (.after [c] 0)
    else (firstComment .identifier (d :: cs)).map (.after [c] (if c = quote then 1 else 0))

/-- The single quotes before a comment are those of the literals and those in the identifiers. -/
structure FirstComment.Sound (mode : ScanMode) (text : List Char) (found : FirstComment) :
    Prop where
  text_eq : text = found.before ++ found.rest
  starts : startsComment found.rest = true
  quotes : Even (found.before.count quote + (if mode = .literal then 1 else 0)) ↔
    Even found.identifierQuotes

theorem FirstComment.sound_after {mode mode' : ScanMode} {read text whole : List Char} {n : ℕ}
    {found : FirstComment} (h : (firstComment mode text).map (.after read n) = some found)
    (ih : ∀ {found}, firstComment mode text = some found → found.Sound mode text)
    (hwhole : whole = read ++ text)
    (hquotes : Even (read.count quote + n + (if mode = .literal then 1 else 0) +
      (if mode' = .literal then 1 else 0))) :
    found.Sound mode' whole := by
  obtain ⟨later, hlater, rfl⟩ := Option.map_eq_some_iff.mp h
  have hsound := ih hlater
  refine ⟨?_, hsound.starts, ?_⟩
  · rw [hwhole, FirstComment.after, hsound.text_eq, List.append_assoc]
  · have hq := hsound.quotes
    simp only [FirstComment.after, List.count_append]
    grind

theorem firstComment_sound {mode : ScanMode} {text : List Char} {found : FirstComment}
    (h : firstComment mode text = some found) : found.Sound mode text := by
  fun_induction firstComment mode text generalizing found with
  | case1 => cases h
  | case2 c cs hstarts =>
    cases h
    exact ⟨rfl, hstarts, by simp⟩
  | case3 cs hstarts ih => exact FirstComment.sound_after h ih rfl (by decide)
  | case4 cs hstarts hc ih => exact FirstComment.sound_after h ih rfl (by decide)
  | case5 c cs hstarts hc hc' ih => exact FirstComment.sound_after h ih rfl (by simp [hc])
  | case6 => cases h
  | case7 cs ih => exact FirstComment.sound_after h ih rfl (by decide)
  | case8 d cs hd ih => exact FirstComment.sound_after h ih rfl (by decide)
  | case9 c d cs hc ih => exact FirstComment.sound_after h ih rfl (by simp [hc])
  | case10 => cases h
  | case11 cs ih => exact FirstComment.sound_after h ih rfl (by decide)
  | case12 d cs hd ih => exact FirstComment.sound_after h ih rfl (by decide)
  | case13 c d cs hc ih =>
    refine FirstComment.sound_after h ih rfl ?_
    by_cases hq : c = quote
    · simp [hq]
    · simp [hq]

theorem startsMarker_of_startsComment {cs : List Char} (h : startsComment cs = true) :
    startsMarker cs = true := by
  match cs, h with
  | c :: d :: cs, h =>
    rw [startsComment, Bool.or_eq_true] at h
    simp only [startsMarker, List.head?_cons, Bool.or_eq_true]
    rcases h with h | h
    · simp_all
    · simp_all

theorem FirstComment.Sound.even_iff {text : List Char} {found : FirstComment}
    (h : found.Sound .plain text) :
    Even (found.before.count quote) ↔ Even found.identifierQuotes := by
  have hq := h.quotes
  rwa [if_neg (by decide), Nat.add_zero] at hq

def FirstComment.AnotherShows (found : FirstComment) (text : List Char) : Prop :=
  ∃ before rest, text = before ++ rest ∧ before ≠ found.before ∧ startsMarker rest = true ∧
    (Even (before.count quote) ∨ quote ∉ rest)

theorem FirstComment.Sound.shows_iff {text : List Char} {found : FirstComment}
    (h : found.Sound .plain text) : ShowsMarker text ↔
      Even found.identifierQuotes ∨ quote ∉ found.rest ∨ found.AnotherShows text := by
  rw [← h.even_iff]
  constructor
  · rintro ⟨before, rest, heq, hmarker, hquotes⟩
    by_cases hbefore : before = found.before
    · subst hbefore
      have hrest := List.append_cancel_left (heq.symm.trans h.text_eq)
      subst hrest
      rcases hquotes with heven | hlast
      · exact .inl heven
      · exact .inr (.inl hlast)
    · exact .inr (.inr ⟨before, rest, heq, hbefore, hmarker, hquotes⟩)
  · have hmarker := startsMarker_of_startsComment h.starts
    rintro (heven | hlast | ⟨before, rest, heq, -, hmarker', hquotes⟩)
    · exact ⟨found.before, found.rest, h.text_eq, hmarker, .inl heven⟩
    · exact ⟨found.before, found.rest, h.text_eq, hmarker, .inr hlast⟩
    · exact ⟨before, rest, heq, hmarker', hquotes⟩

/-- The backstop adds its finding when a scan of the text meets a comment. -/
def CommentCaught (sql : String) : Prop :=
  (firstComment .plain sql.toList).isSome = true → commentPresent ∈ commentBackstop sql

theorem commentCaught_iff (sql : String) :
    CommentCaught sql ↔ ∀ found, firstComment .plain sql.toList = some found →
      Even found.identifierQuotes ∨ quote ∉ found.rest ∨ found.AnotherShows sql.toList := by
  rw [CommentCaught, mem_commentBackstop, Option.isSome_iff_exists]
  constructor
  · intro h found hfound
    exact (firstComment_sound hfound).shows_iff.mp (h ⟨found, hfound⟩)
  · rintro h ⟨found, hfound⟩
    exact (firstComment_sound hfound).shows_iff.mpr (h found hfound)

theorem comment_missed : ¬CommentCaught "SELECT 1 AS \"a'b\" -- it's" := by
  intro h
  have hcaught := h (by decide +kernel)
  revert hcaught
  rw [commentBackstop, if_neg (by decide +kernel)]
  exact List.not_mem_nil

end TextToSql.Sql
