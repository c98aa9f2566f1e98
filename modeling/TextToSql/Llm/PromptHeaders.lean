import TextToSql.Llm.Neutralization
import TextToSql.Llm.PromptFragments

namespace TextToSql.Llm

open Domain Semantic Library.Fragments

/-- No line of the text begins as a section header does. -/
def Unmarked (text : List Char) : Prop :=
  ∀ line ∈ text.splitOn '\n', ¬List.replicate 3 '=' <+: line

theorem unmarked_iff {text : List Char} :
    Unmarked text ↔ ¬List.replicate 3 '=' <+: text ∧ ¬sectionBreak <:+: text := by
  have hline := @exists_line _ _ '\n' (List.replicate 3 '=') (by decide) text
  rw [Unmarked, sectionBreak, ← not_or, ← hline]
  push Not
  rfl

theorem head_of_marks {k : ℕ} {c : Char} {text : List Char}
    (h : List.replicate (k + 1) c <+: text) : text.head? = some c := by
  obtain ⟨rest, rfl⟩ := h
  rfl

theorem unmarked_iff_of_head {text : List Char} (h : text.head? ≠ some '=') :
    Unmarked text ↔ ¬sectionBreak <:+: text := by
  rw [unmarked_iff, and_iff_right]
  intro hmarks
  exact h (head_of_marks hmarks)

theorem sectionBreak_append {xs ys : List Char} (h : '=' ∉ ys) :
    sectionBreak <:+: xs ++ ys ↔ sectionBreak <:+: xs :=
  @infix_append_of_not_mem _ ['\n', '=', '='] xs ys '=' h

theorem equals_not_mem_blanks {blanks : List Char} (h : AllSpace blanks) : '=' ∉ blanks :=
  fun hmem ↦ absurd (h _ hmem) (by decide)

theorem exists_rstrip (text : List Char) :
    ∃ blanks, text = rstrip text ++ blanks ∧ AllSpace blanks := by
  refine ⟨(text.reverse.takeWhile isSpace).reverse, ?_, ?_⟩
  · rw [rstrip, ← List.reverse_append, List.takeWhile_append_dropWhile, List.reverse_reverse]
  · intro c hc
    exact List.mem_takeWhile_imp (List.mem_reverse.mp hc)

theorem sectionBreak_rstrip (text : List Char) :
    sectionBreak <:+: rstrip text ↔ sectionBreak <:+: text := by
  obtain ⟨blanks, htext, hblanks⟩ := exists_rstrip text
  have hsame := @sectionBreak_append (rstrip text) _ (equals_not_mem_blanks hblanks)
  rw [← htext] at hsame
  exact hsame.symm

theorem head_rstrip {text : List Char} {c : Char} (h : text.head? ≠ some c) :
    (rstrip text).head? ≠ some c := by
  obtain ⟨blanks, htext, -⟩ := exists_rstrip text
  rw [htext, List.head?_append] at h
  intro hhead
  rw [hhead] at h
  exact h rfl

theorem head_catalogFragments {py : Python} (schema : DatabaseSchema) :
    (flat (catalogFragments py schema)).head? ≠ some '=' := by
  cases htables : schema.tables with
  | nil => simp [catalogFragments, htables, joined]
  | cons table tables =>
    rw [catalogFragments, flat_joined, htables, List.flatMap_cons, tableFragments]
    simp only [List.cons_append, List.map_cons]
    rw [List.intercalate_cons_of_ne_nil]
    · simp only [headerFragments]
      split <;> simp
    · simp

theorem unmarked_serializeForPrompt {py : Python} (hpy : py.UppersAscii) (schema : DatabaseSchema)
    (maxChars : ℕ) :
    Unmarked (serializeForPrompt py schema maxChars).toList ↔
      ∀ text ∈ givenTexts (cut maxChars (catalogFragments py schema)), ¬sectionBreak <:+: text := by
  have hshown : (∀ text ∈ givenTexts (cut maxChars (catalogFragments py schema)),
      ¬sectionBreak <:+: text) ↔
        ¬sectionBreak <:+: (flat (catalogFragments py schema)).take maxChars := by
    rw [← flat_cut, sectionBreak, ((sealed_catalogFragments hpy schema).cut maxChars).infix_iff 2]
    push Not
    rfl
  have hhead := @head_catalogFragments py schema
  rw [hshown, serializeForPrompt, fullRendering, ← flat_catalogFragments]
  generalize flat (catalogFragments py schema) = text at hhead ⊢
  obtain ⟨blanks, htext, hblanks⟩ := exists_rstrip text
  split
  · rename_i hlong
    have htake : text.take maxChars = (rstrip text).take maxChars := by
      conv_lhs => rw [htext]
      exact List.take_append_of_le_length hlong.le
    rw [String.toList_append, String.toList_ofList, unmarked_iff_of_head, sectionBreak_append,
      sectionBreak_rstrip, htake]
    · decide
    · have hfirst : (rstrip ((rstrip text).take maxChars)).head? ≠ some '=' := by
        apply head_rstrip
        rw [List.head?_take]
        split
        · simp
        · exact head_rstrip hhead
      rw [List.head?_append]
      cases hcase : (rstrip ((rstrip text).take maxChars)).head? with
      | none => decide
      | some c => simpa [hcase] using hfirst
  · rename_i hshort
    have htake : text.take maxChars = rstrip text ++ blanks.take (maxChars - (rstrip text).length) := by
      conv_lhs => rw [htext]
      rw [List.take_append, List.take_of_length_le (not_lt.mp hshort)]
    rw [String.toList_ofList, unmarked_iff_of_head (head_rstrip hhead), htake, sectionBreak_append]
    exact fun hmem ↦ equals_not_mem_blanks hblanks (List.mem_of_mem_take hmem)

section Runs

variable {R : Char → Char → Prop} {l xs ys : List Char}

theorem prefix_of_forall₂ (h : List.Forall₂ R xs ys) (hl : ∀ c ∈ l, ∀ a, R a c → c = a)
    (hmem : l <+: ys) : l <+: xs := by
  obtain ⟨back, rfl⟩ := hmem
  obtain ⟨l', back', rfl, hrun, -⟩ := forall₂_split' h
  rw [eq_of_forall₂ hrun fun a _ c hc ↦ hl c hc a]
  exact ⟨back', rfl⟩

theorem infix_of_forall₂ (h : List.Forall₂ R xs ys) (hl : ∀ c ∈ l, ∀ a, R a c → c = a)
    (hmem : l <:+: ys) : l <:+: xs := by
  obtain ⟨front, back, rfl⟩ := hmem
  rw [List.append_assoc] at h
  obtain ⟨front', rest', rfl, -, hrest⟩ := forall₂_split' h
  obtain ⟨more, hmore⟩ := prefix_of_forall₂ hrest hl ⟨back, rfl⟩
  exact ⟨front', more, by rw [List.append_assoc, hmore]⟩

theorem forall₂_dropWhile {p q : Char → Bool} (hpq : ∀ a b, R a b → q b = p a)
    (h : List.Forall₂ R xs ys) : List.Forall₂ R (xs.dropWhile p) (ys.dropWhile q) := by
  induction h with
  | nil => exact .nil
  | @cons a b xs ys hab hrest ih =>
    rw [List.dropWhile_cons, List.dropWhile_cons, hpq a b hab]
    split
    · exact ih
    · exact .cons hab hrest

end Runs

def Sanitized (a b : Char) : Prop := Disguise (dropControl a) b

theorem forall₂_sanitized (text : List Char) :
    List.Forall₂ Sanitized text (disguised (stripControl text)) := by
  have h := disguised_forall₂ (stripControl text)
  rwa [stripControl, List.forall₂_map_left_iff] at h

theorem sanitized_iff {a b c : Char} (hc : c = '\n' ∨ c = '=') (h : Sanitized a b) :
    b = c ↔ a = c := by
  have hstrip : dropControl a = c ↔ a = c := by
    rw [dropControl]
    split
    · rename_i ha
      constructor
      · rintro rfl
        rcases hc with hc | hc <;> exact absurd hc (by decide)
      · rintro rfl
        rcases hc with rfl | rfl <;> exact absurd ha (by decide)
    · rfl
  rw [← hstrip]
  rcases h with rfl | ⟨ha, rfl⟩ | ⟨ha, rfl⟩
  · rfl
  · rw [ha]
    rcases hc with rfl | rfl <;> decide
  · rw [ha]
    rcases hc with rfl | rfl <;> decide

theorem sectionBreak_disguised (text : List Char) :
    sectionBreak <:+: disguised (stripControl text) ↔ sectionBreak <:+: text := by
  have hchars : ∀ c ∈ sectionBreak, c = '\n' ∨ c = '=' := by simp [sectionBreak]
  constructor
  · apply infix_of_forall₂ (forall₂_sanitized text)
    intro c hc a ha
    exact ((sanitized_iff (hchars c hc) ha).mp rfl).symm
  · apply infix_of_forall₂ (forall₂_sanitized text).flip
    intro c hc b hb
    exact ((sanitized_iff (hchars c hc) hb).mpr rfl).symm

theorem isSpace_sanitized {a b : Char} (h : Sanitized a b) : isSpace b = isBlank a := by
  rw [isSpace_disguise h, isSpace_dropControl]

theorem unmarked_sanitizeUntrusted {text : String} {first : Char} {rest : List Char}
    (htext : text.toList = first :: rest) (hblank : isBlank first = false) (hmark : first ≠ '=') :
    Unmarked (sanitizeUntrusted text false).toList ↔ ¬sectionBreak <:+: text.toList := by
  have hall := forall₂_sanitized text.toList
  rw [toList_sanitizeUntrusted, if_neg Bool.false_ne_true, ← sectionBreak_disguised]
  rw [htext] at hall ⊢
  obtain ⟨b, out, hb, -, hout⟩ := List.forall₂_cons_left_iff.mp hall
  rw [hout]
  have hspace : isSpace b = false := (isSpace_sanitized hb).trans hblank
  have htrim : trimBy isSpace (b :: out) = rstrip (b :: out) := by
    rw [trimBy, List.dropWhile_cons_of_neg (by simp [hspace])]
    rfl
  rw [htrim, unmarked_iff_of_head, sectionBreak_rstrip]
  apply head_rstrip
  intro hhead
  exact hmark ((sanitized_iff (.inr rfl) hb).mp (Option.some.inj hhead))

theorem prefix_append_iff {k : ℕ} {c : Char} {xs ys : List Char} (h : ys.head? ≠ some c) :
    List.replicate (k + 1) c <+: xs ++ ys ↔ List.replicate (k + 1) c <+: xs := by
  induction k generalizing xs with
  | zero =>
    cases xs with
    | nil => cases ys <;> simp_all [eq_comm]
    | cons x xs => simp
  | succ k ih =>
    cases xs with
    | nil =>
      rw [List.nil_append]
      exact iff_of_false (fun hpre ↦ h (head_of_marks hpre)) (by simp)
    | cons x xs =>
      rw [List.replicate_succ, List.cons_append, List.cons_prefix_cons, List.cons_prefix_cons, ih]

theorem marks_iff_words {k : ℕ} (text : List Char) :
    List.replicate (k + 1) '=' <+: text.dropWhile isSpace ↔
      ∃ word ∈ (words text).head?, List.replicate (k + 1) '=' <+: word := by
  cases hwords : words text with
  | nil =>
    refine iff_of_false ?_ (by simp)
    intro hmarks
    obtain ⟨rest, hrest⟩ := hmarks
    have hsplit := List.takeWhile_append_dropWhile (p := isSpace) (l := text)
    have hmark : isSpace '=' = false := by decide
    obtain ⟨front, hfront, -⟩ := words_cons hmark (List.replicate k '=' ++ rest)
    rw [← hsplit, words_append_left fun c hc ↦ List.mem_takeWhile_imp hc, ← hrest,
      List.replicate_succ, List.cons_append, hfront] at hwords
    cases hwords
  | cons word others =>
    obtain ⟨lead, rest, rfl, hlead, hrest, -⟩ := words_eq_cons hwords
    have hword : IsWord word := isWord_of_mem (hwords ▸ List.mem_cons_self)
    have hdrop : (lead ++ (word ++ rest)).dropWhile isSpace = word ++ rest := by
      rw [List.dropWhile_append_of_pos hlead]
      cases word with
      | nil => exact absurd rfl hword.ne_nil
      | cons c word =>
        rw [List.cons_append, List.dropWhile_cons_of_neg]
        simp [hword.not_isSpace c List.mem_cons_self]
    rw [hdrop, prefix_append_iff]
    · simp
    · intro hhead
      exact absurd (hrest _ hhead) (by decide)

theorem unmarked_sanitizeUntrusted_single (question : String) :
    Unmarked (sanitizeUntrusted question true).toList ↔
      ¬List.replicate 3 '=' <+: question.toList.dropWhile isBlank := by
  have hunbroken := @unbroken_single question _ rfl
  have hwords := @words_single question _ rfl
  have hnobreak : ¬sectionBreak <:+: (sanitizeUntrusted question true).toList := by
    intro hbreak
    exact absurd (hunbroken '\n' (hbreak.mem List.mem_cons_self)) (by decide)
  have hdrop : (sanitizeUntrusted question true).toList.dropWhile isSpace =
      (sanitizeUntrusted question true).toList := by
    rw [toList_sanitizeUntrusted, dropWhile_trimBy]
  have hall := forall₂_dropWhile (R := Sanitized) (fun _ _ h ↦ isSpace_sanitized h)
    (forall₂_sanitized question.toList)
  have hsame : List.replicate 3 '=' <+: (disguised (stripControl question.toList)).dropWhile isSpace ↔
      List.replicate 3 '=' <+: question.toList.dropWhile isBlank := by
    constructor
    · apply prefix_of_forall₂ hall
      intro c hc a ha
      exact ((sanitized_iff (.inr (List.eq_of_mem_replicate hc)) ha).mp rfl).symm
    · apply prefix_of_forall₂ hall.flip
      intro c hc b hb
      exact ((sanitized_iff (.inr (List.eq_of_mem_replicate hc)) hb).mpr rfl).symm
  rw [unmarked_iff, and_iff_left hnobreak, ← hdrop, marks_iff_words, hwords, ← marks_iff_words, hsame]

def metricFragments (metric : MetricDefinition) : List (List (Fragment Char)) :=
  [own "- ".toList, given metric.name.toList, own ": ".toList, given metric.sqlExpression.toList] ::
    if metric.defaultFilters = [] then []
    else [own "    default filters: ".toList :: commaSeparated metric.defaultFilters]

def termFragments (term : BusinessTerm) : List (Fragment Char) :=
  [own "- ".toList, given term.term.toList, own (" (" ++ term.kind.value ++ "): ").toList,
    given term.definition.toList]

def semanticFragments (py : Python) (semantic : SemanticLayer) (relevantTables : List String) :
    List (Fragment Char) :=
  joined ['\n']
    ([[own "Metrics (use these exact formulas; do not invent alternatives):".toList]] ++
    ((semantic.metrics.filter fun m ↦ PromptBuilder.relevant py m.requiredTables
      relevantTables).flatMap metricFragments) ++
    [[own "Business terms:".toList]] ++
    ((semantic.terms.filter fun t ↦ PromptBuilder.relevant py t.relatedTables
      relevantTables).map termFragments) ++
    [[own "Calendar policy: ".toList, given semantic.datePolicy.toList]])

theorem flat_metricFragments (metric : MetricDefinition) :
    (metricFragments metric).map flat = (PromptBuilder.renderMetric metric).map String.toList := by
  rw [metricFragments, PromptBuilder.renderMetric]
  split <;> simp [flat_commaSeparated]

theorem flat_termFragments (term : BusinessTerm) :
    flat (termFragments term) = (PromptBuilder.renderTerm term).toList := by
  simp [termFragments, PromptBuilder.renderTerm]

theorem flat_semanticFragments (py : Python) (semantic : SemanticLayer)
    (relevantTables : List String) :
    flat (semanticFragments py semantic relevantTables) =
      (PromptBuilder.renderSemanticContext py semantic relevantTables).toList := by
  rw [semanticFragments, flat_joined, PromptBuilder.renderSemanticContext,
    String.toList_intercalate]
  congr 1
  simp [List.map_flatMap, flat_metricFragments, flat_termFragments, Function.comp_def]

theorem sealed_metricFragments {metric : MetricDefinition} {line : List (Fragment Char)}
    (h : line ∈ metricFragments metric) :
    Sealed '\n' '=' line ∧ (flat line).head? ≠ some '=' := by
  rcases List.mem_cons.mp h with rfl | h
  · refine ⟨?_, by simp⟩
    apply Sealed.own (by decide)
    apply Sealed.given (by simp)
    apply Sealed.own (by decide)
    exact Sealed.given (by simp) True.intro
  · split at h
    · cases h
    · obtain rfl := List.mem_singleton.mp h
      exact ⟨Sealed.own (by decide) (sealed_commaSeparated _), by simp⟩

theorem sealed_termFragments (term : BusinessTerm) :
    Sealed '\n' '=' (termFragments term) ∧ (flat (termFragments term)).head? ≠ some '=' := by
  refine ⟨?_, by simp [termFragments]⟩
  apply Sealed.own (by decide)
  apply Sealed.given (by simp)
  apply Sealed.own
  · cases term.kind <;> decide
  · exact Sealed.given (by simp) True.intro

theorem sealed_semanticFragments (py : Python) (semantic : SemanticLayer)
    (relevantTables : List String) :
    Sealed '\n' '=' (semanticFragments py semantic relevantTables) := by
  have hlines {line : List (Fragment Char)} (h : line ∈
      [[own "Metrics (use these exact formulas; do not invent alternatives):".toList]] ++
      ((semantic.metrics.filter fun m ↦ PromptBuilder.relevant py m.requiredTables
        relevantTables).flatMap metricFragments) ++
      [[own "Business terms:".toList]] ++
      ((semantic.terms.filter fun t ↦ PromptBuilder.relevant py t.relatedTables
        relevantTables).map termFragments) ++
      [[own "Calendar policy: ".toList, given semantic.datePolicy.toList]]) :
      Sealed '\n' '=' line ∧ (flat line).head? ≠ some '=' := by
    simp only [List.mem_append, List.mem_singleton, List.mem_flatMap, List.mem_map] at h
    rcases h with (((rfl | ⟨metric, -, h⟩) | rfl) | ⟨term, -, rfl⟩) | rfl
    · exact ⟨Sealed.own (by decide) True.intro, by simp⟩
    · exact sealed_metricFragments h
    · exact ⟨Sealed.own (by decide) True.intro, by simp⟩
    · exact sealed_termFragments term
    · exact ⟨Sealed.own (by decide) (Sealed.given (by simp) True.intro), by simp⟩
  exact Sealed.joined (by decide) (by decide) (fun line h ↦ (hlines h).1)
    (.inr ⟨rfl, fun line h ↦ (hlines h).2⟩)

theorem unmarked_renderSemanticContext (py : Python) (semantic : SemanticLayer)
    (relevantTables : List String) :
    Unmarked (PromptBuilder.renderSemanticContext py semantic relevantTables).toList ↔
      ∀ text ∈ givenTexts (semanticFragments py semantic relevantTables),
        ¬sectionBreak <:+: text := by
  have hhead : (flat (semanticFragments py semantic relevantTables)).head? ≠ some '=' := by
    rw [semanticFragments, flat_joined]
    simp only [List.cons_append, List.nil_append, List.map_cons, List.append_assoc]
    rw [List.intercalate_cons_of_ne_nil]
    · simp
    · simp
  have hinside := (sealed_semanticFragments py semantic relevantTables).infix_iff 2
  rw [← flat_semanticFragments, unmarked_iff_of_head hhead, sectionBreak, hinside]
  push Not
  rfl

def headerLines (text : List Char) : List (List Char) :=
  (text.splitOn '\n').filter ("===".toList.isPrefixOf ·)

theorem headerLines_eq_nil {text : List Char} : headerLines text = [] ↔ Unmarked text := by
  rw [headerLines, List.filter_eq_nil_iff]
  exact forall₂_congr fun line _ ↦ by rw [List.isPrefixOf_iff_prefix]; rfl

def sectionFragments (header : String) (text : Option String) (render : String → String) :
    List (Fragment Char) :=
  match text.filter (· ≠ "") with
  | some text => [own [], own header.toList, given (render text).toList]
  | none => []

/-- The parts of the user prompt: the builder's own ones, and what is given to it. -/
def promptFragments (ctx : PromptContext) : List (Fragment Char) :=
  [own schemaHeader.toList, given ctx.schemaText.toList, own [], own semanticHeader.toList,
    given ctx.semanticText.toList] ++
  sectionFragments datesHeader ctx.resolvedDateText id ++
  sectionFragments conversationHeader ctx.conversationSummary (sanitizeUntrusted · false) ++
  sectionFragments feedbackHeader ctx.repairText (sanitizeUntrusted · false) ++
  [own [], own questionHeader.toList, given (sanitizeUntrusted ctx.question true).toList, own [],
    own instructions.toList]

theorem text_sectionFragments (header : String) (text : Option String) (render : String → String) :
    (sectionFragments header text render).map Fragment.text =
      (optionalSection header text render).map String.toList := by
  rw [sectionFragments, optionalSection]
  cases text.filter (· ≠ "") <;> simp

theorem text_promptFragments (ctx : PromptContext) :
    (promptFragments ctx).map Fragment.text = (PromptBuilder.userParts ctx).map String.toList := by
  simp [promptFragments, PromptBuilder.userParts, text_sectionFragments]

theorem forall_promptFragments {P : List Char → Prop} (ctx : PromptContext) :
    (∀ f ∈ promptFragments ctx, f.given = true → P f.text) ↔
      P ctx.schemaText.toList ∧ P ctx.semanticText.toList ∧
      (∀ text ∈ ctx.resolvedDateText.filter (· ≠ ""), P text.toList) ∧
      (∀ text ∈ ctx.conversationSummary.filter (· ≠ ""), P (sanitizeUntrusted text false).toList) ∧
      (∀ text ∈ ctx.repairText.filter (· ≠ ""), P (sanitizeUntrusted text false).toList) ∧
      P (sanitizeUntrusted ctx.question true).toList := by
  have hsection (header : String) (text : Option String) (render : String → String) :
      (∀ f ∈ sectionFragments header text render, f.given = true → P f.text) ↔
        ∀ text' ∈ text.filter (· ≠ ""), P (render text').toList := by
    rw [sectionFragments]
    cases text.filter (· ≠ "") <;> simp [own, given]
  rw [promptFragments]
  simp only [List.forall_mem_append, hsection]
  simp [own, given, and_assoc]

theorem flatMap_eq_filter_iff {β γ : Type} (lines : β → List γ) (keep : β → Bool) (parts : List β) :
    parts.flatMap lines = (parts.filter keep).flatMap lines ↔
      ∀ part ∈ parts, keep part = false → lines part = [] := by
  induction parts with
  | nil => simp
  | cons part parts ih =>
    rw [List.flatMap_cons, List.filter_cons]
    cases hkeep : keep part with
    | true =>
      rw [if_pos rfl, List.flatMap_cons, List.append_cancel_left_eq, ih]
      simp [hkeep]
    | false =>
      rw [if_neg Bool.false_ne_true, List.forall_mem_cons, ← ih]
      constructor
      · intro h
        have hlength := congrArg List.length h
        have hsub : ((parts.filter keep).flatMap lines).length ≤ (parts.flatMap lines).length :=
          (List.filter_sublist.flatMap lines).length_le
        rw [List.length_append] at hlength
        have hnil : lines part = [] := List.length_eq_zero_iff.mp (by omega)
        rw [hnil, List.nil_append] at h
        exact ⟨fun _ ↦ hnil, h⟩
      · rintro ⟨hnil, h⟩
        rw [hnil hkeep, List.nil_append, h]

theorem headerLines_sectionFragments (header : String) (text : Option String)
    (render : String → String) (hheader : headerLines header.toList = [header.toList]) :
    ((sectionFragments header text render).filter fun f ↦ !f.given).flatMap
        (fun f ↦ headerLines f.text) =
      (if (text.filter (· ≠ "")).isSome then [header] else []).map String.toList := by
  have hempty : headerLines [] = [] := by decide
  rw [sectionFragments]
  cases text.filter (· ≠ "") with
  | none => rfl
  | some text => simp [own, given, hheader, hempty]

theorem headerLines_own (ctx : PromptContext) :
    ((promptFragments ctx).filter fun f ↦ !f.given).flatMap (fun f ↦ headerLines f.text) =
      (PromptBuilder.headers ctx).map String.toList := by
  have hempty : headerLines [] = [] := by decide
  have hinstructions : headerLines instructions.toList = [] := by decide +kernel
  have hschema : headerLines schemaHeader.toList = [schemaHeader.toList] := by decide +kernel
  have hsemantic : headerLines semanticHeader.toList = [semanticHeader.toList] := by decide +kernel
  have hquestion : headerLines questionHeader.toList = [questionHeader.toList] := by decide +kernel
  have hdates : headerLines datesHeader.toList = [datesHeader.toList] := by decide +kernel
  have hconversation : headerLines conversationHeader.toList = [conversationHeader.toList] := by
    decide +kernel
  have hfeedback : headerLines feedbackHeader.toList = [feedbackHeader.toList] := by
    decide +kernel
  rw [promptFragments, PromptBuilder.headers]
  simp only [List.filter_append, List.flatMap_append, List.map_append,
    headerLines_sectionFragments _ _ _ hdates, headerLines_sectionFragments _ _ _ hconversation,
    headerLines_sectionFragments _ _ _ hfeedback]
  simp [own, given, hempty, hinstructions, hschema, hsemantic, hquestion]

/-- The lines of the user prompt that begin as a section header does are the builder's headers
exactly when no given part has such a line. -/
theorem headerLines_userPrompt (ctx : PromptContext) :
    headerLines (PromptBuilder.userPrompt ctx).toList =
        (PromptBuilder.headers ctx).map String.toList ↔
      ∀ f ∈ promptFragments ctx, f.given = true → Unmarked f.text := by
  have hparts : headerLines (PromptBuilder.userPrompt ctx).toList =
      (promptFragments ctx).flatMap fun f ↦ headerLines f.text := by
    have hne : (promptFragments ctx).map Fragment.text ≠ [] := by simp [promptFragments]
    unfold headerLines
    rw [PromptBuilder.userPrompt, String.toList_intercalate, ← text_promptFragments]
    change ((['\n'].intercalate _).splitOn '\n').filter _ = _
    rw [flatMap_splitOn '\n' hne, List.flatMap_map, List.filter_flatMap]
  rw [hparts, ← headerLines_own, flatMap_eq_filter_iff]
  simp only [headerLines_eq_nil, Bool.not_eq_false']

end TextToSql.Llm
