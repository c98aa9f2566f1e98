import TextToSql.Llm.PromptHeaders

namespace TextToSql.Llm

open Domain Library.Fragments

theorem rstrip_append_blanks {text blanks : List Char} (h : AllSpace blanks) :
    rstrip (text ++ blanks) = rstrip text := by
  rw [rstrip, List.reverse_append,
    List.dropWhile_append_of_pos fun c hc ↦ h c (List.mem_reverse.mp hc), rstrip]

theorem rstrip_append {text back : List Char} {c : Char} (hc : c ∈ back)
    (hspace : isSpace c = false) : rstrip (text ++ back) = text ++ rstrip back := by
  have hne : (back.reverse.dropWhile isSpace).isEmpty = false := by
    rw [List.isEmpty_eq_false_iff]
    intro hnil
    rw [List.dropWhile_eq_nil_iff] at hnil
    exact absurd (hnil c (List.mem_reverse.mpr hc)) (by simp [hspace])
  rw [rstrip, List.reverse_append, List.dropWhile_append, hne, if_neg Bool.false_ne_true,
    List.reverse_append, List.reverse_reverse, rstrip]

theorem rstrip_front (text : List Char) : rstrip text <+: text := by
  obtain ⟨blanks, htext, -⟩ := exists_rstrip text
  exact ⟨blanks, htext.symm⟩

theorem rstrip_eq_nil {text : List Char} : rstrip text = [] ↔ AllSpace text := by
  rw [rstrip, List.reverse_eq_nil_iff, List.dropWhile_eq_nil_iff]
  exact ⟨fun h c hc ↦ h c (List.mem_reverse.mpr hc), fun h c hc ↦ h c (List.mem_reverse.mp hc)⟩

theorem exists_not_isSpace {text : List Char} (h : ¬AllSpace text) :
    ∃ c ∈ text, isSpace c = false := by
  simpa [AllSpace] using h

def isTableLine (line : List Char) : Bool :=
  "TABLE ".toList.isPrefixOf line || "VIEW ".toList.isPrefixOf line

theorem isTableLine_of_front {line front : List Char} (h : front <+: line)
    (hfront : isTableLine front = true) : isTableLine line = true := by
  rw [isTableLine, Bool.or_eq_true, List.isPrefixOf_iff_prefix, List.isPrefixOf_iff_prefix] at *
  exact hfront.imp (·.trans h) (·.trans h)

theorem isTableLine_of_head {line : List Char} (h : line.head? = some ' ') :
    isTableLine line = false := by
  cases line with
  | nil => cases h
  | cons c rest =>
    cases h
    rfl

theorem isTableLine_rstrip {line : List Char} (h : isTableLine line = false) :
    isTableLine (rstrip line) = false := by
  by_contra hline
  rw [isTableLine_of_front (rstrip_front line) (by simpa using hline)] at h
  cases h

theorem not_allSpace_of_mem {text : List Char} {c : Char} (hc : c ∈ text)
    (hspace : isSpace c = false) : ¬AllSpace text := fun h ↦ by simp [h c hc] at hspace

theorem not_allSpace_of_isTableLine {line : List Char} (h : isTableLine line = true) :
    ¬AllSpace line := by
  rw [isTableLine, Bool.or_eq_true, List.isPrefixOf_iff_prefix, List.isPrefixOf_iff_prefix] at h
  rcases h with h | h
  · exact not_allSpace_of_mem (h.subset (by decide : 'T' ∈ "TABLE ".toList)) (by decide)
  · exact not_allSpace_of_mem (h.subset (by decide : 'V' ∈ "VIEW ".toList)) (by decide)

def shownNames (table : TableInfo) : List String :=
  table.qualifiedName :: table.columns.flatMap (fun c ↦ [c.name, c.dataType]) ++
    table.foreignKeys.flatMap fun fk ↦ fk.columns ++ fk.referredTable :: fk.referredColumns

theorem givenTexts_commaSeparated (texts : List String) :
    givenTexts (commaSeparated texts) = texts.map String.toList := by
  rw [commaSeparated, givenTexts_joined, List.flatMap_map]
  exact List.map_eq_flatMap.symm

theorem givenTexts_tableFragments (py : Python) (table : TableInfo) :
    (tableFragments py table).flatMap givenTexts = (shownNames table).map String.toList := by
  simp [tableFragments, shownNames, headerFragments, columnFragments, foreignKeyFragments,
    List.flatMap_map, List.map_flatMap, givenTexts_commaSeparated]

theorem own_commaSeparated {texts : List String} {f : Fragment Char} (h : f ∈ commaSeparated texts)
    (hown : f.given = false) : '\n' ∉ f.text := by
  rw [commaSeparated, joined] at h
  induction texts with
  | nil => cases h
  | cons text texts ih =>
    cases texts with
    | nil =>
      obtain rfl := List.mem_singleton.mp (by simpa using h)
      cases hown
    | cons next rest =>
      rw [List.map_cons, List.map_cons, List.intercalate_cons_cons] at h
      simp only [List.cons_append, List.nil_append, List.mem_cons] at h
      rcases h with rfl | rfl | h
      · cases hown
      · decide
      · exact ih h

theorem own_tableFragments {py : Python} (hpy : py.UppersAscii) {table : TableInfo}
    {line : List (Fragment Char)} (hline : line ∈ tableFragments py table) {f : Fragment Char}
    (hf : f ∈ line) (hown : f.given = false) : '\n' ∉ f.text := by
  simp only [tableFragments, List.mem_append, List.mem_cons, List.mem_map, List.not_mem_nil,
    or_false] at hline
  rcases hline with ((rfl | ⟨column, -, rfl⟩) | ⟨fk, -, rfl⟩) | rfl
  · simp only [headerFragments, List.mem_cons, List.not_mem_nil, or_false] at hf
    rcases hf with rfl | rfl | rfl
    · rw [text_own]
      split <;> decide
    · cases hown
    · exact feed_not_mem_commentSuffix table.comment
  · simp only [columnFragments, List.mem_cons, List.not_mem_nil, or_false] at hf
    rcases hf with rfl | rfl | rfl | rfl | rfl
    · decide
    · cases hown
    · decide
    · cases hown
    · exact feed_not_mem_afterType hpy column
  · simp only [foreignKeyFragments, List.cons_append, List.mem_append, List.mem_cons,
      List.not_mem_nil, or_false] at hf
    rcases hf with rfl | hf | rfl | rfl | rfl | hf | rfl
    · decide
    · exact own_commaSeparated hf hown
    · decide
    · cases hown
    · decide
    · exact own_commaSeparated hf hown
    · decide
  · cases hf

def OneLine (table : TableInfo) : Prop := ∀ name ∈ shownNames table, '\n' ∉ name.toList

instance (table : TableInfo) : Decidable (OneLine table) :=
  inferInstanceAs (Decidable (∀ _ ∈ _, _))

theorem oneLine_iff {py : Python} (hpy : py.UppersAscii) (table : TableInfo) :
    OneLine table ↔ ∀ entry ∈ renderTable py table, '\n' ∉ entry.toList := by
  have hentries : (∀ entry ∈ renderTable py table, '\n' ∉ entry.toList) ↔
      ∀ line ∈ tableFragments py table, '\n' ∉ flat line := by
    have hmap := flat_tableFragments py table
    calc (∀ entry ∈ renderTable py table, '\n' ∉ entry.toList)
        ↔ ∀ text ∈ (renderTable py table).map String.toList, '\n' ∉ text := by simp
      _ ↔ _ := by rw [← hmap]; simp
  have hline {line : List (Fragment Char)} (h : line ∈ tableFragments py table) :
      '\n' ∉ flat line ↔ ∀ text ∈ givenTexts line, '\n' ∉ text := by
    rw [mem_flat_iff fun f hf hown ↦ own_tableFragments hpy h hf hown]
    push Not
    rfl
  have hnames : OneLine table ↔ ∀ text ∈ (shownNames table).map String.toList, '\n' ∉ text := by
    simp [OneLine]
  rw [hentries, hnames, ← givenTexts_tableFragments py table]
  simp only [List.mem_flatMap, forall_exists_index, and_imp]
  constructor
  · exact fun h line hmem ↦ (hline hmem).mpr fun text htext ↦ h text line hmem htext
  · exact fun h text line hmem htext ↦ (hline hmem).mp (h line hmem) text htext

def Bare (table : TableInfo) : Prop :=
  table.columns = [] ∧ table.foreignKeys = [] ∧ table.comment.filter (· ≠ "") = none

instance (table : TableInfo) : Decidable (Bare table) := inferInstanceAs (Decidable (_ ∧ _ ∧ _))

def LastOneLine (table : TableInfo) : Prop :=
  if Bare table then
    rstrip table.qualifiedName.toList ≠ [] ∧ '\n' ∉ rstrip table.qualifiedName.toList
  else OneLine table

def KeepsEnd (entry : List Char) : Prop :=
  ('\n' ∈ rstrip entry ↔ '\n' ∈ entry) ∧ isTableLine (rstrip entry) = isTableLine entry

theorem keepsEnd_of_own {front back : List Char} {c : Char} (hc : c ∈ back)
    (hspace : isSpace c = false) (hback : '\n' ∉ back)
    (hline : isTableLine front = true ∨ isTableLine (front ++ back) = false) :
    KeepsEnd (front ++ back) := by
  have hfeed : '\n' ∉ rstrip back := fun h ↦ hback ((rstrip_front back).subset h)
  constructor
  · rw [rstrip_append hc hspace, List.mem_append, List.mem_append, or_iff_left hfeed,
      or_iff_left hback]
  · rcases hline with hfront | hno
    · rw [rstrip_append hc hspace, isTableLine_of_front (List.prefix_append _ _) hfront,
        isTableLine_of_front (List.prefix_append _ _) hfront]
    · rw [isTableLine_rstrip hno, hno]

theorem keepsEnd_renderColumn {py : Python} (hpy : py.UppersAscii) (column : ColumnInfo) :
    KeepsEnd (renderColumn py column).toList := by
  have hmem : ')' ∈ (afterType py column).toList := by simp [afterType]
  rw [← flat_columnFragments]
  have hsplit : flat (columnFragments py column) =
      flat [own "  - ".toList, given column.name.toList, own " (".toList,
        given column.dataType.toList] ++ (afterType py column).toList := by
    simp [columnFragments]
  rw [hsplit]
  apply keepsEnd_of_own hmem (by decide) (feed_not_mem_afterType hpy column)
  exact .inr (isTableLine_of_head (by simp))

theorem keepsEnd_renderForeignKey (fk : ForeignKeyRef) : KeepsEnd (renderForeignKey fk).toList := by
  have hsplit : (renderForeignKey fk).toList = ("  FK (" ++ String.intercalate ", " fk.columns ++
      ") -> " ++ fk.referredTable ++ " (" ++ String.intercalate ", " fk.referredColumns).toList ++
        [')'] := by
    simp [renderForeignKey]
  rw [hsplit]
  apply keepsEnd_of_own List.mem_cons_self (by decide) (by decide)
  exact .inr (isTableLine_of_head (by simp))

def kindWord (table : TableInfo) : List Char :=
  (if table.kind = "view" then "VIEW " else "TABLE ").toList

theorem isTableLine_kindWord (table : TableInfo) : isTableLine (kindWord table) = true := by
  rw [kindWord]
  split <;> decide

theorem renderHeader_eq (table : TableInfo) :
    (renderHeader table).toList =
      kindWord table ++ (table.qualifiedName.toList ++ (commentSuffix table.comment).toList) := by
  simp [renderHeader, kindWord]

theorem isTableLine_renderHeader (table : TableInfo) :
    isTableLine (renderHeader table).toList = true := by
  rw [renderHeader_eq]
  exact isTableLine_of_front (List.prefix_append _ _) (isTableLine_kindWord table)

theorem keepsEnd_renderHeader {table : TableInfo} (h : table.comment.filter (· ≠ "") ≠ none) :
    KeepsEnd (renderHeader table).toList := by
  have hmem : '-' ∈ (commentSuffix table.comment).toList := by
    rw [commentSuffix]
    split
    · simp
    · exact absurd ‹_› h
  rw [renderHeader_eq, ← List.append_assoc]
  apply keepsEnd_of_own hmem (by decide) (feed_not_mem_commentSuffix _)
  exact .inl (isTableLine_of_front (List.prefix_append _ _) (isTableLine_kindWord table))

theorem bare_renderHeader {table : TableInfo} (h : table.comment.filter (· ≠ "") = none) :
    ('\n' ∉ rstrip (renderHeader table).toList ∧
        isTableLine (rstrip (renderHeader table).toList) = isTableLine (renderHeader table).toList) ↔
      rstrip table.qualifiedName.toList ≠ [] ∧ '\n' ∉ rstrip table.qualifiedName.toList := by
  have hname : (renderHeader table).toList = kindWord table ++ table.qualifiedName.toList := by
    rw [renderHeader_eq, commentSuffix, h]
    simp
  rw [isTableLine_renderHeader, hname, Ne, rstrip_eq_nil]
  by_cases hblank : AllSpace table.qualifiedName.toList
  · have hword : isTableLine (rstrip (kindWord table)) = false := by
      rw [kindWord]
      split <;> decide
    rw [rstrip_append_blanks hblank, hword]
    simp [hblank]
  · obtain ⟨c, hc, hspace⟩ := exists_not_isSpace hblank
    have hfeed : '\n' ∉ kindWord table := by
      rw [kindWord]
      split <;> decide
    rw [rstrip_append hc hspace, List.mem_append, or_iff_right hfeed,
      isTableLine_of_front (List.prefix_append _ _) (isTableLine_kindWord table)]
    simp [hblank]

/-- The text has one line for every table, column and foreign key and one between two tables,
and for every table one that begins as its entry does. -/
structure RenderedByShape (schema : DatabaseSchema) (text : List Char) : Prop where
  lines : (text.splitOn '\n').length =
    (schema.tables.map fun t ↦ t.columns.length + t.foreignKeys.length + 2).sum - 2 + 1
  tables : (text.splitOn '\n').countP isTableLine = schema.tables.length

theorem rstrip_entries {front : List (List Char)} {last : List Char} (h : ¬AllSpace last) :
    rstrip (['\n'].intercalate (front ++ [last, []])) = ['\n'].intercalate (front ++ [rstrip last]) := by
  obtain ⟨c, hc, hspace⟩ := exists_not_isSpace h
  have hfeed : AllSpace ['\n'] := List.forall_mem_singleton.mpr rfl
  have hsplit : front ++ [last, []] = (front ++ [last]) ++ [[]] := by simp
  rw [hsplit, intercalate_append_singleton, intercalate_append_singleton, List.append_nil,
    List.flatMap_append, List.flatMap_singleton, ← List.append_assoc, rstrip_append_blanks hfeed,
    rstrip_append hc hspace]

theorem countP_renderTable (py : Python) (table : TableInfo) :
    (renderTable py table).countP (isTableLine ·.toList) = 1 := by
  have hcolumns : (table.columns.map (renderColumn py)).countP (isTableLine ·.toList) = 0 := by
    rw [List.countP_eq_zero]
    intro entry hentry
    obtain ⟨column, -, rfl⟩ := List.mem_map.mp hentry
    rw [← flat_columnFragments, isTableLine_of_head (by simp [columnFragments])]
    exact Bool.false_ne_true
  have hkeys : (table.foreignKeys.map renderForeignKey).countP (isTableLine ·.toList) = 0 := by
    rw [List.countP_eq_zero]
    intro entry hentry
    obtain ⟨fk, -, rfl⟩ := List.mem_map.mp hentry
    rw [← flat_foreignKeyFragments, isTableLine_of_head (by simp [foreignKeyFragments])]
    exact Bool.false_ne_true
  have hheader : isTableLine (renderHeader table).toList = true := isTableLine_renderHeader table
  rw [renderTable, List.countP_append, List.countP_append, List.countP_cons, hheader, hcolumns, hkeys]
  rfl

theorem length_entries (py : Python) (tables : List TableInfo) :
    (tables.flatMap (renderTable py)).length =
      (tables.map fun t ↦ t.columns.length + t.foreignKeys.length + 2).sum := by
  rw [List.length_flatMap]
  congr 1
  apply List.map_congr_left
  intro table _
  simp [renderTable]
  omega

theorem countP_entries (py : Python) (tables : List TableInfo) :
    (tables.flatMap (renderTable py)).countP (isTableLine ·.toList) = tables.length := by
  rw [List.countP_flatMap]
  induction tables with
  | nil => rfl
  | cons table tables ih =>
    rw [List.map_cons, List.sum_cons, ih, Function.comp_apply, countP_renderTable,
      List.length_cons, Nat.add_comm]

variable {py : Python} {schema : DatabaseSchema} {front : List String} {last : String}

theorem renderedByShape_of_entries
    (hentries : schema.tables.flatMap (renderTable py) = front ++ [last, ""])
    (hlast : ¬AllSpace last.toList) :
    RenderedByShape schema (fullRendering py schema) ↔ (∀ entry ∈ front, '\n' ∉ entry.toList) ∧
      '\n' ∉ rstrip last.toList ∧ isTableLine (rstrip last.toList) = isTableLine last.toList := by
  have htext : fullRendering py schema =
      ['\n'].intercalate (front.map String.toList ++ [rstrip last.toList]) := by
    rw [fullRendering, hentries, String.toList_intercalate, List.map_append, ← rstrip_entries hlast]
    rfl
  have hne : front.map String.toList ++ [rstrip last.toList] ≠ [] := by simp
  have hlength := length_entries py schema.tables
  have hcount := countP_entries py schema.tables
  rw [hentries] at hlength hcount
  have hlines : ((fullRendering py schema).splitOn '\n').length =
      (schema.tables.map fun t ↦ t.columns.length + t.foreignKeys.length + 2).sum - 2 + 1 ↔
        ∀ part ∈ front.map String.toList ++ [rstrip last.toList], '\n' ∉ part := by
    rw [← length_lines_iff '\n' hne, htext, ← hlength]
    simp
  have hparts : (∀ part ∈ front.map String.toList ++ [rstrip last.toList], '\n' ∉ part) ↔
      (∀ entry ∈ front, '\n' ∉ entry.toList) ∧ '\n' ∉ rstrip last.toList := by
    rw [List.forall_mem_append, List.forall_mem_map, List.forall_mem_singleton]
  have htables (hno : ∀ part ∈ front.map String.toList ++ [rstrip last.toList], '\n' ∉ part) :
      ((fullRendering py schema).splitOn '\n').countP isTableLine = schema.tables.length ↔
        isTableLine (rstrip last.toList) = isTableLine last.toList := by
    rw [htext, List.splitOn_intercalate '\n' hno hne, ← hcount, List.countP_append,
      List.countP_append, List.countP_map, List.countP_singleton, List.countP_cons,
      List.countP_singleton]
    have hempty : isTableLine "".toList = false := by decide
    rw [hempty]
    change front.countP (isTableLine ·.toList) + _ = front.countP (isTableLine ·.toList) + _ ↔ _
    cases isTableLine (rstrip last.toList) <;> cases isTableLine last.toList <;> simp
  constructor
  · intro h
    have hno := hlines.mp h.lines
    exact ⟨(hparts.mp hno).1, (hparts.mp hno).2, (htables hno).mp h.tables⟩
  · rintro ⟨hfront, hback, hsame⟩
    have hno := hparts.mpr ⟨hfront, hback⟩
    exact ⟨hlines.mpr hno, (htables hno).mpr hsame⟩

theorem exists_last_entry (hpy : py.UppersAscii) {table : TableInfo} (h : ¬Bare table) :
    ∃ front last, renderTable py table = front ++ [last, ""] ∧ ¬AllSpace last.toList ∧
      KeepsEnd last.toList := by
  have hentry {entry : String} (hmem : entry ∈ table.columns.map (renderColumn py) ++
      table.foreignKeys.map renderForeignKey) :
      ¬AllSpace entry.toList ∧ KeepsEnd entry.toList := by
    rcases List.mem_append.mp hmem with hmem | hmem
    · obtain ⟨column, -, rfl⟩ := List.mem_map.mp hmem
      have hdash : '-' ∈ (renderColumn py column).toList := by simp [renderColumn]
      exact ⟨not_allSpace_of_mem hdash (by decide), keepsEnd_renderColumn hpy column⟩
    · obtain ⟨fk, -, rfl⟩ := List.mem_map.mp hmem
      have hparen : '(' ∈ (renderForeignKey fk).toList := by simp [renderForeignKey]
      exact ⟨not_allSpace_of_mem hparen (by decide), keepsEnd_renderForeignKey fk⟩
  have hrender : renderTable py table = (renderHeader table :: (table.columns.map (renderColumn py) ++
      table.foreignKeys.map renderForeignKey)) ++ [""] := by simp [renderTable]
  rw [hrender]
  generalize hbody : table.columns.map (renderColumn py) ++ table.foreignKeys.map renderForeignKey =
    body at hentry
  cases hcase : body.getLast? with
  | none =>
    rw [List.getLast?_eq_none_iff] at hcase
    rw [hcase, List.append_eq_nil_iff, List.map_eq_nil_iff, List.map_eq_nil_iff] at hbody
    have hcomment : table.comment.filter (· ≠ "") ≠ none := fun hnone ↦ h ⟨hbody.1, hbody.2, hnone⟩
    refine ⟨[], renderHeader table, by rw [hcase]; rfl, ?_, keepsEnd_renderHeader hcomment⟩
    exact not_allSpace_of_isTableLine (isTableLine_renderHeader table)
  | some last =>
    obtain ⟨init, rfl⟩ := List.getLast?_eq_some_iff.mp hcase
    obtain ⟨hblank, hkeeps⟩ := @hentry last (by simp)
    exact ⟨renderHeader table :: init, last, by simp, hblank, hkeeps⟩

/-- The rendering shows the shape of the catalog exactly when no name or type breaks a line, the
blanks at the end of the last one aside. -/
theorem renderedByShape_iff (hpy : py.UppersAscii) (schema : DatabaseSchema) :
    RenderedByShape schema (fullRendering py schema) ↔
      (∀ table ∈ schema.tables.dropLast, OneLine table) ∧
        ∀ table ∈ schema.tables.getLast?, LastOneLine table := by
  cases hlast : schema.tables.getLast? with
  | none =>
    rw [List.getLast?_eq_none_iff] at hlast
    have htext : fullRendering py schema = [] := by rw [fullRendering, hlast]; rfl
    refine iff_of_true ⟨?_, ?_⟩ (by simp [hlast])
    · simp [htext, hlast]
    · rw [htext, hlast]
      rfl
  | some table =>
    obtain ⟨tables, htables⟩ := List.getLast?_eq_some_iff.mp hlast
    have hothers : (∀ entry ∈ tables.flatMap (renderTable py), '\n' ∉ entry.toList) ↔
        ∀ table ∈ tables, OneLine table := by
      rw [List.forall_mem_flatMap]
      exact forall₂_congr fun table _ ↦ (oneLine_iff hpy table).symm
    rw [htables, List.dropLast_concat]
    simp only [Option.mem_some_iff, forall_eq']
    by_cases hbare : Bare table
    · have hentries : schema.tables.flatMap (renderTable py) =
          tables.flatMap (renderTable py) ++ [renderHeader table, ""] := by
        rw [htables, List.flatMap_append, List.flatMap_singleton, renderTable, hbare.1, hbare.2.1]
        rfl
      rw [renderedByShape_of_entries hentries
          (not_allSpace_of_isTableLine (isTableLine_renderHeader table)),
        bare_renderHeader hbare.2.2, hothers, LastOneLine, if_pos hbare]
    · obtain ⟨front, last, hrender, hblank, hkeeps⟩ := exists_last_entry hpy hbare
      have hentries : schema.tables.flatMap (renderTable py) =
          (tables.flatMap (renderTable py) ++ front) ++ [last, ""] := by
        rw [htables, List.flatMap_append, List.flatMap_singleton, hrender, List.append_assoc]
      have htable : OneLine table ↔ (∀ entry ∈ front, '\n' ∉ entry.toList) ∧ '\n' ∉ last.toList := by
        rw [oneLine_iff hpy, hrender, List.forall_mem_append]
        simp
      rw [renderedByShape_of_entries hentries hblank, List.forall_mem_append, hothers, LastOneLine,
        if_neg hbare, htable, hkeeps.1, and_iff_left hkeeps.2, and_assoc]

end TextToSql.Llm
