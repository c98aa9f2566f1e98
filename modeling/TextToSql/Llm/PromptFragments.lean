import TextToSql.Domain.Words
import TextToSql.Infrastructure.ReferenceNames
import TextToSql.Library.Fragments
import TextToSql.Llm.Prompt

namespace TextToSql.Domain

def Python.UppersAscii (py : Python) : Prop :=
  ∀ s, IsAscii s → py.upper s = String.ofList (s.toList.map Char.toUpper)

end TextToSql.Domain

namespace TextToSql.Llm

open Domain Semantic Library.Fragments

def commaSeparated (texts : List String) : List (Fragment Char) :=
  joined ", ".toList (texts.map fun t ↦ [given t.toList])

def headerFragments (table : TableInfo) : List (Fragment Char) :=
  [own (if table.kind = "view" then "VIEW " else "TABLE ").toList, given table.qualifiedName.toList,
    own (commentSuffix table.comment).toList]

def afterType (py : Python) (column : ColumnInfo) : String :=
  let flags := (if column.isPrimaryKey then ["PK"] else []) ++
    (if column.nullable then [] else ["NOT NULL"]) ++
    (if isSensitive column.classification then
      ["[" ++ py.upper column.classification.value ++ "]"] else [])
  String.join (flags.map (", " ++ ·)) ++ ")" ++ commentSuffix column.comment

def columnFragments (py : Python) (column : ColumnInfo) : List (Fragment Char) :=
  [own "  - ".toList, given column.name.toList, own " (".toList, given column.dataType.toList,
    own (afterType py column).toList]

def foreignKeyFragments (fk : ForeignKeyRef) : List (Fragment Char) :=
  own "  FK (".toList :: commaSeparated fk.columns ++
    own ") -> ".toList :: given fk.referredTable.toList :: own " (".toList ::
      (commaSeparated fk.referredColumns ++ [own ")".toList])

def tableFragments (py : Python) (table : TableInfo) : List (List (Fragment Char)) :=
  headerFragments table :: table.columns.map (columnFragments py) ++
    table.foreignKeys.map foreignKeyFragments ++ [[]]

def catalogFragments (py : Python) (schema : DatabaseSchema) : List (Fragment Char) :=
  joined ['\n'] (schema.tables.flatMap (tableFragments py))

theorem flat_commaSeparated (texts : List String) :
    flat (commaSeparated texts) = (String.intercalate ", " texts).toList := by
  rw [commaSeparated, flat_joined, String.toList_intercalate, List.map_map]
  congr 1
  simp [Function.comp_def]

theorem flat_headerFragments (table : TableInfo) :
    flat (headerFragments table) = (renderHeader table).toList := by
  simp [headerFragments, renderHeader]

theorem intercalate_cons (sep first : String) (rest : List String) :
    String.intercalate sep (first :: rest) = first ++ String.join (rest.map (sep ++ ·)) := by
  induction rest generalizing first with
  | nil => simp [String.join]
  | cons next rest ih =>
    rw [String.intercalate_cons_cons, ih, List.map_cons, String.join_cons, String.append_assoc,
      String.append_assoc]

theorem flat_columnFragments (py : Python) (column : ColumnInfo) :
    flat (columnFragments py column) = (renderColumn py column).toList := by
  rw [renderColumn]
  dsimp only [List.cons_append, List.nil_append]
  rw [intercalate_cons]
  simp [columnFragments, afterType]

theorem flat_foreignKeyFragments (fk : ForeignKeyRef) :
    flat (foreignKeyFragments fk) = (renderForeignKey fk).toList := by
  simp [foreignKeyFragments, renderForeignKey, flat_commaSeparated]

theorem flat_tableFragments (py : Python) (table : TableInfo) :
    (tableFragments py table).map flat = (renderTable py table).map String.toList := by
  simp [tableFragments, renderTable, flat_headerFragments, flat_columnFragments,
    flat_foreignKeyFragments, Function.comp_def]

theorem flat_catalogFragments (py : Python) (schema : DatabaseSchema) :
    flat (catalogFragments py schema) =
      (String.intercalate "\n" (schema.tables.flatMap (renderTable py))).toList := by
  rw [catalogFragments, flat_joined, String.toList_intercalate, List.map_flatMap, List.map_flatMap]
  congr 2
  funext table
  exact flat_tableFragments py table

def sectionBreak : List Char := '\n' :: List.replicate 3 '='

theorem feed_not_mem_flattenComment (comment : String) :
    '\n' ∉ (flattenComment comment).toList := by
  have hcollapse : '\n' ∉ collapse comment.toList := by
    intro h
    rcases mem_collapse h with h | ⟨-, h⟩
    · exact absurd h (by decide)
    · exact absurd h (by decide)
  rw [flattenComment, String.toList_ofList]
  split
  · rw [List.mem_append, List.mem_singleton, not_or]
    exact ⟨fun h ↦ hcollapse (List.mem_of_mem_take h), by decide⟩
  · exact hcollapse

theorem feed_not_mem_commentSuffix (comment : Option String) :
    '\n' ∉ (commentSuffix comment).toList := by
  rw [commentSuffix]
  split
  · rw [String.toList_append, List.mem_append, not_or]
    exact ⟨by decide, feed_not_mem_flattenComment _⟩
  · simp

theorem head_commentSuffix (comment : Option String) :
    (commentSuffix comment).toList.head? ≠ some '=' := by
  rw [commentSuffix]
  split <;> simp

theorem feed_not_mem_upper {py : Python} (hpy : py.UppersAscii)
    (classification : DataClassification) : '\n' ∉ (py.upper classification.value).toList := by
  have hlower : LowerName classification.value := by cases classification <;> decide +kernel
  rw [hpy _ hlower.isAscii]
  cases classification <;> decide +kernel

theorem feed_not_mem_afterType {py : Python} (hpy : py.UppersAscii) (column : ColumnInfo) :
    '\n' ∉ (afterType py column).toList := by
  rw [afterType, String.toList_append, String.toList_append, String.toList_join]
  simp only [List.mem_append, not_or, List.mem_flatMap, List.mem_map, not_exists, not_and]
  refine ⟨⟨?_, by decide⟩, feed_not_mem_commentSuffix _⟩
  rintro _ ⟨flag, hflag, rfl⟩
  rw [String.toList_append, List.mem_append, not_or]
  refine ⟨by decide, ?_⟩
  rcases hflag with (hflag | hflag) | hflag
  · split at hflag
    · obtain rfl := List.mem_singleton.mp hflag
      decide
    · cases hflag
  · split at hflag
    · cases hflag
    · obtain rfl := List.mem_singleton.mp hflag
      decide
  · split at hflag
    · obtain rfl := List.mem_singleton.mp hflag
      simp [feed_not_mem_upper hpy]
    · cases hflag

theorem head_afterType (py : Python) (column : ColumnInfo) :
    (afterType py column).toList.head? ≠ some '=' := by
  rw [afterType, String.toList_append, String.toList_append, String.toList_join]
  generalize (if column.isPrimaryKey then ["PK"] else []) ++
    (if column.nullable then [] else ["NOT NULL"]) ++
    (if isSensitive column.classification then
      ["[" ++ py.upper column.classification.value ++ "]"] else []) = flags
  cases flags <;> simp

theorem sealed_commaSeparated (texts : List String) : Sealed '\n' '=' (commaSeparated texts) := by
  apply Sealed.joined (by decide) (by decide)
  · intro part hpart
    obtain ⟨text, -, rfl⟩ := List.mem_map.mp hpart
    exact Sealed.given (by simp) True.intro
  · exact .inl (by decide)

theorem sealed_headerFragments (table : TableInfo) : Sealed '\n' '=' (headerFragments table) := by
  apply Sealed.own
  · split <;> decide
  apply Sealed.given
  · simpa using head_commentSuffix table.comment
  exact Sealed.own (feed_not_mem_commentSuffix _) True.intro

theorem sealed_columnFragments {py : Python} (hpy : py.UppersAscii) (column : ColumnInfo) :
    Sealed '\n' '=' (columnFragments py column) := by
  apply Sealed.own (by decide)
  apply Sealed.given (by simp)
  apply Sealed.own (by decide)
  apply Sealed.given
  · simpa using head_afterType py column
  exact Sealed.own (feed_not_mem_afterType hpy column) True.intro

theorem sealed_foreignKeyFragments (fk : ForeignKeyRef) :
    Sealed '\n' '=' (foreignKeyFragments fk) := by
  apply Sealed.own (by decide)
  apply (sealed_commaSeparated fk.columns).append
  · apply Sealed.own (by decide)
    apply Sealed.given (by simp)
    apply Sealed.own (by decide)
    exact (sealed_commaSeparated fk.referredColumns).append (Sealed.own (by decide) True.intro)
      (by simp)
  · simp

theorem sealed_tableFragments {py : Python} (hpy : py.UppersAscii) {table : TableInfo}
    {line : List (Fragment Char)} (h : line ∈ tableFragments py table) :
    Sealed '\n' '=' line ∧ (flat line).head? ≠ some '=' := by
  simp only [tableFragments, List.mem_append, List.mem_cons, List.mem_map, List.not_mem_nil,
    or_false] at h
  rcases h with ((rfl | ⟨column, -, rfl⟩) | ⟨fk, -, rfl⟩) | rfl
  · refine ⟨sealed_headerFragments table, ?_⟩
    rw [headerFragments]
    split <;> simp
  · exact ⟨sealed_columnFragments hpy column, by simp [columnFragments]⟩
  · exact ⟨sealed_foreignKeyFragments fk, by simp [foreignKeyFragments]⟩
  · exact ⟨True.intro, by simp⟩

theorem sealed_catalogFragments {py : Python} (hpy : py.UppersAscii) (schema : DatabaseSchema) :
    Sealed '\n' '=' (catalogFragments py schema) := by
  have hlines : ∀ line ∈ schema.tables.flatMap (tableFragments py),
      Sealed '\n' '=' line ∧ (flat line).head? ≠ some '=' := by
    intro line hline
    obtain ⟨table, -, hline⟩ := List.mem_flatMap.mp hline
    exact sealed_tableFragments hpy hline
  exact Sealed.joined (by decide) (by decide) (fun line hline ↦ (hlines line hline).1)
    (.inr ⟨rfl, fun line hline ↦ (hlines line hline).2⟩)

end TextToSql.Llm
