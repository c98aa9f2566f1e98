import TextToSql.Infrastructure.ReferenceSchema
import TextToSql.Library.Separated
import TextToSql.Security.Policy
import TextToSql.Sql.RecordedColumns

namespace TextToSql.Security

open Library Domain Sql SQLValidator

theorem toList_recordedText (table : TableInfo) (column : String) :
    (recordedText table column).toList = table.name.toList ++ '.' :: column.toList := by
  have happend : recordedText table column = table.name ++ "." ++ column := rfl
  rw [happend, String.toList_append, String.toList_append, List.append_assoc]
  rfl

theorem partitionDot_recordedText {table : TableInfo} {column : String} :
    partitionDot (recordedText table column) = (table.name, column) ↔
      '.' ∉ table.name.toList := by
  rw [partitionDot, toList_recordedText, Prod.mk.injEq, ← String.toList_inj,
    String.toList_ofList, Separated.takeWhile_join_iff, and_iff_left_iff_imp]
  intro h
  rw [Separated.drop_dropWhile_join h, String.ofList_toList]

theorem lastPart_qualifiedName {table : TableInfo} :
    lastPart table.qualifiedName = table.name ↔ '.' ∉ table.name.toList := by
  have hbare : lastPart table.name = table.name ↔ '.' ∉ table.name.toList := by
    rw [lastPart, ← String.toList_inj, String.toList_ofList,
      Separated.reverse_takeWhile_reverse_iff]
  rw [TableInfo.qualifiedName]
  split
  · split
    · exact hbare
    · rw [lastPart, ← String.toList_inj, String.toList_ofList, String.toList_append,
        String.toList_append, List.append_assoc]
      exact Separated.reverse_takeWhile_reverse_join_iff
  · exact hbare

variable (py : Python) (schema : DatabaseSchema) (e : Expression)

def decoded (text : String) : Option (TableInfo × String) :=
  (schema.table py (partitionDot text).1).map fun table ↦ (table, (partitionDot text).2)

def RecordedTable (table : TableInfo) : Prop :=
  ∃ ref, (ref, table) ∈ boundTables py schema e

def decision (config : SecurityPolicyConfig) (auth : AuthContext) : PolicyDecision :=
  enforce py config schema (sortedSet (realTables py schema e))
    (sortedSet (resolvedColumns py schema e)) auth

/-- The policy reads the recorded names as the validator meant them, and so skips none of them. -/
structure Agree : Prop where
  columns : ∀ table column, RecordedColumn py schema e table column →
    decoded py schema (recordedText table column) = some (table, column)
  tables : ∀ table, RecordedTable py schema e table →
    lastPart table.qualifiedName = table.name
  sensitive : ∀ config auth table column info, RecordedColumn py schema e table column →
    table.column py column = some info → canView py info.classification auth.roles = false →
    (decision py schema e config auth).allowed = false
  denied : ∀ config auth table, RecordedTable py schema e table →
    py.lower table.name ∈ config.deniedTables.map py.lower →
    (decision py schema e config auth).allowed = false
  notAllowed : ∀ config auth table, RecordedTable py schema e table →
    ∀ tables ∈ config.allowedTables, py.lower table.name ∉ tables.map py.lower →
    (decision py schema e config auth).allowed = false

/-- No recorded table has a dot in its name, and the catalog finds the table of a recorded column
under its bare name. -/
structure PlainNames : Prop where
  columns : ∀ table column, RecordedColumn py schema e table column →
    '.' ∉ table.name.toList ∧ schema.table py table.name = some table
  tables : ∀ table, RecordedTable py schema e table → '.' ∉ table.name.toList

variable {py schema e}

theorem decoded_recordedText {table : TableInfo} {column : String} :
    decoded py schema (recordedText table column) = some (table, column) ↔
      '.' ∉ table.name.toList ∧ schema.table py table.name = some table := by
  constructor
  · intro h
    obtain ⟨found, hfound, heq⟩ := Option.map_eq_some_iff.mp h
    obtain ⟨rfl, hcolumn⟩ := Prod.mk.inj heq
    have hdot : '.' ∉ found.name.toList := by
      -- with a dot in the table, the column part would be longer than the column
      by_contra hdot
      obtain ⟨pre, post, hsplit, hpre⟩ := List.eq_append_cons_of_mem (by simpa using hdot)
      have hdrop := congrArg (fun s : String ↦ s.toList.length) hcolumn
      rw [partitionDot, toList_recordedText, hsplit, List.append_assoc, List.cons_append] at hdrop
      simp only [String.toList_ofList, Separated.drop_dropWhile_join hpre, List.length_append,
        List.length_cons] at hdrop
      omega
    rw [partitionDot_recordedText.mpr hdot] at hfound
    exact ⟨hdot, hfound⟩
  · rintro ⟨hdot, hfound⟩
    rw [decoded, partitionDot_recordedText.mpr hdot, hfound]
    rfl

theorem qualifiedName_mem_realTables {table : TableInfo} (h : RecordedTable py schema e table) :
    table.qualifiedName ∈ sortedSet (realTables py schema e) := by
  obtain ⟨ref, h⟩ := h
  exact mem_sortedSet.mpr (List.mem_map.mpr ⟨_, h, rfl⟩)

theorem lookupReference_of_decoded {text column : String} {table : TableInfo}
    (h : decoded py schema text = some (table, column)) :
    lookupReference py schema text = table.column py column := by
  obtain ⟨found, hfound, heq⟩ := Option.map_eq_some_iff.mp h
  cases heq
  rw [lookupReference, hfound, Option.bind_some]

/-- The validator and the policy agree on the recorded names of a statement exactly when these
names are plain. -/
theorem agree_iff (py : Python) (schema : DatabaseSchema) (e : Expression) :
    Agree py schema e ↔ PlainNames py schema e := by
  constructor
  · intro h
    exact ⟨fun table column hr ↦ decoded_recordedText.mp (h.columns table column hr),
      fun table hr ↦ lastPart_qualifiedName.mp (h.tables table hr)⟩
  · rintro ⟨hcolumns, htables⟩
    have hlast {table : TableInfo} (hr : RecordedTable py schema e table) :
        lastPart table.qualifiedName = table.name := lastPart_qualifiedName.mpr (htables table hr)
    have hdecoded {table : TableInfo} {column : String}
        (hr : RecordedColumn py schema e table column) :
        decoded py schema (recordedText table column) = some (table, column) :=
      decoded_recordedText.mpr (hcolumns table column hr)
    refine ⟨fun table column hr ↦ hdecoded hr, fun table hr ↦ hlast hr, ?_, ?_, ?_⟩
    · intro config auth table column info hr hinfo hview
      by_contra hallowed
      have hmem : recordedText table column ∈ sortedSet (resolvedColumns py schema e) :=
        mem_sortedSet.mpr (mem_resolvedColumns.mpr ⟨table, column, hr, rfl⟩)
      have hcan := canView_of_lookup (by simpa [decision] using hallowed) hmem
        ((lookupReference_of_decoded (hdecoded hr)).trans hinfo)
      rw [hview] at hcan
      cases hcan
    · intro config auth table hr hdenied
      by_contra hallowed
      have hpass := reported_tables_allowed (by simpa [decision] using hallowed)
        (qualifiedName_mem_realTables hr)
      rw [hlast hr] at hpass
      exact hpass.1 hdenied
    · intro config auth table hr tables htables' hnot
      by_contra hallowed
      have hpass := reported_tables_allowed (by simpa [decision] using hallowed)
        (qualifiedName_mem_realTables hr)
      rw [hlast hr] at hpass
      exact hnot (hpass.2 tables htables')

def appKeys : TableInfo where
  name := "app.keys"
  columns := [{ name := "id" }, { name := "token", classification := .authSecret }]

def appKeysOnly : DatabaseSchema where
  dialect := .postgres
  tables := [appKeys]

def keyTokens : Expression :=
  .mk .this (.select false)
    [.mk .expressions (.column "k" "token") [],
      .mk .from_ .from_ [.mk .this (.table { name := "app.keys", alias_ := "k" }) []]]

/-- An accepted statement with a secret column that the policy passes over. -/
theorem dotted_table_skipped :
    ({} : SQLValidator).Accepts .ascii appKeysOnly keyTokens ∧
      (decision .ascii appKeysOnly keyTokens {} { userId := "u1", tenantId := "1" }).allowed =
        true ∧
      RecordedColumn .ascii appKeysOnly keyTokens appKeys "token" ∧
      ¬Agree .ascii appKeysOnly keyTokens := by
  have hrecorded : RecordedColumn .ascii appKeysOnly keyTokens appKeys "token" :=
    ⟨"k", by decide +kernel, by decide +kernel⟩
  refine ⟨by decide +kernel, by decide +kernel, hrecorded, fun h ↦ ?_⟩
  exact ((agree_iff _ _ _).mp h |>.columns _ _ hrecorded).1 (by decide)

end TextToSql.Security
