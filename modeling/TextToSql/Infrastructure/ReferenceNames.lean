import TextToSql.Domain.PlainCatalog
import TextToSql.Infrastructure.ReferenceSchema

namespace TextToSql.Domain

def IsAscii (s : String) : Prop := ∀ c ∈ s.toList, c.toNat < 128

instance (s : String) : Decidable (IsAscii s) := inferInstanceAs (Decidable (∀ _ ∈ _, _))

def Python.LowersAscii (py : Python) : Prop := ∀ s, IsAscii s → py.lower s = asciiLower s

def isNameChar (c : Char) : Bool := c.isLower || c.isDigit || c == '_'

def LowerName (name : String) : Prop := name.toList.all isNameChar = true

instance (name : String) : Decidable (LowerName name) := inferInstanceAs (Decidable (_ = _))

theorem of_isNameChar {c : Char} (h : isNameChar c = true) :
    c.toNat < 128 ∧ isSpace c = false ∧ (c == '"') = false ∧ c.toLower = c := by
  have hcases : (97 ≤ c.toNat ∧ c.toNat ≤ 122) ∨ (48 ≤ c.toNat ∧ c.toNat ≤ 57) ∨ c.toNat = 95 := by
    simp only [isNameChar, Char.isLower, Char.isDigit, Bool.or_eq_true, Bool.and_eq_true,
      decide_eq_true_eq, beq_iff_eq, UInt32.le_iff_toNat_le, ge_iff_le] at h
    rcases h with (h | h) | rfl
    · exact .inl h
    · exact .inr (.inl h)
    · exact .inr (.inr rfl)
  refine ⟨by omega, ?_, ?_, ?_⟩
  · simp only [isSpace, List.mem_cons, List.not_mem_nil, or_false, Bool.or_eq_false_iff,
      Bool.and_eq_false_iff, decide_eq_false_iff_not]
    omega
  · rw [beq_eq_false_iff_ne]
    rintro rfl
    simp at hcases
  · apply Char.toLower_eq_of_not_isUpper
    simp only [Char.isUpper, decide_eq_true_eq, UInt32.le_iff_toNat_le,
      ge_iff_le]
    intro hupper
    have hupper : 65 ≤ c.toNat ∧ c.toNat ≤ 90 := hupper
    omega

theorem trimBy_of_forall {p : Char → Bool} {l : List Char} (h : ∀ c ∈ l, p c = false) :
    trimBy p l = l := by
  have hdrop {l : List Char} (h : ∀ c ∈ l, p c = false) : l.dropWhile p = l := by
    cases l with
    | nil => rfl
    | cons c cs => rw [List.dropWhile_cons_of_neg (by simp [h c List.mem_cons_self])]
  rw [trimBy, hdrop h, hdrop fun c hc ↦ h c (List.mem_reverse.mp hc), List.reverse_reverse]

namespace LowerName

variable {py : Python} (hpy : py.LowersAscii) {name : String} (h : LowerName name)

include h

theorem char {c : Char} (hc : c ∈ name.toList) : isNameChar c = true := List.all_eq_true.mp h c hc

theorem isAscii : IsAscii name := fun _ hc ↦ (of_isNameChar (h.char hc)).1

theorem plainName : PlainName name where
  stripped := by
    rw [strip, trimBy_of_forall fun c hc ↦ (of_isNameChar (h.char hc)).2.1, String.ofList_toList]
  unquoted := trimBy_of_forall fun c hc ↦ (of_isNameChar (h.char hc)).2.2.1

include hpy

theorem lower_eq : py.lower name = name := by
  have hmap : name.toList.map Char.toLower = name.toList := by
    rw [List.map_congr_left fun c hc ↦ (of_isNameChar (h.char hc)).2.2.2, List.map_id']
  rw [hpy name h.isAscii, asciiLower, hmap, String.ofList_toList]

theorem norm_eq : py.norm name = name := (h.plainName.norm_eq py).trans (h.lower_eq hpy)

end LowerName

end TextToSql.Domain

namespace TextToSql.Infrastructure

open Domain

def referenceNames : List String := referenceSchema.tables.map TableInfo.name

/-- The reference catalog has a table of this name with such a column. -/
def HasColumn (table column : String) : Prop :=
  ∃ info ∈ referenceSchema.tables, info.name = table ∧ ∃ c ∈ info.columns, c.name = column

instance (table column : String) : Decidable (HasColumn table column) :=
  inferInstanceAs (Decidable (∃ _ ∈ _, _))

theorem nodup_referenceNames : referenceNames.Nodup := by
  decide +kernel

theorem lowerName_of_mem_referenceNames : ∀ name ∈ referenceNames, LowerName name := by
  decide +kernel

theorem lowerName_columns : ∀ info ∈ referenceSchema.tables, ∀ c ∈ info.columns,
    LowerName c.name := by
  decide +kernel

theorem qualifiedName_referenceSchema : ∀ info ∈ referenceSchema.tables,
    info.qualifiedName = info.name := by
  decide +kernel

theorem hasColumn_id : ∀ name ∈ referenceNames, HasColumn name "id" := by
  decide +kernel

namespace HasColumn

variable {table column : String}

theorem mem_referenceNames (h : HasColumn table column) : table ∈ referenceNames := by
  obtain ⟨info, hinfo, rfl, -⟩ := h
  exact List.mem_map_of_mem hinfo

theorem lowerName_column (h : HasColumn table column) : LowerName column := by
  obtain ⟨info, hinfo, -, c, hc, rfl⟩ := h
  exact lowerName_columns info hinfo c hc

end HasColumn

section Lookup

variable {py : Python} (hpy : py.LowersAscii) {catalog : DatabaseSchema}
  (hcatalog : catalog.tables ⊆ referenceSchema.tables)

include hpy hcatalog

theorem reference_of_table {name : String} (hname : LowerName name) {info : TableInfo}
    (h : catalog.table py name = some info) :
    info ∈ referenceSchema.tables ∧ info.name = name := by
  have hinfo := hcatalog (DatabaseSchema.table_mem py h)
  have hlower := lowerName_of_mem_referenceNames _ (List.mem_map_of_mem hinfo)
  have hnorm : py.norm info.name = py.norm name := by
    rcases DatabaseSchema.table_key py h with hkey | hbare
    · rwa [TableInfo.key, qualifiedName_referenceSchema info hinfo] at hkey
    · exact hbare
  rw [hlower.norm_eq hpy, hname.norm_eq hpy] at hnorm
  exact ⟨hinfo, hnorm⟩

theorem hasColumn_iff_reference {name column : String} (hname : LowerName name)
    (hcolumn : LowerName column) {info : TableInfo} (h : catalog.table py name = some info) :
    info.hasColumn py column = true ↔ HasColumn name column := by
  obtain ⟨hinfo, rfl⟩ := reference_of_table hpy hcatalog hname h
  rw [TableInfo.hasColumn, TableInfo.column, List.find?_isSome]
  constructor
  · rintro ⟨c, hc, hkey⟩
    have hkey : c.key py = py.norm column := by simpa using hkey
    rw [ColumnInfo.key, (lowerName_columns info hinfo c hc).norm_eq hpy, hcolumn.norm_eq hpy] at hkey
    exact ⟨info, hinfo, rfl, c, hc, hkey⟩
  · rintro ⟨info', hinfo', hsame, c, hc, rfl⟩
    obtain rfl := List.inj_on_of_nodup_map nodup_referenceNames hinfo' hinfo hsame
    exact ⟨c, hc, by simp [ColumnInfo.key]⟩

end Lookup

end TextToSql.Infrastructure
