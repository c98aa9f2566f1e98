import TextToSql.Domain.Schema

namespace TextToSql.Domain

/-- What is documented of `str.lower`: it converts what is not lower case yet, and blanks and quotes
have no case. -/
structure Python.Lawful (py : Python) : Prop where
  lower_lower : ∀ s, py.lower (py.lower s) = py.lower s
  strip_lower : ∀ s, strip s = s → strip (py.lower s) = py.lower s
  unquote_lower : ∀ s, trimBy (· == '"') s.toList = s.toList →
    trimBy (· == '"') (py.lower s).toList = (py.lower s).toList

theorem map_trimBy {p : Char → Bool} {f : Char → Char} (hp : ∀ c, p (f c) = p c) (l : List Char) :
    trimBy p (l.map f) = (trimBy p l).map f := by
  have hc : p ∘ f = p := funext hp
  rw [trimBy, trimBy, List.dropWhile_map, hc, ← List.map_reverse, List.dropWhile_map, hc,
    List.map_reverse]

theorem Python.lawful_ascii : Python.ascii.Lawful where
  lower_lower s := by
    change asciiLower (asciiLower s) = asciiLower s
    simp [asciiLower, Function.comp_def]
  strip_lower s hs := by
    have hs := congrArg String.toList hs
    change strip (asciiLower s) = asciiLower s
    simp only [strip, String.toList_ofList] at hs
    simp only [strip, asciiLower, String.toList_ofList]
    rw [map_trimBy (test_toLower isSpace_of_isAlpha), hs]
  unquote_lower s hs := by
    change trimBy (· == '"') (asciiLower s).toList = (asciiLower s).toList
    simp only [asciiLower, String.toList_ofList]
    rw [map_trimBy (test_toLower quote_of_isAlpha), hs]

/-- A name without surrounding blanks or double quotes. -/
structure PlainName (name : String) : Prop where
  stripped : strip name = name
  unquoted : trimBy (· == '"') name.toList = name.toList

theorem PlainName.norm_eq {name : String} (h : PlainName name) (py : Python) :
    py.norm name = py.lower name := by
  rw [Python.norm, h.stripped, h.unquoted, String.ofList_toList]

theorem PlainName.norm_norm {name : String} (h : PlainName name) {py : Python} (hpy : py.Lawful) :
    py.norm (py.norm name) = py.norm name := by
  have hlower : PlainName (py.lower name) :=
    ⟨hpy.strip_lower name h.stripped, hpy.unquote_lower name h.unquoted⟩
  rw [h.norm_eq, hlower.norm_eq, hpy.lower_lower]

namespace DatabaseSchema

/-- Tables without a schema part, whose names are plain and differ when they are normalized. -/
structure Plain (py : Python) (schema : DatabaseSchema) : Prop where
  unqualified : ∀ t ∈ schema.tables, t.schemaName = none ∨ t.schemaName = some ""
  name : ∀ t ∈ schema.tables, PlainName t.name
  distinct : (schema.tables.map fun t ↦ py.norm t.name).Nodup

namespace Plain

variable {py : Python} {schema : DatabaseSchema} (h : schema.Plain py) {t t' : TableInfo}

include h

theorem qualifiedName_eq (ht : t ∈ schema.tables) : t.qualifiedName = t.name := by
  rcases h.unqualified t ht with hnone | hempty
  · rw [TableInfo.qualifiedName, hnone]
  · rw [TableInfo.qualifiedName, hempty]
    exact if_pos rfl

theorem key_eq (ht : t ∈ schema.tables) : t.key py = py.norm t.name := by
  rw [TableInfo.key, h.qualifiedName_eq ht]

theorem norm_key (hpy : py.Lawful) (ht : t ∈ schema.tables) : py.norm (t.key py) = t.key py := by
  rw [h.key_eq ht, (h.name t ht).norm_norm hpy]

theorem key_injective (ht : t ∈ schema.tables) (ht' : t' ∈ schema.tables)
    (hkey : t.key py = t'.key py) : t = t' := by
  rw [h.key_eq ht, h.key_eq ht'] at hkey
  exact List.inj_on_of_nodup_map h.distinct ht ht' hkey

theorem index_eq_some {k : String} : schema.index py k = some t ↔ t ∈ schema.tables ∧ t.key py = k := by
  have hkey {t : TableInfo} (hk : schema.index py k = some t) :
      t ∈ schema.tables ∧ t.key py = k := by
    obtain ⟨ht, hkey⟩ := indexed_index py schema k t hk
    rcases hkey with hkey | hkey
    · exact ⟨ht, hkey⟩
    · exact ⟨ht, (h.key_eq ht).trans hkey⟩
  constructor
  · exact hkey
  · rintro ⟨ht, rfl⟩
    have hsome := table_isSome py ht
    rw [DatabaseSchema.table, ← h.key_eq ht] at hsome
    obtain ⟨t', ht'⟩ := Option.isSome_iff_exists.mp hsome
    have hmem := indexed_index py schema _ t' ht'
    have hsame : t'.key py = t.key py := by
      rcases hmem.2 with hkey | hkey
      · exact hkey
      · exact (h.key_eq hmem.1).trans hkey
    rw [ht', h.key_injective hmem.1 ht hsame]

end Plain

end DatabaseSchema

end TextToSql.Domain
