import TextToSql.Semantics.Scope

namespace TextToSql.Semantics

open Library Domain Sql

variable (e : Expression)

def ShownUnder (name : String) (ref : TableRef) : Prop :=
  SameLetters name ref.aliasOrName ∨ ∃ alias_ ∈ e.collect subqueryAlias, SameLetters name alias_

/-- A source shows a base column under the exposed name of its reference, or under the alias of a
derived table. -/
def Traced (s : Source) : Prop :=
  ∀ o ∈ s.columns, ∀ origin, o.origin = some origin → origin.ref ∈ e.tables ∧
    ShownUnder e s.name origin.ref

def TracedScope (scope : Scope) : Prop := ∀ frame ∈ scope.frames, ∀ s ∈ frame, Traced e s

def ReadTraced (r : Read) : Prop :=
  ∀ qualifier name, r.via = .column qualifier name →
    (qualifier, name) ∈ e.collect columnName ∧ name ≠ "*" ∧
      (qualifier ≠ "" → r.origin.ref ∈ e.tables ∧ ShownUnder e qualifier r.origin.ref)

structure TracedMeaning (m : Scoped) : Prop where
  frames : ∀ scope, (m.bind scope).frames = scope.frames
  sources : ∀ scope, ∀ s ∈ m.sources scope, Traced e s
  reads : ∀ scope, TracedScope e scope → ∀ r ∈ m.reads scope, ReadTraced e r

variable {e}

theorem ShownUnder.congr {name name' : String} {ref : TableRef} (h : ShownUnder e name ref)
    (hn : SameLetters name' name) : ShownUnder e name' ref := by
  rcases h with h | ⟨alias_, ha, h⟩
  · exact .inl (hn.trans h)
  · exact .inr ⟨alias_, ha, hn.trans h⟩

namespace TracedScope

variable {scope scope' : Scope}

theorem of_frames (h : TracedScope e scope) (hf : scope'.frames = scope.frames) :
    TracedScope e scope' := by
  intro frame hframe
  rw [hf] at hframe
  exact h frame hframe

theorem push (h : TracedScope e scope) {frame : List Source} (hf : ∀ s ∈ frame, Traced e s) :
    TracedScope e (scope.push frame) := by
  intro frame' hmem
  rcases List.mem_cons.mp hmem with rfl | hmem
  · exact hf
  · exact h frame' hmem

theorem withOutputs (h : TracedScope e scope) (outputs : List String) :
    TracedScope e (scope.withOutputs outputs) := h

theorem pop (h : TracedScope e scope) : TracedScope e scope.pop :=
  fun frame hframe ↦ h frame (List.mem_of_mem_tail hframe)

theorem here (h : TracedScope e scope) : ∀ s ∈ scope.here, Traced e s := by
  intro s hs
  rw [Scope.here] at hs
  cases hf : scope.frames with
  | nil => simp [hf] at hs
  | cons frame frames =>
    rw [hf] at hs
    exact h frame (by simp [hf]) s hs

end TracedScope

theorem mem_rename {names : List String} {os : List Output} {o : Output}
    (h : o ∈ rename names os) : ∃ o' ∈ os, o'.origin = o.origin := by
  induction names, os using rename.induct with
  | case1 name names o' os ih =>
    rw [rename] at h
    rcases List.mem_cons.mp h with rfl | h
    · exact ⟨o', List.mem_cons_self, rfl⟩
    · obtain ⟨o'', ho, h⟩ := ih h
      exact ⟨o'', .tail _ ho, h⟩
  | case2 os =>
    rw [rename] at h
    exact ⟨o, h, rfl⟩
  | case3 => simp [rename] at h

theorem mem_readsOf {via : Via} {os : List Output} {r : Read} (h : r ∈ readsOf via os) :
    r.via = via ∧ ∃ o ∈ os, o.origin = some r.origin := by
  obtain ⟨o, ho, h⟩ := List.mem_filterMap.mp h
  obtain ⟨origin, horigin, rfl⟩ := Option.map_eq_some_iff.mp h
  exact ⟨rfl, o, ho, horigin⟩

theorem readTraced_of_via {r : Read} (h : ∀ qualifier name, r.via ≠ .column qualifier name) :
    ReadTraced e r := fun qualifier name hv ↦ absurd hv (h qualifier name)

theorem readTraced_starReads {sources : List Source} {r : Read} (h : r ∈ starReads sources) :
    ReadTraced e r := by
  apply readTraced_of_via
  intro qualifier name hv
  rw [(mem_readsOf h).1] at hv
  cases hv

theorem readTraced_rowReads {dialect : SQLDialect} {name : String} {sources : List Source}
    {r : Read} (h : r ∈ rowReads dialect name sources) : ReadTraced e r := by
  unfold rowReads at h
  split at h
  · apply readTraced_of_via
    intro qualifier name hv
    rw [(mem_readsOf h).1] at hv
    cases hv
  · cases h

theorem mem_columnReads {via : Via} {name : String} {sources : List Source} {r : Read}
    (h : r ∈ columnReads via name sources) :
    r.via = via ∧ ∃ s ∈ sources, ∃ o ∈ s.columns, o.origin = some r.origin := by
  obtain ⟨hvia, o, ho, horigin⟩ := mem_readsOf h
  obtain ⟨s, hs, ho⟩ := List.mem_flatMap.mp ho
  exact ⟨hvia, s, hs, o, (List.mem_filter.mp ho).1, horigin⟩

theorem readTraced_resolve {dialect : SQLDialect} {scope : Scope} (hs : TracedScope e scope)
    {quoted quoted' : Bool} {qualifier name : String}
    (hc : (qualifier, name) ∈ e.collect columnName) {r : Read}
    (h : r ∈ resolve dialect scope (.column qualifier name) (dialect.fold quoted qualifier)
      (dialect.fold quoted' name)) : ReadTraced e r := by
  unfold resolve at h
  split at h
  · exact readTraced_starReads h
  rename_i hfolded
  have hstar : name ≠ "*" := by
    rintro rfl
    exact hfolded dialect.fold_star
  split at h
  · rename_i hq
    split at h
    · cases h
    split at h
    · exact readTraced_rowReads h
    · intro qualifier' name' hv
      rw [(mem_columnReads h).1] at hv
      cases hv
      exact ⟨hc, hstar, fun hne ↦ absurd (SQLDialect.fold_eq_empty.mp hq) hne⟩
  · rename_i hq
    rcases List.mem_append.mp h with h | h
    · intro qualifier' name' hv
      obtain ⟨hvia, s, hin, o, ho, horigin⟩ := mem_columnReads h
      rw [hvia] at hv
      cases hv
      obtain ⟨hnamed, frame, hframe, hsmem⟩ := mem_innermost hin
      obtain ⟨href, hname⟩ := hs frame hframe s hsmem o ho _ horigin
      rw [Source.name_of_answers hq hnamed] at hname
      exact ⟨hc, hstar, fun _ ↦ ⟨href, hname.congr (dialect.fold_sameLetters _ _).symm⟩⟩
    · exact readTraced_rowReads h

namespace Scoped

variable {schema : DatabaseSchema} {node : Node} {ms : List Scoped} {scope : Scope}
  (hms : ∀ m ∈ ms, TracedMeaning e m)

include hms

theorem bindAll_frames : (bindAll ms scope).frames = scope.frames := by
  induction ms generalizing scope with
  | nil => rfl
  | cons m ms ih =>
    have hrest : (bindAll ms (m.bind scope)).frames = (m.bind scope).frames :=
      ih fun m' h ↦ hms m' (.tail _ h)
    rw [bindAll, List.foldl_cons]
    exact hrest.trans ((hms m List.mem_cons_self).frames scope)

theorem traced_bindAll (hs : TracedScope e scope) : TracedScope e (bindAll ms scope) :=
  hs.of_frames (bindAll_frames hms)

theorem bindOf_frames : (bindOf node ms scope).frames = scope.frames := by
  unfold bindOf
  split
  · exact bindAll_frames hms
  · rfl
  · rfl

theorem traced_relationSources : ∀ s ∈ relationSources ms scope, Traced e s := by
  intro s hs
  obtain ⟨m, hm, hs⟩ := List.mem_flatMap.mp hs
  exact (hms m (List.mem_filter.mp hm).1).sources scope s hs

theorem traced_clauseSources : ∀ s ∈ clauseSources ms scope, Traced e s := by
  intro s hs
  obtain ⟨m, hm, hs⟩ := List.mem_flatMap.mp hs
  exact (hms m (List.mem_filter.mp hm).1).sources scope s hs

omit hms in
theorem traced_unnamed (name : String) (columns names : List String) :
    Traced e ⟨name, rename columns (unnamed names)⟩ := by
  intro o ho origin horigin
  obtain ⟨o', ho', h⟩ := mem_rename ho
  obtain ⟨n, -, rfl⟩ := List.mem_map.mp ho'
  rw [horigin] at h
  cases h

theorem traced_derivedSources {alias_ : String} {columns : List String}
    (ha : alias_ ≠ "" → ∃ name ∈ e.collect subqueryAlias, SameLetters alias_ name) :
    ∀ s ∈ derivedSources alias_ columns ms scope, Traced e s := by
  intro s hs
  unfold derivedSources at hs
  split at hs
  · obtain rfl := List.mem_singleton.mp hs
    exact traced_unnamed _ _ _
  split at hs
  · exact traced_relationSources hms s hs
  · rename_i hne
    obtain rfl := List.mem_singleton.mp hs
    intro o ho origin horigin
    obtain ⟨o', ho', h⟩ := mem_rename ho
    obtain ⟨s', hs', ho'⟩ := List.mem_flatMap.mp ho'
    have hbase := traced_relationSources hms s' hs' o' ho' origin (h.trans horigin)
    exact ⟨hbase.1, .inr (ha hne)⟩

omit hms in
theorem traced_table {ref : TableRef} (hr : ref ∈ e.tables) :
    Traced e ⟨ref.exposed schema.dialect, tableOutputs schema scope ref⟩ := by
  intro o ho origin horigin
  dsimp only at ho
  unfold tableOutputs at ho
  split at ho
  · exact traced_unnamed _ _ _ o ho origin horigin
  split at ho
  · obtain ⟨n, -, rfl⟩ := List.mem_map.mp ho
    cases horigin
  · obtain ⟨o', ho', h⟩ := mem_rename ho
    obtain ⟨column, -, rfl⟩ := List.mem_map.mp ho'
    rw [horigin] at h
    cases h
    exact ⟨hr, .inl (ref.exposed_sameLetters schema.dialect)⟩

theorem traced_sourcesOf (hn : ∃ n ∈ e.walk, n.label = node) :
    ∀ s ∈ sourcesOf schema (node.folded schema.dialect) ms scope, Traced e s := by
  obtain ⟨n, hn, rfl⟩ := hn
  intro s hs
  unfold sourcesOf at hs
  split at hs
  · rename_i ref ht
    have htable : n.label.type = .table ref := NodeType.eq_table_of_folded ht
    rcases List.mem_cons.mp hs with rfl | hs
    · exact traced_table (Expression.mem_tables.mpr ⟨n, hn, htable⟩)
    · exact traced_clauseSources hms s hs
  · rename_i alias_ columns ht
    obtain ⟨name, columns', hsubquery, hsame⟩ := NodeType.eq_subquery_of_folded ht
    refine traced_derivedSources hms (fun hne ↦ ⟨name, Expression.mem_collect.mpr ⟨n, hn, ?_⟩,
      hsame⟩) s hs
    have hname : name ≠ "" := hsame.eq_empty_iff.not.mp hne
    simp [hsubquery, subqueryAlias, hname]
  · unfold lateralSources at hs
    split at hs <;> obtain rfl := List.mem_singleton.mp hs
    · exact traced_unnamed _ _ _
    · intro o ho origin horigin
      obtain ⟨n, -, rfl⟩ := List.mem_map.mp ho
      cases horigin
  · exact traced_relationSources hms s hs
  · exact traced_relationSources hms s hs
  · cases hs

variable {r : Read}

theorem readTraced_inert (hs : TracedScope e scope) (h : r ∈ inertReads ms scope) :
    ReadTraced e r := by
  obtain ⟨m, hm, h⟩ := List.mem_flatMap.mp h
  exact (hms m hm).reads _ (hs.withOutputs []) r h

theorem readTraced_with (hs : TracedScope e scope) (h : r ∈ withReads ms scope) :
    ReadTraced e r := by
  obtain ⟨m, hm, h⟩ := List.mem_flatMap.mp h
  exact (hms m (List.mem_filter.mp hm).1).reads _ hs r h

theorem readTraced_sequentially (hs : TracedScope e scope)
    (h : r ∈ sequentially Scoped.reads ms scope) : ReadTraced e r := by
  induction ms generalizing scope with
  | nil => cases h
  | cons m ms ih =>
    rcases List.mem_append.mp h with h | h
    · exact (hms m List.mem_cons_self).reads _ hs r h
    · exact ih (fun m' hm' ↦ hms m' (.tail _ hm'))
        (hs.of_frames ((hms m List.mem_cons_self).frames scope)) h

theorem readTraced_definitions {recursive : Bool} (hs : TracedScope e scope)
    (h : r ∈ definitions recursive Scoped.reads ms scope) : ReadTraced e r := by
  unfold definitions at h
  split at h
  · obtain ⟨m, hm, h⟩ := List.mem_flatMap.mp h
    exact (hms m hm).reads _ (traced_bindAll hms hs) r h
  · exact readTraced_sequentially hms hs h

omit hms in
theorem readTraced_clause {inner : Scope} {sources upTo : List Source} {outputs : List String}
    {m : Scoped} (hm : TracedMeaning e m) (hi : TracedScope e inner)
    (hsources : ∀ s ∈ sources, Traced e s) (hupTo : ∀ s ∈ upTo, Traced e s)
    (h : r ∈ clauseReads inner sources upTo outputs m) : ReadTraced e r := by
  have hall := hi.push hsources
  unfold clauseReads at h
  split at h
  · cases h
  · exact hm.reads _ hi r h
  · exact hm.reads _ (hi.push hupTo) r h
  · exact hm.reads _ (hi.push hupTo) r h
  · exact hm.reads _ (hall.withOutputs _) r h
  · exact hm.reads _ (hall.withOutputs _) r h
  · exact readTraced_starReads h
  · exact hm.reads _ hall r h

theorem readTraced_clauses {inner : Scope} {sources before : List Source}
    {outputs : List String} (hi : TracedScope e inner) (hsources : ∀ s ∈ sources, Traced e s)
    (hbefore : ∀ s ∈ before, Traced e s)
    (h : r ∈ clausesReads inner sources outputs before ms) : ReadTraced e r := by
  induction ms generalizing before with
  | nil => cases h
  | cons m ms ih =>
    have hm := hms m List.mem_cons_self
    have hupTo : ∀ s ∈ before ++ (if m.isRelationClause then m.sources inner else []),
        Traced e s := by
      intro s hs
      rcases List.mem_append.mp hs with hs | hs
      · exact hbefore s hs
      · split at hs
        · exact hm.sources inner s hs
        · cases hs
    rcases List.mem_append.mp h with h | h
    · exact readTraced_clause hm hi hsources hupTo h
    · exact ih (fun m' hm' ↦ hms m' (.tail _ hm')) hupTo h

theorem readTraced_select (hs : TracedScope e scope) (h : r ∈ selectReads ms scope) :
    ReadTraced e r := by
  rcases List.mem_append.mp h with h | h
  · exact readTraced_with hms hs h
  · exact readTraced_clauses hms (traced_bindAll hms hs) (traced_clauseSources hms)
      (List.forall_mem_nil _) h

theorem readTraced_set (hs : TracedScope e scope) (h : r ∈ setReads ms scope) :
    ReadTraced e r := by
  have hinner := traced_bindAll hms hs
  rcases List.mem_append.mp h with h | h
  · exact readTraced_with hms hs h
  · obtain ⟨m, hm, h⟩ := List.mem_flatMap.mp h
    have hm := hms m (List.mem_filter.mp hm).1
    split at h
    · exact hm.reads _ hinner r h
    · refine hm.reads _ ((hinner.push fun s hs ↦ ?_).withOutputs _) r h
      obtain rfl := List.mem_singleton.mp hs
      exact traced_unnamed "" [] _

theorem readTraced_join {method : String} (hs : TracedScope e scope)
    (h : r ∈ joinReads method ms scope) : ReadTraced e r := by
  rcases List.mem_append.mp h with h | h
  · obtain ⟨m, hm, h⟩ := List.mem_flatMap.mp h
    split at h
    · exact (hms m hm).reads _ hs.pop r h
    · exact (hms m hm).reads _ hs r h
  · split at h
    · apply readTraced_of_via
      intro qualifier name hv
      rw [(mem_readsOf h).1] at hv
      cases hv
    · cases h

theorem readTraced_ofNode (hn : ∃ n ∈ e.walk, n.label = node) (hs : TracedScope e scope)
    (h : r ∈ readsOfNode schema node ms scope) : ReadTraced e r := by
  obtain ⟨n, hn, rfl⟩ := hn
  have hchildren (h : r ∈ ms.flatMap (·.reads scope)) : ReadTraced e r := by
    obtain ⟨m, hm, h⟩ := List.mem_flatMap.mp h
    exact (hms m hm).reads _ hs r h
  unfold readsOfNode at h
  split at h
  · exact readTraced_select hms hs h
  · exact readTraced_set hms hs h
  · exact readTraced_set hms hs h
  · exact readTraced_definitions hms hs h
  · exact readTraced_join hms hs h
  · rename_i ref ht
    have htable : Traced e ⟨ref.exposed schema.dialect, tableOutputs schema scope ref⟩ :=
      traced_table (Expression.mem_tables.mpr ⟨n, hn, ht⟩)
    refine readTraced_clauses hms hs (fun s hs ↦ ?_) (fun s hs ↦ ?_) h
    · rcases List.mem_cons.mp hs with rfl | hs
      · exact htable
      · exact traced_clauseSources hms s hs
    · obtain rfl := List.mem_singleton.mp hs
      exact htable
  · rename_i qualifier name ht
    rcases List.mem_append.mp h with h | h
    · refine readTraced_resolve hs (Expression.mem_collect.mpr ⟨n, hn, ?_⟩) h
      rw [ht]
      rfl
    · exact readTraced_inert hms hs h
  · rcases List.mem_append.mp h with h | h
    · apply readTraced_of_via
      intro qualifier name hv
      rw [(mem_readsOf h).1] at hv
      cases hv
    · exact readTraced_inert hms hs h
  · exact hchildren h
  · exact hchildren h
  · exact hchildren h
  · exact readTraced_inert hms hs h

theorem tracedMeaning_ofNode (hn : ∃ n ∈ e.walk, n.label = node) :
    TracedMeaning e (ofNode schema node ms) where
  frames _ := bindOf_frames hms
  sources _ := traced_sourcesOf hms hn
  reads _ hs _ h := readTraced_ofNode hms hn hs h

end Scoped

theorem tracedMeaning_scoping (schema : DatabaseSchema) {t : Expression}
    (ht : ∀ n ∈ t.walk, n ∈ e.walk) : TracedMeaning e (scoping schema t) := by
  induction t using RoseTree.inductionOn with
  | node l ts ih =>
    rw [scoping_node]
    refine Scoped.tracedMeaning_ofNode ?_ ⟨_, ht _ (RoseTree.self_mem_walk _), rfl⟩
    intro m hm
    obtain ⟨t, hmem, rfl⟩ := List.mem_map.mp hm
    exact ih t hmem fun n hn ↦ ht n (RoseTree.mem_walk_of_child hmem hn)

/-- Every column that a statement reads is traced to a column reference of the statement. -/
theorem readTraced_of_mem {schema : DatabaseSchema} {r : Read} (h : r ∈ reads schema e) :
    ReadTraced e r :=
  (tracedMeaning_scoping schema fun _ hn ↦ hn).reads {} (fun _ hf ↦ nomatch hf) r h

end TextToSql.Semantics
