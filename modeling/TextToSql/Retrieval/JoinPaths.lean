import TextToSql.Infrastructure.ReferenceSchema
import TextToSql.Retrieval.Retriever

namespace TextToSql.Retrieval

open Domain Infrastructure Library Library.Graphs

section Signals

variable {py : Python} {schema : DatabaseSchema}

def FromCatalog (py : Python) (schema : DatabaseSchema) (signals : List Signal) : Prop :=
  ∀ s ∈ signals, ∃ t ∈ schema.tables, s.tableKey = t.key py

theorem FromCatalog.append {xs ys : List Signal} (h : FromCatalog py schema xs)
    (h' : FromCatalog py schema ys) : FromCatalog py schema (xs ++ ys) := by
  intro s hs
  rcases List.mem_append.mp hs with hs | hs
  · exact h s hs
  · exact h' s hs

theorem FromCatalog.flatMap {β : Type} {l : List β} {f : β → List Signal}
    (h : ∀ b ∈ l, FromCatalog py schema (f b)) : FromCatalog py schema (l.flatMap f) := by
  intro s hs
  obtain ⟨b, hb, hs⟩ := List.mem_flatMap.mp hs
  exact h b hb s hs

theorem key_of_mem_lexicalSignals {tokens : List String} {t : TableInfo} {s : Signal}
    (h : s ∈ lexicalSignals py tokens t) : s.tableKey = t.key py := by
  rw [lexicalSignals, List.mem_append, List.mem_append] at h
  rcases h with (h | h) | h
  · dsimp only [nameSignal] at h
    split at h
    · cases h
    · rw [List.mem_singleton.mp h]
  · dsimp only [columnSignal] at h
    split at h
    · cases h
    · rw [List.mem_singleton.mp h]
  · rw [commentSignal] at h
    split at h
    · cases h
    · split at h
      · rw [List.mem_singleton.mp h]
      · cases h

theorem fromCatalog_tableSignals (amount : ℚ) (reason : String) (names : List String) :
    FromCatalog py schema (tableSignals py schema amount reason names) := by
  apply FromCatalog.flatMap
  intro name _ s hs
  split at hs
  · cases hs
  · rename_i t ht
    rw [List.mem_singleton.mp hs]
    exact ⟨t, DatabaseSchema.table_mem py ht, rfl⟩

theorem fromCatalog_signals (retriever : LexicalSchemaRetriever) (question : String) :
    FromCatalog py schema (retriever.signals py question schema) := by
  refine FromCatalog.append (FromCatalog.append ?_ ?_) ?_
  · exact FromCatalog.flatMap fun t ht s hs ↦ ⟨t, ht, key_of_mem_lexicalSignals hs⟩
  · exact FromCatalog.flatMap fun _ _ ↦ fromCatalog_tableSignals _ _ _
  · exact FromCatalog.flatMap fun _ _ ↦ fromCatalog_tableSignals _ _ _

theorem nodup_keys_scoresOf (signals : List Signal) : (Dictionary.keys (scoresOf signals [])).Nodup :=
  Dictionary.nodup_collect List.nodup_nil

theorem mem_keys_scoresOf {signals : List Signal} {k : String} :
    k ∈ Dictionary.keys (scoresOf signals []) ↔ ∃ s ∈ signals, s.tableKey = k := by
  rw [scoresOf, Dictionary.mem_keys_collect]
  simp

end Signals

theorem sliceTo_sublist {α : Type} (l : List α) (k : ℤ) : (sliceTo l k).Sublist l := by
  rw [sliceTo]
  split <;> exact List.take_sublist _ _

theorem length_sliceTo_le {α : Type} (l : List α) {k : ℤ} (hk : 0 ≤ k) :
    ((sliceTo l k).length : ℤ) ≤ k := by
  rw [sliceTo, if_pos hk, List.length_take]
  omega

theorem mem_pairs {l : List String} {u v : String} (hu : u ∈ l) (hv : v ∈ l) (hne : u ≠ v) :
    (u, v) ∈ pairs l ∨ (v, u) ∈ pairs l := by
  induction l with
  | nil => cases hu
  | cons x rest ih =>
    rw [pairs, List.mem_append, List.mem_append]
    rcases List.mem_cons.mp hu with rfl | hu'
    · have hv' := (List.mem_cons.mp hv).resolve_left hne.symm
      exact .inl (.inl (List.mem_map_of_mem hv'))
    · rcases List.mem_cons.mp hv with rfl | hv'
      · exact .inr (.inl (List.mem_map_of_mem hu'))
      · exact (ih hu' hv').imp .inr .inr

theorem of_mem_pairs {l : List String} {p : String × String} (h : p ∈ pairs l) :
    p.1 ∈ l ∧ p.2 ∈ l := by
  induction l with
  | nil => cases h
  | cons x rest ih =>
    rw [pairs, List.mem_append] at h
    rcases h with h | h
    · obtain ⟨v, hv, rfl⟩ := List.mem_map.mp h
      exact ⟨List.mem_cons_self, List.mem_cons_of_mem _ hv⟩
    · obtain ⟨hu, hv⟩ := ih h
      exact ⟨List.mem_cons_of_mem _ hu, List.mem_cons_of_mem _ hv⟩

theorem eraseDups_of_nodup {l : List String} (h : l.Nodup) : l.eraseDups = l := by
  induction l with
  | nil => rfl
  | cons x rest ih =>
    obtain ⟨hx, hrest⟩ := List.nodup_cons.mp h
    have hfilter : rest.filter (fun y ↦ !y == x) = rest := by
      rw [List.filter_eq_self]
      intro y hy
      have hne : y ≠ x := by
        rintro rfl
        exact hx hy
      simpa using hne
    rw [List.eraseDups_cons, hfilter, ih hrest]

namespace LexicalSchemaRetriever

section Seeds

variable {py : Python} {retriever : LexicalSchemaRetriever} {question : String}
  {schema : DatabaseSchema}

theorem perm_ranked : (retriever.ranked py question schema).Perm
    (scoresOf (retriever.signals py question schema) []) := List.perm_insertionSort _ _

theorem nodup_strongSeeds : (retriever.strongSeeds py question schema).Nodup := by
  have hnodup := (perm_ranked.map Prod.fst).nodup_iff.mpr
    (nodup_keys_scoresOf (retriever.signals py question schema))
  exact hnodup.sublist ((sliceTo_sublist _ _).map Prod.fst)

theorem strongSeeds_fromCatalog {k : String} (h : k ∈ retriever.strongSeeds py question schema) :
    ∃ t ∈ schema.tables, k = t.key py := by
  have hmem := ((sliceTo_sublist _ _).map Prod.fst).subset h
  have hkeys := (perm_ranked.map Prod.fst).subset hmem
  obtain ⟨s, hs, rfl⟩ := mem_keys_scoresOf.mp hkeys
  exact fromCatalog_signals retriever question s hs

theorem fallback_fromCatalog {k : String} (h : k ∈ retriever.fallback py schema) :
    ∃ t ∈ schema.tables, k = t.key py := by
  have hmem := (sliceTo_sublist _ _).subset h
  obtain ⟨t, ht, rfl⟩ := List.mem_map.mp ((List.perm_insertionSort _ _).subset hmem)
  exact ⟨t, ht, rfl⟩

theorem seeds_fromCatalog {k : String} (h : k ∈ retriever.seeds py question schema) :
    ∃ t ∈ schema.tables, k = t.key py := by
  rw [seeds] at h
  split at h
  · exact fallback_fromCatalog h
  · exact strongSeeds_fromCatalog h

theorem length_seeds_le (hk : 0 ≤ retriever.topK) :
    ((retriever.seeds py question schema).length : ℤ) ≤ retriever.topK := by
  rw [seeds]
  split
  · exact length_sliceTo_le _ hk
  · rw [strongSeeds, List.length_map]
    exact length_sliceTo_le _ hk

theorem nodup_seeds (h : schema.Plain py) : (retriever.seeds py question schema).Nodup := by
  rw [seeds]
  split
  · have hkeys : (schema.tables.map (TableInfo.key py)).Nodup := by
      rw [List.map_congr_left fun t ht ↦ h.key_eq ht]
      exact h.distinct
    exact ((List.perm_insertionSort _ _).nodup_iff.mpr hkeys).sublist (sliceTo_sublist _ _)
  · exact nodup_strongSeeds

theorem mem_bridges {k : String} : k ∈ retriever.bridges py question schema ↔
    k ∉ retriever.seeds py question schema ∧ ∃ p ∈ pairs (retriever.seeds py question schema),
      k ∈ shortestPath py (schema.joinGraph py) p.1 p.2 := by
  simp only [bridges, addBridges, List.mem_filter, List.mem_dedup, List.mem_append,
    List.mem_flatMap, decide_eq_true_eq]
  constructor
  · rintro ⟨hseed | hpath, hnot⟩
    · exact absurd hseed hnot
    · exact ⟨hnot, hpath⟩
  · rintro ⟨hnot, hpath⟩
    exact ⟨.inr hpath, hnot⟩

theorem nodup_seeds_bridges (h : schema.Plain py) : (retriever.seeds py question schema ++
    py.enumerate (retriever.bridges py question schema)).Nodup := by
  rw [List.nodup_append]
  refine ⟨nodup_seeds h, (py.enumerate_perm _).nodup_iff.mpr (List.nodup_dedup _), ?_⟩
  rintro k hk _ hk' rfl
  exact (mem_bridges.mp (py.mem_enumerate.mp hk')).1 hk

theorem selectedKeys_eq (h : schema.Plain py) : retriever.selectedKeys py question schema =
    retriever.seeds py question schema ++ py.enumerate (retriever.bridges py question schema) :=
  eraseDups_of_nodup (nodup_seeds_bridges h)

theorem perm_selectedKeys (h : schema.Plain py) : (retriever.selectedKeys py question schema).Perm
    (retriever.seeds py question schema ++ retriever.bridges py question schema) := by
  have hnodup : (retriever.bridges py question schema).Nodup := (List.nodup_dedup _).filter _
  rw [selectedKeys_eq h]
  refine List.Perm.append_left _ ((py.enumerate_perm _).trans ?_)
  rw [hnodup.dedup]

theorem nodup_selectedKeys (h : schema.Plain py) :
    (retriever.selectedKeys py question schema).Nodup := by
  rw [selectedKeys_eq h]
  exact nodup_seeds_bridges h

theorem path_fromCatalog (h : schema.Plain py) {u v k : String} {path : List String}
    (hu : ∃ t ∈ schema.tables, u = t.key py) (hpath : IsPath (schema.joinGraph py).Edge u v path)
    (hk : k ∈ path) : ∃ t ∈ schema.tables, k = t.key py := by
  obtain ⟨front, back, rfl⟩ := List.append_of_mem hk
  have hsteps := hpath.split.1
  cases hlength : front.length with
  | zero =>
    rw [hlength] at hsteps
    rw [steps_zero.mp hsteps]
    exact hu
  | succ n =>
    rw [hlength] at hsteps
    obtain ⟨w, -, hedge⟩ := steps_succ.mp hsteps
    exact (h.edge_joinGraph.mp hedge).mem

/-- A bridge lies on a shortest path between two seeds. -/
theorem bridge_on_path {k : String} (hk : k ∈ retriever.bridges py question schema) :
    ∃ u ∈ retriever.seeds py question schema, ∃ v ∈ retriever.seeds py question schema,
      ∃ path, BreadthFirst.Shortest (schema.joinGraph py).Edge u v path ∧ k ∈ path := by
  obtain ⟨-, p, hp, hk⟩ := mem_bridges.mp hk
  obtain ⟨hu, hv⟩ := of_mem_pairs hp
  rcases shortestPath_spec py (schema.joinGraph py) p.1 p.2 with ⟨hnil, -⟩ | hshortest
  · rw [hnil] at hk
    cases hk
  · exact ⟨p.1, hu, p.2, hv, _, hshortest, hk⟩

theorem mem_selectedKeys (h : schema.Plain py) {k : String} :
    k ∈ retriever.selectedKeys py question schema ↔
      k ∈ retriever.seeds py question schema ∨ k ∈ retriever.bridges py question schema := by
  rw [(perm_selectedKeys h).mem_iff, List.mem_append]

theorem selectedKeys_fromCatalog (h : schema.Plain py) {k : String}
    (hk : k ∈ retriever.selectedKeys py question schema) : ∃ t ∈ schema.tables, k = t.key py := by
  rcases (mem_selectedKeys h).mp hk with hk | hk
  · exact seeds_fromCatalog hk
  · obtain ⟨u, hu, v, -, path, hshortest, hmem⟩ := bridge_on_path hk
    exact path_fromCatalog h (seeds_fromCatalog hu) hshortest.isPath hmem

section Subset

variable (hpy : py.Lawful) (h : schema.Plain py)

include hpy h

theorem qualified_key {t : TableInfo} (ht : t ∈ schema.tables) :
    qualified py schema (t.key py) = t.qualifiedName := by
  have htable : schema.table py (t.key py) = some t := by
    rw [DatabaseSchema.table, h.norm_key hpy ht]
    exact h.index_eq_some.mpr ⟨ht, rfl⟩
  rw [qualified, htable]

theorem norm_qualified {k : String} (hk : k ∈ retriever.selectedKeys py question schema) :
    py.norm (qualified py schema k) = k := by
  obtain ⟨t, ht, rfl⟩ := selectedKeys_fromCatalog h hk
  rw [qualified_key hpy h ht]
  rfl

theorem mem_schemaSubset {t : TableInfo} :
    t ∈ (retriever.retrieve py question schema).schemaSubset.tables ↔
      t ∈ schema.tables ∧ t.key py ∈ retriever.selectedKeys py question schema := by
  have hwanted : ((retriever.selectedKeys py question schema).map (qualified py schema)).map py.norm =
      retriever.selectedKeys py question schema := by
    rw [List.map_map, List.map_congr_left (g := id), List.map_id]
    exact fun k hk ↦ norm_qualified hpy h hk
  rw [retrieve, DatabaseSchema.subset, List.mem_filter, hwanted]
  refine and_congr_right fun ht ↦ ?_
  rw [decide_eq_true_eq, ← h.key_eq ht, or_self]

theorem plain_schemaSubset : (retriever.retrieve py question schema).schemaSubset.Plain py where
  unqualified t ht := h.unqualified t ((mem_schemaSubset hpy h).mp ht).1
  name t ht := h.name t ((mem_schemaSubset hpy h).mp ht).1
  distinct := h.distinct.sublist (List.filter_sublist.map _)

theorem edge_schemaSubset {u v : String} :
    ((retriever.retrieve py question schema).schemaSubset.joinGraph py).Edge u v ↔
      (schema.joinGraph py).Edge u v ∧ u ∈ retriever.selectedKeys py question schema ∧
        v ∈ retriever.selectedKeys py question schema := by
  rw [(plain_schemaSubset hpy h).edge_joinGraph, h.edge_joinGraph]
  constructor
  · rintro ⟨t, ht, t', ht', hrefers, rfl, rfl⟩
    obtain ⟨ht, hkey⟩ := (mem_schemaSubset hpy h).mp ht
    obtain ⟨ht', hkey'⟩ := (mem_schemaSubset hpy h).mp ht'
    exact ⟨⟨t, ht, t', ht', hrefers, rfl, rfl⟩, hkey, hkey'⟩
  · rintro ⟨⟨t, ht, t', ht', hrefers, rfl, rfl⟩, hkey, hkey'⟩
    exact ⟨t, (mem_schemaSubset hpy h).mpr ⟨ht, hkey⟩, t', (mem_schemaSubset hpy h).mpr ⟨ht', hkey'⟩,
      hrefers, rfl, rfl⟩

theorem isPath_schemaSubset {u v : String} {path : List String}
    (hpath : IsPath (schema.joinGraph py).Edge u v path)
    (hall : ∀ k ∈ path, k ∈ retriever.selectedKeys py question schema) :
    IsPath ((retriever.retrieve py question schema).schemaSubset.joinGraph py).Edge u v path where
  chain := hpath.chain.imp_of_mem_imp fun k k' hk hk' hedge ↦
    (edge_schemaSubset hpy h).mpr ⟨hedge, hall k hk, hall k' hk'⟩
  head := hpath.head
  last := hpath.last

theorem distance_of_pair {u v : String} {n : ℕ}
    (hp : (u, v) ∈ pairs (retriever.seeds py question schema))
    (hn : Distance (schema.joinGraph py).Edge u n v) :
    Distance ((retriever.retrieve py question schema).schemaSubset.joinGraph py).Edge u n v := by
  refine ⟨?_, fun m hm ↦ hn.least m (hm.imp fun _ _ hedge ↦ ((edge_schemaSubset hpy h).mp hedge).1)⟩
  rcases shortestPath_spec py (schema.joinGraph py) u v with ⟨-, hnone⟩ | hshortest
  · exact absurd hn.steps (hnone n)
  · have hpath := isPath_schemaSubset hpy h hshortest.isPath fun k hk ↦ by
      rw [mem_selectedKeys h, mem_bridges]
      by_cases hseed : k ∈ retriever.seeds py question schema
      · exact .inl hseed
      · exact .inr ⟨hseed, (u, v), hp, hk⟩
    obtain ⟨other, hother, hlength⟩ := hn.steps.exists_path
    have hle := hshortest.least other hother
    have hge := hn.length_le hshortest.isPath
    have heq : (shortestPath py (schema.joinGraph py) u v).length - 1 = n := by omega
    rw [← heq]
    exact hpath.steps

theorem distance_seeds {u v : String} (hu : u ∈ retriever.seeds py question schema)
    (hv : v ∈ retriever.seeds py question schema) {n : ℕ}
    (hn : Distance (schema.joinGraph py).Edge u n v) :
    Distance ((retriever.retrieve py question schema).schemaSubset.joinGraph py).Edge u n v := by
  by_cases hne : u = v
  · subst hne
    rw [hn.unique distance_self]
    exact distance_self
  · rcases mem_pairs hu hv hne with hp | hp
    · exact distance_of_pair hpy h hp hn
    · have hback := distance_of_pair hpy h hp (hn.symm fun _ _ ↦ DatabaseSchema.edge_symm)
      exact hback.symm fun _ _ ↦ DatabaseSchema.edge_symm

end Subset

end Seeds

/-- What a retrieval selects: the seeds and the tables on shortest paths between them. -/
structure KeepsJoinPaths (py : Python) (retriever : LexicalSchemaRetriever) (question : String)
    (schema : DatabaseSchema) : Prop where
  selected : (retriever.retrieve py question schema).tableNames.Perm
    ((retriever.seeds py question schema ++ retriever.bridges py question schema).map
      (qualified py schema))
  distance : ∀ u ∈ retriever.seeds py question schema, ∀ v ∈ retriever.seeds py question schema,
    ∀ n, Distance (schema.joinGraph py).Edge u n v →
      Distance ((retriever.retrieve py question schema).schemaSubset.joinGraph py).Edge u n v
  bridge : ∀ t ∈ schema.tables,
    t.qualifiedName ∈ (retriever.retrieve py question schema).tableNames →
    t.key py ∉ retriever.seeds py question schema →
    ∃ u ∈ retriever.seeds py question schema, ∃ v ∈ retriever.seeds py question schema,
      ∃ path, BreadthFirst.Shortest (schema.joinGraph py).Edge u v path ∧ t.key py ∈ path
  seeds : (retriever.seeds py question schema).length ≤ retriever.topK
  nodup : (retriever.retrieve py question schema).tableNames.Nodup
  subset : ∀ t, t ∈ (retriever.retrieve py question schema).schemaSubset.tables ↔
    t ∈ schema.tables ∧ t.qualifiedName ∈ (retriever.retrieve py question schema).tableNames
  catalog : ∀ name ∈ (retriever.retrieve py question schema).tableNames,
    ∃ t ∈ schema.tables, t.qualifiedName = name

section Names

variable {py : Python} {retriever : LexicalSchemaRetriever} {question : String}
  {schema : DatabaseSchema}

theorem perm_tableNames : (retriever.retrieve py question schema).tableNames.Perm
    ((retriever.selectedKeys py question schema).map (qualified py schema)) := by
  have hperm := (List.perm_insertionSort precedes ((retriever.selectedKeys py question schema).map
    (retriever.object py question schema))).map RetrievedObject.table
  rwa [List.map_map] at hperm

theorem mem_tableNames (hpy : py.Lawful) (h : schema.Plain py) {t : TableInfo}
    (ht : t ∈ schema.tables) :
    t.qualifiedName ∈ (retriever.retrieve py question schema).tableNames ↔
      t.key py ∈ retriever.selectedKeys py question schema := by
  rw [perm_tableNames.mem_iff, List.mem_map]
  constructor
  · rintro ⟨k, hk, hname⟩
    have hkey := norm_qualified hpy h hk
    rw [hname] at hkey
    rw [TableInfo.key, hkey]
    exact hk
  · intro hk
    exact ⟨t.key py, hk, qualified_key hpy h ht⟩

end Names

theorem keepsJoinPaths (py : Python) (retriever : LexicalSchemaRetriever) (question : String)
    (schema : DatabaseSchema) (hpy : py.Lawful) (h : schema.Plain py) (hk : 1 ≤ retriever.topK) :
    KeepsJoinPaths py retriever question schema where
  selected := perm_tableNames.trans ((perm_selectedKeys h).map _)
  distance u hu v hv n := distance_seeds hpy h hu hv
  bridge t ht hname hseed := by
    rw [mem_tableNames hpy h ht, mem_selectedKeys h] at hname
    exact bridge_on_path (hname.resolve_left hseed)
  seeds := length_seeds_le (by omega)
  nodup := by
    rw [perm_tableNames.nodup_iff]
    apply (nodup_selectedKeys h).map_on
    intro k hmem k' hmem' heq
    rw [← norm_qualified hpy h hmem, heq, norm_qualified hpy h hmem']
  subset t := by
    rw [mem_schemaSubset hpy h]
    exact and_congr_right fun ht ↦ (mem_tableNames hpy h ht).symm
  catalog name hname := by
    obtain ⟨k, hmem, rfl⟩ := List.mem_map.mp (perm_tableNames.subset hname)
    obtain ⟨t, ht, rfl⟩ := selectedKeys_fromCatalog h hmem
    exact ⟨t, ht, (qualified_key hpy h ht).symm⟩

def ordersOfRegions : DatabaseSchema := { referenceSchema with tables := [regions, customers, orders] }

theorem plain_ordersOfRegions : ordersOfRegions.Plain .ascii where
  unqualified := by decide +kernel
  name := by
    intro t ht
    constructor <;> revert t <;> decide +kernel
  distinct := by decide +kernel

def twoTables : LexicalSchemaRetriever where
  semantic := { tableAnnotations := [] }
  topK := 2

theorem keepsJoinPaths_orders :
    twoTables.seeds .ascii "orders by region" ordersOfRegions = ["orders", "regions"] ∧
      twoTables.bridges .ascii "orders by region" ordersOfRegions = ["customers"] ∧
      KeepsJoinPaths .ascii twoTables "orders by region" ordersOfRegions :=
  ⟨by decide +kernel, by decide +kernel,
    keepsJoinPaths _ _ _ _ Python.lawful_ascii plain_ordersOfRegions (by decide)⟩

end LexicalSchemaRetriever

end TextToSql.Retrieval
