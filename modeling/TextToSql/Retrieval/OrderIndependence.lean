import TextToSql.Retrieval.JoinPaths

namespace TextToSql.Retrieval

open Domain Library Library.Graphs

/-- The same table with its foreign keys in some order. -/
structure SameTable (t t' : TableInfo) : Prop where
  same : t' = { t with foreignKeys := t'.foreignKeys }
  foreignKeys : t.foreignKeys.Perm t'.foreignKeys

/-- The same tables in some order. -/
def SameCatalog (schema schema' : DatabaseSchema) : Prop :=
  ∃ tables, schema.tables.Perm tables ∧ List.Forall₂ SameTable tables schema'.tables

/-- The same Python, whose sets are enumerated in another order. -/
def enumeratingBy (py : Python) (enumerate : List String → List String)
    (h : ∀ l, (enumerate l).Perm l.dedup) : Python :=
  { py with enumerate := enumerate, enumerate_perm := h }

theorem flatMap_perm {β γ : Type} {l l' : List β} (h : l.Perm l') {f : β → List γ}
    (hone : l.Pairwise fun a b ↦ f a = [] ∨ f b = []) : l.flatMap f = l'.flatMap f := by
  induction h with
  | nil => rfl
  | cons x _ ih => rw [List.flatMap_cons, List.flatMap_cons, ih (List.pairwise_cons.mp hone).2]
  | swap x y l =>
    have hxy := (List.pairwise_cons.mp hone).1 x List.mem_cons_self
    simp only [List.flatMap_cons, ← List.append_assoc]
    rcases hxy with hy | hx
    · rw [hy, List.nil_append, List.append_nil]
    · rw [hx, List.nil_append, List.append_nil]
  | trans hperm _ ih ih' =>
    rw [ih hone, ih' ((hperm.pairwise_iff Or.symm).mp hone)]

theorem forall₂_filter {β γ : Type} {R : β → γ → Prop} {p : β → Bool} {q : γ → Bool}
    (hpq : ∀ b c, R b c → p b = q c) {l : List β} {l' : List γ} (h : List.Forall₂ R l l') :
    List.Forall₂ R (l.filter p) (l'.filter q) := by
  induction h with
  | nil => exact .nil
  | cons hr _ ih =>
    rw [List.filter_cons, List.filter_cons, hpq _ _ hr]
    split
    · exact .cons hr ih
    · exact ih

def SameSignals (xs ys : List Signal) : Prop :=
  ∀ k, xs.filter (·.tableKey = k) = ys.filter (·.tableKey = k)

theorem SameSignals.append {xs xs' ys ys' : List Signal} (h : SameSignals xs ys)
    (h' : SameSignals xs' ys') : SameSignals (xs ++ xs') (ys ++ ys') := by
  intro k
  rw [List.filter_append, List.filter_append, h k, h' k]

theorem SameSignals.valuesOf {γ : Type} {xs ys : List Signal} (h : SameSignals xs ys) (f : Signal → γ)
    (k : String) : Dictionary.valuesOf k (xs.map fun s ↦ (s.tableKey, f s)) =
      Dictionary.valuesOf k (ys.map fun s ↦ (s.tableKey, f s)) := by
  have hvalues (zs : List Signal) : Dictionary.valuesOf k (zs.map fun s ↦ (s.tableKey, f s)) =
      (zs.filter (·.tableKey = k)).map f := by
    simp [Dictionary.valuesOf, List.filter_map, Function.comp_def]
  rw [hvalues, hvalues, h k]

theorem SameSignals.lookup_scores {xs ys : List Signal} (h : SameSignals xs ys) (k : String) :
    (scoresOf xs []).lookup k = (scoresOf ys []).lookup k := by
  rw [scoresOf, scoresOf, Dictionary.lookup_collect, Dictionary.lookup_collect, h.valuesOf]

theorem SameSignals.lookup_reasons {xs ys : List Signal} (h : SameSignals xs ys) (k : String) :
    (reasonsOf xs []).lookup k = (reasonsOf ys []).lookup k := by
  rw [reasonsOf, reasonsOf, Dictionary.lookup_collect, Dictionary.lookup_collect, h.valuesOf]

theorem ranks_antisymm {a b : String × ℚ} (h : ranks a b) (h' : ranks b a) : a = b := by
  have heq := le_antisymm h h'
  have hpair := toLex.injective heq
  obtain ⟨hscore, hkey⟩ := Prod.mk.inj hpair
  exact Prod.ext hkey (neg_injective hscore)

instance : Std.Total ranks := ⟨fun _ _ ↦ le_total _ _⟩

instance : IsTrans (String × ℚ) ranks := ⟨fun _ _ _ ↦ le_trans⟩

instance : Std.Total precedes := ⟨fun _ _ ↦ le_total _ _⟩

instance : IsTrans RetrievedObject precedes := ⟨fun _ _ _ ↦ le_trans⟩

theorem SameSignals.ranked {xs ys : List Signal} (h : SameSignals xs ys) :
    (scoresOf xs []).insertionSort ranks = (scoresOf ys []).insertionSort ranks := by
  have hperm := Dictionary.perm_of_lookup (nodup_keys_scoresOf xs) (nodup_keys_scoresOf ys)
    h.lookup_scores
  have hsorted := ((List.perm_insertionSort ranks _).trans hperm).trans
    (List.perm_insertionSort ranks _).symm
  exact hsorted.eq_of_pairwise (fun _ _ _ _ ↦ ranks_antisymm) (List.pairwise_insertionSort ranks _)
    (List.pairwise_insertionSort ranks _)

namespace SameTable

variable {t t' : TableInfo} (h : SameTable t t')

include h

theorem name : t'.name = t.name := by rw [h.same]

theorem schemaName : t'.schemaName = t.schemaName := by rw [h.same]

theorem qualifiedName : t'.qualifiedName = t.qualifiedName := by
  rw [TableInfo.qualifiedName, TableInfo.qualifiedName, h.schemaName, h.name]

theorem key (py : Python) : t'.key py = t.key py := by
  rw [TableInfo.key, TableInfo.key, h.qualifiedName]

end SameTable

section Catalogs

variable {py : Python} {schema schema' : DatabaseSchema} (hsame : SameCatalog schema schema')

include hsame

theorem SameCatalog.exists_same {t : TableInfo} (ht : t ∈ schema.tables) :
    ∃ t' ∈ schema'.tables, SameTable t t' := by
  obtain ⟨tables, hperm, hall⟩ := hsame
  obtain ⟨i, hi, rfl⟩ := List.mem_iff_getElem.mp (hperm.subset ht)
  have hi' : i < schema'.tables.length := hall.length_eq ▸ hi
  exact ⟨_, List.getElem_mem hi', hall.get hi hi'⟩

theorem SameCatalog.exists_same' {t' : TableInfo} (ht' : t' ∈ schema'.tables) :
    ∃ t ∈ schema.tables, SameTable t t' := by
  obtain ⟨tables, hperm, hall⟩ := hsame
  obtain ⟨i, hi, rfl⟩ := List.mem_iff_getElem.mp ht'
  have hi' : i < tables.length := hall.length_eq.symm ▸ hi
  exact ⟨_, hperm.symm.subset (List.getElem_mem hi'), hall.get hi' hi⟩

theorem SameCatalog.map_perm {β : Type} {f : TableInfo → β}
    (hf : ∀ t t', SameTable t t' → f t' = f t) :
    (schema'.tables.map f).Perm (schema.tables.map f) := by
  have hmap {xs ys : List TableInfo} (hall : List.Forall₂ SameTable xs ys) :
      ys.map f = xs.map f := by
    induction hall with
    | nil => rfl
    | cons ht _ ih => rw [List.map_cons, List.map_cons, hf _ _ ht, ih]
  obtain ⟨tables, hperm, hall⟩ := hsame
  rw [hmap hall]
  exact (hperm.map f).symm

theorem SameCatalog.plain (h : schema.Plain py) : schema'.Plain py where
  unqualified t' ht' := by
    obtain ⟨t, ht, hst⟩ := hsame.exists_same' ht'
    rw [hst.schemaName]
    exact h.unqualified t ht
  name t' ht' := by
    obtain ⟨t, ht, hst⟩ := hsame.exists_same' ht'
    rw [hst.name]
    exact h.name t ht
  distinct := by
    have hperm := @SameCatalog.map_perm _ _ hsame String (fun t ↦ py.norm t.name)
      fun t t' hst ↦ by rw [hst.name]
    exact hperm.nodup_iff.mpr h.distinct

theorem SameCatalog.index_same (h : schema.Plain py) (k : String) :
    (schema.index py k = none ∧ schema'.index py k = none) ∨ ∃ t t', SameTable t t' ∧
      schema.index py k = some t ∧ schema'.index py k = some t' := by
  cases hk : schema.index py k with
  | some t =>
    obtain ⟨ht, rfl⟩ := h.index_eq_some.mp hk
    obtain ⟨t', ht', hst⟩ := hsame.exists_same ht
    exact .inr ⟨t, t', hst, rfl, (hsame.plain h).index_eq_some.mpr ⟨ht', hst.key py⟩⟩
  | none =>
    cases hk' : schema'.index py k with
    | none => exact .inl ⟨rfl, rfl⟩
    | some t' =>
      obtain ⟨ht', rfl⟩ := (hsame.plain h).index_eq_some.mp hk'
      obtain ⟨t, ht, hst⟩ := hsame.exists_same' ht'
      rw [h.index_eq_some.mpr ⟨ht, (hst.key py).symm⟩] at hk
      cases hk

theorem SameCatalog.edge_iff (h : schema.Plain py) (u v : String) :
    (schema'.joinGraph py).Edge u v ↔ (schema.joinGraph py).Edge u v := by
  have hrefers {t t' r r' : TableInfo} (ht : SameTable t t') (hr : SameTable r r') :
      DatabaseSchema.References py t r ↔ DatabaseSchema.References py t' r' := by
    simp only [DatabaseSchema.References, hr.key py, ht.foreignKeys.mem_iff]
  rw [h.edge_joinGraph, (hsame.plain h).edge_joinGraph]
  constructor
  · rintro ⟨t', ht', r', hr', hlinked, rfl, rfl⟩
    obtain ⟨t, ht, hst⟩ := hsame.exists_same' ht'
    obtain ⟨r, hr, hsr⟩ := hsame.exists_same' hr'
    exact ⟨t, ht, r, hr, hlinked.imp (hrefers hst hsr).mpr (hrefers hsr hst).mpr, hst.key py,
      hsr.key py⟩
  · rintro ⟨t, ht, r, hr, hlinked, rfl, rfl⟩
    obtain ⟨t', ht', hst⟩ := hsame.exists_same ht
    obtain ⟨r', hr', hsr⟩ := hsame.exists_same hr
    exact ⟨t', ht', r', hr', hlinked.imp (hrefers hst hsr).mp (hrefers hsr hst).mp,
      (hst.key py).symm, (hsr.key py).symm⟩

theorem qualified_same (h : schema.Plain py) (k : String) :
    qualified py schema' k = qualified py schema k := by
  rcases hsame.index_same h (py.norm k) with ⟨hnone, hnone'⟩ | ⟨t, t', hst, hsome, hsome'⟩
  · rw [qualified, qualified, DatabaseSchema.table, DatabaseSchema.table, hnone, hnone']
  · rw [qualified, qualified, DatabaseSchema.table, DatabaseSchema.table, hsome, hsome']
    exact hst.qualifiedName

theorem tableSignals_same (h : schema.Plain py) (amount : ℚ) (reason : String)
    (names : List String) :
    tableSignals py schema' amount reason names = tableSignals py schema amount reason names := by
  rw [tableSignals, tableSignals]
  congr 1
  funext name
  rw [DatabaseSchema.table, DatabaseSchema.table]
  rcases hsame.index_same h (py.norm name) with ⟨hnone, hnone'⟩ | ⟨t, t', hst, hsome, hsome'⟩
  · rw [hnone, hnone']
  · rw [hsome, hsome']
    dsimp only
    rw [hst.key py]

end Catalogs

section Retrievals

variable {py : Python} {enumerate : List String → List String}
  (henumerate : ∀ l, (enumerate l).Perm l.dedup)

theorem lexicalSignals_same {t t' : TableInfo} (hst : SameTable t t') (tokens : List String) :
    lexicalSignals (enumeratingBy py enumerate henumerate) tokens t' =
      lexicalSignals py tokens t := by
  rw [hst.same]
  simp only [lexicalSignals, nameSignal, columnSignal, sortedEnumeration_eq]
  rfl

namespace LexicalSchemaRetriever

variable {schema schema' : DatabaseSchema} (hsame : SameCatalog schema schema')
  (h : schema.Plain py) (retriever : LexicalSchemaRetriever) (question : String)

include hsame h

theorem signals_same : SameSignals
    (retriever.signals (enumeratingBy py enumerate henumerate) question schema')
    (retriever.signals py question schema) := by
  refine SameSignals.append (SameSignals.append ?_ ?_) ?_
  · intro k
    rw [List.filter_flatMap, List.filter_flatMap]
    obtain ⟨tables, hperm, hall⟩ := id hsame
    have hpairwise : schema.tables.Pairwise fun t t' ↦
        ((lexicalSignals py (tokenize py question) t).filter (·.tableKey = k)) = [] ∨
          ((lexicalSignals py (tokenize py question) t').filter (·.tableKey = k)) = [] := by
      have hkeys : schema.tables.Pairwise fun t t' ↦ py.norm t.name ≠ py.norm t'.name :=
        List.pairwise_map.mp h.distinct
      refine hkeys.imp_of_mem ?_
      intro t t' ht ht' hne
      have hnil {t : TableInfo} (hk : t.key py ≠ k) :
          ((lexicalSignals py (tokenize py question) t).filter (·.tableKey = k)) = [] := by
        rw [List.filter_eq_nil_iff]
        intro s hs
        rw [decide_eq_true_eq, key_of_mem_lexicalSignals hs]
        exact hk
      by_cases hk : t.key py = k
      · right
        apply hnil
        rw [← hk, h.key_eq ht, h.key_eq ht']
        exact hne.symm
      · exact .inl (hnil hk)
    rw [flatMap_perm hperm hpairwise]
    revert hall
    generalize schema'.tables = tables'
    intro hall
    clear hperm
    induction hall with
    | nil => rfl
    | cons hst _ ih =>
      rw [List.flatMap_cons, List.flatMap_cons, lexicalSignals_same henumerate hst]
      exact congrArg _ ih
  · intro k
    congr 2
    funext term
    exact tableSignals_same hsame h _ _ _
  · intro k
    congr 2
    funext metric
    exact tableSignals_same hsame h _ _ _

theorem ranked_same :
    retriever.ranked (enumeratingBy py enumerate henumerate) question schema' =
      retriever.ranked py question schema :=
  (signals_same henumerate hsame h retriever question).ranked

theorem strongSeeds_same :
    retriever.strongSeeds (enumeratingBy py enumerate henumerate) question schema' =
      retriever.strongSeeds py question schema := by
  rw [strongSeeds, strongSeeds, ranked_same henumerate hsame h]

omit h in
theorem fallback_same :
    retriever.fallback (enumeratingBy py enumerate henumerate) schema' =
      retriever.fallback py schema := by
  have hkeys : (schema'.tables.map (TableInfo.key py)).Perm
      (schema.tables.map (TableInfo.key py)) := hsame.map_perm fun t t' hst ↦ hst.key py
  have hsorted := ((List.perm_insertionSort (· ≤ ·) _).trans hkeys).trans
    (List.perm_insertionSort (· ≤ ·) _).symm
  have heq := hsorted.eq_of_pairwise (fun _ _ _ _ hab hba ↦ le_antisymm hab hba)
    (List.pairwise_insertionSort (· ≤ ·) _) (List.pairwise_insertionSort (· ≤ ·) _)
  exact congrArg (sliceTo · retriever.topK) heq

theorem seeds_same :
    retriever.seeds (enumeratingBy py enumerate henumerate) question schema' =
      retriever.seeds py question schema := by
  rw [seeds, seeds, strongSeeds_same henumerate hsame h, fallback_same henumerate hsame]

theorem bridges_same :
    retriever.bridges (enumeratingBy py enumerate henumerate) question schema' =
      retriever.bridges py question schema := by
  have hpath : (fun p : String × String ↦ shortestPath (enumeratingBy py enumerate henumerate)
      (schema'.joinGraph (enumeratingBy py enumerate henumerate)) p.1 p.2) =
      fun p ↦ shortestPath py (schema.joinGraph py) p.1 p.2 := by
    funext p
    exact shortestPath_congr _ _ (hsame.edge_iff h) p.1 p.2
  rw [bridges, bridges, addBridges, addBridges, seeds_same henumerate hsame h, hpath]

theorem seedSignals_same : SameSignals
    (retriever.seedSignals (enumeratingBy py enumerate henumerate) question schema')
    (retriever.seedSignals py question schema) := by
  refine (signals_same henumerate hsame h retriever question).append fun k ↦ ?_
  rw [fallbackSignals, fallbackSignals, strongSeeds_same henumerate hsame h,
    fallback_same henumerate hsame]

omit hsame h in
theorem sameSignals_of_perm {l l' : List String} (hperm : l.Perm l') {f : String → Signal}
    (hf : ∀ k, (f k).tableKey = k) : SameSignals (l.map f) (l'.map f) := by
  intro k
  have hfilter (l : List String) : (l.map f).filter (·.tableKey = k) =
      (List.replicate (l.count k) k).map f := by
    rw [List.filter_map, ← List.filter_eq]
    congr 2
    funext j
    simp [hf]
  rw [hfilter, hfilter, hperm.count_eq]

theorem allSignals_same : SameSignals
    (retriever.allSignals (enumeratingBy py enumerate henumerate) question schema')
    (retriever.allSignals py question schema) := by
  have hseed := seedSignals_same henumerate hsame h retriever question
  refine hseed.append ?_
  simp only [bridgeSignals, bridges_same henumerate hsame h, hseed.lookup_scores]
  apply sameSignals_of_perm ?_ fun _ ↦ rfl
  exact ((henumerate _).trans (py.enumerate_perm _).symm).filter _

theorem object_same (k : String) :
    retriever.object (enumeratingBy py enumerate henumerate) question schema' k =
      retriever.object py question schema k := by
  have hsignals := allSignals_same henumerate hsame h retriever question
  have hqualified : qualified (enumeratingBy py enumerate henumerate) schema' k =
      qualified py schema k := qualified_same hsame h k
  rw [object, object, hsignals.lookup_scores, hsignals.lookup_reasons, hqualified]

theorem selectedKeys_same :
    (retriever.selectedKeys (enumeratingBy py enumerate henumerate) question schema').Perm
      (retriever.selectedKeys py question schema) := by
  have hplain : schema'.Plain (enumeratingBy py enumerate henumerate) :=
    ⟨(hsame.plain h).unqualified, (hsame.plain h).name, (hsame.plain h).distinct⟩
  have hkeys := @perm_selectedKeys _ retriever question _ hplain
  rw [seeds_same henumerate hsame h, bridges_same henumerate hsame h] at hkeys
  exact hkeys.trans (perm_selectedKeys h).symm

omit hsame in
theorem precedes_antisymm (hpy : py.Lawful) {a b : RetrievedObject}
    (ha : a ∈ (retriever.retrieve py question schema).selected)
    (hb : b ∈ (retriever.retrieve py question schema).selected) (hab : precedes a b)
    (hba : precedes b a) : a = b := by
  obtain ⟨k, hk, rfl⟩ := List.mem_map.mp ((List.perm_insertionSort precedes _).subset ha)
  obtain ⟨k', hk', rfl⟩ := List.mem_map.mp ((List.perm_insertionSort precedes _).subset hb)
  have hpair := toLex.injective (le_antisymm hab hba)
  have hname : qualified py schema k = qualified py schema k' := (Prod.mk.inj hpair).2
  rw [← norm_qualified hpy h hk, hname, norm_qualified hpy h hk']

/-- The order of the tables, of their foreign keys and of every set is of no consequence. -/
theorem retrieve_same (hpy : py.Lawful) :
    (retriever.retrieve (enumeratingBy py enumerate henumerate) question schema').selected =
        (retriever.retrieve py question schema).selected ∧
      SameCatalog (retriever.retrieve py question schema).schemaSubset
        (retriever.retrieve (enumeratingBy py enumerate henumerate) question
          schema').schemaSubset := by
  have hkeys := selectedKeys_same henumerate hsame h retriever question
  have hobject : retriever.object (enumeratingBy py enumerate henumerate) question schema' =
      retriever.object py question schema := by
    funext k
    exact object_same henumerate hsame h retriever question k
  constructor
  · have hperm : (retriever.retrieve (enumeratingBy py enumerate henumerate) question
        schema').selected.Perm (retriever.retrieve py question schema).selected := by
      have hobjects := hkeys.map (retriever.object py question schema)
      rw [retrieve, retrieve, hobject]
      exact ((List.perm_insertionSort precedes _).trans hobjects).trans
        (List.perm_insertionSort precedes _).symm
    refine hperm.eq_of_pairwise ?_ (List.pairwise_insertionSort precedes _)
      (List.pairwise_insertionSort precedes _)
    intro a b ha hb hab hba
    exact precedes_antisymm h retriever question hpy (hperm.subset ha) hb hab hba
  · obtain ⟨tables, hperm, hall⟩ := id hsame
    have hwanted := (hkeys.map (qualified py schema)).map py.norm
    have hnames : qualified (enumeratingBy py enumerate henumerate) schema' = qualified py schema := by
      funext k
      have hname : qualified py schema' k = qualified py schema k := qualified_same hsame h k
      exact hname
    refine ⟨_, hperm.filter _, forall₂_filter ?_ hall⟩
    intro t t' hst
    have hkey : t'.key (enumeratingBy py enumerate henumerate) = t.key py := hst.key py
    have hnorm : (enumeratingBy py enumerate henumerate).norm = py.norm := rfl
    rw [decide_eq_decide, hnames, hkey, hnorm, hst.name, hwanted.mem_iff, hwanted.mem_iff]

end LexicalSchemaRetriever

end Retrievals

def backwards (schema : DatabaseSchema) : DatabaseSchema :=
  { schema with tables := schema.tables.reverse }

theorem sameCatalog_backwards (schema : DatabaseSchema) : SameCatalog schema (backwards schema) :=
  ⟨_, (List.reverse_perm _).symm, List.forall₂_same.mpr fun _ _ ↦ ⟨rfl, .refl _⟩⟩

theorem retrieve_same_orders :
    (LexicalSchemaRetriever.retrieve (enumeratingBy .ascii (fun l ↦ l.dedup.reverse)
        fun _ ↦ List.reverse_perm _) { semantic := {} } "orders by customers"
        (backwards DatabaseSchema.ordersOfCustomers)).selected =
      (LexicalSchemaRetriever.retrieve .ascii { semantic := {} } "orders by customers"
        DatabaseSchema.ordersOfCustomers).selected ∧
      SameCatalog (LexicalSchemaRetriever.retrieve .ascii { semantic := {} } "orders by customers"
          DatabaseSchema.ordersOfCustomers).schemaSubset
        (LexicalSchemaRetriever.retrieve (enumeratingBy .ascii (fun l ↦ l.dedup.reverse)
          fun _ ↦ List.reverse_perm _) { semantic := {} } "orders by customers"
          (backwards DatabaseSchema.ordersOfCustomers)).schemaSubset :=
  LexicalSchemaRetriever.retrieve_same _ (sameCatalog_backwards _)
    DatabaseSchema.plain_ordersOfCustomers _ _ Python.lawful_ascii

end TextToSql.Retrieval
