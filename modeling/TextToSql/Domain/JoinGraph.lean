import TextToSql.Domain.PlainCatalog
import TextToSql.Library.Ball
import TextToSql.Library.Dictionary

namespace TextToSql.Domain

open Library Library.Graphs

/-- A dictionary from nodes to sets of nodes, in the order in which its keys were added. -/
abbrev Adjacency : Type := List (String × List String)

namespace Adjacency

def get (graph : Adjacency) (node : String) : List String := (graph.lookup node).getD []

def add (graph : Adjacency) (node nbr : String) : Adjacency :=
  Dictionary.upsert (fun nbrs ↦ (nbrs.getD []).insert nbr) node graph

theorem mem_get_add {graph : Adjacency} {node nbr u v : String} :
    v ∈ (graph.add node nbr).get u ↔ v ∈ graph.get u ∨ u = node ∧ v = nbr := by
  rw [get, get, add, Dictionary.lookup_upsert]
  split
  · rename_i hu
    simp [hu, or_comm]
  · rename_i hu
    simp [hu]

/-- The relation that the dictionary stands for. -/
def Edge (graph : Adjacency) (u v : String) : Prop := v ∈ graph.get u

end Adjacency

namespace DatabaseSchema

variable (py : Python) (schema : DatabaseSchema)

def addForeignKey (table : TableInfo) (graph : Adjacency) (fk : ForeignKeyRef) : Adjacency :=
  match schema.index py (py.norm fk.referredTable) with
  | none => graph
  | some referred =>
    (graph.add (table.key py) (referred.key py)).add (referred.key py) (table.key py)

def joinGraph : Adjacency :=
  schema.tables.foldl (fun graph table ↦
    table.foreignKeys.foldl (schema.addForeignKey py table) graph) []

def neighbors (tableKey : String) (hops : ℤ) : List String :=
  let graph := schema.joinGraph py
  let start := py.norm tableKey
  (BreadthFirst.grow graph.get (max 0 hops).toNat [start] [start]).filter (· ≠ start)

def subset (tableNames : List String) : DatabaseSchema :=
  let wanted := tableNames.map py.norm
  { dialect := schema.dialect
    tables := schema.tables.filter fun t ↦ t.key py ∈ wanted ∨ py.norm t.name ∈ wanted
    version := schema.version }

def References (table referred : TableInfo) : Prop :=
  ∃ fk ∈ table.foreignKeys, py.norm fk.referredTable = referred.key py

def Linked (u v : String) : Prop :=
  ∃ t ∈ schema.tables, ∃ t' ∈ schema.tables, (References py t t' ∨ References py t' t) ∧
    u = t.key py ∧ v = t'.key py

variable {py schema}

theorem edge_addForeignKey {table : TableInfo} {graph : Adjacency} {fk : ForeignKeyRef}
    {u v : String} : (schema.addForeignKey py table graph fk).Edge u v ↔ graph.Edge u v ∨
      ∃ referred, schema.index py (py.norm fk.referredTable) = some referred ∧
        (u = table.key py ∧ v = referred.key py ∨ u = referred.key py ∧ v = table.key py) := by
  rw [addForeignKey]
  split
  · rename_i hnone
    simp [hnone]
  · rename_i referred hsome
    simp only [Adjacency.Edge, Adjacency.mem_get_add, hsome, Option.some.injEq, exists_eq_left']
    exact or_assoc

theorem edge_foldl_foreignKeys {table : TableInfo} {fks : List ForeignKeyRef} {graph : Adjacency}
    {u v : String} : (fks.foldl (schema.addForeignKey py table) graph).Edge u v ↔ graph.Edge u v ∨
      ∃ fk ∈ fks, ∃ referred, schema.index py (py.norm fk.referredTable) = some referred ∧
        (u = table.key py ∧ v = referred.key py ∨ u = referred.key py ∧ v = table.key py) := by
  induction fks generalizing graph with
  | nil => simp
  | cons fk fks ih =>
    rw [List.foldl_cons, ih, edge_addForeignKey, or_assoc]
    simp

theorem edge_foldl_tables {tables : List TableInfo} {graph : Adjacency} {u v : String} :
    (tables.foldl (fun graph table ↦
      table.foreignKeys.foldl (schema.addForeignKey py table) graph) graph).Edge u v ↔
      graph.Edge u v ∨ ∃ table ∈ tables, ∃ fk ∈ table.foreignKeys, ∃ referred,
        schema.index py (py.norm fk.referredTable) = some referred ∧
          (u = table.key py ∧ v = referred.key py ∨ u = referred.key py ∧ v = table.key py) := by
  induction tables generalizing graph with
  | nil => simp
  | cons table tables ih =>
    rw [List.foldl_cons, ih, edge_foldl_foreignKeys, or_assoc]
    simp

theorem edge_joinGraph {u v : String} : (schema.joinGraph py).Edge u v ↔
    ∃ table ∈ schema.tables, ∃ fk ∈ table.foreignKeys, ∃ referred,
      schema.index py (py.norm fk.referredTable) = some referred ∧
        (u = table.key py ∧ v = referred.key py ∨ u = referred.key py ∧ v = table.key py) := by
  rw [joinGraph, edge_foldl_tables]
  simp [Adjacency.Edge, Adjacency.get]

theorem Plain.edge_joinGraph (h : schema.Plain py) {u v : String} :
    (schema.joinGraph py).Edge u v ↔ schema.Linked py u v := by
  rw [DatabaseSchema.edge_joinGraph]
  constructor
  · rintro ⟨t, ht, fk, hfk, t', hindex, hends⟩
    obtain ⟨ht', hkey⟩ := h.index_eq_some.mp hindex
    rcases hends with ⟨rfl, rfl⟩ | ⟨rfl, rfl⟩
    · exact ⟨t, ht, t', ht', .inl ⟨fk, hfk, hkey.symm⟩, rfl, rfl⟩
    · exact ⟨t', ht', t, ht, .inr ⟨fk, hfk, hkey.symm⟩, rfl, rfl⟩
  · rintro ⟨t, ht, t', ht', ⟨fk, hfk, hkey⟩ | ⟨fk, hfk, hkey⟩, rfl, rfl⟩
    · exact ⟨t, ht, fk, hfk, t', h.index_eq_some.mpr ⟨ht', hkey.symm⟩, .inl ⟨rfl, rfl⟩⟩
    · exact ⟨t', ht', fk, hfk, t, h.index_eq_some.mpr ⟨ht, hkey.symm⟩, .inr ⟨rfl, rfl⟩⟩

theorem edge_symm {u v : String} (h : (schema.joinGraph py).Edge u v) :
    (schema.joinGraph py).Edge v u := by
  obtain ⟨t, ht, fk, hfk, t', hindex, hends⟩ := edge_joinGraph.mp h
  exact edge_joinGraph.mpr ⟨t, ht, fk, hfk, t', hindex, hends.symm.imp And.symm And.symm⟩

theorem Linked.mem {u v : String} (h : schema.Linked py u v) :
    ∃ t ∈ schema.tables, v = t.key py := by
  obtain ⟨-, -, t', ht', -, -, rfl⟩ := h
  exact ⟨t', ht', rfl⟩

/-- The join graph is the symmetric relation of the foreign keys, and neighbours are the other
tables within a distance. -/
structure DistanceBalls (py : Python) (schema : DatabaseSchema) : Prop where
  symmetric : ∀ u v, (schema.joinGraph py).Edge u v → (schema.joinGraph py).Edge v u
  edges : ∀ u v, (schema.joinGraph py).Edge u v ↔ schema.Linked py u v
  ball : ∀ t ∈ schema.tables, ∀ (hops : ℤ) (v : String), v ∈ schema.neighbors py (t.key py) hops ↔
    (∃ t' ∈ schema.tables, v = t'.key py) ∧ v ≠ t.key py ∧
      ∃ n : ℕ, 1 ≤ n ∧ n ≤ hops ∧ Distance (schema.joinGraph py).Edge (t.key py) n v
  monotone : ∀ t ∈ schema.tables, ∀ hops hops' : ℤ, hops ≤ hops' →
    schema.neighbors py (t.key py) hops ⊆ schema.neighbors py (t.key py) hops'
  reciprocal : ∀ t ∈ schema.tables, ∀ t' ∈ schema.tables, ∀ hops : ℤ,
    t'.key py ∈ schema.neighbors py (t.key py) hops ↔ t.key py ∈ schema.neighbors py (t'.key py) hops

theorem mem_neighbors {name v : String} {hops : ℤ} : v ∈ schema.neighbors py name hops ↔
    v ≠ py.norm name ∧
      ∃ n : ℕ, 1 ≤ n ∧ n ≤ hops ∧ Distance (schema.joinGraph py).Edge (py.norm name) n v := by
  have hstart (v : String) : v ∈ [py.norm name] ↔
      Distance (schema.joinGraph py).Edge (py.norm name) 0 v := by
    rw [List.mem_singleton]
    constructor
    · rintro rfl
      exact distance_self
    · intro h
      exact steps_zero.mp h.steps
  have hseen (v : String) : v ∈ [py.norm name] ↔
      ∃ m ≤ 0, Distance (schema.joinGraph py).Edge (py.norm name) m v := by
    simp [hstart]
  have hgrow := BreadthFirst.mem_grow (max 0 hops).toNat hstart hseen v
  rw [neighbors, List.mem_filter, decide_eq_true_eq, and_comm, hgrow]
  refine and_congr_right fun hv ↦ ⟨?_, ?_⟩
  · rintro ⟨n, hn, hdistance⟩
    have hpos : n ≠ 0 := by
      rintro rfl
      exact hv (steps_zero.mp hdistance.steps)
    exact ⟨n, by omega, by omega, hdistance⟩
  · rintro ⟨n, hpos, hn, hdistance⟩
    exact ⟨n, by omega, hdistance⟩

theorem Plain.mem_of_distance (h : schema.Plain py) {u v : String} {n : ℕ} (hpos : 1 ≤ n)
    (hdistance : Distance (schema.joinGraph py).Edge u n v) : ∃ t ∈ schema.tables, v = t.key py := by
  obtain ⟨n, rfl⟩ := Nat.exists_eq_add_of_le hpos
  rw [Nat.add_comm] at hdistance
  obtain ⟨w, -, hedge⟩ := hdistance.pred
  exact (h.edge_joinGraph.mp hedge).mem

theorem distanceBalls (hpy : py.Lawful) (h : schema.Plain py) : schema.DistanceBalls py where
  symmetric _ _ := edge_symm
  edges _ _ := h.edge_joinGraph
  ball t ht hops v := by
    rw [mem_neighbors, h.norm_key hpy ht]
    constructor
    · rintro ⟨hv, n, hpos, hn, hdistance⟩
      exact ⟨h.mem_of_distance hpos hdistance, hv, n, hpos, hn, hdistance⟩
    · rintro ⟨-, hv⟩
      exact hv
  monotone t ht hops hops' hle v hv := by
    obtain ⟨hne, n, hpos, hn, hdistance⟩ := mem_neighbors.mp hv
    exact mem_neighbors.mpr ⟨hne, n, hpos, hn.trans hle, hdistance⟩
  reciprocal t ht t' ht' hops := by
    rw [mem_neighbors, mem_neighbors, h.norm_key hpy ht, h.norm_key hpy ht', ne_comm]
    refine and_congr_right fun _ ↦ ?_
    constructor
    · rintro ⟨n, hpos, hn, hdistance⟩
      exact ⟨n, hpos, hn, hdistance.symm fun _ _ ↦ edge_symm⟩
    · rintro ⟨n, hpos, hn, hdistance⟩
      exact ⟨n, hpos, hn, hdistance.symm fun _ _ ↦ edge_symm⟩

def ordersOfCustomers : DatabaseSchema where
  dialect := .sqlite
  tables := [{ name := "customers" }, { name := "orders", foreignKeys :=
    [{ columns := ["customer_id"], referredTable := "customers", referredColumns := ["id"] }] }]

theorem plain_ordersOfCustomers : ordersOfCustomers.Plain Python.ascii where
  unqualified t ht := by
    simp only [ordersOfCustomers, List.mem_cons, List.not_mem_nil, or_false] at ht
    rcases ht with rfl | rfl <;> exact .inl rfl
  name t ht := by
    simp only [ordersOfCustomers, List.mem_cons, List.not_mem_nil, or_false] at ht
    rcases ht with rfl | rfl <;> exact ⟨by decide +kernel, by decide +kernel⟩
  distinct := by decide +kernel

theorem distanceBalls_ordersOfCustomers : ordersOfCustomers.DistanceBalls Python.ascii :=
  distanceBalls Python.lawful_ascii plain_ordersOfCustomers

end DatabaseSchema

end TextToSql.Domain
