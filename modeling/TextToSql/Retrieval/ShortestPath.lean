import TextToSql.Domain.JoinGraph

namespace TextToSql.Retrieval

open Domain Library Library.Graphs

def sortedEnumeration (py : Python) (s : List String) : List String :=
  (py.enumerate s).insertionSort (· ≤ ·)

/-- `_shortest_path`, with a bound on the rounds of its loops. -/
def shortestPathIn (py : Python) (rounds : ℕ) (graph : Adjacency) (src dst : String) :
    Option (List String) :=
  BreadthFirst.path (fun node ↦ sortedEnumeration py (graph.get node)) src dst rounds

def nodesFrom (graph : Adjacency) (src : String) : List String :=
  src :: graph.flatMap fun entry ↦ entry.1 :: entry.2

def shortestPath (py : Python) (graph : Adjacency) (src dst : String) : List String :=
  (shortestPathIn py ((nodesFrom graph src).length + 1) graph src dst).getD []

theorem sortedEnumeration_eq (py : Python) (s : List String) :
    sortedEnumeration py s = sortedSet s := by
  have hperm := ((List.perm_insertionSort (· ≤ ·) (py.enumerate s)).trans (py.enumerate_perm s)).trans
    (List.perm_insertionSort (· ≤ ·) s.dedup).symm
  exact hperm.eq_of_pairwise (fun a b _ _ hab hba ↦ le_antisymm hab hba)
    (List.pairwise_insertionSort (· ≤ ·) _) (List.pairwise_insertionSort (· ≤ ·) _)

theorem edge_eq (py : Python) (graph : Adjacency) :
    BreadthFirst.Edge (fun node ↦ sortedEnumeration py (graph.get node)) = graph.Edge := by
  funext u v
  rw [BreadthFirst.Edge, sortedEnumeration_eq, mem_sortedSet]
  rfl

theorem mem_nodesFrom {graph : Adjacency} {src u v : String} (h : graph.Edge u v) :
    v ∈ nodesFrom graph src := by
  rw [Adjacency.Edge, Adjacency.get] at h
  cases hlookup : graph.lookup u with
  | none => simp [hlookup] at h
  | some nbrs =>
    rw [hlookup, Option.getD_some] at h
    refine List.mem_cons_of_mem _ (List.mem_flatMap.mpr ⟨(u, nbrs), ?_, List.mem_cons_of_mem _ h⟩)
    obtain ⟨front, back, rfl, -⟩ := List.lookup_eq_some_iff.mp hlookup
    simp

theorem shortestPathIn_eq (py : Python) (graph : Adjacency) (src dst : String) {rounds : ℕ}
    (hrounds : (nodesFrom graph src).length < rounds) :
    ∃ path, shortestPathIn py rounds graph src dst = some path ∧
      (path = [] ∧ (∀ n, ¬Steps graph.Edge src n dst) ∨
        BreadthFirst.Shortest graph.Edge src dst path) := by
  have h := @BreadthFirst.path_eq _ _ (fun node ↦ sortedEnumeration py (graph.get node)) src dst
    (nodesFrom graph src) rounds List.mem_cons_self ?_ hrounds
  · rwa [edge_eq] at h
  · intro u _ v hedge
    rw [edge_eq] at hedge
    exact mem_nodesFrom hedge

theorem shortestPathIn_shortestPath (py : Python) (graph : Adjacency) (src dst : String)
    {rounds : ℕ} (hrounds : (nodesFrom graph src).length < rounds) :
    shortestPathIn py rounds graph src dst = some (shortestPath py graph src dst) := by
  obtain ⟨path, hpath, -⟩ := shortestPathIn_eq py graph src dst (Nat.lt_succ_self _)
  rw [shortestPath, hpath, Option.getD_some]
  exact BreadthFirst.path_mono hpath hrounds

theorem shortestPath_spec (py : Python) (graph : Adjacency) (src dst : String) :
    (shortestPath py graph src dst = [] ∧ ∀ n, ¬Steps graph.Edge src n dst) ∨
      BreadthFirst.Shortest graph.Edge src dst (shortestPath py graph src dst) := by
  obtain ⟨path, hpath, hspec⟩ := shortestPathIn_eq py graph src dst (Nat.lt_succ_self _)
  rw [shortestPath, hpath, Option.getD_some]
  exact hspec

theorem shortestPathIn_congr (py py' : Python) {graph graph' : Adjacency}
    (h : ∀ u v, graph'.Edge u v ↔ graph.Edge u v) (rounds : ℕ) (src dst : String) :
    shortestPathIn py' rounds graph' src dst = shortestPathIn py rounds graph src dst := by
  have hnext : (fun node ↦ sortedEnumeration py' (graph'.get node)) =
      fun node ↦ sortedEnumeration py (graph.get node) := by
    funext node
    rw [sortedEnumeration_eq, sortedEnumeration_eq]
    exact sortedSet_congr (h node)
  rw [shortestPathIn, shortestPathIn, hnext]

theorem shortestPath_congr (py py' : Python) {graph graph' : Adjacency}
    (h : ∀ u v, graph'.Edge u v ↔ graph.Edge u v) (src dst : String) :
    shortestPath py' graph' src dst = shortestPath py graph src dst := by
  have hrounds := shortestPathIn_shortestPath py graph src dst
    (Nat.lt_succ_of_le (Nat.le_max_left _ (nodesFrom graph' src).length))
  have hrounds' := shortestPathIn_shortestPath py' graph' src dst
    (Nat.lt_succ_of_le (Nat.le_max_right (nodesFrom graph src).length _))
  rw [shortestPathIn_congr py py' h, hrounds] at hrounds'
  exact (Option.some.inj hrounds').symm

/-- What a search for a shortest path returns. -/
structure Found (graph : Adjacency) (src dst : String) (path : List String) : Prop where
  nil_iff : path = [] ↔ src ≠ dst ∧ ¬Relation.ReflTransGen graph.Edge src dst
  head : path ≠ [] → path.head? = some src
  last : path ≠ [] → path.getLast? = some dst
  nodup : path.Nodup
  chain : path.IsChain graph.Edge
  least : path ≠ [] → ∀ other, IsPath graph.Edge src dst other → path.length ≤ other.length

theorem found_shortestPath (py : Python) (graph : Adjacency) (src dst : String) :
    Found graph src dst (shortestPath py graph src dst) := by
  rcases shortestPath_spec py graph src dst with ⟨hnil, hnone⟩ | h
  · rw [hnil]
    refine ⟨iff_of_true rfl ⟨?_, ?_⟩, by simp, by simp, List.nodup_nil, .nil, by simp⟩
    · rintro rfl
      exact hnone 0 .zero
    · rw [reachable_iff]
      rintro ⟨n, hn⟩
      exact hnone n hn
  · refine ⟨iff_of_false h.isPath.ne_nil ?_, fun _ ↦ h.isPath.head, fun _ ↦ h.isPath.last, h.nodup,
      h.isPath.chain, fun _ ↦ h.least⟩
    rintro ⟨-, hnone⟩
    exact hnone (reachable_iff.mpr ⟨_, h.isPath.steps⟩)

/-- The search ends with one answer for every way to enumerate the sets of the graph. -/
theorem shortestPathIn_found (graph : Adjacency) (src dst : String) :
    ∃ path, Found graph src dst path ∧
      ∀ (py : Python) (graph' : Adjacency), (∀ u v, graph'.Edge u v ↔ graph.Edge u v) →
        ∃ bound, ∀ rounds ≥ bound, shortestPathIn py rounds graph' src dst = some path := by
  refine ⟨shortestPath .ascii graph src dst, found_shortestPath _ graph src dst, ?_⟩
  intro py graph' h
  refine ⟨(nodesFrom graph src).length + 1, fun rounds hrounds ↦ ?_⟩
  rw [shortestPathIn_congr .ascii py h]
  exact shortestPathIn_shortestPath _ graph src dst hrounds

end TextToSql.Retrieval
