import TextToSql.Library.Distance

namespace TextToSql.Library.BreadthFirst

open Graphs

variable {α : Type} [DecidableEq α]

structure Frontier (α : Type) where
  prev : α → Option α
  queue : List α

def scan (dst node : α) : List α → Frontier α → Frontier α ⊕ (α → Option α)
  | [], s => .inl s
  | nbr :: rest, s =>
    if (s.prev nbr).isSome then scan dst node rest s
    else
      let prev := Function.update s.prev nbr (some node)
      if nbr = dst then .inr prev else scan dst node rest ⟨prev, s.queue ++ [nbr]⟩

def trace (prev : α → Option α) (src : α) : ℕ → α → List α → Option (List α)
  | 0, _, _ => none
  | steps + 1, cur, path =>
    if cur = src then some path
    else
      match prev cur with
      | none => none
      | some node => trace prev src steps node (node :: path)

def search (next : α → List α) (src dst : α) (bound : ℕ) : ℕ → Frontier α → Option (List α)
  | 0, _ => none
  | steps + 1, s =>
    match s.queue with
    | [] => some []
    | node :: queue =>
      match scan dst node (next node) ⟨s.prev, queue⟩ with
      | .inl s => search next src dst bound steps s
      | .inr prev => trace prev src bound dst [dst]

/-- The search with at most so many rounds of each loop. -/
def path (next : α → List α) (src dst : α) (bound : ℕ) : Option (List α) :=
  if src = dst then some [src]
  else search next src dst bound bound ⟨Function.update (fun _ ↦ none) src (some src), [src]⟩

def Edge (next : α → List α) (u v : α) : Prop := v ∈ next u

variable {next : α → List α} {src dst : α}

/-- Each node that has been seen is one edge farther from the source than the node it was seen
from. -/
structure Seen (next : α → List α) (src : α) (prev : α → Option α) : Prop where
  root : prev src = some src
  parent : ∀ v u, prev v = some u → v ≠ src → (prev u).isSome ∧ Edge next u v ∧
    ∃ n, Distance (Edge next) src n u ∧ Distance (Edge next) src (n + 1) v

/-- The nodes still to be looked at are those of one layer and then of the next one. -/
structure Layered (next : α → List α) (src : α) (k : ℕ) (nodes : List α) : Prop where
  split : ∃ near far, nodes = near ++ far ∧ (∀ v ∈ near, Distance (Edge next) src k v) ∧
    ∀ v ∈ far, Distance (Edge next) src (k + 1) v

/-- The nodes that have been seen and are not to be looked at have only seen neighbours. -/
structure Swept (next : α → List α) (prev : α → Option α) (nodes : List α) : Prop where
  seen : ∀ v ∈ nodes, (prev v).isSome
  closed : ∀ v w, (prev v).isSome → v ∉ nodes → Edge next v w → (prev w).isSome

omit [DecidableEq α] in
theorem Layered.distance {k : ℕ} {nodes : List α} (h : Layered next src k nodes) {v : α}
    (hv : v ∈ nodes) : ∃ n, k ≤ n ∧ Distance (Edge next) src n v := by
  obtain ⟨near, far, rfl, hnear, hfar⟩ := h.split
  rcases List.mem_append.mp hv with hv | hv
  · exact ⟨k, Nat.le_refl k, hnear v hv⟩
  · exact ⟨k + 1, Nat.le_succ k, hfar v hv⟩

omit [DecidableEq α] in
theorem seen_of_steps {k : ℕ} {prev : α → Option α} {nodes : List α} (hseen : Seen next src prev)
    (hswept : Swept next prev nodes) (hlayered : Layered next src k nodes) {n : ℕ} {v : α}
    (h : Steps (Edge next) src n v) (hn : n ≤ k) : (prev v).isSome := by
  induction h with
  | zero => simp [hseen.root]
  | @succ n v w hsteps hedge ih =>
    refine hswept.closed v w (ih (by omega)) ?_ hedge
    intro hv
    obtain ⟨m, hm, hdistance⟩ := hlayered.distance hv
    have := hdistance.least n hsteps
    omega

omit [DecidableEq α] in
theorem distance_of_unseen {k : ℕ} {prev : α → Option α} {node nbr : α} {nodes : List α}
    (hseen : Seen next src prev) (hswept : Swept next prev nodes)
    (hlayered : Layered next src k nodes) (hnode : Distance (Edge next) src k node)
    (hedge : Edge next node nbr) (hnbr : prev nbr = none) :
    Distance (Edge next) src (k + 1) nbr := by
  refine ⟨.succ hnode.steps hedge, fun m hm ↦ ?_⟩
  by_contra hlt
  have := seen_of_steps hseen hswept hlayered hm (by omega)
  rw [hnbr] at this
  cases this

/-- What holds while the neighbours of a node are looked at. -/
structure Scanning (next : α → List α) (src dst : α) (k : ℕ) (node : α) (s : Frontier α) :
    Prop where
  seen : Seen next src s.prev
  swept : Swept next s.prev (node :: s.queue)
  layered : Layered next src k (node :: s.queue)
  distance : Distance (Edge next) src k node
  unseen : s.prev dst = none

theorem Seen.update {k : ℕ} {prev : α → Option α} {node nbr : α} (h : Seen next src prev)
    (hnode : Distance (Edge next) src k node) (hseen : (prev node).isSome)
    (hedge : Edge next node nbr) (hnbr : prev nbr = none)
    (hdistance : Distance (Edge next) src (k + 1) nbr) :
    Seen next src (Function.update prev nbr (some node)) := by
  have hne : nbr ≠ src := by
    rintro rfl
    rw [h.root] at hnbr
    cases hnbr
  have hkeeps (v : α) (hv : (prev v).isSome) : (Function.update prev nbr (some node) v).isSome := by
    rw [Function.update_apply]
    split
    · rfl
    · exact hv
  refine ⟨by rw [Function.update_of_ne hne.symm, h.root], ?_⟩
  intro v u hv hvsrc
  by_cases hvnbr : v = nbr
  · subst hvnbr
    rw [Function.update_self] at hv
    obtain rfl := Option.some.inj hv
    exact ⟨hkeeps _ hseen, hedge, k, hnode, hdistance⟩
  · rw [Function.update_of_ne hvnbr] at hv
    obtain ⟨hu, hedge', hn⟩ := h.parent v u hv hvsrc
    exact ⟨hkeeps u hu, hedge', hn⟩

namespace Scanning

variable {k : ℕ} {node nbr : α} {s : Frontier α}

omit [DecidableEq α] in
theorem nbr_distance (h : Scanning next src dst k node s) (hedge : Edge next node nbr)
    (hnbr : s.prev nbr = none) : Distance (Edge next) src (k + 1) nbr :=
  distance_of_unseen h.seen h.swept h.layered h.distance hedge hnbr

theorem seen_update (h : Scanning next src dst k node s) (hedge : Edge next node nbr)
    (hnbr : s.prev nbr = none) : Seen next src (Function.update s.prev nbr (some node)) :=
  h.seen.update h.distance (h.swept.seen node List.mem_cons_self) hedge hnbr
    (h.nbr_distance hedge hnbr)

theorem step (h : Scanning next src dst k node s) (hedge : Edge next node nbr)
    (hnbr : s.prev nbr = none) (hdst : nbr ≠ dst) :
    Scanning next src dst k node ⟨Function.update s.prev nbr (some node), s.queue ++ [nbr]⟩ := by
  refine ⟨h.seen_update hedge hnbr, ⟨?_, ?_⟩, ⟨?_⟩, h.distance, ?_⟩
  · intro v hv
    by_cases hvnbr : v = nbr
    · simp [hvnbr]
    · rw [← List.cons_append, List.mem_append, List.mem_singleton] at hv
      dsimp only
      rw [Function.update_of_ne hvnbr]
      exact h.swept.seen v (hv.resolve_right hvnbr)
  · intro v w hv hmem hvw
    rw [← List.cons_append, List.mem_append, List.mem_singleton, not_or] at hmem
    dsimp only at hv ⊢
    rw [Function.update_of_ne hmem.2] at hv
    rw [Function.update_apply]
    split
    · rfl
    · exact h.swept.closed v w hv hmem.1 hvw
  · obtain ⟨near, far, hsplit, hnear, hfar⟩ := h.layered.split
    refine ⟨near, far ++ [nbr], ?_, hnear, ?_⟩
    · rw [← List.cons_append, hsplit, List.append_assoc]
    · intro v hv
      rw [List.mem_append, List.mem_singleton] at hv
      rcases hv with hv | rfl
      · exact hfar v hv
      · exact h.nbr_distance hedge hnbr
  · dsimp only
    rw [Function.update_of_ne hdst.symm]
    exact h.unseen

end Scanning

theorem scan_cons (dst node nbr : α) (rest : List α) (s : Frontier α) :
    scan dst node (nbr :: rest) s =
      if (s.prev nbr).isSome then scan dst node rest s
      else if nbr = dst then .inr (Function.update s.prev nbr (some node))
      else scan dst node rest ⟨Function.update s.prev nbr (some node), s.queue ++ [nbr]⟩ := rfl

theorem scan_inl {k : ℕ} {node : α} {rest : List α} {s s' : Frontier α}
    (h : Scanning next src dst k node s) (hrest : ∀ nbr ∈ rest, Edge next node nbr)
    (hscan : scan dst node rest s = .inl s') :
    Scanning next src dst k node s' ∧ (∀ v, (s.prev v).isSome → (s'.prev v).isSome) ∧
      ∀ nbr ∈ rest, (s'.prev nbr).isSome := by
  induction rest generalizing s with
  | nil =>
    cases hscan
    exact ⟨h, fun _ hv ↦ hv, by simp⟩
  | cons nbr rest ih =>
    obtain ⟨hedge, hrest⟩ := List.forall_mem_cons.mp hrest
    rw [scan_cons] at hscan
    split at hscan
    · rename_i hnbr
      obtain ⟨h', hkeeps, hall⟩ := ih h hrest hscan
      exact ⟨h', hkeeps, List.forall_mem_cons.mpr ⟨hkeeps nbr hnbr, hall⟩⟩
    · rename_i hnbr
      have hnbr : s.prev nbr = none := by simpa using hnbr
      split at hscan
      · cases hscan
      · rename_i hdst
        obtain ⟨h', hkeeps, hall⟩ := ih (h.step hedge hnbr hdst) hrest hscan
        have hself : (s'.prev nbr).isSome := hkeeps nbr (by simp)
        refine ⟨h', fun v hv ↦ hkeeps v ?_, List.forall_mem_cons.mpr ⟨hself, hall⟩⟩
        dsimp only
        rw [Function.update_apply]
        split
        · rfl
        · exact hv

theorem scan_inr {k : ℕ} {node : α} {rest : List α} {s : Frontier α} {prev : α → Option α}
    (h : Scanning next src dst k node s) (hrest : ∀ nbr ∈ rest, Edge next node nbr)
    (hscan : scan dst node rest s = .inr prev) :
    Seen next src prev ∧ (prev dst).isSome ∧ Distance (Edge next) src (k + 1) dst := by
  induction rest generalizing s with
  | nil => cases hscan
  | cons nbr rest ih =>
    obtain ⟨hedge, hrest⟩ := List.forall_mem_cons.mp hrest
    rw [scan_cons] at hscan
    split at hscan
    · exact ih h hrest hscan
    · rename_i hnbr
      have hnbr : s.prev nbr = none := by simpa using hnbr
      split at hscan
      · rename_i hdst
        subst hdst
        obtain rfl := Sum.inr.inj hscan
        exact ⟨h.seen_update hedge hnbr, by simp, h.nbr_distance hedge hnbr⟩
      · rename_i hdst
        exact ih (h.step hedge hnbr hdst) hrest hscan

theorem trace_eq {prev : α → Option α} (h : Seen next src prev) {n : ℕ} {cur : α}
    (hcur : (prev cur).isSome) (hdistance : Distance (Edge next) src n cur) {steps : ℕ}
    (hsteps : n < steps) {path : List α} (hpath : IsPath (Edge next) cur dst path) :
    ∃ path', trace prev src steps cur path = some path' ∧ IsPath (Edge next) src dst path' ∧
      path'.length = n + path.length := by
  induction n generalizing cur steps path with
  | zero =>
    obtain rfl := steps_zero.mp hdistance.steps
    obtain ⟨steps, rfl⟩ := Nat.exists_eq_succ_of_ne_zero (Nat.ne_of_gt hsteps)
    exact ⟨path, by rw [trace, if_pos rfl], hpath, by simp⟩
  | succ n ih =>
    obtain ⟨steps, rfl⟩ := Nat.exists_eq_succ_of_ne_zero (Nat.ne_of_gt (Nat.zero_lt_of_lt hsteps))
    have hne : cur ≠ src := by
      rintro rfl
      exact absurd (hdistance.unique distance_self) (Nat.succ_ne_zero n)
    obtain ⟨u, hu⟩ := Option.isSome_iff_exists.mp hcur
    obtain ⟨hseen, hedge, m, hm, hm'⟩ := h.parent cur u hu hne
    obtain rfl : m = n := Nat.succ.inj (hm'.unique hdistance)
    obtain ⟨path', htrace, hpath', hlength⟩ :=
      ih hseen hm (Nat.lt_of_succ_lt_succ hsteps) (hpath.cons hedge)
    refine ⟨path', ?_, hpath', ?_⟩
    · rw [trace, if_neg hne, hu]
      exact htrace
    · rw [hlength, List.length_cons]
      omega

def rounds (nodes : List α) (s : Frontier α) : ℕ :=
  nodes.countP (fun v ↦ (s.prev v).isNone) + s.queue.length

theorem countP_update {nodes : List α} {prev : α → Option α} {nbr : α} (node : α) (hnodes : nbr ∈ nodes)
    (hnbr : prev nbr = none) :
    nodes.countP (fun v ↦ (Function.update prev nbr (some node) v).isNone) + 1 ≤
      nodes.countP fun v ↦ (prev v).isNone := by
  obtain ⟨front, back, rfl⟩ := List.append_of_mem hnodes
  have hmono (l : List α) : l.countP (fun v ↦ (Function.update prev nbr (some node) v).isNone) ≤
      l.countP fun v ↦ (prev v).isNone := by
    apply List.countP_mono_left
    intro v _ hv
    by_cases hvnbr : v = nbr
    · simp [hvnbr, hnbr]
    · simpa [Function.update_of_ne hvnbr] using hv
  have hfront := hmono front
  have hback := hmono back
  rw [List.countP_append, List.countP_append, List.countP_cons, List.countP_cons]
  simp only [Function.update_self, hnbr, Option.isNone_some, Option.isNone_none, if_true,
    Bool.false_eq_true, if_false]
  omega

theorem rounds_scan {nodes rest : List α} {node : α} {s s' : Frontier α} (hrest : rest ⊆ nodes)
    (hscan : scan dst node rest s = .inl s') :
    rounds nodes s' ≤ rounds nodes s ∧ (s.queue ⊆ nodes → s'.queue ⊆ nodes) := by
  induction rest generalizing s with
  | nil =>
    cases hscan
    exact ⟨Nat.le_refl _, id⟩
  | cons nbr rest ih =>
    obtain ⟨hnbr, hrest⟩ := List.cons_subset.mp hrest
    rw [scan_cons] at hscan
    split at hscan
    · exact ih hrest hscan
    · rename_i hunseen
      split at hscan
      · cases hscan
      · obtain ⟨hrounds, hqueue⟩ := ih hrest hscan
        have hunseen : s.prev nbr = none := by simpa using hunseen
        have := countP_update node hnbr hunseen
        refine ⟨hrounds.trans ?_, fun h ↦ hqueue ?_⟩
        · simp only [rounds, List.length_append, List.length_singleton]
          omega
        · exact List.append_subset.mpr ⟨h, List.cons_subset.mpr ⟨hnbr, List.nil_subset _⟩⟩

/-- A path from the one node to the other that no path is shorter than. -/
structure Shortest (E : α → α → Prop) (u v : α) (path : List α) : Prop where
  isPath : IsPath E u v path
  least : ∀ other, IsPath E u v other → path.length ≤ other.length
  nodup : path.Nodup

omit [DecidableEq α] in
theorem shortest_of_distance {E : α → α → Prop} {u v : α} {n : ℕ} {path : List α}
    (h : Distance E u n v) (hpath : IsPath E u v path) (hlength : path.length = n + 1) :
    Shortest E u v path where
  isPath := hpath
  least other hother := by
    rw [hlength]
    exact h.length_le hother
  nodup := by
    apply hpath.nodup
    intro m hm
    have := h.least m hm
    omega

/-- A search that has not met the destination yet. -/
structure Searching (next : α → List α) (src dst : α) (s : Frontier α) : Prop where
  seen : Seen next src s.prev
  swept : Swept next s.prev s.queue
  layered : ∃ k, Layered next src k s.queue
  unseen : s.prev dst = none

omit [DecidableEq α] in
theorem Searching.scanning {node : α} {queue : List α} {prev : α → Option α}
    (h : Searching next src dst ⟨prev, node :: queue⟩) :
    ∃ k, Scanning next src dst k node ⟨prev, queue⟩ := by
  obtain ⟨k, near, far, hsplit, hnear, hfar⟩ := h.layered
  cases near with
  | nil =>
    obtain rfl : node :: queue = far := hsplit
    exact ⟨k + 1, h.seen, h.swept, ⟨node :: queue, [], by simp, hfar, by simp⟩,
      hfar node List.mem_cons_self, h.unseen⟩
  | cons x near =>
    obtain ⟨rfl, htail⟩ := List.cons.inj hsplit
    exact ⟨k, h.seen, h.swept, ⟨node :: near, far, hsplit, hnear, hfar⟩,
      hnear node List.mem_cons_self, h.unseen⟩

omit [DecidableEq α] in
theorem Scanning.searching {k : ℕ} {node : α} {s : Frontier α}
    (h : Scanning next src dst k node s) (hall : ∀ nbr ∈ next node, (s.prev nbr).isSome) :
    Searching next src dst s := by
  refine ⟨h.seen, ⟨fun v hv ↦ h.swept.seen v (List.mem_cons_of_mem _ hv), ?_⟩, ?_, h.unseen⟩
  · intro v w hv hqueue hvw
    by_cases hnode : v = node
    · subst hnode
      exact hall w hvw
    · exact h.swept.closed v w hv (by simp [hnode, hqueue]) hvw
  · obtain ⟨near, far, hsplit, hnear, hfar⟩ := h.layered.split
    cases near with
    | nil =>
      rw [List.nil_append] at hsplit
      refine ⟨k + 1, s.queue, [], by simp, fun v hv ↦ hfar v ?_, by simp⟩
      rw [← hsplit]
      exact List.mem_cons_of_mem _ hv
    | cons x near =>
      obtain ⟨-, htail⟩ := List.cons.inj hsplit
      exact ⟨k, near, far, htail, fun v hv ↦ hnear v (List.mem_cons_of_mem _ hv), hfar⟩

theorem search_eq {nodes : List α} {bound : ℕ} (hsrc : src ∈ nodes)
    (hclosed : ∀ u ∈ nodes, ∀ v, Edge next u v → v ∈ nodes) (hbound : nodes.length ≤ bound)
    {steps : ℕ} {s : Frontier α} (h : Searching next src dst s) (hqueue : s.queue ⊆ nodes)
    (hsteps : rounds nodes s < steps) :
    ∃ path, search next src dst bound steps s = some path ∧
      (path = [] ∧ (∀ n, ¬Steps (Edge next) src n dst) ∨ Shortest (Edge next) src dst path) := by
  induction steps generalizing s with
  | zero => exact absurd hsteps (Nat.not_lt_zero _)
  | succ steps ih =>
    obtain ⟨prev, queue⟩ := s
    cases queue with
    | nil =>
      refine ⟨[], rfl, .inl ⟨rfl, fun n hn ↦ ?_⟩⟩
      obtain ⟨k, -⟩ := h.layered
      have hlayered : Layered next src n [] := ⟨[], [], rfl, by simp, by simp⟩
      have := seen_of_steps h.seen h.swept hlayered hn (Nat.le_refl n)
      rw [h.unseen] at this
      cases this
    | cons node queue =>
      obtain ⟨k, hscanning⟩ := h.scanning
      obtain ⟨hnode, hqueue⟩ := List.cons_subset.mp hqueue
      cases hscan : scan dst node (next node) ⟨prev, queue⟩ with
      | inl s =>
        obtain ⟨hscanning', -, hall⟩ := scan_inl hscanning (fun _ hnbr ↦ hnbr) hscan
        obtain ⟨hrounds, hsubset⟩ := rounds_scan (hclosed node hnode) hscan
        have hnext := ih (hscanning'.searching hall) (hsubset hqueue) ?_
        · simpa only [search, hscan] using hnext
        · simp only [rounds, List.length_cons] at hsteps hrounds ⊢
          omega
      | inr prev' =>
        obtain ⟨hseen, hdst, hdistance⟩ := scan_inr hscanning (fun _ hnbr ↦ hnbr) hscan
        have hlt := hdistance.lt_length hsrc hclosed
        obtain ⟨path, htrace, hpath, hlength⟩ :=
          trace_eq hseen hdst hdistance (hlt.trans_le hbound) (isPath_singleton dst)
        refine ⟨path, ?_, .inr (shortest_of_distance hdistance hpath hlength)⟩
        simpa only [search, hscan] using htrace

theorem searching_start (hne : src ≠ dst) :
    Searching next src dst ⟨Function.update (fun _ ↦ none) src (some src), [src]⟩ := by
  have hseen {v : α} (h : (Function.update (fun _ ↦ none) src (some src) v).isSome) : v = src := by
    by_contra hv
    rw [Function.update_of_ne hv] at h
    cases h
  refine ⟨⟨by simp, ?_⟩, ⟨by simp, ?_⟩, ⟨0, [src], [], rfl, ?_, by simp⟩, by simp [hne.symm]⟩
  · intro v u hv hvsrc
    exact absurd (hseen (Option.isSome_iff_exists.mpr ⟨u, hv⟩)) hvsrc
  · intro v w hv hqueue
    exact absurd (List.mem_singleton.mpr (hseen hv)) hqueue
  · intro v hv
    rw [List.mem_singleton.mp hv]
    exact distance_self

/-- With more rounds than there are nodes the search ends: with a shortest path, or with the empty
list when there is no path. -/
theorem path_eq {nodes : List α} {bound : ℕ} (hsrc : src ∈ nodes)
    (hclosed : ∀ u ∈ nodes, ∀ v, Edge next u v → v ∈ nodes) (hbound : nodes.length < bound) :
    ∃ p, path next src dst bound = some p ∧
      (p = [] ∧ (∀ n, ¬Steps (Edge next) src n dst) ∨ Shortest (Edge next) src dst p) := by
  by_cases hne : src = dst
  · subst hne
    refine ⟨[src], by rw [path, if_pos rfl], .inr ?_⟩
    exact shortest_of_distance distance_self (isPath_singleton src) rfl
  · rw [path, if_neg hne]
    refine search_eq hsrc hclosed hbound.le (searching_start hne) ?_ ?_
    · exact List.cons_subset.mpr ⟨hsrc, List.nil_subset _⟩
    · have hcount := @countP_update _ _ nodes (fun _ ↦ none) src src hsrc rfl
      have hlength := @List.countP_le_length α (fun _ ↦ (none : Option α).isNone) nodes
      simp only [rounds, List.length_singleton]
      omega

theorem trace_mono {prev : α → Option α} {steps steps' : ℕ} {cur : α} {path p : List α}
    (h : trace prev src steps cur path = some p) (hle : steps ≤ steps') :
    trace prev src steps' cur path = some p := by
  induction steps generalizing steps' cur path with
  | zero => cases h
  | succ steps ih =>
    obtain ⟨steps', rfl⟩ := Nat.exists_eq_add_of_le' (Nat.le_of_succ_le hle)
    cases steps' with
    | zero => omega
    | succ steps' =>
      rw [Nat.add_right_comm]
      rw [trace] at h ⊢
      split at h
      · rename_i hcur
        rw [if_pos hcur, h]
      · rename_i hcur
        rw [if_neg hcur]
        split at h
        · cases h
        · exact ih h (by omega)

theorem search_mono {bound bound' steps steps' : ℕ} {s : Frontier α} {p : List α}
    (h : search next src dst bound steps s = some p) (hbound : bound ≤ bound')
    (hle : steps ≤ steps') : search next src dst bound' steps' s = some p := by
  induction steps generalizing steps' s with
  | zero => cases h
  | succ steps ih =>
    cases steps' with
    | zero => omega
    | succ steps' =>
      rw [search] at h ⊢
      split at h
      · exact h
      · split at h
        · exact ih h (Nat.le_of_succ_le_succ hle)
        · exact trace_mono h hbound

theorem path_mono {bound bound' : ℕ} {p : List α} (h : path next src dst bound = some p)
    (hle : bound ≤ bound') : path next src dst bound' = some p := by
  rw [path] at h ⊢
  split at h
  · rename_i heq
    rw [if_pos heq, h]
  · rename_i hne
    rw [if_neg hne]
    exact search_mono h hle hle

end TextToSql.Library.BreadthFirst
