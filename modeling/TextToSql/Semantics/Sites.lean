import TextToSql.Semantics.ReadOrigins

namespace TextToSql.Semantics

open Library Domain Sql

/-- An occurrence of a node and the names in scope there. -/
structure Site where
  scope : Scope
  node : Node

def Site.type (site : Site) : NodeType := site.node.type

namespace Scoped

def clauseScope (outer inner : Scope) (sources upTo : List Source) (outputs : List String)
    (m : Scoped) : Scope :=
  match m.node.type with
  | .with_ _ => outer
  | .from_ => inner
  | .join _ _ _ | .lateral _ _ => inner.push upTo
  | .order => (inner.push sources).withOutputs outputs
  | .group =>
    (inner.push sources).withOutputs (outputs.filter fun name ↦ !sources.any (Source.shows name))
  | _ => inner.push sources

def clauseScopes (outer inner : Scope) (sources : List Source) (outputs : List String) :
    List Source → List Scoped → List Scope
  | _, [] => []
  | before, m :: ms =>
    let upTo := before ++ if m.isRelationClause then m.sources inner else []
    clauseScope outer inner sources upTo outputs m ::
      clauseScopes outer inner sources outputs upTo ms

def sequentialScopes : Scope → List Scoped → List Scope
  | _, [] => []
  | scope, m :: ms => scope :: sequentialScopes (m.bind scope) ms

/-- The scope of every child, by the rules of `readsOfNode`. -/
def childScopes (schema : DatabaseSchema) (node : Node) (ms : List Scoped) (scope : Scope) :
    List Scope :=
  match node.type with
  | .select _ =>
    let inner := bindAll ms scope
    let sources := clauseSources ms inner
    clauseScopes scope inner sources (selectOutputs ms sources) [] ms
  | .setOperation _ _ | .subquery _ _ =>
    let inner := bindAll ms scope
    let outputs := innerOutputs ms inner
    ms.map fun m ↦
      if m.isWith then scope
      else if m.isQuery then inner
      else (inner.push [⟨"", unnamed outputs⟩]).withOutputs outputs
  | .with_ recursive =>
    if recursive then ms.map fun _ ↦ bindAll ms scope else sequentialScopes scope ms
  | .join _ _ _ =>
    ms.map fun m ↦ if m.node.key = .this ∧ m.isLateral = false then scope.pop else scope
  | .table ref =>
    let own : Source := ⟨ref.exposed schema.dialect, tableOutputs schema scope ref⟩
    clauseScopes scope scope (own :: clauseSources ms scope) [] [own] ms
  | .order | .ordered _ | .group => ms.map fun _ ↦ scope
  | _ => ms.map fun _ ↦ scope.withOutputs []

theorem clauseScopes_length {outer inner : Scope} {sources : List Source} {outputs : List String}
    (before : List Source) (ms : List Scoped) :
    (clauseScopes outer inner sources outputs before ms).length = ms.length := by
  induction ms generalizing before with
  | nil => rfl
  | cons m ms ih => rw [clauseScopes, List.length_cons, List.length_cons, ih]

theorem sequentialScopes_length (scope : Scope) (ms : List Scoped) :
    (sequentialScopes scope ms).length = ms.length := by
  induction ms generalizing scope with
  | nil => rfl
  | cons m ms ih => rw [sequentialScopes, List.length_cons, List.length_cons, ih]

theorem childScopes_length (schema : DatabaseSchema) (node : Node) (ms : List Scoped)
    (scope : Scope) : (childScopes schema node ms scope).length = ms.length := by
  unfold childScopes
  split
  · exact clauseScopes_length _ _
  · exact List.length_map _
  · exact List.length_map _
  · split
    · exact List.length_map _
    · exact sequentialScopes_length _ _
  · exact List.length_map _
  · exact clauseScopes_length _ _
  all_goals exact List.length_map _

end Scoped

mutual

def sites (schema : DatabaseSchema) : Expression → Scope → List Site
  | .node l ts, scope =>
    ⟨scope, l⟩ ::
      sitesAll schema ts (Scoped.childScopes schema l (ts.map (scoping schema)) scope)

def sitesAll (schema : DatabaseSchema) : List Expression → List Scope → List Site
  | t :: ts, scope :: scopes => sites schema t scope ++ sitesAll schema ts scopes
  | _, _ => []

end

variable {schema : DatabaseSchema} {site : Site}

theorem mem_sitesAll {ts : List Expression} {scopes : List Scope} :
    site ∈ sitesAll schema ts scopes ↔
      ∃ x ∈ ts.zip scopes, site ∈ sites schema x.1 x.2 := by
  induction ts generalizing scopes with
  | nil => simp [sitesAll]
  | cons t ts ih =>
    cases scopes with
    | nil => simp [sitesAll]
    | cons scope scopes => simp [sitesAll, ih]

theorem exists_zip {α β : Type} {xs : List α} {ys : List β} (h : ys.length = xs.length) {x : α}
    (hx : x ∈ xs) : ∃ y, (x, y) ∈ xs.zip ys := by
  have hmap : (xs.zip ys).map Prod.fst = xs := List.map_fst_zip (by omega)
  rw [← hmap] at hx
  obtain ⟨⟨x, y⟩, hxy, rfl⟩ := List.mem_map.mp hx
  exact ⟨y, hxy⟩

/-- Every node of a statement has a site. -/
theorem exists_site {n : Expression} (t : Expression) (hn : n ∈ t.walk) (scope : Scope) :
    ∃ scope', ⟨scope', n.label⟩ ∈ sites schema t scope := by
  induction t using RoseTree.inductionOn generalizing scope with
  | node l ts ih =>
    rcases (RoseTree.mem_walk_node l ts).mp hn with rfl | ⟨t, ht, hn⟩
    · exact ⟨scope, List.mem_cons_self⟩
    · have hlength : (Scoped.childScopes schema l (ts.map (scoping schema)) scope).length =
          ts.length := by
        rw [Scoped.childScopes_length, List.length_map]
      obtain ⟨inner, hinner⟩ := exists_zip hlength ht
      obtain ⟨scope', h⟩ := ih t ht hn inner
      exact ⟨scope', .tail _ (mem_sitesAll.mpr ⟨_, hinner, h⟩)⟩

variable (e : Expression)

def NamedScope (scope : Scope) : Prop :=
  ∀ c ∈ scope.ctes, c.1 = "" ∨ ∃ alias_ ∈ e.collect cteAlias, SameLetters c.1 alias_

/-- The scopes that can arise within a statement. -/
structure OwnScope (scope : Scope) : Prop where
  traced : TracedScope e scope
  named : NamedScope e scope

/-- A meaning that binds CTEs of the statement only. -/
structure OwnMeaning (m : Scoped) : Prop where
  traced : TracedMeaning e m
  named : ∀ scope, NamedScope e scope → NamedScope e (m.bind scope)

variable {e}

namespace OwnScope

variable {scope : Scope} (h : OwnScope e scope)

include h

theorem push {frame : List Source} (hf : ∀ s ∈ frame, Traced e s) :
    OwnScope e (scope.push frame) := ⟨h.traced.push hf, h.named⟩

theorem withOutputs (outputs : List String) : OwnScope e (scope.withOutputs outputs) :=
  ⟨h.traced.withOutputs outputs, h.named⟩

theorem pop : OwnScope e scope.pop := ⟨h.traced.pop, h.named⟩

end OwnScope

namespace Scoped

variable {node : Node} {ms : List Scoped} {scope scope' : Scope}

theorem own_bind {m : Scoped} (hm : OwnMeaning e m) (hs : OwnScope e scope) :
    OwnScope e (m.bind scope) :=
  ⟨hs.traced.of_frames (hm.traced.frames scope), hm.named scope hs.named⟩

theorem own_bindAll (hms : ∀ m ∈ ms, OwnMeaning e m) (hs : OwnScope e scope) :
    OwnScope e (bindAll ms scope) := by
  rw [bindAll]
  induction ms generalizing scope with
  | nil => exact hs
  | cons m ms ih =>
    rw [List.foldl_cons]
    apply ih (fun m' hm' ↦ hms m' (.tail _ hm'))
    exact own_bind (hms m List.mem_cons_self) hs

theorem named_bindAll (hms : ∀ m ∈ ms, OwnMeaning e m) (hs : NamedScope e scope) :
    NamedScope e (bindAll ms scope) := by
  rw [bindAll]
  induction ms generalizing scope with
  | nil => exact hs
  | cons m ms ih =>
    rw [List.foldl_cons]
    apply ih (fun m' hm' ↦ hms m' (.tail _ hm'))
    exact (hms m List.mem_cons_self).named scope hs

variable (hms : ∀ m ∈ ms, OwnMeaning e m)

include hms

theorem ownMeaning_ofNode (hn : ∃ n ∈ e.walk, n.label = node) :
    OwnMeaning e (ofNode schema node ms) where
  traced := tracedMeaning_ofNode (fun m hm ↦ (hms m hm).traced) hn
  named scope hs := by
    obtain ⟨n, hn, rfl⟩ := hn
    change NamedScope e (bindOf (n.label.folded schema.dialect) ms scope)
    unfold bindOf
    split
    · exact named_bindAll hms hs
    · rename_i alias_ columns ht
      intro c hc
      rcases List.mem_cons.mp hc with rfl | hc
      · by_cases ha : alias_ = ""
        · exact .inl ha
        · obtain ⟨name, columns', hcte, hsame⟩ := NodeType.eq_cte_of_folded ht
          refine .inr ⟨name, Expression.mem_collect.mpr ⟨n, hn, ?_⟩, hsame⟩
          rw [hcte, cteAlias, if_neg (hsame.eq_empty_iff.not.mp ha)]
      · exact hs c hc
    · exact hs

theorem traced_of_mem_clauses (scope : Scope) : ∀ s ∈ clauseSources ms scope, Traced e s :=
  traced_clauseSources fun m hm ↦ (hms m hm).traced

theorem own_clauseScopes {outer inner : Scope} {sources before : List Source}
    {outputs : List String} (ho : OwnScope e outer) (hi : OwnScope e inner)
    (hsources : ∀ s ∈ sources, Traced e s) (hbefore : ∀ s ∈ before, Traced e s)
    (h : scope' ∈ clauseScopes outer inner sources outputs before ms) : OwnScope e scope' := by
  induction ms generalizing before with
  | nil => cases h
  | cons m ms ih =>
    have hupTo : ∀ s ∈ before ++ (if m.isRelationClause then m.sources inner else []),
        Traced e s := by
      intro s hs
      rcases List.mem_append.mp hs with hs | hs
      · exact hbefore s hs
      · split at hs
        · exact (hms m List.mem_cons_self).traced.sources inner s hs
        · cases hs
    rcases List.mem_cons.mp h with rfl | h
    · have hall := hi.push hsources
      unfold clauseScope
      split
      · exact ho
      · exact hi
      · exact hi.push hupTo
      · exact hi.push hupTo
      · exact hall.withOutputs _
      · exact hall.withOutputs _
      · exact hall
    · exact ih (fun m' hm' ↦ hms m' (.tail _ hm')) hupTo h

theorem own_sequentialScopes (hs : OwnScope e scope) (h : scope' ∈ sequentialScopes scope ms) :
    OwnScope e scope' := by
  induction ms generalizing scope with
  | nil => cases h
  | cons m ms ih =>
    rcases List.mem_cons.mp h with rfl | h
    · exact hs
    · exact ih (fun m' hm' ↦ hms m' (.tail _ hm'))
        (own_bind (hms m List.mem_cons_self) hs) h

theorem own_childScopes (hn : ∃ n ∈ e.walk, n.label = node) (hs : OwnScope e scope)
    (h : scope' ∈ childScopes schema node ms scope) : OwnScope e scope' := by
  obtain ⟨n, hn, rfl⟩ := hn
  have hinner := own_bindAll hms hs
  have hset (h : scope' ∈ ms.map fun m ↦
      if m.isWith then scope
      else if m.isQuery then bindAll ms scope
      else ((bindAll ms scope).push [⟨"", unnamed (innerOutputs ms (bindAll ms scope))⟩]).withOutputs
        (innerOutputs ms (bindAll ms scope))) : OwnScope e scope' := by
    obtain ⟨m, -, rfl⟩ := List.mem_map.mp h
    split
    · exact hs
    split
    · exact hinner
    · refine (hinner.push fun s hs ↦ ?_).withOutputs _
      obtain rfl := List.mem_singleton.mp hs
      exact traced_unnamed "" [] _
  have hconst {scope'' : Scope} (hs : OwnScope e scope'')
      (h : scope' ∈ ms.map fun _ ↦ scope'') : OwnScope e scope' := by
    obtain ⟨-, -, rfl⟩ := List.mem_map.mp h
    exact hs
  unfold childScopes at h
  split at h
  · exact own_clauseScopes hms hs hinner (traced_of_mem_clauses hms _) (List.forall_mem_nil _) h
  · exact hset h
  · exact hset h
  · split at h
    · exact hconst hinner h
    · exact own_sequentialScopes hms hs h
  · obtain ⟨m, -, rfl⟩ := List.mem_map.mp h
    split
    · exact hs.pop
    · exact hs
  · rename_i ref ht
    have htable : Traced e ⟨ref.exposed schema.dialect, tableOutputs schema scope ref⟩ :=
      traced_table (Expression.mem_tables.mpr ⟨n, hn, ht⟩)
    refine own_clauseScopes hms hs hs (fun s hs ↦ ?_) (fun s hs ↦ ?_) h
    · rcases List.mem_cons.mp hs with rfl | hs
      · exact htable
      · exact traced_of_mem_clauses hms _ s hs
    · obtain rfl := List.mem_singleton.mp hs
      exact htable
  · exact hconst hs h
  · exact hconst hs h
  · exact hconst hs h
  · exact hconst (hs.withOutputs []) h

end Scoped

theorem ownMeaning_scoping (schema : DatabaseSchema) {t : Expression}
    (ht : ∀ n ∈ t.walk, n ∈ e.walk) : OwnMeaning e (scoping schema t) := by
  induction t using RoseTree.inductionOn with
  | node l ts ih =>
    rw [scoping_node]
    refine Scoped.ownMeaning_ofNode ?_ ⟨_, ht _ (RoseTree.self_mem_walk _), rfl⟩
    intro m hm
    obtain ⟨t, hmem, rfl⟩ := List.mem_map.mp hm
    exact ih t hmem fun n hn ↦ ht n (RoseTree.mem_walk_of_child hmem hn)

theorem own_sites {t : Expression} (ht : ∀ n ∈ t.walk, n ∈ e.walk) {scope : Scope}
    (hs : OwnScope e scope) (h : site ∈ sites schema t scope) :
    OwnScope e site.scope ∧ ∃ n ∈ e.walk, n.label.type = site.type := by
  induction t using RoseTree.inductionOn generalizing scope with
  | node l ts ih =>
    have hroot := ht _ (RoseTree.self_mem_walk _)
    rcases List.mem_cons.mp h with rfl | h
    · exact ⟨hs, _, hroot, rfl⟩
    · obtain ⟨⟨t, scope'⟩, hzip, h⟩ := mem_sitesAll.mp h
      obtain ⟨hmem, hscope⟩ := List.of_mem_zip hzip
      refine ih t hmem (fun n hn ↦ ht n (RoseTree.mem_walk_of_child hmem hn)) ?_ h
      refine Scoped.own_childScopes (fun m hm ↦ ?_) ⟨_, hroot, rfl⟩ hs hscope
      obtain ⟨u, hu, rfl⟩ := List.mem_map.mp hm
      exact ownMeaning_scoping schema fun n hn ↦ ht n (RoseTree.mem_walk_of_child hu hn)

/-- What is in scope at a site of a statement comes from the statement. -/
theorem own_of_mem_sites (h : site ∈ sites schema e {}) :
    OwnScope e site.scope ∧ ∃ n ∈ e.walk, n.label.type = site.type := by
  have hempty : OwnScope e {} := {
    traced := by
      intro frame hf
      cases hf
    named := by
      intro c hc
      cases hc }
  exact own_sites (fun _ hn ↦ hn) hempty h

end TextToSql.Semantics
