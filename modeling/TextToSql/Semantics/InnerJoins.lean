import TextToSql.Semantics.TenantExactness

namespace TextToSql.Semantics

open Library Domain Sql Security Infrastructure Application

variable {V : Type}

/-- The sources that a table or a derived table shows, and those that a clause joins to the ones
before it. A source is an exposed name, with the reference if it is a table. -/
structure SourceList where
  node : Node
  source : List (String × Option TableRef)
  extend : List (String × Option TableRef)

namespace SourceList

def relation (ds : List SourceList) : List (String × Option TableRef) :=
  ((ds.find? fun d ↦ d.node.key = .this).map source).getD []

def clauses (ds : List SourceList) : List SourceList :=
  ds.filter fun d ↦ d.node.key ≠ .where_ ∧ d.node.type.isWith = false

def joined (ds : List SourceList) : List (String × Option TableRef) := ds.flatMap extend

def derived (alias_ : String) (ds : List SourceList) : List (String × Option TableRef) :=
  if (ds.find? fun d ↦ d.node.key = .this).any fun d ↦ isQuery d.node.type then
    (alias_, none) :: joined ds
  else if alias_ = "" then relation ds ++ joined ds
  else [(alias_, none)]

def ofNode (dialect : SQLDialect) (node : Node) (ds : List SourceList) : SourceList where
  node
  source := match (node.folded dialect).type with
    | .table ref => (ref.exposed dialect, some ref) :: joined ds
    | .subquery alias_ _ => derived alias_ (clauses ds)
    | _ => []
  extend := match node.type with
    | .from_ | .join _ _ _ => relation ds
    | _ => []

end SourceList

def sourceList (dialect : SQLDialect) (e : Expression) : SourceList :=
  RoseTree.fold (SourceList.ofNode dialect) e

theorem sourceList_node (dialect : SQLDialect) (l : Node) (ts : List Expression) :
    sourceList dialect (.node l ts) = SourceList.ofNode dialect l (ts.map (sourceList dialect)) :=
  RoseTree.fold_node _ l ts

theorem node_sourceList (dialect : SQLDialect) (e : Expression) :
    (sourceList dialect e).node = e.label := by
  obtain ⟨l, ts⟩ := e
  rw [sourceList_node]
  rfl

def sourcesOf (dialect : SQLDialect) (select : Expression) : List (String × Option TableRef) :=
  SourceList.joined (SourceList.clauses (select.children.map (sourceList dialect)))

section

variable (py : Python) (schema : DatabaseSchema)

/-- The predicate of the reference keeps the names that it needs, and names the tenant column of the
catalog table that the reference denotes. -/
def NamesTenant (ref : TableRef) : Prop :=
  ∀ table ∈ tenantColumn py schema (.table ref), keepsNames py schema ref table.2 = true ∧
    ∃ info ∈ denoted schema ref, info.tenant ≠ none ∧ ∃ i ∈ tenantIndex info,
      positionOf (relabel (ref.columnNames schema.dialect) (columnsOf schema.dialect info))
        (emitted py schema table.2) = some i

instance (ref : TableRef) : Decidable (NamesTenant py schema ref) := by
  unfold NamesTenant
  infer_instance

def tenantRefs (e : Expression) : List TableRef :=
  e.tables.filter fun ref ↦ (tenantColumn py schema (.table ref)).isSome

def isOuterJoin : NodeType → Bool
  | .join _ side _ => side ∈ ["LEFT", "RIGHT", "FULL"]
  | _ => false

/-- All joins are inner ones; every tenant table is a source of its own in the select that it
belongs to, under a name that no other source has; and no common table expression is named like a
tenant table. -/
structure InnerJoined (e : Expression) : Prop where
  inner : ∀ n ∈ e.walk, isOuterJoin n.label.type = false
  names : ∀ ref ∈ e.tables, NamesTenant py schema ref
  alone : ∀ n ∈ e.walk, n.label.type.isSelect = true →
    ∀ table ∈ owned py schema n.label n.children,
      ((sourcesOf schema.dialect n).filter fun s ↦
        isNamed (table.1.exposed schema.dialect) s.1) =
        [(table.1.exposed schema.dialect, some table.1)]
  unshadowed : ∀ alias_ ∈ e.collect cteAlias, ∀ ref ∈ tenantRefs py schema e,
    ¬SameLetters alias_ ref.name

/-- The same of a part of a statement whose tenant tables are among some references. -/
structure PlacedAmong (refs : List TableRef) (e : Expression) : Prop where
  inner : ∀ n ∈ e.walk, isOuterJoin n.label.type = false
  names : ∀ ref ∈ e.tables, NamesTenant py schema ref
  among : tenantRefs py schema e ⊆ refs
  named : ∀ ref ∈ refs, ref.name ≠ ""
  unshadowed : ∀ alias_ ∈ e.collect cteAlias, ∀ ref ∈ refs, ¬SameLetters alias_ ref.name

end

variable {ops : Operations V} {py : Python} {schema : DatabaseSchema} {tenantId : String}
  {database : Database V} {refs : List TableRef}

theorem PlacedAmong.part {e t : Expression} (h : PlacedAmong py schema refs e)
    (ht : t ∈ e.walk) : PlacedAmong py schema refs t := by
  have htables : t.tables ⊆ e.tables := fun ref href ↦ by
    obtain ⟨n, hn, htype⟩ := Expression.mem_tables.mp href
    exact Expression.mem_tables.mpr ⟨n, RoseTree.mem_walk_trans hn ht, htype⟩
  refine ⟨fun n hn ↦ h.inner n (RoseTree.mem_walk_trans hn ht), fun ref href ↦
    h.names ref (htables href), fun ref href ↦ h.among ?_, h.named,
    fun alias_ hc ↦ h.unshadowed alias_ ?_⟩
  · obtain ⟨href, htenant⟩ := List.mem_filter.mp href
    exact List.mem_filter.mpr ⟨htables href, htenant⟩
  · obtain ⟨n, hn, htype⟩ := Expression.mem_collect.mp hc
    exact Expression.mem_collect.mpr ⟨n, RoseTree.mem_walk_trans hn ht, htype⟩

theorem PlacedAmong.child {l : Node} {ts : List Expression}
    (h : PlacedAmong py schema refs (.node l ts)) {t : Expression} (ht : t ∈ ts) :
    PlacedAmong py schema refs t :=
  h.part (RoseTree.mem_walk_of_child ht (RoseTree.self_mem_walk t))

def OfSource (ops : Operations V) (py : Python) (schema : DatabaseSchema) (tenantId : String)
    (source : String × Option TableRef) (s : Segment V) : Prop :=
  s.name = source.1 ∧ ∀ ref ∈ source.2, ∀ table ∈ tenantColumn py schema (.table ref),
    ops.isTenant py tenantId (s.lookup ops.null (emitted py schema table.2)) = true

def FromSources (ops : Operations V) (py : Python) (schema : DatabaseSchema) (tenantId : String)
    (sources : List (String × Option TableRef)) (r : Relation V) : Prop :=
  ∀ f ∈ r.rows, List.Forall₂ (OfSource ops py schema tenantId) sources f.segments

def Avoids (schema : DatabaseSchema) (refs : List TableRef) (ctes : Ctes V) : Prop :=
  ∀ ref ∈ refs, cteOf schema.dialect ctes ref = none

theorem FromSources.join {sources sources' : List (String × Option TableRef)}
    {left right : Relation V} {names : List String} {on : Frame V → Frame V → Bool}
    (hl : FromSources ops py schema tenantId sources left)
    (hr : FromSources ops py schema tenantId sources' right) :
    FromSources ops py schema tenantId (sources ++ sources')
      (left.join false false names on right) := by
  intro f hf
  obtain ⟨p, hp, rfl⟩ := List.mem_map.mp hf
  obtain ⟨hleft, hright⟩ := mem_outerJoin hp
  rw [Frame.segments_append]
  have h1 := hl p.1 (hleft.resolve_right fun h ↦ absurd h.1 Bool.false_ne_true)
  have h2 := hr p.2 (hright.resolve_right fun h ↦ absurd h.1 Bool.false_ne_true)
  exact List.rel_append h1 h2

theorem fromSources_unit : FromSources ops py schema tenantId [] (Relation.unit : Relation V) := by
  intro f hf
  rw [List.mem_singleton.mp hf]
  exact .nil

theorem fromSources_empty (sources : List (String × Option TableRef)) :
    FromSources ops py schema tenantId sources ({} : Relation V) := fun _ hf ↦ nomatch hf

theorem fromSources_single (name : String) (columns : List String) (result : Result V) :
    FromSources ops py schema tenantId [(name, none)] (.single name columns result) := by
  intro f hf
  obtain ⟨row, -, rfl⟩ := List.mem_map.mp hf
  exact .cons ⟨rfl, nofun⟩ .nil

theorem fromSources_collapse (name : String) (columns : List String) (r : Relation V) :
    FromSources ops py schema tenantId [(name, none)] (r.collapse ops.null name columns) := by
  intro f hf
  obtain ⟨row, -, rfl⟩ := List.mem_map.mp hf
  exact .cons ⟨rfl, nofun⟩ .nil

theorem fromSources_table {ref : TableRef} (hnames : NamesTenant py schema ref) {ctes : Ctes V}
    (hctes : (tenantColumn py schema (.table ref)).isSome = true →
      cteOf schema.dialect ctes ref = none) :
    FromSources ops py schema tenantId [(ref.exposed schema.dialect, some ref)]
      (.single (ref.exposed schema.dialect) (ref.columnNames schema.dialect)
        (tableResult schema (database.restrict ops py tenantId) ctes ref)) := by
  intro f hf
  obtain ⟨row, hrow, rfl⟩ := List.mem_map.mp hf
  refine .cons ⟨rfl, ?_⟩ .nil
  intro ref' href table htable
  obtain rfl := Option.mem_some.mp href
  obtain ⟨-, info, hdenoted, htenant, i, hindex, hposition⟩ := hnames table htable
  have hresult : tableResult schema (database.restrict ops py tenantId) ctes ref =
      { columns := columnsOf schema.dialect info
        rows := visible ops py tenantId info (database.rows info) } := by
    rw [tableResult, hctes (Option.isSome_of_mem htable), hdenoted]
    rfl
  rw [hresult] at hrow ⊢
  have hseen : row ∈ visible ops py tenantId info (database.rows info) := hrow
  rw [visible, if_neg htenant] at hseen
  have hof := (List.mem_filter.mp hseen).2
  rw [ofTenant, hindex, Option.any_some] at hof
  rw [Segment.lookup, hposition, Option.elim_some]
  exact hof

/-- On the tenant's part of a database, the rows of a statement's sources are rows of the tenant,
and its definitions stay away from some references. -/
structure Located (ops : Operations V) (py : Python) (schema : DatabaseSchema) (tenantId : String)
    (database : Database V) (refs : List TableRef) (e : Expression) : Prop where
  bind : ∀ ctes, Avoids schema refs ctes → ∀ env, Avoids schema refs
    (((denote ops schema (database.restrict ops py tenantId) e).meaning ctes).bind env)
  source : ∀ ctes, Avoids schema refs ctes → ∀ env,
    FromSources ops py schema tenantId (sourceList schema.dialect e).source
      (((denote ops schema (database.restrict ops py tenantId) e).meaning ctes).source env)
  extend : ∀ ctes, Avoids schema refs ctes → ∀ env sources r, FromSources ops py schema tenantId sources r →
    FromSources ops py schema tenantId (sources ++ (sourceList schema.dialect e).extend)
      (((denote ops schema (database.restrict ops py tenantId) e).meaning ctes).extend env r)

section Children

variable {ts : List Expression} {ctes : Ctes V}
  (h : ∀ t ∈ ts, Located ops py schema tenantId database refs t) (hctes : Avoids schema refs ctes)

include h hctes

theorem avoids_bound (env : Local V) : Avoids schema refs (Interpretation.bound
    (ts.map (denote ops schema (database.restrict ops py tenantId))) ctes env) := by
  induction ts generalizing ctes with
  | nil => exact hctes
  | cons t ts ih =>
    rw [Interpretation.bound, List.map_cons, List.foldl_cons]
    exact ih (fun t ht ↦ h t (.tail _ ht)) ((h t List.mem_cons_self).bind ctes hctes env)

theorem fromSources_extendAll (env : Local V) {sources : List (String × Option TableRef)}
    {r : Relation V} (hr : FromSources ops py schema tenantId sources r) :
    FromSources ops py schema tenantId (sources ++ SourceList.joined (ts.map (sourceList schema.dialect)))
      (extendAll (Interpretation.meanings
        (ts.map (denote ops schema (database.restrict ops py tenantId))) ctes) env r) := by
  induction ts generalizing sources r with
  | nil => simpa [SourceList.joined, extendAll, Interpretation.meanings] using hr
  | cons t ts ih =>
    have hfirst := (h t List.mem_cons_self).extend ctes hctes env sources r hr
    have hrest := ih (fun t ht ↦ h t (.tail _ ht)) hfirst
    rw [List.append_assoc] at hrest
    exact hrest

theorem fromSources_relationOf (env : Local V) :
    FromSources ops py schema tenantId (SourceList.relation (ts.map (sourceList schema.dialect)))
      (relationOf (Interpretation.meanings
        (ts.map (denote ops schema (database.restrict ops py tenantId))) ctes) env) := by
  rw [relationOf, SourceList.relation, Meaning.arg]
  induction ts with
  | nil => exact fromSources_empty _
  | cons t ts ih =>
    rw [Interpretation.meanings, List.map_cons, List.map_cons, List.map_cons, List.find?_cons,
      List.find?_cons, node_sourceList, term_node, Node.folded_key]
    by_cases hkey : t.label.key = .this
    · rw [decide_eq_true hkey]
      exact (h t List.mem_cons_self).source ctes hctes env
    · rw [decide_eq_false hkey]
      exact ih fun t ht ↦ h t (.tail _ ht)

end Children

theorem clauses_sourceList (ts : List Expression) :
    SourceList.clauses (ts.map (sourceList schema.dialect)) =
      (ts.filter fun t ↦ decide (t.label.key ≠ .where_ ∧ t.label.type.isWith = false)).map
        (sourceList schema.dialect) := by
  rw [SourceList.clauses, List.filter_map]
  refine congrArg (List.map _) (List.filter_congr fun t _ ↦ ?_)
  rw [Function.comp_apply, node_sourceList]

theorem any_this_clauses (ts : List Expression) (ctes : Ctes V) :
    (((SourceList.clauses (ts.map (sourceList schema.dialect))).find? fun d ↦ d.node.key = .this).any
        fun d ↦ isQuery d.node.type) =
      (Meaning.arg .this (Interpretation.meanings (Interpretation.clauses
        (ts.map (denote ops schema database))) ctes)).any fun m ↦ isQuery m.term.node.type := by
  rw [clauses_sourceList, clauses_denote, Meaning.arg]
  generalize ts.filter _ = ts
  induction ts with
  | nil => rfl
  | cons t ts ih =>
    rw [Interpretation.meanings, List.map_cons, List.map_cons, List.map_cons, List.find?_cons,
      List.find?_cons, node_sourceList, term_node, Node.folded_key]
    by_cases hkey : t.label.key = .this
    · rw [decide_eq_true hkey, Option.any_some, Option.any_some, node_sourceList, term_node,
        Node.folded_type, isQuery_folded]
    · rw [decide_eq_false hkey]
      exact ih

section Nodes

variable {l : Node} {ts : List Expression}
  (h : ∀ t ∈ ts, Located ops py schema tenantId database refs t)

include h

theorem avoids_inside {ctes : Ctes V} (hctes : Avoids schema refs ctes) (env : Local V) :
    Avoids schema refs (Interpretation.inside
      (ts.map (denote ops schema (database.restrict ops py tenantId))) ctes env) := by
  rw [Interpretation.inside, filter_denote (p := fun l ↦ l.type.isWith)]
  exact avoids_bound (fun t ht ↦ h t (List.mem_filter.mp ht).1) hctes env

theorem fromSources_clauses {ctes : Ctes V} (hctes : Avoids schema refs ctes) (env : Local V)
    {sources : List (String × Option TableRef)} {r : Relation V}
    (hr : FromSources ops py schema tenantId sources r) :
    FromSources ops py schema tenantId
      (sources ++ SourceList.joined (SourceList.clauses (ts.map (sourceList schema.dialect))))
      (extendAll (Interpretation.meanings (Interpretation.clauses
        (ts.map (denote ops schema (database.restrict ops py tenantId)))) ctes) env r) := by
  rw [clauses_sourceList, clauses_denote]
  exact fromSources_extendAll (fun t ht ↦ h t (List.mem_filter.mp ht).1) hctes env hr

theorem fromSources_relationOf_clauses {ctes : Ctes V} (hctes : Avoids schema refs ctes) (env : Local V) :
    FromSources ops py schema tenantId
      (SourceList.relation (SourceList.clauses (ts.map (sourceList schema.dialect))))
      (relationOf (Interpretation.meanings (Interpretation.clauses
        (ts.map (denote ops schema (database.restrict ops py tenantId)))) ctes) env) := by
  rw [clauses_sourceList, clauses_denote]
  exact fromSources_relationOf (fun t ht ↦ h t (List.mem_filter.mp ht).1) hctes env

theorem bind_located (hp : PlacedAmong py schema refs (.node l ts)) {ctes : Ctes V}
    (hctes : Avoids schema refs ctes) (env : Local V) :
    Avoids schema refs (Interpretation.bindOf (l.folded schema.dialect)
      (ts.map (denote ops schema (database.restrict ops py tenantId))) ctes env) := by
  have hself := RoseTree.self_mem_walk (RoseTree.node l ts)
  obtain ⟨key, type, comments, quoted⟩ := l
  cases type with
  | with_ recursive => exact avoids_bound h hctes env
  | cte alias_ columns =>
    intro ref href
    have hname : ¬SameLetters alias_ ref.name := by
      by_cases hempty : alias_ = ""
      · rw [hempty]
        exact fun h ↦ hp.named ref href (h.eq_empty_iff.mp rfl)
      · exact hp.unshadowed alias_ (Expression.mem_collect.mpr ⟨_, hself, if_neg hempty⟩) ref href
    have hbefore := hctes ref href
    have hfolded : ¬schema.dialect.fold (Part.alias_ ∈ quoted) alias_ =
        ref.relation schema.dialect := fun heq ↦ hname (SQLDialect.sameLetters_of_fold_eq heq)
    change cteOf schema.dialect ((schema.dialect.fold (Part.alias_ ∈ quoted) alias_, _) :: ctes)
      ref = none
    rw [cteOf] at hbefore ⊢
    split at hbefore
    · rename_i hlocal
      rw [if_pos hlocal, List.find?_cons_of_neg (by simpa using hfolded)]
      exact hbefore
    · rename_i hlocal
      rw [if_neg hlocal]
  | _ =>
    rw [Interpretation.bindOf_of_not_definition rfl rfl]
    exact hctes

theorem source_located (hp : PlacedAmong py schema refs (.node l ts)) {ctes : Ctes V}
    (hctes : Avoids schema refs ctes) (env : Local V) :
    FromSources ops py schema tenantId (sourceList schema.dialect (.node l ts)).source
      (Interpretation.sourceOf ops schema (database.restrict ops py tenantId)
        (l.folded schema.dialect) (ts.map (denote ops schema (database.restrict ops py tenantId))) ctes env) := by
  have hself := RoseTree.self_mem_walk (RoseTree.node l ts)
  rw [sourceList_node]
  obtain ⟨key, type, comments, quoted⟩ := l
  cases type with
  | table ref =>
    have href := Expression.mem_tables.mpr ⟨_, hself, rfl⟩
    have htable := @fromSources_table V ops py schema tenantId database ref (hp.names ref href) ctes
      fun htenant ↦ hctes ref (hp.among (List.mem_filter.mpr ⟨href, htenant⟩))
    exact fromSources_extendAll h hctes env htable
  | subquery alias_ columns =>
    have hinside := avoids_inside h hctes env
    change FromSources ops py schema tenantId (SourceList.derived
      (schema.dialect.fold (Part.alias_ ∈ quoted) alias_) (SourceList.clauses _)) _
    rw [Interpretation.sourceOf_subquery rfl, Interpretation.derivedSource, SourceList.derived,
      @any_this_clauses V ops schema (database.restrict ops py tenantId) _
        (Interpretation.inside _ ctes env)]
    split
    · rename_i hquery
      rw [if_pos hquery]
      exact fromSources_clauses h hinside env (fromSources_single _ _ _)
    · rename_i hquery
      have hjoined := fromSources_clauses h hinside env
        (fromSources_relationOf_clauses h hinside env)
      rw [if_neg hquery]
      dsimp only
      by_cases halias : schema.dialect.fold (Part.alias_ ∈ quoted) alias_ = ""
      · rw [if_pos halias, if_pos halias]
        exact hjoined
      · rw [if_neg halias, if_neg halias]
        exact fromSources_collapse _ _ _
  | _ =>
    rw [Interpretation.sourceOf_of_not_relation rfl rfl]
    exact fromSources_unit

theorem extend_located (hp : PlacedAmong py schema refs (.node l ts)) {ctes : Ctes V}
    (hctes : Avoids schema refs ctes) (env : Local V) {sources : List (String × Option TableRef)}
    {r : Relation V} (hr : FromSources ops py schema tenantId sources r) :
    FromSources ops py schema tenantId (sources ++ (sourceList schema.dialect (.node l ts)).extend)
      (extendOf ops (Interpretation.meanings
        (ts.map (denote ops schema (database.restrict ops py tenantId))) ctes) env l r) := by
  have hself := RoseTree.self_mem_walk (RoseTree.node l ts)
  have hrelation := fromSources_relationOf h hctes env
  rw [sourceList_node]
  obtain ⟨key, type, comments, quoted⟩ := l
  cases type with
  | from_ => exact hr.join hrelation
  | join kind side method =>
    have hside : side ∉ ["LEFT", "RIGHT", "FULL"] := of_decide_eq_false (hp.inner _ hself)
    have hleft : side ∉ ["LEFT", "FULL"] := fun hmem ↦ hside (by
      simp only [List.mem_cons, List.not_mem_nil, or_false] at hmem ⊢
      tauto)
    have hright : side ∉ ["RIGHT", "FULL"] := fun hmem ↦ hside (by
      simp only [List.mem_cons, List.not_mem_nil, or_false] at hmem ⊢
      tauto)
    rw [extendOf]
    dsimp only
    rw [decide_eq_false hleft, decide_eq_false hright]
    exact hr.join hrelation
  | _ =>
    rw [SourceList.ofNode, List.append_nil]
    exact hr

end Nodes

theorem located {e : Expression} (hp : PlacedAmong py schema refs e) :
    Located ops py schema tenantId database refs e := by
  induction e using RoseTree.inductionOn with
  | node l ts ih =>
    have h : ∀ t ∈ ts, Located ops py schema tenantId database refs t :=
      fun t ht ↦ ih t ht (hp.child ht)
    constructor
    · intro ctes hctes env
      rw [denote_node]
      exact bind_located h hp hctes env
    · intro ctes hctes env
      rw [denote_node]
      exact source_located h hp hctes env
    · intro ctes hctes env sources r hr
      rw [denote_node]
      exact extend_located h hp hctes env hr

theorem avoids_meets {e n : Expression} {ctes inner : Ctes V}
    (h : Meets ops schema (database.restrict ops py tenantId) e ctes n inner)
    (hp : PlacedAmong py schema refs e) (hctes : Avoids schema refs ctes) : Avoids schema refs inner := by
  induction h with
  | self => exact hctes
  | @with_ l ts before after t n ctes inner env hq hts h ih =>
    have hmem {u : Expression} (hu : u ∈ before ++ t :: after) : u ∈ ts :=
      (List.mem_filter.mp (hts ▸ hu)).1
    refine ih (hp.child (hmem (List.mem_append_right _ List.mem_cons_self))) ?_
    exact avoids_bound (fun u hu ↦ located (hp.child (hmem (List.mem_append_left _ hu)))) hctes env
  | clause env hq ht hw h ih =>
    exact ih (hp.child ht) (avoids_inside (fun u hu ↦ located (hp.child hu)) hctes env)
  | definition env hw h ih =>
    refine ih (hp.child (List.mem_append_right _ List.mem_cons_self)) ?_
    exact avoids_bound (fun u hu ↦ located (hp.child (List.mem_append_left _ hu))) hctes env
  | part hq hw ht h ih => exact ih (hp.child ht) hctes

theorem forall₂_named {sources : List (String × Option TableRef)} {segments : List (Segment V)}
    (h : List.Forall₂ (OfSource ops py schema tenantId) sources segments) (name : String) :
    List.Forall₂ (OfSource ops py schema tenantId)
      (sources.filter fun s ↦ isNamed name s.1) (segments.filter fun s ↦ isNamed name s.name) := by
  induction h with
  | nil => exact .nil
  | cons hs _ ih =>
    rw [List.filter_cons, List.filter_cons, hs.1]
    split
    · exact .cons hs ih
    · exact ih

theorem answers_of_isTenant (hops : ops.Lawful) {dialect : SQLDialect} {s : Segment V}
    {qualifier column : String} (hname : isNamed qualifier s.name = true)
    (h : ops.isTenant py tenantId (s.lookup ops.null column) = true) :
    s.answers dialect qualifier column = true := by
  have hshown : s.columns.any (isNamed column) = true := by
    cases hp : positionOf s.columns column with
    | none =>
      rw [Segment.lookup, hp, Option.elim_none, isTenant_null hops] at h
      cases h
    | some i => exact any_of_positionOf hp
  rw [Segment.answers, hname, hshown, Bool.or_true, Bool.true_and]

theorem guardHolds_of_alone (hops : ops.Lawful) {sources : List (String × Option TableRef)}
    {frame : Frame V}
    (h : List.Forall₂ (OfSource ops py schema tenantId) sources frame.segments)
    {table : TableRef × String} (htable : table ∈ tenantColumn py schema (.table table.1))
    (hkeeps : keepsNames py schema table.1 table.2 = true) (hname : table.1.name ≠ "")
    (halone : (sources.filter fun s ↦ isNamed (table.1.exposed schema.dialect) s.1) =
      [(table.1.exposed schema.dialect, some table.1)]) (env : Local V) :
    guardHolds ops py schema tenantId table (env.enter frame [frame]) = true := by
  have hnamed := forall₂_named h (table.1.exposed schema.dialect)
  rw [halone] at hnamed
  cases hsegments : frame.segments.filter fun s ↦
      isNamed (table.1.exposed schema.dialect) s.name with
  | nil =>
    rw [hsegments] at hnamed
    cases hnamed
  | cons s rest =>
    rw [hsegments] at hnamed
    obtain ⟨hs, hrest⟩ := List.forall₂_cons.mp hnamed
    obtain rfl := List.forall₂_nil_left_iff.mp hrest
    have hmem := List.mem_filter.mp (hsegments ▸ List.mem_cons_self : s ∈ frame.segments.filter _)
    have htenant := hs.2 table.1 rfl table htable
    have hanswers := @answers_of_isTenant V ops py tenantId hops schema.dialect s _ _ hmem.2 htenant
    have hone : frame.segments.filter (Segment.answers schema.dialect
        (table.1.exposed schema.dialect) (emitted py schema table.2)) = [s] := by
      rw [frame.filter_answers, Frame.named, hsegments, List.filter_cons_of_pos hanswers,
        List.filter_nil]
    have hany : (frame.segments.any (Segment.answers schema.dialect
        (table.1.exposed schema.dialect) (emitted py schema table.2))) = true :=
      List.any_eq_true.mpr ⟨s, hmem.1, hanswers⟩
    rw [guardHolds, emitted_of_keepsNames hkeeps, Local.column, if_neg (exposed_ne hname),
      Local.frameOf, Local.enter, List.find?_cons, hany]
    have hqualified : frame.qualified ops.null schema.dialect (table.1.exposed schema.dialect)
        (emitted py schema table.2) = s.lookup ops.null (emitted py schema table.2) := by
      rw [Frame.qualified, hone]
    exact (congrArg (ops.isTenant py tenantId) hqualified).trans htenant

theorem name_of_tenantRefs {e : Expression} (h : InnerJoined py schema e) {ref : TableRef}
    (href : ref ∈ tenantRefs py schema e) : ref.name ≠ "" := by
  obtain ⟨href, htenant⟩ := List.mem_filter.mp href
  obtain ⟨table, htable⟩ := Option.isSome_iff_exists.mp htenant
  obtain ⟨-, info, hdenoted, -⟩ := h.names ref href table htable
  exact (denotes_of_denoted hdenoted).2.1

theorem lossless_of_innerJoined (hops : ops.Lawful) {e : Expression} (h : InnerJoined py schema e) :
    Lossless ops schema (database.restrict ops py tenantId) py tenantId e [] := by
  have hplaced : PlacedAmong py schema (tenantRefs py schema e) e :=
    ⟨h.inner, h.names, List.Subset.refl _, fun ref href ↦ name_of_tenantRefs h href, h.unshadowed⟩
  intro n inner hmeets
  by_cases hs : n.label.type.isSelect = true
  · have hinner := avoids_meets hmeets hplaced fun ref _ ↦ by
      rw [cteOf]
      split <;> rfl
    have hpart := hplaced.part hmeets.mem_walk
    have halone := h.alone n hmeets.mem_walk hs
    obtain ⟨l, ts⟩ := n
    intro env frame hpassing table htable
    have hlocated : ∀ t ∈ ts, Located ops py schema tenantId database (tenantRefs py schema e) t :=
      fun t ht ↦ located (hpart.child ht)
    have hrows := fromSources_clauses hlocated (avoids_inside hlocated hinner env) env
      fromSources_unit frame hpassing.1
    have hsource := halone table htable
    rw [owned, if_pos hs] at htable
    obtain ⟨t, ht, hexposed⟩ := List.mem_flatMap.mp htable
    obtain ⟨m, hm, hcolumn⟩ := mem_exposed hexposed
    obtain ⟨htype, -⟩ := tenantColumn_eq_some hcolumn
    rw [htype] at hcolumn
    have href : table.1 ∈ Expression.tables (.node l ts) :=
      Expression.mem_tables.mpr ⟨m, RoseTree.mem_walk_of_child ht hm, htype⟩
    obtain ⟨hkeeps, info, hdenoted, -⟩ := hpart.names _ href table hcolumn
    exact guardHolds_of_alone hops hrows hcolumn hkeeps (denotes_of_denoted hdenoted).2.1 hsource env
  · exact losesNone_of_not_select (by simpa using hs)

end TextToSql.Semantics
