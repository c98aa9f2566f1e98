import TextToSql.Security.RewriterNodes
import TextToSql.Semantics.VisibleRows

namespace TextToSql.Semantics

open Library Domain Sql Security

variable {V : Type} {ops : Operations V} {py : Python} {schema : DatabaseSchema}
  {tenantId : String} {database database' : Database V}

/-- At most one `WITH`, and definitions only inside it. -/
def PlainWith (e : Expression) : Prop :=
  (e.children.filter fun t ↦ t.label.type.isWith).length ≤ 1 ∧
    ∀ t ∈ e.children, NodeType.isCte t.label.type = false

/-- No recursive `WITH`, no alias on joined tables in parentheses, and neither lateral sources nor
window functions. -/
def PlainNode (e : Expression) : Prop :=
  match e.label.type with
  | .with_ recursive => recursive = false
  | .select _ | .setOperation _ _ => PlainWith e
  | .subquery alias_ _ => PlainWith e ∧
      ((e.arg .this).any (fun t ↦ isQuery t.label.type) = true ∨ alias_ = "")
  | .lateral _ _ => False
  | .other name => name ≠ "window"
  | _ => True

/-- Selects and set operations over joins of tables, derived tables and common table expressions,
with subqueries anywhere. -/
structure InFragment (e : Expression) : Prop where
  plainWhere : PlainWhere e
  plain : ∀ n ∈ e.walk, PlainNode n

theorem InFragment.child {l : Node} {ts : List Expression} (h : InFragment (.node l ts))
    {t : Expression} (ht : t ∈ ts) : InFragment t :=
  ⟨h.plainWhere.child ht, fun n hn ↦ h.plain n (RoseTree.mem_walk_of_child ht hn)⟩

def Matches (scope : Scope) (ctes : Ctes V) : Prop :=
  scope.ctes.map Prod.fst = ctes.map Prod.fst

structure SameMeaning (ops : Operations V) (py : Python) (schema : DatabaseSchema)
    (tenantId : String) (guards : List (TableRef × String)) (m m' : Meaning V) : Prop where
  term : m.term = m'.term
  bind : m.bind = m'.bind
  source : ∀ env, Agree ops py schema tenantId guards (m.source env) (m'.source env)
  extend : ∀ env left left', Agree ops py schema tenantId guards left left' →
    Agree ops py schema tenantId guards (m.extend env left) (m'.extend env left')

theorem find?_isSome_of_names {ctes : List (String × List String)} {ctes' : Ctes V}
    (h : ctes.map Prod.fst = ctes'.map Prod.fst) (name : String) :
    (ctes.find? fun c ↦ c.1 = name).isSome = (ctes'.find? fun c ↦ c.1 = name).isSome := by
  induction ctes generalizing ctes' with
  | nil =>
    cases ctes' with
    | nil => rfl
    | cons c' ctes' => cases h
  | cons c ctes ih =>
    cases ctes' with
    | nil => cases h
    | cons c' ctes' =>
      obtain ⟨hc, h⟩ := List.cons.inj h
      rw [List.find?_cons, List.find?_cons, hc]
      split
      · rfl
      · exact ih h

theorem Matches.cte {scope : Scope} {ctes : Ctes V} (h : Matches scope ctes)
    (dialect : SQLDialect) (ref : TableRef) :
    (scope.cte dialect ref).isSome = (cteOf dialect ctes ref).isSome := by
  rw [Scope.cte, cteOf]
  split
  · rw [Option.isSome_map, Option.isSome_map]
    exact find?_isSome_of_names h (ref.relation dialect)
  · rfl

section Lists

variable {guards : List (TableRef × String)} {ms ms' : List (Meaning V)}
  (h : List.Forall₂ (SameMeaning ops py schema tenantId guards) ms ms')

include h

theorem map_term_eq : ms.map (·.term) = ms'.map (·.term) := by
  induction h with
  | nil => rfl
  | cons hm _ ih => rw [List.map_cons, List.map_cons, hm.term, ih]

theorem agree_extendAll (env : Local V) {left left' : Relation V}
    (hl : Agree ops py schema tenantId guards left left') :
    Agree ops py schema tenantId guards (extendAll ms env left) (extendAll ms' env left') := by
  rw [extendAll, extendAll]
  induction h generalizing left left' with
  | nil => exact hl
  | cons hm _ ih => exact ih (hm.extend env _ _ hl)

theorem agree_relationOf (env : Local V) :
    Agree ops py schema tenantId guards (relationOf ms env) (relationOf ms' env) := by
  rw [relationOf, relationOf, Meaning.arg, Meaning.arg]
  induction h with
  | nil => exact .of_eq uniform_empty
  | cons hm _ ih =>
    rw [List.find?_cons, List.find?_cons, hm.term]
    split
    · exact hm.source env
    · exact ih

theorem arg_isQuery_eq (k : Arg) :
    ((Meaning.arg k ms).any fun m ↦ isQuery m.term.node.type) =
      (Meaning.arg k ms').any fun m ↦ isQuery m.term.node.type := by
  rw [Meaning.arg, Meaning.arg]
  induction h with
  | nil => rfl
  | cons hm _ ih =>
    rw [List.find?_cons, List.find?_cons, hm.term]
    split
    · rw [Option.any_some, Option.any_some, hm.term]
    · exact ih

theorem agree_extendOf (env : Local V) (node : Node) {left left' : Relation V}
    (hl : Agree ops py schema tenantId guards left left') :
    Agree ops py schema tenantId guards (extendOf ops ms env node left)
      (extendOf ops ms' env node left') := by
  have hr := agree_relationOf h env
  unfold extendOf
  split
  · exact hl.join hr
  · dsimp only
    rw [map_term_eq h, hl.blank, hr.blank]
    exact hl.join hr
  · exact hl

end Lists

/-- The second statement means the same on both databases wherever the base tables of the first
are shielded, up to rows that do not pass the predicates of its select. -/
structure Sound (ops : Operations V) (py : Python) (schema : DatabaseSchema) (tenantId : String)
    (database database' : Database V) (t u : Expression) : Prop where
  label : u.label = t.label
  same : ∀ scope ctes, Matches scope ctes →
    (∀ ref ∈ (scoping schema t).tables scope, shielded py schema ref = true) →
    ∀ guards, exposed py schema t ⊆ guards →
      SameMeaning ops py schema tenantId guards ((denote ops schema database u).meaning ctes)
        ((denote ops schema database' u).meaning ctes)
  binds : ∀ scope ctes, Matches scope ctes →
    (∀ ref ∈ (scoping schema t).tables scope, shielded py schema ref = true) →
    ∀ env, Matches ((scoping schema t).bind scope)
      (((denote ops schema database u).meaning ctes).bind env)

section Children

variable {ts us : List Expression} {scope : Scope} {ctes : Ctes V}
  (h : List.Forall₂ (Sound ops py schema tenantId database database') ts us)
  (hm : Matches scope ctes)

theorem scoping_label (e : Expression) :
    (scoping schema e).node = e.label.folded schema.dialect := by
  obtain ⟨l, ts⟩ := e
  rw [scoping_node]
  rfl

include h

theorem sound_filter (p : Node → Bool) :
    List.Forall₂ (Sound ops py schema tenantId database database')
      (ts.filter fun t ↦ p t.label) (us.filter fun u ↦ p u.label) :=
  forall₂_filter_label (fun _ _ ht ↦ ht.label) h p

theorem find?_label (p : Node → Bool) :
    Option.Rel (Sound ops py schema tenantId database database')
      (ts.find? fun t ↦ p t.label) (us.find? fun u ↦ p u.label) := by
  induction h with
  | nil => exact .none
  | cons ht _ ih =>
    rw [List.find?_cons, List.find?_cons, ht.label]
    split
    · exact .some ht
    · exact ih

include hm

theorem sameMeanings {guards : List (TableRef × String)}
    (hrefs : ∀ t ∈ ts, ∀ ref ∈ (scoping schema t).tables scope, shielded py schema ref = true)
    (hguards : ∀ t ∈ ts, exposed py schema t ⊆ guards) :
    List.Forall₂ (SameMeaning ops py schema tenantId guards)
      (Interpretation.meanings (us.map (denote ops schema database)) ctes)
      (Interpretation.meanings (us.map (denote ops schema database')) ctes) := by
  induction h with
  | nil => exact .nil
  | cons ht _ ih =>
    refine .cons ?_ (ih (fun t ht ↦ hrefs t (.tail _ ht)) fun t ht ↦ hguards t (.tail _ ht))
    exact ht.same scope ctes hm (hrefs _ List.mem_cons_self) guards
      (hguards _ List.mem_cons_self)

theorem terms_eq
    (hrefs : ∀ t ∈ ts, ∀ ref ∈ (scoping schema t).tables scope, shielded py schema ref = true) :
    Interpretation.terms (us.map (denote ops schema database)) ctes =
      Interpretation.terms (us.map (denote ops schema database')) ctes :=
  map_term_eq (sameMeanings h hm hrefs
    fun t ht (g : TableRef × String) (hg : g ∈ exposed py schema t) ↦
      (List.mem_flatMap.mpr ⟨t, ht, hg⟩ : g ∈ ts.flatMap (exposed py schema)))

theorem bound_eq (env : Local V)
    (hrefs : ∀ ref ∈ Scoped.sequentially Scoped.tables (ts.map (scoping schema)) scope,
      shielded py schema ref = true) :
    Interpretation.bound (us.map (denote ops schema database)) ctes env =
        Interpretation.bound (us.map (denote ops schema database')) ctes env ∧
      Matches (Scoped.bindAll (ts.map (scoping schema)) scope)
        (Interpretation.bound (us.map (denote ops schema database)) ctes env) := by
  induction h generalizing scope ctes with
  | nil => exact ⟨rfl, hm⟩
  | @cons t u ts us ht _ ih =>
    rw [List.map_cons, Scoped.sequentially] at hrefs
    have hfirst : ∀ ref ∈ (scoping schema t).tables scope, shielded py schema ref = true :=
      fun ref hr ↦ hrefs ref (List.mem_append_left _ hr)
    have hsame := ht.same scope ctes hm hfirst (exposed py schema t) (List.Subset.refl _)
    have hnext := ih (ht.binds scope ctes hm hfirst env)
      fun ref hr ↦ hrefs ref (List.mem_append_right _ hr)
    rw [Interpretation.bound, Interpretation.bound, List.map_cons, List.map_cons, List.map_cons,
      List.foldl_cons, List.foldl_cons, ← hsame.bind]
    exact hnext

theorem inside_eq (env : Local V) {l : Node} (hplain : PlainWith (.node l ts))
    (hrefs : ∀ t ∈ ts, t.label.type.isWith = true →
      ∀ ref ∈ (scoping schema t).tables scope, shielded py schema ref = true) :
    Interpretation.inside (us.map (denote ops schema database)) ctes env =
        Interpretation.inside (us.map (denote ops schema database')) ctes env ∧
      Matches (Scoped.bindAll (ts.map (scoping schema)) scope)
        (Interpretation.inside (us.map (denote ops schema database)) ctes env) := by
  have hstatic (ts : List Expression) (hcte : ∀ t ∈ ts, NodeType.isCte t.label.type = false)
      (scope : Scope) : Scoped.bindAll (ts.map (scoping schema)) scope =
        Scoped.bindAll ((ts.filter fun t ↦ t.label.type.isWith).map (scoping schema)) scope := by
    induction ts generalizing scope with
    | nil => rfl
    | cons t ts ih =>
      have hrest := ih fun t ht ↦ hcte t (.tail _ ht)
      rw [List.map_cons, Scoped.bindAll, List.foldl_cons, List.filter_cons]
      by_cases hw : t.label.type.isWith = true
      · rw [if_pos hw, List.map_cons, Scoped.bindAll, List.foldl_cons]
        exact hrest _
      · have hid : (scoping schema t).bind scope = scope := by
          have hc := hcte t List.mem_cons_self
          obtain ⟨⟨key, type, comments, quoted⟩, us⟩ := t
          rw [scoping_node]
          cases type <;> first | rfl | exact absurd rfl hw | cases hc
        rw [if_neg hw, hid]
        exact hrest scope
  rw [Interpretation.inside, Interpretation.inside, filter_denote (p := fun l ↦ l.type.isWith),
    filter_denote (p := fun l ↦ l.type.isWith), hstatic ts hplain.2 scope]
  have hwiths := sound_filter h fun l ↦ l.type.isWith
  have hlen := hplain.1
  rw [RoseTree.children_node] at hlen
  apply bound_eq hwiths hm env
  intro ref hr
  -- a single definition list is scoped like the query itself
  cases hts : ts.filter fun t ↦ t.label.type.isWith with
  | nil =>
    rw [hts] at hr
    cases hr
  | cons t rest =>
    rw [hts, List.length_cons] at hlen
    obtain rfl : rest = [] := List.length_eq_zero_iff.mp (by omega)
    have ht := List.mem_filter.mp (hts ▸ List.mem_cons_self : t ∈ ts.filter _)
    rw [hts, List.map_singleton, Scoped.sequentially, Scoped.sequentially, List.append_nil] at hr
    exact hrefs t ht.1 ht.2 ref hr

theorem clauses_same {guards : List (TableRef × String)}
    (hrefs : ∀ t ∈ ts, t.label.type.isWith = false →
      ∀ ref ∈ (scoping schema t).tables scope, shielded py schema ref = true)
    (hguards : ∀ t ∈ ts, exposed py schema t ⊆ guards) :
    List.Forall₂ (SameMeaning ops py schema tenantId guards)
      (Interpretation.meanings (Interpretation.clauses (us.map (denote ops schema database))) ctes)
      (Interpretation.meanings (Interpretation.clauses (us.map (denote ops schema database'))) ctes) := by
  rw [clauses_denote, clauses_denote]
  apply sameMeanings (sound_filter h fun l ↦
    decide (l.key ≠ .where_ ∧ l.type.isWith = false)) hm
  · intro t ht
    obtain ⟨ht, hp⟩ := List.mem_filter.mp ht
    exact hrefs t ht (of_decide_eq_true hp).2
  · exact fun t ht ↦ hguards t (List.mem_filter.mp ht).1

theorem passes_same
    (hwhere : PlainChildren ts)
    (hrefs : ∀ t ∈ ts, t.label.type.isWith = false →
      ∀ ref ∈ (scoping schema t).tables scope, shielded py schema ref = true) (env : Local V) :
    Interpretation.passes ops (us.map (denote ops schema database)) ctes env =
      Interpretation.passes ops (us.map (denote ops schema database')) ctes env := by
  funext frame
  have hfind := find?_label h fun l ↦ decide (l.key = .where_)
  rw [passes_eq _ _ { type := .where_ }, passes_eq _ _ { type := .where_ }, whereHolds, whereHolds]
  rw [Expression.arg, RoseTree.child?, RoseTree.children_node]
  cases hts : ts.find? fun t ↦ decide (t.label.key = .where_) with
  | none =>
    rw [hts] at hfind
    cases hus : us.find? fun t ↦ decide (t.label.key = .where_) with
    | none => rfl
    | some u =>
      rw [hus] at hfind
      cases hfind
  | some t =>
    have hmem := List.mem_of_find?_eq_some hts
    have hwith : t.label.type.isWith = false := by
      rw [(hwhere t hmem (of_decide_eq_true (List.find?_some hts :))).1]
      rfl
    rw [hts] at hfind
    cases hus : us.find? fun t ↦ decide (t.label.key = .where_) with
    | none =>
      rw [hus] at hfind
      cases hfind
    | some u =>
      rw [hus] at hfind
      cases hfind with
      | some hsound =>
        have hsame := hsound.same scope ctes hm (hrefs t hmem hwith) _ (List.Subset.refl _)
        rw [Option.all_some, Option.all_some, holds, holds, hsame.term]

end Children

theorem Term.ofNode_congr {dialect : SQLDialect} {node : Node} {ts ts' : List (Term V)}
    {result result' : Local V → Result V}
    (hts : node.type.isWith = false → isQuery node.type = false → ts = ts')
    (hresult : result = result') :
    Term.ofNode ops ts dialect node result = Term.ofNode ops ts' dialect node result' := by
  subst hresult
  by_cases hw : node.type.isWith = true
  · obtain ⟨key, type, comments, quoted⟩ := node
    cases type <;> first | rfl | cases hw
  · by_cases hq : isQuery node.type = true
    · obtain ⟨key, type, comments, quoted⟩ := node
      cases type <;> first | rfl | cases hq
    · rw [hts (by simpa using hw) (by simpa using hq)]

theorem meaning_select {node : Node} {distinct : Bool} (hn : node.type = .select distinct)
    (ds : List (Interpretation V)) (database : Database V) (ctes : Ctes V) :
    (Interpretation.ofNode ops schema database node ds).meaning ctes =
      { term :=
          { node, aggregates := false
            value := fun env ↦ ops.scalar (Interpretation.resultOf ops node ds ctes env)
            keys := fun _ ↦ []
            result := fun env ↦ Interpretation.resultOf ops node ds ctes env }
        bind := fun _ ↦ ctes
        source := fun _ ↦ .unit
        extend := fun _ left ↦ left } := by
  obtain ⟨key, type, comments, quoted⟩ := node
  obtain rfl : type = .select distinct := hn
  rfl

section Tables

variable {l : Node} {ts : List Expression} {scope : Scope} {ref : TableRef} {t : Expression}

theorem isWith_scoping (t : Expression) :
    Scoped.isWith (scoping schema t) = t.label.type.isWith := by
  rw [Scoped.isWith, scoping_label, Node.folded_type]
  cases t.label.type <;> rfl

theorem mem_tables_query_iff (hq : isQuery l.type = true) :
    ref ∈ (scoping schema (.node l ts)).tables scope ↔
      ∃ t ∈ ts, ref ∈ (scoping schema t).tables (if t.label.type.isWith then scope
        else Scoped.bindAll (ts.map (scoping schema)) scope) := by
  have hparts : (scoping schema (.node l ts)).tables scope =
      (ts.map (scoping schema)).flatMap fun m ↦
        if m.isWith then m.tables scope
        else m.tables (Scoped.bindAll (ts.map (scoping schema)) scope) := by
    rw [scoping_node]
    obtain ⟨key, type, comments, quoted⟩ := l
    cases type <;> first | rfl | cases hq
  rw [hparts, List.flatMap_map, List.mem_flatMap]
  refine exists_congr fun t ↦ and_congr_right fun _ ↦ ?_
  rw [isWith_scoping]
  split <;> rfl

theorem mem_tables_query (hq : isQuery l.type = true) (ht : t ∈ ts)
    (h : ref ∈ (scoping schema t).tables (if t.label.type.isWith then scope
      else Scoped.bindAll (ts.map (scoping schema)) scope)) :
    ref ∈ (scoping schema (.node l ts)).tables scope :=
  (mem_tables_query_iff hq).mpr ⟨t, ht, h⟩

theorem mem_tables_other (hw : l.type.isWith = false) (hq : isQuery l.type = false)
    (ht : t ∈ ts) (h : ref ∈ (scoping schema t).tables scope) :
    ref ∈ (scoping schema (.node l ts)).tables scope := by
  have hmem : ref ∈ (ts.map (scoping schema)).flatMap fun m ↦ m.tables scope :=
    List.mem_flatMap.mpr ⟨_, List.mem_map_of_mem ht, h⟩
  rw [scoping_node]
  obtain ⟨key, type, comments, quoted⟩ := l
  cases type <;>
    first | exact hmem | exact List.mem_append_right _ hmem | (cases hq; done) | cases hw

end Tables

theorem exposed_child {l : Node} (hs : l.type.isSelect = false) {ts : List Expression}
    {t : Expression} (ht : t ∈ ts) :
    exposed py schema t ⊆ exposed py schema (.node l ts) := by
  intro g hg
  rw [exposed_node, hs]
  exact List.mem_append_right _ (List.mem_flatMap.mpr ⟨t, ht, hg⟩)

theorem exposed_found {l : Node} {distinct : Bool} (hl : l.type = .select distinct)
    {ts : List Expression} {found : List (TableRef × String)}
    (hfound : found.Perm (owned py schema l ts)) :
    ∀ t ∈ ts, exposed py schema t ⊆ found := by
  intro t ht g hg
  apply hfound.mem_iff.mpr
  rw [owned, hl]
  exact List.mem_flatMap.mpr ⟨t, ht, hg⟩

theorem plainChildren_rewritten {ts us : List Expression}
    (h : List.Forall₂ (Rewritten py schema tenantId) ts us) (hp : PlainChildren ts) :
    PlainChildren us := by
  induction h with
  | nil => exact hp
  | @cons t u ts us ht _ ih =>
    intro v hv hkey
    rcases List.mem_cons.mp hv with rfl | hv
    · have hlabel := Rewritten.label ht
      rw [hlabel] at hkey ⊢
      obtain ⟨htype, c, hc, hthis⟩ := hp t List.mem_cons_self hkey
      refine ⟨htype, ?_⟩
      obtain ⟨l, cs⟩ := t
      obtain rfl : cs = [c] := hc
      rw [Rewritten] at ht
      obtain ⟨ds, found, hds, hfound, rfl⟩ := ht
      have hnone : owned py schema l [c] = [] := by
        rw [RoseTree.label_node] at htype
        rw [owned, htype]
        rfl
      rw [hnone, List.perm_nil] at hfound
      subst hfound
      rcases rewrittenAll_iff.mp hds with _ | ⟨hd, hnil⟩
      cases hnil
      exact ⟨_, rfl, (Rewritten.label hd).trans (by rfl) ▸ hthis⟩
    · exact ih (fun t ht ↦ hp t (.tail _ ht)) v hv hkey

section Nodes

variable {l : Node} {ts us : List Expression} {found : List (TableRef × String)}

/-- A select whose `WHERE` has the predicates of its tables. -/
theorem sound_select (hops : ops.Lawful) {distinct : Bool} (hl : l.type = .select distinct)
    (hplain : PlainWith (.node l ts)) (hts : PlainChildren ts) (hus : PlainChildren us)
    (hguards : ∀ t ∈ ts, exposed py schema t ⊆ found)
    (h : List.Forall₂ (Sound ops py schema tenantId database database') ts us) :
    Sound ops py schema tenantId database database' (.node l ts)
      (found.foldl (guardScope py tenantId) (.node l us)) where
  label := label_foldl_guardScope found _
  same scope ctes hm hrefs guards _ := by
    have hq : isQuery l.type = true := by rw [hl]; rfl
    have hin (t : Expression) (ht : t ∈ ts) (hw : t.label.type.isWith = true) :
        ∀ ref ∈ (scoping schema t).tables scope, shielded py schema ref = true :=
      fun ref hr ↦ hrefs ref (mem_tables_query hq ht (by rwa [if_pos hw]))
    have hout (t : Expression) (ht : t ∈ ts) (hw : t.label.type.isWith = false) :
        ∀ ref ∈ (scoping schema t).tables (Scoped.bindAll (ts.map (scoping schema)) scope),
          shielded py schema ref = true :=
      fun ref hr ↦ hrefs ref (mem_tables_query hq ht (by rwa [hw]))
    have hresult : ((denote ops schema database
          (found.foldl (guardScope py tenantId) (.node l us))).meaning ctes).term.result =
        ((denote ops schema database'
          (found.foldl (guardScope py tenantId) (.node l us))).meaning ctes).term.result := by
      funext env
      obtain ⟨hinside, hmatches⟩ := inside_eq h hm env hplain hin
      have hclauses := clauses_same h hmatches hout hguards
      have hagree := agree_extendAll hclauses env (.of_eq uniform_unit)
      rw [result_guarded hops hl hus, result_guarded hops hl hus, ← hinside,
        Interpretation.selectResult, Interpretation.selectResult, map_term_eq hclauses,
        passes_same h hmatches hts hout]
      rw [hagree.filter_eq, hagree.blank]
    have hlabel := @label_foldl_guardScope py tenantId found (.node l us)
    generalize found.foldl (guardScope py tenantId) (.node l us) = select at *
    obtain ⟨l', us'⟩ := select
    obtain rfl : l' = l := hlabel
    rw [denote_node, denote_node, meaning_select hl, meaning_select hl] at hresult ⊢
    have hterm := congrArg (fun result : Local V → Result V ↦
      ({ node := l', aggregates := false, value := fun env ↦ ops.scalar (result env)
         keys := fun _ ↦ [], result } : Term V)) hresult
    exact ⟨hterm, rfl, fun _ ↦ .of_eq uniform_unit, fun _ _ _ hleft ↦ hleft⟩
  binds scope ctes hm _ env := by
    have hlabel := @label_foldl_guardScope py tenantId found (.node l us)
    generalize found.foldl (guardScope py tenantId) (.node l us) = select at *
    obtain ⟨l', us'⟩ := select
    obtain rfl : l' = l := hlabel
    have hbind : (scoping schema (.node l' ts)).bind scope = scope := by
      rw [scoping_node]
      have hfolded : l'.folded schema.dialect = l' := Node.folded_eq _ (by rw [hl]; rfl)
      change Scoped.bindOf (l'.folded schema.dialect) _ scope = scope
      rw [hfolded, Scoped.bindOf, hl]
    rw [denote_node, meaning_select hl, hbind]
    exact hm

variable {scope : Scope} {ctes : Ctes V}
  (h : List.Forall₂ (Sound ops py schema tenantId database database') ts us)
  (hm : Matches scope ctes)
  (hrefs : ∀ ref ∈ (scoping schema (.node l ts)).tables scope, shielded py schema ref = true)

include h hm hrefs

theorem inside_query (hq : isQuery l.type = true) (hplain : PlainWith (.node l ts))
    {guards : List (TableRef × String)} (hguards : ∀ t ∈ ts, exposed py schema t ⊆ guards)
    (env : Local V) :
    Interpretation.inside (us.map (denote ops schema database)) ctes env =
        Interpretation.inside (us.map (denote ops schema database')) ctes env ∧
      List.Forall₂ (SameMeaning ops py schema tenantId guards)
        (Interpretation.meanings (Interpretation.clauses (us.map (denote ops schema database)))
          (Interpretation.inside (us.map (denote ops schema database)) ctes env))
        (Interpretation.meanings (Interpretation.clauses (us.map (denote ops schema database')))
          (Interpretation.inside (us.map (denote ops schema database')) ctes env)) := by
  obtain ⟨hinside, hmatches⟩ := inside_eq h hm env hplain fun t ht hw ref hr ↦
    hrefs ref (mem_tables_query hq ht (by rwa [if_pos hw]))
  refine ⟨hinside, hinside ▸ clauses_same h hmatches (fun t ht hw ref hr ↦ ?_) hguards⟩
  exact hrefs ref (mem_tables_query hq ht (by rwa [hw]))

theorem resultOf_eq (hs : l.type.isSelect = false) (hplain : PlainNode (.node l ts))
    (env : Local V) :
    Interpretation.resultOf ops l (us.map (denote ops schema database)) ctes env =
      Interpretation.resultOf ops l (us.map (denote ops schema database')) ctes env := by
  have hexposed (t : Expression) (ht : t ∈ ts) :
      exposed py schema t ⊆ ts.flatMap (exposed py schema) :=
    fun g hg ↦ List.mem_flatMap.mpr ⟨t, ht, hg⟩
  obtain ⟨key, type, comments, quoted⟩ := l
  cases type with
  | select distinct => cases hs
  | setOperation operation distinct =>
    obtain ⟨hinside, hclauses⟩ := inside_query h hm hrefs rfl hplain hexposed env
    rw [Interpretation.resultOf, Interpretation.resultOf]
    dsimp only
    rw [map_term_eq hclauses]
  | subquery alias_ columns =>
    obtain ⟨hinside, hclauses⟩ := inside_query h hm hrefs rfl hplain.1 hexposed env
    rw [Interpretation.resultOf, Interpretation.resultOf]
    dsimp only
    rw [map_term_eq hclauses]
  | _ => rw [Interpretation.resultOf_of_not_query rfl, Interpretation.resultOf_of_not_query rfl]

omit hm hrefs in
theorem arg_isQuery_clauses (ctes : Ctes V)
    (hq : ((Expression.arg .this (.node l ts)).any fun t ↦ isQuery t.label.type) = true) :
    ((Meaning.arg .this (Interpretation.meanings
      (Interpretation.clauses (us.map (denote ops schema database))) ctes)).any fun m ↦
        isQuery m.term.node.type) = true := by
  rw [Option.any_eq_true] at hq
  obtain ⟨t, ht, hquery⟩ := hq
  rw [clauses_denote, Meaning.arg, Interpretation.meanings, List.map_map, List.find?_map, Option.any_map]
  induction h with
  | nil => cases ht
  | @cons t' u ts us hsound _ ih =>
    rw [Expression.arg, RoseTree.child?, RoseTree.children_node, List.find?_cons] at ht
    rw [List.filter_cons]
    by_cases hkey : t'.label.key = .this
    · rw [decide_eq_true hkey] at ht
      cases ht
      have hclause : u.label.key ≠ .where_ ∧ u.label.type.isWith = false := by
        rw [hsound.label, hkey]
        refine ⟨by decide, ?_⟩
        cases htype : t.label.type <;> first | rfl | (rw [htype] at hquery; cases hquery)
      rw [if_pos (decide_eq_true hclause), List.find?_cons, Function.comp_apply,
        Function.comp_apply, term_node, hsound.label, Node.folded_key, decide_eq_true hkey,
        Option.any_some, Function.comp_apply]
      change isQuery ((denote ops schema database u).meaning ctes).term.node.type = true
      rw [term_node, hsound.label, Node.folded_type, isQuery_folded]
      exact hquery
    · rw [decide_eq_false hkey] at ht
      have hrest := ih ht
      split
      · rw [List.find?_cons, Function.comp_apply, Function.comp_apply, term_node, hsound.label,
          Node.folded_key, decide_eq_false hkey]
        exact hrest
      · exact hrest

theorem bindOf_eq (hplain : PlainNode (.node l ts)) (env : Local V) :
    Interpretation.bindOf (l.folded schema.dialect) (us.map (denote ops schema database)) ctes env =
        Interpretation.bindOf (l.folded schema.dialect) (us.map (denote ops schema database')) ctes
          env ∧
      Matches ((scoping schema (.node l ts)).bind scope)
        (Interpretation.bindOf (l.folded schema.dialect) (us.map (denote ops schema database)) ctes
          env) := by
  rw [scoping_node]
  obtain ⟨key, type, comments, quoted⟩ := l
  cases type with
  | with_ recursive =>
    obtain rfl : recursive = false := hplain
    rw [scoping_node] at hrefs
    exact bound_eq h hm env hrefs
  | cte alias_ columns =>
    have hterms := terms_eq h hm fun t ht ref hr ↦ hrefs ref (mem_tables_other rfl rfl ht hr)
    rw [Interpretation.bindOf, Interpretation.bindOf]
    dsimp only
    rw [hterms]
    exact ⟨rfl, congrArg (_ :: ·) hm⟩
  | _ =>
    rw [Interpretation.bindOf_of_not_definition rfl rfl, Interpretation.bindOf_of_not_definition rfl rfl]
    exact ⟨rfl, hm⟩

theorem agree_sourceOf (hops : ops.Lawful)
    (hsame : SameVisible ops py schema tenantId database database')
    (hplain : PlainNode (.node l ts)) {guards : List (TableRef × String)}
    (hguards : exposed py schema (.node l ts) ⊆ guards) (env : Local V) :
    Agree ops py schema tenantId guards
      (Interpretation.sourceOf ops schema database (l.folded schema.dialect)
        (us.map (denote ops schema database)) ctes env)
      (Interpretation.sourceOf ops schema database' (l.folded schema.dialect)
        (us.map (denote ops schema database')) ctes env) := by
  obtain ⟨key, type, comments, quoted⟩ := l
  cases type with
  | table ref =>
    have hms := sameMeanings h hm
      (fun t ht ref hr ↦ hrefs ref (mem_tables_other rfl rfl ht hr))
      fun t ht ↦ List.Subset.trans (exposed_child rfl ht) hguards
    refine agree_extendAll hms env ?_
    rw [tableResult, tableResult]
    cases hcte : cteOf schema.dialect ctes ref with
    | some result => exact .of_eq (uniform_single _ _ _)
    | none =>
      have hscope : (scope.cte schema.dialect ref).isSome = false := by rw [hm.cte, hcte]; rfl
      have href : ref ∈ (scoping schema
          (.node { key, type := .table ref, comments, quoted } ts)).tables scope := by
        rw [scoping_node]
        change ref ∈ (if (scope.cte schema.dialect ref).isSome then [] else [ref]) ++ _
        rw [hscope]
        exact List.mem_append_left _ List.mem_cons_self
      have hshielded := hrefs ref href
      cases hdenoted : denoted schema ref with
      | none =>
        rw [shielded, hdenoted] at hshielded
        cases hshielded
      | some table =>
        apply agree_table hops hsame hdenoted hshielded
        intro g hg
        apply hguards
        rw [exposed_node]
        exact List.mem_append_left _ (Option.mem_toList.mpr hg)
  | subquery alias_ columns =>
    obtain ⟨hinside, hclauses⟩ := inside_query h hm hrefs rfl hplain.1
      (fun t ht ↦ List.Subset.trans (exposed_child rfl ht) hguards) env
    have hresult := resultOf_eq h hm hrefs rfl hplain env
    rw [Interpretation.sourceOf_subquery rfl, Interpretation.sourceOf_subquery rfl,
      Interpretation.resultOf_folded, Interpretation.resultOf_folded,
      Interpretation.derivedSource, Interpretation.derivedSource, ← arg_isQuery_eq hclauses, hresult]
    split
    · exact agree_extendAll hclauses env (.of_eq (uniform_single _ _ _))
    · rename_i hnot
      have halias : alias_ = "" := hplain.2.resolve_left fun hq ↦
        hnot (arg_isQuery_clauses h _ hq)
      have hfolded := (@SQLDialect.fold_eq_empty schema.dialect
        (Part.alias_ ∈ quoted) alias_).mpr halias
      dsimp only
      rw [if_pos hfolded, if_pos hfolded]
      exact agree_extendAll hclauses env (agree_relationOf hclauses env)
  | _ =>
    rw [Interpretation.sourceOf_of_not_relation rfl rfl, Interpretation.sourceOf_of_not_relation rfl rfl]
    exact .of_eq uniform_unit

omit h hm hrefs in
theorem sound_other (hops : ops.Lawful)
    (hsame : SameVisible ops py schema tenantId database database')
    (hs : l.type.isSelect = false) (hplain : PlainNode (.node l ts))
    (h : List.Forall₂ (Sound ops py schema tenantId database database') ts us) :
    Sound ops py schema tenantId database database' (.node l ts) (.node l us) where
  label := rfl
  same scope ctes hm hrefs guards hguards := by
    rw [denote_node, denote_node]
    refine ⟨Term.ofNode_congr (fun hw hq ↦ ?_) ?_, ?_, ?_, ?_⟩
    · rw [Node.folded_type, NodeType.isWith_folded] at hw
      rw [Node.folded_type, isQuery_folded] at hq
      exact terms_eq h hm fun t ht ref hr ↦ hrefs ref (mem_tables_other hw hq ht hr)
    · exact funext fun env ↦ resultOf_eq h hm hrefs hs hplain env
    · exact funext fun env ↦ (bindOf_eq h hm hrefs hplain env).1
    · exact fun env ↦ agree_sourceOf h hm hrefs hops hsame hplain hguards env
    · intro env left left' hleft
      by_cases hclause : l.type.isWith = false ∧ isQuery l.type = false
      · apply agree_extendOf _ env l hleft
        exact sameMeanings h hm
          (fun t ht ref hr ↦ hrefs ref (mem_tables_other hclause.1 hclause.2 ht hr))
          fun t ht ↦ List.Subset.trans (exposed_child hs ht) hguards
      · obtain ⟨key, type, comments, quoted⟩ := l
        cases type <;> first | exact hleft | exact absurd ⟨rfl, rfl⟩ hclause
  binds scope ctes hm hrefs env := by
    rw [denote_node]
    exact (bindOf_eq h hm hrefs hplain env).2

end Nodes

/-- A rewritten statement means the same on databases that agree on what the tenant may see. -/
theorem sound_rewritten (hops : ops.Lawful)
    (hsame : SameVisible ops py schema tenantId database database') {e e' : Expression}
    (h : Rewritten py schema tenantId e e') (hf : InFragment e) :
    Sound ops py schema tenantId database database' e e' := by
  induction e using RoseTree.inductionOn generalizing e' with
  | node l ts ih =>
    rw [Rewritten] at h
    obtain ⟨us, found, hus, hfound, rfl⟩ := h
    have hrewritten := rewrittenAll_iff.mp hus
    have hsound : List.Forall₂ (Sound ops py schema tenantId database database') ts us :=
      forall₂_imp_mem hrewritten fun t ht u hr ↦ ih t ht hr (hf.child ht)
    have hplain := hf.plain _ (RoseTree.self_mem_walk _)
    have hchildren := plainChildren_of_plainWhere hf.plainWhere
    by_cases hs : l.type.isSelect = true
    · obtain ⟨distinct, hl⟩ : ∃ distinct, l.type = .select distinct := by
        cases htype : l.type <;> first | exact ⟨_, rfl⟩ | (rw [htype] at hs; cases hs)
      rw [PlainNode, RoseTree.label_node, hl] at hplain
      exact sound_select hops hl hplain hchildren
        (plainChildren_rewritten hrewritten hchildren) (exposed_found hl hfound) hsound
    · have hnone : owned py schema l ts = [] := by rw [owned, if_neg hs]
      rw [hnone, List.perm_nil] at hfound
      subst hfound
      exact sound_other hops hsame (by simpa using hs) hplain hsound

end TextToSql.Semantics
