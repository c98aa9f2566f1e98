import TextToSql.Security.RewriterScopes
import TextToSql.Semantics.Evaluation

namespace TextToSql.Semantics

open Library Domain Sql Security

variable {V : Type} {ops : Operations V} {py : Python} {schema : DatabaseSchema}
  {tenantId : String} {database : Database V}

/-- A value that the injected literal equals. -/
def Operations.isTenant (ops : Operations V) (py : Python) (tenantId : String) (v : V) : Bool :=
  ops.isTrue (ops.apply .eq
    [(.this, .value v), (.expression, .value (ops.apply (tenantLiteral py tenantId) []))])

/-- The identifier that the database reads where the rewriter writes a name. -/
def emitted (py : Python) (schema : DatabaseSchema) (name : String) : String :=
  schema.dialect.fold (!isSafeIdentifier py name) name

def guardHolds (ops : Operations V) (py : Python) (schema : DatabaseSchema) (tenantId : String)
    (table : TableRef × String) (env : Local V) : Bool :=
  ops.isTenant py tenantId
    (env.column ops schema.dialect (emitted py schema table.1.aliasOrName)
      (emitted py schema table.2))

def holds (ops : Operations V) (schema : DatabaseSchema) (database : Database V) (ctes : Ctes V)
    (env : Local V) (e : Expression) : Bool :=
  ops.isTrue (((denote ops schema database e).meaning ctes).term.value env)

theorem isTenant_null (hops : ops.Lawful) : ops.isTenant py tenantId ops.null = false :=
  hops.eq_null _

theorem term_node (ctes : Ctes V) (e : Expression) :
    ((denote ops schema database e).meaning ctes).term.node = e.label.folded schema.dialect := by
  obtain ⟨l, ts⟩ := e
  rw [denote_node]
  rfl

theorem denote_label (e : Expression) : (denote ops schema database e).node = e.label := by
  obtain ⟨l, ts⟩ := e
  rw [denote_node]
  rfl

theorem Term.toValue_ofNode (ts : List (Term V)) (dialect : SQLDialect) (node : Node)
    (result : Local V → Result V) (env : Local V) :
    ((Term.ofNode ops ts dialect node result).operand env).2.toValue ops =
      (Term.ofNode ops ts dialect node result).value env := by
  rw [Term.operand, Term.ofNode]
  dsimp only
  split <;> rfl

theorem toValue_operand (ctes : Ctes V) (env : Local V) (e : Expression) :
    ((((denote ops schema database e).meaning ctes).term.operand env).2.toValue ops) =
      ((denote ops schema database e).meaning ctes).term.value env := by
  obtain ⟨l, ts⟩ := e
  rw [denote_node]
  exact Term.toValue_ofNode _ _ _ _ _

theorem folded_columnNode (qualifier column : String) :
    ((columnNode py qualifier column).folded schema.dialect).type =
      .column (emitted py schema qualifier) (emitted py schema column) := by
  have htable : decide (Part.table ∈ (columnNode py qualifier column).quoted) =
      !isSafeIdentifier py qualifier := by
    cases hq : isSafeIdentifier py qualifier <;> cases hc : isSafeIdentifier py column <;>
      simp [columnNode, hq, hc]
  have hthis : decide (Part.this ∈ (columnNode py qualifier column).quoted) =
      !isSafeIdentifier py column := by
    cases hq : isSafeIdentifier py qualifier <;> cases hc : isSafeIdentifier py column <;>
      simp [columnNode, hq, hc]
  rw [emitted, emitted, ← htable, ← hthis]
  rfl

theorem operand_columnNode (ctes : Ctes V) (env : Local V) (qualifier column : String) :
    ((denote ops schema database (.node (columnNode py qualifier column) [])).meaning
        ctes).term.operand env =
      (.this,
        .value (env.column ops schema.dialect (emitted py schema qualifier)
          (emitted py schema column))) := by
  have hquery : ¬isQuery (.column (emitted py schema qualifier) (emitted py schema column)) =
      true := Bool.false_ne_true
  rw [Term.operand, term_node, RoseTree.label_node, folded_columnNode, if_neg hquery, denote_node,
    Interpretation.ofNode]
  dsimp only [Term.ofNode]
  rw [folded_columnNode, if_neg hquery, Term.valueOf, folded_columnNode]
  rfl

theorem holds_buildPredicate (ctes : Ctes V) (env : Local V) (table : TableRef × String)
    (key : Arg) :
    holds ops schema database ctes env
        (buildPredicate py tenantId table.1.aliasOrName table.2 key) =
      guardHolds ops py schema tenantId table env := by
  rw [buildPredicate, holds, denote_node, List.map_cons, List.map_singleton]
  change ops.isTrue (ops.apply .eq
    [((denote ops schema database (.node (columnNode py table.1.aliasOrName table.2) [])).meaning
        ctes).term.operand env, _]) = _
  rw [operand_columnNode]
  rfl

theorem holds_wrapped (ctes : Ctes V) (env : Local V) {l : Node} (c : Expression)
    (hl : l.type = .where_ ∨ l.type = .paren) :
    holds ops schema database ctes env (.node l [c]) =
      holds ops schema database ctes env c := by
  obtain ⟨key, type, comments, quoted⟩ := l
  rw [holds, denote_node, List.map_singleton]
  rcases hl with rfl | rfl <;> rfl

theorem holds_and (hops : ops.Lawful) (ctes : Ctes V) (env : Local V) {l : Node}
    (hl : l.type = .and_) {a b : Expression} (ha : a.label.key = .this)
    (hb : b.label.key = .expression) :
    holds ops schema database ctes env (.node l [a, b]) =
      (holds ops schema database ctes env a && holds ops schema database ctes env b) := by
  obtain ⟨key, type, comments, quoted⟩ := l
  obtain rfl : type = .and_ := hl
  have h := hops.and_ (((denote ops schema database a).meaning ctes).term.operand env).2
    (((denote ops schema database b).meaning ctes).term.operand env).2
  rw [toValue_operand, toValue_operand] at h
  rw [holds, holds, holds, ← h, denote_node]
  have hkey (e : Expression) : (((denote ops schema database e).meaning ctes).term.operand env).1 =
      e.label.key := by rw [Term.operand, term_node, Node.folded_key]
  have hpair (e : Expression) (k : Arg) (he : e.label.key = k) :
      ((denote ops schema database e).meaning ctes).term.operand env =
        (k, (((denote ops schema database e).meaning ctes).term.operand env).2) := by
    rw [← he, ← hkey]
  rw [← hpair a _ ha, ← hpair b _ hb]
  rfl

def PlainChildren (ts : List Expression) : Prop :=
  ∀ t ∈ ts, t.label.key = .where_ →
    t.label.type = .where_ ∧ ∃ c, t.children = [c] ∧ c.label.key = .this

theorem plainChildren_of_plainWhere {l : Node} {ts : List Expression}
    (h : PlainWhere (.node l ts)) : PlainChildren ts :=
  fun t ht ↦ h t (RoseTree.mem_walk_of_child ht (RoseTree.self_mem_walk t))

def guardedWhere (py : Python) (tenantId : String) (select : Expression)
    (table : TableRef × String) : Expression :=
  .node { key := .where_, type := .where_ }
    [conjoin id id ((select.arg .where_).bind (Expression.arg .this))
      (buildPredicate py tenantId table.1.aliasOrName table.2)]

theorem guardScope_eq (select : Expression) (table : TableRef × String) :
    guardScope py tenantId select table =
      select.setArg .where_ (guardedWhere py tenantId select table) := rfl

theorem plainChildren_guardScope {select : Expression} (h : PlainChildren select.children)
    (table : TableRef × String) :
    PlainChildren (guardScope py tenantId select table).children := by
  intro t ht hkey
  rw [guardScope, addWhere] at ht
  rcases RoseTree.mem_children_setChild ht with rfl | ht
  · refine ⟨rfl, _, rfl, ?_⟩
    cases hexisting : (select.child? fun l ↦ (id l).key = .where_).bind fun w ↦
      w.child? fun l ↦ (id l).key = .this with
    | none => rfl
    | some c => rfl
  · exact h t ht hkey

def whereHolds (ops : Operations V) (schema : DatabaseSchema) (database : Database V)
    (ctes : Ctes V) (env : Local V) (select : Expression) : Bool :=
  (select.arg .where_).all (holds ops schema database ctes env)

theorem passes_eq (ctes : Ctes V) (env : Local V) (l : Node) (ts : List Expression)
    (frame : Frame V) :
    Interpretation.passes ops (ts.map (denote ops schema database)) ctes env frame =
      whereHolds ops schema database ctes (env.enter frame [frame]) (.node l ts) := by
  have hfind : ((ts.map (denote ops schema database)).find? fun d ↦
      decide (d.node.key = .where_)) =
      (Expression.arg .where_ (.node l ts)).map (denote ops schema database) := by
    rw [List.find?_map]
    refine congrArg (Option.map _) (congrArg (List.find? · ts) (funext fun t ↦ ?_))
    rw [Function.comp_apply, denote_label]
  rw [Interpretation.passes, hfind, whereHolds]
  cases Expression.arg .where_ (.node l ts) <;> rfl

theorem holds_conjoin (hops : ops.Lawful) (ctes : Ctes V) (env : Local V)
    {existing : Option Expression} (he : ∀ c ∈ existing, c.label.key = .this)
    (table : TableRef × String) :
    holds ops schema database ctes env (conjoin id id existing
        (buildPredicate py tenantId table.1.aliasOrName table.2)) =
      (existing.all (holds ops schema database ctes env) &&
        guardHolds ops py schema tenantId table env) := by
  cases existing with
  | none => exact holds_buildPredicate ctes env table .this
  | some c =>
    have hwrap : holds ops schema database ctes env (wrapConnector id id c) =
        holds ops schema database ctes env c := by
      rw [wrapConnector]
      split
      · exact holds_wrapped ctes env c (.inr rfl)
      · rfl
    have hkey : (wrapConnector id id c).label.key = .this := by
      rw [wrapConnector]
      split
      · rfl
      · exact he c rfl
    rw [conjoin, holds_and hops ctes env rfl hkey rfl, hwrap, holds_buildPredicate]
    rfl

/-- One more predicate is one more condition. -/
theorem whereHolds_guardScope (hops : ops.Lawful) (ctes : Ctes V) (env : Local V)
    {select : Expression} (h : PlainChildren select.children) (table : TableRef × String) :
    whereHolds ops schema database ctes env (guardScope py tenantId select table) =
      (whereHolds ops schema database ctes env select &&
        guardHolds ops py schema tenantId table env) := by
  have harg : (guardScope py tenantId select table).arg .where_ =
      some (guardedWhere py tenantId select table) :=
    RoseTree.child?_setChild (p := fun l : Node ↦ l.key = .where_) rfl
  rw [whereHolds, whereHolds, harg, Option.all_some, guardedWhere,
    holds_wrapped ctes env _ (.inl rfl)]
  cases hw : select.arg .where_ with
  | none => exact holds_conjoin hops ctes env (by simp) table
  | some w =>
    have hmem : w ∈ select.children := List.mem_of_find?_eq_some hw
    have hkey : w.label.key = .where_ := of_decide_eq_true (List.find?_some hw :)
    obtain ⟨htype, c, hc, hthis⟩ := h w hmem hkey
    obtain ⟨lw, ws⟩ := w
    obtain rfl : ws = [c] := hc
    have hinner : Expression.arg .this (.node lw [c]) = some c := by
      simp [Expression.arg, RoseTree.child?, hthis]
    have hw' : lw.type = .where_ := htype
    rw [Option.bind_some, hinner, Option.all_some, holds_wrapped ctes env c (.inl hw'),
      holds_conjoin hops ctes env (fun d hd ↦ by cases hd; exact hthis)]
    rfl

theorem whereHolds_foldl (hops : ops.Lawful) (ctes : Ctes V) (env : Local V)
    (found : List (TableRef × String)) {select : Expression}
    (h : PlainChildren select.children) :
    whereHolds ops schema database ctes env (found.foldl (guardScope py tenantId) select) =
      (whereHolds ops schema database ctes env select &&
        found.all fun table ↦ guardHolds ops py schema tenantId table env) := by
  induction found generalizing select with
  | nil => simp
  | cons table found ih =>
    rw [List.foldl_cons, ih (plainChildren_guardScope h table), whereHolds_guardScope hops _ _ h,
      List.all_cons, Bool.and_assoc]

theorem children_foldl_guardScope (found : List (TableRef × String)) (select : Expression) :
    ((found.foldl (guardScope py tenantId) select).children.filter fun c ↦
      decide (c.label.key ≠ .where_)) =
      select.children.filter fun c ↦ decide (c.label.key ≠ .where_) := by
  induction found generalizing select with
  | nil => rfl
  | cons table found ih =>
    have hset := RoseTree.filter_children_setChild (t := select)
      (p := fun l : Node ↦ decide (l.key = .where_))
      (v := guardedWhere py tenantId select table) rfl
    simp only [← decide_not] at hset
    rw [List.foldl_cons, ih]
    exact hset

theorem filter_denote (p : Node → Bool) (ts : List Expression) :
    ((ts.map (denote ops schema database)).filter fun d ↦ p d.node) =
      (ts.filter fun t ↦ p t.label).map (denote ops schema database) := by
  rw [List.filter_map]
  refine congrArg (List.map _) (List.filter_congr fun t _ ↦ ?_)
  rw [Function.comp_apply, denote_label]

theorem clauses_denote (ts : List Expression) :
    Interpretation.clauses (ts.map (denote ops schema database)) =
      (ts.filter fun t ↦ decide (t.label.key ≠ .where_ ∧ t.label.type.isWith = false)).map
        (denote ops schema database) :=
  filter_denote (fun l ↦ decide (l.key ≠ .where_ ∧ l.type.isWith = false)) ts

theorem filter_foldl_guardScope {p : Node → Bool} {us us' : List Expression}
    (h : (us'.filter fun c ↦ decide (c.label.key ≠ .where_)) =
      us.filter fun c ↦ decide (c.label.key ≠ .where_))
    (hp : ∀ t ∈ us ++ us', p t.label = true → t.label.key ≠ .where_) :
    (us'.filter fun t ↦ p t.label) = us.filter fun t ↦ p t.label := by
  have hboth (ts : List Expression) (hts : ∀ t ∈ ts, p t.label = true → t.label.key ≠ .where_) :
      (ts.filter fun t ↦ p t.label) =
        (ts.filter fun c ↦ decide (c.label.key ≠ .where_)).filter fun t ↦ p t.label := by
    rw [List.filter_filter]
    apply List.filter_congr
    intro t ht
    cases hpt : p t.label with
    | false => rfl
    | true => simpa using hts t ht hpt
  rw [hboth us' fun t ht ↦ hp t (List.mem_append_right _ ht), h,
    ← hboth us fun t ht ↦ hp t (List.mem_append_left _ ht)]

theorem plainChildren_foldl (found : List (TableRef × String)) {select : Expression}
    (h : PlainChildren select.children) :
    PlainChildren (found.foldl (guardScope py tenantId) select).children := by
  induction found generalizing select with
  | nil => exact h
  | cons table found ih =>
    rw [List.foldl_cons]
    exact ih (plainChildren_guardScope h table)

theorem inside_eq_of_filter {ts us : List Expression} (hts : PlainChildren ts)
    (hus : PlainChildren us)
    (h : (us.filter fun c ↦ decide (c.label.key ≠ .where_)) =
      ts.filter fun c ↦ decide (c.label.key ≠ .where_)) (ctes : Ctes V) (env : Local V) :
    Interpretation.inside (us.map (denote ops schema database)) ctes env =
      Interpretation.inside (ts.map (denote ops schema database)) ctes env := by
  rw [Interpretation.inside, Interpretation.inside, filter_denote (p := fun l ↦ l.type.isWith),
    filter_denote (p := fun l ↦ l.type.isWith),
    filter_foldl_guardScope (p := fun l ↦ l.type.isWith) h]
  intro t ht hwith hkey
  have htype : t.label.type = .where_ := by
    rcases List.mem_append.mp ht with ht | ht
    · exact (hts t ht hkey).1
    · exact (hus t ht hkey).1
  rw [htype] at hwith
  cases hwith

theorem clauses_eq_of_filter {ts us : List Expression}
    (h : (us.filter fun c ↦ decide (c.label.key ≠ .where_)) =
      ts.filter fun c ↦ decide (c.label.key ≠ .where_)) :
    Interpretation.clauses (us.map (denote ops schema database)) =
      Interpretation.clauses (ts.map (denote ops schema database)) := by
  rw [clauses_denote, clauses_denote, filter_foldl_guardScope
    (p := fun l ↦ decide (l.key ≠ .where_ ∧ l.type.isWith = false)) h]
  exact fun t _ hp ↦ (of_decide_eq_true hp).1

theorem result_guarded (hops : ops.Lawful) {l : Node} {distinct : Bool}
    (hl : l.type = .select distinct) {us : List Expression} (h : PlainChildren us)
    (found : List (TableRef × String)) (ctes : Ctes V) (env : Local V) :
    let inner := Interpretation.inside (us.map (denote ops schema database)) ctes env
    ((denote ops schema database
        (found.foldl (guardScope py tenantId) (.node l us))).meaning ctes).term.result env =
      Interpretation.selectResult ops env
        (Interpretation.meanings (Interpretation.clauses (us.map (denote ops schema database))) inner)
        distinct fun frame ↦
          Interpretation.passes ops (us.map (denote ops schema database)) inner env frame &&
            found.all fun table ↦ guardHolds ops py schema tenantId table (env.enter frame [frame]) := by
  intro inner
  have hlabel := @label_foldl_guardScope py tenantId found (.node l us)
  have hfilter := @children_foldl_guardScope py tenantId found (.node l us)
  have hplain := @plainChildren_foldl py tenantId found (.node l us) h
  have hwhere (ctes : Ctes V) (env : Local V) :=
    @whereHolds_foldl V ops py schema tenantId database hops ctes env found (.node l us) h
  generalize found.foldl (guardScope py tenantId) (.node l us) = select at *
  obtain ⟨l', us'⟩ := select
  obtain rfl : l' = l := hlabel
  have hresult : ((denote ops schema database (.node l' us')).meaning ctes).term.result env =
      Interpretation.resultOf ops l' (us'.map (denote ops schema database)) ctes env := by
    rw [denote_node]
    rfl
  rw [RoseTree.children_node] at hplain hfilter
  rw [RoseTree.children_node] at hfilter
  rw [hresult, Interpretation.resultOf, hl]
  dsimp only
  rw [inside_eq_of_filter h hplain hfilter, clauses_eq_of_filter hfilter]
  congr 1
  funext frame
  rw [passes_eq inner env l', passes_eq inner env l', hwhere]

end TextToSql.Semantics
