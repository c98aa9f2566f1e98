import TextToSql.Semantics.TenantGuards

namespace TextToSql.Semantics

open Library Domain Sql Security

variable {V : Type} (ops : Operations V) (py : Python) (schema : DatabaseSchema)
  (tenantId : String)

/-- The position of the tenant column that the catalog names. -/
def tenantIndex (table : TableInfo) : Option Nat :=
  table.tenant.bind fun column ↦
    positionOf (table.columns.map fun c ↦ asciiLower c.name) (asciiLower column)

def ofTenant (table : TableInfo) (row : List V) : Bool :=
  (tenantIndex table).any fun i ↦ ops.isTenant py tenantId (row[i]?.getD ops.null)

/-- All rows of a table without a tenant column, and the tenant's rows of one with it. -/
def visible (table : TableInfo) (rows : List (List V)) : List (List V) :=
  if table.tenant = none then rows else rows.filter (ofTenant ops py tenantId table)

/-- The databases agree on what the tenant may see. -/
def SameVisible (database database' : Database V) : Prop :=
  ∀ table ∈ schema.tables, visible ops py tenantId table (database.rows table) =
    visible ops py tenantId table (database'.rows table)

/-- A name that is printed without quotes is read back as it is. -/
def readsBack (keyWords : List String) (name : String) : Bool :=
  asciiLower (strip name) = asciiLower name ∧ asciiLower name ∉ keyWords

/-- The predicate on a column of the reference is read back, and its qualifier is still the name
that the reference exposes. -/
def keepsNames (ref : TableRef) (column : String) : Bool :=
  emitted py schema ref.aliasOrName = ref.exposed schema.dialect &&
    (!isSafeIdentifier py ref.aliasOrName ||
      readsBack schema.dialect.keyWords ref.aliasOrName) &&
    (!isSafeIdentifier py column || readsBack schema.dialect.keyWordsAfterDot column)

/-- A column with the name, among those that a reference to the table shows, is the tenant column.
SQLite would look further out for a column that the reference does not show. -/
def guardsRows (dialect : SQLDialect) (table : TableInfo) (names : List String) (column : String) :
    Bool :=
  (dialect = .postgres || names.any (isNamed column)) &&
    (positionOf names column).all fun i ↦ tenantIndex table = some i

/-- The reference denotes a catalog table, its predicate keeps the names that it needs, and the
column that the predicate names, where the reference shows one, is the tenant column. -/
def shielded (ref : TableRef) : Bool :=
  match denoted schema ref with
  | none => false
  | some table =>
    table.tenant = none ||
      ((schema.table py ref.name).bind TableInfo.tenant).any fun column ↦
        keepsNames py schema ref column &&
          guardsRows schema.dialect table
            (relabel (ref.columnNames schema.dialect) (columnsOf schema.dialect table))
            (emitted py schema column)

def GuardsHold (guards : List (TableRef × String)) (segments : List (Segment V)) : Prop :=
  ∀ g ∈ guards, emitted py schema g.1.aliasOrName ≠ "" →
    (∃ s ∈ segments, s.answers schema.dialect (emitted py schema g.1.aliasOrName)
      (emitted py schema g.2) = true) →
    ops.isTenant py tenantId (({ segments } : Frame V).qualified ops.null schema.dialect
      (emitted py schema g.1.aliasOrName) (emitted py schema g.2)) = true

def shapeOf (segments : List (Segment V)) : List (String × List String) :=
  segments.map Segment.shape

def Relation.Uniform (r : Relation V) : Prop :=
  ∀ f ∈ r.rows, shapeOf f.segments = shapeOf r.blank.segments

/-- The relations have the same good rows, and every row that passes the predicates is good. -/
structure Agree (guards : List (TableRef × String)) (r r' : Relation V) : Prop where
  blank : r.blank = r'.blank
  uniform : r.Uniform
  uniform' : r'.Uniform
  good : ∃ good : List (Segment V) → Bool,
    Decisive good r.blank.segments ∧
    (r.rows.filter fun f ↦ good f.segments) = (r'.rows.filter fun f ↦ good f.segments) ∧
    ∀ segments, shapeOf segments = shapeOf r.blank.segments → ∀ before after,
      GuardsHold ops py schema tenantId guards (before ++ segments ++ after) → good segments = true

variable {ops py schema tenantId}

theorem Agree.of_eq {guards : List (TableRef × String)} {r : Relation V} (h : r.Uniform) :
    Agree ops py schema tenantId guards r r :=
  ⟨rfl, h, h, fun _ ↦ true, .inr fun _ ↦ rfl, rfl, fun _ _ _ _ _ ↦ rfl⟩

theorem uniform_unit : (Relation.unit : Relation V).Uniform := by
  intro f hf
  rw [List.mem_singleton.mp hf]
  rfl

theorem uniform_empty : ({} : Relation V).Uniform := fun _ hf ↦ nomatch hf

theorem uniform_single (name : String) (columns : List String) (result : Result V) :
    (Relation.single name columns result).Uniform := by
  intro f hf
  obtain ⟨row, -, rfl⟩ := List.mem_map.mp hf
  rfl

theorem Relation.Uniform.length {r : Relation V} (h : r.Uniform) {f : Frame V}
    (hf : f ∈ r.rows) : f.segments.length = r.blank.segments.length := by
  have hshape := congrArg List.length (h f hf)
  rwa [shapeOf, shapeOf, List.length_map, List.length_map] at hshape

section Join

variable {guards : List (TableRef × String)} {left left' right right' : Relation V}
  {keepLeft keepRight : Bool} {names : List String} {on : Frame V → Frame V → Bool}

theorem uniform_join (hl : left.Uniform) (hr : right.Uniform) :
    (left.join keepLeft keepRight names on right).Uniform := by
  intro f hf
  obtain ⟨p, hp, rfl⟩ := List.mem_map.mp hf
  obtain ⟨hleft, hright⟩ := mem_outerJoin hp
  have h1 : shapeOf p.1.segments = shapeOf left.blank.segments := by
    rcases hleft with h | ⟨-, h⟩
    · exact hl _ h
    · rw [h]
  have h2 : shapeOf p.2.segments = shapeOf right.blank.segments := by
    rcases hright with h | ⟨-, h⟩
    · exact hr _ h
    · rw [h]
  rw [shapeOf, Relation.join, Frame.segments_append, Frame.segments_append, List.map_append]
  exact (congrArg₂ _ h1 h2).trans List.map_append.symm

theorem filter_join {goodLeft goodRight : List (Segment V) → Bool} (hl : left.Uniform) :
    ((left.join keepLeft keepRight names on right).rows.filter fun f ↦
      goodLeft (f.segments.take left.blank.segments.length) &&
        goodRight (f.segments.drop left.blank.segments.length)) =
      ((outerJoin keepLeft keepRight on left.blank right.blank left.rows right.rows).filter
        fun p ↦ goodLeft p.1.segments && goodRight p.2.segments).map
          fun p ↦ p.1.append names p.2 := by
  rw [Relation.join, List.filter_map]
  refine congrArg (List.map _) (List.filter_congr fun p hp ↦ ?_)
  have hlen : left.blank.segments.length = p.1.segments.length := by
    rcases (mem_outerJoin hp).1 with h | ⟨-, h⟩
    · exact (hl.length h).symm
    · rw [h]
  rw [Function.comp_apply, Frame.segments_append, hlen, List.take_left, List.drop_left]

theorem Agree.join (hl : Agree ops py schema tenantId guards left left')
    (hr : Agree ops py schema tenantId guards right right') :
    Agree ops py schema tenantId guards (left.join keepLeft keepRight names on right)
      (left'.join keepLeft keepRight names on right') := by
  obtain ⟨goodL, hdecL, hrowsL, hguardL⟩ := hl.good
  obtain ⟨goodR, hdecR, hrowsR, hguardR⟩ := hr.good
  refine ⟨?_, uniform_join hl.uniform hr.uniform, uniform_join hl.uniform' hr.uniform',
    fun segments ↦ goodL (segments.take left.blank.segments.length) &&
      goodR (segments.drop left.blank.segments.length), ?_, ?_, ?_⟩
  · rw [Relation.join, Relation.join, hl.blank, hr.blank]
  · rw [Relation.join, Frame.segments_append]
    rcases hdecL with hL | hL
    · left
      dsimp only
      rw [List.take_left, hL, Bool.false_and]
    · rcases hdecR with hR | hR
      · left
        dsimp only
        rw [List.drop_left, hR, Bool.and_false]
      · right
        intro segments
        dsimp only
        rw [hL, hR, Bool.and_self]
  · have hjoin := @filter_outerJoin _ _ keepLeft keepRight on left.blank right.blank _ _ _ _ _ _
      (Decisive.comp (f := Frame.segments) hdecL) (Decisive.comp (f := Frame.segments) hdecR)
      hrowsL hrowsR
    rw [filter_join hl.uniform, hjoin, hl.blank, hr.blank, filter_join hl.uniform']
  · intro segments hshape before after hg
    rw [Relation.join, Frame.segments_append, shapeOf, shapeOf, List.map_append] at hshape
    have htake : shapeOf (segments.take left.blank.segments.length) =
        shapeOf left.blank.segments := by
      have h := congrArg (List.take left.blank.segments.length) hshape
      rw [← List.map_take] at h
      refine h.trans ?_
      rw [← List.length_map (f := Segment.shape), List.take_left]
      rfl
    have hdrop : shapeOf (segments.drop left.blank.segments.length) =
        shapeOf right.blank.segments := by
      have h := congrArg (List.drop left.blank.segments.length) hshape
      rw [← List.map_drop] at h
      refine h.trans ?_
      rw [← List.length_map (f := Segment.shape), List.drop_left]
      rfl
    have hsplit := List.take_append_drop left.blank.segments.length segments
    dsimp only
    rw [hguardL _ htake before (segments.drop left.blank.segments.length ++ after),
      hguardR _ hdrop (before ++ segments.take left.blank.segments.length) after, Bool.and_self]
    · rwa [List.append_assoc before, hsplit]
    · rwa [List.append_assoc before, ← List.append_assoc (segments.take _), hsplit,
        ← List.append_assoc]

end Join

theorem qualified_of_mem {frame : Frame V} {s : Segment V} {dialect : SQLDialect}
    {qualifier name : String} (hs : s ∈ frame.segments)
    (hq : s.answers dialect qualifier name = true) :
    frame.qualified ops.null dialect qualifier name = s.lookup ops.null name ∨
      frame.qualified ops.null dialect qualifier name = ops.null := by
  have hmem : s ∈ frame.segments.filter (Segment.answers dialect qualifier name) :=
    List.mem_filter.mpr ⟨hs, hq⟩
  rw [Frame.qualified]
  split
  · rename_i s' hone
    rw [hone, List.mem_singleton] at hmem
    exact .inl (by rw [hmem])
  · exact .inr rfl

theorem isNamed_self (name : String) : isNamed name name = true :=
  decide_eq_true rfl

theorem aliasOrName_ne {ref : TableRef} (h : ref.name ≠ "") : ref.aliasOrName ≠ "" := by
  rw [TableRef.aliasOrName]
  split
  · exact h
  · assumption

theorem exposed_ne {ref : TableRef} (h : ref.name ≠ "") : ref.exposed schema.dialect ≠ "" :=
  SQLDialect.fold_eq_empty.not.mpr (aliasOrName_ne h)

def goodRow (ops : Operations V) (py : Python) (tenantId : String) (table : TableInfo)
    (segments : List (Segment V)) : Bool :=
  match segments with
  | [s] => (tenantIndex table).any fun i ↦ ops.isTenant py tenantId (s.get ops.null i)
  | _ => false

theorem filter_single (name : String) (columns : List String) (table : TableInfo)
    (result : Result V) :
    ((Relation.single name columns result).rows.filter fun f ↦
      goodRow ops py tenantId table f.segments) =
      (Relation.single name columns
        { result with rows := result.rows.filter (ofTenant ops py tenantId table) }).rows :=
  List.filter_map

theorem goodRow_blank (hops : ops.Lawful) (name : String) (columns : List String)
    (table : TableInfo) (result : Result V) :
    goodRow ops py tenantId table (Relation.single name columns result).blank.segments =
      false := by
  rw [Relation.single, goodRow]
  cases tenantIndex table with
  | none => rfl
  | some i => exact isTenant_null hops

theorem answers_of_guardsRows {dialect : SQLDialect} {table : TableInfo} {s : Segment V}
    {qualifier column : String} (hname : s.name = qualifier)
    (h : guardsRows dialect table s.columns column = true) :
    s.answers dialect qualifier column = true := by
  rw [guardsRows, Bool.and_eq_true] at h
  rw [Segment.answers, hname, isNamed_self, Bool.true_and]
  exact h.1

theorem goodRow_of_guard (hops : ops.Lawful) {dialect : SQLDialect} {qualifier column : String}
    {table : TableInfo} {s : Segment V} (hname : s.name = qualifier)
    (hrows : guardsRows dialect table s.columns column = true)
    {frame : Frame V} (hs : s ∈ frame.segments)
    (hguard : ops.isTenant py tenantId
      (frame.qualified ops.null dialect qualifier column) = true) :
    goodRow ops py tenantId table [s] = true := by
  have hnull := @isTenant_null V ops py tenantId hops
  have hposition := (Bool.and_eq_true _ _ ▸ hrows).2
  have hlookup : ops.isTenant py tenantId (s.lookup ops.null column) = true := by
    rcases @qualified_of_mem V ops frame s _ _ column hs (answers_of_guardsRows hname hrows)
      with h | h
    · rwa [h] at hguard
    · rw [h, hnull] at hguard
      cases hguard
  rw [Segment.lookup] at hlookup
  cases hp : positionOf s.columns column with
  | none =>
    rw [hp, Option.elim_none, hnull] at hlookup
    cases hlookup
  | some i =>
    rw [hp, Option.all_some, decide_eq_true_eq] at hposition
    rw [hp, Option.elim_some] at hlookup
    rw [goodRow, hposition]
    exact hlookup

theorem emitted_of_keepsNames {ref : TableRef} {column : String}
    (h : keepsNames py schema ref column = true) :
    emitted py schema ref.aliasOrName = ref.exposed schema.dialect := by
  rw [keepsNames, Bool.and_eq_true, Bool.and_eq_true] at h
  exact of_decide_eq_true h.1.1

theorem agree_table (hops : ops.Lawful) {database database' : Database V}
    (hsame : SameVisible ops py schema tenantId database database') {ref : TableRef}
    {table : TableInfo} (hdenoted : denoted schema ref = some table)
    (hshielded : shielded py schema ref = true) {guards : List (TableRef × String)}
    (hguards : ∀ g ∈ tenantColumn py schema (.table ref), g ∈ guards) :
    Agree ops py schema tenantId guards
      (.single (ref.exposed schema.dialect) (ref.columnNames schema.dialect)
        { columns := columnsOf schema.dialect table, rows := database.rows table })
      (.single (ref.exposed schema.dialect) (ref.columnNames schema.dialect)
        { columns := columnsOf schema.dialect table, rows := database'.rows table }) := by
  obtain ⟨hmem, hname, -, -, -⟩ := denotes_of_denoted hdenoted
  have hrows := hsame table hmem
  rw [shielded, hdenoted] at hshielded
  dsimp only at hshielded
  by_cases htenant : table.tenant = none
  · rw [visible, visible, if_pos htenant, if_pos htenant] at hrows
    rw [hrows]
    exact .of_eq (uniform_single _ _ _)
  · rw [visible, visible, if_neg htenant, if_neg htenant] at hrows
    rw [decide_eq_false htenant, Bool.false_or, Option.any_eq_true] at hshielded
    obtain ⟨column, hcolumn, hkept⟩ := hshielded
    obtain ⟨hkeeps, hcovers⟩ := (Bool.and_eq_true _ _).mp hkept
    have hemitted := emitted_of_keepsNames hkeeps
    have hguard : (ref, column) ∈ guards := by
      apply hguards
      rw [tenantColumn, NodeType.tableRef, Option.bind_some, hcolumn]
      rfl
    refine ⟨rfl, uniform_single _ _ _, uniform_single _ _ _, goodRow ops py tenantId table,
      .inl (goodRow_blank hops _ _ _ _), ?_, ?_⟩
    · rw [filter_single, filter_single]
      exact congrArg (fun rows ↦ (Relation.single _ _ { rows, columns := _ }).rows) hrows
    · intro segments hshape before after hg
      obtain ⟨s, rfl, hs⟩ := List.map_eq_singleton_iff.mp hshape
      have hin : s ∈ ({ segments := before ++ [s] ++ after } : Frame V).segments := by simp
      have hsname : s.name = ref.exposed schema.dialect := congrArg Prod.fst hs
      have hscolumns : s.columns = relabel (ref.columnNames schema.dialect)
          (columnsOf schema.dialect table) := congrArg Prod.snd hs
      rw [← hscolumns] at hcovers
      have hpasses := hg _ hguard
      rw [hemitted] at hpasses
      exact goodRow_of_guard hops hsname hcovers hin
        (hpasses (exposed_ne hname) ⟨s, hin, answers_of_guardsRows hsname hcovers⟩)

theorem guardsHold_of_guardHolds {guards : List (TableRef × String)} {env : Local V}
    {frame : Frame V}
    (h : (guards.all fun table ↦
      guardHolds ops py schema tenantId table (env.enter frame [frame])) = true) :
    GuardsHold ops py schema tenantId guards frame.segments := by
  intro g hg hne hshown
  have hguard := List.all_eq_true.mp h g hg
  have hany : (frame.segments.any (Segment.answers schema.dialect
      (emitted py schema g.1.aliasOrName) (emitted py schema g.2))) = true :=
    List.any_eq_true.mpr hshown
  rw [guardHolds, Local.column, if_neg hne, Local.frameOf, Local.enter, List.find?_cons,
    hany] at hguard
  exact hguard

theorem Agree.filter_eq {guards : List (TableRef × String)} {r r' : Relation V}
    (h : Agree ops py schema tenantId guards r r') {env : Local V} {passes : Frame V → Bool} :
    (r.rows.filter fun frame ↦ passes frame && guards.all fun table ↦
      guardHolds ops py schema tenantId table (env.enter frame [frame])) =
      r'.rows.filter fun frame ↦ passes frame && guards.all fun table ↦
        guardHolds ops py schema tenantId table (env.enter frame [frame]) := by
  obtain ⟨good, -, hrows, hgood⟩ := h.good
  have hfilter (rows : List (Frame V))
      (hu : ∀ f ∈ rows, shapeOf f.segments = shapeOf r.blank.segments) :
      (rows.filter fun frame ↦ passes frame && guards.all fun table ↦
        guardHolds ops py schema tenantId table (env.enter frame [frame])) =
        (rows.filter fun f ↦ good f.segments).filter fun frame ↦ passes frame &&
          guards.all fun table ↦
            guardHolds ops py schema tenantId table (env.enter frame [frame]) := by
    rw [List.filter_filter]
    apply List.filter_congr
    intro frame hf
    cases hall : guards.all fun table ↦
        guardHolds ops py schema tenantId table (env.enter frame [frame]) with
    | false => simp
    | true =>
      have hg := hgood frame.segments (hu frame hf) [] []
        (by simpa using guardsHold_of_guardHolds hall)
      simp [hg]
  rw [hfilter r.rows h.uniform, hfilter r'.rows (h.blank ▸ h.uniform'), hrows]

end TextToSql.Semantics
