import TextToSql.Application.BoundedResults
import TextToSql.Semantics.TenantGuards

namespace TextToSql.Semantics

open Library Domain Sql Application

variable {V : Type} {ops : Operations V} {schema : DatabaseSchema} {database : Database V}

namespace Term

variable (ts : List (Term V)) {k : Arg}

def unbounded (ts : List (Term V)) : List (Term V) := ts.filter fun t ↦ t.node.key ≠ .limit

theorem args_unbounded (hk : k ≠ .limit) : args k (unbounded ts) = args k ts := by
  rw [args, args, unbounded, List.filter_filter]
  apply List.filter_congr
  intro t _
  by_cases h : t.node.key = k
  · simp [h, hk]
  · simp [h]

theorem arg_unbounded (hk : k ≠ .limit) : arg k (unbounded ts) = arg k ts := by
  rw [arg, arg, ← List.head?_filter, ← List.head?_filter]
  exact congrArg List.head? (args_unbounded ts hk)

theorem arg_limit_unbounded : arg .limit (unbounded ts) = none := by
  rw [arg, unbounded, List.find?_eq_none]
  intro t ht
  simpa using (List.mem_filter.mp ht).2

end Term

def takeRows {α : Type} (bound : Option Nat) (rows : List α) : List α :=
  (bound.map fun n ↦ rows.take n).getD rows

namespace Result

def bounded (bound : Option Nat) (r : Result V) : Result V :=
  { r with rows := takeRows bound r.rows }

end Result

section Arrange

variable (ts : List (Term V)) (env : Local V)

def boundOf (ops : Operations V) (ts : List (Term V)) (env : Local V) : Option Nat :=
  (Term.arg .limit ts).bind fun t ↦ ops.count (t.value env)

theorem arrange_unbounded (rows : List (List V × Local V)) :
    arrange ops ts env rows =
      takeRows (boundOf ops ts env) (arrange ops (Term.unbounded ts) env rows) := by
  rw [arrange, arrange]
  dsimp only
  rw [Term.arg_unbounded ts (by decide), Term.arg_unbounded ts (by decide),
    Term.arg_limit_unbounded]
  rfl

theorem projected_unbounded (frame : Frame V) :
    projected ops (Term.unbounded ts) frame env = projected ops ts frame env := by
  rw [projected, projected, Term.args_unbounded ts (by decide)]

theorem unitsOf_unbounded (blank : Frame V) (kept : List (Frame V)) :
    unitsOf ops (Term.unbounded ts) env blank kept = unitsOf ops ts env blank kept := by
  have haggregate : isAggregate (Term.unbounded ts) = isAggregate ts := by
    rw [isAggregate, isAggregate, Term.args_unbounded ts (by decide),
      Term.args_unbounded ts (by decide), Term.arg_unbounded ts (by decide)]
  have hgrouping (frame : Frame V) :
      groupingEnv ops (Term.unbounded ts) env frame = groupingEnv ops ts env frame := by
    rw [groupingEnv, groupingEnv, projected_unbounded]
  rw [unitsOf, unitsOf, Term.arg_unbounded ts (by decide), haggregate]
  simp only [hgrouping]

theorem selected_unbounded (distinct : Bool) (blank : Frame V) (kept : List (Frame V)) :
    selected ops ts env distinct blank kept =
      (selected ops (Term.unbounded ts) env distinct blank kept).bounded
        (boundOf ops ts env) := by
  rw [selected, selected, unitsOf_unbounded, Term.arg_unbounded ts (by decide)]
  simp only [projected_unbounded]
  rw [arrange_unbounded]
  rfl

theorem arranged_unbounded (result : Result V) :
    arranged ops ts env result =
      (arranged ops (Term.unbounded ts) env result).bounded (boundOf ops ts env) := by
  rw [arranged, arrange_unbounded]
  rfl

end Arrange

/-- The row bound of a query is a `LIMIT` with its number, or a `FETCH`. -/
def PlainLimit (ts : List Expression) : Prop :=
  ∀ t ∈ ts, t.label.key = .limit →
    (t.label.type = .limit ∧ (t.arg .expression).isSome = true) ∨ t.label.type = .fetch

instance (ts : List Expression) : Decidable (PlainLimit ts) :=
  inferInstanceAs (Decidable (∀ t ∈ ts, _ → _))

def unlimited (ts : List Expression) : List Expression := ts.filter fun t ↦ t.label.key ≠ .limit

section Unlimited

variable {ts : List Expression} (h : PlainLimit ts)

theorem terms_unlimited (us : List Expression) (ctes : Ctes V) :
    (Interpretation.meanings ((unlimited us).map (denote ops schema database)) ctes).map (·.term) =
      Term.unbounded ((Interpretation.meanings (us.map (denote ops schema database)) ctes).map
        (·.term)) := by
  rw [Term.unbounded, Interpretation.meanings, Interpretation.meanings, List.map_map, List.map_map,
    List.map_map, List.map_map, List.filter_map, unlimited]
  refine congrArg (List.map _) (List.filter_congr fun t _ ↦ ?_)
  simp only [Function.comp_apply, term_node, Node.folded_key]

include h

theorem inside_unlimited (ctes : Ctes V) (env : Local V) :
    Interpretation.inside ((unlimited ts).map (denote ops schema database)) ctes env =
      Interpretation.inside (ts.map (denote ops schema database)) ctes env := by
  rw [Interpretation.inside, Interpretation.inside, filter_denote (fun l ↦ l.type.isWith),
    filter_denote (fun l ↦ l.type.isWith), unlimited, List.filter_filter]
  refine congrArg (fun us ↦ Interpretation.bound (us.map (denote ops schema database)) ctes env)
    (List.filter_congr fun t ht ↦ ?_)
  by_cases hk : t.label.key = .limit
  · rcases h t ht hk with ⟨htype, -⟩ | htype <;> simp [htype, NodeType.isWith]
  · simp [hk]

omit h in
theorem clauses_unlimited (ts : List Expression) :
    Interpretation.clauses ((unlimited ts).map (denote ops schema database)) =
      (unlimited (ts.filter fun t ↦
        decide (t.label.key ≠ .where_ ∧ t.label.type.isWith = false))).map
          (denote ops schema database) := by
  rw [clauses_denote, unlimited, unlimited, List.filter_filter, List.filter_filter]
  refine congrArg (List.map _) (List.filter_congr fun t _ ↦ ?_)
  rw [Bool.and_comm]

theorem extendAll_unlimited (ctes : Ctes V) (env : Local V) (relation : Relation V) :
    extendAll (Interpretation.meanings ((unlimited ts).map (denote ops schema database)) ctes) env
        relation =
      extendAll (Interpretation.meanings (ts.map (denote ops schema database)) ctes) env
        relation := by
  induction ts generalizing relation with
  | nil => rfl
  | cons t ts ih =>
    have hts : PlainLimit ts := fun u hu ↦ h u (.tail _ hu)
    by_cases hk : t.label.key = .limit
    · have hextend : ((denote ops schema database t).meaning ctes).extend env relation =
          relation := by
        obtain ⟨l, us⟩ := t
        rw [denote_node]
        change extendOf ops _ env l relation = relation
        have htype := h _ List.mem_cons_self hk
        rw [RoseTree.label_node] at htype
        rcases htype with ⟨htype, -⟩ | htype <;> rw [extendOf, htype]
      rw [unlimited, List.filter_cons_of_neg (by simpa using hk)]
      refine (ih hts relation).trans ?_
      rw [List.map_cons, Interpretation.meanings, Interpretation.meanings, List.map_cons, extendAll,
        extendAll, List.foldl_cons, hextend]
    · rw [unlimited, List.filter_cons_of_pos (by simpa using hk)]
      exact ih hts _

omit h in
theorem passes_unlimited (ctes : Ctes V) (env : Local V) (frame : Frame V) :
    Interpretation.passes ops ((unlimited ts).map (denote ops schema database)) ctes env frame =
      Interpretation.passes ops (ts.map (denote ops schema database)) ctes env frame := by
  have hfind : ((unlimited ts).map (denote ops schema database)).find?
      (fun d ↦ d.node.key = .where_) =
      (ts.map (denote ops schema database)).find? fun d ↦ d.node.key = .where_ := by
    rw [← List.head?_filter, ← List.head?_filter, filter_denote fun l ↦ decide (l.key = .where_),
      filter_denote fun l ↦ decide (l.key = .where_), unlimited, List.filter_filter]
    refine congrArg (fun us ↦ (List.map (denote ops schema database) us).head?)
      (List.filter_congr fun t _ ↦ ?_)
    by_cases hk : t.label.key = .where_ <;> simp [hk]
  rw [Interpretation.passes, Interpretation.passes, hfind]

theorem resultOf_unlimited {l : Node} (hq : isQuery l.type = true) (ctes : Ctes V)
    (env : Local V) :
    Interpretation.resultOf ops l (ts.map (denote ops schema database)) ctes env =
      (Interpretation.resultOf ops l ((unlimited ts).map (denote ops schema database)) ctes
        env).bounded (boundOf ops (Interpretation.terms
          (Interpretation.clauses (ts.map (denote ops schema database)))
          (Interpretation.inside (ts.map (denote ops schema database)) ctes env)) env) := by
  have hpasses (inner : Ctes V) :
      Interpretation.passes ops ((unlimited ts).map (denote ops schema database)) inner env =
        Interpretation.passes ops (ts.map (denote ops schema database)) inner env :=
    funext fun frame ↦ passes_unlimited inner env frame
  rw [Interpretation.resultOf, Interpretation.resultOf, inside_unlimited h, clauses_unlimited,
    hpasses, clauses_denote]
  have hclauses : PlainLimit (ts.filter fun t ↦
      decide (t.label.key ≠ .where_ ∧ t.label.type.isWith = false)) :=
    fun t ht ↦ h t (List.mem_filter.mp ht).1
  generalize Interpretation.inside (ts.map (denote ops schema database)) ctes env = inner
  generalize ts.filter (fun t ↦
    decide (t.label.key ≠ .where_ ∧ t.label.type.isWith = false)) = us at hclauses ⊢
  rw [terms_unlimited, Interpretation.terms]
  split
  · rw [Interpretation.selectResult, Interpretation.selectResult, extendAll_unlimited hclauses,
      terms_unlimited, ← selected_unbounded]
  · rw [Interpretation.operandResult, Interpretation.operandResult, Interpretation.operandResult,
      Interpretation.operandResult, Term.arg_unbounded _ (by decide),
      Term.arg_unbounded _ (by decide), ← arranged_unbounded]
  · rw [Interpretation.operandResult, Interpretation.operandResult, Term.arg_unbounded _ (by decide),
      ← arranged_unbounded]
  · rename_i hselect hset hsubquery
    rw [isQuery] at hq
    · cases hq
    · exact hselect
    · exact hset
    · exact hsubquery

end Unlimited

/-- A bound that is a number lets through that many rows. -/
structure Operations.CountsLiterals (ops : Operations V) : Prop where
  literal : ∀ text n operands, intOfText text = some n →
    ops.count (ops.apply (.literal text false) operands) = some n

def rowBound (ops : Operations V) (schema : DatabaseSchema) (database : Database V)
    (e : Expression) : Option Nat :=
  (e.arg .limit).bind fun t ↦ ops.count (((denote ops schema database t).meaning
    (Interpretation.inside (e.children.map (denote ops schema database)) [] {})).term.value {})

section Statement

variable {e : Expression}

theorem arg_limit_terms {ts : List Expression} (h : PlainLimit ts) (ctes : Ctes V) :
    Term.arg .limit (Interpretation.terms
        (Interpretation.clauses (ts.map (denote ops schema database))) ctes) =
      (ts.find? fun t ↦ t.label.key = .limit).map fun t ↦
        ((denote ops schema database t).meaning ctes).term := by
  rw [clauses_denote, Interpretation.terms, Interpretation.meanings, Term.arg, List.map_map,
    List.map_map, List.find?_map, List.find?_filter]
  refine congrArg (Option.map _) ?_
  rw [← List.head?_filter, ← List.head?_filter]
  refine congrArg List.head? (List.filter_congr fun t ht ↦ ?_)
  simp only [Function.comp_apply, term_node, Node.folded_key]
  by_cases hk : t.label.key = .limit
  · rcases h t ht hk with ⟨htype, -⟩ | htype <;> simp [hk, htype, NodeType.isWith]
  · simp [hk]

theorem evaluate_withoutLimit (hq : isQuery e.label.type = true) (h : PlainLimit e.children) :
    evaluate ops schema database e =
      (evaluate ops schema database (withoutLimit e)).bounded
        (rowBound ops schema database e) := by
  obtain ⟨l, ts⟩ := e
  have hplain : PlainLimit ts := h
  have hquery : isQuery l.type = true := hq
  have hresult (ts : List Expression) : evaluate ops schema database (.node l ts) =
      Interpretation.resultOf ops l (ts.map (denote ops schema database)) [] {} := by
    rw [evaluate, denote_node]
    rfl
  rw [hresult, resultOf_unlimited hplain hquery, withoutLimit]
  refine Eq.trans ?_ (congrArg _ (hresult _)).symm
  rw [boundOf, arg_limit_terms hplain, Option.bind_map]
  rfl

theorem value_limit {t x : Expression} (ht : t.label.type = .limit)
    (hx : t.arg .expression = some x) (ctes : Ctes V) (env : Local V) :
    ((denote ops schema database t).meaning ctes).term.value env =
      ((denote ops schema database x).meaning ctes).term.value env := by
  obtain ⟨l, us⟩ := t
  rw [RoseTree.label_node] at ht
  have harg : Term.arg .expression (Interpretation.terms (us.map (denote ops schema database)) ctes) =
      some ((denote ops schema database x).meaning ctes).term := by
    rw [Interpretation.terms, Interpretation.meanings, Term.arg, List.map_map, List.map_map,
      List.find?_map]
    have hfind : us.find? (fun t ↦ t.label.key = .expression) = some x := hx
    simp only [Function.comp_def, term_node, Node.folded_key]
    rw [hfind]
    rfl
  have hfolded : l.folded schema.dialect = l := Node.folded_eq _ (by rw [ht]; rfl)
  rw [denote_node]
  change (if isQuery (l.folded schema.dialect).type then _ else _) = _
  rw [hfolded, ht, if_neg (by decide), Term.valueOf, ht]
  dsimp only
  rw [harg]
  rfl

theorem value_literal {x : Expression} {n : Nat} (hops : ops.CountsLiterals)
    (hx : literalInt x = some n) (ctes : Ctes V) (env : Local V) :
    ops.count (((denote ops schema database x).meaning ctes).term.value env) = some n := by
  obtain ⟨l, us⟩ := x
  rw [literalInt, RoseTree.label_node] at hx
  split at hx
  · rename_i text htype
    have hfolded : l.folded schema.dialect = l := Node.folded_eq _ (by rw [htype]; rfl)
    rw [denote_node]
    change ops.count (if isQuery (l.folded schema.dialect).type then _ else _) = _
    have hno : ¬isQuery (.literal text false) = true := Bool.false_ne_true
    rw [hfolded, htype, if_neg hno, Term.valueOf, htype]
    exact hops.literal text n _ hx
  · cases hx

theorem rowBound_literal {t x : Expression} {n : Nat} (hops : ops.CountsLiterals)
    (ht : e.arg .limit = some t) (htype : t.label.type = .limit)
    (hx : t.arg .expression = some x) (hn : literalInt x = some n) :
    rowBound ops schema database e = some n := by
  rw [rowBound, ht, Option.bind_some, value_limit htype hx]
  exact value_literal hops hn _ _

theorem plainLimit_setLimit (h : PlainLimit e.children) (n : Nat) :
    PlainLimit (setLimit e n).children := by
  intro t ht hk
  rw [setLimit, Expression.setArg] at ht
  rcases RoseTree.mem_children_setChild ht with rfl | ht
  · exact .inl ⟨rfl, rfl⟩
  · exact h t ht hk

/-- A limit that is set cuts the rows of the statement without its own. -/
theorem evaluate_setLimit (hops : ops.CountsLiterals) (hq : isQuery e.label.type = true)
    (h : PlainLimit e.children) (n : Nat) :
    evaluate ops schema database (setLimit e n) =
      (evaluate ops schema database (withoutLimit e)).bounded (some n) := by
  have hlabel : isQuery (setLimit e n).label.type = true := hq
  rw [evaluate_withoutLimit hlabel (plainLimit_setLimit h n), withoutLimit_setLimit,
    rowBound_literal hops (arg_setLimit n) rfl rfl]
  simpa [literalInt] using intOfText_toString n

end Statement

end TextToSql.Semantics
