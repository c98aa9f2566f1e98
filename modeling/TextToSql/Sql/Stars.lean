import TextToSql.Infrastructure.ReferenceSchema
import TextToSql.Sql.Validator

namespace TextToSql.Sql

open Library Domain Infrastructure

namespace Expression

def isStar (e : Expression) : Bool := e.label.type = .star

def isQualifiedStar (e : Expression) : Bool :=
  (columnName e.label.type).isSome && e.children.any isStar

end Expression

/-- No query of the statement selects all columns of a source, no function is given them, and the
stars that are left are arguments of functions. -/
structure StarsAreArguments (e : Expression) : Prop where
  projections : ∀ n ∈ e.walk, n.label.type.isSelect = true → ∀ p ∈ n.args .expressions,
    p.isStar = false ∧ p.isQualifiedStar = false
  arguments : ∀ n ∈ e.walk, n.label.type.isFunc = true → ∀ a : Expression,
    a ∈ n.children → a.isQualifiedStar = false
  direct : ∀ (up : List Expression) (n : Expression), (up, n) ∈ RoseTree.walkUp e →
    n.isStar = true → ∃ f, up.head? = some f ∧ f.label.type.isFunc = true

/-- The parts of the statement below a function have no star, except in the place of an argument:
no subquery there selects `*` or `t.*`, and no function gets `t.*`. -/
def PlainBelowFunctions (e : Expression) : Prop :=
  ∀ f ∈ e.walk, f.label.type.isFunc = true → ∀ n ∈ f.walk, n.label.type.isFunc = false →
    n.children.any Expression.isStar = false

instance (e : Expression) : Decidable (PlainBelowFunctions e) :=
  inferInstanceAs (Decidable (∀ f ∈ e.walk, _ → ∀ n ∈ f.walk, _ → _))

variable {e : Expression}

theorem isFunc_of_isSelect {t : NodeType} (h : t.isSelect = true) : t.isFunc = false := by
  cases t <;> first | rfl | cases h

theorem isFunc_of_columnName {t : NodeType} (h : (columnName t).isSome = true) :
    t.isFunc = false := by
  cases t <;> first | rfl | cases h

theorem any_isStar {ts : List Expression} {c : Expression} (hc : c ∈ ts) (h : c.isStar = true) :
    ts.any Expression.isStar = true := List.any_eq_true.mpr ⟨c, hc, h⟩

theorem starsAreArguments_of_direct
    (h : ∀ n ∈ e.walk, n.label.type.isFunc = false → n.children.any Expression.isStar = false)
    (hroot : e.isStar = false) : StarsAreArguments e where
  projections := by
    intro n hn hselect p hp
    have hpc : p ∈ n.children := (List.mem_filter.mp hp).1
    have hchildren := h n hn (isFunc_of_isSelect hselect)
    rw [List.any_eq_false] at hchildren
    refine ⟨by simpa using hchildren p hpc, ?_⟩
    by_contra hq
    rw [Bool.not_eq_false, Expression.isQualifiedStar, Bool.and_eq_true] at hq
    have hbelow := h p (RoseTree.mem_walk_child hn hpc) (isFunc_of_columnName hq.1)
    rw [hq.2] at hbelow
    cases hbelow
  arguments := by
    intro n hn _ a ha
    by_contra hq
    rw [Bool.not_eq_false, Expression.isQualifiedStar, Bool.and_eq_true] at hq
    have hbelow := h a (RoseTree.mem_walk_child hn ha) (isFunc_of_columnName hq.1)
    rw [hq.2] at hbelow
    cases hbelow
  direct := by
    intro up n hvisit hstar
    cases up with
    | nil =>
      rcases RoseTree.parent_of_mem_levels e hvisit with heq | ⟨_, _, hup, _, _⟩
      · cases heq
        rw [hstar] at hroot
        cases hroot
      · cases hup
    | cons p up =>
      obtain ⟨hc, hp⟩ := RoseTree.parent_of_mem_walkUp hvisit
      refine ⟨p, rfl, ?_⟩
      by_contra hf
      have hnone := h p (RoseTree.mem_walk.mpr ⟨up, hp⟩) (by simpa using hf)
      rw [any_isStar hc hstar] at hnone
      cases hnone

def showsStar (e : Expression) : Bool :=
  RoseTree.fold (fun l shown ↦ l.type = .star || (!l.type.isFunc && shown.any id)) e

theorem showsStar_node (l : Node) (ts : List Expression) :
    showsStar (.node l ts) = true ↔
      l.type = .star ∨ l.type.isFunc = false ∧ ∃ t ∈ ts, showsStar t = true := by
  rw [showsStar, RoseTree.fold_node]
  simp [showsStar]

theorem isBareStar_levels (t : Expression) (up : List Expression) :
    (∃ visit ∈ (RoseTree.levels up t).flatten, isBareStar visit = true) ↔
      (∀ a ∈ up, a.label.type.isFunc = false) ∧ showsStar t = true := by
  induction t using RoseTree.inductionOn generalizing up with
  | node l ts ih =>
    have hroot : isBareStar (up, .node l ts) = true ↔
        (∀ a ∈ up, a.label.type.isFunc = false) ∧ l.type = .star := by
      rw [isBareStar, Bool.and_eq_true, and_comm, decide_eq_true_eq]
      simp
    have hbelow : (∃ t ∈ ts, ∃ visit ∈ (RoseTree.levels (.node l ts :: up) t).flatten,
        isBareStar visit = true) ↔ (∀ a ∈ up, a.label.type.isFunc = false) ∧
          l.type.isFunc = false ∧ ∃ t ∈ ts, showsStar t = true := by
      constructor
      · rintro ⟨t, ht, hvisit⟩
        obtain ⟨hup, hstar⟩ := (ih t ht _).mp hvisit
        obtain ⟨hl, hup⟩ := List.forall_mem_cons.mp hup
        exact ⟨hup, hl, t, ht, hstar⟩
      · rintro ⟨hup, hl, t, ht, hstar⟩
        exact ⟨t, ht, (ih t ht _).mpr ⟨List.forall_mem_cons.mpr ⟨hl, hup⟩, hstar⟩⟩
    rw [showsStar_node, and_or_left, ← hroot, ← hbelow]
    constructor
    · rintro ⟨visit, hv, hbare⟩
      rcases (RoseTree.mem_levels_node l ts).mp hv with rfl | ⟨t, ht, hv⟩
      · exact .inl hbare
      · exact .inr ⟨t, ht, visit, hv, hbare⟩
    · rintro (hbare | ⟨t, ht, visit, hv, hbare⟩)
      · exact ⟨_, (RoseTree.mem_levels_node l ts).mpr (.inl rfl), hbare⟩
      · exact ⟨visit, (RoseTree.mem_levels_node l ts).mpr (.inr ⟨t, ht, hv⟩), hbare⟩

/-- The star check looks for a star that is not below a function. -/
theorem starIssues_eq_nil : starIssues e = [] ↔ showsStar e = false := by
  have hany : (RoseTree.walkUp e).any isBareStar = true ↔ showsStar e = true := by
    rw [List.any_eq_true, RoseTree.walkUp, isBareStar_levels]
    simp
  rw [starIssues, ← Bool.not_eq_true, ← hany]
  split <;> simp_all

namespace SQLValidator

variable {py : Python} {validator : SQLValidator} {schema : DatabaseSchema}
  {outcome : ValidationOutcome}

theorem Accepts.star (h : validator.Accepts py schema e) {up : List Expression} {n : Expression}
    (hn : (up, n) ∈ RoseTree.walkUp e) (hstar : n.isStar = true) :
    ∃ f ∈ up, f.label.type.isFunc = true := by
  have hs := h.parts.2.2.2.1
  rw [starIssues] at hs
  split at hs
  · cases hs
  · rename_i hany
    have hbare : isBareStar (up, n) = false := by
      simpa using (List.any_eq_false.mp (Bool.eq_false_iff.mpr hany)) (up, n) hn
    rw [isBareStar] at hbare
    rw [Expression.isStar] at hstar
    simpa [hstar] using hbare

/-- The stars of an accepted statement are arguments exactly when the statement uses none below
its functions in another way. -/
theorem starsAreArguments_iff
    (h : (validator.validateExpression py schema e outcome).isValid = true) :
    StarsAreArguments e ↔ PlainBelowFunctions e := by
  have ha := (validateExpression_isValid.mp h).2
  constructor
  · intro hs f hf _ n hn hfunc
    by_contra hany
    obtain ⟨c, hc, hstar⟩ := List.any_eq_true.mp (Bool.not_eq_false _ ▸ hany)
    obtain ⟨up, hvisit⟩ := RoseTree.mem_walk.mp (RoseTree.mem_walk_trans hn hf)
    obtain ⟨p, hp, hpf⟩ := hs.direct _ c (RoseTree.mem_walkUp_child hvisit hc) hstar
    obtain rfl := Option.some.inj hp
    rw [hfunc] at hpf
    cases hpf
  · intro hplain
    refine starsAreArguments_of_direct (fun n hn hfunc ↦ ?_) ?_
    · by_contra hany
      obtain ⟨c, hc, hstar⟩ := List.any_eq_true.mp (Bool.not_eq_false _ ▸ hany)
      obtain ⟨up, hvisit⟩ := RoseTree.mem_walk.mp hn
      obtain ⟨f, hf, hff⟩ := ha.star (RoseTree.mem_walkUp_child hvisit hc) hstar
      rcases List.mem_cons.mp hf with rfl | hf
      · rw [hfunc] at hff
        cases hff
      · have hfe : f ∈ e.walk := RoseTree.ancestor_mem_walk hvisit hf
        exact hany (hplain f hfe hff n (RoseTree.mem_walk_ancestor hvisit hf) hfunc)
    · by_contra hstar
      obtain ⟨f, hf, -⟩ := ha.star (RoseTree.self_mem_walkUp e) (by simpa using hstar)
      cases hf

def countOrders : Expression :=
  .mk .this (.select false)
    [.mk .expressions (.alias_ "n") [.mk .this (.func "COUNT" true) [.mk .this .star []]],
      .mk .from_ .from_ [.mk .this (.table { name := "orders" }) []]]

theorem starsAreArguments_countOrders :
    StarsAreArguments countOrders ↔ PlainBelowFunctions countOrders :=
  @starsAreArguments_iff countOrders .ascii {} referenceSchema (newOutcome .ascii [countOrders])
    (by decide +kernel)

def usersAsJson : Expression :=
  .mk .this (.select false)
    [.mk .expressions (.alias_ "j")
        [.mk .this (.anonymous "row_to_json")
          [.mk .expressions (.column "u" "*") [.mk .this .star []]]],
      .mk .from_ .from_ [.mk .this (.table { name := "users", alias_ := "u" }) []]]

def existsAnyUser : Expression :=
  selectFrom "id" "orders"
    [.mk .where_ .where_
      [.mk .this .exists_
        [.mk .this (.select false)
          [.mk .expressions .star [],
            .mk .from_ .from_ [.mk .this (.table { name := "users" }) []]]]]]

theorem accepted_stars :
    ((({} : SQLValidator).validateExpression .ascii referenceSchema usersAsJson
        (newOutcome .ascii [usersAsJson])).isValid = true ∧ ¬StarsAreArguments usersAsJson) ∧
      (({} : SQLValidator).validateExpression .ascii referenceSchema existsAnyUser
        (newOutcome .ascii [existsAnyUser])).isValid = true ∧
        ¬StarsAreArguments existsAnyUser := by
  refine ⟨⟨by decide +kernel, fun h ↦ ?_⟩, by decide +kernel, fun h ↦ ?_⟩
  · have harg := h.arguments (.mk .this (.anonymous "row_to_json")
      [.mk .expressions (.column "u" "*") [.mk .this .star []]]) (by
        simp [usersAsJson, Expression.walk, Expression.mk, RoseTree.mem_walk_node]) rfl _
        (List.mem_singleton_self _)
    cases harg
  · have hproj := (h.projections (.mk .this (.select false)
      [.mk .expressions .star [], .mk .from_ .from_ [.mk .this (.table { name := "users" }) []]])
        (by simp [existsAnyUser, selectFrom, Expression.walk, Expression.mk,
          RoseTree.mem_walk_node]) rfl (.mk .expressions .star [])
        (by simp [Expression.args, Expression.mk])).1
    cases hproj

end SQLValidator

end TextToSql.Sql
