import TextToSql.Semantics.IntegerEngine

namespace TextToSql.Semantics

open Library Domain Sql Application Infrastructure

variable {V : Type} (ops : Operations V) (schema : DatabaseSchema) (database : Database V)
  (e : Expression) (maxRows : Nat)

/-- The limited statement yields the first rows of the statement, at most the effective limit. -/
structure Truncates : Prop where
  rows : (evaluate ops schema database (enforceLimit e maxRows).expression).rows =
    (evaluate ops schema database e).rows.take maxRows
  effective : (evaluate ops schema database (enforceLimit e maxRows).expression).rows.length ≤
    (enforceLimit e maxRows).effectiveLimit
  bounded : (enforceLimit e maxRows).effectiveLimit ≤ maxRows

def LiteralBound (e : Expression) : Prop :=
  ∀ t ∈ e.arg .limit, t.label.type = .limit ∧ ∃ x ∈ t.arg .expression, (literalInt x).isSome = true

/-- Another bound lets through all rows that the limit in its place does. -/
def WideBound : Prop :=
  if maxRows < 10 ^ 12 then
    ∀ n ∈ rowBound ops schema database e,
      min maxRows (evaluate ops schema database (withoutLimit e)).rows.length ≤ n
  else (evaluate ops schema database e).rows.length ≤ 10 ^ 12

variable {ops schema database e maxRows}

theorem enforceLimit_none (hq : isQuery e.label.type = true) (h : limitValue (e.arg .limit) = none) :
    enforceLimit e maxRows = ⟨setLimit e maxRows, true, false, maxRows⟩ := by
  rw [enforceLimit, if_pos hq, h]

theorem enforceLimit_capped {n : Nat} (hq : isQuery e.label.type = true)
    (h : limitValue (e.arg .limit) = some n) (hn : maxRows < n) :
    enforceLimit e maxRows = ⟨setLimit e maxRows, false, true, maxRows⟩ := by
  rw [enforceLimit, if_pos hq, h]
  exact if_pos hn

theorem enforceLimit_kept {n : Nat} (hq : isQuery e.label.type = true)
    (h : limitValue (e.arg .limit) = some n) (hn : n ≤ maxRows) :
    enforceLimit e maxRows = ⟨e, false, false, n⟩ := by
  rw [enforceLimit, if_pos hq, h]
  exact if_neg (by omega)

theorem limitValue_literal {t x : Expression} {n : Nat} (ht : t.label.type = .limit)
    (hx : t.arg .expression = some x) (hn : literalInt x = some n) :
    limitValue (some t) = some n := by
  rw [limitValue, Option.bind_some, limitInner, if_pos ht, hx]
  simp [hn]

theorem limitValue_other {t : Expression}
    (h : (t.label.type = .limit ∧ (t.arg .expression).isSome = true) ∨ t.label.type = .fetch)
    (hno : ¬(t.label.type = .limit ∧ ∃ x ∈ t.arg .expression, (literalInt x).isSome = true)) :
    limitValue (some t) = some (10 ^ 12) := by
  rw [limitValue, Option.bind_some, limitInner]
  rcases h with ⟨ht, hx⟩ | ht
  · obtain ⟨x, hx⟩ := Option.isSome_iff_exists.mp hx
    have hnone : literalInt x = none := by
      by_contra hsome
      exact hno ⟨ht, x, hx, Option.isSome_iff_ne_none.mpr hsome⟩
    rw [if_pos ht, hx]
    simp [hnone]
  · have hnone : literalInt t = none := by rw [literalInt, ht]
    rw [if_neg (by rw [ht]; decide)]
    simp [hnone]

theorem take_takeRows {α : Type} (bound : Option Nat) (n : Nat) (rows : List α) :
    (takeRows bound rows).take n = rows.take n ↔ ∀ m ∈ bound, min n rows.length ≤ m := by
  cases bound with
  | none => simp [takeRows]
  | some m =>
    have htake : (takeRows (some m) rows).take n = rows.take (min n m) := List.take_take
    rw [htake, List.take_eq_take_iff]
    simp only [Option.mem_some_iff, forall_eq']
    omega

theorem truncates_of_set {applied capped : Bool} (hops : ops.CountsLiterals)
    (hq : isQuery e.label.type = true) (hl : PlainLimit e.children)
    (h : enforceLimit e maxRows = ⟨setLimit e maxRows, applied, capped, maxRows⟩) :
    Truncates ops schema database e maxRows ↔
      ∀ n ∈ rowBound ops schema database e,
        min maxRows (evaluate ops schema database (withoutLimit e)).rows.length ≤ n := by
  have hset : (evaluate ops schema database (setLimit e maxRows)).rows =
      (evaluate ops schema database (withoutLimit e)).rows.take maxRows := by
    rw [evaluate_setLimit hops hq hl]
    rfl
  have hown : (evaluate ops schema database e).rows =
      takeRows (rowBound ops schema database e)
        (evaluate ops schema database (withoutLimit e)).rows := by
    rw [evaluate_withoutLimit hq hl]
    rfl
  rw [← take_takeRows, ← hown]
  constructor
  · intro ht
    rw [← ht.rows, h, hset]
  · intro hrows
    refine ⟨?_, ?_, ?_⟩
    · rw [h, hrows, hset]
    · rw [h, hset]
      exact List.length_take_le _ _
    · rw [h]

theorem truncates_of_kept {n : Nat} (h : enforceLimit e maxRows = ⟨e, false, false, n⟩)
    (hn : n ≤ maxRows) :
    Truncates ops schema database e maxRows ↔
      (evaluate ops schema database e).rows.length ≤ n := by
  constructor
  · intro ht
    have heffective := ht.effective
    rwa [h] at heffective
  · intro hlength
    refine ⟨?_, ?_, ?_⟩
    · rw [h, List.take_of_length_le (by omega)]
    · rwa [h]
    · rw [h]
      exact hn

/-- `enforce_limit` truncates a query exactly when its bound is an integer literal, or lets
through no fewer rows than the limit that takes its place. -/
theorem truncates_iff (hops : ops.CountsLiterals) (hq : isQuery e.label.type = true)
    (hl : PlainLimit e.children) :
    Truncates ops schema database e maxRows ↔
      LiteralBound e ∨ WideBound ops schema database e maxRows := by
  cases hlimit : e.arg .limit with
  | none =>
    have hnone : limitValue (e.arg .limit) = none := by
      rw [hlimit]
      rfl
    refine iff_of_true ((truncates_of_set hops hq hl (enforceLimit_none hq hnone)).mpr ?_)
      (.inl ?_)
    · rw [rowBound, hlimit]
      simp
    · rw [LiteralBound, hlimit]
      simp
  | some t =>
    by_cases hliteral : t.label.type = .limit ∧
        ∃ x ∈ t.arg .expression, (literalInt x).isSome = true
    · obtain ⟨ht, x, hx, hsome⟩ := hliteral
      obtain ⟨n, hn⟩ := Option.isSome_iff_exists.mp hsome
      have hvalue : limitValue (e.arg .limit) = some n := hlimit ▸ limitValue_literal ht hx hn
      have hbound : rowBound ops schema database e = some n :=
        rowBound_literal hops hlimit ht hx hn
      refine iff_of_true ?_ (.inl fun u hu ↦ ?_)
      · by_cases hmax : n ≤ maxRows
        · rw [truncates_of_kept (enforceLimit_kept hq hvalue hmax) hmax,
            evaluate_withoutLimit hq hl, hbound]
          exact List.length_take_le _ _
        · rw [truncates_of_set hops hq hl (enforceLimit_capped hq hvalue (by omega)), hbound]
          simp only [Option.mem_some_iff, forall_eq']
          omega
      · obtain rfl := Option.some.inj (hlimit.symm.trans hu)
        exact ⟨ht, x, hx, hsome⟩
    · have hmem : t ∈ e.children := List.mem_of_find?_eq_some hlimit
      have hkey : t.label.key = .limit := of_decide_eq_true (List.find?_some hlimit :)
      have hvalue : limitValue (e.arg .limit) = some (10 ^ 12) :=
        hlimit ▸ limitValue_other (hl t hmem hkey) hliteral
      have hno : ¬LiteralBound e := fun h ↦ hliteral (h t hlimit)
      rw [or_iff_right hno, WideBound]
      split
      · rename_i hmax
        exact truncates_of_set hops hq hl (enforceLimit_capped hq hvalue hmax)
      · rename_i hmax
        exact truncates_of_kept (enforceLimit_kept hq hvalue (by omega)) (by omega)

def regionRows (rows : List (List (Option Int))) : Database (Option Int) where
  rows table := if table.name = "regions" then rows else []
  other _ := {}

def fourRegions : Database (Option Int) :=
  regionRows [[some 1, some 10, some 20], [some 2, some 11, some 21], [some 3, some 12, some 22],
    [some 4, some 13, some 23]]

def sortedRegions (bound : List Expression) : Expression :=
  selectFrom "id" "regions"
    (.mk .order .order [.mk .expressions (.ordered false) [.mk .this (.column "" "id") []]] ::
      bound)

theorem truncates_limit_two :
    Truncates integerEngine referenceSchema fourRegions (sortedRegions [limitNode 2]) 3 ↔
      LiteralBound (sortedRegions [limitNode 2]) ∨
        WideBound integerEngine referenceSchema fourRegions (sortedRegions [limitNode 2]) 3 :=
  truncates_iff integerEngine_countsLiterals rfl (by decide)

def limitSum : Expression :=
  .mk .limit .limit
    [.mk .expression (.operator "Add")
      [.mk .this (.literal "1" false) [], .mk .expression (.literal "1" false) []]]

def fetchTwo : Expression :=
  .mk .limit .fetch [.mk (.other "count") (.literal "2" false) []]

/-- Two rows become three. -/
theorem more_rows_than_before :
    (evaluate integerEngine referenceSchema fourRegions (sortedRegions [limitSum])).rows =
        [[some 1], [some 2]] ∧
      ¬Truncates integerEngine referenceSchema fourRegions (sortedRegions [limitSum]) 3 ∧
      ¬Truncates integerEngine referenceSchema fourRegions (sortedRegions [fetchTwo]) 3 := by
  refine ⟨by decide +kernel, fun h ↦ ?_, fun h ↦ ?_⟩
  · have hrows := h.rows
    revert hrows
    decide +kernel
  · have hrows := h.rows
    revert hrows
    decide +kernel

end TextToSql.Semantics
