import TextToSql.Semantics.RowBounds

namespace TextToSql.Semantics

open Library Domain Sql

namespace IntegerEngine

abbrev Cell := Option Int

def scalar (r : Result Cell) : Cell := (r.rows.head?.bind List.head?).join

def cell : Operand Cell → Cell
  | .value v => v
  | .rows r => scalar r

def ofBool (b : Bool) : Cell := some (if b then 1 else 0)

def both (f : Int → Int → Cell) (a b : Operand Cell) : Cell :=
  (cell a).bind fun x ↦ (cell b).bind (f x)

def apply : NodeType → List (Arg × Operand Cell) → Cell
  | .literal text false, _ => (intOfText text).map Int.ofNat
  | .eq, [(_, a), (_, b)] => both (fun x y ↦ ofBool (x = y)) a b
  | .and_, [(_, a), (_, b)] => ofBool (cell a = some 1 && cell b = some 1)
  | .or_, [(_, a), (_, b)] => ofBool (cell a = some 1 || cell b = some 1)
  | .exists_, [(_, .rows r)] => ofBool (r.rows ≠ [])
  | .operator "Add", [(_, a), (_, b)] => both (fun x y ↦ some (x + y)) a b
  | .operator "IsNull", [(_, a)] => ofBool (cell a = none)
  | _, _ => none

def order (keys : List (List (NodeType × Cell))) : List Nat :=
  (keys.zipIdx.insertionSort fun a b ↦
    (a.1.head?.bind Prod.snd).getD 0 ≤ (b.1.head?.bind Prod.snd).getD 0).map Prod.snd

end IntegerEngine

open IntegerEngine

def integerEngine : Operations (Option Int) where
  null := none
  isTrue v := v = some 1
  apply := IntegerEngine.apply
  aggregate _ rows := some rows.length
  scalar := IntegerEngine.scalar
  merge vs := (vs.find? Option.isSome).join
  row _ := none
  same a b := a = b
  order := IntegerEngine.order
  count v := v.map Int.toNat

theorem toValue_integerEngine (a : Operand (Option Int)) : a.toValue integerEngine = cell a := by
  cases a <;> rfl

theorem integerEngine_lawful : integerEngine.Lawful where
  and_ a b := by
    rw [toValue_integerEngine, toValue_integerEngine]
    change decide (ofBool (cell a = some 1 && cell b = some 1) = some 1) =
      (decide (cell a = some 1) && decide (cell b = some 1))
    by_cases ha : cell a = some 1 <;> by_cases hb : cell b = some 1 <;> simp [ofBool, ha, hb]
  eq_null _ := rfl

theorem integerEngine_countsLiterals : integerEngine.CountsLiterals where
  literal text n operands h := by
    change ((intOfText text).map Int.ofNat).map Int.toNat = some n
    rw [h]
    rfl

end TextToSql.Semantics
