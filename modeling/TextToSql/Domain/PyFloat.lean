import Mathlib.Data.Int.Log
import Mathlib.Data.Rat.Floor
import Mathlib.Tactic.Common

namespace TextToSql.Domain

inductive PyFloat where
  | nan | negInf | posInf
  | finite (q : ℚ)
  deriving DecidableEq

/-- How the runtime rounds and prints floats. -/
structure Floats where
  round : ℚ → PyFloat
  str : PyFloat → String

namespace PyFloat

def le : PyFloat → PyFloat → Bool
  | .nan, _ => false
  | _, .nan => false
  | .negInf, _ => true
  | _, .posInf => true
  | .finite a, .finite b => a ≤ b
  | _, _ => false

def lt (x y : PyFloat) : Bool := x.le y && !y.le x

def add (fl : Floats) : PyFloat → PyFloat → PyFloat
  | .nan, _ => .nan
  | _, .nan => .nan
  | .negInf, .posInf => .nan
  | .posInf, .negInf => .nan
  | .finite a, .finite b => fl.round (a + b)
  | .finite _, y => y
  | x, _ => x

theorem le_trans {x y z : PyFloat} (h : x.le y = true) (h' : y.le z = true) : x.le z = true := by
  cases x <;> cases y <;> cases z <;> simp_all [le]
  exact Rat.le_trans h h'

end PyFloat

def roundHalfEven (q : ℚ) : ℤ :=
  if q - ⌊q⌋ < 1 / 2 ∨ q - ⌊q⌋ = 1 / 2 ∧ ⌊q⌋ % 2 = 0 then ⌊q⌋ else ⌊q⌋ + 1

/-- The float nearest to a number, ties to even. -/
def binary64 (q : ℚ) : PyFloat :=
  let ulp : ℚ := 2 ^ max (Int.log 2 |q| - 52) (-1074)
  let rounded := roundHalfEven (q / ulp) * ulp
  if 2 ^ 1024 ≤ rounded then .posInf
  else if rounded ≤ -2 ^ 1024 then .negInf
  else .finite rounded

end TextToSql.Domain
