import TextToSql.Sql.Parser

namespace TextToSql.Sql

open Library

def normalizeSql (glot : Sqlglot) (e : Expression) (dialect : Domain.SQLDialect) : String :=
  glot.sql dialect e

structure LimitOutcome where
  expression : Expression
  applied : Bool
  capped : Bool
  effectiveLimit : Nat

def intOfText (text : String) : Option Nat :=
  if text ≠ "" ∧ text.toList.all Char.isDigit then
    some (text.toList.foldl (fun n c ↦ 10 * n + (c.toNat - 48)) 0)
  else none

theorem digitChar_toNat {d : Nat} (h : d < 10) : d.digitChar.toNat = 48 + d := by
  have hall : ∀ d < 10, (Nat.digitChar d).toNat = 48 + d := by decide
  exact hall d h

theorem foldl_toDigits (n : Nat) :
    (Nat.toDigits 10 n).foldl (fun n c ↦ 10 * n + (c.toNat - 48)) 0 = n := by
  induction n using Nat.strongRecOn with
  | ind n ih =>
    rw [Nat.toDigits_eq_if (by decide)]
    split
    · rename_i hlt
      simp [digitChar_toNat hlt]
    · have hmod : n % 10 < 10 := Nat.mod_lt n (by decide)
      rw [List.foldl_append, ih (n / 10) (by omega), List.foldl_cons, List.foldl_nil,
        digitChar_toNat hmod]
      omega

theorem intOfText_toString (n : Nat) : intOfText (toString n) = some n := by
  have htext : (toString n).toList = Nat.toDigits 10 n := by
    simp [toString, Nat.repr]
  have hne : toString n ≠ "" := by
    rw [Ne, ← String.toList_eq_nil_iff, htext]
    exact Nat.toDigits_ne_nil
  have hdigits : (Nat.toDigits 10 n).all Char.isDigit = true :=
    List.all_eq_true.mpr fun c hc ↦ Nat.isDigit_of_mem_toDigits (by decide) (by decide) hc
  rw [intOfText, htext, if_pos ⟨hne, hdigits⟩, foldl_toDigits]

/-- The node that bounds the rows of a `LIMIT`; a `FETCH` stands for itself. -/
def limitInner (limitNode : Expression) : Option Expression :=
  if limitNode.label.type = .limit then limitNode.arg .expression else some limitNode

def literalInt (e : Expression) : Option Nat :=
  match e.label.type with
  | .literal text false => intOfText text
  | _ => none

def limitValue (limitNode : Option Expression) : Option Nat :=
  match limitNode.bind limitInner with
  | none => none
  | some inner => some ((literalInt inner).getD (10 ^ 12))

def limitNode (n : Nat) : Expression :=
  .node { key := .limit, type := .limit }
    [.node { key := .expression, type := .literal (toString n) false } []]

def setLimit (e : Expression) (maxRows : Nat) : Expression := e.setArg .limit (limitNode maxRows)

def enforceLimit (e : Expression) (maxRows : Nat) : LimitOutcome :=
  if isQuery e.label.type then
    match limitValue (e.arg .limit) with
    | none => ⟨setLimit e maxRows, true, false, maxRows⟩
    | some current =>
      if current > maxRows then ⟨setLimit e maxRows, false, true, maxRows⟩
      else ⟨e, false, false, current⟩
  else ⟨e, false, false, maxRows⟩

end TextToSql.Sql
