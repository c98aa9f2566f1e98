import TextToSql.Domain.Schema
import TextToSql.Library.OuterJoin

namespace TextToSql.Semantics

open Library Domain

variable {V : Type}

/-- The columns and the rows of a query. -/
structure Result (V : Type) where
  columns : List String := []
  rows : List (List V) := []

/-- One source of a joined row, under its exposed name. -/
structure Segment (V : Type) where
  name : String
  columns : List String
  values : List V

/-- A joined row. A merged column is one that joins with `USING` compare. -/
structure Frame (V : Type) where
  segments : List (Segment V) := []
  merged : List String := []

/-- Joined rows, and the row of nulls that stands for a missing partner. -/
structure Relation (V : Type) where
  blank : Frame V := {}
  rows : List (Frame V) := []

def isNamed (name : String) (other : String) : Bool := decide (other = name)

def positionOf (columns : List String) (name : String) : Option Nat :=
  match columns.zipIdx.filter fun c ↦ isNamed name c.1 with
  | [c] => some c.2
  | _ => none

theorem any_of_positionOf {columns : List String} {name : String} {i : Nat}
    (h : positionOf columns name = some i) : columns.any (isNamed name) = true := by
  rw [positionOf] at h
  split at h
  · rename_i c hone
    have hc := List.mem_filter.mp (hone ▸ List.mem_singleton_self c)
    exact List.any_eq_true.mpr ⟨c.1, List.fst_mem_of_mem_zipIdx hc.1, hc.2⟩
  · cases h

/-- The first columns take the names of an alias column list. -/
def relabel (names columns : List String) : List String :=
  names.take columns.length ++ columns.drop names.length

namespace Segment

def get (null : V) (s : Segment V) (i : Nat) : V := s.values[i]?.getD null

def cells (null : V) (s : Segment V) : List (String × V) :=
  s.columns.zipIdx.map fun c ↦ (c.1, s.get null c.2)

def lookup (null : V) (s : Segment V) (name : String) : V :=
  (positionOf s.columns name).elim null (s.get null)

def shape (s : Segment V) : String × List String := (s.name, s.columns)

/-- A source of the name; SQLite passes over one that does not show the column. -/
def answers (dialect : SQLDialect) (qualifier name : String) (s : Segment V) : Bool :=
  isNamed qualifier s.name && (dialect = .postgres || s.columns.any (isNamed name))

end Segment

namespace Frame

def named (qualifier : String) (f : Frame V) : List (Segment V) :=
  f.segments.filter fun s ↦ isNamed qualifier s.name

def shows (name : String) (f : Frame V) : Bool :=
  f.segments.any fun s ↦ s.columns.any (isNamed name)

def cells (null : V) (f : Frame V) : List (String × V) := f.segments.flatMap (Segment.cells null)

def qualified (null : V) (f : Frame V) (dialect : SQLDialect) (qualifier name : String) : V :=
  match f.segments.filter (Segment.answers dialect qualifier name) with
  | [s] => s.lookup null name
  | _ => null

theorem filter_answers (f : Frame V) (dialect : SQLDialect) (qualifier name : String) :
    f.segments.filter (Segment.answers dialect qualifier name) =
      (f.named qualifier).filter (Segment.answers dialect qualifier name) := by
  rw [named, List.filter_filter]
  refine List.filter_congr fun s _ ↦ ?_
  rw [Segment.answers, Bool.and_right_comm, Bool.and_self]

def row (null : V) (value : List V → V) (f : Frame V) (name : String) : V :=
  match f.named name with
  | [s] => value s.values
  | _ => null

def isMerged (f : Frame V) (name : String) : Bool := f.merged.any (isNamed name)

def values (null : V) (f : Frame V) (name : String) : List V :=
  ((f.cells null).filter fun c ↦ isNamed name c.1).map Prod.snd

def unqualified (null : V) (merge : List V → V) (f : Frame V) (name : String) : V :=
  if f.isMerged name then merge (f.values null name)
  else
    match f.values null name with
    | [v] => v
    | _ => null

def star (null : V) (merge : List V → V) (f : Frame V) : List (String × V) :=
  f.merged.map (fun name ↦ (name, merge (f.values null name))) ++
    (f.cells null).filter fun c ↦ !f.isMerged c.1

def columnNames (f : Frame V) : List String :=
  f.merged ++ (f.segments.flatMap (·.columns)).filter fun c ↦ !f.isMerged c

def append (names : List String) (left right : Frame V) : Frame V where
  segments := left.segments ++ right.segments
  merged :=
    let before := left.merged ++ right.merged
    before ++ names.filter fun name ↦ !before.any (isNamed name)

@[simp] theorem segments_append (names : List String) (left right : Frame V) :
    (left.append names right).segments = left.segments ++ right.segments := rfl

end Frame

namespace Relation

def unit : Relation V where
  rows := [{}]

def single (name : String) (columns : List String) (result : Result V) : Relation V :=
  let columns := relabel columns result.columns
  { blank := { segments := [⟨name, columns, []⟩] }
    rows := result.rows.map fun row ↦ { segments := [⟨name, columns, row⟩] } }

def collapse (null : V) (name : String) (columns : List String) (r : Relation V) : Relation V :=
  let segment (f : Frame V) : Frame V :=
    { segments :=
        [⟨name, relabel columns ((f.cells null).map Prod.fst), (f.cells null).map Prod.snd⟩] }
  { blank := segment r.blank, rows := r.rows.map segment }

def join (keepLeft keepRight : Bool) (names : List String) (on : Frame V → Frame V → Bool)
    (left right : Relation V) : Relation V where
  blank := left.blank.append names right.blank
  rows := (outerJoin keepLeft keepRight on left.blank right.blank left.rows right.rows).map
    fun p ↦ p.1.append names p.2

end Relation

end TextToSql.Semantics
