import Mathlib

namespace TextToSql.Domain

def asciiLower (s : String) : String := String.ofList (s.toList.map Char.toLower)

/-- What the code takes from its Python runtime: Unicode case conversion, the digit class of
`str.isdigit`, the word characters of `re`, the conversion of a `Decimal` to a float, and the
unspecified order in which a set of strings is enumerated. -/
structure Python where
  lower : String → String
  lower_asciiLower : ∀ s, lower (asciiLower s) = lower s
  lower_eq_empty : ∀ s, lower s = "" ↔ s = ""
  upper : String → String
  isDigit : Char → Bool
  isWord : Char → Bool
  float : ℚ → ℚ
  enumerate : List String → List String
  enumerate_perm : ∀ l, (enumerate l).Perm l.dedup

def isSpace (c : Char) : Bool :=
  c.toNat ∈ [0x20, 0x85, 0xa0, 0x1680, 0x2028, 0x2029, 0x202f, 0x205f, 0x3000] ||
    (0x09 ≤ c.toNat && c.toNat ≤ 0x0d) || (0x1c ≤ c.toNat && c.toNat ≤ 0x1f) ||
    (0x2000 ≤ c.toNat && c.toNat ≤ 0x200a)

def trimBy (p : Char → Bool) (l : List Char) : List Char :=
  ((l.dropWhile p).reverse.dropWhile p).reverse

def strip (s : String) : String := String.ofList (trimBy isSpace s.toList)

def partitionDot (s : String) : String × String :=
  (String.ofList (s.toList.takeWhile (· != '.')),
    String.ofList ((s.toList.dropWhile (· != '.')).drop 1))

def lastPart (s : String) : String :=
  String.ofList (s.toList.reverse.takeWhile (· != '.')).reverse

def startsWith (pre s : String) : Bool := pre.toList.isPrefixOf s.toList

def hasWord (word s : String) : Bool := s.toList.tails.any fun t ↦ word.toList.isPrefixOf t

def sortedSet (l : List String) : List String := l.dedup.insertionSort (· ≤ ·)

@[simp] theorem mem_sortedSet {l : List String} {x : String} : x ∈ sortedSet l ↔ x ∈ l := by
  simp [sortedSet]

theorem sortedSet_congr {l l' : List String} (h : ∀ x, x ∈ l ↔ x ∈ l') :
    sortedSet l = sortedSet l' := by
  have hp : l.dedup.Perm l'.dedup :=
    (List.perm_ext_iff_of_nodup l.nodup_dedup l'.nodup_dedup).mpr (by simpa using h)
  refine List.Perm.eq_of_pairwise (fun a b _ _ hab hba ↦ le_antisymm hab hba)
    (List.pairwise_insertionSort (· ≤ ·) _) (List.pairwise_insertionSort (· ≤ ·) _) ?_
  exact ((List.perm_insertionSort _ _).trans hp).trans (List.perm_insertionSort _ _).symm

theorem Python.mem_enumerate (py : Python) {l : List String} {x : String} :
    x ∈ py.enumerate l ↔ x ∈ l := by
  rw [(py.enumerate_perm l).mem_iff, List.mem_dedup]

/-- `_norm`: the catalog compares identifiers without blanks, quotes and letter case. -/
def Python.norm (py : Python) (identifier : String) : String :=
  py.lower (String.ofList (trimBy (· == '"') (strip identifier).toList))

/-- Equal up to the case of ASCII letters. -/
def SameLetters (s t : String) : Prop := asciiLower s = asciiLower t

instance (s t : String) : Decidable (SameLetters s t) := inferInstanceAs (Decidable (_ = _))

theorem toLower_eq_or (c : Char) : c.toLower = c ∨ c.isAlpha ∧ c.toLower.isAlpha := by
  by_cases h : c.isUpper = true
  · right
    have halpha : c.isAlpha = true := by simp [Char.isAlpha, h]
    exact ⟨halpha, by rw [Char.isAlpha_toLower_eq_isAlpha, halpha]⟩
  · exact .inl (Char.toLower_eq_of_not_isUpper h)

theorem test_toLower {p : Char → Bool} (hp : ∀ c, c.isAlpha → p c = false) (c : Char) :
    p c.toLower = p c := by
  rcases toLower_eq_or c with h | ⟨h, h'⟩
  · rw [h]
  · rw [hp c h, hp _ h']

namespace SameLetters

variable {s t u v : String}

theorem refl (s : String) : SameLetters s s := rfl

theorem symm (h : SameLetters s t) : SameLetters t s := Eq.symm h

theorem trans (h : SameLetters s t) (h' : SameLetters t u) : SameLetters s u := Eq.trans h h'

theorem iff_map :
    SameLetters s t ↔ s.toList.map Char.toLower = t.toList.map Char.toLower := by
  rw [SameLetters, asciiLower, asciiLower, String.ofList_inj]

theorem lower (py : Python) (h : SameLetters s t) : py.lower s = py.lower t := by
  rw [← py.lower_asciiLower s, ← py.lower_asciiLower t, h]

theorem asciiLower_left (s : String) : SameLetters (asciiLower s) s := by
  simp [iff_map, asciiLower]

theorem append (h : SameLetters s t) (h' : SameLetters u v) : SameLetters (s ++ u) (t ++ v) := by
  rw [iff_map] at h h' ⊢
  simp [h, h']

theorem eq_empty_iff (h : SameLetters s t) : s = "" ↔ t = "" := by
  have hl := congrArg List.length (iff_map.mp h)
  simp only [List.length_map] at hl
  rw [← String.toList_eq_nil_iff, ← String.toList_eq_nil_iff, ← List.length_eq_zero_iff, hl,
    List.length_eq_zero_iff]

theorem dropWhile {p : Char → Bool} (hp : ∀ c, p c.toLower = p c) {l l' : List Char}
    (h : l.map Char.toLower = l'.map Char.toLower) :
    (l.dropWhile p).map Char.toLower = (l'.dropWhile p).map Char.toLower := by
  have hc : p ∘ Char.toLower = p := funext hp
  have hd (l : List Char) :
      (l.dropWhile p).map Char.toLower = (l.map Char.toLower).dropWhile p := by
    rw [List.dropWhile_map, hc]
  rw [hd, hd, h]

theorem takeWhile {p : Char → Bool} (hp : ∀ c, p c.toLower = p c) {l l' : List Char}
    (h : l.map Char.toLower = l'.map Char.toLower) :
    (l.takeWhile p).map Char.toLower = (l'.takeWhile p).map Char.toLower := by
  have hc : p ∘ Char.toLower = p := funext hp
  have ht (l : List Char) :
      (l.takeWhile p).map Char.toLower = (l.map Char.toLower).takeWhile p := by
    rw [List.takeWhile_map, hc]
  rw [ht, ht, h]

theorem trimBy {p : Char → Bool} (hp : ∀ c, p c.toLower = p c) {l l' : List Char}
    (h : l.map Char.toLower = l'.map Char.toLower) :
    (Domain.trimBy p l).map Char.toLower = (Domain.trimBy p l').map Char.toLower := by
  have h₁ := congrArg List.reverse (dropWhile hp h)
  simp only [← List.map_reverse] at h₁
  simpa only [Domain.trimBy, List.map_reverse] using congrArg List.reverse (dropWhile hp h₁)

end SameLetters

theorem isSpace_of_isAlpha (c : Char) (h : c.isAlpha) : isSpace c = false := by
  simp [Char.isAlpha, Char.isUpper, Char.isLower, UInt32.le_iff_toNat_le] at h
  simp [isSpace]
  omega

theorem quote_of_isAlpha (c : Char) (h : c.isAlpha) : (c == '"') = false := by
  rw [beq_eq_false_iff_ne]
  rintro rfl
  simp [Char.isAlpha, Char.isUpper, Char.isLower] at h

theorem dot_toLower (c : Char) : (c.toLower != '.') = (c != '.') := by
  have h (d : Char) (hd : d.isAlpha) : (d == '.') = false := by
    rw [beq_eq_false_iff_ne]
    rintro rfl
    simp [Char.isAlpha, Char.isUpper, Char.isLower] at hd
  rw [bne, bne, test_toLower h c]

namespace SameLetters

variable {s t : String}

theorem strip (h : SameLetters s t) : SameLetters (Domain.strip s) (Domain.strip t) := by
  rw [iff_map] at h ⊢
  simpa [Domain.strip] using trimBy (test_toLower isSpace_of_isAlpha) h

theorem norm (py : Python) (h : SameLetters s t) : py.norm s = py.norm t := by
  refine SameLetters.lower py ?_
  have hs := iff_map.mp h.strip
  rw [iff_map]
  simpa using trimBy (test_toLower quote_of_isAlpha) hs

theorem partitionDot (h : SameLetters s t) :
    SameLetters (Domain.partitionDot s).1 (Domain.partitionDot t).1 ∧
      SameLetters (Domain.partitionDot s).2 (Domain.partitionDot t).2 := by
  simp only [iff_map] at h ⊢
  refine ⟨by simpa [Domain.partitionDot] using takeWhile (p := (· != '.')) dot_toLower h, ?_⟩
  have hd := congrArg (List.drop 1) (dropWhile (p := (· != '.')) dot_toLower h)
  simp only [← List.map_drop] at hd
  simpa [Domain.partitionDot] using hd

end SameLetters

/-- A Python whose letters are the ASCII letters and whose sets keep their insertion order. -/
def Python.ascii : Python where
  lower := asciiLower
  lower_asciiLower := SameLetters.asciiLower_left
  lower_eq_empty s := by simp [asciiLower, ← String.toList_eq_nil_iff]
  upper s := String.ofList (s.toList.map Char.toUpper)
  isDigit := Char.isDigit
  isWord c := c.isAlphanum || c == '_'
  float := id
  enumerate := List.dedup
  enumerate_perm _ := List.Perm.refl _

end TextToSql.Domain
