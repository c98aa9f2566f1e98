import TextToSql.Domain.PyFloat

namespace TextToSql.Domain

/-- What the `json` module reads and writes. -/
inductive JsonValue where
  | null
  | bool (b : Bool)
  | int (n : ℤ)
  | float (x : PyFloat)
  | str (s : String)
  | arr (items : List JsonValue)
  | obj (entries : List (String × JsonValue))

theorem sizeOf_snd_lt {α β : Type} [SizeOf α] [SizeOf β] {entries : List (α × β)} {entry : α × β}
    (h : entry ∈ entries) : sizeOf entry.2 < sizeOf entries := by
  have hlt := List.sizeOf_lt_of_mem h
  have heq : sizeOf entry = 1 + sizeOf entry.1 + sizeOf entry.2 := rfl
  omega

namespace JsonValue

def strings : JsonValue → List String
  | .null | .bool _ | .int _ | .float _ => []
  | .str s => [s]
  | .arr items => items.flatMap strings
  | .obj entries => entries.flatMap fun entry ↦ entry.2.strings
  decreasing_by
    · decreasing_tactic
    · have hlt := sizeOf_snd_lt ‹_›
      simp only [obj.sizeOf_spec]
      omega

@[simp] theorem strings_str (s : String) : (str s).strings = [s] := by rw [strings]

end JsonValue

end TextToSql.Domain
