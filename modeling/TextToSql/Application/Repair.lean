import TextToSql.Domain.Models

namespace TextToSql.Application

open Domain

def repairableCodes : List String :=
  ["sql_parse_failed", "unknown_table", "unknown_column", "select_star_forbidden",
    "denied_function"]

def nonRepairableCodes : List String :=
  ["non_read_only_statement", "forbidden_statement", "multiple_statements", "comment_present",
    "system_catalog_access", "cross_database_access", "schema_not_allowed", "column_denied",
    "table_denied", "table_not_allowed", "cartesian_product", "too_many_joins",
    "subquery_too_deep", "too_many_columns", "estimated_cost_too_high"]

def isRepairable (issues : List ValidationIssue) : Bool :=
  if issues = [] then false
  else if issues.any fun i ↦ i.code ∈ nonRepairableCodes then false
  else issues.any fun i ↦ i.code ∈ repairableCodes

/-- `tuple(dict.fromkeys(items))`. -/
def firstOccurrences (seen : List String) : List String → List String
  | [] => []
  | x :: xs => if x ∈ seen then firstOccurrences seen xs else x :: firstOccurrences (x :: seen) xs

def sanitizedFeedback (issues : List ValidationIssue) : List String :=
  firstOccurrences [] ((issues.filter fun i ↦ i.code ∈ repairableCodes).map fun i ↦
    s!"{i.code}: {i.message}")

theorem isRepairable_iff {issues : List ValidationIssue} :
    isRepairable issues = true ↔
      (∀ i ∈ issues, i.code ∉ nonRepairableCodes) ∧ ∃ i ∈ issues, i.code ∈ repairableCodes := by
  rw [isRepairable]
  split
  · rename_i h
    simp [h]
  · split
    · rename_i h
      obtain ⟨i, hi, hc⟩ := List.any_eq_true.mp h
      simp only [decide_eq_true_eq] at hc
      refine iff_of_false Bool.false_ne_true ?_
      rintro ⟨h, -⟩
      exact h i hi hc
    · rename_i h
      simp only [List.any_eq_true, decide_eq_true_eq, not_exists, not_and] at h ⊢
      exact ⟨fun hr ↦ ⟨h, hr⟩, fun hr ↦ hr.2⟩

end TextToSql.Application
