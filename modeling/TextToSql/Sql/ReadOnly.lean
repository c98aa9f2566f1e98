import TextToSql.Infrastructure.ReferenceSchema
import TextToSql.Sql.Validator

namespace TextToSql.Sql

open Library Domain Infrastructure

/-- What a node does to the database besides reading it. -/
inductive Effect where
  | modifiesData | modifiesSchema | changesPrivileges | controlsTransaction | changesSession
  | createsTarget | locks
  deriving DecidableEq

def statementEffect : StatementKind → Option Effect
  | .insert | .update | .delete | .merge => some .modifiesData
  | .drop | .alter | .create | .truncateTable => some .modifiesSchema
  | .grant | .revoke => some .changesPrivileges
  | .transaction | .commit | .rollback => some .controlsTransaction
  | .set | .command _ => some .changesSession
  | .pragma => none

def effect : NodeType → Option Effect
  | .statement kind => statementEffect kind
  | .into => some .createsTarget
  | .lock => some .locks
  | _ => none

/-- No node at any depth creates, modifies, drops or locks anything. -/
def ReadOnly (e : Expression) : Prop := ∀ n ∈ e.walk, effect n.label.type = none

instance (e : Expression) : Decidable (ReadOnly e) :=
  inferInstanceAs (Decidable (∀ n ∈ e.walk, effect n.label.type = none))

theorem effect_of_forbiddenName {t : NodeType} (h : forbiddenName t = none)
    (hinto : t ≠ .into) (hlock : t ≠ .lock) : effect t = none := by
  cases t with
  | statement kind =>
    cases kind with
    | pragma => rfl
    | _ => cases h
  | into => exact absurd rfl hinto
  | lock => exact absurd rfl hlock
  | _ => rfl

namespace SQLValidator

variable {py : Python} {validator : SQLValidator} {schema : DatabaseSchema} {glot : Sqlglot}
  {sql : String} {dialect : SQLDialect} {outcome : ValidationOutcome} {e : Expression}

/-- An accepted statement is read-only exactly when it has neither an `INTO` target nor a locking
clause. -/
theorem readOnly_iff (h : validator.validate py schema glot sql dialect = .ok outcome)
    (hv : outcome.isValid = true) (he : outcome.expression = some e) :
    ReadOnly e ↔ e.findAll (· = .into) = [] ∧ e.findAll (· = .lock) = [] := by
  have ha := (accepts_of_validate h hv he).1
  simp only [List.eq_nil_iff_forall_not_mem, Expression.mem_findAll, decide_eq_true_eq, not_and]
  constructor
  · intro hr
    refine ⟨fun n hn ht ↦ ?_, fun n hn ht ↦ ?_⟩
    · have hn := hr n hn
      rw [ht] at hn
      cases hn
    · have hn := hr n hn
      rw [ht] at hn
      cases hn
  · rintro ⟨hinto, hlock⟩ n hn
    exact effect_of_forbiddenName (ha.forbiddenName hn) (hinto n hn) (hlock n hn)

def lockingSelect : Expression := selectFrom "status" "orders" [.mk .locks .lock []]

def copyingSelect : Expression :=
  selectFrom "status" "orders"
    [.mk .into .into [.mk .this (.table { db := "archive", name := "orders" }) []]]

theorem readOnly_selectStatus :
    ReadOnly (selectFrom "status" "orders" []) ↔
      (selectFrom "status" "orders" []).findAll (· = .into) = [] ∧
        (selectFrom "status" "orders" []).findAll (· = .lock) = [] :=
  @readOnly_iff .ascii {} usersAndOrders
    (.one "SELECT status FROM orders" (selectFrom "status" "orders" []) "SELECT status FROM orders")
    "SELECT status FROM orders" .sqlite _ _ (validate_of_parse (parseStatements_one _ _ _ _))
    (by decide +kernel) rfl

def AcceptedAs (sql : String) (e : Expression) : Prop :=
  ∃ outcome, ({} : SQLValidator).validate .ascii usersAndOrders (.one sql e sql) sql .postgres =
    .ok outcome ∧ outcome.isValid = true ∧ outcome.expression = some e

theorem accepted_not_readOnly :
    (AcceptedAs "SELECT status FROM orders FOR UPDATE" lockingSelect ∧
      ¬ReadOnly lockingSelect) ∧
    (AcceptedAs "SELECT status INTO archive.orders FROM orders" copyingSelect ∧
      ¬ReadOnly copyingSelect) :=
  ⟨⟨⟨_, validate_of_parse (parseStatements_one _ _ _ _), by decide +kernel, rfl⟩, by decide +kernel⟩,
    ⟨⟨_, validate_of_parse (parseStatements_one _ _ _ _), by decide +kernel, rfl⟩, by decide +kernel⟩⟩

end SQLValidator

end TextToSql.Sql
