import TextToSql.Library.FirstChoice
import TextToSql.Security.References

namespace TextToSql.Security

open Library Domain Sql SQLValidator

def reordered (py : Python) (enumerate : List String → List String)
    (h : ∀ l, (enumerate l).Perm l.dedup) : Python :=
  { py with enumerate, enumerate_perm := h }

variable (py : Python) (validator : SQLValidator) (schema : DatabaseSchema)
  (config : SecurityPolicyConfig) (auth : AuthContext) (e : Expression)

def verdict : Bool × Bool :=
  let outcome := validator.validateExpression py schema e (newOutcome py [e])
  (outcome.isValid,
    (enforce py config schema outcome.referencedTables outcome.referencedColumns auth).allowed)

/-- The verdict is the same in all processes. -/
def OrderIndependent : Prop :=
  ∀ f g hf hg, verdict (reordered py f hf) validator schema config auth e =
    verdict (reordered py g hg) validator schema config auth e

def referencedNames : List String := (realTables py schema e).map lastPart

def unqualifiedColumns : List String :=
  (e.collect columnName).filterMap fun c ↦
    if py.lower c.1 = "" ∧ c.2 ≠ "" ∧ c.2 ≠ "*" ∧ py.lower c.2 ∉ outputAliases py e then some c.2
    else none

def offers (column name : String) : Bool := (schema.table py name).any (·.hasColumn py column)

def withheld (column name : String) : Bool :=
  (schema.table py name).any fun table ↦
    !(columnDenials py schema auth.roles (recordedText table column)).isEmpty

/-- The policy refuses a recorded table, or a column that was recorded for its qualifier. -/
def Refused : Prop :=
  (∃ qualified ∈ realTables py schema e, tableDenials py config qualified ≠ []) ∨
    ∃ c ∈ e.collect columnName, py.lower c.1 ≠ "" ∧ ∃ table ∈ SQLValidator.owners py schema e c,
      columnDenials py schema auth.roles (recordedText table c.2) ≠ []

/-- The cases in which it does not matter which owner of an unqualified column is recorded. -/
inductive Settled : Prop where
  /-- the statement is refused for another reason -/
  | refused (h : Refused py schema config auth e)
  /-- every owner of every such column may be viewed -/
  | viewable (h : ∀ column ∈ unqualifiedColumns py e, ∀ name ∈ referencedNames py schema e,
      offers py schema column name = true → withheld py schema auth column name = false)
  /-- some tables each withhold a column that no other table has -/
  | withheldOnly (part : List String)
      (h : FirstChoice.Blocked (offers py schema) (withheld py schema auth)
        (unqualifiedColumns py e) (referencedNames py schema e).dedup part)

variable {py validator schema config auth e}

section Order

variable {enumerate : List String → List String} {h : ∀ l, (enumerate l).Perm l.dedup}

theorem mem_realTableInfos {table : TableInfo} :
    table ∈ realTableInfos py schema e ↔
      ∃ name ∈ referencedNames py schema e, schema.table py name = some table := by
  rw [realTableInfos, List.mem_filterMap]
  exact exists_congr fun name ↦ and_congr_left' py.mem_enumerate

theorem mem_realTableInfos_reordered {table : TableInfo} :
    table ∈ realTableInfos (reordered py enumerate h) schema e ↔
      table ∈ realTableInfos py schema e := by
  rw [mem_realTableInfos, mem_realTableInfos]
  rfl

theorem checkColumn_ok_reordered (c : String × String) :
    (∃ refs, checkColumn (reordered py enumerate h) schema e c = .ok refs) ↔
      ∃ refs, checkColumn py schema e c = .ok refs := by
  rw [checkColumn, checkColumn]
  split
  · rfl
  · by_cases hq : py.lower c.1 = ""
    · rw [if_pos hq, if_pos (show (reordered py enumerate h).lower c.1 = "" from hq),
        checkUnqualified_ok_iff, checkUnqualified_ok_iff]
      have hnil : realTableInfos (reordered py enumerate h) schema e = [] ↔
          realTableInfos py schema e = [] := by
        simp only [List.eq_nil_iff_forall_not_mem, mem_realTableInfos_reordered]
      simp only [mem_realTableInfos_reordered, hnil]
      rfl
    · rw [if_neg hq, if_neg (show ¬(reordered py enumerate h).lower c.1 = "" from hq)]
      rfl

theorem accepts_reordered :
    validator.Accepts (reordered py enumerate h) schema e ↔ validator.Accepts py schema e := by
  have hcolumns : columnIssues (reordered py enumerate h) schema e = [] ↔
      columnIssues py schema e = [] := by
    rw [columnIssues_eq_nil, columnIssues_eq_nil]
    exact forall₂_congr fun c _ ↦ checkColumn_ok_reordered c
  simp only [Accepts, findings, List.append_eq_nil_iff, hcolumns]
  rfl

theorem take_one_filter {α β : Type} (f : α → Option β) (p : β → Bool) (l : List α) :
    ((l.filterMap f).filter p).take 1 =
      ((l.find? fun a ↦ (f a).any p).bind f).toList := by
  induction l with
  | nil => rfl
  | cons a l ih =>
    cases hf : f a with
    | none => rw [List.filterMap_cons_none hf, ih, List.find?_cons_of_neg (by simp [hf])]
    | some b =>
      rw [List.filterMap_cons_some hf]
      by_cases hp : p b = true
      · rw [List.filter_cons_of_pos hp, List.find?_cons_of_pos (by simpa [hf] using hp)]
        simp [hf]
      · rw [List.filter_cons_of_neg hp, ih, List.find?_cons_of_neg (by simpa [hf] using hp)]

theorem mem_unqualifiedColumns {column : String} :
    column ∈ unqualifiedColumns py e ↔ ∃ qualifier, (qualifier, column) ∈ e.collect columnName ∧
      py.lower qualifier = "" ∧ column ≠ "" ∧ column ≠ "*" ∧
        py.lower column ∉ outputAliases py e := by
  rw [unqualifiedColumns, List.mem_filterMap]
  constructor
  · rintro ⟨c, hc, h⟩
    split at h
    · rename_i hcond
      cases h
      exact ⟨c.1, hc, hcond⟩
    · cases h
  · rintro ⟨qualifier, hc, hcond⟩
    exact ⟨(qualifier, column), hc, if_pos hcond⟩

theorem owners_first {c : String × String} (hq : py.lower c.1 = "")
    (hname : ¬(c.2 = "" ∨ c.2 = "*")) (ho : py.lower c.2 ∉ outputAliases py e) :
    SQLValidator.owners py schema e c = (((py.enumerate (referencedNames py schema e)).find?
      (offers py schema c.2)).bind (schema.table py)).toList := by
  rw [SQLValidator.owners, if_neg hname, if_pos hq, if_neg ho, realTableInfos]
  exact take_one_filter _ _ _

theorem owners_unqualified {c : String × String} (hq : py.lower c.1 = "")
    (hc : c.2 ∈ unqualifiedColumns py e) :
    SQLValidator.owners py schema e c = (((py.enumerate (referencedNames py schema e)).find?
      (offers py schema c.2)).bind (schema.table py)).toList := by
  obtain ⟨-, -, -, hempty, hstar, ho⟩ := mem_unqualifiedColumns.mp hc
  exact owners_first hq (by simp [hempty, hstar]) ho

theorem owners_of_not_mem {c : String × String} (hq : py.lower c.1 = "")
    (hmem : c ∈ e.collect columnName) (hc : c.2 ∉ unqualifiedColumns py e) :
    SQLValidator.owners py schema e c = [] := by
  rw [SQLValidator.owners]
  by_cases hname : c.2 = "" ∨ c.2 = "*"
  · rw [if_pos hname]
  · rw [if_neg hname, if_pos hq]
    push Not at hname
    apply if_pos
    by_contra ho
    exact hc (mem_unqualifiedColumns.mpr ⟨c.1, hmem, hq, hname.1, hname.2, ho⟩)

theorem allowed_iff :
    (decision py schema e config auth).allowed = true ↔
      ¬Refused py schema config auth e ∧
        ¬FirstChoice.Spoiled (offers py schema) (withheld py schema auth)
          (unqualifiedColumns py e) (py.enumerate (referencedNames py schema e)) := by
  have hdenials : (decision py schema e config auth).allowed = true ↔
      (∀ qualified ∈ realTables py schema e, tableDenials py config qualified = []) ∧
        ∀ c ∈ e.collect columnName, ∀ table ∈ SQLValidator.owners py schema e c,
          columnDenials py schema auth.roles (recordedText table c.2) = [] := by
    simp only [decision, enforce, denials, List.isEmpty_iff, List.append_eq_nil_iff,
      List.flatMap_eq_nil_iff, mem_sortedSet, resolvedColumns_owners, List.mem_flatMap, List.mem_map]
    refine and_congr_right fun _ ↦ ⟨fun h c hc table ht ↦ h _ ⟨c, hc, table, ht, rfl⟩, ?_⟩
    rintro h text ⟨c, hc, table, ht, rfl⟩
    exact h c hc table ht
  -- the denials of unqualified columns are those of the first owners
  have hspoiled : FirstChoice.Spoiled (offers py schema) (withheld py schema auth)
      (unqualifiedColumns py e) (py.enumerate (referencedNames py schema e)) ↔
      ∃ c ∈ e.collect columnName, py.lower c.1 = "" ∧ ∃ table ∈ SQLValidator.owners py schema e c,
        columnDenials py schema auth.roles (recordedText table c.2) ≠ [] := by
    constructor
    · rintro ⟨column, hcolumn, name, hfind, hwithheld⟩
      obtain ⟨qualifier, hc, hq, -⟩ := mem_unqualifiedColumns.mp hcolumn
      rw [withheld, Option.any_eq_true] at hwithheld
      obtain ⟨table, htable, hdenied⟩ := hwithheld
      refine ⟨(qualifier, column), hc, hq, table, ?_, by simpa using hdenied⟩
      rw [owners_unqualified hq hcolumn, hfind, Option.bind_some, htable]
      exact List.mem_singleton_self _
    · rintro ⟨c, hc, hq, table, htable, hdenied⟩
      by_cases hcolumn : c.2 ∈ unqualifiedColumns py e
      · rw [owners_unqualified hq hcolumn, Option.mem_toList, Option.bind_eq_some_iff] at htable
        obtain ⟨name, hfind, htable⟩ := htable
        refine ⟨c.2, hcolumn, name, hfind, ?_⟩
        rw [withheld, htable, Option.any_some]
        simpa using hdenied
      · rw [owners_of_not_mem hq hc hcolumn] at htable
        cases htable
  rw [hdenials, hspoiled, Refused]
  constructor
  · rintro ⟨htables, hcolumns⟩
    refine ⟨?_, ?_⟩
    · rintro (⟨qualified, hq, hd⟩ | ⟨c, hc, -, table, ht, hd⟩)
      · exact hd (htables qualified hq)
      · exact hd (hcolumns c hc table ht)
    · rintro ⟨c, hc, -, table, ht, hd⟩
      exact hd (hcolumns c hc table ht)
  · rintro ⟨hrefused, hfirst⟩
    refine ⟨fun qualified hq ↦ ?_, fun c hc table ht ↦ ?_⟩
    · by_contra hd
      exact hrefused (.inl ⟨qualified, hq, hd⟩)
    · by_contra hd
      by_cases hq : py.lower c.1 = ""
      · exact hfirst ⟨c, hc, hq, table, ht, hd⟩
      · exact hrefused (.inr ⟨c, hc, hq, table, ht, hd⟩)

end Order

def enumerateAs (names order : List String) (l : List String) : List String :=
  if order.Perm l.dedup ∧ l = names then order else l.dedup

theorem enumerateAs_perm (names order l : List String) :
    (enumerateAs names order l).Perm l.dedup := by
  rw [enumerateAs]
  split
  · rename_i h
    exact h.1
  · exact .refl _

theorem refused_reordered {f : List String → List String} {hf : ∀ l, (f l).Perm l.dedup} :
    Refused (reordered py f hf) schema config auth e ↔ Refused py schema config auth e := by
  have howners (c : String × String) (hq : py.lower c.1 ≠ "") :
      SQLValidator.owners (reordered py f hf) schema e c = SQLValidator.owners py schema e c := by
    rw [SQLValidator.owners, SQLValidator.owners, if_neg hq,
      if_neg (show ¬(reordered py f hf).lower c.1 = "" from hq)]
    rfl
  refine or_congr (.refl _) (exists_congr fun c ↦ and_congr_right fun _ ↦ ?_)
  refine and_congr_right fun hq ↦ ?_
  rw [howners c hq]
  rfl

theorem verdict_snd (f : List String → List String) (hf : ∀ l, (f l).Perm l.dedup) :
    (verdict (reordered py f hf) validator schema config auth e).2 = true ↔
      ¬Refused py schema config auth e ∧
        ¬FirstChoice.Spoiled (offers py schema) (withheld py schema auth)
          (unqualifiedColumns py e) (f (referencedNames py schema e)) := by
  rw [← @refused_reordered py schema config auth e f hf]
  exact @allowed_iff (reordered py f hf) schema config auth e

theorem verdict_fst (f g : List String → List String) (hf : ∀ l, (f l).Perm l.dedup)
    (hg : ∀ l, (g l).Perm l.dedup) :
    (verdict (reordered py f hf) validator schema config auth e).1 =
      (verdict (reordered py g hg) validator schema config auth e).1 := by
  have hvalid (f : List String → List String) (hf : ∀ l, (f l).Perm l.dedup) :
      (verdict (reordered py f hf) validator schema config auth e).1 = true ↔
        validator.Accepts py schema e :=
    (validateExpression_isValid.trans (and_iff_right rfl)).trans accepts_reordered
  exact Bool.eq_iff_iff.mpr ((hvalid f hf).trans (hvalid g hg).symm)

/-- The verdict does not depend on the enumeration order exactly when no unqualified column leaves
the policy a choice. -/
theorem orderIndependent_iff (py : Python) (validator : SQLValidator) (schema : DatabaseSchema)
    (config : SecurityPolicyConfig) (auth : AuthContext) (e : Expression) :
    OrderIndependent py validator schema config auth e ↔
      Settled py schema config auth e := by
  constructor
  · intro h
    by_cases hrefused : Refused py schema config auth e
    · exact .refused hrefused
    have hspoiled (order order' : List String)
        (ho : order.Perm (referencedNames py schema e).dedup)
        (ho' : order'.Perm (referencedNames py schema e).dedup) :
        FirstChoice.Spoiled (offers py schema) (withheld py schema auth)
            (unqualifiedColumns py e) order ↔
          FirstChoice.Spoiled (offers py schema) (withheld py schema auth)
            (unqualifiedColumns py e) order' := by
      have heq := congrArg Prod.snd (h _ _ (enumerateAs_perm (referencedNames py schema e) order)
        (enumerateAs_perm (referencedNames py schema e) order'))
      have hiff := Bool.eq_iff_iff.mp heq
      rw [verdict_snd, verdict_snd, enumerateAs, enumerateAs, if_pos ⟨ho, rfl⟩,
        if_pos ⟨ho', rfl⟩, and_iff_right hrefused, and_iff_right hrefused] at hiff
      exact not_iff_not.mp hiff
    by_cases hall : ∃ order, order.Perm (referencedNames py schema e).dedup ∧
        FirstChoice.Spoiled (offers py schema) (withheld py schema auth)
          (unqualifiedColumns py e) order
    · obtain ⟨order, ho, hs⟩ := hall
      obtain ⟨part, hpart⟩ := FirstChoice.forall_spoiled_iff.mp fun order' ho' ↦
        (hspoiled order order' ho ho').mp hs
      exact .withheldOnly part hpart
    · refine .viewable fun column hc name hn hoffers ↦ ?_
      by_contra hw
      exact hall (FirstChoice.exists_spoiled_iff.mpr
        ⟨column, hc, name, List.mem_dedup.mpr hn, hoffers, by simpa using hw⟩)
  · intro h f g hf hg
    refine Prod.ext (verdict_fst f g hf hg) (Bool.eq_iff_iff.mpr ?_)
    rw [verdict_snd, verdict_snd]
    cases h with
    | refused hr => simp [hr]
    | viewable hv =>
      have hfree (f : List String → List String) (hf : ∀ l, (f l).Perm l.dedup) :
          ¬FirstChoice.Spoiled (offers py schema) (withheld py schema auth)
            (unqualifiedColumns py e) (f (referencedNames py schema e)) := by
        intro hs
        obtain ⟨column, hc, name, hn, ho, hw⟩ := FirstChoice.exists_spoiled_iff.mp ⟨_, hf _, hs⟩
        rw [hv column hc name (List.mem_dedup.mp hn) ho] at hw
        cases hw
      simp [hfree f hf, hfree g hg]
    | withheldOnly part hpart =>
      have hall := FirstChoice.forall_spoiled_iff.mpr ⟨part, hpart⟩
      simp [hall _ (hf _), hall _ (hg _)]

def mailing : DatabaseSchema where
  dialect := .sqlite
  tables :=
    [{ name := "users", columns := [{ name := "id" }, { name := "email", classification := .pii }] },
      { name := "newsletter", columns := [{ name := "user_id" }, { name := "email" }] }]

def subscriberEmails : Expression :=
  selectFrom "email" "users"
    [.mk .where_ .where_
      [.mk .this (.operator "In")
        [.mk .this (.column "" "id") [],
          .mk .query (.subquery "" []) [selectFrom "user_id" "newsletter" []]]]]

theorem verdict_differs :
    verdict .ascii {} mailing {} { userId := "u1", tenantId := "1", roles := ["analyst"] }
        subscriberEmails = (true, false) ∧
      ¬OrderIndependent .ascii {} mailing {}
        { userId := "u1", tenantId := "1", roles := ["analyst"] } subscriberEmails := by
  refine ⟨by decide +kernel, fun h ↦ ?_⟩
  have hdiffer := h List.dedup (fun l ↦ l.dedup.reverse) (fun _ ↦ .refl _)
    fun l ↦ l.dedup.reverse_perm
  revert hdiffer
  decide +kernel

end TextToSql.Security
