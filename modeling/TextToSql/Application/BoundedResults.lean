import TextToSql.Application.Container
import TextToSql.Application.RepairLoop
import TextToSql.Security.RewriterRelations

namespace TextToSql.Application

open Library Domain Sql Security Execution Infrastructure

def withoutLimit (e : Expression) : Expression :=
  .node e.label (e.children.filter fun c ↦ c.label.key ≠ .limit)

def limitLiteral (e : Expression) : Option Nat :=
  (e.arg .limit).bind fun l ↦
    if l.label.type = .limit then (l.arg .expression).bind literalInt else none

/-- `LIMIT k` returns the first `k` rows, and any other bound some first rows. -/
structure LimitLaws (db : Expression → List (List Value)) : Prop where
  literal : ∀ e k, isQuery e.label.type = true → limitLiteral e = some k →
    db e = (db (withoutLimit e)).take k
  others : ∀ e, isQuery e.label.type = true → db e <+: db (withoutLimit e)

/-- The engine answers a rendered statement with the rows of the statement. -/
def Answers (engine : Engine) (glot : Sqlglot) (db : Expression → List (List Value)) : Prop :=
  ∀ sent dialect e answer, engine.answer sent (.query (glot.sql dialect e)) = .ok answer →
    answer.rows = db e

section Limit

variable {e : Expression}

theorem withoutLimit_setLimit (n : Nat) : withoutLimit (setLimit e n) = withoutLimit e := by
  have hfilter := RoseTree.filter_children_setChild (p := fun l : Node ↦ decide (l.key = .limit))
    (t := e) (v := limitNode n) rfl
  rw [withoutLimit, withoutLimit, setLimit, Expression.setArg]
  simp only [← decide_not] at hfilter
  exact congrArg (RoseTree.node e.label) hfilter

theorem arg_setLimit (n : Nat) : (setLimit e n).arg .limit = some (limitNode n) :=
  RoseTree.child?_setChild rfl

theorem limitLiteral_setLimit (n : Nat) : limitLiteral (setLimit e n) = some n := by
  rw [limitLiteral, arg_setLimit]
  simpa [limitNode, Expression.arg, RoseTree.child?, literalInt] using intOfText_toString n

theorem rows_setLimit {db : Expression → List (List Value)} (hlaws : LimitLaws db)
    (hq : isQuery e.label.type = true) (n : Nat) :
    db (setLimit e n) = (db (withoutLimit e)).take n := by
  rw [hlaws.literal (setLimit e n) n hq (limitLiteral_setLimit n), withoutLimit_setLimit]

/-- The limit that the statement has is kept by `enforce_limit`. -/
def KeepsLimit (maxRows : Nat) (e : Expression) : Prop :=
  ∃ current ≤ maxRows, limitValue (e.arg .limit) = some current

theorem enforceLimit_keeps {maxRows : Nat} (h : KeepsLimit maxRows e) :
    (enforceLimit e maxRows).expression = e := by
  obtain ⟨current, hle, hvalue⟩ := h
  rw [enforceLimit, hvalue]
  split
  · dsimp only
    rw [if_neg (by omega)]
  · rfl

theorem enforceLimit_sets {maxRows : Nat} (hq : isQuery e.label.type = true)
    (h : ¬KeepsLimit maxRows e) : (enforceLimit e maxRows).expression = setLimit e maxRows := by
  rw [enforceLimit, if_pos hq]
  split
  · rfl
  · rename_i current hvalue
    rw [if_pos]
    by_contra hle
    exact h ⟨current, by omega, hvalue⟩

end Limit

theorem head?_append {s : String} {c : Char} (h : s.toList.head? = some c) (t : String) :
    (s ++ t).toList.head? = some c := by
  rw [String.toList_append, List.head?_append, h]
  rfl

theorem truncationWarning_ne (n : Nat) : truncationWarning n ≠ lowConfidenceWarning := by
  have hR : (truncationWarning n).toList.head? = some 'R' := by
    unfold truncationWarning
    apply head?_append
    apply head?_append
    apply head?_append
    decide
  have hL : lowConfidenceWarning.toList.head? = some 'L' := by decide
  intro h
  rw [h, hL] at hR
  cases hR

/-- The rows and the truncation flag of a response are those of a result bounded by `n`. -/
structure Honest (py : Python) (n : Nat) (explain : Bool) (response : QueryResponse)
    (result : List (List Value)) : Prop where
  rows : response.rows = (result.take n).map (·.map (toJsonable py))
  rowCount : response.rowCount = some (result.take n).length
  truncated : response.truncated = true ↔ n < result.length
  warning : explain = true →
    (truncationWarning (result.take n).length ∈ response.warnings ↔ n < result.length)

namespace Orchestrator

variable {γ : Type} {o : Orchestrator γ} {request : QueryRequest} {auth : AuthContext}
  {execute : Bool} {response : QueryResponse}

theorem honest_success {generation : GenerationResponse} {secured : Secured} {attempts : Nat}
    {answer : ResultSet} {n : Nat} {result : List (List Value)} :
    Honest o.gate.py n request.explain
        (o.success request generation secured attempts (collect o.gate.py answer n)) result ↔
      (answer.rows.take n).map (·.map (toJsonable o.gate.py)) =
          (result.take n).map (·.map (toJsonable o.gate.py)) ∧
        (n < answer.rows.length ↔ n < result.length) := by
  have htake : ((answer.rows.take (n + 1)).take n) = answer.rows.take n := by
    rw [List.take_take, Nat.min_eq_left (by omega)]
  have hflag : (collect o.gate.py answer n).truncated = true ↔ n < answer.rows.length := by
    simp [collect]
  constructor
  · intro h
    refine ⟨?_, hflag.symm.trans h.truncated⟩
    rw [← h.rows]
    simp only [success, collect, htake]
  · rintro ⟨hrows, hlength⟩
    have hcount : (answer.rows.take n).length = (result.take n).length := by
      simpa using congrArg List.length hrows
    refine ⟨?_, ?_, hflag.trans hlength, fun hexplain ↦ ?_⟩
    · simp only [success, collect, htake, hrows]
    · simp only [success, collect, htake, List.length_map, hcount]
    · simp only [success, hexplain, if_true, explainResult, Bool.or_self]
      have hrowCount : (collect o.gate.py answer n).rowCount = (result.take n).length := by
        simp only [collect, htake, List.length_map, hcount]
      rw [hrowCount, ← hlength, ← hflag]
      by_cases ht : (collect o.gate.py answer n).truncated = true
      · simp [ht]
      · rw [if_neg ht, List.nil_append]
        refine iff_of_false (fun hmem ↦ ?_) ht
        split at hmem
        · exact truncationWarning_ne _ (List.mem_singleton.mp hmem)
        · cases hmem

theorem dispatch_success {rounds : List (Round γ)} {generation : GenerationResponse}
    {secured : Secured} {attempts : Nat}
    (h : (o.dispatch request execute rounds generation secured attempts).outcome = .ok response)
    (hs : response.status = .success) :
    ∃ sql result, secured.ok = true ∧ secured.finalSql = some sql ∧
      (Execution.execute o.gate.py o.readonlyEngine (o.dialect request) o.statementTimeoutMs sql
        (o.effectiveMaxRows request)).2 = .ok result ∧
      response = o.success request generation secured attempts result := by
  unfold dispatch at h
  split at h
  · rename_i sql hok hsql
    split at h
    · dsimp only [executeFinal] at h
      cases hx : (Execution.execute o.gate.py o.readonlyEngine (o.dialect request)
        o.statementTimeoutMs sql (o.effectiveMaxRows request)).2 with
      | error error =>
        rw [hx] at h
        cases h
      | ok result =>
        rw [hx] at h
        cases h
        exact ⟨sql, result, hok, hsql, hx, rfl⟩
    · cases h
      cases hs
  · cases h

theorem rounds_dispatch (rounds : List (Round γ)) (generation : GenerationResponse)
    (secured : Secured) (attempts : Nat) :
    (o.dispatch request execute rounds generation secured attempts).rounds = rounds := by
  unfold dispatch
  split
  · split
    · rfl
    · rfl
  · rfl

theorem process_success (h : (o.process request auth execute).outcome = .ok response)
    (hs : response.status = .success) :
    ∃ last attempts sql result,
      (o.process request auth execute).rounds.getLast? = some last ∧
      Checked o request auth last ∧ last.secured.ok = true ∧ last.secured.finalSql = some sql ∧
      (Execution.execute o.gate.py o.readonlyEngine (o.dialect request) o.statementTimeoutMs sql
        (o.effectiveMaxRows request)).2 = .ok result ∧
      response = o.success request last.generation last.secured attempts result := by
  unfold process at h ⊢
  split at h
  · cases h
  · rename_i hmismatch
    rw [if_neg hmismatch]
    split at h
    · cases h
      cases hs
    · dsimp only at h ⊢
      split at h
      · cases h
      · rename_i last hlast
        have hloop := loop_generateWithRepair o request auth [] none 0 o.maxRepairAttempts
        have hchecked := hloop.checked last (List.mem_of_getLast? hlast)
        obtain ⟨sql, result, hok, hsql, hresult, hresponse⟩ := dispatch_success h hs
        refine ⟨last, _, sql, result, ?_, hchecked, hok, hsql, hresult, hresponse⟩
        rw [rounds_dispatch, hlast]

theorem process_final (h : (o.process request auth execute).outcome = .ok response)
    (hs : response.status = .success) :
    ∃ last outcome e, (o.process request auth execute).rounds.getLast? = some last ∧
      o.gate.validator.validate o.gate.py o.schema o.gate.glot last.generation.sql
        (o.dialect request) = .ok outcome ∧
      Gate.Passes o.gate o.schema auth (o.effectiveMaxRows request) outcome e ∧
      ∃ attempts sent answer,
        o.readonlyEngine.answer sent (.query (o.gate.glot.sql (o.dialect request)
          (o.gate.finalExpression o.schema (o.effectiveMaxRows request) auth.tenantId e))) =
            .ok answer ∧
        response = o.success request last.generation last.secured attempts
          (collect o.gate.py answer (o.effectiveMaxRows request)) := by
  obtain ⟨last, attempts, sql, result, hlast, hchecked, hok, hsql, hresult, hresponse⟩ :=
    process_success h hs
  obtain ⟨sent, answer, hanswer, rfl⟩ := execute_ok hresult
  have hsecured := hchecked.secured
  rw [hchecked.auth, hchecked.maxRows] at hsecured
  rw [hsecured] at hok hsql
  obtain ⟨outcome, prepared, hv, hp, hcharge, heq⟩ := Gate.secureCandidate_ok hok
  obtain ⟨e, hpasses, hexpr, hprepared, -, -⟩ := Gate.prepare_ok hp
  rw [heq, Gate.charge_finalSql hcharge, Option.some_inj, hprepared, hexpr] at hsql
  refine ⟨last, outcome, e, hlast, hv, hpasses, attempts, sent, answer, ?_, hresponse⟩
  rw [hsql]
  exact hanswer

/-- The response is honest about the tenant-scoped statement exactly when its limit is kept, or it
yields as many rows as the limit that takes the place of its own lets through. -/
theorem honest_iff {db : Expression → List (List Value)} (hlaws : LimitLaws db)
    (hdb : Answers o.readonlyEngine o.gate.glot db)
    (h : (o.process request auth execute).outcome = .ok response)
    (hs : response.status = .success) :
    ∃ last outcome e, (o.process request auth execute).rounds.getLast? = some last ∧
      o.gate.validator.validate o.gate.py o.schema o.gate.glot last.generation.sql
        (o.dialect request) = .ok outcome ∧
      outcome.isValid = true ∧ outcome.expression = some e ∧
      (Honest o.gate.py (o.effectiveMaxRows request) request.explain response
          (db (o.gate.scopedExpression o.schema auth.tenantId e)) ↔
        KeepsLimit (o.effectiveMaxRows request)
            (o.gate.scopedExpression o.schema auth.tenantId e) ∨
          (db (o.gate.scopedExpression o.schema auth.tenantId e)).length =
            min (o.effectiveMaxRows request)
              (db (withoutLimit (o.gate.scopedExpression o.schema auth.tenantId e))).length) := by
  obtain ⟨last, outcome, e, hlast, hv, hpasses, attempts, sent, answer, hanswer, rfl⟩ :=
    process_final h hs
  refine ⟨last, outcome, e, hlast, hv, hpasses.valid, hpasses.expression, ?_⟩
  have hrows := hdb _ _ _ _ hanswer
  have haccepts := (SQLValidator.accepts_of_validate hv hpasses.valid hpasses.expression).1
  have hquery : isQuery (o.gate.scopedExpression o.schema auth.tenantId e).label.type = true := by
    rw [Gate.scopedExpression, label_rewrite]
    exact haccepts.isQuery
  rw [Gate.finalExpression] at hrows
  generalize o.gate.scopedExpression o.schema auth.tenantId e = query at hrows hquery ⊢
  generalize o.effectiveMaxRows request = n at hrows ⊢
  rw [honest_success]
  by_cases hkeeps : KeepsLimit n query
  · rw [hrows, enforceLimit_keeps hkeeps]
    exact iff_of_true ⟨rfl, Iff.rfl⟩ (.inl hkeeps)
  · rw [hrows, enforceLimit_sets hquery hkeeps, rows_setLimit hlaws hquery, or_iff_right hkeeps]
    constructor
    · rintro ⟨hsame, hflag⟩
      have hlength := congrArg List.length hsame
      simp only [List.length_map, List.length_take] at hlength hflag
      omega
    · intro hlength
      have hfirst := hlaws.others query hquery
      have htake : (db (withoutLimit query)).take n = db query := by
        rw [List.prefix_iff_eq_take.mp hfirst, hlength]
        rcases le_total n (db (withoutLimit query)).length with hle | hle
        · rw [Nat.min_eq_left hle]
        · rw [Nat.min_eq_right hle, List.take_of_length_le hle, List.take_length]
      rw [htake]
      exact ⟨rfl, Iff.rfl⟩

end Orchestrator

def rowsOf (table : List (List Value)) (e : Expression) : List (List Value) :=
  match limitLiteral e with
  | some k => table.take k
  | none => table

theorem limitLiteral_withoutLimit (e : Expression) : limitLiteral (withoutLimit e) = none := by
  have hnone : (withoutLimit e).arg .limit = none := by
    rw [Expression.arg, RoseTree.child?, withoutLimit, RoseTree.children_node,
      List.find?_eq_none]
    intro c hc
    simpa using (List.mem_filter.mp hc).2
  rw [limitLiteral, hnone]
  rfl

theorem limitLaws_rowsOf (table : List (List Value)) : LimitLaws (rowsOf table) where
  literal e k _ hk := by rw [rowsOf, rowsOf, hk, limitLiteral_withoutLimit]
  others e _ := by
    rw [rowsOf, rowsOf, limitLiteral_withoutLimit]
    split
    · exact List.take_prefix _ _
    · exact List.prefix_rfl

def scopedIds : String := "SELECT id FROM orders WHERE orders.organization_id = 1"

def idsGlot : Sqlglot where
  parse := (Sqlglot.one "SELECT id FROM orders" (selectFrom "id" "orders" []) "").parse
  sql _ e :=
    match limitLiteral e with
    | some k => scopedIds ++ (" LIMIT " ++ toString k)
    | none => scopedIds

def idsEngine (table : List (List Value)) : Engine where
  backend := .sqlite
  answer _ statement :=
    match statement with
    | .query sql =>
      .ok ⟨["id"], match intOfText (String.ofList (sql.toList.drop (scopedIds.length + 7))) with
        | some k => table.take k
        | none => table⟩
    | _ => .ok ⟨[], []⟩

theorem answers_idsEngine (table : List (List Value)) :
    Answers (idsEngine table) idsGlot (rowsOf table) := by
  intro sent dialect e answer h
  simp only [idsEngine, idsGlot, Except.ok.injEq] at h
  subst h
  rw [rowsOf]
  cases limitLiteral e with
  | none =>
    have hdrop : scopedIds.toList.drop (scopedIds.length + 7) = [] :=
      List.drop_eq_nil_of_le (by rw [String.length_toList]; omega)
    simp only [hdrop]
    rfl
  | some k =>
    have hdrop : (scopedIds ++ (" LIMIT " ++ toString k)).toList.drop (scopedIds.length + 7) =
        (toString k).toList := by
      rw [← String.append_assoc, String.toList_append, List.drop_left']
      rw [String.length_toList, String.length_append]
      rfl
    simp only [hdrop, String.ofList_toList, intOfText_toString]

def idsDeployment (table : List (List Value)) : Orchestrator Unit :=
  create defaultSettings .ascii idsGlot usersAndOrders (idsEngine table) (fun _ ↦ none)
    (fun _ ↦ { sql := "SELECT id FROM orders" })

theorem length_orderIds : 1 ≤ "order ids".length ∧ "order ids".length ≤ 2000 := by decide

def idsRequest : QueryRequest where
  question := "order ids"
  question_length := length_orderIds
  maxRows := some 3
  maxRows_bounds := by simp

def idsRun (table : List (List Value)) : Run Unit :=
  (idsDeployment table).process idsRequest ⟨"u1", "1", []⟩ true

def flags : Except EngineError QueryResponse → Option (ResponseStatus × Bool)
  | .ok response => some (response.status, response.truncated)
  | .error _ => none

theorem exists_of_flags {outcome : Except EngineError QueryResponse} {status : ResponseStatus}
    {truncated : Bool} (h : flags outcome = some (status, truncated)) :
    ∃ response, outcome = .ok response ∧ response.status = status ∧
      response.truncated = truncated := by
  cases outcome with
  | error error => cases h
  | ok response =>
    cases h
    exact ⟨response, rfl, rfl, rfl⟩

def fourIds : List (List Value) := [[.int 1], [.int 2], [.int 3], [.int 4]]

def idsOfTenant : Expression :=
  (Gate.offline "" (selectFrom "id" "orders" [])).scopedExpression usersAndOrders "1"
    (selectFrom "id" "orders" [])

theorem honest_twoIds :
    ∃ response e, (idsRun (fourIds.take 2)).outcome = .ok response ∧
      response.truncated = false ∧
      (Honest .ascii 3 true response (rowsOf (fourIds.take 2)
          ((idsDeployment (fourIds.take 2)).gate.scopedExpression usersAndOrders "1" e)) ↔
        KeepsLimit 3 ((idsDeployment (fourIds.take 2)).gate.scopedExpression usersAndOrders "1" e) ∨
          (rowsOf (fourIds.take 2)
            ((idsDeployment (fourIds.take 2)).gate.scopedExpression usersAndOrders "1" e)).length =
            min 3 (rowsOf (fourIds.take 2) (withoutLimit
              ((idsDeployment (fourIds.take 2)).gate.scopedExpression usersAndOrders "1"
                e))).length) := by
  have hflags : flags (idsRun (fourIds.take 2)).outcome = some (.success, false) := by
    decide +kernel
  obtain ⟨response, h, hs, ht⟩ := exists_of_flags hflags
  obtain ⟨last, outcome, e, -, -, -, -, hiff⟩ := Orchestrator.honest_iff
    (limitLaws_rowsOf (fourIds.take 2)) (answers_idsEngine (fourIds.take 2)) h hs
  exact ⟨response, e, h, ht, hiff⟩

/-- Four rows under the bound of three are cut to three, and the response does not say so. -/
theorem truncation_unreported :
    LimitLaws (rowsOf fourIds) ∧ Answers (idsEngine fourIds) idsGlot (rowsOf fourIds) ∧
      ∃ response, (idsRun fourIds).outcome = .ok response ∧ response.status = .success ∧
        ¬Honest .ascii 3 true response (rowsOf fourIds idsOfTenant) := by
  have hflags : flags (idsRun fourIds).outcome = some (.success, false) := by decide +kernel
  obtain ⟨response, h, hs, ht⟩ := exists_of_flags hflags
  refine ⟨limitLaws_rowsOf fourIds, answers_idsEngine fourIds, response, h, hs, fun hhonest ↦ ?_⟩
  have hlength : (rowsOf fourIds idsOfTenant).length = 4 := by decide +kernel
  have htruncated := hhonest.truncated.mpr (by omega)
  rw [ht] at htruncated
  cases htruncated

end TextToSql.Application
