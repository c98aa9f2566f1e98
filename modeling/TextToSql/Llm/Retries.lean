import Mathlib.Data.Rat.Defs
import Mathlib.Data.List.Basic
import Mathlib.Tactic.Ring

namespace TextToSql.Llm.OpenaiAdapter

inductive ProviderErrorType where
  | providerError | providerTimeoutError | providerOutputError
  deriving DecidableEq

namespace ProviderErrorType

def errorCode : ProviderErrorType → String
  | providerError => "provider_error"
  | providerTimeoutError => "provider_timeout"
  | providerOutputError => "provider_output_invalid"

def httpStatus : ProviderErrorType → ℕ
  | providerError | providerOutputError => 502
  | providerTimeoutError => 504

def retryable : ProviderErrorType → Bool
  | providerError | providerTimeoutError | providerOutputError => true

end ProviderErrorType

structure ProviderError where
  type : ProviderErrorType
  message : String
  retryable : Bool := type.retryable

/-- The exceptions that leave the adapter: its own errors, and those it does not handle. -/
inductive PostError where
  | provider (error : ProviderError)
  | assertionError
  | unhandled (exception : String)

/-- `resp.json()`: besides a `JSONDecodeError` it can raise, among others, a
`UnicodeDecodeError`. -/
inductive Decoded (α : Type) where
  | data (data : α)
  | jsonDecodeError
  | raised (exception : String)

/-- What becomes of `client.post(…)`. -/
inductive Transport (α : Type) where
  | timeoutException
  | httpError
  | raised (exception : String)
  | response (statusCode : ℕ) (json : Decoded α)

variable {α : Type}

def Decoded.result : Decoded α → Except PostError α
  | .data value => .ok value
  | .jsonDecodeError =>
    .error (.provider
      { type := .providerOutputError
        message := "The provider returned non-JSON output." })
  | .raised exception => .error (.unhandled exception)

def post : Transport α → Except PostError α
  | .timeoutException =>
    .error (.provider { type := .providerTimeoutError, message := "The LLM provider timed out." })
  | .httpError =>
    .error (.provider { type := .providerError, message := "The LLM provider request failed." })
  | .raised exception => .error (.unhandled exception)
  | .response statusCode json =>
    if statusCode = 429 then
      .error (.provider
        { type := .providerError
          message := "The LLM provider rate-limited the request."
          retryable := true })
    else if statusCode ≥ 500 then
      .error (.provider
        { type := .providerError
          message := "The LLM provider returned status " ++ toString statusCode ++ "."
          retryable := true })
    else if statusCode ≥ 400 then
      .error (.provider
        { type := .providerError
          message :=
            "The LLM provider rejected the request (status " ++ toString statusCode ++ ")."
          retryable := false })
    else json.result

/-- A finished run of the loop: the posts it made, how long it slept after each of them, and what
it returned or raised. -/
structure Run (α : Type) where
  posts : ℕ
  sleeps : List ℚ
  result : Except PostError α

def Run.finished (result : Except PostError α) : Run α := ⟨1, [], result⟩

def backoff (attempt : ℕ) : ℚ := 1 / 20 * (attempt + 1)

def Run.after (maxRetries attempt : ℕ) (run : Run α) : Run α where
  posts := run.posts + 1
  sleeps := if attempt < maxRetries then backoff attempt :: run.sleeps else run.sleeps
  result := run.result

def attempts (maxRetries : ℕ) (outcomes : ℕ → Transport α) : List ℕ → Option ProviderError → Run α
  | [], none => ⟨0, [], .error .assertionError⟩
  | [], some lastExc => ⟨0, [], .error (.provider lastExc)⟩
  | attempt :: rest, _ =>
    match post (outcomes attempt) with
    | .ok data => .finished (.ok data)
    | .error (.provider exc) =>
      if exc.type = .providerTimeoutError then
        (attempts maxRetries outcomes rest (some exc)).after maxRetries attempt
      else if ¬exc.retryable then .finished (.error (.provider exc))
      else (attempts maxRetries outcomes rest (some exc)).after maxRetries attempt
    | .error exception => .finished (.error exception)

def postWithRetries (maxRetries : ℕ) (outcomes : ℕ → Transport α) : Run α :=
  attempts maxRetries outcomes (List.range (maxRetries + 1)) none

namespace Transport

def Succeeds (outcome : Transport α) (data : α) : Prop :=
  ∃ statusCode < 400, outcome = .response statusCode (.data data)

/-- A failure after which another post may succeed. -/
inductive Retryable : Transport α → Prop
  | timeoutException : Retryable .timeoutException
  | httpError : Retryable .httpError
  | rateLimited (json : Decoded α) : Retryable (.response 429 json)
  | serverError {statusCode : ℕ} (h : 500 ≤ statusCode) (json : Decoded α) :
      Retryable (.response statusCode json)
  | undecodable {statusCode : ℕ} (h : statusCode < 400) :
      Retryable (.response statusCode .jsonDecodeError)

def Rejected (outcome : Transport α) : Prop :=
  ∃ statusCode json, outcome = .response statusCode json ∧ 400 ≤ statusCode ∧ statusCode < 500 ∧
    statusCode ≠ 429

end Transport

def Retried (result : Except PostError α) : Prop :=
  ∃ exc, result = .error (.provider exc) ∧
    (exc.type = .providerTimeoutError ∨ exc.retryable = true)

theorem post_of_succeeds {outcome : Transport α} {data : α} (h : outcome.Succeeds data) :
    post outcome = .ok data := by
  obtain ⟨statusCode, hstatus, rfl⟩ := h
  rw [post, if_neg (by omega), if_neg (by omega), if_neg (by omega), Decoded.result]

theorem succeeds_of_post {outcome : Transport α} {data : α} (h : post outcome = .ok data) :
    outcome.Succeeds data := by
  cases outcome with
  | timeoutException => cases h
  | httpError => cases h
  | raised exception => cases h
  | response statusCode json =>
    rw [post] at h
    split at h
    · cases h
    split at h
    · cases h
    split at h
    · cases h
    · rename_i hclient
      refine ⟨statusCode, by omega, ?_⟩
      cases json with
      | data value =>
        cases h
        rfl
      | jsonDecodeError => cases h
      | raised exception => cases h

theorem post_of_rejected {outcome : Transport α} (h : outcome.Rejected) :
    ∃ exc, post outcome = .error (.provider exc) ∧ exc.type = .providerError ∧
      exc.retryable = false := by
  obtain ⟨statusCode, json, rfl, hlow, hhigh, hne⟩ := h
  rw [post, if_neg hne, if_neg (by omega), if_pos hlow]
  exact ⟨_, rfl, rfl, rfl⟩

theorem retried_of_retryable {outcome : Transport α} (h : outcome.Retryable) :
    Retried (post outcome) := by
  cases h with
  | timeoutException => exact ⟨_, rfl, .inl rfl⟩
  | httpError => exact ⟨_, rfl, .inr rfl⟩
  | rateLimited json => exact ⟨_, rfl, .inr rfl⟩
  | @serverError statusCode h json =>
    by_cases hlimit : statusCode = 429
    · rw [post, if_pos hlimit]
      exact ⟨_, rfl, .inr rfl⟩
    · rw [post, if_neg hlimit, if_pos h]
      exact ⟨_, rfl, .inr rfl⟩
  | undecodable h =>
    rw [post, if_neg (by omega), if_neg (by omega), if_neg (by omega), Decoded.result]
    exact ⟨_, rfl, .inr rfl⟩

theorem retryable_of_retried {outcome : Transport α} (h : Retried (post outcome)) :
    outcome.Retryable := by
  obtain ⟨exc, hpost, hexc⟩ := h
  cases outcome with
  | timeoutException => exact .timeoutException
  | httpError => exact .httpError
  | raised exception =>
    rw [post] at hpost
    cases hpost
  | response statusCode json =>
    by_cases hlimit : statusCode = 429
    · subst hlimit
      exact .rateLimited json
    by_cases hserver : statusCode ≥ 500
    · exact .serverError hserver json
    rw [post, if_neg hlimit, if_neg hserver] at hpost
    by_cases hclient : statusCode ≥ 400
    · rw [if_pos hclient] at hpost
      cases hpost
      -- a rejection is neither a timeout nor marked as retryable
      rcases hexc with h | h
      · cases h
      · cases h
    · rw [if_neg hclient] at hpost
      cases json with
      | data data => cases hpost
      | jsonDecodeError => exact .undecodable (by omega)
      | raised exception => cases hpost

theorem retryable_iff {outcome : Transport α} : outcome.Retryable ↔ Retried (post outcome) :=
  ⟨retried_of_retryable, retryable_of_retried⟩

theorem not_retryable_of_succeeds {outcome : Transport α} {data : α}
    (h : outcome.Succeeds data) : ¬outcome.Retryable := by
  rw [retryable_iff, post_of_succeeds h]
  rintro ⟨exc, heq, -⟩
  cases heq

theorem not_retryable_of_rejected {outcome : Transport α} (h : outcome.Rejected) :
    ¬outcome.Retryable := by
  obtain ⟨exc, hpost, htype, hretryable⟩ := post_of_rejected h
  rw [retryable_iff, hpost]
  rintro ⟨exc, heq, hexc⟩
  cases heq
  rw [htype, hretryable] at hexc
  simp at hexc

section Loop

variable {maxRetries : ℕ} {outcomes : ℕ → Transport α}

theorem attempts_cons_of_retryable {attempt : ℕ} (h : (outcomes attempt).Retryable)
    (rest : List ℕ) (lastExc : Option ProviderError) :
    ∃ exc, post (outcomes attempt) = .error (.provider exc) ∧
      attempts maxRetries outcomes (attempt :: rest) lastExc =
        (attempts maxRetries outcomes rest (some exc)).after maxRetries attempt := by
  obtain ⟨exc, hpost, hexc⟩ := retryable_iff.mp h
  refine ⟨exc, hpost, ?_⟩
  rw [attempts, hpost]
  by_cases htype : exc.type = .providerTimeoutError
  · exact if_pos htype
  · have hretryable := hexc.resolve_left htype
    simp only [if_neg htype, hretryable, not_true_eq_false, if_false]

theorem attempts_cons_of_not_retryable {attempt : ℕ} (h : ¬(outcomes attempt).Retryable)
    (rest : List ℕ) (lastExc : Option ProviderError) :
    attempts maxRetries outcomes (attempt :: rest) lastExc =
      .finished (post (outcomes attempt)) := by
  rw [retryable_iff] at h
  rw [attempts]
  generalize post (outcomes attempt) = result at h
  match result with
  | .ok data => rfl
  | .error (.provider exc) =>
    have htype : exc.type ≠ .providerTimeoutError := fun h' ↦ h ⟨exc, rfl, .inl h'⟩
    have hretryable : ¬exc.retryable = true := fun h' ↦ h ⟨exc, rfl, .inr h'⟩
    simp only [if_neg htype, if_pos hretryable]
  | .error .assertionError => rfl
  | .error (.unhandled exception) => rfl

/-- What a run over these attempts has done: it stops with the first outcome that is not worth a
retry, or with the last attempt. -/
structure Ended (maxRetries : ℕ) (outcomes : ℕ → Transport α) (first count : ℕ) (run : Run α) :
    Prop where
  posts_pos : 0 < run.posts
  posts_le : run.posts ≤ count
  result_eq : run.result = post (outcomes (first + run.posts - 1))
  retryable : ∀ j, j + 1 < run.posts → (outcomes (first + j)).Retryable
  stopped : run.posts < count → ¬(outcomes (first + run.posts - 1)).Retryable
  sleeps_eq : first + count = maxRetries + 1 →
    run.sleeps = (List.range' first (run.posts - 1)).map backoff

theorem attempts_ended (first count : ℕ) (lastExc : Option ProviderError) :
    Ended maxRetries outcomes first (count + 1)
      (attempts maxRetries outcomes (List.range' first (count + 1)) lastExc) := by
  -- the loop is left at its first attempt, or goes on with one attempt less
  induction count generalizing first lastExc with
  | zero =>
    rw [List.range'_succ, List.range'_zero]
    by_cases h : (outcomes first).Retryable
    · obtain ⟨exc, hpost, heq⟩ := @attempts_cons_of_retryable _ maxRetries _ _ h [] lastExc
      rw [heq]
      refine ⟨Nat.one_pos, le_refl 1, ?_, fun j hj ↦ ?_, fun hlt ↦ ?_, fun hlast ↦ ?_⟩
      · exact hpost.symm
      · exact absurd hj (by simp [Run.after, attempts])
      · exact absurd hlt (lt_irrefl 1)
      · exact if_neg (by omega)
    · rw [attempts_cons_of_not_retryable h]
      refine ⟨Nat.one_pos, le_refl 1, rfl, fun j hj ↦ ?_, fun hlt ↦ h, fun _ ↦ rfl⟩
      exact absurd hj (by simp [Run.finished])
  | succ count ih =>
    rw [List.range'_succ]
    by_cases h : (outcomes first).Retryable
    · obtain ⟨exc, hpost, heq⟩ := @attempts_cons_of_retryable _ maxRetries _ _ h
        (List.range' (first + 1) (count + 1)) lastExc
      rw [heq]
      have hrest := ih (first + 1) (some exc)
      generalize attempts maxRetries outcomes (List.range' (first + 1) (count + 1)) (some exc) =
        run at hrest
      have hindex : first + (run.posts + 1) - 1 = first + 1 + run.posts - 1 := by omega
      refine ⟨Nat.succ_pos _, Nat.succ_le_succ hrest.posts_le, ?_, fun j hj ↦ ?_, fun hlt ↦ ?_,
        fun hlast ↦ ?_⟩
      · change run.result = post (outcomes (first + (run.posts + 1) - 1))
        rw [hindex]
        exact hrest.result_eq
      · cases j with
        | zero => exact h
        | succ j =>
          have hretryable := hrest.retryable j (Nat.lt_of_succ_lt_succ hj)
          rwa [Nat.add_right_comm] at hretryable
      · change ¬(outcomes (first + (run.posts + 1) - 1)).Retryable
        rw [hindex]
        exact hrest.stopped (Nat.lt_of_succ_lt_succ hlt)
      · have hsleeps := hrest.sleeps_eq (by omega)
        change (if first < maxRetries then backoff first :: run.sleeps else run.sleeps) =
          (List.range' first run.posts).map backoff
        rw [if_pos (by omega), hsleeps, ← Nat.sub_add_cancel hrest.posts_pos, List.range'_succ,
          Nat.add_sub_cancel, List.map_cons]
    · rw [attempts_cons_of_not_retryable h]
      refine ⟨Nat.one_pos, Nat.succ_pos _, rfl, fun j hj ↦ ?_, fun hlt ↦ h, fun _ ↦ rfl⟩
      exact absurd hj (by simp [Run.finished])

theorem postWithRetries_ended (maxRetries : ℕ) (outcomes : ℕ → Transport α) :
    Ended maxRetries outcomes 0 (maxRetries + 1) (postWithRetries maxRetries outcomes) := by
  rw [postWithRetries, List.range_eq_range']
  exact attempts_ended 0 maxRetries none

end Loop

/-- The loop sleeps between two posts only, a twentieth of a second longer each time. -/
theorem postWithRetries_sleeps (maxRetries : ℕ) (outcomes : ℕ → Transport α) :
    (postWithRetries maxRetries outcomes).sleeps =
      (List.range ((postWithRetries maxRetries outcomes).posts - 1)).map backoff := by
  rw [List.range_eq_range']
  exact (postWithRetries_ended maxRetries outcomes).sleeps_eq (Nat.zero_add _)

/-- What a bounded sequence of posts comes to. -/
structure BoundedRetries (maxRetries : ℕ) (outcomes : ℕ → Transport α) (run : Run α) : Prop where
  bounded : run.posts ≤ maxRetries + 1
  succeeds : ∀ k ≤ maxRetries, ∀ data, (outcomes k).Succeeds data →
    (∀ j < k, (outcomes j).Retryable) → run.result = .ok data ∧ run.posts = k + 1
  rejected : ∀ k ≤ maxRetries, (outcomes k).Rejected → (∀ j < k, (outcomes j).Retryable) →
    ∃ exc, post (outcomes k) = .error (.provider exc) ∧ exc.retryable = false ∧
      run.result = .error (.provider exc) ∧ run.posts = k + 1
  otherwise : (∀ k ≤ maxRetries, ∀ data, (outcomes k).Succeeds data →
      ∃ j < k, ¬(outcomes j).Retryable) →
    ∃ exc, run.result = .error exc ∧ 0 < run.posts ∧ post (outcomes (run.posts - 1)) = .error exc
  not_after_success : ∀ k data, (outcomes k).Succeeds data → run.posts ≤ k + 1

theorem Ended.posts_eq {maxRetries : ℕ} {outcomes : ℕ → Transport α}
    {count k : ℕ} {run : Run α} (h : Ended maxRetries outcomes 0 count run) (hk : k < count)
    (hretryable : ∀ j < k, (outcomes j).Retryable) (hstop : ¬(outcomes k).Retryable) : run.posts = k + 1 := by
  have hpos := h.posts_pos
  have hle : run.posts ≤ k + 1 := by
    by_contra hlt
    have hk' := h.retryable k (by omega)
    rw [Nat.zero_add] at hk'
    exact hstop hk'
  have hge : k + 1 ≤ run.posts := by
    by_contra hlt
    have hlast := h.stopped (by omega)
    rw [Nat.zero_add] at hlast
    exact hlast (hretryable _ (by omega))
  omega

theorem Ended.result_of_posts {maxRetries : ℕ} {outcomes : ℕ → Transport α}
    {count k : ℕ} {run : Run α} (h : Ended maxRetries outcomes 0 count run)
    (hposts : run.posts = k + 1) : run.result = post (outcomes k) := by
  have heq := h.result_eq
  rwa [hposts, Nat.zero_add, Nat.add_sub_cancel] at heq

theorem postWithRetries_bounded (maxRetries : ℕ) (outcomes : ℕ → Transport α) :
    BoundedRetries maxRetries outcomes (postWithRetries maxRetries outcomes) := by
  have hended := postWithRetries_ended maxRetries outcomes
  generalize postWithRetries maxRetries outcomes = run at hended
  refine ⟨hended.posts_le, fun k hk data hdata hbefore ↦ ?_, fun k hk hrejected hbefore ↦ ?_,
    fun hnone ↦ ?_, fun k data hdata ↦ ?_⟩
  · have hposts := hended.posts_eq (Nat.lt_succ_of_le hk) hbefore
      (not_retryable_of_succeeds hdata)
    exact ⟨(hended.result_of_posts hposts).trans (post_of_succeeds hdata), hposts⟩
  · have hposts := hended.posts_eq (Nat.lt_succ_of_le hk) hbefore
      (not_retryable_of_rejected hrejected)
    obtain ⟨exc, hpost, -, hexc⟩ := post_of_rejected hrejected
    exact ⟨exc, hpost, hexc, (hended.result_of_posts hposts).trans hpost, hposts⟩
  · obtain ⟨k, hposts⟩ := Nat.exists_eq_succ_of_ne_zero hended.posts_pos.ne'
    have hresult := hended.result_of_posts hposts
    have hk : k ≤ maxRetries := by
      have hle := hended.posts_le
      omega
    -- the last post brought no data: every post before it was worth a retry
    match hpost : post (outcomes k) with
    | .ok data =>
      obtain ⟨j, hj, hstop⟩ := hnone k hk data (succeeds_of_post hpost)
      have hretryable := hended.retryable j (by omega)
      rw [Nat.zero_add] at hretryable
      exact absurd hretryable hstop
    | .error exc =>
      refine ⟨exc, hresult.trans hpost, hended.posts_pos, ?_⟩
      rw [hposts, Nat.succ_sub_one]
      exact hpost
  · by_contra hlt
    have hretryable := hended.retryable k (by omega)
    rw [Nat.zero_add] at hretryable
    exact not_retryable_of_succeeds hdata hretryable

end TextToSql.Llm.OpenaiAdapter
