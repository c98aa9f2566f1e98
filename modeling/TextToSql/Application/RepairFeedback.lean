import TextToSql.Application.Container
import TextToSql.Application.PromptAssembly

namespace TextToSql.Application

open Domain Sql Execution Infrastructure Llm

namespace Orchestrator

variable {γ : Type} (o : Orchestrator γ) (request : QueryRequest) (auth : AuthContext)

def attempts : List (Round γ) := (o.generateWithRepair request auth [] none 0 o.maxRepairAttempts).1

variable {o request auth}

theorem context_of_mem_generateWithRepair {sent : List (GenerationRequest γ)}
    {repair : Option RepairContext} {attempts remaining : Nat} {r : Round γ}
    (h : r ∈ (o.generateWithRepair request auth sent repair attempts remaining).1) :
    r.request.context =
      o.assemble request (o.dialect request) (o.effectiveMaxRows request) o.schema := by
  induction remaining generalizing sent repair attempts with
  | zero => rw [List.mem_singleton.mp h]; rfl
  | succ remaining ih =>
    rw [generateWithRepair] at h
    split at h
    · rw [List.mem_singleton.mp h]; rfl
    · split at h
      · rcases List.mem_cons.mp h with rfl | h
        · rfl
        · exact ih h
      · rw [List.mem_singleton.mp h]; rfl

end Orchestrator

section

variable {γ : Type} (o : Orchestrator γ) (assembly : Assembly)
  (provider : OpenAICompatibleProvider) (request : QueryRequest) (auth : AuthContext)

def chatAttempts : List (Round GenerationContext) :=
  (o.chatting assembly provider).attempts request auth

def Posted (r : Round GenerationContext) (text : String) : Prop :=
  ∃ m ∈ (provider.body r.request).messages, text.toList <:+: m.content.toList

/-- The feedback of each attempt reaches the provider on the next one. -/
structure FeedbackReaches : Prop where
  hints : ∀ k r next, (chatAttempts o assembly provider request auth)[k]? = some r →
    (chatAttempts o assembly provider request auth)[k + 1]? = some next →
    ∀ hint ∈ sanitizedFeedback r.secured.issues,
      Posted provider next (sanitizeUntrusted hint false)
  question : ∀ k r, (chatAttempts o assembly provider request auth)[k + 1]? = some r →
    Posted provider r (sanitizeUntrusted request.question true)
  first : ∀ r, (chatAttempts o assembly provider request auth)[0]? = some r →
    ∃ ctx, r.request.context.prompt = PromptBuilder.build assembly.py ctx ∧
      feedbackHeader ∉ PromptBuilder.headers ctx

def loopContext : PromptContext :=
  assembly.promptContext request (o.dialect request) (o.effectiveMaxRows request) o.schema

def HintsInPrompt : Prop :=
  ∀ k r, (chatAttempts o assembly provider request auth)[k]? = some r →
    k + 1 < (chatAttempts o assembly provider request auth).length →
    ∀ hint ∈ sanitizedFeedback r.secured.issues,
      (sanitizeUntrusted hint false).toList <:+:
          (PromptBuilder.systemPrompt assembly.py (o.dialect request)
            (o.effectiveMaxRows request)).toList ∨
        (sanitizeUntrusted hint false).toList <:+:
          (PromptBuilder.userPrompt (loopContext o assembly request)).toList

variable {o assembly provider request auth}

theorem prompt_of_mem {r : Round GenerationContext}
    (h : r ∈ chatAttempts o assembly provider request auth) :
    r.request.context.prompt =
      PromptBuilder.build assembly.py (loopContext o assembly request) := by
  rw [Orchestrator.context_of_mem_generateWithRepair h]
  rfl

theorem posted_iff {r : Round GenerationContext}
    (h : r ∈ chatAttempts o assembly provider request auth) (text : String) :
    Posted provider r text ↔
      text.toList <:+: (PromptBuilder.systemPrompt assembly.py (o.dialect request)
          (o.effectiveMaxRows request)).toList ∨
        text.toList <:+: (PromptBuilder.userPrompt (loopContext o assembly request)).toList := by
  rw [Posted, OpenAICompatibleProvider.body, prompt_of_mem h]
  simp [PromptBuilder.build, loopContext, Assembly.promptContext]

theorem part_infix {parts : List String} {part : String} (h : part ∈ parts) :
    part.toList <:+: (String.intercalate "\n" parts).toList := by
  induction parts with
  | nil => cases h
  | cons first parts ih =>
    cases parts with
    | nil =>
      obtain rfl := List.mem_singleton.mp h
      simp
    | cons second parts =>
      rw [String.intercalate_cons_cons, String.toList_append, String.toList_append]
      rcases List.mem_cons.mp h with rfl | h
      · exact ⟨[], _, by rw [List.nil_append, List.append_assoc]⟩
      · exact (ih h).trans (List.suffix_append _ _).isInfix

theorem question_posted {r : Round GenerationContext}
    (h : r ∈ chatAttempts o assembly provider request auth) :
    Posted provider r (sanitizeUntrusted request.question true) := by
  rw [posted_iff h]
  right
  apply part_infix
  simp [PromptBuilder.userParts, loopContext, Assembly.promptContext]

/-- The feedback reaches the provider exactly when it is not needed there. -/
theorem feedbackReaches_iff (o : Orchestrator γ) (assembly : Assembly)
    (provider : OpenAICompatibleProvider) (request : QueryRequest) (auth : AuthContext) :
    FeedbackReaches o assembly provider request auth ↔
      HintsInPrompt o assembly provider request auth := by
  constructor
  · intro hreach k r hr hlt hint hmem
    obtain ⟨next, hnext⟩ : ∃ next,
        (chatAttempts o assembly provider request auth)[k + 1]? = some next :=
      ⟨_, List.getElem?_eq_getElem hlt⟩
    exact (posted_iff (List.mem_of_getElem? hnext) _).mp (hreach.hints k r next hr hnext hint hmem)
  · intro hprompt
    refine ⟨?_, ?_, ?_⟩
    · intro k r next hr hnext hint hmem
      have hlt := (List.getElem?_eq_some_iff.mp hnext).1
      exact (posted_iff (List.mem_of_getElem? hnext) _).mpr (hprompt k r hr hlt hint hmem)
    · intro k r hr
      exact question_posted (List.mem_of_getElem? hr)
    · intro r hr
      exact ⟨loopContext o assembly request, prompt_of_mem (List.mem_of_getElem? hr),
        PromptBuilder.feedbackHeader_not_mem rfl⟩

end

def misreading : Sqlglot where
  parse _ _ := .error "Invalid expression / Unexpected token. Line 1, Col: 8."
  sql _ _ := ""

def bareDeployment : Orchestrator Unit :=
  create defaultSettings .ascii misreading { usersAndOrders with tables := [] }
    ⟨.sqlite, fun _ _ ↦ .ok ⟨[], []⟩⟩ (fun _ ↦ none) (fun _ ↦ { sql := "" })

def misspelling : OpenAICompatibleProvider where
  model := "gpt"
  endpoint _ := { sql := "SELEC id FROM orders" }

def orderIdsRequest : QueryRequest where
  question := "order ids"
  question_length := by decide
  maxRows_bounds := QueryRequest.bounds_of_none

def bareAttempts : List (Round GenerationContext) :=
  chatAttempts bareDeployment wholeSchema misspelling orderIdsRequest ⟨"u1", "1", []⟩

def parseHint : String :=
  "sql_parse_failed: Invalid expression / Unexpected token. Line 1, Col: 8."

theorem feedback_bareAttempts :
    bareAttempts.map (fun r ↦ sanitizedFeedback r.secured.issues) =
      List.replicate 3 [parseHint] := by
  decide +kernel

section Characters

variable {x : Char}

theorem not_mem_append {s t : String} (hs : x ∉ s.toList) (ht : x ∉ t.toList) :
    x ∉ (s ++ t).toList := by
  rw [String.toList_append, List.mem_append, not_or]
  exact ⟨hs, ht⟩

theorem not_mem_intercalate {sep : String} {parts : List String} (hsep : x ∉ sep.toList)
    (h : ∀ part ∈ parts, x ∉ part.toList) : x ∉ (String.intercalate sep parts).toList := by
  induction parts with
  | nil => simp
  | cons first parts ih =>
    have hparts : ∀ part ∈ parts, x ∉ part.toList := by
      intro part hpart
      exact h part (List.mem_cons_of_mem _ hpart)
    cases parts with
    | nil => simpa using h first
    | cons second parts =>
      rw [String.intercalate_cons_cons]
      exact not_mem_append (not_mem_append (h first List.mem_cons_self) hsep) (ih hparts)

theorem eight_not_mem_securityPolicy : '8' ∉ securityPolicy.toList := by
  unfold securityPolicy
  iterate 12 refine not_mem_append ?_ (by decide +kernel)
  decide +kernel

theorem eight_not_mem_systemPrompt :
    '8' ∉ (PromptBuilder.systemPrompt .ascii .sqlite 1000).toList := by
  unfold PromptBuilder.systemPrompt
  iterate 6 refine not_mem_append ?_ (by decide +kernel)
  refine not_mem_append ?_ eight_not_mem_securityPolicy
  iterate 4 refine not_mem_append ?_ (by decide +kernel)
  decide +kernel

theorem eight_not_mem_semanticText :
    '8' ∉ (PromptBuilder.renderSemanticContext .ascii {} []).toList := by
  apply not_mem_intercalate (by decide +kernel)
  intro line hline
  change line ∈ [_, _, _] at hline
  simp only [List.mem_cons, List.not_mem_nil, or_false] at hline
  rcases hline with rfl | rfl | rfl
  · decide +kernel
  · decide +kernel
  · refine not_mem_append (by decide +kernel) ?_
    iterate 3 refine not_mem_append ?_ (by decide +kernel)
    decide +kernel

theorem eight_not_mem_userPrompt :
    '8' ∉ (PromptBuilder.userPrompt
      (loopContext bareDeployment wholeSchema orderIdsRequest)).toList := by
  apply not_mem_intercalate (by decide +kernel)
  intro part hpart
  change part ∈ [_, _, _, _, _, _, _, _, _, _] at hpart
  simp only [List.mem_cons, List.not_mem_nil, or_false] at hpart
  rcases hpart with rfl | rfl | rfl | rfl | rfl | rfl | rfl | rfl | rfl | rfl
  · decide +kernel
  · decide +kernel
  · decide +kernel
  · decide +kernel
  · exact eight_not_mem_semanticText
  · decide +kernel
  · decide +kernel
  · decide +kernel
  · decide +kernel
  · exact not_mem_append (by decide +kernel) (by decide +kernel)

end Characters

/-- The hint of the first attempt stands in no message of the second one. -/
theorem feedback_lost :
    ¬FeedbackReaches bareDeployment wholeSchema misspelling orderIdsRequest ⟨"u1", "1", []⟩ := by
  rw [feedbackReaches_iff]
  intro hprompt
  have hlength : bareAttempts.length = 3 := by
    simpa using congrArg List.length feedback_bareAttempts
  obtain ⟨r, hr⟩ : ∃ r, bareAttempts[0]? = some r := ⟨_, List.getElem?_eq_getElem (by omega)⟩
  have hhints : sanitizedFeedback r.secured.issues = [parseHint] := by
    have hget := congrArg (·[0]?) feedback_bareAttempts
    simpa [hr] using hget
  have height : '8' ∈ (sanitizeUntrusted parseHint false).toList := by decide +kernel
  have hlt : 0 + 1 < bareAttempts.length := by omega
  rcases hprompt 0 r hr hlt parseHint (hhints ▸ List.mem_singleton_self _) with hin | hin
  · exact eight_not_mem_systemPrompt (hin.subset height)
  · exact eight_not_mem_userPrompt (hin.subset height)

end TextToSql.Application
