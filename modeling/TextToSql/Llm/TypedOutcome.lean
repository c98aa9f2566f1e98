import Mathlib.Tactic.NormNum
import TextToSql.Llm.ParseResponse

namespace TextToSql.Llm.OpenaiAdapter

open Domain Library

variable {conv : Conversions}

/-- `int` converts the value. -/
inductive IntConvertible (conv : Conversions) : JsonValue → Prop
  | bool (b : Bool) : IntConvertible conv (.bool b)
  | int (n : ℤ) : IntConvertible conv (.int n)
  | float (q : ℚ) : IntConvertible conv (.float (.finite q))
  | str {s : String} {n : ℤ} (h : conv.intOfString s = some n) : IntConvertible conv (.str s)

inductive Iterable : JsonValue → Prop
  | str (s : String) : Iterable (.str s)
  | arr (items : List JsonValue) : Iterable (.arr items)
  | obj (entries : List (String × JsonValue)) : Iterable (.obj entries)

def ConfidenceFits (value : JsonValue) : Prop :=
  ∀ n, value = .int n → ∃ q, binary64 n = .finite q

def UsageFits (conv : Conversions) (data : JsonValue) : Prop :=
  ∀ usage, item "usage" data = some usage → truthy usage = true → ∃ entries, usage = .obj entries ∧
    ∀ key ∈ ["prompt_tokens", "completion_tokens"], truthy (getOr key (.int 0) entries) = true →
      IntConvertible conv (getOr key (.int 0) entries)

theorem toInt_isOk {value : JsonValue} :
    (∃ n, toInt conv value = .ok n) ↔ IntConvertible conv value := by
  constructor
  · rintro ⟨n, h⟩
    cases value with
    | null => cases h
    | bool b => exact .bool b
    | int m => exact .int m
    | float x =>
      cases x with
      | finite q => exact .float q
      | nan => cases h
      | negInf => cases h
      | posInf => cases h
    | str s =>
      cases hs : conv.intOfString s with
      | none =>
        rw [toInt, hs] at h
        cases h
      | some m => exact .str hs
    | arr items => cases h
    | obj entries => cases h
  · intro h
    cases h with
    | bool b => exact ⟨_, rfl⟩
    | int n => exact ⟨_, rfl⟩
    | float q => exact ⟨_, rfl⟩
    | str h => exact ⟨_, by rw [toInt, h]⟩

theorem tokenCount_isOk {key : String} {usage : List (String × JsonValue)} :
    (∃ n, tokenCount conv key usage = .ok n) ↔ (truthy (getOr key (.int 0) usage) = true →
      IntConvertible conv (getOr key (.int 0) usage)) := by
  rw [tokenCount]
  by_cases htruthy : truthy (getOr key (.int 0) usage) = true
  · simp only [htruthy, if_true, forall_const]
    exact toInt_isOk
  · simp [htruthy]

theorem tokenUsage_isOk {data : JsonValue} :
    (∃ usage, tokenUsage conv data = .ok usage) ↔ UsageFits conv data := by
  rw [tokenUsage, UsageFits]
  cases hitem : item "usage" data with
  | none => simp
  | some usage =>
    by_cases htruthy : truthy usage = true
    · rw [Option.filter_some_pos htruthy]
      cases usage with
      | obj entries =>
        simp only [Option.some.injEq, forall_eq', htruthy, forall_const, JsonValue.obj.injEq,
          exists_eq_left', List.forall_mem_cons]
        rw [← tokenCount_isOk, ← tokenCount_isOk]
        cases tokenCount conv "prompt_tokens" entries with
        | error error => simp
        | ok promptTokens =>
          cases tokenCount conv "completion_tokens" entries with
          | error error => simp
          | ok completionTokens => simp
      | null => simp [htruthy]
      | bool b => simp [htruthy]
      | int n => simp [htruthy]
      | float x => simp [htruthy]
      | str s => simp [htruthy]
      | arr items => simp [htruthy]
    · rw [Option.filter_some_neg (Bool.eq_false_of_not_eq_true htruthy)]
      simp [htruthy]

theorem toTexts_isOk {value : JsonValue} :
    (∃ texts, toTexts conv value = .ok texts) ↔ (truthy value = true → Iterable value) := by
  unfold toTexts
  by_cases htruthy : truthy value = true
  · simp only [htruthy, Bool.not_true, Bool.false_eq_true, if_false, forall_const]
    constructor
    · rintro ⟨texts, h⟩
      cases value with
      | str s => exact .str s
      | arr items => exact .arr items
      | obj entries => exact .obj entries
      | null => cases h
      | bool b => cases h
      | int n => cases h
      | float x => cases h
    · intro h
      cases h with
      | str s => exact ⟨_, rfl⟩
      | arr items => exact ⟨_, rfl⟩
      | obj entries => exact ⟨_, rfl⟩
  · simp [htruthy]

theorem coerceConfidence_isOk {value : JsonValue} :
    (∃ conf, coerceConfidence conv value = .ok conf) ↔ ConfidenceFits value := by
  rw [coerceConfidence, ConfidenceFits]
  cases value with
  | null => simp [toFloat]
  | bool b => simp [toFloat]
  | int n =>
    simp only [JsonValue.int.injEq, forall_eq', toFloat, floatOfInt]
    cases binary64 n with
    | finite q => simp
    | nan => simp
    | negInf => simp
    | posInf => simp
  | float x => simp [toFloat]
  | str s =>
    rw [toFloat]
    cases conv.floatOfString s with
    | none => simp
    | some x => simp
  | arr items => simp [toFloat]
  | obj entries => simp [toFloat]

theorem clamp_bounds (conf : PyFloat) : ∃ q, clamp conf = .finite q ∧ 0 ≤ q ∧ q ≤ 1 := by
  have hone : (PyFloat.finite 0).lt (.finite 1) = true := by decide +kernel
  rw [clamp]
  by_cases hlt : conf.lt (.finite 1) = true
  · simp only [hlt, if_true]
    by_cases hpos : (PyFloat.finite 0).lt conf = true
    · rw [if_pos hpos]
      cases conf with
      | finite q =>
        simp only [PyFloat.lt, PyFloat.le, Bool.and_eq_true, decide_eq_true_eq] at hlt hpos
        exact ⟨q, rfl, hpos.1, hlt.1⟩
      | nan => cases hlt
      | negInf => cases hpos
      | posInf => cases hlt
    · rw [if_neg hpos]
      exact ⟨0, rfl, le_refl 0, zero_le_one⟩
  · simp only [hlt, if_false, hone, if_true, Bool.false_eq_true]
    exact ⟨1, rfl, zero_le_one, le_refl 1⟩

theorem coerceConfidence_bounds {value : JsonValue} {conf : PyFloat}
    (h : coerceConfidence conv value = .ok conf) : ∃ q, conf = .finite q ∧ 0 ≤ q ∧ q ≤ 1 := by
  rw [coerceConfidence] at h
  split at h
  · cases h
    exact clamp_bounds _
  · cases h
    exact ⟨1 / 2, rfl, by norm_num, by norm_num⟩
  · cases h
    exact ⟨1 / 2, rfl, by norm_num, by norm_num⟩
  · cases h

/-- The object that the message decodes to has values that can be converted. -/
structure ObjectFits (entries : List (String × JsonValue)) : Prop where
  texts : ∀ key ∈ ["referenced_tables", "referenced_columns", "assumptions"],
    truthy (getOr key (.arr []) entries) = true → Iterable (getOr key (.arr []) entries)
  confidence : ConfidenceFits (getOr "confidence" .null entries)

theorem buildResponse_isOk {context : ResponseContext} {data : JsonValue}
    {entries : List (String × JsonValue)} {sql : String} :
    (∃ response, buildResponse conv context data entries sql = .ok response) ↔
      UsageFits conv data ∧ ObjectFits entries := by
  have htexts := @toTexts_isOk conv
  have hobject : ObjectFits entries ↔
      (∃ texts, toTexts conv (getOr "referenced_tables" (.arr []) entries) = .ok texts) ∧
      (∃ texts, toTexts conv (getOr "referenced_columns" (.arr []) entries) = .ok texts) ∧
      (∃ texts, toTexts conv (getOr "assumptions" (.arr []) entries) = .ok texts) ∧
      ∃ conf, coerceConfidence conv (getOr "confidence" .null entries) = .ok conf := by
    rw [htexts, htexts, htexts, coerceConfidence_isOk]
    constructor
    · intro h
      exact ⟨h.texts _ (by simp), h.texts _ (by simp), h.texts _ (by simp), h.confidence⟩
    · rintro ⟨htables, hcolumns, hassumptions, hconfidence⟩
      refine ⟨fun key hkey ↦ ?_, hconfidence⟩
      simp only [List.mem_cons, List.not_mem_nil, or_false] at hkey
      rcases hkey with rfl | rfl | rfl
      · exact htables
      · exact hcolumns
      · exact hassumptions
  rw [hobject, ← tokenUsage_isOk, buildResponse]
  constructor
  · rintro ⟨response, h⟩
    simp only [bind, Except.bind] at h
    split at h
    · cases h
    split at h
    · cases h
    split at h
    · cases h
    split at h
    · cases h
    split at h
    · cases h
    rename_i husage _ _ htables _ _ hcolumns _ _ hassumptions _ _ hconfidence
    exact ⟨⟨_, husage⟩, ⟨_, htables⟩, ⟨_, hcolumns⟩, ⟨_, hassumptions⟩, ⟨_, hconfidence⟩⟩
  · rintro ⟨⟨usage, husage⟩, ⟨tables, htables⟩, ⟨columns, hcolumns⟩, ⟨assumptions, hassumptions⟩,
      conf, hconfidence⟩
    rw [husage, htables, hcolumns, hassumptions, hconfidence]
    exact ⟨_, rfl⟩

theorem buildResponse_fields {context : ResponseContext} {data : JsonValue}
    {entries : List (String × JsonValue)} {sql : String} {response : GenerationResponse}
    (h : buildResponse conv context data entries sql = .ok response) :
    response.sql = strip sql ∧ ∃ q, response.confidence = .finite q ∧ 0 ≤ q ∧ q ≤ 1 := by
  rw [buildResponse] at h
  simp only [bind, Except.bind] at h
  split at h
  · cases h
  split at h
  · cases h
  split at h
  · cases h
  split at h
  · cases h
  split at h
  · cases h
  rename_i hconfidence
  cases h
  exact ⟨rfl, coerceConfidence_bounds hconfidence⟩

/-- The message decodes to this object, which has this `sql` string. -/
structure Message (conv : Conversions) (data : JsonValue) (entries : List (String × JsonValue))
    (sql : String) : Prop where
  decoded : ∃ content, messageContent data = some (.str content) ∧
    conv.loads content = .data (.obj entries)
  sql_eq : Dictionary.find "sql" entries = some (.str sql)

/-- A content that is there is a string, and its decoding fails in no other way than with a
`JSONDecodeError`. -/
def ContentFits (conv : Conversions) (data : JsonValue) : Prop :=
  ∀ content, messageContent data = some content →
    ∃ text, content = .str text ∧ ∀ exception, conv.loads text ≠ .raised exception

theorem sqlObject_eq_some {value : JsonValue} {entries : List (String × JsonValue)} {sql : String} :
    sqlObject value = some (entries, sql) ↔
      value = .obj entries ∧ Dictionary.find "sql" entries = some (.str sql) := by
  constructor
  · intro h
    unfold sqlObject at h
    split at h
    · split at h
      · rename_i hfind
        cases h
        exact ⟨rfl, hfind⟩
      · cases h
    · cases h
  · rintro ⟨rfl, hfind⟩
    rw [sqlObject, hfind]

theorem decodeMessage_cases (conv : Conversions) (data : JsonValue) :
    (∃ message, decodeMessage conv data = .error (.providerOutputError message) ∧
        ContentFits conv data ∧ ∀ entries sql, ¬Message conv data entries sql) ∨
      (∃ error, decodeMessage conv data = .error (.builtin error) ∧ ¬ContentFits conv data) ∨
      ∃ entries sql, decodeMessage conv data = .ok (entries, sql) ∧ ContentFits conv data ∧
        Message conv data entries sql := by
  have hmessage {content entries sql} (hcontent : messageContent data = some (.str content))
      (h : Message conv data entries sql) : conv.loads content = .data (.obj entries) := by
    obtain ⟨content', hcontent', hloads⟩ := h.decoded
    rw [hcontent] at hcontent'
    cases hcontent'
    exact hloads
  have hfits {content} (hcontent : messageContent data = some (.str content))
      (hloads : ∀ exception, conv.loads content ≠ .raised exception) : ContentFits conv data := by
    intro content' h
    rw [hcontent] at h
    cases h
    exact ⟨content, rfl, hloads⟩
  have hother {value} (hvalue : messageContent data = some value) (hno : ∀ s, value ≠ .str s) :
      ¬ContentFits conv data := by
    intro h
    obtain ⟨text, rfl, -⟩ := h value hvalue
    exact hno text rfl
  unfold decodeMessage
  cases hcontent : messageContent data with
  | none =>
    refine .inl ⟨_, rfl, fun content h ↦ ?_, fun entries sql h ↦ ?_⟩
    · rw [hcontent] at h
      cases h
    · obtain ⟨content, h, -⟩ := h.decoded
      rw [hcontent] at h
      cases h
  | some value =>
    cases value with
    | str content =>
      dsimp only
      cases hloads : conv.loads content with
      | jsonDecodeError =>
        refine .inl ⟨_, rfl, hfits hcontent (by simp [hloads]), fun entries sql h ↦ ?_⟩
        rw [hmessage hcontent h] at hloads
        cases hloads
      | raised exception =>
        refine .inr (.inl ⟨_, rfl, fun h ↦ ?_⟩)
        obtain ⟨text, htext, hno⟩ := h _ hcontent
        cases htext
        exact hno exception hloads
      | data value =>
        have hcontentFits := hfits hcontent (by simp [hloads])
        dsimp only
        cases hsql : sqlObject value with
        | none =>
          refine .inl ⟨_, rfl, hcontentFits, fun entries sql h ↦ ?_⟩
          rw [hmessage hcontent h] at hloads
          cases hloads
          rw [sqlObject_eq_some.mpr ⟨rfl, h.sql_eq⟩] at hsql
          cases hsql
        | some message =>
          obtain ⟨entries, sql⟩ := message
          obtain ⟨rfl, hfind⟩ := sqlObject_eq_some.mp hsql
          exact .inr (.inr ⟨entries, sql, rfl, hcontentFits, ⟨content, hcontent, hloads⟩, hfind⟩)
    | null => exact .inr (.inl ⟨_, rfl, hother hcontent (by simp)⟩)
    | bool b => exact .inr (.inl ⟨_, rfl, hother hcontent (by simp)⟩)
    | int n => exact .inr (.inl ⟨_, rfl, hother hcontent (by simp)⟩)
    | float x => exact .inr (.inl ⟨_, rfl, hother hcontent (by simp)⟩)
    | arr items => exact .inr (.inl ⟨_, rfl, hother hcontent (by simp)⟩)
    | obj entries => exact .inr (.inl ⟨_, rfl, hother hcontent (by simp)⟩)

/-- A response with the stripped `sql` string and a confidence in bounds is returned, or a
`ProviderOutputError` is raised. -/
def TypedOutcome (conv : Conversions) (context : ResponseContext) (data : JsonValue) : Prop :=
  (∃ message, parseResponse conv context data = .error (.providerOutputError message)) ∨
    ∃ response entries sql, parseResponse conv context data = .ok response ∧
      Message conv data entries sql ∧ response.sql = strip sql ∧
        ∃ q, response.confidence = .finite q ∧ 0 ≤ q ∧ q ≤ 1

theorem Message.unique {data : JsonValue} {entries entries' : List (String × JsonValue)}
    {sql sql' : String} (h : Message conv data entries sql) (h' : Message conv data entries' sql') :
    entries = entries' := by
  obtain ⟨content, hcontent, hloads⟩ := h.decoded
  obtain ⟨content', hcontent', hloads'⟩ := h'.decoded
  rw [hcontent] at hcontent'
  cases hcontent'
  rw [hloads] at hloads'
  cases hloads'
  rfl

theorem typedOutcome_iff (conv : Conversions) (context : ResponseContext) (data : JsonValue) :
    TypedOutcome conv context data ↔ ContentFits conv data ∧
      ∀ entries sql, Message conv data entries sql → UsageFits conv data ∧ ObjectFits entries := by
  unfold TypedOutcome parseResponse
  rcases decodeMessage_cases conv data with
    ⟨message, hdecode, hcontent, hnone⟩ | ⟨error, hdecode, hcontent⟩ |
      ⟨entries, sql, hdecode, hcontent, hmessage⟩
  · rw [hdecode]
    refine iff_of_true (.inl ⟨message, rfl⟩) ⟨hcontent, fun entries sql h ↦ ?_⟩
    exact absurd h (hnone entries sql)
  · rw [hdecode]
    refine iff_of_false ?_ fun h ↦ hcontent h.1
    rintro (⟨message, h⟩ | ⟨response, entries, sql, h, -⟩)
    · cases h
    · cases h
  · rw [hdecode]
    dsimp only
    have hbuild := @buildResponse_isOk conv context data entries sql
    constructor
    · intro h
      refine ⟨hcontent, fun entries' sql' hmessage' ↦ ?_⟩
      cases hmessage.unique hmessage'
      rw [← hbuild]
      cases hresponse : buildResponse conv context data entries sql with
      | ok response => exact ⟨response, rfl⟩
      | error error =>
        rw [hresponse] at h
        rcases h with ⟨message, h⟩ | ⟨response, entries, sql, h, -⟩
        · cases h
        · cases h
    · intro h
      obtain ⟨response, hresponse⟩ := hbuild.mpr (h.2 entries sql hmessage)
      rw [hresponse]
      obtain ⟨hsql, hconfidence⟩ := buildResponse_fields hresponse
      exact .inr ⟨response, entries, sql, rfl, hmessage, hsql, hconfidence⟩

def idleConversions : Conversions where
  py := .ascii
  loads _ := .jsonDecodeError
  intOfString _ := none
  floatOfString _ := none
  strOfFloat _ := ""
  repr _ := ""

def nullContent : JsonValue :=
  .obj [("choices", .arr [.obj [("message", .obj [("content", .null)])]])]

theorem null_content_untyped : ¬TypedOutcome idleConversions
    { dialect := .sqlite, promptVersion := "v1", providerName := "openai", model := "gpt-x" }
    nullContent := by
  have hparse : parseResponse idleConversions
      { dialect := .sqlite, promptVersion := "v1", providerName := "openai", model := "gpt-x" }
      nullContent = .error (.builtin .typeError) := rfl
  rintro (⟨message, h⟩ | ⟨response, entries, sql, h, -⟩)
  · rw [hparse] at h
    cases h
  · rw [hparse] at h
    cases h

end TextToSql.Llm.OpenaiAdapter
