import Mathlib.Data.Set.Operations
import TextToSql.Observability.Logging

namespace TextToSql.Observability

open Domain Library

def reservedKeys : List String := ["level", "logger", "event", "correlation_id"]

def exceptionKeys : List String := ["error_type", "error_message"]

namespace LogCall

variable (redactText : String → String)

/-- The field is part of the line. -/
def Shows (call : LogCall) (key : String) : Prop :=
  key ∉ reservedKeys ∧ (call.excInfo.isSome = true → key ∉ exceptionKeys)

def ownKeys (call : LogCall) : List String :=
  ["level", "logger", "correlation_id"] ++ if call.excInfo.isSome then ["error_type"] else []

/-- The strings of the line that come from the caller are redacted, and the reserved keys have their
own values. -/
structure Redacted (call : LogCall) (line : List (String × JsonValue)) : Prop where
  strings : ∀ entry ∈ line, entry.1 ∉ call.ownKeys → ∀ s ∈ entry.2.strings, s ∈ Set.range redactText
  level : (Dictionary.find "level" line).map JsonValue.strings = some [call.levelName]
  logger : (Dictionary.find "logger" line).map JsonValue.strings = some [call.logger]
  event : (Dictionary.find "event" line).map JsonValue.strings = some [redactText call.event]
  correlation_id :
    (Dictionary.find "correlation_id" line).map JsonValue.strings = some [call.correlationId]

end LogCall

/-- The strings that are written as they are: those inside of a field, and what `str` makes of an
object. -/
def Value.exposed : Value → List String
  | .str _ => []
  | value => value.strings

section Format

variable {redactText : String → String}

theorem strings_redactField (value : Value) :
    (∀ s ∈ (redactField redactText value).strings, s ∈ Set.range redactText) ↔
      ∀ s ∈ value.exposed, s ∈ Set.range redactText := by
  cases value with
  | str s => simp [redactField, Value.strings, Value.exposed]
  | none => rfl
  | bool b => rfl
  | int n => rfl
  | float x => rfl
  | list items => rfl
  | tuple items => rfl
  | dict entries => rfl
  | object text => rfl

theorem foldl_mergeField (fields payload : List (String × Value))
    (h : (Dictionary.keys fields).Nodup) : fields.foldl mergeField payload =
      payload ++ fields.filter fun field ↦ field.1 ∉ Dictionary.keys payload := by
  induction fields generalizing payload with
  | nil => simp
  | cons field fields ih =>
    obtain ⟨hfield, hrest⟩ := List.nodup_cons.mp h
    rw [List.foldl_cons, ih _ hrest, mergeField]
    by_cases hmem : field.1 ∈ Dictionary.keys payload
    · rw [if_neg (not_not.mpr hmem), List.filter_cons_of_neg (by simpa using hmem)]
    · rw [if_pos hmem, List.filter_cons_of_pos (by simpa using hmem), List.append_assoc,
        List.singleton_append]
      congr 2
      apply List.filter_congr
      intro f hf
      have hne : f.1 ≠ field.1 := fun heq ↦ hfield (heq ▸ List.mem_map_of_mem hf)
      rw [decide_eq_decide, Dictionary.keys, List.map_append, List.mem_append, List.map_singleton,
        List.mem_singleton, not_or]
      exact and_iff_left hne

variable {call : LogCall} {record : LogRecord}

theorem keys_map_snd {α β : Type} (f : α → β) (entries : List (String × α)) :
    Dictionary.keys (entries.map fun entry ↦ (entry.1, f entry.2)) = Dictionary.keys entries := by
  rw [Dictionary.keys, List.map_map]
  rfl

def merged (record : LogRecord) : List (String × Value) :=
  reservedFields record ++ record.structured.filter fun field ↦ field.1 ∉ reservedKeys

theorem format_eq (h : (Dictionary.keys record.structured).Nodup) :
    format redactText record =
      (withException redactText (merged record) record.excInfo).map fun entry ↦
        (entry.1, entry.2.dumps) := by
  rw [format, foldl_mergeField _ _ h]
  rfl

theorem nodup_merged (h : (Dictionary.keys record.structured).Nodup) :
    (Dictionary.keys (merged record)).Nodup := by
  rw [Dictionary.keys, merged, List.map_append, List.nodup_append]
  refine ⟨?_, h.sublist (List.filter_sublist.map _), ?_⟩
  · change reservedKeys.Nodup
    decide +kernel
  · intro k hk j hj heq
    obtain ⟨field, hfield, rfl⟩ := List.mem_map.mp hj
    have hfree := (List.mem_filter.mp hfield).2
    rw [decide_eq_true_eq] at hfree
    exact hfree (heq ▸ hk)

theorem mem_withException {payload : List (String × Value)} {excInfo : Option ExcInfo}
    (h : (Dictionary.keys payload).Nodup) {entry : String × Value} :
    entry ∈ withException redactText payload excInfo ↔
      (∃ exc ∈ excInfo, entry = ("error_type", .str exc.typeName) ∨
        entry = ("error_message", .str (redactText exc.text))) ∨
        entry ∈ payload ∧ (excInfo.isSome = true → entry.1 ∉ exceptionKeys) := by
  cases excInfo with
  | none => simp [withException]
  | some exc =>
    rw [withException, Dictionary.mem_upsert_iff (Dictionary.nodup_upsert h),
      Dictionary.mem_upsert_iff h]
    simp only [exceptionKeys, List.mem_cons, List.not_mem_nil, or_false, not_or, Option.mem_def,
      Option.some.injEq, exists_eq_left', Option.isSome_some, forall_const]
    constructor
    · rintro (rfl | ⟨hmessage, rfl | ⟨htype, hmem⟩⟩)
      · exact .inl (.inr rfl)
      · exact .inl (.inl rfl)
      · exact .inr ⟨hmem, htype, hmessage⟩
    · rintro ((rfl | rfl) | ⟨hmem, htype, hmessage⟩)
      · have hne : "error_type" ≠ "error_message" := by decide +kernel
        exact .inr ⟨hne, .inl rfl⟩
      · exact .inl rfl
      · exact .inr ⟨hmessage, .inr ⟨htype, hmem⟩⟩

theorem find_map_snd {α β : Type} (f : α → β) (k : String) (entries : List (String × α)) :
    Dictionary.find k (entries.map fun entry ↦ (entry.1, f entry.2)) =
      (Dictionary.find k entries).map f := by
  rw [Dictionary.find, Dictionary.find]
  induction entries with
  | nil => rfl
  | cons entry entries ih =>
    rw [List.map_cons, Dictionary.lookup_cons, Dictionary.lookup_cons, ih]
    split
    · rfl
    · rfl

theorem find_withException {payload : List (String × Value)} {excInfo : Option ExcInfo} {k : String}
    (hk : k ∉ exceptionKeys) :
    Dictionary.find k (withException redactText payload excInfo) = Dictionary.find k payload := by
  cases excInfo with
  | none => rfl
  | some exc =>
    rw [exceptionKeys, List.mem_cons, List.mem_singleton, not_or] at hk
    rw [withException, Dictionary.find, Dictionary.lookup_upsert, if_neg hk.2,
      Dictionary.lookup_upsert, if_neg hk.1, Dictionary.find]

theorem find_format (h : (Dictionary.keys record.structured).Nodup) {k : String}
    (hk : k ∈ reservedKeys) :
    Dictionary.find k (format redactText record) =
      (Dictionary.find k (reservedFields record)).map Value.dumps := by
  have hexc : k ∉ exceptionKeys := by
    revert k
    decide +kernel
  rw [format_eq h, find_map_snd, find_withException hexc, merged, Dictionary.find,
    List.lookup_append, Option.or_of_isSome, Dictionary.find]
  rw [← Dictionary.mem_keys_iff]
  exact hk

end Format

namespace LogCall

variable {redactText : String → String} {call : LogCall}

def record (redactText : String → String) (call : LogCall) : LogRecord where
  levelName := call.levelName
  name := call.logger
  message := redactText call.event
  structured := call.fields.map fun field ↦ (field.1, redactField redactText field.2)
  correlationId := call.correlationId
  excInfo := call.excInfo

theorem logLine_eq : logLine redactText true call =
    if call.enabled = true then some (format redactText (call.record redactText)) else none := by
  rw [logLine, emit]
  cases call.enabled with
  | false => rfl
  | true => rfl

theorem nodup_structured : (Dictionary.keys (call.record redactText).structured).Nodup := by
  rw [record, keys_map_snd]
  exact call.nodup

theorem field_mem_format {field : String × Value} (hfield : field ∈ call.fields)
    (hshows : call.Shows field.1) : (field.1, (redactField redactText field.2).dumps) ∈
      format redactText (call.record redactText) := by
  rw [format_eq nodup_structured, List.mem_map]
  refine ⟨(field.1, redactField redactText field.2), ?_, rfl⟩
  rw [mem_withException (nodup_merged nodup_structured)]
  refine .inr ⟨List.mem_append_right _ ?_, hshows.2⟩
  rw [List.mem_filter, decide_eq_true_eq]
  exact ⟨List.mem_map.mpr ⟨field, hfield, rfl⟩, hshows.1⟩

theorem format_cases {entry : String × JsonValue} (h : entry ∈ format redactText (call.record redactText)) :
    entry.1 ∈ call.ownKeys ∨ (∃ s, entry.2 = .str (redactText s)) ∨
      ∃ field ∈ call.fields, call.Shows field.1 ∧
        entry.2 = (redactField redactText field.2).dumps := by
  rw [format_eq nodup_structured, List.mem_map] at h
  obtain ⟨e, he, rfl⟩ := h
  rcases (mem_withException (nodup_merged nodup_structured)).mp he with
    ⟨exc, hexc, rfl | rfl⟩ | ⟨hmem, hexc⟩
  · have hsome : call.excInfo.isSome = true := Option.isSome_of_mem hexc
    exact .inl (List.mem_append_right _ (by rw [if_pos hsome]; exact List.mem_cons_self))
  · exact .inr (.inl ⟨exc.text, Value.dumps_str _⟩)
  · rcases List.mem_append.mp hmem with hreserved | hfield
    · rw [reservedFields] at hreserved
      simp only [List.mem_cons, List.not_mem_nil, or_false] at hreserved
      rcases hreserved with rfl | rfl | rfl | rfl
      · exact .inl (List.mem_append_left _ (by simp))
      · exact .inl (List.mem_append_left _ (by simp))
      · exact .inr (.inl ⟨call.event, Value.dumps_str _⟩)
      · exact .inl (List.mem_append_left _ (by simp))
    · obtain ⟨hfield, hkey⟩ := List.mem_filter.mp hfield
      obtain ⟨field, hcall, rfl⟩ := List.mem_map.mp hfield
      rw [decide_eq_true_eq] at hkey
      exact .inr (.inr ⟨field, hcall, ⟨hkey, hexc⟩, rfl⟩)

theorem not_mem_ownKeys {key : String} (h : call.Shows key) : key ∉ call.ownKeys := by
  intro hmem
  rcases List.mem_append.mp hmem with hreserved | herror
  · have hsubset : ["level", "logger", "correlation_id"] ⊆ reservedKeys := by decide +kernel
    exact h.1 (hsubset hreserved)
  · by_cases hexc : call.excInfo.isSome = true
    · rw [if_pos hexc, List.mem_singleton] at herror
      exact h.2 hexc (herror ▸ List.mem_cons_self)
    · rw [if_neg hexc] at herror
      cases herror

theorem find_line {k : String} (hk : k ∈ reservedKeys) :
    Dictionary.find k (format redactText (call.record redactText)) =
      (Dictionary.find k (reservedFields (call.record redactText))).map Value.dumps :=
  find_format nodup_structured hk

theorem redacted_format_iff :
    call.Redacted redactText (format redactText (call.record redactText)) ↔
      ∀ field ∈ call.fields, call.Shows field.1 →
        ∀ s ∈ field.2.exposed, s ∈ Set.range redactText := by
  constructor
  · intro h field hfield hshows
    have hstrings := h.strings _ (field_mem_format hfield hshows) (not_mem_ownKeys hshows)
    rw [Value.strings_dumps] at hstrings
    exact (strings_redactField _).mp hstrings
  · intro h
    refine ⟨fun entry hentry hown ↦ ?_, ?_, ?_, ?_, ?_⟩
    · rcases format_cases hentry with hkey | ⟨s, hs⟩ | ⟨field, hfield, hshows, hvalue⟩
      · exact absurd hkey hown
      · rw [hs, JsonValue.strings_str, List.forall_mem_singleton]
        exact ⟨s, rfl⟩
      · rw [hvalue, Value.strings_dumps]
        exact (strings_redactField _).mpr (h field hfield hshows)
    · rw [find_line (by decide +kernel)]
      simp [reservedFields, Dictionary.find, record]
    · rw [find_line (by decide +kernel)]
      simp [reservedFields, Dictionary.find, Dictionary.lookup_cons, record]
    · rw [find_line (by decide +kernel)]
      simp [reservedFields, Dictionary.find, Dictionary.lookup_cons, record]
    · rw [find_line (by decide +kernel)]
      simp [reservedFields, Dictionary.find, Dictionary.lookup_cons, record]

/-- With redaction on, the line of a call is redacted when no field that it shows hides a string. -/
theorem redacted_iff (redactText : String → String) (call : LogCall) :
    (∀ line, logLine redactText true call = some line → call.Redacted redactText line) ↔
      (call.enabled = true → ∀ field ∈ call.fields, call.Shows field.1 →
        ∀ s ∈ field.2.exposed, s ∈ Set.range redactText) := by
  rw [logLine_eq]
  by_cases henabled : call.enabled = true
  · rw [if_pos henabled]
    simp only [Option.some.injEq, forall_eq', henabled, forall_const]
    exact redacted_format_iff
  · rw [if_neg henabled]
    simp [henabled]

def loginFailed : LogCall where
  enabled := true
  levelName := "WARNING"
  logger := "text_to_sql.auth"
  event := "login_failed"
  correlationId := "corr_1"
  fields := [("tried", .list [.str "alice@example.com"])]
  nodup := List.nodup_singleton _

def redactAddress (text : String) : String :=
  if text = "alice@example.com" then "«redacted»" else text

theorem list_not_redacted : ¬∀ line, logLine redactAddress true loginFailed = some line →
    loginFailed.Redacted redactAddress line := by
  intro h
  have hredacted := h _ (logLine_eq.trans (if_pos rfl))
  have hshows : loginFailed.Shows "tried" := by
    refine ⟨by decide +kernel, fun hexc ↦ ?_⟩
    cases hexc
  have hmem := @field_mem_format redactAddress loginFailed _ List.mem_cons_self hshows
  have hstrings := hredacted.strings _ hmem (not_mem_ownKeys hshows) "alice@example.com" (by
    rw [Value.strings_dumps]
    simp [redactField, Value.strings])
  obtain ⟨text, htext⟩ := hstrings
  rw [redactAddress] at htext
  split at htext
  · revert htext
    decide +kernel
  · rename_i hne
    exact hne htext

end LogCall

end TextToSql.Observability
