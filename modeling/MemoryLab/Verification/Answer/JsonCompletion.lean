import MemoryLab.Library.Transaction
import MemoryLab.Model.AnthropicAdapter

/-! # The contract of JSON completion

Every parsed value is treated as an object. What becomes of the others depends on the schema. -/

namespace MemoryLab.AnthropicAdapter

open Library

/-- A success with an object that has every key of the schema, or a failure with its reason. -/
def Honours (request : LLMRequest) (response : LLMResponse) : Prop :=
  (response.degraded = false ∧ ∃ entries, response.jsonData = some (.dict entries) ∧
      ∀ key ∈ request.schemaKeys, (Dict.get? key entries).isSome) ∨
    (response.degraded = true ∧ response.failureReason.isSome)

/-- A text that is no JSON, an object, or a list or text that lacks a key of the schema. -/
def Covered (keys : List Text) : Loaded → Prop
  | .valueError => True
  | .value (.dict _) => True
  | .value (.list items) => ∃ key ∈ keys, .str key ∉ items
  | .value (.str s) => ∃ key ∈ keys, ¬ key <:+: s
  | _ => False

section Keys

variable {data : PyValue} {keys missing : List Text}

/-- The keys that are missing, where a value can be asked for keys. -/
theorem missingKeys_of_contains {present : Text → Bool}
    (h : ∀ key, contains key data = .ok (present key)) :
    missingKeys data keys = .ok (keys.filter fun key => !present key) := by
  induction keys with
  | nil => rfl
  | cons key keys ih =>
      rw [missingKeys, h key, ih, List.filter_cons]
      cases present key <;> rfl

theorem missingKeys_of_typeError (h : ∀ key, contains key data = .error .typeError)
    (hkeys : keys ≠ []) : missingKeys data keys = .error .typeError := by
  obtain ⟨key, keys, rfl⟩ := List.exists_cons_of_ne_nil hkeys
  rw [missingKeys, h key]
  rfl

theorem any_isText {key : Text} {items : List PyValue} :
    items.any (isText key) = true ↔ .str key ∈ items := by
  rw [List.any_eq_true]
  constructor
  · rintro ⟨item, hitem, htext⟩
    cases item <;> simp_all [isText]
  · intro hmem
    exact ⟨_, hmem, by simp [isText]⟩

theorem filter_ne_nil_iff {present : Text → Bool} :
    (keys.filter fun key => !present key) ≠ [] ↔ ∃ key ∈ keys, present key = false := by
  simp [List.filter_eq_nil_iff]

end Keys

section Completion

variable {loads : Text → Loaded} {messages : Messages} {request : LLMRequest} {data : PyValue}
  {text model : Text}

theorem honours_degraded (code : Answer.FailureCode) (model text : Text) :
    Honours request (degraded code model text) :=
  .inr ⟨rfl, rfl⟩

theorem honours_success :
    Honours request { text, model, jsonData := some data } ↔
      ∃ entries, data = .dict entries ∧
        ∀ key ∈ request.schemaKeys, (Dict.get? key entries).isSome := by
  simp [Honours]

/-- A call that fails has a reason. -/
theorem honours_callMessages
    (h : (callMessages messages request.toLLMRequest).degraded = true) :
    Honours request (callMessages messages request.toLLMRequest) := by
  refine .inr ⟨h, ?_⟩
  revert h
  unfold callMessages
  split
  · exact fun _ => rfl
  · split
    · exact fun h => nomatch h
    · exact fun _ => rfl

/-- A value that can be asked for keys: some key is missing, or the value is the answer. -/
theorem exists_responseFor_iff {present : Text → Bool}
    (h : ∀ key, contains key data = .ok (present key)) :
    (∃ response, responseFor request text model data = .ok response ∧ Honours request response) ↔
      (∃ key ∈ request.schemaKeys, present key = false) ∨
        Honours request { text, model, jsonData := some data } := by
  have hresponse : responseFor request text model data =
      .ok (if (request.schemaKeys.filter fun key => !present key) ≠ [] then
        degraded .schemaValidationFailed model text
      else { text, model, jsonData := some data }) := by
    rw [responseFor, missingKeys_of_contains h]
    rfl
  rw [hresponse]
  simp only [Except.ok.injEq, exists_eq_left']
  by_cases hmissing : (request.schemaKeys.filter fun key => !present key) ≠ []
  · rw [if_pos hmissing]
    exact iff_of_true (honours_degraded _ _ _) (.inl (filter_ne_nil_iff.mp hmissing))
  · rw [if_neg hmissing, ← filter_ne_nil_iff, or_iff_right hmissing]

theorem not_exists_responseFor (h : ∀ key, contains key data = .error .typeError)
    (hdata : ∀ entries, data ≠ .dict entries) :
    ¬ ∃ response, responseFor request text model data = .ok response ∧
      Honours request response := by
  rintro ⟨response, hresponse, hhonours⟩
  rw [responseFor] at hresponse
  by_cases hkeys : request.schemaKeys = []
  · rw [hkeys] at hresponse
    obtain rfl := Except.ok.inj hresponse
    obtain ⟨entries, rfl, -⟩ := honours_success.mp hhonours
    exact hdata entries rfl
  · rw [missingKeys_of_typeError h hkeys] at hresponse
    cases hresponse

/-- What becomes of a parsed value. -/
theorem responseFor_covered_iff :
    (∃ response, responseFor request text model data = .ok response ∧ Honours request response) ↔
      Covered request.schemaKeys (.value data) := by
  cases data with
  | dict entries =>
      rw [exists_responseFor_iff fun _ => rfl, honours_success]
      refine iff_of_true ?_ trivial
      by_cases hmissing : ∃ key ∈ request.schemaKeys, (Dict.get? key entries).isSome = false
      · exact .inl hmissing
      · push Not at hmissing
        refine .inr ⟨entries, rfl, fun key hkey => ?_⟩
        exact Bool.eq_true_of_not_eq_false (hmissing key hkey)
  | list items =>
      rw [exists_responseFor_iff fun _ => rfl, honours_success, Covered]
      simp only [reduceCtorEq, false_and, exists_false, or_false, ← any_isText,
        Bool.not_eq_true]
  | str s =>
      rw [exists_responseFor_iff fun _ => rfl, honours_success, Covered]
      simp only [reduceCtorEq, false_and, exists_false, or_false, decide_eq_false_iff_not]
  | _ => exact iff_of_false (not_exists_responseFor (fun _ => rfl) fun _ h => nomatch h) id

end Completion

/-- The contract is honoured exactly when the text that the model returns is covered. -/
theorem completeJson_honours_iff (loads : Text → Loaded) (messages : Messages)
    (request : LLMRequest) :
    (∃ response, completeJson loads messages request = .ok response ∧
        Honours request response) ↔
      ((callMessages messages request.toLLMRequest).degraded = false →
        Covered request.schemaKeys
          (loads (cleaned (callMessages messages request.toLLMRequest).text))) := by
  rw [completeJson]
  cases hdegraded : (callMessages messages request.toLLMRequest).degraded with
  | true =>
      refine iff_of_true ⟨_, rfl, honours_callMessages hdegraded⟩ fun h => nomatch h
  | false =>
      rw [if_neg Bool.false_ne_true, forall_prop_of_true rfl]
      cases hloads : loads (cleaned (callMessages messages request.toLLMRequest).text) with
      | otherError => exact iff_of_false (fun ⟨_, hresponse, _⟩ => nomatch hresponse) id
      | valueError => exact iff_of_true ⟨_, rfl, honours_degraded _ _ _⟩ trivial
      | value data => exact responseFor_covered_iff

/-- A list is reported as a success where no schema is expected. -/
theorem not_completeJson_honours :
    ¬ ∀ (loads : Text → Loaded) (messages : Messages) (request : LLMRequest),
      ∃ response, completeJson loads messages request = .ok response ∧
        Honours request response := by
  intro h
  let request : LLMRequest := { prompt := [], system := [] }
  obtain ⟨response, hresponse, hhonours⟩ := h (fun _ => .value (.list []))
    ⟨none, [], fun _ => .ok "[]".toList⟩ request
  have hlist : ∃ response,
      responseFor request (Text.strip "[]".toList) [] (.list []) = .ok response ∧
        Honours request response := ⟨response, hresponse, hhonours⟩
  obtain ⟨key, hkey, -⟩ := responseFor_covered_iff.mp hlist
  cases hkey

end MemoryLab.AnthropicAdapter
