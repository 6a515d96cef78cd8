import MemoryLab.Library.Transaction
import MemoryLab.Model.StructuredValidation

/-! # Exact validation

Nothing is found exactly in the payloads of the documented form. Two kinds of objects raise
before the result is made. -/

namespace MemoryLab.StructuredValidation

open Library Library.Rows

/-! ## Valid payloads -/

def InUnit (value : PyValue) : Prop :=
  ∃ x, numberOf value = some (.finite x) ∧ 0 ≤ x ∧ x ≤ 1

def ValidId (evidenceCount : ℤ) (evidenceId : PyValue) : Prop :=
  ∃ n, intOf evidenceId = some n ∧ 1 ≤ n ∧ n ≤ evidenceCount

def ValidIds (evidenceCount : ℤ) (evidenceIds : PyValue) : Prop :=
  ∃ ids, evidenceIds = .list ids ∧ ids ≠ [] ∧ ∀ evidenceId ∈ ids, ValidId evidenceCount evidenceId

def ValidClaim (evidenceCount : ℤ) (claim : PyValue) : Prop :=
  ∃ entries, claim = .dict entries ∧
    (∃ text, PyDict.get "claim" entries = .str text ∧ text.strip ≠ []) ∧
    ValidIds evidenceCount (PyDict.get "evidence_ids" entries)

def ValidClaims (evidenceCount : ℤ) (claims : PyValue) : Prop :=
  claims = .none ∨ ∃ items, claims = .list items ∧ ∀ claim ∈ items, ValidClaim evidenceCount claim

structure ValidPayload (evidenceCount : ℤ) (payload : PyDict) : Prop where
  status : ∃ s ∈ allowedStatuses, Dict.get? "status".toList payload = some (.str s)
  answer : ∃ s, Dict.get? "answer".toList payload = some (.str s)
  confidence : ∃ value, Dict.get? "confidence".toList payload = some value ∧ InUnit value
  claims : ValidClaims evidenceCount (payload.get "claims")

/-! ## Findings -/

section Findings

variable {evidenceCount : ℤ} {payload : PyDict} {index : ℕ}

theorem checkEvidenceId_eq_nil (hcount : 1 ≤ evidenceCount) {evidenceId : PyValue} :
    checkEvidenceId evidenceCount index evidenceId = [] ↔ ValidId evidenceCount evidenceId := by
  unfold checkEvidenceId ValidId
  cases hint : intOf evidenceId with
  | none => simp
  | some n =>
      have hne : evidenceCount ≠ 0 := by omega
      by_cases hpos : n ≤ 0
      · simp only [hpos, if_true, reduceCtorEq, Option.some.injEq, false_iff]
        rintro ⟨m, rfl, hm, -⟩
        omega
      · by_cases hbound : evidenceCount < n
        · simp only [hpos, hbound, hne, if_false, ne_eq, not_false_eq_true, and_self, if_true,
            reduceCtorEq, Option.some.injEq, false_iff]
          rintro ⟨m, rfl, -, hm⟩
          omega
        · simp only [hpos, hbound, if_false, and_false, Option.some.injEq, true_iff]
          exact ⟨n, rfl, by omega, by omega⟩

theorem checkEvidenceIds_eq_nil (hcount : 1 ≤ evidenceCount) {evidenceIds : PyValue} :
    checkEvidenceIds evidenceCount index evidenceIds = [] ↔
      ValidIds evidenceCount evidenceIds := by
  unfold checkEvidenceIds ValidIds
  split
  · rename_i first rest
    rw [List.flatMap_eq_nil_iff]
    simp only [checkEvidenceId_eq_nil hcount, PyValue.list.injEq, exists_eq_left', ne_eq,
      reduceCtorEq, not_false_eq_true, true_and]
  · rename_i hcases
    simp only [reduceCtorEq, false_iff]
    rintro ⟨ids, rfl, hne, -⟩
    obtain ⟨first, rest, rfl⟩ := List.exists_cons_of_ne_nil hne
    exact hcases first rest rfl

theorem hasText_iff {value : PyValue} :
    hasText value = true ↔ ∃ text, value = .str text ∧ text.strip ≠ [] := by
  cases value <;> simp [hasText]

theorem checkClaim_eq_nil (hcount : 1 ≤ evidenceCount) {claim : PyValue} :
    checkClaim evidenceCount index claim = [] ↔ ValidClaim evidenceCount claim := by
  cases claim with
  | dict entries =>
      rw [checkClaim, List.append_eq_nil_iff, checkEvidenceIds_eq_nil hcount, ValidClaim]
      simp only [PyValue.dict.injEq, exists_eq_left', ← hasText_iff]
      split <;> simp_all
  | _ => simp [checkClaim, ValidClaim]

/-- What raises for the confidence. -/
theorem confidenceInBounds_eq_ok {inBounds : Bool} :
    confidenceInBounds payload = .ok inBounds ↔
      floatOverflows (payload.get "confidence") = false ∧
        inBounds = (numberOf (payload.get "confidence")).any (·.inUnit) := by
  unfold confidenceInBounds
  dsimp only
  cases hnumber : numberOf (payload.get "confidence") with
  | none =>
      have hover : floatOverflows (payload.get "confidence") = false := by
        cases hvalue : payload.get "confidence" <;> simp_all [numberOf, floatOverflows]
      simp [hover, eq_comm]
  | some number =>
      cases hover : floatOverflows (payload.get "confidence") with
      | true => simp
      | false => simp [eq_comm]

theorem forall_zipIdx {α : Type*} {items : List α} {P : α → Prop} :
    (∀ entry ∈ items.zipIdx, P entry.1) ↔ ∀ item ∈ items, P item := by
  rw [← List.forall_mem_map (f := Prod.fst), List.zipIdx_map_fst]

/-- Claims in a list, with a status that cannot be looked up in a set. -/
def LooksUpStatus (payload : PyDict) : Prop :=
  (∃ items, payload.get "claims" = .list items) ∧ hashable (payload.get "status") = false

theorem exists_validateClaims :
    (∃ found, validateClaims payload evidenceCount = .ok found) ↔ ¬ LooksUpStatus payload := by
  unfold validateClaims LooksUpStatus
  cases hclaims : payload.get "claims" with
  | list items => cases hhash : hashable (payload.get "status") <;> simp [hhash]
  | _ => simp

theorem validateClaims_eq_nil (hcount : 1 ≤ evidenceCount)
    {found : List Finding × List String}
    (h : validateClaims payload evidenceCount = .ok found) :
    found.1 = [] ↔ ValidClaims evidenceCount (payload.get "claims") := by
  unfold validateClaims at h
  unfold ValidClaims
  cases hclaims : payload.get "claims" with
  | none =>
      rw [hclaims] at h
      obtain rfl := Except.ok.inj h
      simp
  | list items =>
      rw [hclaims] at h
      dsimp only at h
      split at h
      · cases h
      · obtain rfl := Except.ok.inj h
        rw [List.flatMap_eq_nil_iff]
        simp only [checkClaim_eq_nil hcount, reduceCtorEq, PyValue.list.injEq, exists_eq_left',
          false_or]
        exact forall_zipIdx
  | _ =>
      rw [hclaims] at h
      obtain rfl := Except.ok.inj h
      simp

/-- A value passes a rule when it passes each of its checks. -/
theorem checkValue_eq_nil {rule : StructuredValidationRule} {value : PyValue} :
    checkValue rule value = [] ↔
      (∀ expected ∈ rule.expectedType, expected.isInstance value = true) ∧
      (∀ allowed ∈ rule.allowedValues, isAllowed allowed value = true) ∧
      (∀ bound ∈ rule.minValue, (numberOf value).any (·.below bound) = false) ∧
      ∀ bound ∈ rule.maxValue, (numberOf value).any (·.above bound) = false := by
  obtain ⟨field, required, expectedType, minValue, maxValue, allowedValues⟩ := rule
  unfold checkValue
  dsimp only
  have hfail (fails : Bool) (finding : Finding) :
      (if fails then [finding] else []) = [] ↔ fails = false := by
    cases fails <;> simp
  split
  · rename_i htype
    refine iff_of_false (List.cons_ne_nil _ _) fun h => ?_
    cases expectedType with
    | none => simp at htype
    | some expected => simp [h.1 expected rfl] at htype
  · rename_i htype
    rw [List.append_eq_nil_iff, List.append_eq_nil_iff, hfail, hfail, hfail]
    cases expectedType <;> cases allowedValues <;> cases minValue <;> cases maxValue <;>
      simp_all [and_assoc]

theorem applyRule_eq_nil {rule : StructuredValidationRule} (hrequired : rule.required = true) :
    applyRule payload rule = [] ↔
      ∃ value, Dict.get? rule.field.toList payload = some value ∧ checkValue rule value = [] := by
  unfold applyRule
  cases Dict.get? rule.field.toList payload with
  | none => simp [hrequired]
  | some value => simp

theorem isInstance_text {value : PyValue} :
    ExpectedType.text.isInstance value = true ↔ ∃ s, value = .str s := by
  cases value <;> simp [ExpectedType.isInstance]

theorem isAllowed_iff {allowed : List Text} {value : PyValue} :
    isAllowed allowed value = true ↔ ∃ s ∈ allowed, value = .str s := by
  cases value <;> simp [isAllowed]

theorem inUnit_iff {value : PyValue} :
    (numberOf value).any (·.inUnit) = true ↔ InUnit value := by
  unfold InUnit
  cases hnumber : numberOf value with
  | none => simp
  | some number => cases number <;> simp [Number.inUnit]

theorem checkConfidence_eq_nil {value : PyValue} {inBounds : Bool}
    (hget : Dict.get? "confidence".toList payload = some value) :
    checkConfidence payload inBounds = [] ↔ inBounds = true := by
  rw [checkConfidence, hget]
  cases inBounds <;> simp

/-- A number of the unit interval is neither below it nor above it. -/
theorem InUnit.bounds {value : PyValue} (h : InUnit value) :
    (numberOf value).isSome = true ∧ (numberOf value).any (·.below 0) = false ∧
      (numberOf value).any (·.above 1) = false := by
  obtain ⟨x, hnumber, hlow, hhigh⟩ := h
  simp [hnumber, Number.below, Number.above, hlow, hhigh]

theorem checkStatus_eq_nil
    (h : ∃ s ∈ allowedStatuses, Dict.get? "status".toList payload = some (.str s)) :
    checkStatus payload = [] := by
  obtain ⟨s, hs, hget⟩ := h
  rw [checkStatus, PyDict.get, hget]
  exact if_pos hs

/-- The default rules and the check of the confidence find nothing in the three fields of a
valid payload. -/
theorem defaultRules_eq_nil :
    (defaultRules.flatMap (applyRule payload) ++ checkStatus payload ++
        checkConfidence payload ((numberOf (payload.get "confidence")).any (·.inUnit)) = []) ↔
      (∃ s ∈ allowedStatuses, Dict.get? "status".toList payload = some (.str s)) ∧
      (∃ s, Dict.get? "answer".toList payload = some (.str s)) ∧
      ∃ value, Dict.get? "confidence".toList payload = some value ∧ InUnit value := by
  have hrules : defaultRules.flatMap (applyRule payload) = [] ↔
      ∀ rule ∈ defaultRules, applyRule payload rule = [] := List.flatMap_eq_nil_iff
  rw [List.append_eq_nil_iff, List.append_eq_nil_iff, hrules]
  simp only [defaultRules, List.forall_mem_cons, List.not_mem_nil, false_imp_iff, implies_true,
    and_true, applyRule_eq_nil, checkValue_eq_nil, Option.mem_def, Option.some.injEq,
    forall_eq', reduceCtorEq, isInstance_text, isAllowed_iff, true_and]
  constructor
  · rintro ⟨⟨⟨⟨_, hstatus, -, s, hs, rfl⟩, ⟨_, hanswer, t, rfl⟩, value, hvalue, -, -⟩, -⟩, hunit⟩
    refine ⟨⟨s, hs, hstatus⟩, ⟨t, hanswer⟩, value, hvalue, ?_⟩
    rw [checkConfidence_eq_nil hvalue, inUnit_iff, PyDict.get, hvalue] at hunit
    exact hunit
  · rintro ⟨⟨s, hs, hstatus⟩, ⟨t, hanswer⟩, value, hvalue, hunit⟩
    obtain ⟨hnumber, hbelow, habove⟩ := hunit.bounds
    refine ⟨⟨⟨⟨_, hstatus, ⟨s, rfl⟩, s, hs, rfl⟩, ⟨_, hanswer, t, rfl⟩, value, hvalue, hnumber,
      hbelow, habove⟩, checkStatus_eq_nil ⟨s, hs, hstatus⟩⟩, ?_⟩
    rw [checkConfidence_eq_nil hvalue, inUnit_iff, PyDict.get, hvalue]
    exact hunit

end Findings

theorem floatOverflows_natCast {n : ℕ} :
    floatOverflows (.int n) = true ↔ doubleOverflow ≤ n := by
  rw [floatOverflows, decide_eq_true_eq, Int.natAbs_natCast]

/-! ## Results -/

theorem valid_resultOf {payload : PyDict} {inBounds : Bool} {findings : List Finding}
    {warnings : List String} :
    (resultOf payload inBounds findings warnings).valid = true ↔ findings = [] := by
  unfold resultOf
  dsimp only
  cases findings with
  | nil => cases substantiveWithoutClaims payload <;> simp
  | cons finding findings => simp

/-- An object with an integer confidence that is no double, or with claims in a list and a
status that cannot be looked up in a set. -/
def Raises (payload : PyDict) : Prop :=
  floatOverflows (payload.get "confidence") = true ∨ LooksUpStatus payload

section Validation

variable {loads : Text → Option PyValue} {response : Response} {evidenceCount : ℤ}
  {payload : PyDict}

theorem exists_validate_iff (hparse : parseResponse loads response = .ok payload) :
    (∃ result, validate loads response evidenceCount defaultRules = .ok result) ↔
      ¬ Raises payload := by
  rw [validate, hparse, Raises, not_or, Bool.not_eq_true]
  constructor
  · rintro ⟨result, hresult⟩
    obtain ⟨inBounds, hbounds, hresult⟩ := Transaction.bind_eq_ok.mp hresult
    obtain ⟨found, hfound, -⟩ := Transaction.bind_eq_ok.mp hresult
    exact ⟨(confidenceInBounds_eq_ok.mp hbounds).1, exists_validateClaims.mp ⟨found, hfound⟩⟩
  · rintro ⟨hoverflow, hlookup⟩
    obtain ⟨found, hfound⟩ := exists_validateClaims.mpr hlookup
    have hbounds := confidenceInBounds_eq_ok.mpr ⟨hoverflow, rfl⟩
    exact ⟨_, Transaction.bind_eq_ok.mpr
      ⟨_, hbounds, Transaction.bind_eq_ok.mpr ⟨found, hfound, rfl⟩⟩⟩

theorem valid_iff (hcount : 1 ≤ evidenceCount)
    (hparse : parseResponse loads response = .ok payload) {result : StructuredValidationResult}
    (hresult : validate loads response evidenceCount defaultRules = .ok result) :
    result.valid = true ↔ ValidPayload evidenceCount payload := by
  rw [validate, hparse] at hresult
  dsimp only at hresult
  obtain ⟨inBounds, hbounds, hresult⟩ := Transaction.bind_eq_ok.mp hresult
  obtain ⟨found, hfound, hresult⟩ := Transaction.bind_eq_ok.mp hresult
  obtain rfl := Except.ok.inj hresult
  obtain ⟨-, rfl⟩ := confidenceInBounds_eq_ok.mp hbounds
  rw [valid_resultOf, List.append_eq_nil_iff, defaultRules_eq_nil,
    validateClaims_eq_nil hcount hfound]
  constructor
  · rintro ⟨⟨hstatus, hanswer, hconfidence⟩, hclaims⟩
    exact ⟨hstatus, hanswer, hconfidence, hclaims⟩
  · rintro ⟨hstatus, hanswer, hconfidence, hclaims⟩
    exact ⟨⟨hstatus, hanswer, hconfidence⟩, hclaims⟩

end Validation

/-- Validation returns an exact result exactly for the responses whose object does not raise. -/
theorem validate_exact_iff (loads : Text → Option PyValue) (response : Response)
    (evidenceCount : ℤ) (hcount : 1 ≤ evidenceCount) :
    (∃ result, validate loads response evidenceCount defaultRules = .ok result ∧
        (result.valid = true ↔ ∃ payload, parseResponse loads response = .ok payload ∧
          ValidPayload evidenceCount payload)) ↔
      ∀ payload, parseResponse loads response = .ok payload → ¬ Raises payload := by
  cases hparse : parseResponse loads response with
  | error error =>
      have hresult : validate loads response evidenceCount defaultRules =
          .ok (malformedResult error) := by
        rw [validate, hparse]
      refine iff_of_true ⟨_, hresult, ?_⟩ fun _ hpayload => nomatch hpayload
      exact iff_of_false Bool.false_ne_true fun ⟨_, hpayload, _⟩ => nomatch hpayload
  | ok payload =>
      constructor
      · rintro ⟨result, hresult, -⟩ _ hpayload
        obtain rfl := Except.ok.inj hpayload
        exact (exists_validate_iff hparse).mp ⟨result, hresult⟩
      · intro h
        obtain ⟨result, hresult⟩ := (exists_validate_iff hparse).mpr (h payload rfl)
        refine ⟨result, hresult, ?_⟩
        rw [valid_iff hcount hparse hresult]
        constructor
        · exact fun hvalid => ⟨payload, rfl, hvalid⟩
        · rintro ⟨_, hpayload, hvalid⟩
          obtain rfl := Except.ok.inj hpayload
          exact hvalid

def answeredPayload (confidence : PyValue) : PyDict :=
  [("status".toList, .str "ok".toList), ("answer".toList, .str "a".toList),
    ("confidence".toList, confidence)]

theorem validate_exact_iff_one :
    (∃ result, validate (fun _ => none) (.mapping (answeredPayload (.int 1))) 1 defaultRules =
        .ok result ∧ (result.valid = true ↔ ∃ payload,
          parseResponse (fun _ => none) (.mapping (answeredPayload (.int 1))) = .ok payload ∧
            ValidPayload 1 payload)) ↔
      ∀ payload, parseResponse (fun _ => none) (.mapping (answeredPayload (.int 1))) =
        .ok payload → ¬ Raises payload :=
  validate_exact_iff (fun _ => none) (.mapping (answeredPayload (.int 1))) 1 le_rfl

/-- A confidence beyond the doubles raises. -/
theorem not_validate_exact :
    ¬ ∀ (loads : Text → Option PyValue) (response : Response) (evidenceCount : ℤ),
      1 ≤ evidenceCount →
        ∃ result, validate loads response evidenceCount defaultRules = .ok result ∧
          (result.valid = true ↔ ∃ payload, parseResponse loads response = .ok payload ∧
            ValidPayload evidenceCount payload) := by
  intro h
  let payload := answeredPayload (.int doubleOverflow)
  obtain ⟨result, hresult, -⟩ := h (fun _ => none) (.mapping payload) 1 le_rfl
  have hraises : Raises payload := .inl (floatOverflows_natCast.mpr le_rfl)
  exact (exists_validate_iff rfl).mp ⟨result, hresult⟩ hraises

end MemoryLab.StructuredValidation
