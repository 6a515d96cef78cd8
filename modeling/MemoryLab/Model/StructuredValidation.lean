import MemoryLab.Library.PyValue
import MemoryLab.Library.Rows

/-! # Structural validation of responses

A response is a text or a mapping. What is wrong with it is collected in findings, each with a
flag and an error. -/

namespace MemoryLab.StructuredValidation

open Library Library.Rows

def allowedStatuses : List Text :=
  ["ok".toList, "no_context".toList, "clarify".toList, "degraded".toList, "error".toList]

/-! ## Numbers -/

/-- What Python raises. -/
inductive Raised where
  | overflowError
  | typeError
deriving DecidableEq

/-- The least integer that rounds to no double. -/
def doubleOverflow : ℕ := 2 ^ 1024 - 2 ^ 970

/-- A number as it is compared. -/
inductive Number where
  | finite (value : ℚ)
  | posInf
  | negInf
  | nan
deriving DecidableEq

namespace Number

def below (bound : ℚ) : Number → Bool
  | finite value => value < bound
  | negInf => true
  | _ => false

def above (bound : ℚ) : Number → Bool
  | finite value => bound < value
  | posInf => true
  | _ => false

/-- `0.0 <= x <= 1.0`. -/
def inUnit : Number → Bool
  | finite value => 0 ≤ value && value ≤ 1
  | _ => false

end Number

def boolInt (b : Bool) : ℤ := if b then 1 else 0

/-- The number of a value with `isinstance(value, (int, float))`. -/
def numberOf : PyValue → Option Number
  | .bool b => some (.finite (boolInt b))
  | .int n => some (.finite n)
  | .float (.finite x) => some (.finite x)
  | .float .posInf => some .posInf
  | .float .negInf => some .negInf
  | .float .nan => some .nan
  | _ => none

/-- The integer of a value with `isinstance(value, int)`. -/
def intOf : PyValue → Option ℤ
  | .bool b => some (boolInt b)
  | .int n => some n
  | _ => none

/-- `float(value)` of a number fails. -/
def floatOverflows : PyValue → Bool
  | .int n => doubleOverflow ≤ n.natAbs
  | _ => false

/-! ## Rules -/

inductive ExpectedType where
  | text
  | number
deriving DecidableEq

def ExpectedType.isInstance : ExpectedType → PyValue → Bool
  | text, .str _ => true
  | text, _ => false
  | number, value => (numberOf value).isSome

structure StructuredValidationRule where
  field : String
  required : Bool := true
  expectedType : Option ExpectedType := none
  minValue : Option ℚ := none
  maxValue : Option ℚ := none
  allowedValues : Option (List Text) := none

def defaultRules : List StructuredValidationRule :=
  [{ field := "status", expectedType := some .text, allowedValues := some allowedStatuses },
    { field := "answer", expectedType := some .text },
    { field := "confidence", expectedType := some .number, minValue := some 0,
      maxValue := some 1 }]

structure Finding where
  flag : String
  error : String
deriving DecidableEq

def isAllowed (allowed : List Text) : PyValue → Bool
  | .str s => s ∈ allowed
  | _ => false

def checkValue (rule : StructuredValidationRule) (value : PyValue) : List Finding :=
  if rule.expectedType.any fun expected => !expected.isInstance value then
    [⟨"wrong_type", "wrong_type:" ++ rule.field⟩]
  else
    (if rule.allowedValues.any fun allowed => !isAllowed allowed value then
      [⟨"unsupported_value", "unsupported_value:" ++ rule.field⟩] else []) ++
    (if rule.minValue.any fun bound => (numberOf value).any (·.below bound) then
      [⟨"value_below_min", "value_below_min:" ++ rule.field⟩] else []) ++
    (if rule.maxValue.any fun bound => (numberOf value).any (·.above bound) then
      [⟨"value_above_max", "value_above_max:" ++ rule.field⟩] else [])

/-- One rule of `_apply_rules`. -/
def applyRule (sanitized : PyDict) (rule : StructuredValidationRule) : List Finding :=
  match Dict.get? rule.field.toList sanitized with
  | none =>
    if rule.required then
      [⟨"missing_required_field", "missing_required_field:" ++ rule.field⟩]
    else []
  | some value => checkValue rule value

/-! ## Status, confidence and claims -/

section Checks

variable (sanitized : PyDict)

def checkStatus : List Finding :=
  match sanitized.get "status" with
  | .str s => if s ∈ allowedStatuses then [] else [⟨"unsupported_status", "status_not_allowed"⟩]
  | _ => []

def confidenceInBounds : Except Raised Bool :=
  let confidence := sanitized.get "confidence"
  match numberOf confidence with
  | none => .ok false
  | some number => if floatOverflows confidence then .error .overflowError else .ok number.inUnit

def checkConfidence (inBounds : Bool) : List Finding :=
  if (Dict.get? "confidence".toList sanitized).isSome && !inBounds then
    [⟨"confidence_out_of_bounds", "confidence_out_of_bounds"⟩]
  else []

def checkEvidenceId (evidenceCount : ℤ) (index : ℕ) (evidenceId : PyValue) : List Finding :=
  match intOf evidenceId with
  | none => [⟨"missing_evidence", "evidence_id_invalid:" ++ toString index⟩]
  | some n =>
    if n ≤ 0 then [⟨"missing_evidence", "evidence_id_invalid:" ++ toString index⟩]
    else if evidenceCount ≠ 0 ∧ evidenceCount < n then
      [⟨"missing_evidence", "evidence_id_out_of_bounds:" ++ toString index⟩]
    else []

def hasText : PyValue → Bool
  | .str s => s.strip ≠ []
  | _ => false

def checkEvidenceIds (evidenceCount : ℤ) (index : ℕ) : PyValue → List Finding
  | .list (evidenceId :: evidenceIds) =>
    (evidenceId :: evidenceIds).flatMap (checkEvidenceId evidenceCount index)
  | _ => [⟨"missing_evidence", "missing_evidence:" ++ toString index⟩]

def checkClaim (evidenceCount : ℤ) (index : ℕ) : PyValue → List Finding
  | .dict claim =>
    (if hasText (PyDict.get "claim" claim) then []
      else [⟨"unsupported_claims", "claim_text_missing:" ++ toString index⟩]) ++
    checkEvidenceIds evidenceCount index (PyDict.get "evidence_ids" claim)
  | _ => [⟨"unsupported_claims", "claim_not_object:" ++ toString index⟩]

/-- Whether a value can be looked up in a set. -/
def hashable : PyValue → Bool
  | .list _ => false
  | .dict _ => false
  | _ => true

/-- The statuses with which claims are not expected. -/
def nonOkStatuses : List Text :=
  ["no_context".toList, "clarify".toList, "degraded".toList, "error".toList]

def validateClaims (evidenceCount : ℤ) : Except Raised (List Finding × List String) :=
  match sanitized.get "claims" with
  | .none => .ok ([], [])
  | .list claims =>
    let status := sanitized.get "status"
    let findings := (claims.zipIdx.flatMap fun claim => checkClaim evidenceCount claim.2 claim.1)
    if !hashable status then .error .typeError
    else .ok (findings, if isAllowed nonOkStatuses status ∧ claims ≠ [] then
      ["claims_present_for_non_ok_status"] else [])
  | _ => .ok ([⟨"unsupported_claims", "claims_not_list"⟩], [])

def isTruthy : PyValue → Bool
  | .none => false
  | .bool b => b
  | .int n => n ≠ 0
  | .float x => x ≠ .finite 0
  | .str s => s ≠ []
  | .list items => !items.isEmpty
  | .dict entries => !entries.isEmpty

/-- A long answer with the status `ok` and no claims. -/
def substantiveWithoutClaims : Bool :=
  match sanitized.get "answer", sanitized.get "status" with
  | .str answer, .str status =>
    40 ≤ answer.strip.length && !isTruthy (sanitized.get "claims") && status == "ok".toList
  | _, _ => false

end Checks

/-! ## Responses -/

inductive Response where
  | text (text : Text)
  | mapping (entries : PyDict)

/-- The text inside a fence. -/
def unfence (text : Text) : Text :=
  if "```".toList.isPrefixOf text then
    let lines := text.splitLines
    if 3 ≤ lines.length then Text.strip (List.intercalate ['\n'] (lines.drop 1).dropLast)
    else text
  else text

/-- `_parse_response`, where `json.loads` returns a value or raises `JSONDecodeError`. -/
def parseResponse (loads : Text → Option PyValue) : Response → Except String PyDict
  | .mapping entries => .ok entries
  | .text response =>
    if response.strip = [] then .error "malformed_response_text"
    else
      match loads (unfence response.strip) with
      | none => .error "malformed_json"
      | some (.dict entries) => .ok entries
      | some _ => .error "response_not_object"

structure StructuredResponseQuality where
  complete : Bool
  malformed : Bool
  missingEvidence : Bool
  unsupportedClaims : Bool
  confidenceInBounds : Bool
  hasRequiredFields : Bool
  score : ℚ
deriving DecidableEq

structure StructuredValidationResult where
  valid : Bool
  status : Text
  flags : List String
  errors : List String
  warnings : List String
  sanitized : PyDict
  quality : StructuredResponseQuality

/-- `_quality_score`, in exact numbers. -/
def qualityScore (flags errors warnings : List String) (requiredOk inBounds : Bool) : ℚ :=
  let score := 1 - (if requiredOk then 0 else 35 / 100) - (if inBounds then 0 else 15 / 100) -
    15 / 100 * errors.dedup.length - 5 / 100 * warnings.dedup.length
  max 0 (min 1 (if "malformed" ∈ flags then 0 else score))

def malformedResult (error : String) : StructuredValidationResult :=
  { valid := false, status := "error".toList, flags := ["malformed"], errors := [error],
    warnings := [], sanitized := [],
    quality := ⟨false, true, false, false, false, false, 0⟩ }

/-- The result for an object, once nothing was raised. -/
def resultOf (sanitized : PyDict) (inBounds : Bool) (findings : List Finding)
    (claimWarnings : List String) : StructuredValidationResult :=
  let substantive := if substantiveWithoutClaims sanitized then
    ["substantive_answer_without_claims"] else []
  let flags := findings.map (·.flag) ++ substantive
  let errors := findings.map (·.error)
  let warnings := claimWarnings ++ substantive
  let requiredOk := "missing_required_field" ∉ flags
  let valid := errors.isEmpty && requiredOk && "malformed" ∉ flags &&
    "unsupported_claims" ∉ flags && "missing_evidence" ∉ flags
  let flags := flags ++ if valid then ["complete"] else []
  { valid
    status := match sanitized.get "status" with
      | .str s => s
      | _ => "error".toList
    flags := distinctOn id flags, errors := distinctOn id errors,
    warnings := distinctOn id warnings, sanitized,
    quality := ⟨valid, "malformed" ∈ flags, "missing_evidence" ∈ flags,
      "unsupported_claims" ∈ flags, inBounds, requiredOk,
      qualityScore flags errors warnings requiredOk inBounds⟩ }

/-- `StructuredValidator.validate`. -/
def validate (loads : Text → Option PyValue) (response : Response) (evidenceCount : ℤ)
    (rules : List StructuredValidationRule) : Except Raised StructuredValidationResult :=
  match parseResponse loads response with
  | .error error => .ok (malformedResult error)
  | .ok sanitized => do
    let inBounds ← confidenceInBounds sanitized
    let (claimFindings, claimWarnings) ← validateClaims sanitized evidenceCount
    return resultOf sanitized inBounds
      (rules.flatMap (applyRule sanitized) ++ checkStatus sanitized ++
        checkConfidence sanitized inBounds ++ claimFindings) claimWarnings

end MemoryLab.StructuredValidation
