import MemoryLab.Library.Substitution
import MemoryLab.Model.ReadOnlySql

/-! # The client of the local API

What the API answers is given: a request either fails with an exception or has a response. The
text of an error is cut first and redacted then. -/

namespace MemoryLab.McpClient

open Library Library.Pattern
open ReadOnlySql (equalsIgnoringCase)

/-! ## Redaction -/

/-- A word that is compared with its case. -/
def literal (w : String) : Pattern := word (fun letter c => letter == c) w.toList

/-- A word under `(?i)`. -/
def anyCase (w : String) : Pattern := word equalsIgnoringCase (w.toList.map Char.toUpper)

/-- `\s*`. -/
def spaces : Pattern := many Text.isSpace

/-- `[^\s,;]`. -/
def isTokenChar (c : Char) : Bool := !(Text.isSpace c || c == ',' || c == ';')

/-- `[^\s&]`. -/
def isValueChar (c : Char) : Bool := !(Text.isSpace c || c == '&')

/-- `Bearer\s+`. -/
def bearerLead : Pattern := (literal "Bearer").seq (plus Text.isSpace)

/-- `Authorization\s*:\s*Bearer\s+`. -/
def authorizationLead : Pattern :=
  (literal "Authorization").seq (spaces.seq ((char ':').seq (spaces.seq bearerLead)))

/-- `token|api[_-]?key|key|secret|password`. -/
def secretNames : Pattern :=
  (anyCase "token").alt <|
    ((anyCase "api").seq ((opt (one fun c => c == '_' || c == '-')).seq (anyCase "key"))).alt <|
      (anyCase "key").alt <| (anyCase "secret").alt (anyCase "password")

/-- `…|authorization`. -/
def secretFields : Pattern := secretNames.alt (anyCase "authorization")

/-- `\s*:\s*`. -/
def colon : Pattern := spaces.seq ((char ':').seq spaces)

/-- `"(?:…)"\s*:\s*`. -/
def secretKey : Pattern := (char '"').seq (secretFields.seq ((char '"').seq colon))

/-- `"[^"]+"`. -/
def quotedRun : Pattern := (char '"').seq ((plus (· != '"')).seq (char '"'))

def authorizationHeader : RunSubstitution where
  group := empty
  lead := authorizationLead
  run := isTokenChar
  replacement := "Authorization: Bearer [REDACTED]".toList
  starts := by
    rintro ⟨x, y, _, ⟨z, w, hz, _, rfl⟩, hnil⟩
    obtain ⟨_, rfl, _⟩ : x = [] ∧ z = [] ∧ w = [] := by simpa using hnil.symm
    simp [literal, word, Pattern.Language] at hz

def bearerToken : RunSubstitution where
  group := empty
  lead := bearerLead
  run := isTokenChar
  replacement := "Bearer [REDACTED]".toList
  starts := by
    rintro ⟨x, y, _, ⟨z, w, _, hw, rfl⟩, hnil⟩
    obtain ⟨_, _, rfl⟩ : x = [] ∧ z = [] ∧ w = [] := by simpa using hnil.symm
    simp [language_plus] at hw

def keyAssignment : RunSubstitution where
  group := secretNames
  lead := char '='
  run := isValueChar
  replacement := "=[REDACTED]".toList
  starts := by
    rintro ⟨x, y, _, hy, hnil⟩
    obtain ⟨_, rfl⟩ : x = [] ∧ y = [] := by simpa using hnil.symm
    simp at hy

/-- The raw template keeps the backslashes before its quotes. -/
def jsonSecret : Substitution where
  group := secretKey
  rest := quotedRun
  replacement := "\\\"[REDACTED]\\\"".toList
  reads := by
    rintro ⟨x, y, hx, _, hnil⟩
    obtain ⟨rfl, _⟩ : x = [] ∧ y = [] := by simpa using hnil.symm
    simp at hx

/-- The patterns in the order in which they are applied. -/
def patterns : List Substitution :=
  [authorizationHeader.toSubstitution, bearerToken.toSubstitution, keyAssignment.toSubstitution,
    jsonSecret]

def redact (value : Text) : Text := patterns.foldl (fun redacted r => r.sub redacted) value

def redactSensitive (value : Option Text) : Option Text := value.map redact

/-! ## Requests -/

structure MemoryLabApiError where
  message : Text
  method : Option Text := none
  url : Option Text := none
  statusCode : Option ℕ := none
  body : Option Text := none
deriving DecidableEq

structure MemoryLabApiClient where
  baseUrl : Text
  timeoutS : ℚ := 15
  defaultWorkspaceId : Option Text := none
  apiToken : Option Text := none
  failClosedReason : Option Text := none
deriving DecidableEq

/-- What is handed to the HTTP library. -/
structure HttpRequest (Params Json : Type) where
  method : Text
  url : Text
  params : Option Params
  json : Option Json
  headers : Option (List (Text × Text))
  timeout : ℚ

/-- A `RequestException` with its text, or a response whose body may not be JSON. -/
inductive HttpOutcome (Payload : Type) where
  | exception (text : Text)
  | response (statusCode : ℕ) (text : Text) (json : Option Payload)
deriving DecidableEq

namespace MemoryLabApiClient

/-- The workspace of a call, or the default of the client. -/
def selectedWorkspaceId (client : MemoryLabApiClient) (workspaceId : Option Text) :
    Option Text :=
  match (workspaceId.map Text.strip).filter (· ≠ []) with
  | some explicit => some explicit
  | none => (client.defaultWorkspaceId.map Text.strip).filter (· ≠ [])

def headers (client : MemoryLabApiClient) (workspaceId : Option Text) : List (Text × Text) :=
  ((client.selectedWorkspaceId workspaceId).map fun selected =>
      ("X-Workspace-ID".toList, selected)).toList ++
    ((client.apiToken.filter (· ≠ [])).map fun token =>
      ("Authorization".toList, "Bearer ".toList ++ token)).toList

variable {Params Json Payload : Type}

/-- `_request`: refusals come before the call, and every error text is redacted. -/
def request (client : MemoryLabApiClient) (send : HttpRequest Params Json → HttpOutcome Payload)
    (method path : Text) (params : Option Params) (jsonBody : Option Json)
    (workspaceId : Option Text) : Except MemoryLabApiError Payload :=
  let url := client.baseUrl ++ path
  match client.failClosedReason.filter (· ≠ []) with
  | some reason => .error { message := reason, method := some method, url := some url }
  | none =>
    let headers := client.headers workspaceId
    match send ⟨method, url, params, jsonBody, if headers = [] then none else some headers,
        client.timeoutS⟩ with
    | .exception text =>
      .error
        { message := "Request failed for ".toList ++ method ++ " ".toList ++ url ++ ": ".toList ++
            redact text
          method := some method
          url := some url }
    | .response statusCode text json =>
      if statusCode < 200 ∨ statusCode ≥ 300 then
        let safeBody := redact (text.take 2000)
        .error
          { message := "Non-2xx from ".toList ++ method ++ " ".toList ++ url ++ ": ".toList ++
              (toString statusCode).toList ++ " body=".toList ++ safeBody.take 500
            method := some method
            url := some url
            statusCode := some statusCode
            body := some safeBody }
      else
        match json with
        | some payload => .ok payload
        | none =>
          .error
            { message := "Invalid JSON from ".toList ++ method ++ " ".toList ++ url
              method := some method
              url := some url
              statusCode := some statusCode
              body := redactSensitive (some (text.take 2000)) }

end MemoryLabApiClient

end MemoryLab.McpClient
