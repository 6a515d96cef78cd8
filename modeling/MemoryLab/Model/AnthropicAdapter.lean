import MemoryLab.Library.PyValue
import MemoryLab.Model.AnswerGate

/-! # The Anthropic adapter

A message is asked for, and its text is read as JSON. The client and `json.loads` are
parameters. -/

namespace MemoryLab.AnthropicAdapter

open Library
open Answer (FailureCode)

structure LLMRequest extends Answer.LLMRequest where
  expectedSchema : Option PyDict := none

structure LLMResponse extends Answer.LLMResponse where
  provider : String := "anthropic"
  jsonData : Option PyValue := none

/-- The client, unless its setup fails, and what a call of it returns or the code of what it
raises. -/
structure Messages where
  initFailure : Option FailureCode
  model : Text
  create : Answer.LLMRequest → Except FailureCode Text

def degraded (code : FailureCode) (model text : Text) : LLMResponse :=
  { text, model, degraded := true, failureReason := some code }

/-- `_call_messages`. -/
def callMessages (messages : Messages) (request : Answer.LLMRequest) : LLMResponse :=
  match messages.initFailure with
  | some code => degraded code [] []
  | none =>
    match messages.create request with
    | .ok text => { text := text.strip, model := messages.model }
    | .error code => degraded code messages.model []

/-! ## JSON -/

/-- What `json.loads` does. -/
inductive Loaded where
  | value (data : PyValue)
  | valueError
  | otherError

inductive Raised where
  | typeError
  | otherError
deriving DecidableEq

def fence : Text := "```".toList

/-- The text inside a fence, whose last line may be missing. -/
def cleaned (raw : Text) : Text :=
  let text := raw.strip
  if fence.isPrefixOf text then
    let lines := text.splitOn '\n'
    List.intercalate ['\n']
      (if lines.getLast?.any (Text.strip · = fence) then (lines.drop 1).dropLast else lines.drop 1)
  else text

def isText (key : Text) : PyValue → Bool
  | .str s => s = key
  | _ => false

/-- `key in data`. -/
def contains (key : Text) : PyValue → Except Raised Bool
  | .dict entries => .ok (Dict.get? key entries).isSome
  | .list items => .ok (items.any (isText key))
  | .str s => .ok (key <:+: s)
  | _ => .error .typeError

def missingKeys (data : PyValue) : List Text → Except Raised (List Text)
  | [] => .ok []
  | key :: keys => do
    let present ← contains key data
    let missing ← missingKeys data keys
    return if present then missing else key :: missing

def LLMRequest.schemaKeys (request : LLMRequest) : List Text :=
  (request.expectedSchema.getD []).map (·.1)

/-- The response for a value that was parsed. -/
def responseFor (request : LLMRequest) (text model : Text) (data : PyValue) :
    Except Raised LLMResponse := do
  let missing ← missingKeys data request.schemaKeys
  return if missing ≠ [] then degraded .schemaValidationFailed model text
    else { text, model, jsonData := some data }

def completeJson (loads : Text → Loaded) (messages : Messages) (request : LLMRequest) :
    Except Raised LLMResponse :=
  let response := callMessages messages request.toLLMRequest
  if response.degraded then .ok response
  else
    match loads (cleaned response.text) with
    | .otherError => .error .otherError
    | .valueError => .ok (degraded .invalidJson response.model response.text)
    | .value data => responseFor request response.text response.model data

end MemoryLab.AnthropicAdapter
