import MemoryLab.Library.PyText

/-! # Markers of a conflict

The detector reads a text line by line. -/

namespace MemoryLab.Conflicts

open Library

def counterfindingMarkers : List Text :=
  ["counterfinding".toList, "rejected".toList, "reason_rejected".toList, "reversal".toList,
    "reversed".toList]

def contradictionMarkers : List Text := ["contradicts".toList, "conflicts_with".toList]

def supportMarkers : List Text :=
  ["supports".toList, "confirmed".toList, "evidence_for".toList, "implemented".toList]

def scopeMarkers : List Text := ["current_state_scope".toList, "scope".toList]

def allLineMarkers : List Text :=
  counterfindingMarkers ++ contradictionMarkers ++ supportMarkers ++ scopeMarkers ++
    ["must".toList, "must_not".toList, "allowed".toList, "forbidden".toList, "claim".toList,
      "status".toList, "decision".toList]

structure MarkerValue where
  name : Text
  value : Text
deriving DecidableEq

inductive ClaimKind where
  | must
  | allowed
  | claimEnabledDisabled
  | statusActiveObsolete
  | decisionUse
deriving DecidableEq

inductive Polarity where
  | positive
  | negative
deriving DecidableEq

structure OpposingClaimMarker where
  kind : ClaimKind
  polarity : Polarity
  obj : Text
  raw : Text
deriving DecidableEq

structure ParsedMarkers where
  scope : Option Text := none
  counterfinding : List MarkerValue := []
  contradiction : List MarkerValue := []
  support : List MarkerValue := []
  opposingClaims : List OpposingClaimMarker := []
  matchedMarkers : List Text := []
deriving DecidableEq

/-! ## Normal forms -/

def isLowerAlnum (c : Char) : Bool := ('a' ≤ c && c ≤ 'z') || ('0' ≤ c && c ≤ '9')

/-- `[^a-z0-9\-\s]` becomes a space. -/
def safePunct (c : Char) : Char :=
  if isLowerAlnum c || c == '-' || Text.isSpace c then c else ' '

def replaceChar (old new : Char) (s : Text) : Text := s.map fun c => if c = old then new else c

def normalizeScope (value : Option Text) : Text :=
  let text := Text.strip ((value.filter (· ≠ [])).getD "global".toList)
  let text := replaceChar '_' '-' text.lower
  let spaced := text.map safePunct
  let dashed := Text.stripChars (· == '-') (Text.subRuns Text.isSpace ['-'] spaced)
  if dashed = [] then "global".toList else dashed

def normalizeObject (value : Option Text) : Text :=
  let text := replaceChar '-' ' ' (replaceChar '_' ' ' (value.getD []).strip.lower)
  (Text.subRuns Text.isSpace [' '] (text.map safePunct)).strip

/-! ## Lines -/

def isMarkerName (c : Char) : Bool :=
  ('a' ≤ c && c ≤ 'z') || ('A' ≤ c && c ≤ 'Z') || c == '_'

/-- `^\s*([a-zA-Z_]+)\s*:\s*(.+?)\s*$` on one line. The name is followed by no other letter, so
it cannot be cut short; the value is blank when only white space follows the colon. -/
def matchMarker (line : Text) : Option MarkerValue :=
  let line := line.dropWhile Text.isSpace
  let name := line.takeWhile isMarkerName
  match (line.dropWhile isMarkerName).dropWhile Text.isSpace with
  | ':' :: value =>
    if name = [] ∨ value = [] then none else some ⟨Text.lower name, Text.strip value⟩
  | _ => none

/-- The lines that are markers, in order. -/
def markerLines (text : Text) : List MarkerValue := text.splitLines.filterMap matchMarker

/-- `value[len(start):]` of a text that starts so. -/
def afterPrefix (start value : Text) : Option Text :=
  if start.isPrefixOf value then some (value.drop start.length) else none

/-- `value[:-len(end)]` of a text that ends so. -/
def beforeSuffix (stop value : Text) : Option Text :=
  if stop.isSuffixOf value then some (value.take (value.length - stop.length)) else none

/-- The claim that one marker makes, before empty objects are dropped. -/
def opposingClaim (marker : MarkerValue) : Option OpposingClaimMarker :=
  let obj := normalizeObject (some marker.value)
  let claim (kind : ClaimKind) (polarity : Polarity) (obj : Text) : OpposingClaimMarker :=
    ⟨kind, polarity, obj, marker.value⟩
  if marker.name = "must".toList ∧ obj ≠ [] then some (claim .must .positive obj)
  else if marker.name = "must_not".toList ∧ obj ≠ [] then some (claim .must .negative obj)
  else if marker.name = "allowed".toList ∧ obj ≠ [] then some (claim .allowed .positive obj)
  else if marker.name = "forbidden".toList ∧ obj ≠ [] then some (claim .allowed .negative obj)
  else if marker.name = "claim".toList then
    match beforeSuffix " is enabled".toList obj, beforeSuffix " is disabled".toList obj with
    | some subject, _ => some (claim .claimEnabledDisabled .positive subject)
    | none, some subject => some (claim .claimEnabledDisabled .negative subject)
    | none, none => none
  else if marker.name = "status".toList then
    if obj = "active".toList then some (claim .statusActiveObsolete .positive "status".toList)
    else if obj = "deprecated".toList ∨ obj = "obsolete".toList then
      some (claim .statusActiveObsolete .negative "status".toList)
    else none
  else if marker.name = "decision".toList then
    match afterPrefix "use ".toList obj, afterPrefix "do not use ".toList obj with
    | some subject, _ => some (claim .decisionUse .positive subject)
    | none, some subject => some (claim .decisionUse .negative subject)
    | none, none => none
  else none

def parseOpposingClaims (text : Text) : List OpposingClaimMarker :=
  ((markerLines text).filterMap opposingClaim).filter (·.obj ≠ [])

/-- What one marker line adds to the markers read before it. -/
def ParsedMarkers.read (parsed : ParsedMarkers) (marker : MarkerValue) : ParsedMarkers :=
  if marker.name ∉ allLineMarkers then parsed
  else
    let parsed := { parsed with matchedMarkers := parsed.matchedMarkers ++ [marker.name] }
    if marker.name ∈ scopeMarkers then
      { parsed with scope := some (normalizeScope (some marker.value)) }
    else if marker.name ∈ counterfindingMarkers then
      { parsed with counterfinding := parsed.counterfinding ++ [marker] }
    else if marker.name ∈ contradictionMarkers then
      { parsed with contradiction := parsed.contradiction ++ [marker] }
    else if marker.name ∈ supportMarkers then
      { parsed with support := parsed.support ++ [marker] }
    else parsed

def extractMarkers (text : Text) : ParsedMarkers :=
  { (markerLines text).foldl ParsedMarkers.read {} with
    opposingClaims := parseOpposingClaims text }

def isSupportOnly (markers : ParsedMarkers) : Bool :=
  !markers.support.isEmpty && markers.counterfinding.isEmpty && markers.contradiction.isEmpty &&
    markers.opposingClaims.isEmpty

end MemoryLab.Conflicts
