import Mathlib.Data.Char
import Mathlib.Data.List.Lex
import MemoryLab.Model.GraphHealth

/-! # Candidates for aliases -/

namespace MemoryLab.AliasHygiene

open Library Library.Rows
open EdgeInference (sorted)
open GraphHealth (GraphHealthWarning)

/-- The tables of Unicode: decomposition and case folding. -/
structure Unicode where
  nfkd : Text → Text
  casefold : Text → Text
  nfkd_nil : nfkd [] = []

def isAscii (c : Char) : Bool := c.toNat < 128

/-- `[\W_]` on ASCII characters. -/
def isBreak (c : Char) : Bool := !c.isAlphanum

/-- Case folding lowers an ASCII text. -/
def normalizeEntityName (unicode : Unicode) (value : Text) : Text :=
  let folded := (Text.lower ((unicode.nfkd value).filter isAscii)).strip
  (Text.subRuns Text.isSpace [' '] (Text.subRuns isBreak [' '] folded)).strip

structure AliasCandidate where
  candidateId : Text
  terms : List Text
  candidateType : Text
  confidence : ℚ
  evidence : List Text
  requiresHumanReview : Bool
  mutationAllowed : Bool
deriving DecidableEq

structure AliasCandidateReport where
  candidateCount : ℕ
  candidates : List AliasCandidate
  warnings : List GraphHealthWarning
  limitations : List Text
deriving DecidableEq

def candidateType (unicode : Unicode) (terms : List Text) : Text :=
  let lowered := (terms.map unicode.casefold).dedup
  let normalized := (terms.map (normalizeEntityName unicode)).dedup
  if lowered.length = 1 ∧ 1 < terms.length then "duplicate".toList
  else if normalized.length = 1 then "alias_or_multilingual_variant".toList
  else "ambiguous".toList

def groupsOf (unicode : Unicode) (labels : List Text) : Dict Text (List Text) :=
  Dict.groupBy (normalizeEntityName unicode) ((labels.map Text.strip).filter (· ≠ []))

def uniqueTerms (unicode : Unicode) (terms : List Text) : List Text :=
  sortOn (fun term => [unicode.casefold term, term]) terms.dedup

def candidateOf (unicode : Unicode) (groups : Dict Text (List Text)) (norm : Text) :
    Option AliasCandidate :=
  let terms := uniqueTerms unicode ((groups.get? norm).getD [])
  if terms.length < 2 then none
  else some
    { candidateId := "alias_candidate:".toList ++ norm, terms,
      candidateType := candidateType unicode terms, confidence := 8 / 10,
      evidence := ["same_normalized_label".toList], requiresHumanReview := true,
      mutationAllowed := false }

def reviewRequired (candidates : List AliasCandidate) : GraphHealthWarning :=
  { code := "ALIAS_CANDIDATE_REVIEW_REQUIRED".toList
    message := "Alias/canonical candidates are report-only and require HITL review.".toList
    affectedNodeIds := sorted (candidates.flatMap (·.terms)).dedup }

def generateCandidates (unicode : Unicode) (labels : List Text) : AliasCandidateReport :=
  let groups := groupsOf unicode labels
  let candidates := (sorted (groups.map (·.1))).filterMap (candidateOf unicode groups)
  { candidateCount := candidates.length
    candidates
    warnings := if candidates = [] then [] else [reviewRequired candidates]
    limitations :=
      if candidates = [] then ["no_alias_candidates_detected_from_provided_labels".toList]
      else [] }

end MemoryLab.AliasHygiene
