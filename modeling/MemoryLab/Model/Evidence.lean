import MemoryLab.Library.PyValue

/-! # Evidence of an answer

Rows of the retrieval become evidence items, one for every content. A number is the exact one
that its float stands for. -/

namespace MemoryLab.Evidence

open Library

/-- A row of the retrieval. A key that the row may lack has an option around its value. -/
structure EvidenceRow where
  contentId : Option Text := none
  id : Option Text := none
  chunkId : Option Text := none
  text : Option Text := none
  snippet : Option Text := none
  score : Option ℚ := none
  distance : Option ℚ := none
  confidence : Option ℚ := none
  retrievalPath : Option (Option Text) := none
  scoreKind : Option (Option Text) := none
  source : Option Text := none
  title : Option Text := none
  retrievalMode : Option Text := none
  embeddingStatus : Option Text := none
  retrievalReason : Option Text := none
  rankingReason : Option Text := none
  resultTrust : Option Text := none
  sourcePath : Option Text := none
  hubMatch : PyValue := .none
  graphMatch : PyValue := .none
  knowledgePath : PyValue := .none
  scoreComponents : PyValue := .none
  metadata : PyValue := .none

structure EvidenceItem where
  evidenceId : Text
  rank : ℤ
  contentId : Text
  chunkId : Option Text := none
  snippet : Text
  score : Option ℚ := none
  scoreKind : Text
  retrievalPath : Text
  source : Option Text := none
  title : Option Text := none
  metadata : Option PyDict := none
  retrievalReason : Option Text := none
  rankingReason : Option Text := none
  hubMatch : PyValue := .none
  graphMatch : PyValue := .none
  knowledgePath : Option (List PyValue) := none
  scoreComponents : Option PyDict := none
  distance : Option ℚ := none
  confidence : Option ℚ := none
  resultTrust : Option Text := none
  sourcePath : Option Text := none
  isCurrent : Option Bool := none
  currentStateScope : Option Text := none
  csSupersedesContentId : Option Text := none

/-- `a or b`, where the empty text is false. -/
def orElse (a b : Option Text) : Option Text := (a.filter (· ≠ [])).or b

/-- `a or b` for a text `b`. -/
def orText (a : Option Text) (b : Text) : Text := (a.filter (· ≠ [])).getD b

def cleanSnippet (text : Text) (limit : ℕ) : Text :=
  let cleaned := Text.subRuns Text.isSpace [' '] text.strip
  if cleaned.length ≤ limit then cleaned
  else (cleaned.take (limit - 1)).rdropWhile Text.isSpace ++ ['…']

def scoreKindOf (retrievalPath : Text) : Text :=
  if retrievalPath.tails.any ("hub".toList.isPrefixOf ·) then "hub_link".toList
  else "chunk_text_match".toList

def digits (n : ℕ) : Text := Nat.toDigits 10 n

namespace EvidenceRow

variable (row : EvidenceRow)

/-- The keys of `PROVENANCE_METADATA_KEYS` with the values of a row, where two have defaults. -/
def provenance (retrievalPath scoreKind : Text) : List (String × PyValue) :=
  [("retrieval_mode", .ofText row.retrievalMode),
    ("retrieval_path", .ofText (row.retrievalPath.getD (some retrievalPath))),
    ("embedding_status", .ofText row.embeddingStatus),
    ("distance", .ofRat row.distance),
    ("score_kind", .ofText (row.scoreKind.getD (some scoreKind))),
    ("hub_match", row.hubMatch),
    ("graph_match", row.graphMatch),
    ("knowledge_path", row.knowledgePath),
    ("retrieval_reason", .ofText row.retrievalReason),
    ("ranking_reason", .ofText row.rankingReason),
    ("score_components", row.scoreComponents),
    ("result_trust", .ofText row.resultTrust),
    ("source_path", .ofText row.sourcePath)]

def provenanceMetadata (retrievalPath scoreKind : Text) : PyDict :=
  let existing : PyDict :=
    match row.metadata with
    | .dict entries => entries.filter fun entry => !entry.2.isNone
    | _ => []
  (row.provenance retrievalPath scoreKind).foldl PyDict.putSome existing

def reasonOfRetrieval (retrievalPath : Text) : Text :=
  orText row.retrievalReason <|
    if retrievalPath = "content_chunk_workspace_scoped".toList then
      "Matched chunk text in workspace-scoped deterministic retrieval.".toList
    else if retrievalPath = "hub_link_workspace_scoped".toList then
      "Included through workspace-scoped hub-linked content provenance.".toList
    else if retrievalPath = "pgvector_knn".toList then
      "Matched by pgvector nearest-neighbor retrieval.".toList
    else if retrievalPath = "deterministic_fallback".toList then
      ("Matched by deterministic fallback retrieval after " ++
        "provider/vector search was unavailable.").toList
    else "Matched through retrieval path: ".toList ++ retrievalPath ++ ['.']

def reasonOfRanking : Text :=
  orText row.rankingReason
    "Rank preserves the existing retrieval adapter order; diagnostics did not rerank.".toList

def pathStep (type : String) (value : PyValue) : PyValue :=
  .dict [("type".toList, .str type.toList), ("value".toList, value)]

def pathOfKnowledge (contentId : Text) (chunkId : Option Text) (retrievalPath : Text) :
    List PyValue :=
  match row.knowledgePath with
  | .list steps => steps
  | _ =>
    [pathStep "retrieval_path" (.str retrievalPath)] ++
      (if row.hubMatch.isNone then [] else [pathStep "hub" row.hubMatch]) ++
      (if row.graphMatch.isNone then [] else [pathStep "graph" row.graphMatch]) ++
      [pathStep "content" (.str contentId)] ++
      ((chunkId.filter (· ≠ [])).map fun chunkId => pathStep "chunk" (.str chunkId)).toList

def componentsOfScore (scoreKind retrievalPath : Text) : PyDict :=
  match row.scoreComponents with
  | .dict entries => entries.filter fun entry => !entry.2.isNone
  | _ =>
    [("score_kind".toList, .str scoreKind), ("retrieval_path".toList, .str retrievalPath),
      ("diagnostic_only".toList, .bool true)] ++
    [("score".toList, .ofRat row.score), ("distance".toList, .ofRat row.distance)].filter
      fun entry => !entry.2.isNone

/-- The item of a row that has a content and a text. -/
def toItem (limit : ℕ) (contentId text : Text) (rank : ℕ) : EvidenceItem :=
  let chunkId := (row.chunkId.filter (· ≠ [])).map Text.strip
  let retrievalPath := (orText (row.retrievalPath.getD none) "deterministic_db".toList).strip
  let scoreKind := (orText (row.scoreKind.getD none) (scoreKindOf retrievalPath)).strip
  let metadata := row.provenanceMetadata retrievalPath scoreKind
  { evidenceId :=
      match chunkId.filter (· ≠ []) with
      | some chunkId => "ev_".toList ++ contentId ++ ['_'] ++ chunkId
      | none => "ev_".toList ++ contentId ++ ['_'] ++ retrievalPath ++ ['_'] ++ digits rank
    rank, contentId, chunkId, snippet := cleanSnippet text limit, score := row.score, scoreKind,
    retrievalPath, source := orElse row.source row.title, title := row.title,
    metadata := some metadata |>.filter (!·.isEmpty),
    retrievalReason := some (row.reasonOfRetrieval retrievalPath),
    rankingReason := some row.reasonOfRanking, hubMatch := row.hubMatch,
    graphMatch := row.graphMatch,
    knowledgePath := some (row.pathOfKnowledge contentId chunkId retrievalPath),
    scoreComponents := some (row.componentsOfScore scoreKind retrievalPath),
    distance := row.distance, confidence := row.confidence, resultTrust := row.resultTrust,
    sourcePath := row.sourcePath }

def itemContentId : Text := (orText (orElse row.contentId row.id) []).strip

def itemText : Text := (orText (orElse row.text row.snippet) []).strip

end EvidenceRow

/-- The loop of `normalize_evidence`, with the contents that were seen. -/
def normalizeFrom (limit : ℕ) : List Text → ℕ → List EvidenceRow → List EvidenceItem
  | _, _, [] => []
  | seen, rank, row :: rows =>
    if row.itemContentId = [] ∨ row.itemText = [] ∨ row.itemContentId ∈ seen then
      normalizeFrom limit seen rank rows
    else
      row.toItem limit row.itemContentId row.itemText (rank + 1) ::
        normalizeFrom limit (row.itemContentId :: seen) (rank + 1) rows

def normalizeEvidence (results : List EvidenceRow) (limit : ℕ) : List EvidenceItem :=
  normalizeFrom limit [] 0 results

end MemoryLab.Evidence
