import MemoryLab.Library.ReadCommitted
import MemoryLab.Model.ClassifyCatchup

/-! # Concurrent classifications of one content

One save writes its classification while runs of the job write theirs, under READ COMMITTED and
one statement after another. The statements that link a domain write no column of the model. -/

namespace MemoryLab.Classify

open Library Library.Rows ReadCommitted Adapter

/-- The save, or a run of the job numbered by `κ`. -/
inductive Writer (κ : Type*) where
  | ingest
  | catchup (k : κ)
deriving DecidableEq

structure ClassificationWrite where
  result : ClassificationResult
  classifierVersion : String
deriving DecidableEq

/-- The save writes what it was told or has computed; the job has one classifier. -/
structure Writes (κ : Type*) where
  ingest : ClassificationWrite
  catchup : κ → ClassificationResult

/-- The next statement of a transaction. An `UPDATE` that has started keeps the rows it has
still to write. -/
inductive WritePhase where
  | selectMemoryType
  | selectHistory
  | updateClassified (targets : Option (List ℕ))
  | updateContent (targets : Option (List ℕ))
  | deactivate (targets : Option (List ℕ))
  | insertHistory
  | written
  | classified
  | skipped
  | failed
deriving DecidableEq

structure System (κ : Type*) where
  contentItems : Table (Writer κ) ContentItem
  history : Table (Writer κ) ClassificationRow
  phases : Writer κ → WritePhase

variable {κ : Type*} [DecidableEq κ]

def Writes.of (writes : Writes κ) : Writer κ → ClassificationWrite
  | .ingest => writes.ingest
  | .catchup k => ⟨writes.catchup k, heuristicClassifierVersion⟩

/-- The job's `UPDATE` leaves alone what has a type. -/
def updatedBy (contentId : ContentId) : Writer κ → ContentItem → Bool
  | .ingest, item => hasContentId contentId item
  | .catchup _, item => hasContentId contentId item && item.memoryType.isNone

def isActiveOf (contentId : ContentId) (row : ClassificationRow) : Bool :=
  row.contentId == contentId && row.isActiveClassification

def isSameActive (contentId : ContentId) (write : ClassificationWrite)
    (row : ClassificationRow) : Bool :=
  row.contentId == contentId && row.memoryType == write.result.memoryType &&
    row.classifierVersion == write.classifierVersion && row.isActiveClassification

def setInactive (row : ClassificationRow) : ClassificationRow :=
  { row with isActiveClassification := false }

def newClassification (write : ClassificationWrite) (workspaceId : WorkspaceId)
    (contentId : ContentId) : ClassificationRow :=
  { workspaceId, contentId, memoryType := write.result.memoryType,
    memorySubType := write.result.memorySubType, classifyConfidence := write.result.confidence,
    classifierVersion := write.classifierVersion, projectTopic := write.result.projectTopic,
    signals := write.result.signals, isActiveClassification := true }

namespace System

def ofDatabase (db : Database) : System κ where
  contentItems := ofRows db.contentItems
  history := ofRows db.classificationHistory
  phases
    | .ingest => .selectHistory
    | .catchup _ => .selectMemoryType

def enter (s : System κ) (w : Writer κ) (phase : WritePhase) : System κ :=
  { s with phases := Function.update s.phases w phase }

def commit (s : System κ) (w : Writer κ) : System κ :=
  { s with
    contentItems := ReadCommitted.commit w s.contentItems
    history := ReadCommitted.commit w s.history }

def abort (s : System κ) (w : Writer κ) : System κ :=
  { s with
    contentItems := ReadCommitted.abort w s.contentItems
    history := ReadCommitted.abort w s.history }

def fail (s : System κ) (w : Writer κ) : System κ := (s.abort w).enter w .failed

/-- The next statement of a transaction. -/
def statement (writes : Writes κ) (workspaceId : WorkspaceId) (contentId : ContentId)
    (s : System κ) (w : Writer κ) : System κ :=
  let write := writes.of w
  match s.phases w with
  | .selectMemoryType =>
    let existing := (seenBy w s.contentItems).find? (hasContentId contentId)
    if (existing.bind (·.memoryType)).isSome then s.enter w .skipped
    else s.enter w .selectHistory
  | .selectHistory =>
    if (seenBy w s.history).any (isSameActive contentId write) then
      match w with
      | .ingest => s.enter w .skipped
      | .catchup _ => s.enter w (.updateClassified none)
    else s.enter w (.updateContent none)
  | .updateClassified targets =>
    if !storable (write.result.memorySubType.getD []) then s.fail w
    else if targets = some [] then (s.commit w).enter w .classified
    else
      let update := advance w (updatedBy contentId w) (setClassification write.result)
        s.contentItems targets
      { s with contentItems := update.1 }.enter w (.updateClassified update.2)
  | .updateContent targets =>
    if !storable (write.result.memorySubType.getD []) then s.fail w
    else if targets = some [] then s.enter w (.deactivate none)
    else
      let update := advance w (updatedBy contentId w) (setClassification write.result)
        s.contentItems targets
      { s with contentItems := update.1 }.enter w (.updateContent update.2)
  | .deactivate targets =>
    if targets = some [] then s.enter w .insertHistory
    else
      let update := advance w (isActiveOf contentId) setInactive s.history targets
      { s with history := update.1 }.enter w (.deactivate update.2)
  | .insertHistory =>
    if !(storable (write.result.projectTopic.getD []) && write.result.signals.all storable) then
      s.fail w
    else
      { s with history := insert w (newClassification write workspaceId contentId) s.history
        }.enter w .written
  | .written => (s.commit w).enter w .classified
  | .classified => s
  | .skipped => s
  | .failed => s

end System

/-- The scheduler runs a transaction's next statement, or the database ends a transaction that
has not committed. -/
inductive WriteAction (κ : Type*) where
  | next (w : Writer κ)
  | abort (w : Writer κ)
deriving DecidableEq

def System.step (writes : Writes κ) (workspaceId : WorkspaceId) (contentId : ContentId)
    (s : System κ) : WriteAction κ → System κ
  | .next w => s.statement writes workspaceId contentId w
  | .abort w => if s.phases w = .classified then s else s.fail w

end MemoryLab.Classify
