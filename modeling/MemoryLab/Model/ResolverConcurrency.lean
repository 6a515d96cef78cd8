import MemoryLab.Library.ReadCommitted
import MemoryLab.Model.Resolver

/-! # Concurrent resolver calls

Calls of one key run as transactions under READ COMMITTED, one statement after another. A
phase keeps what the call's earlier statements returned. -/

namespace MemoryLab.Resolver

open Library ReadCommitted ScopePipeline

/-- A call of the key, past its early exits and with its scope resolved. -/
structure KeyedCall (key : StateKey) where
  now : Timestamp
  args : ResolveArgs
  call : AdmittedCall
  scope : ScopeResolution
  admission : args.admission = .ok call
  identity : args.identity = some key.stateIdentity
  key_eq : call.key key.stateIdentity = key

/-- The next statement of a call. An `UPDATE` that has started keeps the rows it has still to
write; `seen` are the anchors that the `SELECT` of the previous content ran over. -/
inductive Phase where
  | selectExisting
  | refresh (existing : CurrentStateAnchor) (targets : Option (List ℕ))
  | refreshed
  | selectPrevious
  | supersede (seen : List CurrentStateAnchor) (targets : Option (List ℕ))
  | markPrevious (seen : List CurrentStateAnchor) (previous : ContentId)
      (targets : Option (List ℕ))
  | insert (seen : List CurrentStateAnchor)
  | markCurrent (seen : List CurrentStateAnchor) (targets : Option (List ℕ))
  | tookOver (seen : List CurrentStateAnchor)
  | committed
  | aborted
deriving DecidableEq

structure System (ι : Type*) where
  anchors : Table ι CurrentStateAnchor
  contentItems : Table ι ContentItem
  phase : ι → Phase

variable {ι : Type*} [DecidableEq ι] {key : StateKey}

namespace System

/-- Every call is about to start. -/
def ofDatabase (db : Database) : System ι :=
  ⟨ofRows db.anchors, ofRows db.contentItems, fun _ => .selectExisting⟩

def enter (s : System ι) (i : ι) (phase : Phase) : System ι :=
  { s with phase := Function.update s.phase i phase }

def commit (s : System ι) (i : ι) : System ι :=
  { anchors := ReadCommitted.commit i s.anchors
    contentItems := ReadCommitted.commit i s.contentItems
    phase := Function.update s.phase i .committed }

def abort (s : System ι) (i : ι) : System ι :=
  { anchors := ReadCommitted.abort i s.anchors
    contentItems := ReadCommitted.abort i s.contentItems
    phase := Function.update s.phase i .aborted }

def updateAnchors (s : System ι) (i : ι) (p : CurrentStateAnchor → Bool)
    (f : CurrentStateAnchor → CurrentStateAnchor) (targets : Option (List ℕ))
    (next : Option (List ℕ) → Phase) : System ι :=
  { s with
    anchors := (advance i p f s.anchors targets).1
    phase := Function.update s.phase i (next (advance i p f s.anchors targets).2) }

def updateItems (s : System ι) (i : ι) (p : ContentItem → Bool) (f : ContentItem → ContentItem)
    (targets : Option (List ℕ)) (next : Option (List ℕ) → Phase) : System ι :=
  { s with
    contentItems := (advance i p f s.contentItems targets).1
    phase := Function.update s.phase i (next (advance i p f s.contentItems targets).2) }

/-- The anchor that a call inserts, under an identifier no version of a row uses. -/
def insertedAnchor (s : System ι) (call : KeyedCall key) (seen : List CurrentStateAnchor) :
    CurrentStateAnchor :=
  newAnchor call.args call.call key.stateIdentity call.scope (Resolver.selectPrevious key seen)
    call.now (Rows.freshId ((versions s.anchors).map (·.anchorId)))

/-- The next statement of one call. -/
def statement (calls : ι → KeyedCall key) (s : System ι) (i : ι) : System ι :=
  let contentId := (calls i).call.contentId
  let scope := (calls i).scope.scope
  match s.phase i with
  | .selectExisting =>
    if !storable key.stateIdentity then s.abort i
    else match selectExistingSame key contentId (seenBy i s.anchors) with
    | some existing => s.enter i (.refresh existing none)
    | none => s.enter i .selectPrevious
  | .refresh existing targets =>
    if targets = some [] then s.enter i .refreshed
    else s.updateItems i (hasContentId contentId)
      (setCurrent scope key.stateIdentity existing.supersedesContentId) targets
      (.refresh existing)
  | .selectPrevious => s.enter i (.supersede (seenBy i s.anchors) none)
  | .supersede seen targets =>
    if targets = some [] then
      match Resolver.selectPrevious key seen with
      | some previous => s.enter i (.markPrevious seen previous none)
      | none => s.enter i (.insert seen)
    else s.updateAnchors i (toSupersede key contentId) (setSuperseded (calls i).now) targets
      (.supersede seen)
  | .markPrevious seen previous targets =>
    if targets = some [] then s.enter i (.insert seen)
    else s.updateItems i (hasContentId previous) (setNotCurrent scope) targets
      (.markPrevious seen previous)
  | .insert seen =>
    if !storable ((calls i).args.memorySubType.getD []) then s.abort i
    else if contentId ∉ (seenBy i s.contentItems).map (·.contentId) then s.abort i
    else { s with
      anchors := ReadCommitted.insert i (s.insertedAnchor (calls i) seen) s.anchors
      phase := Function.update s.phase i (.markCurrent seen none) }
  | .markCurrent seen targets =>
    if targets = some [] then s.enter i (.tookOver seen)
    else s.updateItems i (hasContentId contentId)
      (setCurrent scope key.stateIdentity (Resolver.selectPrevious key seen)) targets
      (.markCurrent seen)
  | .refreshed => s.commit i
  | .tookOver _ => s.commit i
  | .committed => s
  | .aborted => s

end System

/-- The scheduler runs a call's next statement, or the database ends a call that has not
committed. -/
inductive Action (ι : Type*) where
  | statement (i : ι)
  | abort (i : ι)
deriving DecidableEq

def System.step (calls : ι → KeyedCall key) (s : System ι) : Action ι → System ι
  | .statement i => s.statement calls i
  | .abort i => if s.phase i = .committed then s else s.abort i

end MemoryLab.Resolver
