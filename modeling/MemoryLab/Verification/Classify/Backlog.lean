import MemoryLab.Library.Backlog
import MemoryLab.Model.CatchupRun
import MemoryLab.Verification.Resolver.Equations

/-! # The backlog of the job that catches up

A run works off the oldest unclassified rows. Those without usable text stay where they are, so
that enough of them keep every later row from being selected. -/

namespace MemoryLab.Classify

open Library Library.Rows Library.Backlog Transaction Adapter ContentReaders Resolver

/-! ## The backlog -/

/-- What the selection reads of a row. -/
structure QueueRow where
  contentId : ContentId
  workspaceId : Option WorkspaceId
  createdAt : Timestamp
  untyped : Bool

def queueRow (item : ContentItem) : QueueRow :=
  ⟨item.contentId, item.workspaceId, item.createdAt, item.memoryType == none⟩

def inWorkspace (workspaceId : Option WorkspaceId) (row : QueueRow) : Bool :=
  workspaceId.all fun workspaceId => row.workspaceId == some workspaceId

def isPending (workspaceId : Option WorkspaceId) (row : QueueRow) : Bool :=
  row.untyped && inWorkspace workspaceId row

def queueOf (workspaceId : Option WorkspaceId) (rows : List QueueRow) : List ContentId :=
  (sortOn (·.createdAt) (rows.filter (isPending workspaceId))).map (·.contentId)

/-- The unclassified contents, the oldest first. -/
def backlog (db : Database) (workspaceId : Option WorkspaceId) : List ContentId :=
  queueOf workspaceId (db.contentItems.map queueRow)

def usable (db : Database) (contentId : ContentId) : Bool :=
  (aggregatedText db contentId).strip ≠ []

theorem map_contentId_selectCandidates (db : Database) (limit : ℕ)
    (workspaceId : Option WorkspaceId) :
    (selectCandidates db limit workspaceId).map (·.contentId) =
      (backlog db workspaceId).take limit := by
  have hcreated : ∀ item, (queueRow item).createdAt = item.createdAt := fun _ => rfl
  rw [backlog, queueOf, List.filter_map, ← map_sortOn queueRow hcreated, selectCandidates,
    List.map_map, List.map_map, ← List.map_take]
  rfl

theorem mem_backlog {db : Database} {workspaceId : Option WorkspaceId} {contentId : ContentId} :
    contentId ∈ backlog db workspaceId ↔ ∃ item ∈ db.contentItems,
      item.contentId = contentId ∧ item.memoryType = none ∧
        inWorkspace workspaceId (queueRow item) = true := by
  simp only [backlog, queueOf, List.mem_map, mem_sortOn, List.mem_filter, isPending,
    Bool.and_eq_true]
  constructor
  · rintro ⟨row, ⟨⟨item, hitem, rfl⟩, huntyped, hworkspace⟩, hid⟩
    exact ⟨item, hitem, hid, by simpa [queueRow] using huntyped, hworkspace⟩
  · rintro ⟨item, hitem, hid, huntyped, hworkspace⟩
    exact ⟨queueRow item, ⟨⟨item, hitem, rfl⟩, by simp [queueRow, huntyped], hworkspace⟩, hid⟩

theorem nodup_backlog {db : Database} (hnodup : db.contentIds.Nodup)
    (workspaceId : Option WorkspaceId) : (backlog db workspaceId).Nodup := by
  have hids : ((db.contentItems.map queueRow).map (·.contentId)).Nodup := by
    rw [List.map_map]
    exact hnodup
  rw [backlog, queueOf, ((perm_sortOn _).map QueueRow.contentId).nodup_iff]
  exact hids.sublist (List.filter_sublist.map _)

/-! ## What gives types to contents -/

def settle (ids : List ContentId) (row : QueueRow) : QueueRow :=
  if row.contentId ∈ ids then { row with untyped := false } else row

/-- The contents named have types now, and nothing else of the queue has changed. -/
structure Settles (ids : List ContentId) (db next : Database) : Prop where
  items : next.contentItems.map queueRow = (db.contentItems.map queueRow).map (settle ids)
  chunks : next.contentChunks = db.contentChunks

theorem settle_nil (row : QueueRow) : settle [] row = row := by simp [settle]

@[simp] theorem contentId_settle (ids : List ContentId) (row : QueueRow) :
    (settle ids row).contentId = row.contentId := by
  unfold settle
  split <;> rfl

theorem settle_append (first second : List ContentId) (row : QueueRow) :
    settle (first ++ second) row = settle second (settle first row) := by
  by_cases hfirst : row.contentId ∈ first <;> by_cases hsecond : row.contentId ∈ second <;>
    simp [settle, hfirst, hsecond]

theorem Settles.of_map_eq {db next : Database}
    (hitems : next.contentItems.map queueRow = db.contentItems.map queueRow)
    (hchunks : next.contentChunks = db.contentChunks) : Settles [] db next :=
  ⟨by rw [hitems, List.map_congr_left fun row _ => settle_nil row, List.map_id'], hchunks⟩

theorem Settles.refl (db : Database) : Settles [] db db := .of_map_eq rfl rfl

theorem Settles.trans {first second : List ContentId} {db next last : Database}
    (h : Settles first db next) (h' : Settles second next last) :
    Settles (first ++ second) db last := by
  refine ⟨?_, h'.chunks.trans h.chunks⟩
  rw [h'.items, h.items, List.map_map]
  exact List.map_congr_left fun row _ => (settle_append first second row).symm

section Settled

variable {ids : List ContentId} {db next : Database} (h : Settles ids db next)
include h

theorem Settles.contentIds : next.contentIds = db.contentIds := by
  have hids := congrArg (List.map QueueRow.contentId) h.items
  rw [List.map_map, List.map_map, List.map_map] at hids
  calc next.contentIds = next.contentItems.map (QueueRow.contentId ∘ queueRow) := rfl
    _ = db.contentItems.map (QueueRow.contentId ∘ settle ids ∘ queueRow) := hids
    _ = db.contentIds := List.map_congr_left fun item _ => contentId_settle ids (queueRow item)

theorem Settles.usable_eq : usable next = usable db := by
  funext contentId
  rw [usable, usable, aggregatedText, aggregatedText, h.chunks]

theorem Settles.backlog_eq (workspaceId : Option WorkspaceId) :
    backlog next workspaceId =
      (backlog db workspaceId).filter fun contentId => decide (contentId ∉ ids) := by
  have hqueue := queue_map QueueRow.createdAt (isPending workspaceId)
    (fun row => decide (row.contentId ∈ ids)) (settle ids) (db.contentItems.map queueRow)
    (fun row _ hmem => by simp [settle, isPending, of_decide_eq_true hmem])
    (fun row _ hmem => by simp [settle, of_decide_eq_false hmem])
  rw [backlog, backlog, queueOf, queueOf, h.items, hqueue]
  simp only [← decide_not]
  exact (List.filter_map (p := fun contentId => decide (contentId ∉ ids))
    (f := QueueRow.contentId)).symm

end Settled

/-! ## The resolver -/

theorem map_queueRow {f : ContentItem → ContentItem}
    (hf : ∀ item, queueRow (f item) = queueRow item)
    {p : ContentItem → Bool} (items : List ContentItem) :
    (updateWhere p f items).map queueRow = items.map queueRow :=
  map_updateWhere queueRow hf items

/-- The resolver gives no content a type. -/
theorem settles_resolveStep (db : Database) (call : ResolveCall) :
    Settles [] db (resolveStep db call) := by
  have heffect := resolveStep_effect db call
  generalize resolveStep db call = next at heffect ⊢
  cases heffect with
  | unchanged => exact Settles.refl db
  | grouped => exact .of_map_eq (map_queueRow (f := setScope _) (fun _ => rfl) _) rfl
  | refreshed => exact .of_map_eq (map_queueRow (f := setCurrent _ _ _) (fun _ => rfl) _) rfl
  | tookOver scope =>
      refine .of_map_eq ((map_queueRow (f := setCurrent _ _ _) (fun _ => rfl) _).trans ?_) rfl
      unfold markSuperseded
      split
      · exact map_queueRow (f := setNotCurrent _) (fun _ => rfl) _
      · rfl

/-! ## The writes -/

theorem storable_keywords (type : MemoryType) :
    ((keywordSignals type).all fun group => group.1.all fun pattern =>
      storable pattern.toList) = true := by
  cases type <;> decide +kernel

theorem storable_firedSignals (found : Phrase → Bool) {args : ClassifyArgs}
    (hnode : args.nodeType = none) (type : MemoryType) :
    (firedSignals found args type).all storable = true := by
  rw [firedSignals, boostedType, hnode, Option.bind_none, if_neg (Option.some_ne_none type).symm,
    List.append_nil, List.all_map, List.all_eq_true]
  intro pattern hpattern
  obtain ⟨group, hgroup, hfired⟩ := List.mem_filterMap.mp hpattern
  have hall := List.all_eq_true.mp (storable_keywords type) group hgroup
  exact List.all_eq_true.mp hall pattern (List.mem_of_find?_eq_some hfired)

theorem storable_classifySubtype (found : Phrase → Bool) (type : MemoryType) :
    storable ((classifySubtype found type).getD []) = true := by
  unfold classifySubtype
  repeat' split
  all_goals decide

theorem storable_extractProjectTopic (found : Phrase → Bool) :
    storable ((extractProjectTopic found).getD []) = true := by
  have hall : (projectPatterns.all fun entry => storable entry.2.toList) = true := by
    decide +kernel
  unfold extractProjectTopic
  cases hfind : projectPatterns.find? fun entry => found entry.1 with
  | none => rfl
  | some entry => exact List.all_eq_true.mp hall entry (List.mem_of_find?_eq_some hfind)

/-- A classification that the database takes. -/
structure Accepted (result : ClassificationResult) : Prop where
  memorySubType : storable (result.memorySubType.getD []) = true
  projectTopic : storable (result.projectTopic.getD []) = true
  signals : result.signals.all storable = true

/-- The classifier writes texts of its own. -/
theorem accepted_classify (order : TypeOrder) (content : Text) (tier : Option Text) :
    Accepted (classify order { content, tier }) := by
  unfold classify classifyFound
  split
  · exact ⟨rfl, rfl, by decide⟩
  · dsimp only
    split
    · refine ⟨rfl, storable_extractProjectTopic _, ?_⟩
      split
      · rfl
      · exact storable_firedSignals _ rfl _
    · exact ⟨storable_classifySubtype _ _, storable_extractProjectTopic _,
        storable_firedSignals _ rfl _⟩

theorem settles_classifyUntyped (db : Database) (result : ClassificationResult)
    (contentId : ContentId) :
    Settles [contentId] db { db with
      contentItems := updateWhere
        (fun item => hasContentId contentId item && item.memoryType.isNone)
        (setClassification result) db.contentItems } := by
  refine ⟨?_, rfl⟩
  rw [List.map_map, updateWhere, List.map_map]
  refine List.map_congr_left fun item _ => ?_
  by_cases hid : item.contentId = contentId
  · cases htype : item.memoryType <;>
      simp [hid, htype, hasContentId, queueRow, settle, setClassification]
  · simp [hid, hasContentId, queueRow, settle]

theorem memoryTypeOf_eq {db : Database} (hnodup : db.contentIds.Nodup) {item : ContentItem}
    (hmem : item ∈ db.contentItems) : memoryTypeOf db item.contentId = item.memoryType := by
  have hfind := find?_of_nodup hnodup hmem (p := hasContentId item.contentId)
    fun other => by simp [hasContentId]
  rw [memoryTypeOf, hfind]
  rfl

theorem settles_typed {db : Database} (hnodup : db.contentIds.Nodup) {contentId : ContentId}
    (h : (memoryTypeOf db contentId).isSome = true) : Settles [contentId] db db := by
  refine ⟨?_, rfl⟩
  rw [List.map_map]
  refine List.map_congr_left fun item hitem => ?_
  by_cases hid : item.contentId = contentId
  · subst hid
    rw [memoryTypeOf_eq hnodup hitem] at h
    obtain ⟨type, htype⟩ := Option.isSome_iff_exists.mp h
    simp [queueRow, settle, htype]
  · simp [hid, queueRow, settle]

theorem insertClassification_eq {result : ClassificationResult} (haccepted : Accepted result)
    (classifierVersion : String) (workspaceId : WorkspaceId) (contentId : ContentId)
    (db : Database) : ∃ history,
    insertClassification result classifierVersion workspaceId contentId db =
      .ok { db with classificationHistory := history } := by
  rw [insertClassification, haccepted.projectTopic, haccepted.signals]
  exact ⟨_, rfl⟩

theorem execute_classificationWrites (db : Database) (candidate : CatchupCandidate)
    {result : ClassificationResult} (haccepted : Accepted result) :
    ∃ history, execute (classificationWrites db candidate result) db = .ok { db with
      contentItems := updateWhere
        (fun item => hasContentId candidate.contentId item && item.memoryType.isNone)
        (setClassification result) db.contentItems
      classificationHistory := history } := by
  unfold classificationWrites
  cases hactive : hasActiveClassification db candidate.contentId result.memoryType
      heuristicClassifierVersion with
  | true =>
      refine ⟨db.classificationHistory, ?_⟩
      simp [execute_cons, classifyUntyped, haccepted.memorySubType, bind, Except.bind]
  | false =>
      cases hworkspace : candidate.workspaceId with
      | none =>
          simp [execute_cons, classifyUntyped, deactivateClassifications,
            haccepted.memorySubType, bind, Except.bind]
      | some workspaceId =>
          obtain ⟨history, hinsert⟩ := insertClassification_eq haccepted
            heuristicClassifierVersion workspaceId candidate.contentId _
          refine ⟨history, ?_⟩
          simp only [execute_cons, List.cons_append, List.nil_append, Option.toList_some,
            List.map_cons, List.map_nil, classifyUntyped, haccepted.memorySubType,
            deactivateClassifications, Bool.not_true, Bool.false_eq_true, if_false, bind,
            Except.bind]
          rw [hinsert]
          rfl

theorem exists_written (db : Database) (candidate : CatchupCandidate)
    {result : ClassificationResult} (haccepted : Accepted result) :
    ∃ next, execute (classificationWrites db candidate result) db = .ok next ∧
      Settles [candidate.contentId] db next := by
  obtain ⟨history, hnext⟩ := execute_classificationWrites db candidate haccepted
  exact ⟨_, hnext, (settles_classifyUntyped db result candidate.contentId).items, rfl⟩

/-! ## A run -/

/-- A candidate has a type afterwards, unless its text is blank. -/
theorem settles_processCandidate (order : TypeOrder) (now : Timestamp) {db : Database}
    (hnodup : db.contentIds.Nodup) (candidate : CatchupCandidate) :
    Settles (if candidate.contentText.strip = [] then [] else [candidate.contentId]) db
      (processCandidate order now false db candidate).1 := by
  by_cases hblank : candidate.contentText.strip = []
  · simp only [processCandidate, if_pos hblank]
    exact Settles.refl db
  · rw [if_neg hblank, processCandidate, if_neg hblank]
    have haccepted := accepted_classify order candidate.contentText candidate.tier
    generalize classify order { content := candidate.contentText, tier := candidate.tier } =
      result at haccepted
    cases htyped : (memoryTypeOf db candidate.contentId).isSome with
    | true =>
        simp only [writeClassification, htyped, if_true, Bool.false_eq_true, if_false]
        exact settles_typed hnodup htyped
    | false =>
        obtain ⟨next, hnext, hsettles⟩ := exists_written db candidate haccepted
        simp only [writeClassification, htyped, hnext, Except.map, Bool.false_eq_true, if_false]
        split
        · exact hsettles
        · have hresolved := settles_resolveStep next ⟨now, catchupArgs candidate result⟩
          unfold resolveStep at hresolved
          dsimp only at hresolved
          split at hresolved <;> rename_i hresolve <;> rw [hresolve] <;>
            exact hsettles.trans hresolved

theorem settles_processCandidates (order : TypeOrder) (clock : ContentId → Timestamp)
    {db : Database} (hnodup : db.contentIds.Nodup) (candidates : List CatchupCandidate) :
    Settles ((candidates.filter fun candidate => decide (candidate.contentText.strip ≠ [])).map
      (·.contentId)) db (processCandidates order clock false db candidates).1 := by
  induction candidates generalizing db with
  | nil => exact Settles.refl db
  | cons candidate candidates ih =>
      have hfirst := settles_processCandidate order (clock candidate.contentId) hnodup candidate
      have hrest := ih (hfirst.contentIds ▸ hnodup)
      have hall := hfirst.trans hrest
      rw [List.filter_cons]
      by_cases hblank : candidate.contentText.strip = []
      · simpa [hblank, processCandidates] using hall
      · simpa [hblank, processCandidates] using hall

theorem candidate_text {db : Database} {limit : ℕ} {workspaceId : Option WorkspaceId}
    {candidate : CatchupCandidate} (h : candidate ∈ selectCandidates db limit workspaceId) :
    candidate.contentText = aggregatedText db candidate.contentId := by
  obtain ⟨item, -, rfl⟩ := List.mem_map.mp h
  rfl

/-- The contents that a run gives types to. -/
theorem settled_of_run (db : Database) (limit : ℕ) (workspaceId : Option WorkspaceId) :
    ((selectCandidates db limit workspaceId).filter
      fun candidate => decide (candidate.contentText.strip ≠ [])).map (·.contentId) =
        ((backlog db workspaceId).take limit).filter (usable db) := by
  rw [← map_contentId_selectCandidates, List.filter_map]
  congr 1
  refine List.filter_congr fun candidate hcandidate => ?_
  rw [candidate_text hcandidate]
  rfl

/-- A run that writes, and may. -/
structure CatchupOptions.Writes (options : CatchupOptions) : Prop where
  dryRun : options.dryRun = false
  limit : 1 ≤ options.limit
  batchSize : 1 ≤ options.batchSize
  authorized : options.workspaceId.isSome = true ∨ options.allWorkspaces = true

def CatchupOptions.rowLimit (options : CatchupOptions) : ℕ := min options.limit.toNat maxLimit

section Runs

variable {order : TypeOrder} {options : CatchupOptions} {db : Database}

theorem run_eq (order : TypeOrder) (db : Database) (hwrites : options.Writes)
    (clock : ContentId → Timestamp) :
    ∃ summary, run order clock options db = .ok ((processCandidates order clock false db
      (selectCandidates db options.rowLimit options.workspaceId)).1, summary) := by
  have hauthorized : (options.workspaceId.isNone && !options.allWorkspaces) = false := by
    rcases hwrites.authorized with h | h
    · rw [Option.isNone_eq_false_iff.mpr h, Bool.false_and]
    · rw [h, Bool.not_true, Bool.and_false]
  have hlimit := not_lt.mpr hwrites.limit
  have hbatch := not_lt.mpr hwrites.batchSize
  simp only [run, normalizeLimit, normalizeBatchSize, normalizeBound, hlimit, hbatch, if_false,
    hwrites.dryRun, Bool.not_false, Bool.true_and, hauthorized, bind, Except.bind,
    Bool.false_eq_true, pure, Except.pure]
  exact ⟨_, rfl⟩

theorem settles_run (order : TypeOrder) (hwrites : options.Writes)
    (hnodup : db.contentIds.Nodup) (clock : ContentId → Timestamp) :
    ∃ next summary, run order clock options db = .ok (next, summary) ∧
      Settles (((backlog db options.workspaceId).take options.rowLimit).filter (usable db))
        db next := by
  obtain ⟨summary, hrun⟩ := run_eq order db hwrites clock
  refine ⟨_, summary, hrun, ?_⟩
  rw [← settled_of_run]
  exact settles_processCandidates order clock hnodup _

/-- What some runs do to the backlog. -/
structure WorkedOff (options : CatchupOptions) (db next : Database) (n : ℕ) : Prop where
  settles : ∃ ids, Settles ids db next
  backlog_eq : backlog next options.workspaceId =
    passes (usable db) options.rowLimit (backlog db options.workspaceId) n

theorem workedOff_afterRuns (order : TypeOrder) (hwrites : options.Writes)
    (hnodup : db.contentIds.Nodup) (clock : ℕ → ContentId → Timestamp) (n : ℕ) :
    WorkedOff options db (afterRuns order clock options db n) n := by
  induction n with
  | zero => exact ⟨⟨[], Settles.refl db⟩, rfl⟩
  | succ n ih =>
      obtain ⟨ids, hids⟩ := ih.settles
      have hcurrent : (afterRuns order clock options db n).contentIds.Nodup :=
        hids.contentIds ▸ hnodup
      obtain ⟨next, summary, hrun, hsettles⟩ :=
        settles_run order hwrites hcurrent (clock n)
      rw [afterRuns, hrun]
      refine ⟨⟨_, hids.trans hsettles⟩, ?_⟩
      rw [hsettles.backlog_eq, filter_notMem_eq_pass (nodup_backlog hcurrent _), ih.backlog_eq,
        hids.usable_eq, passes_succ']

theorem isSome_memoryTypeOf_iff {next : Database} {ids : List ContentId}
    (hnodup : db.contentIds.Nodup) (hsettles : Settles ids db next)
    {contentId : ContentId} (hmem : contentId ∈ backlog db options.workspaceId) :
    (memoryTypeOf next contentId).isSome = true ↔
      contentId ∉ backlog next options.workspaceId := by
  have hnext : next.contentIds.Nodup := hsettles.contentIds ▸ hnodup
  obtain ⟨item, hitem, hid, -, hworkspace⟩ := mem_backlog.mp hmem
  have hrow : settle ids (queueRow item) ∈ next.contentItems.map queueRow := by
    rw [hsettles.items]
    exact List.mem_map_of_mem (List.mem_map_of_mem hitem)
  obtain ⟨other, hother, hsame⟩ := List.mem_map.mp hrow
  have hotherId : other.contentId = contentId := by
    have hids := congrArg QueueRow.contentId hsame
    rw [contentId_settle] at hids
    exact hids.trans hid
  have hotherWorkspace : inWorkspace options.workspaceId (queueRow other) = true := by
    rw [hsame, settle]
    split <;> exact hworkspace
  rw [← hotherId, memoryTypeOf_eq hnext hother, mem_backlog]
  constructor
  · rintro htyped ⟨third, hthird, hthirdId, huntyped, -⟩
    obtain rfl := List.inj_on_of_nodup_map hnext hthird hother hthirdId
    rw [huntyped] at htyped
    cases htyped
  · intro hnone
    rw [Option.isSome_iff_ne_none]
    exact fun huntyped => hnone ⟨other, hother, rfl, huntyped, hotherWorkspace⟩

/-- Some number of runs classifies every unclassified content with usable text. -/
def CatchesUp (order : TypeOrder) (clock : ℕ → ContentId → Timestamp) (options : CatchupOptions)
    (db : Database) : Prop :=
  ∃ n, ∀ contentId ∈ backlog db options.workspaceId, usable db contentId = true →
    (memoryTypeOf (afterRuns order clock options db n) contentId).isSome = true

/-- How many older unclassified contents have no usable text. -/
def blankAhead (db : Database) (workspaceId : Option WorkspaceId) (contentId : ContentId) : ℕ :=
  badAhead (usable db) contentId (backlog db workspaceId)

theorem worksOff_iff (hwrites : options.Writes) (hnodup : db.contentIds.Nodup)
    (clock : ℕ → ContentId → Timestamp) :
    CatchesUp order clock options db ↔
      ∀ contentId ∈ backlog db options.workspaceId, usable db contentId = true →
        blankAhead db options.workspaceId contentId < options.rowLimit := by
  have hdrains := drains_iff (usable db) options.rowLimit
    (nodup_backlog hnodup options.workspaceId)
  refine Iff.trans (exists_congr fun n => ?_) hdrains
  have hworked := workedOff_afterRuns order hwrites hnodup clock n
  obtain ⟨ids, hids⟩ := hworked.settles
  refine forall₃_congr fun contentId hmem husable => ?_
  rw [isSome_memoryTypeOf_iff hnodup hids hmem, hworked.backlog_eq]

end Runs

/-! ## Progress of the job -/

/-- The job catches up when fewer blank contents than a run takes are ahead of every usable
one. -/
theorem catchesUp_iff (order : TypeOrder) (clock : ℕ → ContentId → Timestamp)
    {options : CatchupOptions} (hwrites : options.Writes) {db : Database}
    (hnodup : db.contentIds.Nodup) :
    CatchesUp order clock options db ↔
      ∀ contentId ∈ backlog db options.workspaceId, usable db contentId = true →
        blankAhead db options.workspaceId contentId < options.rowLimit :=
  worksOff_iff hwrites hnodup clock

/-- A content without chunks, and a newer one with a text. -/
def blankFirst : Database :=
  { contentItems := [{ contentId := 1, workspaceId := some 1, createdAt := 0 },
      { contentId := 2, workspaceId := some 1, createdAt := 1 }]
    contentChunks := [{ chunkId := 1, contentId := 2, workspaceId := some 1, chunkIndex := 0,
                        chunkText := "decided".toList }] }

def typeOrder : TypeOrder :=
  ⟨[.milestone, .decision, .principle, .anchor, .evidence, .planRoadmap], List.Perm.refl _⟩

def takingUpTo (limit : ℤ) : CatchupOptions :=
  { dryRun := false, limit, workspaceId := some 1 }

theorem writes_takingUpTo {limit : ℤ} (h : 1 ≤ limit) : (takingUpTo limit).Writes :=
  ⟨rfl, h, show (1 : ℤ) ≤ 100 by decide, .inl rfl⟩

theorem catchesUp_takingTwo : CatchesUp typeOrder (fun _ _ => 0) (takingUpTo 2) blankFirst :=
  (catchesUp_iff typeOrder (fun _ _ => 0) (writes_takingUpTo (by decide)) (by decide)).mpr
    (by decide +kernel)

/-- Runs that take one row take the blank one again and again. -/
theorem not_catchesUp_takingOne :
    ¬ ∀ (order : TypeOrder) (clock : ℕ → ContentId → Timestamp) (options : CatchupOptions)
      (db : Database), options.Writes → db.contentIds.Nodup →
        CatchesUp order clock options db := by
  intro hall
  have hcatches := hall typeOrder (fun _ _ => 0) (takingUpTo 1) blankFirst
    (writes_takingUpTo le_rfl) (by decide)
  have hahead := (worksOff_iff (writes_takingUpTo le_rfl) (by decide) _).mp hcatches 2
    (by decide +kernel) (by decide +kernel)
  exact absurd hahead (by decide +kernel)

end MemoryLab.Classify
