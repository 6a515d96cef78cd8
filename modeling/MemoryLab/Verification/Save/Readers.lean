import MemoryLab.Model.ContentReaders
import MemoryLab.Verification.Chunking.Joined
import MemoryLab.Verification.Save.Atomicity

/-! # What the readers of a body return after a save -/

namespace MemoryLab.ContentReaders

open Library Library.Rows Adapter CanonicalBody Chunking

/-! ## The saved row -/

section Saved

variable {sha256Hex : Text → Text} {db : Database} {args : SaveArgs} {env : SaveEnvironment}
  {response : SaveResponse}

theorem created_of_not_inserts (h : ¬ Inserts sha256Hex db args env)
    (hresponse : (createContentMinimal sha256Hex db args env).2 = .ok response) :
    response.created = false := by
  unfold createContentMinimal at hresponse
  split at hresponse
  · cases hresponse
  · rename_i htrusted
    dsimp only at hresponse
    split at hresponse
    · cases hresponse
    · cases hresponse
      rfl
    · rename_i hlookup
      split at hresponse
      · cases hresponse
        rfl
      · rename_i hpersists
        split at hresponse
        · cases hresponse
        · rename_i next hinsert
          obtain ⟨hspares, hexecute⟩ := Transaction.transact_eq_ok_iff.mp hinsert
          rw [execute_singleton] at hexecute
          obtain ⟨hstorable, htaken, -⟩ := insertContent_eq_ok.mp hexecute
          exact absurd ⟨htrusted, lookupDuplicate_eq_none.mp hlookup, by simpa using hpersists,
            hspares, hstorable, htaken⟩ h

/-- A save that tells of a new row has committed it, and its body. -/
theorem inserts_of_created
    (hresponse : (createContentMinimal sha256Hex db args env).2 = .ok response)
    (hcreated : response.created = true) :
    Inserts sha256Hex db args env ∧ CommitsBody args env ∧
      response.contentId = some (freshId db.contentIds) := by
  have hinserts : Inserts sha256Hex db args env := by
    by_contra hnot
    rw [created_of_not_inserts hnot hresponse] at hcreated
    cases hcreated
  rw [create_of_inserts hinserts] at hresponse
  refine ⟨hinserts, ?_, (storeContent_ok hresponse).1⟩
  by_contra hnot
  obtain ⟨left, error, -, hstore⟩ := storeContent_of_not_commits
    (insertedRow sha256Hex db args env) (freshId db.contentIds) hnot
  rw [hstore] at hresponse
  cases hresponse

/-- The new row is the only one with its identifier. -/
theorem find?_savedRow {next : Database} (h : SavedRow sha256Hex db args env next)
    {workspaceId : Option WorkspaceId} (hvisible : workspaceId = none ∨
      workspaceId = args.workspaceId) :
    ∃ item, next.contentItems.find? (visibleTo (freshId db.contentIds) workspaceId) = some item ∧
      item.contentId = freshId db.contentIds ∧
      item.contentHash = some (sha256Hex args.body) := by
  obtain ⟨old, added, hitems, hold, hadded⟩ := List.map_eq_append_iff.mp h.keys
  obtain ⟨item, rfl, hkey⟩ := List.map_eq_singleton_iff.mp hadded
  simp only [rowKey, Prod.mk.injEq] at hkey
  have hnone : old.find? (visibleTo (freshId db.contentIds) workspaceId) = none := by
    refine List.find?_eq_none.mpr fun other hother hmatch => ?_
    have hid : other.contentId = freshId db.contentIds := by
      rw [visibleTo, Bool.and_eq_true, beq_iff_eq] at hmatch
      exact hmatch.1
    have hmem := List.mem_map_of_mem (f := rowKey) hother
    rw [hold] at hmem
    obtain ⟨known, hknown, hsame⟩ := List.mem_map.mp hmem
    refine freshId_notMem db.contentIds (List.mem_map.mpr ⟨known, hknown, ?_⟩)
    rw [← hid]
    exact congrArg Prod.fst hsame
  refine ⟨item, ?_, hkey.1, hkey.2.2⟩
  rw [hitems, List.find?_append, hnone, Option.none_or, List.find?_cons_of_pos]
  rcases hvisible with rfl | rfl
  · simp [visibleTo, hkey.1]
  · cases hworkspace : args.workspaceId with
    | none => simp [visibleTo, hkey.1]
    | some workspaceId => simp [visibleTo, hkey.1, hkey.2.1, hworkspace]

end Saved

/-! ## Chunks in order -/

section Order

variable {db : Database} {contentId : ContentId} {rows : List (ℕ × Text)}

theorem sortOn_chunks (h : storedBody db contentId = rows)
    (hsorted : rows.Pairwise fun a b => a.1 ≤ b.1) :
    sortOn (·.chunkIndex) (db.contentChunks.filter (ofContent contentId)) =
      db.contentChunks.filter (ofContent contentId) := by
  rw [← h, storedBody, List.pairwise_map] at hsorted
  exact hsorted.insertionSort_eq

theorem aggregatedText_eq (h : storedBody db contentId = rows)
    (hsorted : rows.Pairwise fun a b => a.1 ≤ b.1) :
    aggregatedText db contentId = "\n\n".toList.intercalate (rows.map (·.2)) := by
  rw [aggregatedText, sortOn_chunks h hsorted, ← h, storedBody, List.map_map]
  rfl

theorem chunksOf_eq (h : storedBody db contentId = rows)
    (hsorted : rows.Pairwise fun a b => a.1 ≤ b.1) :
    chunksOf db contentId = rows.map fun row => ⟨row.1, row.2⟩ := by
  rw [chunksOf, sortOn_chunks h hsorted, ← h, storedBody, List.map_map]
  rfl

theorem pairwise_bodyRows (content : Text) :
    (bodyRows content).Pairwise fun a b => a.1 ≤ b.1 := by
  refine List.Pairwise.filter _ ?_
  unfold bodyChunks
  dsimp only
  split
  · exact List.pairwise_singleton _ _
  · have hindices := chunkContent_indices {} content
    rw [List.pairwise_map]
    have hrange : ((chunkText content).chunks.map (·.index)).Pairwise (· ≤ ·) := by
      rw [show (chunkText content).chunks.map (·.index) = _ from hindices]
      exact List.pairwise_le_range
    exact List.pairwise_map.mp hrange

end Order

/-! ## The two readers -/

/-- The text of the node is the one that was saved, and the body that another reader verified
is the same. -/
def ReadersAgree (sha256Hex : Text → Text) (db : Database) (contentId : ContentId)
    (workspaceId : Option WorkspaceId) (content : Text) : Prop :=
  ∃ node, loadGraphNodeFull db contentId workspaceId = some node ∧ node.fullText = content ∧
    ∀ expectedVersion body hash owner,
      getCanonicalBody sha256Hex db contentId workspaceId expectedVersion =
        some (.answer contentId owner (some body) hash .hashVerified) → node.fullText = body

/-- A body of one chunk can only be verified as it is. -/
theorem candidate_of_singleton {sha256Hex : Text → Text} {chunk : PersistedChunk}
    {stored : Option Text} {body : Text}
    (h : (reconstructCanonicalBody sha256Hex [chunk] stored).candidate = some body) :
    body = chunk.text := by
  cases stored with
  | none => cases h
  | some stored =>
      simp only [reconstructCanonicalBody, List.cons_ne_nil, if_false] at h
      split at h
      · cases h
      · split at h
        · exact (Option.some.inj h).symm
        · cases h

/-- After a save the node's text is the saved text exactly when it fits into one chunk. -/
theorem readersAgree_iff (sha256Hex : Text → Text) (db : Database) (args : SaveArgs)
    (env : SaveEnvironment) (response : SaveResponse) (contentId : ContentId)
    (workspaceId : Option WorkspaceId) (content : Text) (hcontent : args.content = some content)
    (hcr : '\r' ∉ content) (hvisible : content.strip ≠ [])
    (hguard : (chunkText content).degraded = false)
    (hresponse : (createContentMinimal sha256Hex db args env).2 = .ok response)
    (hcreated : response.created = true) (hid : response.contentId = some contentId)
    (hworkspace : workspaceId = none ∨ workspaceId = args.workspaceId) :
    ReadersAgree sha256Hex (createContentMinimal sha256Hex db args env).1 contentId workspaceId
      content ↔ content.length ≤ 900 := by
  obtain ⟨hinserts, hcommits, hfresh⟩ := inserts_of_created hresponse hcreated
  obtain rfl := Option.some.inj (hid.symm.trans hfresh)
  have hsaved := savedRow_of_inserts hinserts
  generalize (createContentMinimal sha256Hex db args env).1 = next at hsaved ⊢
  have hargs : args.body = content := by
    rw [SaveArgs.body, hcontent, Option.getD_some]
  have hbody := hsaved.committed hcommits
  rw [hargs] at hbody
  obtain ⟨item, hfind, hitemId, -⟩ := find?_savedRow hsaved hworkspace
  have hfull : aggregatedText next item.contentId = joinedBody content := by
    rw [hitemId, aggregatedText_eq hbody (pairwise_bodyRows content), joinedBody]
  have hjoined := joinedBody_eq_iff hcr hvisible hguard
  constructor
  · rintro ⟨node, hnode, hsame, -⟩
    rw [loadGraphNodeFull, hfind, Option.map_some] at hnode
    obtain rfl := Option.some.inj hnode
    exact hjoined.mp (hfull.symm.trans hsame)
  · intro hshort
    have hcovers := chunkText_covers hcr hvisible hguard
    obtain ⟨chunk, hchunk⟩ := List.length_eq_one_iff.mp
      ((hcovers.length_eq_one_iff rfl).mpr (show content.length - 0 ≤ 900 by omega))
    have hrows := bodyRows_of_visible hcr hvisible hguard
    rw [hchunk, List.map_singleton] at hrows
    have htext : chunk.text = content := by
      rw [← hjoined.mpr hshort, joinedBody, hrows, List.map_singleton,
        List.intercalate_singleton]
    refine ⟨_, by rw [loadGraphNodeFull, hfind, Option.map_some], hfull.trans
      (hjoined.mpr hshort), ?_⟩
    intro expectedVersion body hash owner hanswer
    rw [getCanonicalBody, hfind, Option.map_some] at hanswer
    dsimp only at hanswer
    split at hanswer
    · cases hanswer
    · simp only [Option.some.injEq, CanonicalBodyAnswer.answer.injEq] at hanswer
      obtain ⟨-, -, hcandidate, -, hfidelity⟩ := hanswer
      rw [if_pos hfidelity, chunksOf_eq hbody (pairwise_bodyRows content), hrows] at hcandidate
      rw [candidate_of_singleton hcandidate, htext]
      exact hfull.trans (hjoined.mpr hshort)

/-! ## A short and a long note -/

def noteArgs (content : Text) : SaveArgs := { content := some content, workspaceId := some 1 }

def noteEnvironment : SaveEnvironment := { event := { scores := ⟨1, 1, 1, 1⟩ } }

theorem exists_saved (content : Text)
    (h : ((createContentMinimal id {} (noteArgs content) noteEnvironment).2.toOption.any
      fun response => response.created && response.contentId == some 1) = true) :
    ∃ response, (createContentMinimal id {} (noteArgs content) noteEnvironment).2 =
      .ok response ∧ response.created = true ∧ response.contentId = some 1 := by
  cases hanswer : (createContentMinimal id {} (noteArgs content) noteEnvironment).2 with
  | error error =>
      rw [hanswer] at h
      cases h
  | ok response =>
      rw [hanswer] at h
      have hboth : (response.created && response.contentId == some 1) = true := h
      rw [Bool.and_eq_true, beq_iff_eq] at hboth
      exact ⟨response, rfl, hboth⟩

theorem readersAgree_iff_note :
    ReadersAgree id (createContentMinimal id {} (noteArgs "a note".toList) noteEnvironment).1 1
      none "a note".toList ↔ "a note".toList.length ≤ 900 := by
  obtain ⟨response, hresponse, hcreated, hid⟩ :=
    exists_saved "a note".toList (by decide +kernel)
  exact readersAgree_iff id {} (noteArgs "a note".toList) noteEnvironment response 1 none
    "a note".toList rfl (by decide) (by decide) (by decide) hresponse hcreated hid (.inl rfl)

/-- The second chunk repeats the end of the first. -/
def longNote : Text := List.replicate 901 'a'

example : (chunkText longNote).chunks.length = 2 := by decide +kernel

theorem not_readersAgree_long :
    ¬ ∀ sha256Hex db args env response contentId workspaceId content,
      args.content = some content → '\r' ∉ content → content.strip ≠ [] →
      (chunkText content).degraded = false →
      (createContentMinimal sha256Hex db args env).2 = .ok response →
      response.created = true → response.contentId = some contentId →
      (workspaceId = none ∨ workspaceId = args.workspaceId) →
        ReadersAgree sha256Hex (createContentMinimal sha256Hex db args env).1 contentId
          workspaceId content := by
  intro hagree
  obtain ⟨response, hresponse, hcreated, hid⟩ :=
    exists_saved longNote (by decide +kernel)
  obtain ⟨node, hnode, hsame, -⟩ := hagree id {} (noteArgs longNote) noteEnvironment response 1
    none longNote rfl (by decide +kernel) (by decide +kernel) (by decide +kernel) hresponse
    hcreated hid (.inl rfl)
  have hlength : (loadGraphNodeFull (createContentMinimal id {} (noteArgs longNote)
      noteEnvironment).1 1 none).all (fun node => node.fullText.length != 901) = true := by
    decide +kernel
  rw [hnode, Option.all_some, hsame] at hlength
  revert hlength
  decide +kernel

end MemoryLab.ContentReaders
