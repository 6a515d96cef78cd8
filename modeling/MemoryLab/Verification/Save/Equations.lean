import MemoryLab.Verification.Resolver.Invariants
import MemoryLab.Verification.Save.Body
import MemoryLab.Verification.Storable

/-! # What one save can do -/

namespace MemoryLab.TierRouter

open Library

theorem route_shouldPersist_iff {policy : RoutingPolicy} {compositeScore qualityScore : ℚ}
    {circuitOpen : Bool} :
    (route policy compositeScore circuitOpen qualityScore).shouldPersist = true ↔
      (route policy compositeScore circuitOpen qualityScore).tier ≠ .discard := by
  unfold route
  split_ifs <;> simp

theorem storable_fixed3 (x : ℚ) : storable (fixed3 x) = true := by
  have hsign : storable (if x < 0 then ['-'] else []) = true := by
    split <;> decide
  have hzeros (n : ℕ) : storable (List.replicate n '0') = true := by
    simp only [storable, decide_eq_true_eq]
    intro hmem
    exact absurd (List.eq_of_mem_replicate hmem) (by decide)
  have hpoint : storable ['.'] = true := by decide
  simp only [fixed3, storable_append, digits, hsign, hzeros, hpoint, storable_toDigits,
    Bool.and_self]

theorem storable_reason (policy : RoutingPolicy) (compositeScore qualityScore : ℚ)
    (circuitOpen : Bool) :
    storable (route policy compositeScore circuitOpen qualityScore).reason = true := by
  unfold route
  split_ifs <;> simp only [storable_append, storable_fixed3, Bool.and_true] <;> decide

end MemoryLab.TierRouter

namespace MemoryLab.Adapter

open Library Library.Rows Library.Transaction TierRouter

/-! ## The row and its scores -/

/-- A save inserts its row: nothing refuses it, no duplicate answers for it, the router or
the caller keeps it, and the database takes it. -/
structure Inserts (contentHashOf : Text → Text) (db : Database) (args : SaveArgs)
    (env : SaveEnvironment) : Prop where
  trusted : args.trustError = none
  lookup : args.skipDedup = false → Spares env.faults.lookup 1 ∧
    findDuplicateContentId db (contentHashOf args.body) args.workspaceId = none
  persists : (tierDecision args env).shouldPersist = true
  insert : Spares env.faults.insert 1
  storable_subject : storable (args.createdBySubject.getD []) = true
  unique : hashTaken db args (contentHashOf args.body) = false

/-- The state with the row of a save, under its identifier. -/
def insertedRow (contentHashOf : Text → Text) (db : Database) (args : SaveArgs)
    (env : SaveEnvironment) : Database :=
  { db with
    contentItems := db.contentItems ++
      [newContentItem args (contentHashOf args.body) env.now (freshId db.contentIds)] }

theorem tierDecision_storable (args : SaveArgs) (env : SaveEnvironment) :
    storable (tierDecision args env).reason = true := by
  unfold tierDecision routed
  split
  · rw [storable_append, storable_reason, Bool.and_true]
    decide
  · exact storable_reason ..

theorem tierDecision_ne_discard {args : SaveArgs} {env : SaveEnvironment}
    (h : (tierDecision args env).shouldPersist = true) :
    (tierDecision args env).tier ≠ .discard := by
  unfold tierDecision at h ⊢
  split
  · simp
  · rename_i hforce
    rw [if_neg hforce] at h
    exact route_shouldPersist_iff.mp h

theorem execute_singleton {σ ε : Type*} (statement : Statement σ ε) (s : σ) :
    execute [statement] s = statement s := by
  rw [execute_cons]
  cases statement s <;> rfl

theorem lookupDuplicate_eq_none {db : Database} {contentHash : Text} {args : SaveArgs}
    {env : SaveEnvironment} :
    lookupDuplicate db contentHash args env = .ok none ↔
      (args.skipDedup = false → Spares env.faults.lookup 1 ∧
        findDuplicateContentId db contentHash args.workspaceId = none) := by
  unfold lookupDuplicate
  cases hskip : args.skipDedup with
  | true => simp
  | false =>
      simp only [Bool.false_eq_true, if_false, forall_const]
      cases hselect : transact env.faults.lookup selectOnly db with
      | error error =>
          have hfault : ¬ Spares env.faults.lookup 1 := fun hspares => by
            rw [transact_eq_ok_iff.mpr ⟨hspares, rfl⟩] at hselect
            cases hselect
          simp [Except.map, hfault]
      | ok next =>
          have hspares : Spares env.faults.lookup 1 := (transact_eq_ok_iff.mp hselect).1
          simp [Except.map, hspares, transact_selectOnly hselect]

theorem insertContent_eq_ok {args : SaveArgs} {contentHash : Text} {now : Timestamp}
    {contentId : ContentId} {db next : Database} :
    insertContent args contentHash now contentId db = .ok next ↔
      storable (args.createdBySubject.getD []) = true ∧ hashTaken db args contentHash = false ∧
        next = { db with
          contentItems := db.contentItems ++
            [newContentItem args contentHash now contentId] } := by
  unfold insertContent
  split
  · rename_i hstorable
    simp_all
  · rename_i hstorable
    split
    · rename_i htaken
      simp [htaken]
    · rename_i htaken
      simp only [Bool.not_eq_true', Bool.not_eq_false, Bool.not_eq_true] at hstorable htaken
      simp only [hstorable, htaken, true_and, Except.ok.injEq]
      exact eq_comm

theorem create_of_inserts {contentHashOf : Text → Text} {db : Database} {args : SaveArgs}
    {env : SaveEnvironment} (h : Inserts contentHashOf db args env) :
    createContentMinimal contentHashOf db args env =
      storeContent (insertedRow contentHashOf db args env) args env (freshId db.contentIds) := by
  have hlookup := lookupDuplicate_eq_none.mpr h.lookup
  have hinsert : transact env.faults.insert
      [insertContent args (contentHashOf args.body) env.now (freshId db.contentIds)] db =
      .ok (insertedRow contentHashOf db args env) := by
    refine transact_eq_ok_iff.mpr ⟨h.insert, ?_⟩
    rw [execute_singleton]
    exact insertContent_eq_ok.mpr ⟨h.storable_subject, h.unique, rfl⟩
  simp only [createContentMinimal, h.trusted, hlookup, h.persists, hinsert, Bool.not_true,
    Bool.false_eq_true, if_false]

/-- A save that does not insert its row changes nothing, and it only answers a duplicate that
it looked for or a content that was not to be kept. -/
theorem create_of_not_inserts {contentHashOf : Text → Text} {db : Database} {args : SaveArgs}
    {env : SaveEnvironment} (h : ¬ Inserts contentHashOf db args env) :
    (createContentMinimal contentHashOf db args env).1 = db ∧
      ∀ response, (createContentMinimal contentHashOf db args env).2 = .ok response →
        args.skipDedup = false ∨ (tierDecision args env).shouldPersist = false := by
  unfold createContentMinimal
  split
  · exact ⟨rfl, by intro response hresponse; cases hresponse⟩
  · rename_i htrusted
    dsimp only
    split
    · exact ⟨rfl, by intro response hresponse; cases hresponse⟩
    · rename_i existing hlookup
      refine ⟨rfl, fun response _ => .inl ?_⟩
      by_contra hskip
      rw [lookupDuplicate, if_pos (by simpa using hskip)] at hlookup
      cases hlookup
    · rename_i hlookup
      split
      · rename_i hpersists
        exact ⟨rfl, fun response _ => .inr (by simpa using hpersists)⟩
      · rename_i hpersists
        split
        · exact ⟨rfl, by intro response hresponse; cases hresponse⟩
        · rename_i next hinsert
          obtain ⟨hspares, hexecute⟩ := transact_eq_ok_iff.mp hinsert
          rw [execute_singleton] at hexecute
          obtain ⟨hstorable, htaken, -⟩ := insertContent_eq_ok.mp hexecute
          exact (h ⟨htrusted, lookupDuplicate_eq_none.mp hlookup, by simpa using hpersists,
            hspares, hstorable, htaken⟩).elim

/-! ## The body -/

/-- The statements that write the chunks of a body. -/
def bodyStatementCount (args : SaveArgs) (env : SaveEnvironment) : ℕ :=
  1 + ((bodyRows args.body).map fun row =>
    if (env.embedText row.2).isSome then 2 else 1).sum

theorem length_bodyStatements (db : Database) (args : SaveArgs) (env : SaveEnvironment)
    (contentId : ContentId) :
    (bodyStatements db args env contentId).length = bodyStatementCount args env := by
  rw [bodyStatements, persistMultiChunks, List.length_cons, List.length_flatMap,
    bodyStatementCount, Nat.add_comm]
  congr 3
  funext row
  cases hembed : env.embedText row.2 <;> simp [chunkStatements, hembed]

/-- The scores and the body are committed. -/
structure CommitsBody (args : SaveArgs) (env : SaveEnvironment) : Prop where
  scores : Spares env.faults.scores 1
  body : Spares env.faults.body (bodyStatementCount args env)
  storable_rows : ∀ row ∈ bodyRows args.body, storable row.2 = true

/-- The state between the commit of the body and the later stages. -/
structure Written (db written : Database) (contentId : ContentId) (rows : List (ℕ × Text)) :
    Prop where
  keys : written.contentItems.map rowKey = db.contentItems.map rowKey
  anchors : written.anchors = db.anchors
  history : written.classificationHistory = db.classificationHistory
  body : storedBody written contentId = rows
  bodies : ∀ other, other ≠ contentId → storedBody written other = storedBody db other

section Store

variable {db : Database} {args : SaveArgs} {env : SaveEnvironment} {contentId : ContentId}

theorem updateScores_ok (db : Database) (contentId : ContentId)
    (hpersists : (tierDecision args env).shouldPersist = true) :
    ∃ scored, updateScores env.event (tierDecision args env) env.now contentId db = .ok scored ∧
      scored.classificationHistory = db.classificationHistory := by
  simp only [updateScores, tierDecision_storable, tierDecision_ne_discard hpersists,
    Bool.not_true, Bool.false_eq_true, if_false]
  exact ⟨_, rfl, rfl⟩

theorem storeContent_of_commits (hpersists : (tierDecision args env).shouldPersist = true)
    (hmem : contentId ∈ db.contentIds) (h : CommitsBody args env) :
    ∃ written, Written db written contentId (bodyRows args.body) ∧
      storeContent db args env contentId =
        ((enrich written args env contentId).1, .ok (enrich written args env contentId).2) := by
  obtain ⟨scored, hscored, hhistory⟩ :=
    updateScores_ok db contentId hpersists
  have hdecorates := updateScores_decorates hscored
  have hscores : transact env.faults.scores
      [updateScores env.event (tierDecision args env) env.now contentId] db = .ok scored := by
    refine transact_eq_ok_iff.mpr ⟨h.scores, ?_⟩
    rw [execute_singleton, hscored]
  obtain ⟨written, hexecute⟩ := exists_bodyStatements env h.storable_rows
    (by rwa [hdecorates.contentIds] : contentId ∈ scored.contentIds)
  have hbody : transact env.faults.body (bodyStatements scored args env contentId) scored =
      .ok written :=
    transact_eq_ok_iff.mpr ⟨by rw [length_bodyStatements]; exact h.body, hexecute⟩
  have hreplaces := (bodyStatements_ok hexecute).2
  refine ⟨written, ⟨?_, ?_, ?_, hreplaces.body, fun other hother => ?_⟩, ?_⟩
  · rw [hreplaces.others]
    exact hdecorates.rows
  · rw [hreplaces.others]
    exact hdecorates.anchors
  · rw [hreplaces.others]
    exact hhistory
  · rw [hreplaces.bodies other hother, hdecorates.storedBody]
  · simp only [storeContent, hscores, hbody]

/-- Without its body a save raises, and only the scores can have been committed. -/
theorem storeContent_of_not_commits (db : Database) (contentId : ContentId)
    (h : ¬ CommitsBody args env) :
    ∃ left error, Decorates db left ∧
      storeContent db args env contentId = (left, .error (.database error)) := by
  unfold storeContent
  split
  · exact ⟨_, _, Decorates.refl db, rfl⟩
  · rename_i scored hscores
    obtain ⟨hspares, hexecute⟩ := transact_eq_ok_iff.mp hscores
    rw [execute_singleton] at hexecute
    split
    · exact ⟨_, _, updateScores_decorates hexecute, rfl⟩
    · rename_i written hbody
      obtain ⟨hspared, hwritten⟩ := transact_eq_ok_iff.mp hbody
      rw [length_bodyStatements] at hspared
      exact (h ⟨hspares, hspared, (bodyStatements_ok hwritten).1⟩).elim

/-- An answer after the row was inserted is about that row. -/
theorem storeContent_ok {response : SaveResponse}
    (h : (storeContent db args env contentId).2 = .ok response) :
    response.contentId = some contentId ∧ response.duplicate = false := by
  unfold storeContent at h
  split at h
  · cases h
  · split at h
    · cases h
    · cases h
      exact ⟨rfl, rfl⟩

end Store

end MemoryLab.Adapter
