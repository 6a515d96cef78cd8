import MemoryLab.Model.ResolverConcurrency
import MemoryLab.Verification.Resolver.Invariants

/-! # Concurrent calls of one key

The table declares no unique index on the key and the call takes no lock, so two calls that
read before either commits both insert an active anchor. A commit is safe while the answers
of the call's `SELECT`s still hold of the committed rows. -/

namespace MemoryLab.Resolver

open Library ReadCommitted Runs ScopePipeline

variable {ι : Type*} [DecidableEq ι] {key : StateKey}

/-- A content superseded under the key and not active under it again is marked so. -/
def Settled (key : StateKey) (anchors : List CurrentStateAnchor) (items : List ContentItem)
    (contentId : ContentId) : Prop :=
  (∃ anchor ∈ anchors, anchor.hasKey key = true ∧ anchor.stateStatus = .superseded ∧
    anchor.contentId = some contentId) →
  (∀ anchor ∈ activeOf key anchors, anchor.contentId ≠ some contentId) →
  ∀ item ∈ items, item.contentId = contentId → item.isCurrent = some false

/-- A call that commits could read again what it has read: an idempotent call finds an active
anchor of its content, another call finds none and the anchors it chose the previous content
from. -/
def ReadsHold (calls : ι → KeyedCall key) (s : System ι) : Action ι → Prop
  | .abort _ => True
  | .statement i =>
      let existing := selectExistingSame key (calls i).call.contentId (committed s.anchors)
      match s.phase i with
      | .refreshed => existing ≠ none
      | .tookOver seen => committed s.anchors = seen ∧ existing = none
      | _ => True

instance (calls : ι → KeyedCall key) (s : System ι) (action : Action ι) :
    Decidable (ReadsHold calls s action) := by
  unfold ReadsHold
  cases action with
  | abort i => exact instDecidableTrue
  | statement i =>
      dsimp only
      split <;> infer_instance

/-! ## What a call has written -/

def Unwritten {ρ : Type*} (i : ι) (table : Table ι ρ) : Prop := ∀ n, ownAt i table n = none

/-- The anchors a call has written: retired ones, and from some point the one it inserted. As
long as no anchor has been committed since it read them, it has retired what it has to. -/
structure AnchorWrites (call : KeyedCall key) (i : ι) (table : Table ι CurrentStateAnchor)
    (seen : List CurrentStateAnchor) (targets : Option (List ℕ)) (inserted : Option ℕ) :
    Prop where
  length_le : seen.length ≤ (committed table).length
  covered : seen.length = (committed table).length →
    Covered i (toSupersede key call.call.contentId) table targets
  own : ∀ n row, ownAt i table n = some row →
    (inserted = some n ∧ row ∈ activeOf key [row] ∧
      row.contentId = some call.call.contentId) ∨
    (inserted ≠ some n ∧ ∃ old, committedAt table n = some old ∧
      toSupersede key call.call.contentId old = true ∧ row = setSuperseded call.now old)
  new : ∀ n, inserted = some n →
    committedAt table n = none ∧ ∃ row, ownAt i table n = some row

/-- The content rows a call has written. -/
structure ItemWrites (call : KeyedCall key) (i : ι) (table : Table ι ContentItem)
    (previous : Option ContentId) : Prop where
  marks : ∀ n row, ownAt i table n = some row →
    (row.contentId = call.call.contentId ∧ row.isCurrent = some true) ∨
      (previous = some row.contentId ∧ row.isCurrent = some false)
  contentId : ∀ n row, ownAt i table n = some row →
    ∃ old, committedAt table n = some old ∧ old.contentId = row.contentId

/-- The rows of the superseded content have been written. -/
def PreviousMarked (i : ι) (key : StateKey) (table : Table ι ContentItem)
    (seen : List CurrentStateAnchor) : Prop :=
  ∀ previous, selectPrevious key seen = some previous →
    Covered i (hasContentId previous) table (some [])

/-- What a call has written when it reaches a phase. -/
def Phase.Holds (call : KeyedCall key) (i : ι) (anchors : Table ι CurrentStateAnchor)
    (items : Table ι ContentItem) : Phase → Prop
  | .selectExisting | .selectPrevious | .committed | .aborted =>
      Unwritten i anchors ∧ Unwritten i items
  | .refresh _ _ | .refreshed => Unwritten i anchors ∧ ItemWrites call i items none
  | .supersede seen targets => AnchorWrites call i anchors seen targets none ∧ Unwritten i items
  | .markPrevious seen previous targets =>
      AnchorWrites call i anchors seen (some []) none ∧
        ItemWrites call i items (Resolver.selectPrevious key seen) ∧
        Resolver.selectPrevious key seen = some previous ∧
          Covered i (hasContentId previous) items targets
  | .insert seen =>
      AnchorWrites call i anchors seen (some []) none ∧
        ItemWrites call i items (Resolver.selectPrevious key seen) ∧ PreviousMarked i key items seen
  | .markCurrent seen _ | .tookOver seen =>
      (∃ n, AnchorWrites call i anchors seen (some []) (some n)) ∧
        ItemWrites call i items (Resolver.selectPrevious key seen) ∧ PreviousMarked i key items seen

/-! ## Steps of other calls -/

/-- How the anchors change for a call while another one takes a step. -/
structure AnchorsEvolve (j : ι) (table other : Table ι CurrentStateAnchor) : Prop where
  own : ownAt j other = ownAt j table
  held : ∀ n row, ownAt j table n = some row → committedAt other n = committedAt table n
  length_le : (committed table).length ≤ (committed other).length
  unchanged : (committed table).length = (committed other).length →
    committedAt other = committedAt table

/-- How the content rows change for a call while another one takes a step. -/
structure ItemsEvolve (j : ι) (table other : Table ι ContentItem) : Prop where
  own : ownAt j other = ownAt j table
  held : ∀ n row, ownAt j table n = some row → committedAt other n = committedAt table n
  contentId : ∀ n row, committedAt other n = some row →
    ∃ old, committedAt table n = some old ∧ old.contentId = row.contentId

theorem anchorsEvolve_of_writtenBy {i j : ι} (hne : j ≠ i)
    {table other : Table ι CurrentStateAnchor} (h : WrittenBy i table other) :
    AnchorsEvolve j table other :=
  ⟨h.ownAt_eq j hne, fun _ _ _ => by rw [h.committedAt_eq], by rw [h.committed_eq],
    fun _ => h.committedAt_eq⟩

theorem itemsEvolve_of_writtenBy {i j : ι} (hne : j ≠ i) {table other : Table ι ContentItem}
    (h : WrittenBy i table other) : ItemsEvolve j table other :=
  ⟨h.ownAt_eq j hne, fun _ _ _ => by rw [h.committedAt_eq],
    fun _ row hrow => ⟨row, by rw [← h.committedAt_eq]; exact hrow, rfl⟩⟩

theorem committedAt_commit_of_held {ρ : Type*} {i j : ι} (hne : j ≠ i) {table : Table ι ρ}
    {n : ℕ} {row : ρ} (h : ownAt j table n = some row) :
    committedAt (commit i table) n = committedAt table n := by
  rw [committedAt_commit, ownAt_of_ne hne.symm h, Option.none_or]

theorem committedAt_commit_of_unwritten {ρ : Type*} {i : ι} {table : Table ι ρ}
    (h : Unwritten i table) : committedAt (commit i table) = committedAt table := by
  funext n
  rw [committedAt_commit, h n, Option.none_or]

/-- A commit either inserts an anchor or leaves the anchors as they are. -/
theorem anchorsEvolve_commit {i j : ι} (hne : j ≠ i) {table : Table ι CurrentStateAnchor}
    (h : Unwritten i table ∨
      ∃ n row, ownAt i table n = some row ∧ committedAt table n = none) :
    AnchorsEvolve j table (commit i table) := by
  refine ⟨ownAt_commit_of_ne hne table, fun n row => committedAt_commit_of_held hne,
    length_committed_le_commit i table, fun hlength => ?_⟩
  rcases h with h | ⟨n, row, hown, hnew⟩
  · exact committedAt_commit_of_unwritten h
  · exact absurd hlength (length_committed_lt_commit hown hnew).ne

theorem itemsEvolve_commit {i j : ι} (hne : j ≠ i) {table : Table ι ContentItem}
    {call : KeyedCall key} {previous : Option ContentId}
    (h : ItemWrites call i table previous) : ItemsEvolve j table (commit i table) := by
  refine ⟨ownAt_commit_of_ne hne table, fun n row => committedAt_commit_of_held hne, ?_⟩
  intro n row hrow
  rw [committedAt_commit] at hrow
  cases hown : ownAt i table n with
  | none =>
      rw [hown, Option.none_or] at hrow
      exact ⟨row, hrow, rfl⟩
  | some version =>
      rw [hown, Option.some_or] at hrow
      obtain rfl := Option.some.inj hrow
      exact h.contentId n version hown

theorem AnchorWrites.evolve {call : KeyedCall key} {j : ι}
    {table other : Table ι CurrentStateAnchor} {seen : List CurrentStateAnchor}
    {targets : Option (List ℕ)} {inserted : Option ℕ}
    (h : AnchorWrites call j table seen targets inserted) (hevolve : AnchorsEvolve j table other) :
    AnchorWrites call j other seen targets inserted := by
  have hle := h.length_le
  have hle' := hevolve.length_le
  refine ⟨hle.trans hle', fun hlength => ?_, fun n row hown => ?_, fun n hinserted => ?_⟩
  · have hsame := hevolve.unchanged (by omega)
    exact (h.covered (by omega)).congr hevolve.own fun n row hrow hp => ⟨row, hsame ▸ hrow, hp⟩
  · rw [hevolve.own] at hown
    rw [hevolve.held n row hown]
    exact h.own n row hown
  · obtain ⟨hnew, row, hown⟩ := h.new n hinserted
    rw [hevolve.held n row hown, hevolve.own]
    exact ⟨hnew, row, hown⟩

theorem ItemWrites.evolve {call : KeyedCall key} {j : ι} {table other : Table ι ContentItem}
    {previous : Option ContentId} (h : ItemWrites call j table previous)
    (hevolve : ItemsEvolve j table other) : ItemWrites call j other previous := by
  refine ⟨fun n row hown => ?_, fun n row hown => ?_⟩
  · rw [hevolve.own] at hown
    exact h.marks n row hown
  · rw [hevolve.own] at hown
    rw [hevolve.held n row hown]
    exact h.contentId n row hown

theorem ItemsEvolve.covered {j : ι} {table other : Table ι ContentItem}
    (h : ItemsEvolve j table other) {previous : ContentId} {targets : Option (List ℕ)}
    (hcovered : Covered j (hasContentId previous) table targets) :
    Covered j (hasContentId previous) other targets := by
  refine hcovered.congr h.own fun n row hrow hmatch => ?_
  obtain ⟨old, hold, hcontent⟩ := h.contentId n row hrow
  exact ⟨old, hold, by rw [hasContentId, hcontent]; exact hmatch⟩

theorem Unwritten.congr {ρ : Type*} {j : ι} {table other : Table ι ρ} (h : Unwritten j table)
    (hown : ownAt j other = ownAt j table) : Unwritten j other := by
  intro n
  rw [hown]
  exact h n

theorem Unwritten.ne_some {ρ : Type*} {i : ι} {table : Table ι ρ} (h : Unwritten i table)
    {n : ℕ} {row : ρ} : ownAt i table n ≠ some row := by
  rw [h n]
  exact nofun

/-- What a call has written stands while other calls take steps. -/
theorem Phase.Holds.evolve {call : KeyedCall key} {j : ι}
    {anchors anchors' : Table ι CurrentStateAnchor} {items items' : Table ι ContentItem}
    {phase : Phase} (h : phase.Holds call j anchors items)
    (hanchors : AnchorsEvolve j anchors anchors') (hitems : ItemsEvolve j items items') :
    phase.Holds call j anchors' items' := by
  cases phase with
  | selectExisting => exact ⟨h.1.congr hanchors.own, h.2.congr hitems.own⟩
  | selectPrevious => exact ⟨h.1.congr hanchors.own, h.2.congr hitems.own⟩
  | committed => exact ⟨h.1.congr hanchors.own, h.2.congr hitems.own⟩
  | aborted => exact ⟨h.1.congr hanchors.own, h.2.congr hitems.own⟩
  | refresh => exact ⟨h.1.congr hanchors.own, h.2.evolve hitems⟩
  | refreshed => exact ⟨h.1.congr hanchors.own, h.2.evolve hitems⟩
  | supersede => exact ⟨h.1.evolve hanchors, h.2.congr hitems.own⟩
  | markPrevious =>
      obtain ⟨hwrites, hmarks, hprevious, hcovered⟩ := h
      exact ⟨hwrites.evolve hanchors, hmarks.evolve hitems, hprevious, hitems.covered hcovered⟩
  | insert =>
      obtain ⟨hwrites, hmarks, hprevious⟩ := h
      exact ⟨hwrites.evolve hanchors, hmarks.evolve hitems,
        fun previous h => hitems.covered (hprevious previous h)⟩
  | markCurrent =>
      obtain ⟨⟨n, hwrites⟩, hmarks, hprevious⟩ := h
      exact ⟨⟨n, hwrites.evolve hanchors⟩, hmarks.evolve hitems,
        fun previous h => hitems.covered (hprevious previous h)⟩
  | tookOver =>
      obtain ⟨⟨n, hwrites⟩, hmarks, hprevious⟩ := h
      exact ⟨⟨n, hwrites.evolve hanchors⟩, hmarks.evolve hitems,
        fun previous h => hitems.covered (hprevious previous h)⟩

/-! ## Statements of the call itself -/

/-- Rows that an `UPDATE` by content has written keep their content. -/
theorem ItemWrites.advance {call : KeyedCall key} {i : ι} {table : Table ι ContentItem}
    {previous : Option ContentId} (h : ItemWrites call i table previous)
    {p : ContentItem → Bool} {f : ContentItem → ContentItem} (targets : Option (List ℕ))
    (hcontent : ∀ row, (f row).contentId = row.contentId)
    (hmarks : ∀ row, p row = true →
      ((f row).contentId = call.call.contentId ∧ (f row).isCurrent = some true) ∨
        (previous = some (f row).contentId ∧ (f row).isCurrent = some false)) :
    ItemWrites call i (ReadCommitted.advance i p f table targets).1 previous := by
  refine ⟨fun n row hown => ?_, fun n row hown => ?_⟩
  · rcases ownAt_advance hown with hold | ⟨old, -, hp, rfl⟩
    · exact h.marks n row hold
    · exact hmarks old hp
  · rw [(writtenBy_advance i p f table targets).committedAt_eq]
    rcases ownAt_advance hown with hold | ⟨old, hseen, -, rfl⟩
    · exact h.contentId n row hold
    · rw [hcontent]
      rw [seenAt_eq] at hseen
      cases hversion : ownAt i table n with
      | none =>
          rw [hversion, Option.none_or] at hseen
          exact ⟨old, hseen, rfl⟩
      | some version =>
          rw [hversion, Option.some_or] at hseen
          obtain rfl := Option.some.inj hseen
          exact h.contentId n version hversion

theorem itemWrites_of_unwritten (call : KeyedCall key) {i : ι} {table : Table ι ContentItem}
    (h : Unwritten i table) (previous : Option ContentId) : ItemWrites call i table previous :=
  ⟨fun _ _ hown => (h.ne_some hown).elim, fun _ _ hown => (h.ne_some hown).elim⟩

theorem anchorWrites_of_unwritten (call : KeyedCall key) {i : ι}
    {table : Table ι CurrentStateAnchor} (h : Unwritten i table) :
    AnchorWrites call i table (committed table) none none :=
  ⟨le_rfl, fun _ => covered_none _ _ _, fun _ _ hown => (h.ne_some hown).elim,
    fun _ h => nomatch h⟩

/-- The supersession retires rows that are active, and so none that it has retired. -/
theorem AnchorWrites.advance {call : KeyedCall key} {i : ι}
    {table : Table ι CurrentStateAnchor} {seen : List CurrentStateAnchor}
    {targets : Option (List ℕ)} (h : AnchorWrites call i table seen targets none) :
    AnchorWrites call i
      (ReadCommitted.advance i (toSupersede key call.call.contentId) (setSuperseded call.now)
        table targets).1 seen
      (ReadCommitted.advance i (toSupersede key call.call.contentId) (setSuperseded call.now)
        table targets).2 none := by
  have hwritten := writtenBy_advance i (toSupersede key call.call.contentId)
    (setSuperseded call.now) table targets
  refine ⟨by rw [hwritten.committed_eq]; exact h.length_le, fun hlength => ?_,
    fun n row hown => .inr ⟨nofun, ?_⟩, fun n hn => nomatch hn⟩
  · rw [hwritten.committed_eq] at hlength
    exact (h.covered hlength).advance
  · rw [hwritten.committedAt_eq]
    rcases ownAt_advance hown with hold | ⟨old, hseen, hp, rfl⟩
    · exact ((h.own n row hold).resolve_left fun hnew => nomatch hnew.1).2
    · refine ⟨old, ?_, hp, rfl⟩
      rw [seenAt_eq] at hseen
      cases hversion : ownAt i table n with
      | none => rwa [hversion, Option.none_or] at hseen
      | some version =>
          rw [hversion, Option.some_or] at hseen
          obtain rfl := Option.some.inj hseen
          obtain ⟨base, -, -, rfl⟩ :=
            ((h.own n version hversion).resolve_left fun hnew => nomatch hnew.1).2
          simp [toSupersede] at hp

omit [DecidableEq ι] in
theorem hasKey_insertedAnchor (s : System ι) (call : KeyedCall key)
    (seen : List CurrentStateAnchor) : (s.insertedAnchor call seen).hasKey key = true := by
  have hworkspace : call.call.workspaceId = key.workspaceId :=
    congrArg StateKey.workspaceId call.key_eq
  have htype : call.call.memoryType = key.memoryType := congrArg StateKey.memoryType call.key_eq
  simp [System.insertedAnchor, newAnchor, CurrentStateAnchor.hasKey, hworkspace, htype]

theorem AnchorWrites.insert {call : KeyedCall key} {i : ι}
    {table : Table ι CurrentStateAnchor} {seen : List CurrentStateAnchor}
    (h : AnchorWrites call i table seen (some []) none) {row : CurrentStateAnchor}
    (hkey : row ∈ activeOf key [row]) (hcontent : row.contentId = some call.call.contentId) :
    AnchorWrites call i (ReadCommitted.insert i row table) seen (some [])
      (some table.length) := by
  refine ⟨by rw [committed_insert]; exact h.length_le, fun hlength => ?_, fun n version hown => ?_,
    fun n hn => ?_⟩
  · rw [committed_insert] at hlength
    intro rest hrest n old hold hp
    rw [committedAt_insert] at hold
    refine (h.covered hlength rest hrest n old hold hp).imp_right fun hown => ?_
    obtain ⟨version, hversion⟩ := hown
    rw [ownAt_insert]
    split
    · exact ⟨row, rfl⟩
    · exact ⟨version, hversion⟩
  · rw [ownAt_insert] at hown
    rw [committedAt_insert]
    split at hown
    · rename_i hn
      obtain rfl := Option.some.inj hown
      exact .inl ⟨by rw [hn], hkey, hcontent⟩
    · rename_i hn
      exact .inr ⟨fun heq => hn (Option.some.inj heq).symm,
        ((h.own n version hown).resolve_left fun hnew => Option.some_ne_none n hnew.1.symm).2⟩
  · obtain rfl := Option.some.inj hn
    rw [committedAt_insert, ownAt_insert, if_pos rfl]
    exact ⟨committedAt_length table, row, rfl⟩

/-! ## Commits -/

/-- After a call that could read again what it read, its anchor is the only active one. -/
theorem AnchorWrites.active_commit {call : KeyedCall key} {i : ι}
    {table : Table ι CurrentStateAnchor} {seen : List CurrentStateAnchor} {m : ℕ}
    (h : AnchorWrites call i table seen (some []) (some m)) (hseen : committed table = seen)
    (hnone : selectExistingSame key call.call.contentId (committed table) = none) {n : ℕ}
    {row : CurrentStateAnchor} (hrow : committedAt (commit i table) n = some row)
    (hactive : row ∈ activeOf key [row]) : n = m := by
  obtain ⟨-, hkey, hactive⟩ := mem_activeOf.mp hactive
  rw [committedAt_commit] at hrow
  cases hown : ownAt i table n with
  | some version =>
      rw [hown, Option.some_or] at hrow
      obtain rfl := Option.some.inj hrow
      rcases h.own n version hown with ⟨hm, -⟩ | ⟨-, base, -, -, rfl⟩
      · exact (Option.some.inj hm).symm
      · simp at hactive
  | none =>
      rw [hown, Option.none_or] at hrow
      have hne := selectExistingSame_eq_none.mp hnone row
        (mem_activeOf.mpr ⟨mem_committed.mpr ⟨n, hrow⟩, hkey, hactive⟩)
      have hretire : toSupersede key call.call.contentId row = true := by
        simp [toSupersede, hkey, hactive, hne]
      rcases h.covered (by rw [hseen]) [] rfl n row hrow hretire with hmem | ⟨version, hversion⟩
      · cases hmem
      · rw [hown] at hversion
        cases hversion

theorem AnchorWrites.singleActive_commit {call : KeyedCall key} {i : ι}
    {table : Table ι CurrentStateAnchor} {seen : List CurrentStateAnchor} {m : ℕ}
    (h : AnchorWrites call i table seen (some []) (some m)) (hseen : committed table = seen)
    (hnone : selectExistingSame key call.call.contentId (committed table) = none) :
    (activeOf key (committed (commit i table))).length ≤ 1 := by
  refine length_filter_committed_le_one fun n n' first second hfirst hsecond hactive hactive' => ?_
  have heq := h.active_commit hseen hnone hfirst (by simpa [activeOf] using hactive)
  have heq' := h.active_commit hseen hnone hsecond (by simpa [activeOf] using hactive')
  rw [heq, heq']

theorem AnchorWrites.mem_commit {call : KeyedCall key} {i : ι}
    {table : Table ι CurrentStateAnchor} {seen : List CurrentStateAnchor} {m : ℕ}
    (h : AnchorWrites call i table seen (some []) (some m)) :
    ∃ anchor ∈ activeOf key (committed (commit i table)),
      anchor.contentId = some call.call.contentId := by
  obtain ⟨-, row, hown⟩ := h.new m rfl
  obtain ⟨-, hactive, hcontent⟩ | ⟨hne, -⟩ := h.own m row hown
  · refine ⟨row, mem_activeOf.mpr ⟨mem_committed.mpr ⟨m, ?_⟩, (mem_activeOf.mp hactive).2⟩,
      hcontent⟩
    rw [committedAt_commit, hown, Option.some_or]
  · exact (hne rfl).elim

/-- An anchor that is superseded after the commit was superseded or active before it. -/
theorem AnchorWrites.superseded_commit {call : KeyedCall key} {i : ι}
    {table : Table ι CurrentStateAnchor} {seen : List CurrentStateAnchor} {m : ℕ}
    (h : AnchorWrites call i table seen (some []) (some m)) {anchor : CurrentStateAnchor}
    (hmem : anchor ∈ committed (commit i table)) (hkey : anchor.hasKey key = true)
    (hsuperseded : anchor.stateStatus = .superseded) :
    anchor ∈ committed table ∨
      ∃ old ∈ activeOf key (committed table), old.contentId = anchor.contentId := by
  obtain ⟨n, hrow⟩ := mem_committed.mp hmem
  rw [committedAt_commit] at hrow
  cases hown : ownAt i table n with
  | none =>
      rw [hown, Option.none_or] at hrow
      exact .inl (mem_committed.mpr ⟨n, hrow⟩)
  | some version =>
      rw [hown, Option.some_or] at hrow
      obtain rfl := Option.some.inj hrow
      rcases h.own n version hown with ⟨-, hactive, -⟩ | ⟨-, old, hold, hretire, rfl⟩
      · have hactive := (mem_activeOf.mp hactive).2.2
        simp [CurrentStateAnchor.isActive, hsuperseded] at hactive
      · simp only [toSupersede, Bool.and_eq_true] at hretire
        exact .inr ⟨old, mem_activeOf.mpr ⟨mem_committed.mpr ⟨n, hold⟩, hretire.1⟩, rfl⟩

theorem settled_takeOver {call : KeyedCall key} {i : ι} {anchors : Table ι CurrentStateAnchor}
    {items : Table ι ContentItem} {seen : List CurrentStateAnchor} {m : ℕ}
    (hanchors : AnchorWrites call i anchors seen (some []) (some m))
    (hitems : ItemWrites call i items (selectPrevious key seen))
    (hprevious : PreviousMarked i key items seen) (hseen : committed anchors = seen)
    (hsingle : (activeOf key (committed anchors)).length ≤ 1) {contentId : ContentId}
    (h : Settled key (committed anchors) (committed items) contentId) :
    Settled key (committed (commit i anchors)) (committed (commit i items)) contentId := by
  rintro ⟨anchor, hmem, hkey, hsuperseded, hcontent⟩ hinactive item hitem rfl
  have hcall : item.contentId ≠ call.call.contentId := by
    intro heq
    obtain ⟨new, hnew, hnewContent⟩ := hanchors.mem_commit
    exact hinactive new hnew (by rw [hnewContent, heq])
  obtain ⟨n, hrow⟩ := mem_committed.mp hitem
  rw [committedAt_commit] at hrow
  cases hown : ownAt i items n with
  | some version =>
      rw [hown, Option.some_or] at hrow
      obtain rfl := Option.some.inj hrow
      exact ((hitems.marks n version hown).resolve_left fun hmark => hcall hmark.1).2
  | none =>
      rw [hown, Option.none_or] at hrow
      have hne : selectPrevious key seen ≠ some item.contentId := by
        intro heq
        rcases hprevious _ heq [] rfl n item hrow (by simp [hasContentId]) with hnil | ⟨v, hv⟩
        · cases hnil
        · rw [hown] at hv
          cases hv
      have hbefore : ∀ old ∈ activeOf key (committed anchors),
          old.contentId ≠ some item.contentId := by
        intro old hold holdContent
        refine hne ?_
        rw [← hseen, ← holdContent]
        exact selectPrevious_of_singleton (activeOf_eq_singleton hsingle hold)
      refine h ⟨anchor, ?_, hkey, hsuperseded, hcontent⟩ hbefore item
        (mem_committed.mpr ⟨n, hrow⟩) rfl
      refine (hanchors.superseded_commit hmem hkey hsuperseded).resolve_right ?_
      rintro ⟨old, hold, holdContent⟩
      exact hbefore old hold (holdContent.trans hcontent)

theorem settled_refreshed {call : KeyedCall key} {i : ι} {anchors : Table ι CurrentStateAnchor}
    {items : Table ι ContentItem} (hanchors : Unwritten i anchors)
    (hitems : ItemWrites call i items none)
    (hsome : selectExistingSame key call.call.contentId (committed anchors) ≠ none)
    {contentId : ContentId} (h : Settled key (committed anchors) (committed items) contentId) :
    Settled key (committed (commit i anchors)) (committed (commit i items)) contentId := by
  rw [committed_commit_of_ownAt_eq_none hanchors]
  rintro hsuperseded hinactive item hitem rfl
  obtain ⟨existing, hexisting⟩ := Option.ne_none_iff_exists'.mp hsome
  obtain ⟨hactive, hcontent⟩ := selectExistingSame_some hexisting
  obtain ⟨n, hrow⟩ := mem_committed.mp hitem
  rw [committedAt_commit] at hrow
  cases hown : ownAt i items n with
  | some version =>
      rw [hown, Option.some_or] at hrow
      obtain rfl := Option.some.inj hrow
      rcases hitems.marks n version hown with ⟨hcall, -⟩ | ⟨hnone, -⟩
      · exact (hinactive existing hactive (by rw [hcontent, hcall])).elim
      · cases hnone
  | none =>
      rw [hown, Option.none_or] at hrow
      exact h hsuperseded hinactive item (mem_committed.mpr ⟨n, hrow⟩) rfl

/-! ## Runs -/

structure Invariant (calls : ι → KeyedCall key) (db : Database) (s : System ι) : Prop where
  single : (activeOf key (committed s.anchors)).length ≤ 1
  settled : ∀ contentId, Settled key db.anchors db.contentItems contentId →
    Settled key (committed s.anchors) (committed s.contentItems) contentId
  holds : ∀ i, (s.phase i).Holds (calls i) i s.anchors s.contentItems

section Steps

variable {calls : ι → KeyedCall key} {db : Database} {s : System ι} {i : ι}

/-- A step that only writes what its call sees. -/
theorem Invariant.written (h : Invariant calls db s) {anchors : Table ι CurrentStateAnchor}
    {items : Table ι ContentItem} {phase : Phase} (hanchors : WrittenBy i s.anchors anchors)
    (hitems : WrittenBy i s.contentItems items)
    (hphase : phase.Holds (calls i) i anchors items) :
    Invariant calls db ⟨anchors, items, Function.update s.phase i phase⟩ := by
  refine ⟨?_, ?_, fun j => ?_⟩
  · rw [hanchors.committed_eq]
    exact h.single
  · rw [hanchors.committed_eq, hitems.committed_eq]
    exact h.settled
  · by_cases hne : j = i
    · subst hne
      simpa using hphase
    · simp only [Function.update_of_ne hne]
      exact (h.holds j).evolve (anchorsEvolve_of_writtenBy hne hanchors)
        (itemsEvolve_of_writtenBy hne hitems)

theorem Invariant.enter (h : Invariant calls db s) {phase : Phase}
    (hphase : phase.Holds (calls i) i s.anchors s.contentItems) :
    Invariant calls db (s.enter i phase) :=
  h.written (.refl i _) (.refl i _) hphase

theorem Invariant.abort (h : Invariant calls db s) (i : ι) :
    Invariant calls db (s.abort i) :=
  h.written (writtenBy_abort i _) (writtenBy_abort i _) ⟨ownAt_abort i _, ownAt_abort i _⟩

theorem Invariant.committed_of (h : Invariant calls db s) {previous : Option ContentId}
    (hanchors : Unwritten i s.anchors ∨
      ∃ n row, ownAt i s.anchors n = some row ∧ committedAt s.anchors n = none)
    (hitems : ItemWrites (calls i) i s.contentItems previous)
    (hsingle : (activeOf key (committed (commit i s.anchors))).length ≤ 1)
    (hsettled : ∀ contentId,
      Settled key (committed s.anchors) (committed s.contentItems) contentId →
      Settled key (committed (commit i s.anchors)) (committed (commit i s.contentItems))
        contentId) :
    Invariant calls db (s.commit i) := by
  refine ⟨hsingle, fun contentId h₀ => hsettled contentId (h.settled contentId h₀), fun j => ?_⟩
  by_cases hne : j = i
  · subst hne
    simp only [System.commit, Function.update_self]
    exact ⟨ownAt_commit j _, ownAt_commit j _⟩
  · simp only [System.commit, Function.update_of_ne hne]
    exact (h.holds j).evolve (anchorsEvolve_commit hne hanchors) (itemsEvolve_commit hne hitems)

theorem Invariant.statement (h : Invariant calls db s)
    (hreads : ReadsHold calls s (.statement i)) :
    Invariant calls db (s.statement calls i) := by
  have hholds := h.holds i
  unfold System.statement
  unfold ReadsHold at hreads
  dsimp only at hreads ⊢
  cases hphase : s.phase i with
  | selectExisting =>
      rw [hphase] at hholds
      dsimp only
      split
      · exact h.abort i
      · split
        · exact h.enter ⟨hholds.1, itemWrites_of_unwritten (calls i) hholds.2 none⟩
        · exact h.enter hholds
  | refresh existing targets =>
      rw [hphase] at hholds
      dsimp only
      split
      · exact h.enter hholds
      · refine h.written (.refl i _) (writtenBy_advance ..) ⟨hholds.1, ?_⟩
        exact hholds.2.advance targets (fun _ => rfl) fun row hmatch =>
          .inl ⟨beq_iff_eq.mp hmatch, rfl⟩
  | selectPrevious =>
      rw [hphase] at hholds
      refine h.enter ⟨?_, hholds.2⟩
      rw [seenBy_of_ownAt_eq_none hholds.1]
      exact anchorWrites_of_unwritten (calls i) hholds.1
  | supersede seen targets =>
      rw [hphase] at hholds
      obtain ⟨hanchors, hitems⟩ := hholds
      dsimp only
      split
      · rename_i htargets
        subst htargets
        have hwrites := itemWrites_of_unwritten (calls i) hitems (selectPrevious key seen)
        split
        · rename_i previous hprevious
          exact h.enter ⟨hanchors, hwrites, hprevious, covered_none _ _ _⟩
        · rename_i hprevious
          refine h.enter ⟨hanchors, hwrites, fun previous hsome => ?_⟩
          rw [hprevious] at hsome
          cases hsome
      · exact h.written (writtenBy_advance ..) (.refl i _) ⟨hanchors.advance, hitems⟩
  | markPrevious seen previous targets =>
      rw [hphase] at hholds
      obtain ⟨hanchors, hitems, hprevious, hcovered⟩ := hholds
      dsimp only
      split
      · rename_i htargets
        subst htargets
        refine h.enter ⟨hanchors, hitems, fun other hother => ?_⟩
        obtain rfl := Option.some.inj (hprevious.symm.trans hother)
        exact hcovered
      · refine h.written (.refl i _) (writtenBy_advance ..)
          ⟨hanchors, ?_, hprevious, hcovered.advance⟩
        exact hitems.advance targets (fun _ => rfl) fun row hmatch =>
          .inr ⟨by rw [hprevious]; exact congrArg some (beq_iff_eq.mp hmatch).symm, rfl⟩
  | insert seen =>
      rw [hphase] at hholds
      obtain ⟨hanchors, hitems, hprevious⟩ := hholds
      dsimp only
      split
      · exact h.abort i
      · split
        · exact h.abort i
        · refine h.written (writtenBy_insert ..) (.refl i _)
            ⟨⟨_, hanchors.insert ?_ rfl⟩, hitems, hprevious⟩
          exact mem_activeOf.mpr
            ⟨List.mem_singleton_self _, hasKey_insertedAnchor s (calls i) seen, rfl⟩
  | markCurrent seen targets =>
      rw [hphase] at hholds
      obtain ⟨hanchors, hitems, hprevious⟩ := hholds
      dsimp only
      split
      · exact h.enter ⟨hanchors, hitems, hprevious⟩
      · refine h.written (.refl i _) (writtenBy_advance ..) ⟨hanchors, ?_, ?_⟩
        · exact hitems.advance targets (fun _ => rfl) fun row hmatch =>
            .inl ⟨beq_iff_eq.mp hmatch, rfl⟩
        · intro previous hsome rest hrest n row hrow hmatch
          rw [(writtenBy_advance ..).committedAt_eq] at hrow
          exact (hprevious previous hsome rest hrest n row hrow hmatch).imp_right
            ownAt_advance_mono
  | refreshed =>
      rw [hphase] at hholds hreads
      obtain ⟨hanchors, hitems⟩ := hholds
      refine h.committed_of
        (.inl hanchors) hitems ?_ fun _ => settled_refreshed hanchors hitems hreads
      rw [committed_commit_of_ownAt_eq_none hanchors]
      exact h.single
  | tookOver seen =>
      rw [hphase] at hholds hreads
      obtain ⟨⟨m, hanchors⟩, hitems, hprevious⟩ := hholds
      obtain ⟨hnew, row, hown⟩ := hanchors.new m rfl
      exact h.committed_of (.inr ⟨m, row, hown, hnew⟩) hitems
        (hanchors.singleActive_commit hreads.1 hreads.2)
        fun _ => settled_takeOver hanchors hitems hprevious hreads.1 h.single
  | committed => exact h
  | aborted => exact h

end Steps

theorem Invariant.step {calls : ι → KeyedCall key} {db : Database} {s : System ι}
    (h : Invariant calls db s) {action : Action ι} (hreads : ReadsHold calls s action) :
    Invariant calls db (s.step calls action) := by
  cases action with
  | statement i => exact h.statement hreads
  | abort i =>
      unfold System.step
      dsimp only
      split
      · exact h
      · exact h.abort i

/-- In every interleaving whose commits could read again what they have read, the key never
has two active anchors, and superseded contents are marked. -/
theorem always_singleActive (calls : ι → KeyedCall key) {db : Database}
    (hsingle : (activeOf key db.anchors).length ≤ 1) {actions : List (Action ι)}
    (hreads : Guarded (System.step calls) (ReadsHold calls) (.ofDatabase db) actions) :
    Always (System.step calls) (fun s =>
      (activeOf key (committed s.anchors)).length ≤ 1 ∧
        ∀ contentId, Settled key db.anchors db.contentItems contentId →
          Settled key (committed s.anchors) (committed s.contentItems) contentId)
      (.ofDatabase db) actions := by
  have hstart : Invariant calls db (.ofDatabase db) := by
    refine ⟨?_, fun contentId h => ?_, fun i => ⟨ownAt_ofRows i _, ownAt_ofRows i _⟩⟩
    · simpa [System.ofDatabase] using hsingle
    · simpa [System.ofDatabase] using h
  exact (hreads.always hstart fun s action h => h.step).mono fun s h => ⟨h.single, h.settled⟩

/-- A fully confident call for a content. -/
def KeyedCall.confident (hidentity : key.stateIdentity ≠ []) (now : Timestamp)
    (contentId : ContentId) (scope : ScopeResolution) : KeyedCall key where
  now := now
  args := { workspaceId := some key.workspaceId, contentId := some contentId,
            memoryType := some key.memoryType, classifyConfidence := some 1,
            stateIdentity := some key.stateIdentity }
  call := ⟨1, key.workspaceId, contentId, key.memoryType⟩
  scope := scope
  admission := by
    rw [admission_eq_ok_iff]
    exact ⟨rfl, rfl, rfl, rfl, by norm_num [minConfidence], List.mem_cons_self⟩
  identity := by simp [ResolveArgs.identity, hidentity]
  key_eq := rfl

def launchKey : StateKey := ⟨1, .anchor, "launch".toList⟩

/-- Two calls that resolve contents 1 and 2 under the same key. -/
def launchCalls (i : Fin 2) : KeyedCall launchKey :=
  .confident (by decide) 10 (i.val + 1) ⟨"launch".toList, .scopeHint⟩

def launchDatabase : Database :=
  { contentItems := [{ contentId := 1, workspaceId := some 1 },
      { contentId := 2, workspaceId := some 1 }] }

/-- The second call reads its previous content after the first one has committed. -/
theorem always_singleActive_launch :
    Always (System.step launchCalls) (fun s =>
      (activeOf launchKey (committed s.anchors)).length ≤ 1 ∧
        ∀ contentId,
          Settled launchKey launchDatabase.anchors launchDatabase.contentItems contentId →
          Settled launchKey (committed s.anchors) (committed s.contentItems) contentId)
      (.ofDatabase launchDatabase)
      (.statement 1 :: List.replicate 9 (.statement 0) ++ List.replicate 14 (.statement 1)) :=
  always_singleActive launchCalls (by decide) (by decide +kernel)

/-- Both calls read before either commits. -/
theorem two_active_launch :
    let s := run (System.step launchCalls) (.ofDatabase launchDatabase)
      ((List.replicate 4 [.statement 0, .statement 1]).flatten ++
        List.replicate 8 (.statement 0) ++ List.replicate 8 (.statement 1))
    (∀ i, s.phase i = .committed) ∧ (activeOf launchKey (committed s.anchors)).length = 2 := by
  decide +kernel

end MemoryLab.Resolver
