import MemoryLab.Verification.Auth.Soundness

/-! # Two authenticators for one token -/

namespace MemoryLab.Auth

open Library

/-! ## The header of a token -/

/-- A text that a bearer header can carry. -/
structure BearerToken where
  text : Text
  nonempty : text ≠ []
  noSpace : ∀ c ∈ text, Text.isSpace c = false

theorem filter_ne_nil {s : Text} (h : s ≠ []) :
    (some s).filter (fun value => decide (value ≠ [])) = some s := by
  simp [Option.filter, h]

def BearerToken.header (token : BearerToken) : Text := "Bearer ".toList ++ token.text

theorem BearerToken.split_header (token : BearerToken) :
    Text.split token.header = ["Bearer".toList, token.text] := by
  have hword : ∀ c ∈ "Bearer".toList, Text.isSpace c = false := by
    intro c hc
    have hall : "Bearer".toList.all (fun c => !Text.isSpace c) = true := by decide
    simpa using List.all_eq_true.mp hall c hc
  have hheader : token.header = "Bearer".toList ++ ' ' :: token.text := rfl
  rw [Text.split, hheader, List.splitOnP_append_cons_of_forall_mem hword ' ' (by decide),
    List.splitOnP_eq_singleton token.noSpace]
  simp [token.nonempty]

theorem BearerToken.parseBearer (token : BearerToken) :
    parseBearer (some token.header) = .ok token.text := by
  have hstrip : token.text.strip = token.text :=
    (Text.trimmed_of_forall_not token.noSpace).stripChars_eq
  have hscheme : Text.lower "Bearer".toList = "bearer".toList := rfl
  have hheader : token.header ≠ [] := List.append_ne_nil_of_right_ne_nil _ token.nonempty
  rw [Auth.parseBearer, filter_ne_nil hheader]
  simp only [token.split_header]
  rw [if_pos ⟨hscheme, by rw [hstrip]; exact token.nonempty⟩, hstrip]

/-! ## The two layers -/

section Layers

variable {env : AuthEnvironment} {db : AuthDatabase} {permission : String}

/-- The service accepts the token on a request whose header selects the workspace. -/
def RestAuthenticates (env : AuthEnvironment) (db : AuthDatabase) (permission : String)
    (token : BearerToken) (workspaceId : Uuid) : Prop :=
  ∃ workspace ctx, resolveWorkspaceContext env db (some workspaceId.text) = .ok workspace ∧
    (authFromApiKey env db permission workspace (some token.header)).result = .ok ctx ∧
      ctx.workspaceId = workspaceId

def ActiveWorkspace (db : AuthDatabase) (workspaceId : Uuid) : Prop :=
  ∃ w ∈ db.workspaces, w.workspaceId = workspaceId ∧ w.status = .active

theorem fetchWorkspace_eq_some {workspaceId : Uuid} {w : Workspace}
    (h : fetchWorkspace db workspaceId = some w) :
    w ∈ db.workspaces ∧ w.workspaceId = workspaceId ∧ w.status = .active := by
  have hspec := List.find?_some h
  simp only [Bool.and_eq_true, beq_iff_eq] at hspec
  exact ⟨List.mem_of_find?_eq_some h, hspec⟩

theorem exists_fetchWorkspace {workspaceId : Uuid} (h : ActiveWorkspace db workspaceId) :
    ∃ w, fetchWorkspace db workspaceId = some w := by
  obtain ⟨w, hw, hid, hactive⟩ := h
  apply Option.isSome_iff_exists.mp
  rw [fetchWorkspace, List.find?_isSome]
  exact ⟨w, hw, by simp [hid, hactive]⟩

theorem resolveWorkspaceContext_text (hdb : env.databaseConfigured = true) (workspaceId : Uuid) :
    resolveWorkspaceContext env db (some workspaceId.text) =
      match fetchWorkspace db workspaceId with
      | some row =>
        .ok ⟨row.workspaceId, .header, row.isDefault, false, some row.slug, some row.title⟩
      | none => .error ⟨404, "workspace not found"⟩ := by
  have hsome := filter_ne_nil workspaceId.text_ne_nil
  have hselect : selectWorkspace db workspaceId.text = match fetchWorkspace db workspaceId with
      | some row => .ok row
      | none => .error ⟨404, "workspace not found"⟩ := by
    rw [selectWorkspace, parseWorkspaceUuid, Uuid.construct_text]
    rfl
  simp only [resolveWorkspaceContext, hdb, Bool.not_true, Bool.false_eq_true, if_false, hsome,
    hselect]
  cases fetchWorkspace db workspaceId <;> rfl

theorem restAuthenticates_iff {token : BearerToken} {workspaceId : Uuid} :
    RestAuthenticates env db permission token workspaceId ↔
      env.databaseConfigured = true ∧ ActiveWorkspace db workspaceId ∧
        ∃ key subject membership, (tokenRows env db token.text).head? = some (key, subject) ∧
          AcceptsRow env db workspaceId key subject membership := by
  constructor
  · rintro ⟨workspace, ctx, hworkspace, hauth, hctx⟩
    have hdb : env.databaseConfigured = true := by
      by_contra hdb
      simp [authFromApiKey, token.parseBearer, Bool.eq_false_iff.mpr hdb] at hauth
    rw [resolveWorkspaceContext_text hdb] at hworkspace
    cases hfetch : fetchWorkspace db workspaceId with
    | none => simp [hfetch] at hworkspace
    | some row =>
        simp only [hfetch] at hworkspace
        obtain rfl := (Except.ok.inj hworkspace).symm
        obtain ⟨hmem, hid, hactive⟩ := fetchWorkspace_eq_some hfetch
        obtain ⟨presented, key, subject, membership, htoken, hrow, haccepts, -⟩ :=
          authFromApiKey_ok hdb hauth
        obtain rfl : token.text = presented := by
          simpa [token.parseBearer] using htoken
        dsimp only at haccepts
        rw [hid] at haccepts
        exact ⟨hdb, ⟨row, hmem, hid, hactive⟩, key, subject, membership, hrow, haccepts⟩
  · rintro ⟨hdb, hactive, key, subject, membership, hrow, haccepts⟩
    obtain ⟨row, hfetch⟩ := exists_fetchWorkspace hactive
    have hid := (fetchWorkspace_eq_some hfetch).2.1
    let workspace : WorkspaceContext :=
      ⟨row.workspaceId, .header, row.isDefault, false, some row.slug, some row.title⟩
    refine ⟨workspace, keyContext workspace key subject membership, ?_, ?_, hid⟩
    · rw [resolveWorkspaceContext_text hdb, hfetch]
    · have haccepts : AcceptsRow env db workspace.workspaceId key subject membership := by
        rwa [show workspace.workspaceId = workspaceId from hid]
      simp only [authFromApiKey, token.parseBearer, hdb, hrow, Bool.not_true, Bool.false_eq_true,
        if_false, haccepts.authFromRow]

/-- A key that is not switched off, of a subject that is not either. -/
def enabled (row : ApiKey × AuthSubject) : Bool :=
  row.1.status == .active && row.2.status == .active

/-- The active membership that a subject got first. -/
def firstMembership (db : AuthDatabase) (authSubjectId : Uuid) : Option WorkspaceMembership :=
  ((db.memberships.filter fun m =>
    m.authSubjectId == authSubjectId && m.status == .active).insertionSort
      fun a b => a.createdAt ≤ b.createdAt).head?

theorem firstMembership_spec {authSubjectId : Uuid} {m : WorkspaceMembership}
    (h : firstMembership db authSubjectId = some m) :
    m ∈ db.memberships ∧ m.authSubjectId = authSubjectId ∧ m.status = .active := by
  have hmem := (List.mem_insertionSort _).mp (List.mem_of_head? h)
  simpa only [List.mem_filter, Bool.and_eq_true, beq_iff_eq] using hmem

theorem exists_firstMembership {m : WorkspaceMembership} (hm : m ∈ db.memberships)
    (hactive : m.status = .active) : ∃ first, firstMembership db m.authSubjectId = some first := by
  apply Option.isSome_iff_exists.mp
  rw [firstMembership, List.isSome_head?]
  apply List.ne_nil_of_mem (a := m)
  rw [List.mem_insertionSort, List.mem_filter]
  exact ⟨hm, by simp [hactive]⟩

theorem resolveWorkspaceApiKey_eq_some {token : Text} {workspaceId : Uuid} :
    resolveWorkspaceApiKey env db token = some workspaceId ↔
      env.databaseConfigured = true ∧ ∃ key subject m,
        ((tokenRows env db token).filter enabled).head? = some (key, subject) ∧
          key.revokedAt = none ∧ key.expired env.now = false ∧
            firstMembership db key.authSubjectId = some m ∧ m.workspaceId = workspaceId := by
  have henabled : (fun row : ApiKey × AuthSubject =>
      row.1.status == .active && row.2.status == .active) = enabled := rfl
  by_cases hdb : env.databaseConfigured = true
  · rw [resolveWorkspaceApiKey, henabled]
    cases hrow : ((tokenRows env db token).filter enabled).head? with
    | none => simp [hdb]
    | some row =>
        obtain ⟨key, subject⟩ := row
        simp only [hdb, Bool.not_true, Bool.false_eq_true, if_false]
        by_cases hrevoked : key.revokedAt = none
        · by_cases hexpired : key.expired env.now = true
          · simp [hrevoked, hexpired]
          · simp [hrevoked, hexpired, firstMembership]
        · simp [hrevoked, Option.isSome_iff_ne_none]
  · simp [resolveWorkspaceApiKey, Bool.eq_false_iff.mpr hdb]

theorem head?_filter {α : Type} {p : α → Bool} {rows : List α} {row : α}
    (h : rows.head? = some row) (hp : p row = true) : (rows.filter p).head? = some row := by
  obtain ⟨rest, rfl⟩ := List.head?_eq_some_iff.mp h
  rw [List.filter_cons_of_pos hp, List.head?_cons]

theorem AcceptsRow.enabled {workspaceId : Uuid} {key : ApiKey} {subject : AuthSubject}
    {membership : WorkspaceMembership}
    (h : AcceptsRow env db workspaceId key subject membership) :
    enabled (key, subject) = true := by
  simp [Auth.enabled, h.keyActive, h.subjectActive]

/-! ## Agreement -/

/-- The workspace that the tool server picks is one the service accepts, and where the service
accepts the token for a workspace the tool server picks one. -/
def Agrees (env : AuthEnvironment) (db : AuthDatabase) (permission : String)
    (token : BearerToken) : Prop :=
  (∀ workspaceId, resolveWorkspaceApiKey env db token.text = some workspaceId →
    RestAuthenticates env db permission token workspaceId) ∧
  ((∃ workspaceId, RestAuthenticates env db permission token workspaceId) →
    ∃ workspaceId, resolveWorkspaceApiKey env db token.text = some workspaceId)

/-- The first enabled key row of the token, while it is neither revoked nor expired, is the first
of all its rows, and the first active membership of its subject is in an active workspace. -/
def Coherent (env : AuthEnvironment) (db : AuthDatabase) (token : BearerToken) : Prop :=
  env.databaseConfigured = true → ∀ key subject m,
    ((tokenRows env db token.text).filter enabled).head? = some (key, subject) →
    key.revokedAt = none → key.expired env.now = false →
    firstMembership db key.authSubjectId = some m →
      (tokenRows env db token.text).head? = some (key, subject) ∧ ActiveWorkspace db m.workspaceId

/-- The tool server picks a workspace wherever the service accepts the token for one. -/
theorem exists_resolveWorkspaceApiKey {token : BearerToken} {workspaceId : Uuid}
    (h : RestAuthenticates env db permission token workspaceId) :
    ∃ picked, resolveWorkspaceApiKey env db token.text = some picked := by
  obtain ⟨hdb, -, key, subject, membership, hrow, haccepts⟩ := restAuthenticates_iff.mp h
  obtain ⟨first, hfirst⟩ :=
    exists_firstMembership haccepts.membership_mem haccepts.membershipActive
  rw [haccepts.member] at hfirst
  exact ⟨first.workspaceId, resolveWorkspaceApiKey_eq_some.mpr ⟨hdb, key, subject, first,
    head?_filter hrow haccepts.enabled, haccepts.notRevoked, haccepts.notExpired, hfirst, rfl⟩⟩

/-- The two layers agree on a token exactly in the coherent states. -/
theorem agrees_iff_coherent (env : AuthEnvironment) (db : AuthDatabase) (permission : String)
    (token : BearerToken) : Agrees env db permission token ↔ Coherent env db token := by
  constructor
  · rintro ⟨hpicked, -⟩ hdb key subject m hrow hrevoked hexpired hfirst
    have hresolved : resolveWorkspaceApiKey env db token.text = some m.workspaceId :=
      resolveWorkspaceApiKey_eq_some.mpr
        ⟨hdb, key, subject, m, hrow, hrevoked, hexpired, hfirst, rfl⟩
    obtain ⟨-, hactive, other, owner, membership, hother, haccepts⟩ :=
      restAuthenticates_iff.mp (hpicked m.workspaceId hresolved)
    have hsame := head?_filter hother haccepts.enabled
    rw [hrow] at hsame
    rw [Option.some.inj hsame]
    exact ⟨hother, hactive⟩
  · intro h
    refine ⟨?_, fun ⟨workspaceId, hrest⟩ => exists_resolveWorkspaceApiKey hrest⟩
    intro workspaceId hresolved
    obtain ⟨hdb, key, subject, m, hrow, hrevoked, hexpired, hfirst, rfl⟩ :=
      resolveWorkspaceApiKey_eq_some.mp hresolved
    obtain ⟨hhead, hactive⟩ := h hdb key subject m hrow hrevoked hexpired hfirst
    obtain ⟨hmem, hmember, hstatus⟩ := firstMembership_spec hfirst
    have henabled := (List.mem_filter.mp (List.mem_of_head? hrow)).2
    simp only [enabled, Bool.and_eq_true, beq_iff_eq] at henabled
    exact restAuthenticates_iff.mpr ⟨hdb, hactive, key, subject, m, hhead,
      henabled.1, hrevoked, hexpired, henabled.2, hmem, hmember, rfl, hstatus⟩

end Layers

/-! ## An archived workspace -/

def plainToken : BearerToken where
  text := "token".toList
  nonempty := by simp
  noSpace := by
    have hall : "token".toList.all (fun c => !Text.isSpace c) = true := by decide
    intro c hc
    simpa using List.all_eq_true.mp hall c hc

/-- The tool server picks the archived workspace of the only membership. -/
theorem not_agrees_archived : ¬ ∀ (env : AuthEnvironment) (db : AuthDatabase)
    (permission : String) (token : BearerToken), Agrees env db permission token := by
  intro h
  have hpicked : resolveWorkspaceApiKey (clockAt 5) (oneReader .archived) plainToken.text =
      some ⟨3⟩ := by
    decide +kernel
  obtain ⟨-, ⟨w, hw, -, hactive⟩, -⟩ := restAuthenticates_iff.mp
    ((h (clockAt 5) (oneReader .archived) "content.read" plainToken).1 ⟨3⟩ hpicked)
  obtain rfl := List.mem_singleton.mp hw
  cases hactive

end MemoryLab.Auth
