import MemoryLab.Model.Auth

/-! # Who is let in -/

namespace MemoryLab.Auth

open Library

variable {env : AuthEnvironment} {db : AuthDatabase} {permission : String}
  {workspace : WorkspaceContext}

/-! ## Lookups -/

/-- A subject has one membership in a workspace. -/
theorem membershipOf_eq_some {authSubjectId workspaceId : Uuid} {m : WorkspaceMembership} :
    membershipOf db authSubjectId workspaceId = some m ↔
      m ∈ db.memberships ∧ m.authSubjectId = authSubjectId ∧ m.workspaceId = workspaceId := by
  constructor
  · intro h
    have hspec := List.find?_some h
    simp only [Bool.and_eq_true, beq_iff_eq] at hspec
    exact ⟨List.mem_of_find?_eq_some h, hspec⟩
  · rintro ⟨hm, rfl, rfl⟩
    cases hfound : membershipOf db m.authSubjectId m.workspaceId with
    | none => simpa using List.find?_eq_none.mp hfound m hm
    | some other =>
        have hspec := List.find?_some hfound
        simp only [Bool.and_eq_true, beq_iff_eq] at hspec
        have hother := List.mem_of_find?_eq_some hfound
        have hkey : (other.workspaceId, other.authSubjectId) =
            (m.workspaceId, m.authSubjectId) := by
          rw [hspec.1, hspec.2]
        rw [List.inj_on_of_nodup_map db.memberships_unique hother hm hkey]

theorem grants_iff {role : Role} :
    grants permission role = true ↔
      ∃ roles, (allowedRoles permission).filter (· ≠ []) = some roles ∧ role ∈ roles := by
  cases hroles : allowedRoles permission with
  | none => simp [grants, hroles]
  | some roles =>
      by_cases hne : roles = []
      · simp [grants, hroles, hne, Option.filter]
      · simp [grants, hroles, hne, Option.filter]

/-! ## The parts of the decision -/

/-- What the checks on the row of a token let through. -/
structure AcceptsRow (env : AuthEnvironment) (db : AuthDatabase) (workspaceId : Uuid)
    (key : ApiKey) (subject : AuthSubject) (membership : WorkspaceMembership) : Prop where
  keyActive : key.status = .active
  notRevoked : key.revokedAt = none
  notExpired : key.expired env.now = false
  subjectActive : subject.status = .active
  membership_mem : membership ∈ db.memberships
  member : membership.authSubjectId = key.authSubjectId
  workspace : membership.workspaceId = workspaceId
  membershipActive : membership.status = .active

def keyContext (workspace : WorkspaceContext) (key : ApiKey) (subject : AuthSubject)
    (membership : WorkspaceMembership) : AuthContext where
  authSubjectId := key.authSubjectId
  subjectType := subject.subjectType.label
  workspaceId := workspace.workspaceId
  role := membership.role
  authMethod := "api_key"
  keyPrefix := some key.keyPrefix
  workspace := workspace

theorem AcceptsRow.authFromRow {key : ApiKey} {subject : AuthSubject}
    {membership : WorkspaceMembership}
    (h : AcceptsRow env db workspace.workspaceId key subject membership) :
    (authFromRow env db permission workspace key subject).result =
      .ok (keyContext workspace key subject membership) := by
  have hmembership : membershipOf db key.authSubjectId workspace.workspaceId = some membership :=
    membershipOf_eq_some.mpr ⟨h.membership_mem, h.member, h.workspace⟩
  simp [Auth.authFromRow, h.keyActive, h.notRevoked, h.notExpired, h.subjectActive, hmembership,
    h.membershipActive, keyContext]

theorem acceptsRow_of_authFromRow {key : ApiKey} {subject : AuthSubject} {ctx : AuthContext}
    (h : (authFromRow env db permission workspace key subject).result = .ok ctx) :
    ∃ membership, AcceptsRow env db workspace.workspaceId key subject membership := by
  unfold authFromRow at h
  dsimp only at h
  split at h
  · cases h
  · rename_i hrevoked
    split at h
    · cases h
    · split at h
      · cases h
      · rename_i hexpired
        split at h
        · cases h
        · rename_i hactive
          split at h
          · cases h
          · rename_i hsubject
            split at h
            · cases h
            · rename_i membership hmembership
              split at h
              · cases h
              · rename_i hstatus
                obtain ⟨hmem, hmember, hworkspace⟩ := membershipOf_eq_some.mp hmembership
                refine ⟨membership, not_not.mp hactive, ?_, by simpa using hexpired,
                  not_not.mp hsubject, hmem, hmember, hworkspace, not_not.mp hstatus⟩
                simpa using (not_or.mp hrevoked).2

/-- What makes the presented token good for a permission in a workspace: the row that the lookup
finds for it, the subject of the row and the membership of the subject. -/
structure Authorised (env : AuthEnvironment) (db : AuthDatabase) (permission : String)
    (workspaceId : Uuid) (authorization : Option Text) (token : Text) (key : ApiKey)
    (subject : AuthSubject) (membership : WorkspaceMembership) : Prop where
  presented : parseBearer authorization = .ok token
  row : (tokenRows env db token).head? = some (key, subject)
  accepted : AcceptsRow env db workspaceId key subject membership
  granted : grants permission membership.role = true

theorem authFromApiKey_ok (hdb : env.databaseConfigured = true) {authorization : Option Text}
    {ctx : AuthContext}
    (h : (authFromApiKey env db permission workspace authorization).result = .ok ctx) :
    ∃ token key subject membership, parseBearer authorization = .ok token ∧
      (tokenRows env db token).head? = some (key, subject) ∧
      AcceptsRow env db workspace.workspaceId key subject membership ∧
      ctx = keyContext workspace key subject membership := by
  unfold authFromApiKey at h
  cases htoken : parseBearer authorization with
  | error error => simp [htoken, deny] at h
  | ok token =>
      cases hrow : (tokenRows env db token).head? with
      | none => simp [htoken, hdb, hrow, deny] at h
      | some row =>
          obtain ⟨key, subject⟩ := row
          simp only [htoken, hdb, hrow, Bool.not_true, Bool.false_eq_true, if_false] at h
          obtain ⟨membership, haccepts⟩ := acceptsRow_of_authFromRow h
          rw [haccepts.authFromRow] at h
          exact ⟨token, key, subject, membership, rfl, hrow, haccepts, (Except.ok.inj h).symm⟩

theorem Outcome.andThen_ok {α : Type} {first : Outcome α} {next : α → Outcome α} {b : α} :
    (first.andThen next).result = .ok b ↔
      ∃ a, first.result = .ok a ∧ (next a).result = .ok b := by
  unfold Outcome.andThen
  cases hresult : first.result with
  | error error => simp
  | ok a => simp

theorem checkPermission_ok {ctx ctx' : AuthContext} :
    (checkPermission env permission workspace ctx).result = .ok ctx' ↔
      grants permission ctx.role = true ∧ ctx' = ctx := by
  rw [grants_iff]
  unfold checkPermission
  cases hroles : (allowedRoles permission).filter (· ≠ []) with
  | none => simp [deny]
  | some roles =>
      by_cases hrole : ctx.role ∈ roles
      · simp [hrole, eq_comm]
      · simp [hrole, deny]

/-! ## The whole decision -/

theorem resolveAuthContext_apiKey (hdb : env.databaseConfigured = true)
    (hmode : authModeOf env = "api_key".toList) (authorization : Option Text) :
    resolveAuthContext env db permission workspace authorization =
      (authFromApiKey env db permission workspace authorization).andThen
        (checkPermission env permission workspace) := by
  have hother : "api_key".toList ≠ "local_dev_bypass".toList := by decide
  simp only [resolveAuthContext, hdb, hmode, hother, Bool.not_true, Bool.false_eq_true, if_false,
    if_true]

/-- A request is let in exactly where its token is authorised. -/
theorem resolveAuthContext_ok_iff (hdb : env.databaseConfigured = true)
    (hmode : authModeOf env = "api_key".toList) {authorization : Option Text} {ctx : AuthContext} :
    (resolveAuthContext env db permission workspace authorization).result = .ok ctx ↔
      ∃ token key subject membership,
        Authorised env db permission workspace.workspaceId authorization token key subject
          membership ∧ ctx = keyContext workspace key subject membership := by
  rw [resolveAuthContext_apiKey hdb hmode, Outcome.andThen_ok]
  constructor
  · rintro ⟨first, hfirst, hcheck⟩
    obtain ⟨token, key, subject, membership, htoken, hrow, haccepts, rfl⟩ :=
      authFromApiKey_ok hdb hfirst
    obtain ⟨hgrants, rfl⟩ := checkPermission_ok.mp hcheck
    exact ⟨token, key, subject, membership, ⟨htoken, hrow, haccepts, hgrants⟩, rfl⟩
  · rintro ⟨token, key, subject, membership, hauthorised, rfl⟩
    refine ⟨keyContext workspace key subject membership, ?_,
      checkPermission_ok.mpr ⟨hauthorised.granted, rfl⟩⟩
    simp only [authFromApiKey, hauthorised.presented, hdb, hauthorised.row, Bool.not_true,
      Bool.false_eq_true, if_false, hauthorised.accepted.authFromRow]

/-- A context is returned only for an authorised token, and every other case raises. -/
theorem resolveAuthContext_sound (env : AuthEnvironment) (db : AuthDatabase) (permission : String)
    (workspace : WorkspaceContext) (authorization : Option Text)
    (hdb : env.databaseConfigured = true) (hmode : authModeOf env = "api_key".toList) :
    (∀ ctx, (resolveAuthContext env db permission workspace authorization).result = .ok ctx →
      ctx.workspaceId = workspace.workspaceId ∧ ∃ token key subject membership,
        Authorised env db permission ctx.workspaceId authorization token key subject
          membership) ∧
    ((¬ ∃ token key subject membership, Authorised env db permission workspace.workspaceId
        authorization token key subject membership) →
      ∃ error, (resolveAuthContext env db permission workspace authorization).result =
        .error error) := by
  constructor
  · intro ctx h
    obtain ⟨token, key, subject, membership, hauthorised, rfl⟩ :=
      (resolveAuthContext_ok_iff hdb hmode).mp h
    exact ⟨rfl, token, key, subject, membership, hauthorised⟩
  · intro h
    cases hresult : (resolveAuthContext env db permission workspace authorization).result with
    | error error => exact ⟨error, rfl⟩
    | ok ctx =>
        obtain ⟨token, key, subject, membership, hauthorised, -⟩ :=
          (resolveAuthContext_ok_iff hdb hmode).mp hresult
        exact absurd ⟨token, key, subject, membership, hauthorised⟩ h

/-! ## One key -/

def clockAt (now : ℕ) : AuthEnvironment where
  now := now
  sha256 token := token

/-- A reader of one workspace, with one key. -/
def oneReader (workspaceStatus : WorkspaceStatus) : AuthDatabase where
  subjects := [⟨⟨1⟩, .human, .active⟩]
  apiKeys := [⟨⟨2⟩, ⟨1⟩, "token".toList, "token".toList, .active, some 10, none⟩]
  memberships := [⟨⟨3⟩, ⟨1⟩, .reader, .active, 0⟩]
  workspaces := [⟨⟨3⟩, "w".toList, "w".toList, workspaceStatus, false, 0⟩]
  subjects_unique := by decide
  keyHashes_unique := by decide
  memberships_unique := by decide
  workspaces_unique := by simp
  keys_subject := by simp
  memberships_subject := by simp
  memberships_workspace := by simp

/-- The key reads before it expires, and neither writes nor reads afterwards. -/
theorem resolveAuthContext_sound_oneReader :
    let workspace : WorkspaceContext := ⟨⟨3⟩, .header, false, false, none, none⟩
    (∀ ctx, (resolveAuthContext (clockAt 5) (oneReader .active) "content.read" workspace
        (some "Bearer token".toList)).result = .ok ctx → ctx.workspaceId = ⟨3⟩) ∧
      (resolveAuthContext (clockAt 5) (oneReader .active) "content.read" workspace
        (some "Bearer token".toList)).result.isOk = true ∧
      (resolveAuthContext (clockAt 5) (oneReader .active) "content.create" workspace
        (some "Bearer token".toList)).result.isOk = false ∧
      (resolveAuthContext (clockAt 11) (oneReader .active) "content.read" workspace
        (some "Bearer token".toList)).result.isOk = false :=
  ⟨fun ctx h => ((resolveAuthContext_sound (clockAt 5) (oneReader .active) "content.read"
      ⟨⟨3⟩, .header, false, false, none, none⟩ (some "Bearer token".toList) rfl
      (by decide +kernel)).1 ctx h).1, by decide +kernel, by decide +kernel, by decide +kernel⟩

end MemoryLab.Auth
