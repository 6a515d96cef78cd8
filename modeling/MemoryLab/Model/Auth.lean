import MemoryLab.Library.Uuid

/-! # Workspaces, keys and memberships

A decision reads the tables; what it writes (audit events, the use of a key) is listed beside
its result. -/

namespace MemoryLab.Auth

open Library

/-! ## Tables -/

inductive SubjectType where
  | human
  | serviceAgent
deriving DecidableEq

def SubjectType.label : SubjectType → String
  | human => "human"
  | serviceAgent => "service_agent"

inductive SubjectStatus where
  | active
  | disabled
deriving DecidableEq

inductive KeyStatus where
  | active
  | revoked
  | expired
deriving DecidableEq

inductive Role where
  | owner
  | admin
  | writer
  | reader
  | serviceAgent
  | auditor
deriving DecidableEq

inductive MembershipStatus where
  | active
  | invited
  | suspended
  | revoked
deriving DecidableEq

inductive WorkspaceStatus where
  | active
  | archived
deriving DecidableEq

structure AuthSubject where
  authSubjectId : Uuid
  subjectType : SubjectType
  status : SubjectStatus
deriving DecidableEq

structure ApiKey where
  keyId : Uuid
  authSubjectId : Uuid
  keyHash : Text
  keyPrefix : Text
  status : KeyStatus
  expiresAt : Option ℕ
  revokedAt : Option ℕ
deriving DecidableEq

structure WorkspaceMembership where
  workspaceId : Uuid
  authSubjectId : Uuid
  role : Role
  status : MembershipStatus
  createdAt : ℕ
deriving DecidableEq

structure Workspace where
  workspaceId : Uuid
  slug : Text
  title : Text
  status : WorkspaceStatus
  isDefault : Bool
  createdAt : ℕ
deriving DecidableEq

/-- The four tables with their primary keys, unique constraints and foreign keys. -/
structure AuthDatabase where
  subjects : List AuthSubject
  apiKeys : List ApiKey
  memberships : List WorkspaceMembership
  workspaces : List Workspace
  subjects_unique : (subjects.map (·.authSubjectId)).Nodup
  keyHashes_unique : (apiKeys.map (·.keyHash)).Nodup
  memberships_unique : (memberships.map fun m => (m.workspaceId, m.authSubjectId)).Nodup
  workspaces_unique : (workspaces.map (·.workspaceId)).Nodup
  keys_subject : ∀ key ∈ apiKeys, key.authSubjectId ∈ subjects.map (·.authSubjectId)
  memberships_subject : ∀ m ∈ memberships, m.authSubjectId ∈ subjects.map (·.authSubjectId)
  memberships_workspace : ∀ m ∈ memberships, m.workspaceId ∈ workspaces.map (·.workspaceId)

/-! ## Environment -/

/-- The process environment, the clock and the hash of a token in hexadecimal digits. -/
structure AuthEnvironment where
  databaseConfigured : Bool := true
  authMode : Option Text := none
  allowLocalDevBypass : Bool := false
  defaultAuthSubjectId : Text := []
  defaultWorkspaceId : Option Text := none
  auditEnabled : Bool := true
  now : ℕ
  sha256 : Text → Text

structure HTTPException where
  statusCode : ℕ
  detail : String
deriving DecidableEq

structure AuditEvent where
  eventType : String
  decision : String
  reasonCode : String
  requiredPermission : String
  workspaceId : Uuid
  authSubjectId : Option Uuid := none
  role : Option Role := none
  keyPrefix : Option Text := none
  statusCode : ℕ
  authMethod : Option String := none
deriving DecidableEq

inductive Effect where
  | audit (event : AuditEvent)
  | useKey (keyId : Uuid)
deriving DecidableEq

/-- How a decision ends, and what it writes. -/
structure Outcome (α : Type) where
  result : Except HTTPException α
  effects : List Effect := []

/-! ## The workspace of a request -/

inductive WorkspaceSource where
  | header
  | env
  | dbDefault
deriving DecidableEq

structure WorkspaceContext where
  workspaceId : Uuid
  source : WorkspaceSource
  isDefault : Bool
  localDevDefaultUsed : Bool
  slug : Option Text := none
  title : Option Text := none
deriving DecidableEq

def defaultLocalWorkspace : Uuid := ⟨0⟩

def parseWorkspaceUuid (value : Text) : Except HTTPException Uuid :=
  match Uuid.construct value with
  | some id => .ok id
  | none => .error ⟨400, "invalid X-Workspace-ID"⟩

def fetchWorkspace (db : AuthDatabase) (workspaceId : Uuid) : Option Workspace :=
  db.workspaces.find? fun w => w.workspaceId == workspaceId && w.status == .active

def fetchDefaultWorkspace (db : AuthDatabase) : Option Workspace :=
  ((db.workspaces.filter fun w => w.isDefault && w.status == .active).insertionSort
    fun a b => a.createdAt ≤ b.createdAt).head?

/-- The workspace that a text selects. -/
def selectWorkspace (db : AuthDatabase) (value : Text) : Except HTTPException Workspace := do
  let workspaceId ← parseWorkspaceUuid value
  match fetchWorkspace db workspaceId with
  | some row => .ok row
  | none => .error ⟨404, "workspace not found"⟩

def resolveWorkspaceContext (env : AuthEnvironment) (db : AuthDatabase)
    (xWorkspaceId : Option Text) : Except HTTPException WorkspaceContext :=
  if !env.databaseConfigured then
    .ok ⟨defaultLocalWorkspace, .env, true, true, none, none⟩
  else match xWorkspaceId.filter (· ≠ []) with
  | some value => do
    let row ← selectWorkspace db value
    .ok ⟨row.workspaceId, .header, row.isDefault, false, some row.slug, some row.title⟩
  | none => match env.defaultWorkspaceId.filter (· ≠ []) with
    | some value => do
      let row ← selectWorkspace db value
      .ok ⟨row.workspaceId, .env, row.isDefault, row.isDefault, some row.slug, some row.title⟩
    | none => match fetchDefaultWorkspace db with
      | some row =>
        .ok ⟨row.workspaceId, .dbDefault, row.isDefault, true, some row.slug, some row.title⟩
      | none => .error ⟨500, "default workspace not configured"⟩

/-! ## Permissions -/

def everyRole : List Role := [.owner, .admin, .writer, .reader, .serviceAgent, .auditor]
def writingRoles : List Role := [.owner, .admin, .writer, .serviceAgent]

/-- `ROLE_PERMISSIONS`. -/
def rolePermissions : List (String × List Role) :=
  [("content.create", writingRoles),
    ("content.read", everyRole),
    ("content.update", writingRoles),
    ("current_state.promote", [.owner, .admin, .serviceAgent]),
    ("hubs.create", writingRoles),
    ("hubs.read", everyRole),
    ("hubs.link", writingRoles),
    ("hubs.update", [.owner, .admin, .writer]),
    ("edges.create", writingRoles),
    ("edges.read", everyRole),
    ("edges.update", [.owner, .admin, .writer]),
    ("edges.archive", [.owner, .admin]),
    ("decisions.create", writingRoles),
    ("decisions.read", everyRole),
    ("decisions.update", [.owner, .admin]),
    ("retrieval.search", [.owner, .admin, .writer, .reader, .serviceAgent]),
    ("escalations.read", everyRole),
    ("escalations.resolve", [.owner, .admin]),
    ("admin.cleanup", [.owner, .admin]),
    ("admin.tier_override", [.owner, .admin]),
    ("admin.tier_rollback", [.owner, .admin])]

def allowedRoles (permission : String) : Option (List Role) := rolePermissions.lookup permission

/-- The policy grants a permission to a role. -/
def grants (permission : String) (role : Role) : Bool :=
  (allowedRoles permission).any fun roles => decide (role ∈ roles)

def adminPermissions : List String :=
  ["admin.cleanup", "admin.tier_override", "admin.tier_rollback", "escalations.resolve",
    "current_state.promote"]

def readPermissions : List String :=
  (rolePermissions.map (·.1)).filter fun permission => ".read".toList <:+ permission.toList

/-! ## Tokens -/

/-- `_parse_bearer`: the token of the header. -/
def parseBearer (authorization : Option Text) : Except HTTPException Text :=
  match authorization.filter (· ≠ []) with
  | none => .error ⟨401, "unauthenticated"⟩
  | some header => match Text.split header with
    | [scheme, token] =>
      if Text.lower scheme = "bearer".toList ∧ token.strip ≠ [] then .ok token.strip
      else .error ⟨401, "invalid_authorization_header"⟩
    | _ => .error ⟨401, "invalid_authorization_header"⟩

def candidateHashes (env : AuthEnvironment) (token : Text) : List Text :=
  [env.sha256 token, "sha256:".toList ++ env.sha256 token]

def tokenPrefix (token : Text) : Text :=
  if '.' ∈ token then (token.takeWhile (· ≠ '.')).take 32 else token.take 12

/-- `api_keys k JOIN auth_subjects s … WHERE k.key_hash IN (…)`. -/
def tokenRows (env : AuthEnvironment) (db : AuthDatabase) (token : Text) :
    List (ApiKey × AuthSubject) :=
  (db.apiKeys.filter fun key => decide (key.keyHash ∈ candidateHashes env token)).flatMap fun key =>
    (db.subjects.filter fun subject => subject.authSubjectId == key.authSubjectId).map fun subject =>
      (key, subject)

/-- `NOW() > expires_at`. -/
def ApiKey.expired (key : ApiKey) (now : ℕ) : Bool := key.expiresAt.any (· < now)

def membershipOf (db : AuthDatabase) (authSubjectId workspaceId : Uuid) :
    Option WorkspaceMembership :=
  db.memberships.find? fun m => m.authSubjectId == authSubjectId && m.workspaceId == workspaceId

/-! ## Authentication -/

structure AuthContext where
  authSubjectId : Uuid
  subjectType : String
  workspaceId : Uuid
  role : Role
  authMethod : String
  isLocalDevBypass : Bool := false
  keyPrefix : Option Text := none
  workspace : WorkspaceContext
deriving DecidableEq

section Decisions

variable (env : AuthEnvironment) (db : AuthDatabase) (permission : String)
  (workspace : WorkspaceContext)

/-- `_write_audit_event`, which gives up silently without a database. -/
def auditIf (event : AuditEvent) : List Effect :=
  if env.auditEnabled && env.databaseConfigured then [.audit event] else []

/-- `_deny`. -/
def deny {α : Type} (statusCode : ℕ) (reasonCode : String) (workspaceId : Uuid)
    (authSubjectId : Option Uuid := none) (role : Option Role := none)
    (keyPrefix : Option Text := none) : Outcome α where
  result := .error ⟨statusCode, reasonCode⟩
  effects := auditIf env
    { eventType := "auth.deny", decision := "deny", reasonCode, requiredPermission := permission
      workspaceId, authSubjectId, role, keyPrefix, statusCode }

def authFromLocalDev : Outcome AuthContext :=
  let workspaceId := workspace.workspaceId
  if !env.allowLocalDevBypass then
    deny env permission 500 "local_dev_bypass_not_enabled" workspaceId
  else match Uuid.construct env.defaultAuthSubjectId with
  | none => deny env permission 500 "local_dev_default_subject_not_configured" workspaceId
  | some subjectId =>
    match db.subjects.find? fun subject => subject.authSubjectId == subjectId with
    | none => deny env permission 403 "auth_subject_inactive" workspaceId (some subjectId)
    | some subject =>
      if subject.status ≠ .active then
        deny env permission 403 "auth_subject_inactive" workspaceId (some subjectId)
      else match membershipOf db subjectId workspaceId with
      | none =>
        deny env permission 403 "workspace_membership_required" workspaceId (some subjectId)
      | some membership =>
        if membership.status ≠ .active then
          deny env permission 403 "workspace_membership_inactive" workspaceId (some subjectId)
            (some membership.role)
        else
          { result := .ok
              { authSubjectId := subjectId, subjectType := subject.subjectType.label, workspaceId
                role := membership.role, authMethod := "local_dev_bypass"
                isLocalDevBypass := true, workspace } }

/-- The checks of `_auth_from_api_key` on the row of the presented token. -/
def authFromRow (key : ApiKey) (subject : AuthSubject) : Outcome AuthContext :=
  let workspaceId := workspace.workspaceId
  let refuse (statusCode : ℕ) (reasonCode : String) (role : Option Role := none) :
      Outcome AuthContext :=
    deny env permission statusCode reasonCode workspaceId (some key.authSubjectId) role
      (some key.keyPrefix)
  if key.status = .revoked ∨ key.revokedAt.isSome then refuse 401 "api_key_revoked"
  else if key.status = .expired then refuse 401 "api_key_expired"
  else if key.expired env.now then refuse 401 "api_key_expired"
  else if key.status ≠ .active then refuse 401 "api_key_disabled"
  else if subject.status ≠ .active then refuse 403 "auth_subject_inactive"
  else match membershipOf db key.authSubjectId workspaceId with
  | none => refuse 403 "workspace_membership_required"
  | some membership =>
    if membership.status ≠ .active then
      refuse 403 "workspace_membership_inactive" (some membership.role)
    else
      { result := .ok
          { authSubjectId := key.authSubjectId, subjectType := subject.subjectType.label
            workspaceId, role := membership.role, authMethod := "api_key"
            keyPrefix := some key.keyPrefix, workspace }
        effects := [.useKey key.keyId] }

/-- `_auth_from_api_key`. -/
def authFromApiKey (authorization : Option Text) : Outcome AuthContext :=
  match parseBearer authorization with
  | .error error => deny env permission error.statusCode error.detail workspace.workspaceId
  | .ok token =>
    if !env.databaseConfigured then
      { result := .error ⟨503, "DATABASE_URL required for this operation"⟩ }
    else match (tokenRows env db token).head? with
    | none =>
      deny env permission 401 "invalid_api_key" workspace.workspaceId none none
        (some (tokenPrefix token))
    | some (key, subject) => authFromRow env db permission workspace key subject

/-- The end of `resolve_auth_context`: the role policy and the audit of admin actions. -/
def checkPermission (ctx : AuthContext) : Outcome AuthContext :=
  match (allowedRoles permission).filter (· ≠ []) with
  | none =>
    deny env permission 500 "permission_not_configured" workspace.workspaceId
      (some ctx.authSubjectId) (some ctx.role) ctx.keyPrefix
  | some roles =>
    if ctx.role ∉ roles then
      deny env permission 403 "role_forbidden" workspace.workspaceId (some ctx.authSubjectId)
        (some ctx.role) ctx.keyPrefix
    else
      { result := .ok ctx
        effects := if permission ∈ adminPermissions then auditIf env
            { eventType := "admin.action", decision := "allow", reasonCode := "allowed"
              requiredPermission := permission, workspaceId := ctx.workspaceId
              authSubjectId := some ctx.authSubjectId, role := some ctx.role
              keyPrefix := ctx.keyPrefix, statusCode := 200, authMethod := some ctx.authMethod }
          else [] }

/-- `MEMORY_LAB_AUTH_MODE`, which is `api_key` when it is not set. -/
def authModeOf : Text :=
  let mode := (env.authMode.getD "api_key".toList).strip.lower
  if mode = [] then "api_key".toList else mode

/-- A decision that goes on where the first part has returned. -/
def Outcome.andThen {α : Type} (first : Outcome α) (next : α → Outcome α) : Outcome α :=
  match first.result with
  | .error error => { result := .error error, effects := first.effects }
  | .ok a => { result := (next a).result, effects := first.effects ++ (next a).effects }

/-- `resolve_auth_context`. -/
def resolveAuthContext (authorization : Option Text) : Outcome AuthContext :=
  if !env.databaseConfigured then
    if permission ∈ adminPermissions ∨ permission ∉ readPermissions then
      { result := .error ⟨503, "DATABASE_URL required for this operation"⟩ }
    else
      { result := .ok
          { authSubjectId := ⟨0⟩, subjectType := "user", workspaceId := ⟨0⟩, role := .reader
            authMethod := "local_dev_deterministic", isLocalDevBypass := true, workspace } }
  else
    let first :=
      if authModeOf env = "local_dev_bypass".toList then
        authFromLocalDev env db permission workspace
      else if authModeOf env = "api_key".toList then
        authFromApiKey env db permission workspace authorization
      else deny env permission 500 "auth_mode_not_configured" workspace.workspaceId
    first.andThen (checkPermission env permission workspace)

/-- The dependency of `require_permission`. -/
def requirePermission (xWorkspaceId authorization : Option Text) : Outcome AuthContext :=
  match resolveWorkspaceContext env db xWorkspaceId with
  | .error error => { result := .error error }
  | .ok workspace => resolveAuthContext env db permission workspace authorization

end Decisions

/-! ## The middleware of the tool server -/

/-- `_resolve_workspace_api_key`. -/
def resolveWorkspaceApiKey (env : AuthEnvironment) (db : AuthDatabase) (token : Text) :
    Option Uuid :=
  if !env.databaseConfigured then none
  else match ((tokenRows env db token).filter fun row =>
      row.1.status == .active && row.2.status == .active).head? with
  | none => none
  | some (key, _) =>
    if key.revokedAt.isSome then none
    else if key.expired env.now then none
    else
      (((db.memberships.filter fun m =>
        m.authSubjectId == key.authSubjectId && m.status == .active).insertionSort
          fun a b => a.createdAt ≤ b.createdAt).head?).map (·.workspaceId)

end MemoryLab.Auth
