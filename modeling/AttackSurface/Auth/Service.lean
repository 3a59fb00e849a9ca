import AttackSurface.Text.Unicode

/-!
# Sign-in and sessions (`app/auth/service.py`)

`authenticate`, `complete_mfa`, `refresh`, `switch_tenant` and `logout` as functions from the
database to the committed database and what the caller gets.  An exception after the last
commit rolls back, so that a refused call returns the database as it was last committed.

What the libraries do (password and token hashes, one-time codes, signed challenges) is a
parameter, `Crypto`.  A call gets its clock and its random draws (`Draw`) as inputs.  The
audit log keeps, of each record, what it says about sign-ins.
-/

namespace App.Auth

open PyText

/-! ## Rows -/

inductive Role
  | platformAdmin
  | tenantAdmin
  | securityAnalyst
  | viewer
deriving DecidableEq, Repr

inductive TenantStatus
  | active
  | suspended
deriving DecidableEq, Repr

structure Tenant where
  id : Nat
  status : TenantStatus := .active
deriving DecidableEq

structure TenantMembership where
  tenantId : Nat
  userId : Nat
  role : Role := .viewer
  isActive : Bool := true
  createdAt : Int := 0
deriving DecidableEq

structure User where
  id : Nat
  email : Str
  passwordHash : Option Str := none
  isActive : Bool := true
  isPlatformAdmin : Bool := false
  mfaEnabled : Bool := false
  mfaSecretEncrypted : Option Str := none
  failedLoginCount : Nat := 0
  lockedUntil : Option Int := none
  lastLoginAt : Option Int := none
  defaultTenantId : Option Nat := none
deriving DecidableEq

structure UserSession where
  id : Nat
  userId : Nat
  tenantId : Option Nat
  refreshTokenHash : Str
  previousTokenHash : Option Str := none
  lastUsedAt : Option Int
  expiresAt : Int
  absoluteExpiresAt : Int
  revokedAt : Option Int := none
  revokedReason : Option Str := none
  mfaVerified : Bool := false
deriving DecidableEq

inductive Action
  | login
  | loginFailed
  | logout
  | tokenReuse
  | tenantSwitch
deriving DecidableEq, Repr

/-- The `reason` of a failed sign-in. -/
inductive Reason
  | unknownOrInactive
  | locked
  | badPassword
  | badPasswordLocked
  | badMfaCode
deriving DecidableEq, Repr

structure Entry where
  action : Action
  userId : Option Nat := none
  sessionId : Option Nat := none
  reason : Option Reason := none
deriving DecidableEq

structure Db where
  users : List User := []
  tenants : List Tenant := []
  memberships : List TenantMembership := []
  sessions : List UserSession := []
  log : List Entry := []
  userIds : (users.map User.id).Nodup := by decide
  emails : (users.map User.email).Nodup := by decide
  sessionIds : (sessions.map UserSession.id).Nodup := by decide

namespace Db

variable (db : Db)

def user? (id : Nat) : Option User := db.users.find? fun u => decide (u.id = id)

def userByEmail? (email : Str) : Option User := db.users.find? fun u => decide (u.email = email)

def session? (id : Nat) : Option UserSession := db.sessions.find? fun x => decide (x.id = id)

/-- The update of a user's row; `id` and `email` are never written. -/
def setUser (u : User) : Db :=
  { db with
    users := db.users.map fun v => if v.id = u.id then { u with id := v.id, email := v.email } else v
    userIds := by
      rw [List.map_map, List.map_congr_left (g := User.id) fun v _ => ?_]
      · exact db.userIds
      · simp only [Function.comp_apply]
        split <;> rfl
    emails := by
      rw [List.map_map, List.map_congr_left (g := User.email) fun v _ => ?_]
      · exact db.emails
      · simp only [Function.comp_apply]
        split <;> rfl }

def setSession (x : UserSession) : Db :=
  { db with
    sessions := db.sessions.map fun y => if y.id = x.id then x else y
    sessionIds := by
      rw [List.map_map, List.map_congr_left (g := UserSession.id) fun y _ => ?_]
      · exact db.sessionIds
      simp only [Function.comp_apply]
      split
      · next h => exact h.symm
      · rfl }

def record (e : Entry) : Db := { db with log := db.log ++ [e] }

end Db

/-! ## Settings and libraries -/

structure Settings where
  accountLockoutThreshold : Nat := 5
  accountLockoutMinutes : Int := 15
  refreshTokenTtlDays : Int := 7
  sessionAbsoluteTtlDays : Int := 30
  /-- 0 disables the idle timeout -/
  sessionIdleTtlMinutes : Int := 30

def minute : Int := 60
def day : Int := 86400

structure Crypto where
  unicode : Unicode
  /-- the password against a stored hash -/
  verifyPassword : Str → Str → Bool
  passwordNeedsRehash : Str → Bool
  hashPassword : Str → Str
  hashToken : Str → Str
  /-- the secret of a user's one-time codes, or the exception -/
  decryptMfa : Nat → Str → Except Str Str
  totpVerify : Str → Str → Int → Bool
  createMfaChallenge : Nat → Option Nat → Int → Str
  /-- user and tenant of a challenge (`none`: forged or expired) -/
  decodeMfaChallenge : Str → Int → Option (Nat × Option Nat)

structure Env extends Settings, Crypto

/-- What a call draws at random. -/
structure Draw where
  sessionId : Nat
  token : Str
deriving DecidableEq

inductive Refusal
  | unauthorized (message : Str)
  | forbidden (message : Str)
  | validationFailed (message : Str)
  /-- an exception of a library or of the database -/
  | raised (name : Str)
deriving DecidableEq

def integrityError : Refusal := .raised "IntegrityError".toList
def genericLoginError : Refusal := .unauthorized "Invalid email or password".toList
def challengeInvalid : Refusal := .unauthorized "MFA challenge expired or invalid".toList
def invalidCode : Refusal := .unauthorized "Invalid verification code".toList
def sessionExpired : Refusal := .unauthorized "Session expired".toList

structure SessionTokens where
  refreshToken : Str
  refreshExpiresAt : Int
  sessionId : Nat
  userId : Nat
  tenantId : Option Nat
  role : Role
deriving DecidableEq

inductive LoginOutcome
  | tokens (t : SessionTokens)
  | mfaRequired (mfaToken : Str)
deriving DecidableEq

def normalizeEmail (U : Unicode) (email : Str) : Str := U.lower (strip email)

/-! ## Tenants -/

def Db.tenantHas (db : Db) (tid : Nat) (status : TenantStatus) : Bool :=
  db.tenants.any fun t => decide (t.id = tid ∧ t.status = status)

/-- `active_membership`. -/
def activeMembership (db : Db) (user : User) (tid : Nat) : Option TenantMembership :=
  db.memberships.find? fun m =>
    decide (m.userId = user.id ∧ m.tenantId = tid ∧ m.isActive = true) && db.tenantHas m.tenantId .active

def membershipsIn (db : Db) (user : User) (status : TenantStatus) : List TenantMembership :=
  (db.memberships.filter fun m => decide (m.userId = user.id ∧ m.isActive = true) && db.tenantHas m.tenantId status).insertionSort
    fun a b => a.createdAt ≤ b.createdAt

def User.roleAs (user : User) (role : Role) : Role := if user.isPlatformAdmin then .platformAdmin else role

/-- The loop over the candidates (`none`: it falls through). -/
def tryCandidates (db : Db) (user : User) (requested : Option Nat) : List Nat → Option (Except Refusal (Nat × Role))
  | [] => none
  | tid :: rest =>
    match activeMembership db user tid with
    | some m => some (.ok (tid, user.roleAs m.role))
    | none =>
      if requested = some tid then
        if user.isPlatformAdmin && db.tenantHas tid .active then some (.ok (tid, .platformAdmin))
        else some (.error (.forbidden "You do not have access to this tenant".toList))
      else tryCandidates db user requested rest

/-- `resolve_tenant`. -/
def resolveTenant (db : Db) (user : User) (requested : Option Nat) : Except Refusal (Option Nat × Role) :=
  match tryCandidates db user requested (requested.toList ++ user.defaultTenantId.toList) with
  | some found => found.map fun x => (some x.1, x.2)
  | none =>
    match (membershipsIn db user .active).head? with
    | some first => .ok (some first.tenantId, user.roleAs first.role)
    | none =>
      if user.isPlatformAdmin then .ok (none, .platformAdmin)
      else if (membershipsIn db user .suspended).isEmpty then
        .error (.forbidden "Your account is not a member of any active tenant".toList)
      else
        .error (.forbidden
          "Your organization's access to Exteriq ASM is suspended. Contact your platform administrator.".toList)

/-! ## Sign-in -/

def User.locked (user : User) (now : Int) : Bool := user.lockedUntil.any fun t => decide (now < t)

def User.fail (user : User) (S : Settings) (now : Int) : User :=
  if S.accountLockoutThreshold ≤ user.failedLoginCount + 1 then
    { user with
      failedLoginCount := 0
      lockedUntil := some (now + minute * S.accountLockoutMinutes) }
  else { user with failedLoginCount := user.failedLoginCount + 1 }

/-- The token hash is another session's: the unique constraint of `refresh_token_hash`. -/
def Db.hashTaken (db : Db) (id : Nat) (hash : Str) : Bool :=
  db.sessions.any fun x => decide (x.id ≠ id ∧ x.refreshTokenHash = hash)

variable (E : Env)

/-- `_issue_session`. -/
def issueSession (db : Db) (now : Int) (d : Draw) (user : User) (tenantId : Option Nat) (role : Role)
    (mfaVerified : Bool) : Except Refusal (Db × SessionTokens) :=
  let session : UserSession :=
    { id := d.sessionId
      userId := user.id
      tenantId := tenantId
      refreshTokenHash := E.hashToken d.token
      expiresAt := now + day * E.refreshTokenTtlDays
      absoluteExpiresAt := now + day * E.sessionAbsoluteTtlDays
      lastUsedAt := some now
      mfaVerified := mfaVerified }
  if h : d.sessionId ∈ db.sessions.map UserSession.id then .error integrityError
  else if db.hashTaken d.sessionId (E.hashToken d.token) then .error integrityError
  else
    .ok ({ db with
      sessions := db.sessions ++ [session]
      sessionIds := by
        rw [List.map_append, List.map_singleton, ← List.concat_eq_append]
        exact db.sessionIds.concat h },
      ⟨d.token, session.expiresAt, session.id, user.id, tenantId, role⟩)

/-- `authenticate`. -/
def authenticate (db : Db) (now : Int) (d : Draw) (email password : Str) : Db × Except Refusal LoginOutcome :=
  match db.userByEmail? (normalizeEmail E.unicode email) with
  | none => (db.record { action := .loginFailed, reason := some .unknownOrInactive }, .error genericLoginError)
  | some user =>
    match user.passwordHash, user.isActive with
    | some hash, true =>
      if user.locked now then
        (db.record { action := .loginFailed, userId := some user.id, reason := some .locked }, .error genericLoginError)
      else if ¬E.verifyPassword password hash then
        let reason := if E.accountLockoutThreshold ≤ user.failedLoginCount + 1 then .badPasswordLocked else .badPassword
        ((db.setUser (user.fail E.toSettings now)).record
          { action := .loginFailed, userId := some user.id, reason := some reason }, .error genericLoginError)
      else
        let user := { user with
          failedLoginCount := 0
          lockedUntil := none
          passwordHash := some (if E.passwordNeedsRehash hash then E.hashPassword password else hash) }
        match resolveTenant db user none with
        | .error e => (db, .error e)
        | .ok (tenantId, role) =>
          if user.mfaEnabled then
            (db.setUser user, .ok (.mfaRequired (E.createMfaChallenge user.id tenantId now)))
          else
            match issueSession E (db.setUser { user with lastLoginAt := some now }) now d user tenantId role false with
            | .error e => (db, .error e)
            | .ok (db, tokens) =>
              (db.record { action := .login, userId := some user.id, sessionId := some tokens.sessionId },
                .ok (.tokens tokens))
    | _, _ => (db.record { action := .loginFailed, reason := some .unknownOrInactive }, .error genericLoginError)

/-- `_totp`, with the verification of a code. -/
def totp (user : User) (code : Str) (now : Int) : Except Refusal Bool :=
  match user.mfaSecretEncrypted with
  | none => .error (.validationFailed "MFA is not configured".toList)
  | some sealed =>
    match E.decryptMfa user.id sealed with
    | .error name => .error (.raised name)
    | .ok secret => .ok (E.totpVerify secret (strip code) now)

/-- `complete_mfa`. -/
def completeMfa (db : Db) (now : Int) (d : Draw) (mfaToken code : Str) : Db × Except Refusal LoginOutcome :=
  match E.decodeMfaChallenge mfaToken now with
  | none => (db, .error challengeInvalid)
  | some (uid, tid) =>
    match db.user? uid with
    | none => (db, .error challengeInvalid)
    | some user =>
      if ¬(user.isActive ∧ user.mfaEnabled) then (db, .error challengeInvalid)
      else
        match totp E user code now with
        | .error e => (db, .error e)
        | .ok false =>
          ((db.setUser (user.fail E.toSettings now)).record
            { action := .loginFailed, userId := some user.id, reason := some .badMfaCode }, .error invalidCode)
        | .ok true =>
          match resolveTenant db user tid with
          | .error e => (db, .error e)
          | .ok (tenantId, role) =>
            let user := { user with
              failedLoginCount := 0
              lastLoginAt := some now }
            match issueSession E (db.setUser user) now d user tenantId role true with
            | .error e => (db, .error e)
            | .ok (db, tokens) =>
              (db.record { action := .login, userId := some user.id, sessionId := some tokens.sessionId },
                .ok (.tokens tokens))

/-! ## Sessions -/

/-- `refresh`. -/
def refresh (db : Db) (now : Int) (d : Draw) (raw : Str) : Db × Except Refusal SessionTokens :=
  match db.sessions.find? fun x => decide (x.refreshTokenHash = E.hashToken raw) with
  | none =>
    match db.sessions.find? fun x => decide (x.previousTokenHash = some (E.hashToken raw)) with
    | none => (db, .error sessionExpired)
    | some reused =>
      if reused.revokedAt.isNone then
        -- a rotated token was presented again
        ((db.setSession { reused with
            revokedAt := some now
            revokedReason := some "refresh_token_reuse".toList }).record
          { action := .tokenReuse, userId := some reused.userId, sessionId := some reused.id }, .error sessionExpired)
      else (db, .error sessionExpired)
  | some session =>
    if session.revokedAt.isSome ∨ session.expiresAt ≤ now ∨ session.absoluteExpiresAt ≤ now then
      (db, .error sessionExpired)
    else if E.sessionIdleTtlMinutes ≠ 0 ∧ session.lastUsedAt.any fun t => decide (minute * E.sessionIdleTtlMinutes < now - t) then
      (db.setSession { session with
        revokedAt := some now
        revokedReason := some "idle".toList }, .error sessionExpired)
    else
      match db.user? session.userId with
      | none => (db, .error sessionExpired)
      | some user =>
        if ¬user.isActive then (db, .error sessionExpired)
        else
          match resolveTenant db user session.tenantId with
          | .error _ =>
            (db.setSession { session with
              revokedAt := some now
              revokedReason := some "membership_revoked".toList }, .error sessionExpired)
          | .ok (tenantId, role) =>
            if db.hashTaken session.id (E.hashToken d.token) then (db, .error integrityError) else
            let session := { session with
              previousTokenHash := some session.refreshTokenHash
              refreshTokenHash := E.hashToken d.token
              expiresAt := min (now + day * E.refreshTokenTtlDays) session.absoluteExpiresAt
              lastUsedAt := some now }
            (db.setSession session, .ok ⟨d.token, session.expiresAt, session.id, user.id, tenantId, role⟩)

/-- `logout`. -/
def logout (db : Db) (now : Int) (sessionId userId : Nat) : Db :=
  let db := match db.session? sessionId with
    | some x =>
      if x.revokedAt.isNone then
        db.setSession { x with
          revokedAt := some now
          revokedReason := some "logout".toList }
      else db
    | none => db
  db.record { action := .logout, userId := some userId, sessionId := some sessionId }

/-- `switch_tenant`. -/
def switchTenant (db : Db) (d : Draw) (userId sessionId tenantId : Nat) : Db × Except Refusal SessionTokens :=
  match db.user? userId, db.session? sessionId with
  | some user, some session =>
    if session.revokedAt.isSome then (db, .error sessionExpired)
    else
      match resolveTenant db user (some tenantId) with
      | .error e => (db, .error e)
      | .ok (tid, role) =>
        if db.hashTaken session.id (E.hashToken d.token) then (db, .error integrityError) else
        let session := { session with
          tenantId := tid
          previousTokenHash := some session.refreshTokenHash
          refreshTokenHash := E.hashToken d.token }
        ((db.setSession session).record { action := .tenantSwitch, userId := some user.id },
          .ok ⟨d.token, session.expiresAt, session.id, user.id, tid, role⟩)
  | _, _ => (db, .error sessionExpired)

end App.Auth
