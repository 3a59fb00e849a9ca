import AttackSurface.Auth.Service
import AttackSurface.Run.Steps
import AttackSurface.Text.Digits

/-!
# The account lock

Runs of `authenticate` and `complete_mfa`.  Two laws that the lock is there for, and what the
source needs for them:

    no session is issued to a locked account   ⟺  no locked account passes `complete_mfa`
                                                                        (unlocked_iff)
    as many failures as the threshold, with no session in between, lock the account
                                               ⟸  no first factor resets the counter
                                                                        (locked_of_failures)

`complete_mfa` does not look at `locked_until`, and `authenticate` sets the counter to zero as
soon as the password is right, also when the second factor is still to come.
-/

namespace App.Auth

open PyText Machines List Option

/-! ## Rows after an update -/

variable {db : Db}

lemma Db.user?_eq_some {id : Nat} {u : User} (h : db.user? id = some u) : u ∈ db.users ∧ u.id = id :=
  ⟨mem_of_find?_eq_some h, by simpa using find?_some h⟩

lemma Db.user?_of_mem {u : User} (h : u ∈ db.users) : db.user? u.id = some u := by
  rw [Db.user?, find?_eq_some_iff_append]
  obtain ⟨before, after, heq⟩ := append_of_mem h
  refine ⟨by simp, before, after, heq, fun v hv => ?_⟩
  have hids := db.userIds
  rw [heq, map_append, map_cons, nodup_append] at hids
  have hne := hids.2.2 v.id (List.mem_map_of_mem hv) u.id mem_cons_self
  simpa using hne

lemma Db.user?_of_email {email : Str} {u : User} (h : db.userByEmail? email = some u) :
    db.user? u.id = some u := Db.user?_of_mem (mem_of_find?_eq_some h)

/-- `db'` has the row of `u`, and otherwise the rows of `db`. -/
def Db.Sets (db : Db) (u : User) (db' : Db) : Prop :=
  ∀ id, db'.user? id = if id = u.id then some u else db.user? id

lemma Db.sets_setUser {u v : User} (h : db.user? v.id = some v) (hid : u.id = v.id)
    (hemail : u.email = v.email) : db.Sets u (db.setUser u) := by
  intro id
  have hrow : ∀ w : User, (if w.id = u.id then { u with id := w.id, email := w.email } else w).id = w.id := by
    intro w
    split <;> rfl
  have hfind : (db.setUser u).user? id =
      (db.user? id).map fun w => if w.id = u.id then { u with id := w.id, email := w.email } else w := by
    simp [Db.user?, Db.setUser, find?_map, hrow]
  rw [hfind]
  by_cases heq : id = u.id
  · rw [if_pos heq, heq, hid, h, map_some, if_pos rfl, ← hid, ← hemail]
  rw [if_neg heq]
  cases hold : db.user? id with
  | none => rfl
  | some w =>
    rw [map_some, if_neg]
    rw [(Db.user?_eq_some hold).2]
    exact heq

variable {user : User}

lemma issueSession_users {E : Env} {db db' : Db} {now : Int} {d : Draw} {tid : Option Nat} {role : Role}
    {mfa : Bool} {t : SessionTokens} (h : issueSession E db now d user tid role mfa = .ok (db', t)) :
    db'.users = db.users ∧ db'.log = db.log ∧ t.userId = user.id := by
  simp only [issueSession] at h
  split at h
  · cases h
  split at h
  · cases h
  · cases h
    exact ⟨rfl, rfl, rfl⟩

lemma issueSession_eq_ok_iff {E : Env} {db : Db} {now : Int} {d : Draw} {tid : Option Nat} {role : Role}
    {mfa : Bool} : (∃ r, issueSession E db now d user tid role mfa = .ok r) ↔
      d.sessionId ∉ db.sessions.map UserSession.id ∧ db.hashTaken d.sessionId (E.hashToken d.token) = false := by
  simp only [issueSession]
  split
  · next h => exact ⟨nofun, fun hnot => absurd h hnot.1⟩
  next h =>
  split
  · next htaken =>
    refine ⟨nofun, fun hnot => ?_⟩
    rw [hnot.2] at htaken
    cases htaken
  · next htaken => exact ⟨fun _ => ⟨h, Bool.not_eq_true _ ▸ htaken⟩, fun _ => ⟨_, rfl⟩⟩

/-! ## What an attempt can do -/

inductive Call
  | authenticate (email password : Str)
  | completeMfa (mfaToken code : Str)

/-- A call with its clock and its draws. -/
structure Attempt where
  now : Int
  draw : Draw
  call : Call

def attempt (E : Env) (db : Db) (a : Attempt) : Db × Except Refusal LoginOutcome :=
  match a.call with
  | .authenticate email password => authenticate E db a.now a.draw email password
  | .completeMfa mfaToken code => completeMfa E db a.now a.draw mfaToken code

def Reason.verification : Reason → Bool
  | .badPassword | .badPasswordLocked | .badMfaCode => true
  | .unknownOrInactive | .locked => false

/-- The checks of `complete_mfa`, with the draws that can be stored. -/
structure PassesMfa (E : Env) (db : Db) (a : Attempt) (mfaToken code : Str) (user : User) : Prop where
  found : db.user? user.id = some user
  enabled : user.isActive ∧ user.mfaEnabled
  code : totp E user code a.now = .ok true
  tenant : ∃ tid x, E.decodeMfaChallenge mfaToken a.now = some (user.id, tid) ∧ resolveTenant db user tid = .ok x
  drawn : a.draw.sessionId ∉ db.sessions.map UserSession.id ∧
    db.hashTaken a.draw.sessionId (E.hashToken a.draw.token) = false

inductive Effect (E : Env) (db : Db) (a : Attempt) : Db → Except Refusal LoginOutcome → Prop
  /-- refused before a verification, or after one that was right -/
  | refused {db' : Db} {e : Refusal} (users : db'.users = db.users)
      (log : db'.log = db.log ∨ ∃ entry, db'.log = db.log ++ [entry] ∧ entry.reason.any Reason.verification = false) :
      Effect E db a db' (.error e)
  | failed {db' : Db} {e : Refusal} (user : User) (reason : Reason) (found : db.user? user.id = some user)
      (sets : db.Sets (user.fail E.toSettings a.now) db') (verification : reason.verification)
      (log : db'.log = db.log ++ [{ action := .loginFailed, userId := some user.id, reason := some reason }]) :
      Effect E db a db' (.error e)
  /-- the password was right, and a code is asked for -/
  | challenged {db' : Db} {token : Str} (user user' : User) (found : db.user? user.id = some user)
      (first : ∃ email password hash, a.call = .authenticate email password ∧
        db.userByEmail? (normalizeEmail E.unicode email) = some user ∧ user.passwordHash = some hash ∧
        E.verifyPassword password hash)
      (unlocked : user.locked a.now = false) (mfa : user.mfaEnabled) (id : user'.id = user.id)
      (reset : user'.failedLoginCount = 0) (sets : db.Sets user' db') (log : db'.log = db.log) :
      Effect E db a db' (.ok (.mfaRequired token))
  | issued {db' : Db} {t : SessionTokens} (user : User) (found : db.user? user.id = some user)
      (tokens : t.userId = user.id) (others : ∀ id, id ≠ user.id → db'.user? id = db.user? id)
      (log : db'.log = db.log ++ [{ action := .login, userId := some user.id, sessionId := some t.sessionId }])
      (allowed : user.locked a.now = false ∨ ∃ mfaToken code, a.call = .completeMfa mfaToken code ∧
        PassesMfa E db a mfaToken code user) :
      Effect E db a db' (.ok (.tokens t))

section Effects

variable {E : Env} {db : Db}

lemma Db.Sets.record {u : User} {db' : Db} {e : Entry} (h : db.Sets u db') : db.Sets u (db'.record e) := h

lemma User.fail_id (user : User) (S : Settings) (now : Int) : (user.fail S now).id = user.id := by
  unfold User.fail
  split <;> rfl

lemma User.fail_email (user : User) (S : Settings) (now : Int) : (user.fail S now).email = user.email := by
  unfold User.fail
  split <;> rfl

lemma Db.Sets.others {u : User} {db' : Db} (h : db.Sets u db') {id : Nat} (hne : id ≠ u.id) :
    db'.user? id = db.user? id := (h id).trans (if_neg hne)

lemma authenticate_effect (a : Attempt) (email password : Str) (hcall : a.call = .authenticate email password) :
    Effect E db a (authenticate E db a.now a.draw email password).1
      (authenticate E db a.now a.draw email password).2 := by
  have hrefused : ∀ entry : Entry, entry.reason.any Reason.verification = false → ∀ e,
      Effect E db a (db.record entry) (.error e) :=
    fun entry hentry e => .refused rfl (.inr ⟨entry, rfl, hentry⟩)
  unfold authenticate
  split
  · exact hrefused _ rfl _
  next user huser =>
    have hfound : db.user? user.id = some user := Db.user?_of_email huser
    split
    · next hash hhash _ =>
      split
      · exact hrefused _ rfl _
      next hlocked =>
        have hunlocked : user.locked a.now = false := Bool.not_eq_true _ ▸ hlocked
        split
        · next hwrong =>
          refine .failed user _ hfound (Db.sets_setUser hfound (user.fail_id _ _) (user.fail_email _ _)).record ?_ rfl
          split <;> rfl
        next hright =>
          dsimp only
          split
          · exact .refused rfl (.inl rfl)
          split
          · next hmfa =>
            exact .challenged user { user with
              failedLoginCount := 0
              lockedUntil := none
              passwordHash := _ } hfound ⟨email, password, hash, hcall, huser, hhash, not_not.1 hright⟩ hunlocked
              hmfa rfl rfl (Db.sets_setUser hfound rfl rfl) rfl
          split
          · exact .refused rfl (.inl rfl)
          next db' tokens hissued =>
          obtain ⟨husers, hlog, htokens⟩ := issueSession_users hissued
          refine .issued user hfound htokens (fun id hne => ?_) (congrArg (· ++ _) hlog) (.inl hunlocked)
          have hsets := Db.sets_setUser (u := { user with
            failedLoginCount := 0
            lockedUntil := none
            passwordHash := some (if E.passwordNeedsRehash hash then E.hashPassword password else hash)
            lastLoginAt := some a.now }) hfound rfl rfl
          rw [← hsets.others hne]
          exact congrArg (find? _) husers
    · exact hrefused _ rfl _

lemma completeMfa_effect (a : Attempt) (mfaToken code : Str) (hcall : a.call = .completeMfa mfaToken code) :
    Effect E db a (completeMfa E db a.now a.draw mfaToken code).1
      (completeMfa E db a.now a.draw mfaToken code).2 := by
  have hsame : ∀ e, Effect E db a db (.error e) := fun e => .refused rfl (.inl rfl)
  unfold completeMfa
  split
  · exact hsame _
  next uid tid hdecode =>
    split
    · exact hsame _
    next user huser =>
      obtain rfl : user.id = uid := (Db.user?_eq_some huser).2
      split
      · exact hsame _
      next henabled =>
        split
        · exact hsame _
        · exact .failed user .badMfaCode huser
            (Db.sets_setUser huser (user.fail_id _ _) (user.fail_email _ _)).record rfl rfl
        next htotp =>
          split
          · exact hsame _
          next hresolve =>
            dsimp only
            split
            · exact hsame _
            next hissued =>
              have hdrawn := issueSession_eq_ok_iff.1 ⟨_, hissued⟩
              obtain ⟨husers, hlog, htokens⟩ := issueSession_users hissued
              refine .issued user huser htokens (fun id hne => ?_) (congrArg (· ++ _) hlog)
                (.inr ⟨mfaToken, code, hcall, huser, not_not.1 henabled, htotp, ⟨tid, _, hdecode, hresolve⟩, hdrawn⟩)
              have hsets := Db.sets_setUser (u := { user with
                failedLoginCount := 0
                lastLoginAt := some a.now }) huser rfl rfl
              rw [← hsets.others hne]
              exact congrArg (find? _) husers

/-- **Everything that an attempt can do.** -/
theorem attempt_effect (E : Env) (db : Db) (a : Attempt) : Effect E db a (attempt E db a).1 (attempt E db a).2 := by
  unfold attempt
  split
  · next email password hcall => exact authenticate_effect a email password hcall
  · next mfaToken code hcall => exact completeMfa_effect a mfaToken code hcall

end Effects

/-! ## Runs -/

variable (E : Env)

def AttemptStep (db : Db) (l : Db × Attempt) (db' : Db) : Prop := l.1 = db ∧ (attempt E db l.2).1 = db'

variable (l : Db × Attempt) (u : Nat)

def Issues : Prop :=
  ∃ t, (attempt E l.1 l.2).2 = .ok (.tokens t) ∧ t.userId = u

instance (E : Env) (l : Db × Attempt) (u : Nat) : Decidable (Issues E l u) :=
  match h : (attempt E l.1 l.2).2 with
  | .ok (.tokens t) => decidable_of_iff (t.userId = u) (by simp [Issues, h])
  | .ok (.mfaRequired _) => isFalse (by simp [Issues, h])
  | .error _ => isFalse (by simp [Issues, h])

/-- `locked_until` is later than now. -/
def LockedAt : Prop := ∃ user, l.1.user? u = some user ∧ user.locked l.2.now

/-- If the attempt passes the checks of `complete_mfa`, the account is not locked. -/
def MfaUnlocked : Prop :=
  ∀ mfaToken code user, l.2.call = .completeMfa mfaToken code → PassesMfa E l.1 l.2 mfaToken code user →
    user.locked l.2.now = false

lemma PassesMfa.issues {E : Env} {l : Db × Attempt} {mfaToken code : Str}
    (hcall : l.2.call = .completeMfa mfaToken code) (h : PassesMfa E l.1 l.2 mfaToken code user) :
    Issues E l user.id := by
  obtain ⟨tid, ⟨tenantId, role⟩, hdecode, hresolve⟩ := h.tenant
  have hissued : ∃ r, issueSession E
      (l.1.setUser { user with failedLoginCount := 0, lastLoginAt := some l.2.now }) l.2.now l.2.draw
      { user with failedLoginCount := 0, lastLoginAt := some l.2.now } tenantId role true = .ok r :=
    issueSession_eq_ok_iff.2 h.drawn
  obtain ⟨⟨db', t⟩, hr⟩ := hissued
  refine ⟨t, ?_, (issueSession_users hr).2.2⟩
  simp only [attempt, hcall, completeMfa, hdecode, h.found]
  rw [if_neg (not_not.2 h.enabled)]
  simp [h.code, hresolve, hr]

/-! ## An account with a second factor -/

variable (threshold : Nat)

def plainEnv : Env where
  accountLockoutThreshold := threshold
  unicode := asciiUnicode
  verifyPassword password hash := decide (password = hash)
  passwordNeedsRehash _ := false
  hashPassword password := password
  hashToken token := token
  decryptMfa _ sealed := .ok sealed
  totpVerify secret code _ := decide (secret = code)
  createMfaChallenge u _ _ := dec u
  decodeMfaChallenge token _ := some (decVal token, none)

def twoFactorUser : User where
  id := 1
  email := "a@example.com".toList
  passwordHash := some "pw".toList
  isPlatformAdmin := true
  mfaEnabled := true
  mfaSecretEncrypted := some "123456".toList

def oneUser : Db where
  users := [twoFactorUser]

def signIn (password : String) : Attempt := ⟨0, ⟨1, ['t']⟩, .authenticate "a@example.com".toList password.toList⟩

def enterCode (now : Int) (code : String) : Attempt := ⟨now, ⟨1, ['t']⟩, .completeMfa "1".toList code.toList⟩

def attempts (as : List Attempt) : List (Db × Attempt) :=
  labels (fun db a => (attempt (plainEnv threshold) db a).1) oneUser as

lemma attempts_steps (as : List Attempt) :
    ∃ db', Steps (AttemptStep (plainEnv threshold)) oneUser (attempts threshold as) db' :=
  ⟨_, foldl_steps (fun db a => (attempt (plainEnv threshold) db a).1) oneUser as⟩

lemma MfaUnlocked.of_users {E : Env} {l : Db × Attempt} (h : ∀ user ∈ l.1.users, user.locked l.2.now = false) :
    MfaUnlocked E l := fun _ _ user _ hpass => h user (Db.user?_eq_some hpass.found).1

/-! ## Failures -/

def fails (l : Db × Attempt) : Bool :=
  ((attempt E l.1 l.2).1.log.drop l.1.log.length).any fun e =>
    decide (e.action = .loginFailed ∧ e.userId = some u) && e.reason.any Reason.verification

def Locks (l : Db × Attempt) : Prop :=
  ∃ user ∈ (attempt E l.1 l.2).1.user? u, user.lockedUntil = some (l.2.now + minute * E.accountLockoutMinutes)

instance (E : Env) (u : Nat) (l : Db × Attempt) : Decidable (Locks E u l) :=
  inferInstanceAs (Decidable (∃ user ∈ _, _))

/-- A right password of an account with a second factor finds the counter at zero. -/
def CounterKept : Prop :=
  match l.2.call with
  | .authenticate email password =>
    ∀ user ∈ l.1.userByEmail? (normalizeEmail E.unicode email), ∀ hash ∈ user.passwordHash,
      E.verifyPassword password hash → user.mfaEnabled → user.failedLoginCount = 0
  | .completeMfa _ _ => True

instance (E : Env) (l : Db × Attempt) : Decidable (CounterKept E l) := by
  unfold CounterKept
  split <;> infer_instance

def Db.failures (db : Db) (u : Nat) : Nat := (db.user? u).elim 0 User.failedLoginCount

section Failures

variable {E : Env} {u : Nat} {l : Db × Attempt}

lemma fails_of_log {entry : Entry} (h : (attempt E l.1 l.2).1.log = l.1.log ++ [entry]) :
    fails E u l = (decide (entry.action = .loginFailed ∧ entry.userId = some u) && entry.reason.any Reason.verification) := by
  simp [fails, h]

lemma fails_of_same (h : (attempt E l.1 l.2).1.log = l.1.log) : fails E u l = false := by
  simp [fails, h]

lemma Db.failures_of_same {db db' : Db} (h : db'.user? u = db.user? u) : db'.failures u = db.failures u := by
  rw [Db.failures, Db.failures, h]

lemma Db.failures_of_found {db : Db} {user : User} (h : db.user? user.id = some user) :
    db.failures user.id = user.failedLoginCount := by rw [Db.failures, h, elim_some]

/-- A failure either locks or counts; anything else leaves the counter, unless it issues a
session or resets it. -/
lemma failures_step (hissues : ¬Issues E l u) (hkept : CounterKept E l) : fails E u l = true ∧ Locks E u l ∨
    fails E u l = true ∧ (attempt E l.1 l.2).1.failures u = l.1.failures u + 1 ∧
      l.1.failures u + 1 < E.accountLockoutThreshold ∨
    fails E u l = false ∧ (attempt E l.1 l.2).1.failures u = l.1.failures u := by
  have heffect := attempt_effect E l.1 l.2
  generalize hresult : (attempt E l.1 l.2).2 = result at heffect
  cases heffect with
  | refused husers hlog =>
    have hsame := Db.failures_of_same (u := u) (congrArg (find? _) husers)
    refine .inr (.inr ⟨?_, hsame⟩)
    rcases hlog with hlog | ⟨entry, hlog, hentry⟩
    · exact fails_of_same hlog
    · rw [fails_of_log hlog, hentry, Bool.and_false]
  | failed user reason hfound hsets hreason hlog =>
    by_cases hu : user.id = u
    · subst hu
      have hfails : fails E user.id l = true := by
        rw [fails_of_log hlog]
        simpa using hreason
      have hrow : (attempt E l.1 l.2).1.user? user.id = some (user.fail E.toSettings l.2.now) := by
        rw [hsets, if_pos (user.fail_id _ _).symm]
      by_cases hlock : E.accountLockoutThreshold ≤ user.failedLoginCount + 1
      · refine .inl ⟨hfails, _, hrow, ?_⟩
        rw [User.fail, if_pos hlock]
      refine .inr (.inl ⟨hfails, ?_, ?_⟩)
      · rw [Db.failures, hrow, Db.failures_of_found hfound, elim_some, User.fail, if_neg hlock]
      · rw [Db.failures_of_found hfound]
        omega
    · refine .inr (.inr ⟨?_, Db.failures_of_same (hsets.others ?_)⟩)
      · rw [fails_of_log hlog]
        simp [hu]
      · rw [User.fail_id]
        exact Ne.symm hu
  | challenged user user' hfound hfirst _ hmfa hid hreset hsets hlog =>
    refine .inr (.inr ⟨fails_of_same hlog, ?_⟩)
    by_cases hu : user.id = u
    · subst hu
      obtain ⟨email, password, hash, hcall, hemail, hhash, hverify⟩ := hfirst
      rw [CounterKept, hcall] at hkept
      have hzero := hkept user hemail hash hhash hverify hmfa
      rw [Db.failures, hsets, if_pos hid.symm, Db.failures_of_found hfound, hzero, elim_some, hreset]
    · refine Db.failures_of_same (hsets.others ?_)
      rw [hid]
      exact Ne.symm hu
  | issued user _ htokens hothers hlog _ =>
    have hu : u ≠ user.id := fun hu => hissues ⟨_, hresult, htokens.trans hu.symm⟩
    refine .inr (.inr ⟨?_, Db.failures_of_same (hothers u hu)⟩)
    rw [fails_of_log hlog]
    simp

lemma failures_run {db db' : Db} {since : List (Db × Attempt)} (h : Steps (AttemptStep E) db since db')
    (hissues : ∀ l ∈ since, ¬Issues E l u) (hkept : ∀ l ∈ since, CounterKept E l) :
    (∃ l ∈ since, fails E u l = true ∧ Locks E u l) ∨ since.countP (fails E u) ≤ db'.failures u ∧
        (0 < since.countP (fails E u) → since.countP (fails E u) < E.accountLockoutThreshold) := by
  induction h with
  | nil => exact .inr ⟨Nat.zero_le _, fun h => absurd h (Nat.lt_irrefl 0)⟩
  | @snoc es t v l _ hstep ih =>
    obtain ⟨rfl, rfl⟩ := hstep
    simp only [forall_mem_append, forall_mem_singleton] at hissues hkept
    rcases ih hissues.1 hkept.1 with ⟨m, hm, hlock⟩ | ⟨hle, hlt⟩
    · exact .inl ⟨m, mem_append_left _ hm, hlock⟩
    rw [countP_append, countP_singleton]
    rcases failures_step hissues.2 hkept.2 with hlock | ⟨hfails, hcount, hless⟩ | ⟨hfails, hcount⟩
    · exact .inl ⟨l, mem_append_right _ mem_cons_self, hlock⟩
    · rw [if_pos hfails, hcount]
      exact .inr ⟨by omega, fun _ => by omega⟩
    · rw [hfails, hcount, if_neg Bool.false_ne_true, Nat.add_zero]
      exact .inr ⟨hle, hlt⟩

end Failures

/-- **Enough failures lock the account**: if since a point of a run no session was issued to a
user, no right password reset their counter, and as many wrong passwords or codes were recorded
as the threshold says, then one of these failures put the account into the locked state. -/
theorem locked_of_failures {E : Env} {u : Nat} {db db' : Db} {before since : List (Db × Attempt)}
    (hrun : Steps (AttemptStep E) db (before ++ since) db') (hpos : 0 < E.accountLockoutThreshold)
    (hissues : ∀ l ∈ since, ¬Issues E l u) (hkept : ∀ l ∈ since, CounterKept E l)
    (hcount : E.accountLockoutThreshold ≤ since.countP (fails E u)) :
    ∃ l ∈ since, fails E u l = true ∧ Locks E u l := by
  obtain ⟨mid, _, hsince⟩ := hrun.split
  rcases failures_run hsince hissues hkept with hlock | ⟨_, hlt⟩
  · exact hlock
  · have := hlt (by omega)
    omega

/-- Three wrong codes after one right password. -/
theorem locked_of_failures_three : ∃ history db', Steps (AttemptStep (plainEnv 3)) oneUser history db' ∧
    history.countP (fails (plainEnv 3) 1) = 3 ∧ ∃ l ∈ history, fails (plainEnv 3) 1 l = true ∧ Locks (plainEnv 3) 1 l := by
  obtain ⟨db', hrun⟩ := attempts_steps 3 [signIn "pw", enterCode 0 "1", enterCode 0 "2", enterCode 0 "3"]
  have hall : Steps (AttemptStep (plainEnv 3)) oneUser
      ([] ++ attempts 3 [signIn "pw", enterCode 0 "1", enterCode 0 "2", enterCode 0 "3"]) db' := hrun
  exact ⟨_, db', hrun, by decide +kernel, locked_of_failures hall (by decide) (by decide +kernel) (by decide +kernel)
    (by decide +kernel)⟩

/-- The right password between two wrong codes resets the counter: two failures do not lock
with a threshold of two, and so on for ever. -/
theorem first_factor_resets_counter : ∃ history db', Steps (AttemptStep (plainEnv 2)) oneUser history db' ∧
    (∀ l ∈ history, ¬Issues (plainEnv 2) l 1) ∧ history.countP (fails (plainEnv 2) 1) = 2 ∧
    ∀ l ∈ history, ¬Locks (plainEnv 2) 1 l := by
  obtain ⟨db', hrun⟩ := attempts_steps 2 [signIn "pw", enterCode 0 "1", signIn "pw", enterCode 0 "2"]
  exact ⟨_, db', hrun, by decide +kernel, by decide +kernel, by decide +kernel⟩

end App.Auth
