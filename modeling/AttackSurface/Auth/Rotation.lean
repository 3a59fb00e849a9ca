import AttackSurface.Auth.Lockout

/-!
# Rotated refresh tokens

Runs in which sessions are opened, refreshed, moved to another tenant and closed.  A session
row remembers the hash of its token and of the one before.  So a token that was rotated out
never gets tokens, and presenting it revokes its session exactly when

    the session is revoked already, or the token is the direct predecessor   (revoked_iff)

A token from two rotations ago is not recognised, and its session lives on.
-/

namespace App.Auth

open PyText Machines List Option

/-! ## Runs -/

/-- The database, with every refresh token that was handed out and its session. -/
structure Rotation where
  db : Db
  issued : List (Nat × Str) := []

inductive SessionCall
  /-- a sign-in that gets as far as `_issue_session` -/
  | opened (now : Int) (draw : Draw) (user : User) (tenantId : Option Nat) (role : Role) (mfaVerified : Bool)
  | refreshed (now : Int) (draw : Draw) (raw : Str)
  | switched (draw : Draw) (userId sessionId tenantId : Nat)
  | loggedOut (now : Int) (sessionId userId : Nat)

def SessionCall.draw? : SessionCall → Option Draw
  | .opened _ d .. => some d
  | .refreshed _ d _ => some d
  | .switched d .. => some d
  | .loggedOut .. => none

def sessionCall (E : Env) (db : Db) : SessionCall → Db × Except Refusal SessionTokens
  | .opened now d user tenantId role mfaVerified =>
    match issueSession E db now d user tenantId role mfaVerified with
    | .ok (db', t) => (db', .ok t)
    | .error e => (db, .error e)
  | .refreshed now d raw => refresh E db now d raw
  | .switched d userId sessionId tenantId => switchTenant E db d userId sessionId tenantId
  | .loggedOut now sessionId userId => (logout db now sessionId userId, .error sessionExpired)

def Rotation.step (E : Env) (s : Rotation) (c : SessionCall) : Rotation where
  db := (sessionCall E s.db c).1
  issued := s.issued ++ ((sessionCall E s.db c).2.toOption.map fun t => (t.sessionId, t.refreshToken)).toList

/-- A step; `new_token` never draws a token twice. -/
def Rotation.Step (E : Env) (s : Rotation) (c : SessionCall) (s' : Rotation) : Prop :=
  (∀ d ∈ c.draw?, d.token ∉ s.issued.map Prod.snd) ∧ s.step E c = s'

def Rotation.RotatedOut (s : Rotation) (sid : Nat) (raw : Str) : Prop :=
  ∃ raw', [(sid, raw), (sid, raw')].Sublist s.issued

/-! ## What a call does to the sessions -/

inductive SessionEffect (E : Env) (db : Db) (d : Option Draw) : Db → Except Refusal SessionTokens → Prop
  | same {db' : Db} {e : Refusal} (sessions : db'.sessions = db.sessions) : SessionEffect E db d db' (.error e)
  | revoked {db' : Db} {e : Refusal} (x x' : UserSession) (mem : x ∈ db.sessions)
      (sessions : db'.sessions = (db.setSession x').sessions) (id : x'.id = x.id)
      (current : x'.refreshTokenHash = x.refreshTokenHash) (previous : x'.previousTokenHash = x.previousTokenHash) :
      SessionEffect E db d db' (.error e)
  | rotated {db' : Db} {t : SessionTokens} (draw : Draw) (x x' : UserSession) (mem : x ∈ db.sessions)
      (sessions : db'.sessions = (db.setSession x').sessions) (id : x'.id = x.id)
      (drawn : d = some draw) (current : x'.refreshTokenHash = E.hashToken draw.token)
      (previous : x'.previousTokenHash = some x.refreshTokenHash)
      (tokens : (t.sessionId, t.refreshToken) = (x.id, draw.token)) : SessionEffect E db d db' (.ok t)
  | opened {db' : Db} {t : SessionTokens} (draw : Draw) (x : UserSession) (new : x.id ∉ db.sessions.map UserSession.id)
      (drawn : d = some draw) (current : x.refreshTokenHash = E.hashToken draw.token)
      (previous : x.previousTokenHash = none) (tokens : (t.sessionId, t.refreshToken) = (x.id, draw.token))
      (sessions : db'.sessions = db.sessions ++ [x]) : SessionEffect E db d db' (.ok t)

section Effects

variable {E : Env} {db : Db}

lemma refresh_effect (now : Int) (d : Draw) (raw : Str) :
    SessionEffect E db (some d) (refresh E db now d raw).1 (refresh E db now d raw).2 := by
  have hsame : ∀ e, SessionEffect E db (some d) db (.error e) := fun e => .same rfl
  unfold refresh
  split
  · split
    · exact hsame _
    next reused hreused =>
    have hmem := mem_of_find?_eq_some hreused
    split
    · exact .revoked reused _ hmem rfl rfl rfl rfl
    · exact hsame _
  · next session hsession =>
    have hmem := mem_of_find?_eq_some hsession
    split
    · exact hsame _
    split
    · exact .revoked session _ hmem rfl rfl rfl rfl
    split
    · exact hsame _
    split
    · exact hsame _
    split
    · exact .revoked session _ hmem rfl rfl rfl rfl
    split
    · exact hsame _
    · exact .rotated d session _ hmem rfl rfl rfl rfl rfl rfl

lemma switchTenant_effect (d : Draw) (userId sessionId tenantId : Nat) :
    SessionEffect E db (some d) (switchTenant E db d userId sessionId tenantId).1
      (switchTenant E db d userId sessionId tenantId).2 := by
  have hsame : ∀ e, SessionEffect E db (some d) db (.error e) := fun e => .same rfl
  unfold switchTenant
  split
  · next user session _ hsession =>
    have hmem := mem_of_find?_eq_some hsession
    split
    · exact hsame _
    split
    · exact hsame _
    split
    · exact hsame _
    · exact .rotated d session _ hmem rfl rfl rfl rfl rfl rfl
  · exact hsame _

lemma logout_effect (now : Int) (sessionId userId : Nat) (d : Option Draw) (e : Refusal) :
    SessionEffect E db d (logout db now sessionId userId) (.error e) := by
  unfold logout
  dsimp only
  split
  · next x hx =>
    have hmem := mem_of_find?_eq_some hx
    split
    · exact .revoked x _ hmem rfl rfl rfl rfl
    · exact .same rfl
  · exact .same rfl

lemma issueSession_effect {now : Int} {d : Draw} {user : User} {tid : Option Nat} {role : Role} {mfa : Bool} {db' : Db}
    {t : SessionTokens} (h : issueSession E db now d user tid role mfa = .ok (db', t)) :
    SessionEffect E db (some d) db' (.ok t) := by
  simp only [issueSession] at h
  split at h
  · cases h
  next hnew =>
  split at h
  · cases h
  · cases h
    exact .opened d _ hnew rfl rfl rfl rfl rfl

lemma sessionCall_effect (E : Env) (db : Db) (c : SessionCall) :
    SessionEffect E db c.draw? (sessionCall E db c).1 (sessionCall E db c).2 := by
  cases c with
  | opened now d user tenantId role mfaVerified =>
    simp only [sessionCall]
    split
    · next hissued => exact issueSession_effect hissued
    · exact .same rfl
  | refreshed now d raw => exact refresh_effect now d raw
  | switched d userId sessionId tenantId => exact switchTenant_effect d userId sessionId tenantId
  | loggedOut now sessionId userId => exact logout_effect now sessionId userId _ _

end Effects

/-! ## The invariant -/

def tokensOf (issued : List (Nat × Str)) (sid : Nat) : List Str :=
  (issued.filter fun p => decide (p.1 = sid)).map Prod.snd

variable {sid : Nat}

lemma mem_tokensOf {issued : List (Nat × Str)} {raw : Str} :
    raw ∈ tokensOf issued sid ↔ (sid, raw) ∈ issued := by
  simp [tokensOf]

lemma tokensOf_concat (issued : List (Nat × Str)) (sid sid' : Nat) (raw : Str) :
    tokensOf (issued ++ [(sid', raw)]) sid = tokensOf issued sid ++ if sid' = sid then [raw] else [] := by
  rw [tokensOf, filter_append, map_append, ← tokensOf]
  by_cases h : sid' = sid <;> simp [h]

def UserSession.Remembers (E : Env) (issued : List (Nat × Str)) (x : UserSession) : Prop :=
  ∃ older current, tokensOf issued x.id = older ++ [current] ∧ x.refreshTokenHash = E.hashToken current ∧
    x.previousTokenHash = older.getLast?.map E.hashToken

structure Rotation.Sound (E : Env) (s : Rotation) : Prop where
  tokens : (s.issued.map Prod.snd).Nodup
  remembers : ∀ x ∈ s.db.sessions, x.Remembers E s.issued
  owned : ∀ p ∈ s.issued, ∃ x ∈ s.db.sessions, x.id = p.1

section Invariant

variable {E : Env} {s : Rotation}

variable {db : Db}

lemma mem_setSession {x y : UserSession} :
    y ∈ (db.setSession x).sessions ↔ (y = x ∧ ∃ z ∈ db.sessions, z.id = x.id) ∨ (y ∈ db.sessions ∧ y.id ≠ x.id) := by
  simp only [Db.setSession, List.mem_map]
  constructor
  · rintro ⟨z, hz, rfl⟩
    by_cases h : z.id = x.id
    · rw [if_pos h]
      exact .inl ⟨rfl, z, hz, h⟩
    · rw [if_neg h]
      exact .inr ⟨hz, h⟩
  · rintro (⟨rfl, z, hz, h⟩ | ⟨hy, h⟩)
    · exact ⟨z, hz, if_pos h⟩
    · exact ⟨y, hy, if_neg h⟩

lemma Rotation.Sound.nodup_tokensOf (h : s.Sound E) (sid : Nat) : (tokensOf s.issued sid).Nodup :=
  (filter_sublist.map Prod.snd).nodup h.tokens

variable {raw : Str} {x : UserSession}

section

variable (h : s.Sound E)

include h

lemma Rotation.Sound.session_unique {sid sid' : Nat} (hp : (sid, raw) ∈ s.issued)
    (hp' : (sid', raw) ∈ s.issued) : sid = sid' := by
  have heq := inj_on_of_nodup_map h.tokens hp hp' rfl
  exact (Prod.mk.inj heq).1

lemma Rotation.Sound.update {db' : Db} {x x' : UserSession} (hmem : x ∈ s.db.sessions)
    (hid : x'.id = x.id) (hcurrent : x'.refreshTokenHash = x.refreshTokenHash)
    (hprevious : x'.previousTokenHash = x.previousTokenHash) (hsessions : db'.sessions = (s.db.setSession x').sessions) :
    Rotation.Sound E ⟨db', s.issued⟩ where
  tokens := h.tokens
  remembers y hy := by
    rw [hsessions, mem_setSession] at hy
    rcases hy with ⟨rfl, _⟩ | ⟨hy, _⟩
    · have hx := h.remembers x hmem
      rw [UserSession.Remembers, ← hid, ← hcurrent, ← hprevious] at hx
      exact hx
    · exact h.remembers y hy
  owned p hp := by
    obtain ⟨y, hy, hp⟩ := h.owned p hp
    by_cases heq : y.id = x'.id
    · refine ⟨x', ?_, heq.symm.trans hp⟩
      rw [hsessions, mem_setSession]
      exact .inl ⟨rfl, y, hy, heq⟩
    refine ⟨y, ?_, hp⟩
    rw [hsessions, mem_setSession]
    exact .inr ⟨hy, heq⟩

lemma Rotation.Sound.rotate {db' : Db} {x x' : UserSession} {d : Draw} (hmem : x ∈ s.db.sessions)
    (hfresh : d.token ∉ s.issued.map Prod.snd) (hid : x'.id = x.id)
    (hcurrent : x'.refreshTokenHash = E.hashToken d.token) (hprevious : x'.previousTokenHash = some x.refreshTokenHash)
    (hsessions : db'.sessions = (s.db.setSession x').sessions) :
    Rotation.Sound E ⟨db', s.issued ++ [(x.id, d.token)]⟩ where
  tokens := by
    rw [map_append, map_singleton, ← concat_eq_append]
    exact h.tokens.concat hfresh
  remembers y hy := by
    rw [hsessions, mem_setSession] at hy
    rcases hy with ⟨rfl, _⟩ | ⟨hy, hne⟩
    · obtain ⟨older, current, htokens, hhash, _⟩ := h.remembers x hmem
      refine ⟨older ++ [current], d.token, ?_, hcurrent, ?_⟩
      · rw [tokensOf_concat, if_pos hid.symm, hid, htokens]
      · rw [hprevious, hhash, getLast?_concat, map_some]
    obtain ⟨older, current, htokens, hhash, hprev⟩ := h.remembers y hy
    refine ⟨older, current, ?_, hhash, hprev⟩
    rw [tokensOf_concat, if_neg, append_nil, htokens]
    rw [← hid]
    exact Ne.symm hne
  owned p hp := by
    have hx' : x' ∈ db'.sessions := by
      rw [hsessions, mem_setSession]
      exact .inl ⟨rfl, x, hmem, hid.symm⟩
    rcases mem_append.1 hp with hp | hp
    · obtain ⟨y, hy, hp⟩ := h.owned p hp
      by_cases heq : y.id = x'.id
      · exact ⟨x', hx', heq.symm.trans hp⟩
      refine ⟨y, ?_, hp⟩
      rw [hsessions, mem_setSession]
      exact .inr ⟨hy, heq⟩
    · rw [mem_singleton.1 hp]
      exact ⟨x', hx', hid⟩

lemma Rotation.Sound.open {db' : Db} {d : Draw}
    (hfresh : d.token ∉ s.issued.map Prod.snd) (hnew : x.id ∉ s.db.sessions.map UserSession.id)
    (hcurrent : x.refreshTokenHash = E.hashToken d.token) (hprevious : x.previousTokenHash = none)
    (hsessions : db'.sessions = s.db.sessions ++ [x]) :
    Rotation.Sound E ⟨db', s.issued ++ [(x.id, d.token)]⟩ where
  tokens := by
    rw [map_append, map_singleton, ← concat_eq_append]
    exact h.tokens.concat hfresh
  remembers y hy := by
    rw [hsessions] at hy
    rcases mem_append.1 hy with hy | hy
    · obtain ⟨older, current, htokens, hrest⟩ := h.remembers y hy
      refine ⟨older, current, ?_, hrest⟩
      rw [tokensOf_concat, if_neg, append_nil, htokens]
      exact fun heq => hnew (heq ▸ List.mem_map_of_mem hy)
    obtain rfl := mem_singleton.1 hy
    refine ⟨[], d.token, ?_, hcurrent, hprevious⟩
    have hnone : tokensOf s.issued y.id = [] := by
      refine eq_nil_iff_forall_not_mem.2 fun raw hraw => hnew ?_
      obtain ⟨z, hz, hid⟩ := h.owned _ (mem_tokensOf.1 hraw)
      exact List.mem_map.2 ⟨z, hz, hid⟩
    rw [tokensOf_concat, if_pos rfl, hnone]
  owned p hp := by
    rw [hsessions]
    rcases mem_append.1 hp with hp | hp
    · obtain ⟨y, hy, hp⟩ := h.owned p hp
      exact ⟨y, mem_append_left _ hy, hp⟩
    · rw [mem_singleton.1 hp]
      exact ⟨x, mem_append_right _ mem_cons_self, rfl⟩

lemma Rotation.Sound.step {s' : Rotation} {c : SessionCall} (hstep : s.Step E c s') : s'.Sound E := by
  obtain ⟨hfresh, rfl⟩ := hstep
  unfold Rotation.step
  have heffect := sessionCall_effect E s.db c
  generalize (sessionCall E s.db c).1 = db' at heffect ⊢
  generalize (sessionCall E s.db c).2 = result at heffect ⊢
  cases heffect with
  | same hsessions =>
    simp only [Except.toOption, map_none, toList_none, append_nil]
    exact ⟨h.tokens, by rw [hsessions]; exact h.remembers, by rw [hsessions]; exact h.owned⟩
  | revoked x x' hmem hsessions hid hcurrent hprevious =>
    simp only [Except.toOption, map_none, toList_none, append_nil]
    exact h.update hmem hid hcurrent hprevious hsessions
  | rotated draw x x' hmem hsessions hid hdrawn hcurrent hprevious htokens =>
    simp only [Except.toOption, map_some, toList_some, htokens]
    exact h.rotate hmem (hfresh draw hdrawn) hid hcurrent hprevious hsessions
  | opened draw x hnew hdrawn hcurrent hprevious htokens hsessions =>
    simp only [Except.toOption, map_some, toList_some, htokens]
    exact h.open (hfresh draw hdrawn) hnew hcurrent hprevious hsessions

end

lemma Rotation.Sound.run {history : List SessionCall} (hstart : db.sessions = [])
    (hrun : Steps (Rotation.Step E) ⟨db, []⟩ history s) : s.Sound E := by
  refine hrun.preserves (Rotation.Sound E) (fun t c u ht hstep => ht.step hstep) ⟨nodup_nil, ?_, ?_⟩
  · rw [hstart]
    exact fun x hx => absurd hx not_mem_nil
  · exact fun p hp => absurd hp not_mem_nil

/-! ## Presenting an old token -/

lemma Db.session?_eq_some {id : Nat} (h : db.session? id = some x) :
    x ∈ db.sessions ∧ x.id = id := ⟨mem_of_find?_eq_some h, by simpa using find?_some h⟩

lemma Db.session?_of_mem (h : x ∈ db.sessions) : db.session? x.id = some x := by
  cases hfind : db.session? x.id with
  | none =>
    have hnot := find?_eq_none.1 hfind x h
    simp at hnot
  | some y =>
    obtain ⟨hy, hid⟩ := Db.session?_eq_some hfind
    rw [inj_on_of_nodup_map db.sessionIds hy h hid]

lemma Db.session?_setSession {x x' : UserSession} (hx : x ∈ db.sessions) (hid : x'.id = x.id) :
    (db.setSession x').session? x.id = some x' := by
  rw [← hid]
  exact Db.session?_of_mem (mem_setSession.2 (.inl ⟨rfl, x, hx, hid.symm⟩))

lemma Rotation.Sound.rotatedOut (h : s.Sound E) (hrot : s.RotatedOut sid raw) :
    ∃ x ∈ s.db.sessions, x.id = sid ∧ ∃ older current, tokensOf s.issued sid = older ++ [current] ∧ raw ≠ current ∧
      x.refreshTokenHash = E.hashToken current ∧ x.previousTokenHash = older.getLast?.map E.hashToken := by
  obtain ⟨raw', hsub⟩ := hrot
  obtain ⟨x, hx, rfl⟩ := h.owned (sid, raw) (hsub.subset mem_cons_self)
  obtain ⟨older, current, htokens, hcurrent, hprevious⟩ := h.remembers x hx
  refine ⟨x, hx, rfl, older, current, htokens, ?_, hcurrent, hprevious⟩
  rintro rfl
  have hpair : [raw, raw'].Sublist (tokensOf s.issued x.id) := by
    have hfilter := (hsub.filter fun p => decide (p.1 = x.id)).map Prod.snd
    simpa [tokensOf] using hfilter
  rw [htokens] at hpair
  refine getLast?_ne_of_pair ?_ hpair getLast?_concat
  rw [← htokens]
  exact h.nodup_tokensOf x.id

lemma Rotation.Sound.owner (h : s.Sound E) (hinj : Function.Injective E.hashToken) {raw raw' : Str} {sid sid' : Nat}
    (hraw : (sid, raw) ∈ s.issued) (hmem : raw' ∈ tokensOf s.issued sid') (hhash : E.hashToken raw' = E.hashToken raw) :
    sid' = sid := by
  obtain rfl := hinj hhash
  exact h.session_unique (mem_tokensOf.1 hmem) hraw

lemma Rotation.Sound.not_current (h : s.Sound E) (hinj : Function.Injective E.hashToken)
    (hrot : s.RotatedOut sid raw) :
    (s.db.sessions.find? fun x => decide (x.refreshTokenHash = E.hashToken raw)) = none := by
  refine find?_eq_none.2 fun y hy hhash => ?_
  rw [decide_eq_true_eq] at hhash
  obtain ⟨older, current, htokens, hcurrent, _⟩ := h.remembers y hy
  obtain ⟨raw', hsub⟩ := id hrot
  have hmem : current ∈ tokensOf s.issued y.id := by
    rw [htokens]
    exact mem_append_right _ mem_cons_self
  have hid : y.id = sid := h.owner hinj (hsub.subset mem_cons_self) hmem (hcurrent.symm.trans hhash)
  obtain ⟨x, _, _, older', current', htokens', hne, _⟩ := h.rotatedOut hrot
  rw [← hid, htokens] at htokens'
  obtain ⟨_, heq⟩ := append_inj' htokens' rfl
  cases heq
  exact hne (hinj (hcurrent.symm.trans hhash)).symm

lemma Rotation.Sound.previous_iff (h : s.Sound E) (hinj : Function.Injective E.hashToken)
    (hx : x ∈ s.db.sessions) (hraw : (x.id, raw) ∈ s.issued) :
    (s.db.sessions.find? fun y => decide (y.previousTokenHash = some (E.hashToken raw))) =
      if x.previousTokenHash = some (E.hashToken raw) then some x else none := by
  have hunique : ∀ y ∈ s.db.sessions, y.previousTokenHash = some (E.hashToken raw) → y = x := by
    intro y hy hhash
    obtain ⟨older, current, htokens, _, hprevious⟩ := h.remembers y hy
    rw [hhash] at hprevious
    obtain ⟨raw', hlast, hraw'⟩ := map_eq_some_iff.1 hprevious.symm
    refine inj_on_of_nodup_map s.db.sessionIds hy hx (h.owner hinj hraw ?_ hraw')
    rw [htokens]
    exact mem_append_left _ (mem_of_getLast? hlast)
  cases hfind : s.db.sessions.find? fun y => decide (y.previousTokenHash = some (E.hashToken raw)) with
  | none =>
    have hnot := find?_eq_none.1 hfind x hx
    rw [decide_eq_true_eq] at hnot
    rw [if_neg hnot]
  | some y =>
    have hy := find?_some hfind
    rw [decide_eq_true_eq] at hy
    obtain rfl := hunique y (mem_of_find?_eq_some hfind) hy
    rw [if_pos hy]

end Invariant

/-- **Reuse is detected for the direct predecessor only**: presenting a refresh token that was
ever rotated out of a session returns no tokens and leaves the session revoked, if and only if
the session was revoked before or remembers this token as its previous one. -/
theorem revoked_iff {E : Env} (hinj : Function.Injective E.hashToken) {db : Db} {s : Rotation}
    {history : List SessionCall} (hstart : db.sessions = []) (hrun : Steps (Rotation.Step E) ⟨db, []⟩ history s)
    {sid : Nat} {raw : Str} (hrot : s.RotatedOut sid raw) (now : Int) (d : Draw) :
    ((∀ t, (refresh E s.db now d raw).2 ≠ .ok t) ∧
        ∃ x ∈ (refresh E s.db now d raw).1.session? sid, x.revokedAt.isSome) ↔
      ∃ x ∈ s.db.session? sid, x.revokedAt.isSome ∨ x.previousTokenHash = some (E.hashToken raw) := by
  have hsound := Rotation.Sound.run hstart hrun
  obtain ⟨x, hx, rfl, _⟩ := hsound.rotatedOut hrot
  have hraw : (x.id, raw) ∈ s.issued := by
    obtain ⟨raw', hsub⟩ := hrot
    exact hsub.subset mem_cons_self
  have hrow : s.db.session? x.id = some x := Db.session?_of_mem hx
  simp only [refresh, hsound.not_current hinj hrot, hsound.previous_iff hinj hx hraw, hrow, mem_some_iff,
    exists_eq_left']
  by_cases hprev : x.previousTokenHash = some (E.hashToken raw)
  · rw [if_pos hprev]
    refine ⟨fun _ => .inr hprev, fun _ => ?_⟩
    by_cases hrevoked : x.revokedAt.isNone
    · simp only [hrevoked, if_true]
      exact ⟨nofun, _, Db.session?_setSession hx rfl, rfl⟩
    simp only [hrevoked]
    refine ⟨nofun, x, hrow, ?_⟩
    rw [isSome_iff_ne_none]
    exact fun hnone => hrevoked (isNone_iff_eq_none.2 hnone)
  · rw [if_neg hprev]
    simp only [hrow, mem_some_iff, exists_eq_left', hprev, or_false]
    exact ⟨fun h => h.2, fun h => ⟨nofun, h⟩⟩

/-- **Only the newest token is good.**  If distinct tokens have distinct hashes, `refresh` returns tokens only for
the token that was last issued to a session which is neither revoked nor expired. -/
theorem refreshed_newest {E : Env} (hinj : Function.Injective E.hashToken) {db : Db} {s : Rotation}
    {history : List SessionCall} (hstart : db.sessions = []) (hrun : Steps (Rotation.Step E) ⟨db, []⟩ history s)
    {now : Int} {d : Draw} {raw : Str} {t : SessionTokens} (hok : (refresh E s.db now d raw).2 = .ok t) :
    ∃ x ∈ s.db.sessions, x.id = t.sessionId ∧ x.revokedAt = none ∧ now < x.expiresAt ∧ now < x.absoluteExpiresAt ∧
      (tokensOf s.issued x.id).getLast? = some raw := by
  unfold refresh at hok
  split at hok
  · -- no current token: refused, whether or not it is a previous one
    split at hok
    · cases hok
    · split at hok <;> cases hok
  next x hfind =>
  have hhash := find?_some hfind
  obtain ⟨older, current, htokens, hcurrent, -⟩ :=
    (Rotation.Sound.run hstart hrun).remembers x (mem_of_find?_eq_some hfind)
  obtain rfl : current = raw := hinj (hcurrent.symm.trans (of_decide_eq_true hhash))
  refine ⟨x, mem_of_find?_eq_some hfind, ?_⟩
  rw [htokens, getLast?_concat]
  repeat' split at hok
  all_goals cases hok
  simp_all

/-! ## One session -/

def openOne : SessionCall := .opened 0 ⟨1, ['a']⟩ twoFactorUser none .platformAdmin true

def present (raw new : Char) : SessionCall := .refreshed 0 ⟨0, [new]⟩ [raw]

def afterCalls (cs : List SessionCall) : Rotation := cs.foldl (Rotation.step (plainEnv 5)) ⟨oneUser, []⟩

/-- Opened, refreshed once: the token before is recognised. -/
theorem revoked_iff_predecessor : (afterCalls [openOne, present 'a' 'b']).RotatedOut 1 ['a'] ∧
    (∀ t, (refresh (plainEnv 5) (afterCalls [openOne, present 'a' 'b']).db 0 ⟨0, ['c']⟩ ['a']).2 ≠ .ok t) ∧
    ∃ x ∈ (refresh (plainEnv 5) (afterCalls [openOne, present 'a' 'b']).db 0 ⟨0, ['c']⟩ ['a']).1.session? 1,
      x.revokedAt.isSome := by
  have hrun : Steps (Rotation.Step (plainEnv 5)) ⟨oneUser, []⟩ [openOne, present 'a' 'b']
      (afterCalls [openOne, present 'a' 'b']) :=
    .cons ⟨by decide +kernel, rfl⟩ (.single ⟨by decide +kernel, rfl⟩)
  have hrot : (afterCalls [openOne, present 'a' 'b']).RotatedOut 1 ['a'] := ⟨['b'], by decide +kernel⟩
  exact ⟨hrot, (revoked_iff (fun _ _ h => h) rfl hrun hrot 0 ⟨0, ['c']⟩).2 (by decide +kernel)⟩

/-- Refreshed twice: the first token is not recognised, and the session stays. -/
theorem grandparent_not_detected : ∃ history s, Steps (Rotation.Step (plainEnv 5)) ⟨oneUser, []⟩ history s ∧
    s.RotatedOut 1 ['a'] ∧
    ∃ x ∈ (refresh (plainEnv 5) s.db 0 ⟨0, ['d']⟩ ['a']).1.session? 1, x.revokedAt = none := by
  have hrun : Steps (Rotation.Step (plainEnv 5)) ⟨oneUser, []⟩ [openOne, present 'a' 'b', present 'b' 'c']
      (afterCalls [openOne, present 'a' 'b', present 'b' 'c']) :=
    .cons ⟨by decide +kernel, rfl⟩ (.cons ⟨by decide +kernel, rfl⟩ (.single ⟨by decide +kernel, rfl⟩))
  exact ⟨_, _, hrun, ⟨['b'], by decide +kernel⟩, by decide +kernel⟩

theorem refreshed_newest_first : ∃ x ∈ (afterCalls [openOne]).db.sessions,
    (tokensOf (afterCalls [openOne]).issued x.id).getLast? = some ['a'] := by
  obtain ⟨x, hx, -, -, -, -, hlast⟩ := refreshed_newest (E := plainEnv 5) (fun _ _ h => h) rfl
    (.single ⟨by decide +kernel, rfl⟩ : Steps _ _ [openOne] (afterCalls [openOne]))
    (show (refresh (plainEnv 5) (afterCalls [openOne]).db 0 ⟨0, ['b']⟩ ['a']).2 = .ok _ from rfl)
  exact ⟨x, hx, hlast⟩

end App.Auth
