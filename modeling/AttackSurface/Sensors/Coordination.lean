import AttackSurface.Run.Steps

/-!
# Leases between sensor workers (`asm_sensors/coordination.py`)

A lease is an entry in a store that the holder has to renew.  Jobs wait for it, work in the
body while a second task renews it, and give it back; a job that fails to renew it sets its
`lost` event and leaves the entry alone.  Store operations are atomic and there is one clock,
so a step is a store operation with what its task does up to its next one; time passes
between steps.

    the last job that was granted the entry is the only one that can renew or remove it
    a job that held it before has not acquired or renewed it for its `ttl`   (lease_exclusive)

The two stores differ in when an entry is gone and in whether its holder can renew it then;
what follows needs only that an entry blocks others for as long as it runs.
-/

namespace AsmSensors.Coordination

open Machines List Option Function

variable {Job Token : Type}

/-! ## The store -/

/-- Times are in milliseconds. -/
structure Entry (Token : Type) where
  token : Token
  expiry : Nat

/-- What an entry that runs until `expiry` is good for at `now`. -/
structure Store where
  blocks : Nat → Nat → Bool
  renewable : Nat → Nat → Bool
  blocks_running : ∀ {now expiry}, now < expiry → blocks now expiry = true

/-- `LocalCoordinator`: an entry that has run out stays until it is overwritten. -/
def localStore : Store where
  blocks now expiry := decide (now < expiry)
  renewable _ _ := true
  blocks_running := decide_eq_true

/-- `RedisCoordinator`: a key is gone when its time is over. -/
def redisStore : Store where
  blocks now expiry := decide (now ≤ expiry)
  renewable now expiry := decide (now ≤ expiry)
  blocks_running h := decide_eq_true (Nat.le_of_lt h)

/-- `_try_acquire`. -/
def Store.tryAcquire (s : Store) (now ttl : Nat) (token : Token) (held : Option (Entry Token)) :
    Bool × Option (Entry Token) :=
  if held.any fun e => s.blocks now e.expiry then (false, held) else (true, some ⟨token, now + ttl⟩)

lemma tryAcquire_granted {s : Store} {now ttl : Nat} {token : Token} {held : Option (Entry Token)}
    (h : (s.tryAcquire now ttl token held).1 = true) :
    (∀ x, held = some x → x.expiry ≤ now) ∧
      (s.tryAcquire now ttl token held).2 = some ⟨token, now + ttl⟩ := by
  unfold Store.tryAcquire at h ⊢
  split at h
  · cases h
  next hfree =>
  rw [if_neg hfree]
  refine ⟨fun x hx => ?_, rfl⟩
  by_contra hlt
  rw [hx, any_some] at hfree
  exact hfree (s.blocks_running (not_le.1 hlt))

section Tokens

variable [DecidableEq Token]

/-- `_renew`. -/
def Store.renew (s : Store) (now ttl : Nat) (token : Token) (held : Option (Entry Token)) :
    Bool × Option (Entry Token) :=
  if held.any fun e => decide (e.token = token) && s.renewable now e.expiry then
    (true, some ⟨token, now + ttl⟩)
  else (false, held)

/-- `_release`. -/
def release (token : Token) (held : Option (Entry Token)) : Option (Entry Token) :=
  if held.any fun e => decide (e.token = token) then none else held

lemma release_own (token : Token) (held : Option (Entry Token)) :
    release token held = held ∨ ∃ x, held = some x ∧ x.token = token ∧ release token held = none := by
  unfold release
  split
  · next hown =>
    obtain ⟨x, hx, hp⟩ := (Option.any_eq_true _ _).1 hown
    exact .inr ⟨x, hx, of_decide_eq_true hp, rfl⟩
  · exact .inl rfl

lemma renew_own (s : Store) (now ttl : Nat) (token : Token) (held : Option (Entry Token)) :
    s.renew now ttl token held = (false, held) ∨ ∃ x, held = some x ∧ x.token = token ∧
        s.renew now ttl token held = (true, some ⟨token, now + ttl⟩) := by
  unfold Store.renew
  split
  · next hown =>
    obtain ⟨x, hx, hp⟩ := (Option.any_eq_true _ _).1 hown
    rw [Bool.and_eq_true, decide_eq_true_eq] at hp
    exact .inr ⟨x, hx, hp.1, rfl⟩
  · exact .inl rfl

end Tokens

/-! ## Jobs -/

/-- The jobs that contend for one name.  Tokens are drawn at random. -/
structure Jobs (Job Token : Type) where
  token : Job → Token
  token_injective : Function.Injective token
  ttl : Job → Nat
  /-- a ZAP adapter, which resets the daemon's session as it enters and when its work is over -/
  resets : Job → Bool

inductive Phase
  | waiting
  /-- in the body of `lease` -/
  | inside
  /-- in the body still, in the cleanup of `_exclusive_daemon` -/
  | cleaning
  /-- in the `finally` of `lease`, the renewing task is cancelled -/
  | leaving
  | done
deriving DecidableEq, Repr

structure World (Job Token : Type) where
  now : Nat := 0
  entry : Option (Entry Token) := none
  phase : Job → Phase := fun _ => .waiting
  lost : Job → Bool := fun _ => false

/-- What happens.  An operation that raises may have been `applied` before. -/
inductive Event (Job : Type)
  | tick (d : Nat)
  /-- the job gets the lease and is in the body -/
  | acquired (j : Job)
  | refused (j : Job)
  | acquireFailed (j : Job) (applied : Bool)
  | gaveUp (j : Job)
  | renewed (j : Job)
  /-- a renewal that did not succeed; the `lost` event is set -/
  | lost (j : Job) (applied : Bool)
  /-- `new_session` in the cleanup -/
  | reset (j : Job)
  /-- the body is over -/
  | ended (j : Job)
  | released (j : Job) (applied : Bool)
  /-- the lease was lost and is not given back -/
  | abandoned (j : Job)
  | crashed (j : Job)
deriving DecidableEq

section Stepping

variable [DecidableEq Job] [DecidableEq Token]

namespace World

variable (jobs : Jobs Job Token) (store : Store) (w : World Job Token)

def enter (j : Job) (p : Phase) : World Job Token := { w with phase := Function.update w.phase j p }

/-- The task that renews the lease runs while the body does, until the lease is lost. -/
def renewing (j : Job) : Bool := (decide (w.phase j = .inside) || decide (w.phase j = .cleaning)) && !w.lost j

def tryAcquire (j : Job) : Bool × Option (Entry Token) :=
  store.tryAcquire w.now (jobs.ttl j) (jobs.token j) w.entry

def renew (j : Job) : Bool × Option (Entry Token) := store.renew w.now (jobs.ttl j) (jobs.token j) w.entry

/-- One step of a job, or of the clock; `none` if the event cannot happen. -/
def step : Event Job → Option (World Job Token)
  | .tick d => some { w with now := w.now + d }
  | .acquired j =>
    if w.phase j = .waiting ∧ (w.tryAcquire jobs store j).1 = true then
      some { w.enter j .inside with entry := (w.tryAcquire jobs store j).2 }
    else none
  | .refused j =>
    if w.phase j = .waiting ∧ (w.tryAcquire jobs store j).1 = false then some w else none
  | .acquireFailed j applied =>
    if w.phase j = .waiting ∧ (applied = true → (w.tryAcquire jobs store j).1 = true) then
      some { w.enter j .done with
        entry := if applied then (w.tryAcquire jobs store j).2 else w.entry }
    else none
  | .gaveUp j => if w.phase j = .waiting then some (w.enter j .done) else none
  | .renewed j =>
    if w.renewing j = true ∧ (w.renew jobs store j).1 = true then
      some { w with entry := (w.renew jobs store j).2 }
    else none
  | .lost j applied =>
    if w.renewing j = true then
      some { w with
        entry := if applied then (w.renew jobs store j).2 else w.entry
        lost := Function.update w.lost j true }
    else none
  | .reset j =>
    if w.phase j = .inside ∧ jobs.resets j = true ∧ w.lost j = false then some (w.enter j .cleaning)
    else none
  | .ended j =>
    if w.phase j = .inside ∨ w.phase j = .cleaning then some (w.enter j .leaving) else none
  | .released j applied =>
    if w.phase j = .leaving ∧ w.lost j = false then
      some { w.enter j .done with entry := if applied then release (jobs.token j) w.entry else w.entry }
    else none
  | .abandoned j =>
    if w.phase j = .leaving ∧ w.lost j = true then some (w.enter j .done) else none
  | .crashed j => some (w.enter j .done)

def Step (w : World Job Token) (e : Nat × Event Job) (w' : World Job Token) : Prop :=
  e.1 = w.now ∧ w.step jobs store e.2 = some w'

end World

end Stepping

/-- The job is in the lease body and its `lost` event is not set. -/
def World.Inside (w : World Job Token) (j : Job) : Prop :=
  (w.phase j = .inside ∨ w.phase j = .cleaning) ∧ w.lost j = false

/-! ## Grants and holds -/

def Event.granted : Event Job → Option Job
  | .acquired j | .acquireFailed j true => some j
  | _ => none

def Event.holds (j : Job) : Event Job → Prop
  | .acquired i | .renewed i => i = j
  | _ => False

def Event.moves : Event Job → Option (Job × Phase)
  | .acquired j => some (j, .inside)
  | .acquireFailed j _ | .gaveUp j | .released j _ | .abandoned j | .crashed j => some (j, .done)
  | .reset j => some (j, .cleaning)
  | .ended j => some (j, .leaving)
  | _ => none

def Event.finishes (j : Job) : Event Job → Prop
  | .reset i | .released i _ => i = j
  | _ => False

def grants (es : List (Nat × Event Job)) : List Job := es.filterMap fun e => e.2.granted

section Grants

variable {jobs : Jobs Job Token} {w w' : World Job Token} {e : Event Job} {j : Job}

lemma grants_concat (es : List (Nat × Event Job)) (t : Nat) (e : Event Job) :
    grants (es ++ [(t, e)]) = grants es ++ e.granted.toList := by
  cases h : e.granted <;> simp [grants, h]

lemma granted_moves (h : e.granted = some j) : ∃ p, e.moves = some (j, p) ∧ p ≠ .waiting := by
  cases e with
  | acquired i =>
    cases h
    exact ⟨.inside, rfl, by decide⟩
  | acquireFailed i applied =>
    cases applied with
    | false => cases h
    | true =>
      cases h
      exact ⟨.done, rfl, by decide⟩
  | _ => cases h

/-- What a step does to the entry. -/
inductive Writes (jobs : Jobs Job Token) (w w' : World Job Token) (e : Event Job) : Prop
  | kept (same : w'.entry = w.entry) (quiet : e.granted = none) (idle : ∀ i, ¬e.holds i)
  | granted (j : Job) (grantee : e.granted = some j) (only : ∀ i, e.holds i → i = j)
      (waited : w.phase j = .waiting) (expired : ∀ x, w.entry = some x → x.expiry ≤ w.now)
      (entry : w'.entry = some ⟨jobs.token j, w.now + jobs.ttl j⟩)
  | extended (j : Job) (event : e = .renewed j ∨ e = .lost j true) (x : Entry Token)
      (held : w.entry = some x) (own : x.token = jobs.token j)
      (entry : w'.entry = some ⟨jobs.token j, w.now + jobs.ttl j⟩)
  | removed (j : Job) (event : e = .released j true) (x : Entry Token) (held : w.entry = some x)
      (own : x.token = jobs.token j) (entry : w'.entry = none)

lemma step_grants (hw : Writes jobs w w' e) :
    e.granted = none ∨ ∃ j, e.granted = some j ∧ w.phase j = .waiting := by
  cases hw with
  | kept _ quiet _ => exact .inl quiet
  | granted j grantee _ waited _ _ => exact .inr ⟨j, grantee, waited⟩
  | extended j event => rcases event with rfl | rfl <;> exact .inl rfl
  | removed j event =>
    subst event
    exact .inl rfl

/-- What holds along every run. -/
structure Invariant (jobs : Jobs Job Token) (es : List (Nat × Event Job)) (w : World Job Token) : Prop where
  past : ∀ t e, (t, e) ∈ es → t ≤ w.now
  once : (grants es).Nodup
  started : ∀ j ∈ grants es, w.phase j ≠ .waiting
  entered : ∀ j, w.phase j = .inside ∨ w.phase j = .cleaning → .acquired j ∈ es.map Prod.snd
  /-- the entry is that of the last job it was handed to -/
  owner : ∀ x, w.entry = some x → ∃ k, x.token = jobs.token k ∧ (grants es).getLast? = some k
  /-- a job's hold on the entry runs until its time is over, or the job is done -/
  held : ∀ t e j, (t, e) ∈ es → e.holds j → t + jobs.ttl j ≤ w.now ∨ w.phase j = .done ∨
    ∃ x, w.entry = some x ∧ x.token = jobs.token j ∧ t + jobs.ttl j ≤ x.expiry

lemma Invariant.start (jobs : Jobs Job Token) : Invariant jobs [] ({} : World Job Token) :=
  ⟨by simp, by simp [grants], by simp [grants], by simp, by simp, by simp⟩

end Grants

/-! ## What a step does -/

variable [DecidableEq Job] [DecidableEq Token]

section Steps

variable {jobs : Jobs Job Token} {store : Store} {w w' : World Job Token} {e : Event Job} {i j : Job}

section

variable (h : w.step jobs store e = some w')

include h

lemma step_writes : Writes jobs w w' e := by
  cases e with
  | tick d | crashed j =>
    cases h
    exact .kept rfl rfl fun _ => id
  | acquired j =>
    obtain ⟨⟨hwait, hgrant⟩, ⟨⟩⟩ := ite_none_right_eq_some.1 h
    obtain ⟨hover, hentry⟩ := tryAcquire_granted hgrant
    exact .granted j rfl (fun _ hi => hi.symm) hwait hover hentry
  | refused j | gaveUp j | reset j | ended j | abandoned j =>
    obtain ⟨_, ⟨⟩⟩ := ite_none_right_eq_some.1 h
    exact .kept rfl rfl fun _ => id
  | acquireFailed j applied =>
    obtain ⟨⟨hwait, hgrant⟩, ⟨⟩⟩ := ite_none_right_eq_some.1 h
    cases applied with
    | false => exact .kept rfl rfl fun _ => id
    | true =>
      obtain ⟨hover, hentry⟩ := tryAcquire_granted (hgrant rfl)
      exact .granted j rfl (fun _ hi => hi.elim) hwait hover hentry
  | renewed j =>
    obtain ⟨⟨_, hheld⟩, ⟨⟩⟩ := ite_none_right_eq_some.1 h
    rcases renew_own store w.now (jobs.ttl j) (jobs.token j) w.entry with hno | ⟨x, hx, hown, hentry⟩
    · rw [World.renew, hno] at hheld
      cases hheld
    · exact .extended j (.inl rfl) x hx hown (congrArg Prod.snd hentry)
  | lost j applied =>
    obtain ⟨_, ⟨⟩⟩ := ite_none_right_eq_some.1 h
    cases applied with
    | false => exact .kept rfl rfl fun _ => id
    | true =>
      rcases renew_own store w.now (jobs.ttl j) (jobs.token j) w.entry with hno | ⟨x, hx, hown, hentry⟩
      · exact .kept (congrArg Prod.snd hno) rfl fun _ => id
      · exact .extended j (.inr rfl) x hx hown (congrArg Prod.snd hentry)
  | released j applied =>
    obtain ⟨_, ⟨⟩⟩ := ite_none_right_eq_some.1 h
    cases applied with
    | false => exact .kept rfl rfl fun _ => id
    | true =>
      rcases release_own (jobs.token j) w.entry with hsame | ⟨x, hx, hown, hnone⟩
      · exact .kept hsame rfl fun _ => id
      · exact .removed j rfl x hx hown hnone

lemma step_phase : (e.moves = none ∧ w'.phase = w.phase) ∨
      ∃ j p, e.moves = some (j, p) ∧ w'.phase = Function.update w.phase j p ∧ p ≠ .waiting ∧
        (w.phase j = .done → p = .done) := by
  cases e with
  | tick d =>
    cases h
    exact .inl ⟨rfl, rfl⟩
  | crashed j =>
    cases h
    exact .inr ⟨j, .done, rfl, rfl, by decide, fun _ => rfl⟩
  | refused j | renewed j | lost j applied =>
    obtain ⟨_, ⟨⟩⟩ := ite_none_right_eq_some.1 h
    exact .inl ⟨rfl, rfl⟩
  | acquired j =>
    obtain ⟨⟨hwait, _⟩, ⟨⟩⟩ := ite_none_right_eq_some.1 h
    exact .inr ⟨j, .inside, rfl, rfl, by decide, by simp [hwait]⟩
  | reset j =>
    obtain ⟨⟨hinside, _⟩, ⟨⟩⟩ := ite_none_right_eq_some.1 h
    exact .inr ⟨j, .cleaning, rfl, rfl, by decide, by simp [hinside]⟩
  | ended j =>
    obtain ⟨hbody, ⟨⟩⟩ := ite_none_right_eq_some.1 h
    refine .inr ⟨j, .leaving, rfl, rfl, by decide, fun hdone => ?_⟩
    simp [hdone] at hbody
  | acquireFailed j applied | gaveUp j | released j applied | abandoned j =>
    obtain ⟨_, ⟨⟩⟩ := ite_none_right_eq_some.1 h
    exact .inr ⟨j, .done, rfl, rfl, by decide, fun _ => rfl⟩

lemma step_started (hi : w.phase i ≠ .waiting) : w'.phase i ≠ .waiting := by
  rcases step_phase h with ⟨_, hsame⟩ | ⟨j, p, _, hphase, hp, _⟩
  · rwa [hsame]
  rw [hphase]
  by_cases hij : i = j
  · subst hij
    rwa [update_self]
  · rwa [update_of_ne hij]

lemma step_done (hi : w.phase i = .done) : w'.phase i = .done := by
  rcases step_phase h with ⟨_, hsame⟩ | ⟨j, p, _, hphase, _, hp⟩
  · rwa [hsame]
  rw [hphase]
  by_cases hij : i = j
  · subst hij
    rw [update_self, hp hi]
  · rwa [update_of_ne hij]

lemma step_moved {p : Phase} (hm : e.moves = some (i, p)) : w'.phase i = p := by
  rcases step_phase h with ⟨hnone, _⟩ | ⟨j, q, hm', hphase, _⟩
  · rw [hm] at hnone
    cases hnone
  rw [hm] at hm'
  cases hm'
  rw [hphase, update_self]

end

lemma step_reset (h : w.step jobs store (.reset i) = some w') : w.phase i = .inside := by
  simp only [World.step, ite_none_right_eq_some] at h
  exact h.1.1

section

variable (h : w.step jobs store e = some w')

include h

lemma step_now : w.now ≤ w'.now := by
  cases e with
  | tick d =>
    cases h
    exact Nat.le_add_right _ _
  | crashed j =>
    cases h
    exact le_rfl
  | _ =>
    obtain ⟨_, ⟨⟩⟩ := ite_none_right_eq_some.1 h
    exact le_rfl

lemma step_lost (hi : w.lost i = true ∨ ∃ b, e = .lost i b) :
    w'.lost i = true := by
  cases e with
  | lost j applied =>
    obtain ⟨_, ⟨⟩⟩ := ite_none_right_eq_some.1 h
    show update w.lost j true i = true
    by_cases hij : i = j
    · rw [hij, update_self]
    rw [update_of_ne hij]
    rcases hi with hi | ⟨b, hi⟩
    · exact hi
    · cases hi
      exact absurd rfl hij
  | tick d | crashed j =>
    cases h
    exact hi.resolve_right (by simp)
  | _ =>
    obtain ⟨_, ⟨⟩⟩ := ite_none_right_eq_some.1 h
    exact hi.resolve_right (by simp)

lemma step_finishes (he : e.finishes j) : w.lost j = false := by
  cases e with
  | reset i =>
    obtain rfl : i = j := he
    simp only [World.step, ite_none_right_eq_some, some_inj] at h
    exact h.1.2.2
  | released i applied =>
    obtain rfl : i = j := he
    simp only [World.step, ite_none_right_eq_some, some_inj] at h
    exact h.1.2
  | _ => exact he.elim

end

end Steps

/-! ## Runs -/

section Runs

variable {jobs : Jobs Job Token} {store : Store} {w w' : World Job Token}
  {es : List (Nat × Event Job)} {e : Event Job} {i j : Job}

section Preserved

variable (hinv : Invariant jobs es w) (h : w.step jobs store e = some w')
include hinv h

lemma Invariant.once_step : (grants (es ++ [(w.now, e)])).Nodup := by
  rw [grants_concat]
  rcases step_grants (step_writes h) with hnone | ⟨j, hj, hwait⟩
  · rw [hnone, toList_none, append_nil]
    exact hinv.once
  · rw [hj, toList_some, ← concat_eq_append]
    exact hinv.once.concat fun hmem => hinv.started j hmem hwait

lemma Invariant.started_step : ∀ j ∈ grants (es ++ [(w.now, e)]), w'.phase j ≠ .waiting := by
  intro j hj
  rw [grants_concat, mem_append, mem_toList] at hj
  rcases hj with hj | hj
  · exact step_started h (hinv.started j hj)
  · obtain ⟨p, hm, hp⟩ := granted_moves hj
    rwa [step_moved h hm]

lemma Invariant.entered_step (j : Job) (hj : w'.phase j = .inside ∨ w'.phase j = .cleaning) :
    .acquired j ∈ (es ++ [(w.now, e)]).map Prod.snd := by
  rw [map_append, mem_append, map_singleton, mem_singleton]
  by_cases hnew : e = .acquired j
  · exact .inr hnew.symm
  refine .inl (hinv.entered j ?_)
  rcases step_phase h with ⟨_, hsame⟩ | ⟨k, p, hm, hphase, _⟩
  · rwa [hsame] at hj
  by_cases hk : j = k
  · subst hk
    rw [hphase, update_self] at hj
    cases e <;> cases hm <;> simp at hj hnew
    exact .inl (step_reset h)
  · rwa [hphase, update_of_ne hk] at hj

lemma Invariant.owner_step (x : Entry Token) (hx : w'.entry = some x) :
    ∃ k, x.token = jobs.token k ∧ (grants (es ++ [(w.now, e)])).getLast? = some k := by
  rw [grants_concat]
  cases step_writes h with
  | kept same quiet _ =>
    rw [quiet, toList_none, append_nil]
    exact hinv.owner x (same ▸ hx)
  | granted j grantee _ _ _ entry =>
    rw [entry, some_inj] at hx
    exact ⟨j, hx ▸ rfl, by simp [grantee]⟩
  | extended j event y held own entry =>
    rw [entry, some_inj] at hx
    obtain ⟨k, hk, hlast⟩ := hinv.owner y held
    obtain rfl : j = k := jobs.token_injective (own.symm.trans hk)
    have hquiet : e.granted = none := by rcases event with rfl | rfl <;> rfl
    exact ⟨j, hx ▸ rfl, by simpa [hquiet] using hlast⟩
  | removed j event y held own entry =>
    rw [entry] at hx
    cases hx

lemma Invariant.held_step (t : Nat) (e' : Event Job) (j : Job) (hmem : (t, e') ∈ es ++ [(w.now, e)])
    (hholds : e'.holds j) : t + jobs.ttl j ≤ w'.now ∨ w'.phase j = .done ∨
      ∃ x, w'.entry = some x ∧ x.token = jobs.token j ∧ t + jobs.ttl j ≤ x.expiry := by
  have hnow := step_now h
  rcases mem_append.1 hmem with hold | hnew
  · rcases hinv.held t e' j hold hholds with hover | hdone | ⟨x, hx, hown, hrun⟩
    · exact .inl (hover.trans hnow)
    · exact .inr (.inl (step_done h hdone))
    -- the entry was the job's own before the step
    cases step_writes h with
    | kept same _ _ => exact .inr (.inr ⟨x, same.trans hx, hown, hrun⟩)
    | granted k _ _ _ expired _ =>
      have := expired x hx
      exact .inl (by omega)
    | extended k _ y held own entry =>
      rw [hx, some_inj] at held
      subst held
      obtain rfl : j = k := jobs.token_injective (hown.symm.trans own)
      have := hinv.past t e' hold
      exact .inr (.inr ⟨_, entry, rfl, by simp only; omega⟩)
    | removed k event y held own _ =>
      rw [hx, some_inj] at held
      subst held
      obtain rfl : j = k := jobs.token_injective (hown.symm.trans own)
      exact .inr (.inl (step_moved h (by rw [event]; rfl)))
  · obtain ⟨rfl, rfl⟩ := Prod.mk.inj (mem_singleton.1 hnew)
    cases step_writes h with
    | kept _ _ idle => exact absurd hholds (idle j)
    | granted k _ only _ _ entry =>
      obtain rfl := only j hholds
      exact .inr (.inr ⟨_, entry, rfl, le_rfl⟩)
    | extended k event _ _ _ entry =>
      rcases event with rfl | rfl
      · obtain rfl : k = j := hholds
        exact .inr (.inr ⟨_, entry, rfl, le_rfl⟩)
      · exact hholds.elim
    | removed k event =>
      subst event
      exact hholds.elim

lemma Invariant.step : Invariant jobs (es ++ [(w.now, e)]) w' := by
  refine ⟨?_, hinv.once_step h, hinv.started_step h, hinv.entered_step h, hinv.owner_step h, hinv.held_step h⟩
  intro t e' hmem
  rcases mem_append.1 hmem with hold | hnew
  · exact (hinv.past t e' hold).trans (step_now h)
  · obtain ⟨rfl, rfl⟩ := Prod.mk.inj (mem_singleton.1 hnew)
    exact step_now h

end Preserved

lemma run_invariant (h : Steps (World.Step jobs store) {} es w) : Invariant jobs es w := by
  refine h.invariant (Invariant jobs) (Invariant.start jobs) ?_
  rintro es w ⟨t, e⟩ w' hinv ⟨rfl, hstep⟩
  exact hinv.step hstep

/-- Along a run, a job whose lease was lost neither resets the session nor releases the lease. -/
lemma run_finishes (h : Steps (World.Step jobs store) {} es w) :
    (∀ b, .lost j b ∈ es.map Prod.snd → w.lost j = true) ∧
      ∀ b e, e.finishes j → ¬[.lost j b, e].Sublist (es.map Prod.snd) := by
  induction h with
  | nil => exact ⟨by simp, by simp⟩
  | @snoc es w w' stamped _ hstep ih =>
    obtain ⟨-, hstep⟩ := hstep
    rw [map_append, map_singleton]
    refine ⟨?_, ?_⟩
    · intro b hb
      rcases mem_append.1 hb with hb | hb
      · exact step_lost hstep (.inl (ih.1 b hb))
      · exact step_lost hstep (.inr ⟨b, (mem_singleton.1 hb).symm⟩)
    intro b e he hsub
    rcases pair_sublist_concat hsub with hsub | ⟨hlost, rfl⟩
    · exact ih.2 b e he hsub
    have hnot := step_finishes hstep he
    rw [ih.1 b hlost] at hnot
    cases hnot

/-- **Leases.**  For any jobs and any run: a job in the body has got the lease, and of two that
have not noticed a loss the one that got it first has neither acquired nor renewed it for its time to live; a
renewal or release leaves an entry with another token as it is; and a job that has noticed the
loss releases nothing and resets no session. -/
theorem lease_exclusive (h : Steps (World.Step jobs store) {} es w) :
    (∀ j, w.Inside j → .acquired j ∈ es.map Prod.snd) ∧
    (∀ first second, first ≠ second → w.Inside first → w.Inside second →
      [.acquired first, .acquired second].Sublist (es.map Prod.snd) →
      ∀ t e, (t, e) ∈ es → e.holds first → t + jobs.ttl first ≤ w.now) ∧
    (∀ j t e w', World.Step jobs store w (t, e) w' →
      (e = .renewed j ∨ (∃ applied, e = .lost j applied) ∨ ∃ applied, e = .released j applied) →
      ∀ x, w.entry = some x → x.token ≠ jobs.token j → w'.entry = some x) ∧
    ∀ j applied e, e.finishes j → ¬[.lost j applied, e].Sublist (es.map Prod.snd) := by
  have hinv := run_invariant h
  refine ⟨fun j hj => hinv.entered j hj.1, ?_, ?_, fun j => (run_finishes h).2⟩
  · intro first second hne hfirst _ horder t e hmem hholds
    rcases hinv.held t e first hmem hholds with hover | hdone | ⟨x, hx, hown, _⟩
    · exact hover
    · rcases hfirst.1 with hphase | hphase <;> rw [hdone] at hphase <;> cases hphase
    -- the entry would be that of the last grant, and the second job's came later
    obtain ⟨k, hk, hlast⟩ := hinv.owner x hx
    obtain rfl : first = k := jobs.token_injective (hown.symm.trans hk)
    have hgrants : [first, second].Sublist (grants es) := by
      have := horder.filterMap Event.granted
      rwa [filterMap_map] at this
    exact absurd hlast (getLast?_ne_of_pair hinv.once hgrants)
  rintro j t e w' ⟨-, hstep⟩ hevent x hx hother
  cases step_writes hstep with
  | kept same _ _ => exact same.trans hx
  | granted k grantee _ _ _ _ =>
    rcases hevent with rfl | ⟨applied, rfl⟩ | ⟨applied, rfl⟩ <;> cases grantee
  | extended k event y held own _ =>
    rw [hx, some_inj] at held
    subst held
    rcases hevent with rfl | ⟨applied, rfl⟩ | ⟨applied, rfl⟩ <;> rcases event with hk | hk <;> cases hk <;>
      exact absurd own hother
  | removed k event y held own _ =>
    rw [hx, some_inj] at held
    subst held
    rcases hevent with rfl | ⟨applied, rfl⟩ | ⟨applied, rfl⟩ <;> cases event
    exact absurd own hother

def twoJobs : Jobs Bool Bool where
  token := id
  token_injective := Function.injective_id
  ttl _ := 120000
  resets _ := true

def overtaken : List (Nat × Event Bool) := [(0, .acquired false), (0, .tick 120000), (120000, .acquired true)]

def overtakenWorld : World Bool Bool where
  now := 120000
  entry := some ⟨true, 240000⟩
  phase _ := .inside

lemma overtaken_run : Steps (World.Step twoJobs localStore) {} overtaken overtakenWorld := by
  refine .cons ⟨rfl, rfl⟩ (.cons ⟨rfl, rfl⟩ (.single ⟨rfl, ?_⟩))
  have hphase : update (update (fun _ => Phase.waiting) false .inside) true .inside =
      fun _ => Phase.inside := by
    funext j
    cases j <;> rfl
  simp [World.step, World.tryAcquire, Store.tryAcquire, World.enter, localStore, twoJobs, overtakenWorld,
    hphase]

theorem lease_exclusive_overtaken : overtakenWorld.Inside false ∧ overtakenWorld.Inside true ∧
      ∀ t e, (t, e) ∈ overtaken → e.holds false → t + 120000 ≤ 120000 := by
  have hfirst : overtakenWorld.Inside false := ⟨.inl rfl, rfl⟩
  have hsecond : overtakenWorld.Inside true := ⟨.inl rfl, rfl⟩
  exact ⟨hfirst, hsecond, (lease_exclusive overtaken_run).2.1 false true (by decide) hfirst hsecond
    (by decide)⟩

end Runs

end AsmSensors.Coordination
