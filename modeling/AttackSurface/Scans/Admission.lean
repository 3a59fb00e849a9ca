import AttackSurface.Scans.Slots

/-!
# How many scans may be created

`create_scan` looks for an active scan of the same profile and counts the scans of the last
day before it inserts the new one, without a lock: two calls can both pass and both insert
(`created_twice`).  Where what it checked still holds at its commit, and no start revives a
cancelled scan, the limits hold:

    S.currentCreates U  →  at most one active scan of an organization and profile, and at most
    max_scans_per_day scans of a tenant in any 24 hours            (created_scans_limited)
-/

namespace App.Scans

open PyText AsmSensors Transactions Machines List Bool

variable {U : Unicode} {V J : Type}

/-! ## The limits -/

def ScanRow.activeFor (organization profile : Nat) (row : ScanRow V) : Bool :=
  row.organizationId == organization && row.profileId == profile && row.status.isActive

def ScanRow.createdIn (tenant : Nat) (first last : Int) (row : ScanRow V) : Bool :=
  row.tenantId == tenant && decide (first ≤ row.createdAt) && decide (row.createdAt ≤ last)

def Db.activeScans (d : Db V) (organization profile : Nat) : Nat :=
  d.scans.countP (ScanRow.activeFor organization profile)

def Db.createdWithin (d : Db V) (tenant : Nat) (first last : Int) : Nat :=
  d.scans.countP (ScanRow.createdIn tenant first last)

structure Settings.WithinLimits (S : Settings V J) (d : Db V) : Prop where
  active : ∀ organization profile, S.internalProfile profile = false → d.activeScans organization profile ≤ 1
  daily : ∀ tenant n, (S.plan tenant).bind Plan.maxScansPerDay = some n →
    ∀ first, d.createdWithin tenant first (first + daySeconds) ≤ n

/-- What `create_scan` checked holds when it commits, and starts commit on the status they read. -/
def Settings.stillAllowed (S : Settings V J) (t : Session V J) (d : Db V) : Bool :=
  match t with
  | .createAllowed draft =>
    (S.internalProfile draft.request.profileId ||
        !d.hasActive draft.request.organizationId draft.request.profileId) &&
      ((S.plan draft.request.tenantId).bind Plan.maxScansPerDay).all fun n =>
        decide (d.createdSince draft.request.tenantId (draft.createdAt - daySeconds) < n)
  | t => startsCurrent t d

def Settings.currentCreates (U : Unicode) (S : Settings V J) :
    Program Lock (Db V) (Session V J) (Task V J) (Input V) Nat (Event J) :=
  (S.program U).restrict fun t _ d => S.stillAllowed t d

/-! ## Commits -/

section Commit

variable {S : Settings V J} {H : Lock → Prop} {d d' : Db V} {t : Session V J} {a : Input V}
  {es : List (Event J)} {t' : Option (Session V J)}

/-- Only `create_scan` adds a row. -/
lemma Settings.commit_created (hn : S.next U t a d = some (.commit d' es t')) :
    (∃ draft, t = .createAllowed draft) ∨ d'.scans.length = d.scans.length := by
  cases t
  case createAllowed draft => exact .inl ⟨draft, rfl⟩
  all_goals
    right
    simp only [Settings.next, Settings.receiveResult, Settings.completeStage, Settings.failStage,
      Db.advanceScan, Db.finalizeScan, Db.lockScan, Db.commitRows] at hn
    (repeat' split at hn) <;> first
      | (cases hn; simp [Db.apply])
      | cases hn

lemma created_of_fixed {x y : ScanRow V} (h : x.fixed = y.fixed) (tenant : Nat) (first last : Int) :
    x.createdIn tenant first last = y.createdIn tenant first last := by
  simp only [ScanRow.fixed, ScanRow.mk.injEq, Scan.mk.injEq] at h
  simp only [ScanRow.createdIn, h]

variable {organization profile : Nat}

lemma activeFor_of_fixed {x y : ScanRow V} (h : x.fixed = y.fixed) (hs : x.status.isActive = true → y.status.isActive = true)
    (hx : x.activeFor organization profile = true) :
    y.activeFor organization profile = true := by
  simp only [ScanRow.fixed, ScanRow.mk.injEq] at h
  simp only [ScanRow.activeFor, and_eq_true] at hx ⊢
  rw [← h.2.1, ← h.2.2.1]
  exact ⟨hx.1, hs hx.2⟩

lemma Settings.WithinLimits.commit (hlim : S.WithinLimits d) (hc : Db.Commits H d d' es)
    (hlen : d'.scans.length = d.scans.length)
    (hactive : ∀ (i : Nat) (cur new : ScanRow V), d.scans[i]? = some cur → d'.scans[i]? = some new →
      new.status.isActive = true → cur.status.isActive = true) : S.WithinLimits d' := by
  have hold : ∀ (i : Nat) (new : ScanRow V), d'.scans[i]? = some new →
      ∃ cur, d.scans[i]? = some cur ∧ RowStep H i cur new := by
    intro i new hnew
    rcases hc.row hnew with h | ⟨hnone, -, -⟩
    · exact h
    obtain ⟨hlt, -⟩ := List.getElem?_eq_some_iff.1 hnew
    rw [List.getElem?_eq_none_iff] at hnone
    omega
  refine ⟨fun o p hp => le_trans ?_ (hlim.active o p hp), fun tenant n hn first => le_trans ?_ (hlim.daily tenant n hn first)⟩
  · refine countP_le_of_positions fun i new hnew hx => ?_
    obtain ⟨cur, hcur, hstep⟩ := hold i new hnew
    exact ⟨cur, hcur, activeFor_of_fixed hstep.fixed (hactive i cur new hcur hnew) hx⟩
  refine countP_le_of_positions fun i new hnew hx => ?_
  obtain ⟨cur, hcur, hstep⟩ := hold i new hnew
  exact ⟨cur, hcur, by rw [← created_of_fixed hstep.fixed]; exact hx⟩

lemma activeScans_of_hasActive (h : d.hasActive organization profile = false) :
    d.activeScans organization profile = 0 := by
  unfold Db.activeScans
  rw [countP_eq_zero]
  intro row hrow hx
  unfold Db.hasActive at h
  rw [List.any_eq_false] at h
  exact h row hrow hx

lemma createdWithin_le_createdSince {tenant : Nat} {first now : Int} (h : now ≤ first + daySeconds) :
    d.createdWithin tenant first (first + daySeconds) ≤ d.createdSince tenant (now - daySeconds) := by
  refine countP_mono_left fun row _ hx => ?_
  simp only [ScanRow.createdIn, and_eq_true, decide_eq_true_eq] at hx ⊢
  exact ⟨hx.1.1, by omega⟩

/-- **The insertion keeps the limits** where the checks still hold. -/
theorem Settings.WithinLimits.insert (hlim : S.WithinLimits d) {draft : Draft V} {row : ScanRow V}
    (hcond : S.stillAllowed (.createAllowed draft) d = true) (hscans : d'.scans = d.scans ++ [row])
    (horg : row.organizationId = draft.request.organizationId) (hprofile : row.profileId = draft.request.profileId)
    (htenant : row.tenantId = draft.request.tenantId) (hat : row.createdAt = draft.createdAt) :
    S.WithinLimits d' := by
  simp only [Settings.stillAllowed, and_eq_true, or_eq_true, not_eq_true'] at hcond
  obtain ⟨hfree, hday⟩ := hcond
  have hcount : ∀ p : ScanRow V → Bool, d'.scans.countP p = d.scans.countP p + if p row = true then 1 else 0 := by
    intro p
    rw [hscans, countP_append, countP_singleton]
  constructor
  · intro o p hp
    unfold Db.activeScans
    rw [hcount]
    have hold := hlim.active o p hp
    unfold Db.activeScans at hold
    split
    · next hx =>
      simp only [ScanRow.activeFor, and_eq_true, beq_iff_eq] at hx
      obtain ⟨⟨rfl, rfl⟩, -⟩ := hx
      rw [← horg, ← hprofile] at hfree
      rcases hfree with hfree | hfree
      · rw [hp] at hfree
        cases hfree
      have hzero := activeScans_of_hasActive hfree
      unfold Db.activeScans at hzero
      omega
    · omega
  intro tenant n hn first
  unfold Db.createdWithin
  rw [hcount]
  have hold := hlim.daily tenant n hn first
  unfold Db.createdWithin at hold
  split
  · next hx =>
    simp only [ScanRow.createdIn, and_eq_true, beq_iff_eq, decide_eq_true_eq] at hx
    obtain ⟨⟨rfl, -⟩, hlast⟩ := hx
    rw [htenant] at hn
    rw [hn] at hday
    simp only [Option.all_some, decide_eq_true_eq] at hday
    rw [hat] at hlast
    have hle : d.createdWithin draft.request.tenantId first (first + daySeconds) ≤
        d.createdSince draft.request.tenantId (draft.createdAt - daySeconds) :=
      createdWithin_le_createdSince hlast
    unfold Db.createdWithin at hle
    rw [htenant]
    omega
  · omega

/-- **One commit keeps the limits** where the checks still hold. -/
theorem Settings.WithinLimits.step (hlim : S.WithinLimits d) (hd : d.Sound) (h : t.holds S.transport H d)
    (hcond : S.stillAllowed t d = true) (hn : S.next U t a d = some (.commit d' es t')) : S.WithinLimits d' := by
  rcases Settings.commit_created hn with ⟨draft, rfl⟩ | hlen
  · simp only [Settings.next, Settings.insertScan, Option.some.injEq] at hn
    split at hn <;> cases hn
    exact hlim.insert hcond rfl rfl rfl rfl rfl
  refine hlim.commit (Settings.base_commit hd h hn).1 hlen fun i cur new hcur hnew hactive => ?_
  by_contra hinactive
  rw [not_eq_true] at hinactive
  have hstart : startsCurrent t d = true := by
    cases t
    case createAllowed draft => rfl
    all_goals exact hcond
  obtain ⟨new', hnew', hlife⟩ := Settings.inactive_kept hd h hn hstart hcur hinactive
  rw [hnew] at hnew'
  cases hnew'
  have hstatus : new.status = cur.status := congrArg Life.status hlife
  rw [hstatus, hinactive] at hactive
  cases hactive

end Commit

/-! ## Every run -/

section Runs

variable {S : Settings V J} {d₀ : Db V} {s : Store Lock (Db V) (Session V J)}
  {as : List (Action (Task V J) (Input V) Nat)} {log : List (Event J)}

/-- **At most one active scan of an organization and profile, and at most `max_scans_per_day` scans of a
tenant in any 24 hours**, in every run whose creations commit where their checks still hold. -/
theorem created_scans_limited (hd : d₀.Sound) (hlim : S.WithinLimits d₀)
    (h : Run (S.currentCreates U).machine (Store.idle d₀) as s log) :
    (∀ organization profile, S.internalProfile profile = false →
      s.data.activeScans organization profile ≤ 1) ∧
    ∀ tenant n, (S.plan tenant).bind Plan.maxScansPerDay = some n →
      ∀ first, s.data.createdWithin tenant first (first + daySeconds) ≤ n := by
  have hrun := ((S.base_kept (U := U)).restrict fun t _ d => S.stillAllowed t d).invariant
    (fun d _ => S.WithinLimits d)
    (fun t H a d log d' es t' hd ht hn hi =>
      Settings.WithinLimits.step hi hd ht (Program.next_of_restrict hn).1 (Program.next_of_restrict hn).2)
    (fun _ _ _ hi => ⟨hi.active, hi.daily⟩) (Settings.base_idle hd) hlim h
  exact ⟨hrun.2.active, hrun.2.daily⟩

def dailySettings : Settings Unit Str :=
  { oneSettings with plan := fun _ => some { maxConcurrentScans := 1, maxScansPerDay := some 1 } }

def oneRequest : CreateRequest Unit := { tenantId := 1, organizationId := 0, profileId := 0 }

def createInput : Input Unit :=
  { platform := onePlatform
    profile := some { tenantId := none, stages := [{ stage := .dnsResolution, engine := "dnsx".toList }] } }

lemma dailySettings_withinLimits : dailySettings.WithinLimits {} :=
  ⟨fun _ _ _ => by simp [Db.activeScans], fun _ _ _ _ => by simp [Db.createdWithin]⟩

lemma emptyDb_sound : ({} : Db Unit).Sound := ⟨by simp, by simp, by simp⟩

/-- One scan is created. -/
theorem created_scans_limited_one : ∃ (s : Store Lock (Db Unit) (Session Unit Str)) (log : List (Event Str)),
      Run (dailySettings.currentCreates asciiUnicode).machine (Store.idle {})
        (session 0 (.createScan oneRequest) createInput 5) s log ∧
      s.data.activeScans 0 0 = 1 ∧ s.data.activeScans 0 0 ≤ 1 ∧ s.data.createdWithin 1 0 (0 + daySeconds) ≤ 1 := by
  refine Run.exists_of_exec (fun r => r.1.data.activeScans 0 0 == 1) (by decide +kernel)
    fun s log hrun hone => ?_
  obtain ⟨hactive, hdaily⟩ := created_scans_limited emptyDb_sound dailySettings_withinLimits hrun
  exact ⟨beq_iff_eq.1 hone, hactive 0 0 rfl, hdaily 1 1 rfl 0⟩

/-- **Two calls pass the checks before either inserts**: two active scans of one profile, and two scans in
a day where the plan allows one. -/
theorem created_twice : ∃ (s : Store Lock (Db Unit) (Session Unit Str)) (log : List (Event Str)),
      Run (dailySettings.program asciiUnicode).machine (Store.idle {})
        (session 0 (.createScan oneRequest) createInput 4 ++ session 1 (.createScan oneRequest) createInput 5 ++
          [.run 0 createInput]) s log ∧
      (dailySettings.plan 1).bind Plan.maxScansPerDay = some 1 ∧ dailySettings.internalProfile 0 = false ∧
      s.data.activeScans 0 0 = 2 ∧ s.data.createdWithin 1 0 (0 + daySeconds) = 2 := by
  refine Run.exists_of_exec (fun r => (r.1.data.activeScans 0 0 == 2) &&
    (r.1.data.createdWithin 1 0 (0 + daySeconds) == 2)) (by decide +kernel) fun s log _ heval => ?_
  rw [and_eq_true, beq_iff_eq, beq_iff_eq] at heval
  exact ⟨rfl, rfl, heval.1, heval.2⟩

end Runs

end App.Scans
