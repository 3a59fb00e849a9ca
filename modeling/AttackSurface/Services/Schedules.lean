import AttackSurface.Text.Str

/-!
# Schedules (`due_schedules`, `fire_schedule`)

Any number of dispatchers read which schedules are due and fire those of their lists, one
transaction each.  A transaction takes the lock of its row or skips the row, checks it again, and
commits the next run together with the scan, or rolls back.  That a dispatcher has one transaction
at a time is not used.
-/

namespace App.Schedules

open PyText List Function

structure ScanSchedule where
  tenantActive : Bool := true
  organizationId : Nat
  profileId : Nat
  cron : Str
  timezone : Str
  enabled : Bool := true
  nextRunAt : Option Int
  lastRunAt : Option Int := none
  lastScanId : Option Nat := none

/-- `due_schedules`; the id of a schedule is its place in the table. -/
def dueSchedules (rows : List ScanSchedule) (now : Int) : List Nat := (range rows.length).filter fun i =>
  rows[i]?.any fun r => r.enabled && r.nextRunAt.any (· ≤ now) && r.tenantActive

/-- The check once the row is locked. -/
def fires (now : Int) (r : ScanSchedule) : Bool := r.enabled && !r.nextRunAt.any (now < ·)

/-- What a transaction that holds a lock has read. -/
structure Locked where
  row : ScanSchedule
  now : Int

structure Firing where
  schedule : Nat
  dueAt : Option Int
  nextRunAt : Int
  scan : Option Nat

structure Dispatch where
  rows : List ScanSchedule
  /-- what is left of the list that each dispatcher read -/
  lists : Nat → List Nat := fun _ => []
  locks : Nat → Option Locked := fun _ => none
  /-- the firings that were committed -/
  firings : List Firing := []

variable (nextRun : Str → Str → Int → Int)

def Dispatch.commit (s : Dispatch) (i : Nat) (l : Locked) (scan : Option Nat) : Dispatch :=
  let next := nextRun l.row.cron l.row.timezone l.now
  let row := { l.row with
    nextRunAt := some next, lastRunAt := some l.now, lastScanId := scan.or l.row.lastScanId }
  { s with
    rows := s.rows.set i row
    locks := update s.locks i none
    firings := s.firings ++ [⟨i, l.row.nextRunAt, next, scan⟩] }

inductive Step (s : Dispatch) : Dispatch → Prop
  | due (w : Nat) (now : Int) : Step s { s with lists := update s.lists w (dueSchedules s.rows now) }
  /-- the row is gone, locked, or not due any more -/
  | skip (w i : Nat) (rest : List Nat) (now : Int) (next : s.lists w = i :: rest)
      (not_due : ∀ r, s.rows[i]? = some r → s.locks i = none → fires now r = false) :
      Step s { s with lists := update s.lists w rest }
  | lock (w i : Nat) (rest : List Nat) (now : Int) (r : ScanSchedule) (next : s.lists w = i :: rest)
      (row : s.rows[i]? = some r) (free : s.locks i = none) (due : fires now r = true) :
      Step s { s with lists := update s.lists w rest, locks := update s.locks i (some ⟨r, now⟩) }
  /-- `scan` is `none` if the organization is not active or `create_scan` raised an `AppError` -/
  | commit (i : Nat) (l : Locked) (scan : Option Nat) (held : s.locks i = some l) : Step s (s.commit nextRun i l scan)
  | rollback (i : Nat) : Step s { s with locks := update s.locks i none }

/-- A locked row is as it was read, and the firings so far are behind the rows. -/
structure Consistent (s : Dispatch) : Prop where
  held : ∀ i l, s.locks i = some l → s.rows[i]? = some l.row ∧ fires l.now l.row = true
  grown : ∀ f ∈ s.firings, ∀ v ∈ f.dueAt, v < f.nextRunAt
  behind : ∀ f ∈ s.firings, ∃ r v, s.rows[f.schedule]? = some r ∧ r.nextRunAt = some v ∧ f.nextRunAt ≤ v
  ordered : s.firings.Pairwise fun f g => f.schedule = g.schedule → ∃ v, g.dueAt = some v ∧ f.nextRunAt ≤ v

variable {nextRun} {s t : Dispatch} {i j : Nat} {l : Locked}

lemma fires_le {now v : Int} {r : ScanSchedule} (h : fires now r = true) (hv : r.nextRunAt = some v) : v ≤ now := by
  simpa [fires, hv] using (Bool.and_eq_true_iff.1 h).2

lemma locked_of_update (h : update s.locks i none j = some l) : j ≠ i ∧ s.locks j = some l := by
  by_cases hj : j = i
  · simp [hj] at h
  · exact ⟨hj, by rwa [update_of_ne hj] at h⟩

lemma Consistent.commit (hnext : ∀ cron tz now, now < nextRun cron tz now) (hs : Consistent s)
    (hl : s.locks i = some l) (scan : Option Nat) : Consistent (s.commit nextRun i l scan) := by
  obtain ⟨hold, hfires⟩ := hs.held i l hl
  have hnow := hnext l.row.cron l.row.timezone l.now
  have hnew (row : ScanSchedule) : (s.rows.set i row)[i]? = some row :=
    getElem?_set_self (List.getElem?_eq_some_iff.1 hold).1
  unfold Dispatch.commit
  constructor
  · intro j k h
    obtain ⟨hj, h⟩ := locked_of_update h
    rw [getElem?_set_ne (Ne.symm hj)]
    exact hs.held j k h
  · rw [forall_mem_append, forall_mem_singleton]
    exact ⟨hs.grown, fun v hv => (fires_le hfires hv).trans_lt hnow⟩
  · rw [forall_mem_append, forall_mem_singleton]
    refine ⟨fun f hf => ?_, _, _, hnew _, rfl, le_rfl⟩
    obtain ⟨r, v, hr, hv, hle⟩ := hs.behind f hf
    by_cases hi : f.schedule = i
    · rw [hi, hold, Option.some_inj] at hr
      rw [hi, hnew]
      exact ⟨_, _, rfl, rfl, hle.trans ((fires_le hfires (hr ▸ hv)).trans hnow.le)⟩
    · exact ⟨r, v, by rwa [getElem?_set_ne (Ne.symm hi)], hv, hle⟩
  · refine pairwise_append.2 ⟨hs.ordered, pairwise_singleton _ _, fun f hf g hg hi => ?_⟩
    obtain rfl := mem_singleton.1 hg
    obtain ⟨r, v, hr, hv, hle⟩ := hs.behind f hf
    rw [hi, hold, Option.some_inj] at hr
    exact ⟨v, hr ▸ hv, hle⟩

lemma Step.consistent (hnext : ∀ cron tz now, now < nextRun cron tz now) (hstep : Step nextRun s t)
    (hs : Consistent s) : Consistent t := by
  cases hstep with
  | due | skip => exact ⟨hs.held, hs.grown, hs.behind, hs.ordered⟩
  | lock w i rest now r next row free due =>
    refine ⟨fun j l h => ?_, hs.grown, hs.behind, hs.ordered⟩
    by_cases hj : j = i
    · simp only [hj, update_self] at h ⊢
      cases h
      exact ⟨row, due⟩
    · simp only [update_of_ne hj] at h
      exact hs.held j l h
  | commit i l scan held => exact hs.commit hnext held scan
  | rollback i => exact ⟨fun j l h => hs.held j l (locked_of_update h).2, hs.grown, hs.behind, hs.ordered⟩

/-- **One firing for each due time.**  In every interleaving a firing moves the next run of its schedule
ahead, whether or not it created a scan, and later firings of the schedule start there or later. -/
theorem schedules_fire_once (hnext : ∀ cron tz now, now < nextRun cron tz now) (rows : List ScanSchedule)
    (hrun : Relation.ReflTransGen (Step nextRun) { rows := rows } s) :
    (∀ f ∈ s.firings, ∀ v ∈ f.dueAt, v < f.nextRunAt) ∧
      s.firings.Pairwise fun f g => f.schedule = g.schedule →
        f.dueAt ≠ g.dueAt ∧ ∃ v, g.dueAt = some v ∧ f.nextRunAt ≤ v := by
  have hs : Consistent s := by
    induction hrun with
    | refl => constructor <;> simp
    | tail _ hstep ih => exact hstep.consistent hnext ih
  refine ⟨hs.grown, hs.ordered.imp_of_mem fun {f g} hf _ hlater hi => ?_⟩
  obtain ⟨v, hv, hle⟩ := hlater hi
  refine ⟨fun hdue => ?_, v, hv, hle⟩
  exact (hs.grown f hf v (hdue.trans hv)).not_ge hle

def hourly : ScanSchedule := { organizationId := 1, profileId := 1, cron := [], timezone := [], nextRunAt := some 60 }

theorem schedules_fire_once_hourly :
    ∃ s, Relation.ReflTransGen (Step fun _ _ now => now + 60) { rows := [hourly] } s ∧
      s.firings.map Firing.nextRunAt = [130] ∧ ∀ f ∈ s.firings, ∀ v ∈ f.dueAt, v < f.nextRunAt := by
  have hrun : Relation.ReflTransGen (Step fun _ _ now => now + 60) { rows := [hourly] } _ :=
    (((Relation.ReflTransGen.refl).tail (.due 0 70)).tail
      (.lock 0 0 [] 70 hourly (by decide) rfl rfl (by decide))).tail (.commit 0 ⟨hourly, 70⟩ (some 7) rfl)
  exact ⟨_, hrun, rfl, (schedules_fire_once (fun _ _ now => by omega) [hourly] hrun).1⟩

end App.Schedules
