import AttackSurface.Scans.Cancelling

/-!
# The slots for running scans

A start counts the running scans, of all tenants and of its own, under the advisory lock
and keeps the lock until it commits.  Other sessions only take scans out of RUNNING, so what
was counted is an upper bound until then.

    no running scan at first  →  in every state of every run, the running scans of each
    tenant and of all tenants are within their limits                 (running_scans_limited)
-/

namespace App.Scans

open PyText AsmSensors Transactions Machines List

variable {U : Unicode} {V J : Type}

/-! ## Counting by position -/

section Count

variable {α : Type} {p q : α → Bool}

/-- What counts in `l'` counts in `l` at the same position. -/
lemma countP_le_of_positions {l' l : List α}
    (h : ∀ (j : Nat) x', l'[j]? = some x' → p x' = true → ∃ x, l[j]? = some x ∧ q x = true) :
    l'.countP p ≤ l.countP q := by
  induction l' generalizing l with
  | nil => simp
  | cons x' l' ih =>
    cases l with
    | nil =>
      have hnone : (x' :: l').countP p = 0 := by
        rw [countP_eq_zero]
        intro y hy hp
        obtain ⟨j, hj⟩ := mem_iff_getElem?.1 hy
        obtain ⟨x, hx, -⟩ := h j y hj hp
        simp at hx
      omega
    | cons x l =>
      have htail := ih (l := l) fun j y hy hp => h (j + 1) y hy hp
      have hhead := h 0 x' rfl
      simp only [countP_cons]
      by_cases hp : p x' = true
      · obtain ⟨x₀, hx₀, hq⟩ := hhead hp
        cases hx₀
        rw [if_pos hp, if_pos hq]
        omega
      · rw [if_neg hp]
        omega

lemma countP_le_succ_of_positions {l' l : List α} {i : Nat}
    (h : ∀ (j : Nat) x', l'[j]? = some x' → p x' = true → j ≠ i → ∃ x, l[j]? = some x ∧ q x = true) :
    l'.countP p ≤ l.countP q + 1 := by
  induction l' generalizing l i with
  | nil => simp
  | cons x' l' ih =>
    simp only [countP_cons]
    have hone : (if p x' = true then 1 else 0) ≤ 1 := by split <;> omega
    cases i with
    | zero =>
      have htail : l'.countP p ≤ l.tail.countP q := by
        refine countP_le_of_positions fun j y hy hp => ?_
        obtain ⟨x, hx, hq⟩ := h (j + 1) y hy hp (by omega)
        exact ⟨x, by rw [getElem?_tail]; exact hx, hq⟩
      have hle : l.tail.countP q ≤ l.countP q := (tail_sublist l).countP_le
      omega
    | succ i =>
      have htail : l'.countP p ≤ l.tail.countP q + 1 := by
        refine ih (i := i) fun j y hy hp hj => ?_
        obtain ⟨x, hx, hq⟩ := h (j + 1) y hy hp (by omega)
        exact ⟨x, by rw [getElem?_tail]; exact hx, hq⟩
      by_cases hp : p x' = true
      · obtain ⟨x, hx, hq⟩ := h 0 x' rfl hp (by omega)
        cases l with
        | nil => simp at hx
        | cons y l =>
          cases hx
          simp only [tail_cons] at htail
          rw [countP_cons, if_pos hp, if_pos hq]
          omega
      · rw [if_neg hp]
        have hle : l.tail.countP q ≤ l.countP q := (tail_sublist l).countP_le
        omega

end Count

/-! ## Running scans -/

def ScanRow.runs (tenant : Option Nat) (row : ScanRow V) : Bool :=
  row.status == .running && tenant.all fun t => row.tenantId == t

lemma Db.runningScans_eq (d : Db V) (tenant : Option Nat) :
    d.runningScans tenant = d.scans.countP (ScanRow.runs tenant) := rfl

lemma tenantId_of_fixed {a b : ScanRow V} (h : a.fixed = b.fixed) : a.tenantId = b.tenantId := by
  simp only [ScanRow.fixed, ScanRow.mk.injEq, Scan.mk.injEq] at h
  exact h.1.2.1

section Running

variable {S : Settings V J} {H : Lock → Prop} {d d' : Db V} {es : List (Event J)} {tenant : Option Nat}

lemma RowStep.runs {i : Nat} {cur new : ScanRow V} (h : RowStep (withoutStart H) i cur new)
    (hr : new.runs tenant = true) : cur.runs tenant = true := by
  simp only [ScanRow.runs, Bool.and_eq_true, beq_iff_eq] at hr ⊢
  refine ⟨?_, by rw [← tenantId_of_fixed h.fixed]; exact hr.2⟩
  rcases h.life with hl | hl | hl
  · exact (congrArg Life.status hl).symm.trans hr.1
  · exact hl.running hr.1
  · exact absurd rfl hl.1.1

lemma Life.New.not_runs {new : ScanRow V} (h : new.life.New) : new.runs tenant = false := by
  have hs : new.status = .pending := h.status
  simp [ScanRow.runs, hs]

lemma Db.Commits.runningScans_le (h : Db.Commits (withoutStart H) d d' es) :
    d'.runningScans tenant ≤ d.runningScans tenant := by
  rw [Db.runningScans_eq, Db.runningScans_eq]
  refine countP_le_of_positions fun j new hnew hr => ?_
  rcases h.row hnew with ⟨cur, hcur, hstep⟩ | ⟨-, -, hnewlife⟩
  · exact ⟨cur, hcur, hstep.runs hr⟩
  · rw [hnewlife.not_runs] at hr
    cases hr

variable {row written cur : ScanRow V}

lemma runningScans_apply_le : (d.apply [(row, written)]).runningScans tenant ≤ d.runningScans tenant + 1 := by
  rw [Db.runningScans_eq, Db.runningScans_eq]
  refine countP_le_succ_of_positions (i := row.id) fun j new hnew hr hj => ⟨new, ?_, hr⟩
  rw [Db.getElem?_apply_other (Ne.symm hj)] at hnew
  exact hnew

lemma runningScans_apply_same (hcur : d.scans[row.id]? = some cur)
    (hnot : (row.writeBack written cur).runs tenant = true → cur.runs tenant = true) :
    (d.apply [(row, written)]).runningScans tenant ≤ d.runningScans tenant := by
  rw [Db.runningScans_eq, Db.runningScans_eq]
  refine countP_le_of_positions fun j new hnew hr => ?_
  by_cases hj : row.id = j
  · subst hj
    rw [Db.getElem?_apply_single hcur] at hnew
    cases hnew
    exact ⟨cur, hcur, hnot hr⟩
  · rw [Db.getElem?_apply_other hj] at hnew
    exact ⟨new, hnew, hr⟩

/-! ## The limits -/

/-- The running scans are within the limits. -/
structure Settings.Limited (S : Settings V J) (d : Db V) : Prop where
  tenant : ∀ t, d.runningScans (some t) ≤ S.scanConcurrencyLimit t
  everywhere : d.runningScans none ≤ S.maxConcurrentScansGlobal

def Settings.Room (S : Settings V J) (d : Db V) (t : Nat) : Prop :=
  d.runningScans (some t) < S.scanConcurrencyLimit t ∧ d.runningScans none < S.maxConcurrentScansGlobal

def Settings.slots (S : Settings V J) : Assertions Lock (Db V) (Session V J) (Event J) where
  inv d _ := S.Limited d
  holds t _ d :=
    match t with
    | .startCount _ everywhere => d.runningScans none ≤ everywhere
    | .startFlush row written | .startWritten row written =>
      written.status = .running → S.Room d row.tenantId
    | _ => True

lemma Settings.Room.mono {t : Nat} (h : S.Room d t)
    (hle : ∀ tenant, d'.runningScans tenant ≤ d.runningScans tenant) : S.Room d' t :=
  ⟨(hle _).trans_lt h.1, (hle _).trans_lt h.2⟩

lemma Settings.slots_mono {u : Session V J} {G : Lock → Prop} (h : S.slots.holds u G d)
    (hle : ∀ tenant, d'.runningScans tenant ≤ d.runningScans tenant) : S.slots.holds u G d' := by
  cases u
  case startCount row everywhere => exact (hle none).trans h
  case startFlush row written => exact fun hr => (h hr).mono hle
  case startWritten row written => exact fun hr => (h hr).mono hle
  all_goals trivial

lemma Settings.reserve_room {everywhere : Nat} (hle : d.runningScans none ≤ everywhere)
    (hr : (S.reserve d row everywhere).status = .running) : S.Room d row.tenantId := by
  unfold Settings.reserve at hr
  split at hr
  · cases hr
  next hroom =>
  rw [not_or, not_le, not_le] at hroom
  exact ⟨hroom.1, hle.trans_lt hroom.2⟩

/-- **The commit of a start keeps the limits.** -/
theorem Settings.limited_start (h : (Session.startWritten row written).holds S.transport H d)
    (hlim : S.Limited d) (hroom : written.status = .running → S.Room d row.tenantId) :
    S.Limited (d.apply [(row, written)]) := by
  obtain ⟨-, -, ⟨cur, hcur, hfixed, -⟩, -, -, hne⟩ := h
  have hstatus : (row.writeBack written cur).status = written.status := by
    simp only [ScanRow.writeBack, Transactions.writeBack]
    rw [if_neg hne]
  have htenant : (row.writeBack written cur).tenantId = row.tenantId :=
    (tenantId_of_fixed (ScanRow.writeBack_fixed.trans hfixed.symm))
  -- a scan that is not started leaves the numbers alone
  have hsame : ∀ tenant, ((row.writeBack written cur).runs tenant = true → cur.runs tenant = true) →
      (d.apply [(row, written)]).runningScans tenant ≤ d.runningScans tenant :=
    fun tenant hnot => runningScans_apply_same hcur hnot
  by_cases hr : written.status = .running
  · obtain ⟨hroomT, hroomE⟩ := hroom hr
    refine ⟨fun t => ?_, (runningScans_apply_le).trans hroomE⟩
    by_cases ht : t = row.tenantId
    · subst ht
      exact (runningScans_apply_le).trans hroomT
    refine (hsame (some t) fun hruns => ?_).trans (hlim.tenant t)
    simp only [ScanRow.runs, htenant, Option.all_some, Bool.and_eq_true, beq_iff_eq] at hruns
    exact absurd hruns.2.symm ht
  · have hnot : ∀ tenant, (row.writeBack written cur).runs tenant = true → cur.runs tenant = true := by
      intro tenant hruns
      simp only [ScanRow.runs, hstatus, Bool.and_eq_true, beq_iff_eq] at hruns
      exact absurd hruns.1 hr
    exact ⟨fun t => (hsame _ (hnot _)).trans (hlim.tenant t), (hsame _ (hnot _)).trans hlim.everywhere⟩

lemma Settings.Limited.mono (h : S.Limited d)
    (hle : ∀ tenant, d'.runningScans tenant ≤ d.runningScans tenant) : S.Limited d' :=
  ⟨fun t => (hle _).trans (h.tenant t), (hle _).trans h.everywhere⟩

lemma Settings.slots_follows {t t' : Session V J} {a : Input V} {G : Lock → Prop} (h : S.slots.holds t H d)
    (hf : S.Follows U a d t t') : S.slots.holds t' G d := by
  cases hf with
  | counted row _ => exact le_refl (d.runningScans none)
  | inactive row reason => exact fun hr => by cases hr
  | reserved row everywhere => exact fun hr => Settings.reserve_room h hr
  | flushed row written => exact h
  | begun req | checked req createdAt draft _ | free draft _ | allowed draft _ => trivial
  | other hother => cases t' <;> trivial

lemma Settings.slots_keptOn (S : Settings V J) : S.base.KeptOn S.slots (S.program U) where
  enter task d log _ _ := by cases task <;> trivial
  goOn t H a d log t' _ h hn := Settings.slots_follows h.2 (Settings.follows hn rfl)
  lock t H a d log x t' _ h hn := Settings.slots_follows h.2 (Settings.follows hn rfl)
  commit t H a d log d' es t' hd h hn := by
    refine ⟨?_, fun u hu => ?_⟩
    · rcases Settings.commit_start hd.1 h.1 hn with ⟨row, written, rfl, rfl⟩ | hc
      · exact Settings.limited_start h.1 hd.2 h.2
      · exact hd.2.mono fun _ => hc.runningScans_le
    -- a session that has just committed holds no lock
    have hu := (Settings.base_commit hd.1 h.1 hn).2 u hu
    cases u
    case startCount row everywhere => exact hu.1.elim
    case startFlush row written => exact hu.1.elim
    case startWritten row written => exact hu.1.elim
    all_goals trivial
  stable t H a d log d' es t' u G hd h hn hu hG := by
    rcases Settings.commit_start hd.1 h.1 hn with ⟨row, written, rfl, rfl⟩ | hc
    · -- no other session has the start lock
      have hstart := h.1.1
      cases u
      case startCount row everywhere => exact absurd hstart (hG _ hu.1.1)
      case startFlush row written => exact absurd hstart (hG _ hu.1.1)
      case startWritten row written => exact absurd hstart (hG _ hu.1.1)
      all_goals trivial
    · exact Settings.slots_mono hu.2 fun _ => hc.runningScans_le
  pass x d log hd := ⟨hd.2.tenant, hd.2.everywhere⟩
  passHolds x d log u G _ hu := Settings.slots_mono hu.2 fun _ => le_refl _

end Running

/-! ## Every run -/

section Runs

variable {S : Settings V J} {d₀ : Db V} {s : Store Lock (Db V) (Session V J)}
  {as : List (Action (Task V J) (Input V) Nat)} {log : List (Event J)}

lemma Settings.limited_of_none (hnone : ∀ row ∈ d₀.scans, row.status ≠ .running) : S.Limited d₀ := by
  have hzero : ∀ tenant, d₀.runningScans tenant = 0 := by
    intro tenant
    rw [Db.runningScans_eq, countP_eq_zero]
    intro row hrow hr
    simp only [ScanRow.runs, Bool.and_eq_true, beq_iff_eq] at hr
    exact hnone row hrow hr.1
  exact ⟨fun t => by rw [hzero]; exact Nat.zero_le _, by rw [hzero]; exact Nat.zero_le _⟩

/-- **The running scans stay within the limits**, of each tenant's plan and of the platform. -/
theorem running_scans_limited (hd : d₀.Sound) (hnone : ∀ row ∈ d₀.scans, row.status ≠ .running)
    (h : Run (S.program U).machine (Store.idle d₀) as s log) :
    (∀ tenant, s.data.runningScans (some tenant) ≤ S.scanConcurrencyLimit tenant) ∧
      s.data.runningScans none ≤ S.maxConcurrentScansGlobal := by
  have hgood := (Assertions.KeptOn.and S.base_kept S.slots_keptOn).run
    (Assertions.good_idle ⟨hd, Settings.limited_of_none hnone⟩) h
  exact ⟨hgood.inv.2.tenant, hgood.inv.2.everywhere⟩

/-- One scan is started. -/
theorem running_scans_limited_one : ∃ (s : Store Lock (Db Unit) (Session Unit Str)) (log : List (Event Str)),
      Run (oneSettings.program asciiUnicode).machine (Store.idle oneDb) (session 0 (.startScan 0) oneInput 7) s log ∧
      s.data.runningScans (some 1) = 1 ∧ s.data.runningScans (some 1) ≤ oneSettings.scanConcurrencyLimit 1 ∧
      s.data.runningScans none ≤ oneSettings.maxConcurrentScansGlobal := by
  refine Run.exists_of_exec (fun r => r.1.data.runningScans (some 1) == 1) (by decide +kernel)
    fun s log hrun hone => ?_
  obtain ⟨htenant, hall⟩ := running_scans_limited oneDb_sound (by decide) hrun
  exact ⟨beq_iff_eq.1 hone, htenant 1, hall⟩

end Runs

end App.Scans
