import AttackSurface.Scans.Admission
import AttackSurface.Scans.Results

/-!
# The first scan of an organization

The organization's baseline ends when one of its baseline scans is finalized as completed or
partial.  `finalize_scan` computes that from the stages' statuses, and a scan whose stages
were all skipped counts as completed: it ends the baseline without having seen anything
(`skipped_scan_ends_baseline`).

    every baseline scan that ends has a stage that ran  →  the baseline is set only by a scan
    with a completed or partial stage                                (baseline_observed)
-/

namespace App.Scans

open PyText AsmSensors Transactions Machines List

variable {U : Unicode} {V J : Type}

/-! ## What ended -/

def ran (U : Unicode) (p : Platform V) (targetOverride : List Str) (st : ScanStage V) : Bool :=
  succeeded st.status || st.status == .failed || (st.status == .pending &&
      !(authorizeStage U p targetOverride st).any fun auth => decide (auth.allowed = []))

def endsObserved (U : Unicode) (t : Session V J) (a : Input V) : Bool :=
  match t with
  | .advanceLocked row =>
    !row.isBaseline || (inactiveReason a.platform).isSome ||
      row.stages.any (ran U a.platform row.targetOverride)
  | _ => true

def Settings.observing (U : Unicode) (S : Settings V J) :
    Program Lock (Db V) (Session V J) (Task V J) (Input V) Nat (Event J) :=
  (S.program U).restrict fun t a _ => endsObserved U t a

/-- A scan that ends completed or partial, with a stage that ran, has one that succeeded. -/
lemma succeeded_of_finalStatus {stages : List StageStatus}
    (h : finalStatus stages = .completed ∨ finalStatus stages = .partially)
    (hran : ∃ st ∈ stages, succeeded st = true ∨ st = .failed) : ∃ st ∈ stages, succeeded st = true := by
  by_contra hnone
  push Not at hnone
  have hno : stages.any succeeded = false := by
    rw [List.any_eq_false]
    exact hnone
  obtain ⟨st, hst, hs | rfl⟩ := hran
  · exact hnone st hst hs
  have hfailed : stages.any (· == .failed) = true := List.any_eq_true.2 ⟨.failed, hst, rfl⟩
  unfold finalStatus at h
  simp [hno, hfailed] at h

section Commit

variable {S : Settings V J} {H : Lock → Prop} {d d' : Db V} {t : Session V J} {a : Input V}
  {es : List (Event J)} {t' : Option (Session V J)} {o i : Nat} {row : ScanRow V}

lemma finalizeScan_baseline {read prepared : ScanRow V} (h : d.finalizeScan read prepared = .commit d' es t')
    (he : Event.baseline o i ∈ es) : i = read.id ∧ prepared.endsBaseline d.clock = true := by
  unfold Db.finalizeScan at h
  simp only [Db.commitRows] at h
  split at h
  · next hends =>
    cases h
    have he := mem_of_mem_entered_append he fun _ _ _ he => by cases he
    rw [mem_append, mem_singleton] at he
    rcases he with he | he
    · split at he <;> simp at he
    · cases he
      exact ⟨rfl, hends⟩
  · cases h
    have he := mem_of_mem_entered_append he fun _ _ _ he => by cases he
    split at he <;> simp at he

lemma prepareNextStage_inactive {p : Platform V} {scan : Scan V} {jobId : Str} {now : Int} {r : Prepared U V}
    (h : prepareNextStage U p scan jobId now = some r) (hrun : scan.status = .running)
    (hp : (inactiveReason p).isSome = true) : r.scan.status = .cancelled := by
  unfold prepareNextStage at h
  rw [if_neg (not_not.2 hrun)] at h
  split at h
  · cases h
    rfl
  all_goals simp_all

lemma ran_finalize {l : Life} {st : StageLife} (hst : st ∈ l.stages)
    (hran : succeeded st.status = true ∨ st.status = .failed) :
    ∃ x ∈ l.finalize.stages.map StageLife.status, succeeded x = true ∨ x = .failed := by
  have hskip : st.skip = st := by
    unfold StageLife.skip
    rw [if_neg]
    intro hp
    rw [hp] at hran
    rcases hran with h | h <;> cases h
  refine ⟨st.status, List.mem_map.2 ⟨st, ?_, rfl⟩, hran⟩
  have hmem : st.skip ∈ l.finalize.stages := List.mem_map_of_mem hst
  rw [hskip] at hmem
  exact hmem

/-- **A baseline that is set has been observed**, if the scan had a stage that ran. -/
theorem Settings.baseline_observes (hd : d.Sound) (h : t.holds S.transport H d)
    (hn : S.next U t a d = some (.commit d' es t')) (hobs : endsObserved U t a = true)
    (he : Event.baseline o i ∈ es) :
    ∃ new, d'.scans[i]? = some new ∧ new.organizationId = o ∧ ∃ st ∈ new.life.stages, succeeded st.status = true := by
  obtain ⟨cur, new, hcur, hnew, -, -, horg, hlife, hstatus⟩ := (Settings.base_commit hd h hn).1.told _ he
  rcases Settings.event_next hn he (fun _ _ _ he => by cases he) with ⟨row, rfl, -⟩ | ⟨_, _, _, _, _, _, _, -, ⟨⟩⟩
  have hwf := Held.wf hd h
  obtain ⟨new', hnew', hstep⟩ := (Settings.base_commit hd h hn).1.old i cur hcur
  rw [hnew] at hnew'
  cases hnew'
  have hfix := hstep.fixed
  simp only [ScanRow.fixed, ScanRow.mk.injEq] at hfix
  refine ⟨new, hnew, hfix.2.1.trans horg, ?_⟩
  -- the step that finalizes
  simp only [Settings.next, Db.advanceScan, Option.some.injEq] at hn
  split at hn
  · cases hn
  next hrunning =>
  rw [not_not] at hrunning
  split at hn
  · cases hn
  split at hn
  · cases hn
  next prep hprep =>
  obtain ⟨hkept, hnext⟩ := prepareNextStage_life hprep hrunning hwf.distinctIds hwf.distinctPositions
  split at hn
  · cases hn
    cases mem_of_mem_entered_append he fun _ _ _ he => by cases he
  next hdisp =>
  rw [hdisp] at hnext
  obtain ⟨rfl, hends⟩ := finalizeScan_baseline hn he
  simp only [ScanRow.endsBaseline, Bool.and_eq_true, bne_iff_ne, ne_eq] at hends
  obtain ⟨-, cur', hcur', herase⟩ := h
  rw [hcur] at hcur'
  cases hcur'
  have hactive : (inactiveReason a.platform).isSome = false := by
    rw [Bool.eq_false_iff]
    exact fun hp => hends.1.1 (prepareNextStage_inactive hprep hrunning hp)
  rcases hnext with hcancel | ⟨-, htargets⟩
  · exact absurd (congrArg Life.status hcancel) hends.1.1
  -- a pending stage has no target, so another stage has run
  simp only [endsObserved, hactive, hends.1.2, Bool.not_true, Bool.or_false, Bool.false_or, List.any_eq_true] at hobs
  obtain ⟨st, hst, hran⟩ := hobs
  have hran' : succeeded st.status = true ∨ st.status = .failed := by
    simp only [ran, Bool.or_eq_true, Bool.and_eq_true, beq_iff_eq, Bool.not_eq_true'] at hran
    rcases hran with (hran | hran) | ⟨hp, hsome⟩
    · exact .inl hran
    · exact .inr hran
    obtain ⟨auth, hauth, hnone⟩ := htargets st hst hp
    rw [hauth] at hsome
    simp [hnone] at hsome
  have hmem : st.life ∈ cur.life.stages := by
    rw [← life_of_erase herase]
    exact List.mem_map_of_mem hst
  have hfinal : finalStatus (cur.life.finalize.stages.map StageLife.status) = new.status :=
    (congrArg Life.status hlife).symm
  obtain ⟨x, hx, hsucc⟩ := succeeded_of_finalStatus (by rw [hfinal]; exact hstatus) (ran_finalize hmem hran')
  obtain ⟨y, hy, rfl⟩ := List.mem_map.1 hx
  exact ⟨y, by rw [hlife]; exact hy, hsucc⟩

/-! ## Scans of an organization without a baseline -/

lemma checkCreate_ok {p : Platform V} {profile : Option (Profile V)} {internal planAllows isBaseline : Bool}
    {createdAt : Int} {req : CreateRequest V} {draft : Draft V}
    (h : checkCreate U p profile internal planAllows createdAt isBaseline req = .ok draft) :
    draft.request = req ∧ draft.isBaseline = isBaseline := by
  unfold checkCreate at h
  dsimp only at h
  split at h
  · cases h
  split at h
  · cases h
  split at h
  · cases h
  split at h
  · cases h
  split at h
  · cases h
  split at h
  · cases h
  split at h
  · cases h
  split at h <;> cases h
  exact ⟨rfl, rfl⟩

def Draft.First (d : Db V) (draft : Draft V) : Prop :=
  d.baselines draft.request.organizationId = none → draft.isBaseline = true

/-- The scans from index `n` on are baseline scans as long as their organization has no baseline. -/
def firsts (n : Nat) : Assertions Lock (Db V) (Session V J) (Event J) where
  inv d _ := ∀ (i : Nat) (row : ScanRow V), n ≤ i → d.scans[i]? = some row →
    d.baselines row.organizationId = none → row.isBaseline = true
  holds t _ d :=
    match t with
    | .createAdmitted draft | .createFree draft | .createAllowed draft => draft.First d
    | _ => True

lemma Db.Commits.baseline_none (hc : Db.Commits H d d' es) (h : d'.baselines o = none) : d.baselines o = none := by
  by_contra hne
  have hsome := (hc.baselines o fun he => hne (he ▸ h)).1
  rw [h] at hsome
  cases hsome

lemma firsts_mono {n : Nat} {u : Session V J} {G : Lock → Prop} (h : (firsts n).holds u G d)
    (hnone : ∀ o, d'.baselines o = none → d.baselines o = none) : (firsts n).holds u G d' := by
  cases u
  case createAdmitted draft => exact fun hb => h (hnone _ hb)
  case createFree draft => exact fun hb => h (hnone _ hb)
  case createAllowed draft => exact fun hb => h (hnone _ hb)
  all_goals trivial

lemma firsts_follows {n : Nat} {u : Session V J} {G : Lock → Prop} (h : (firsts n).holds t H d)
    (hf : S.Follows U a d t u) : (firsts n).holds u G d := by
  cases hf with
  | counted row _ | inactive row reason | reserved row everywhere | flushed row written | begun req => trivial
  | checked req createdAt draft hok =>
    intro hb
    obtain ⟨hreq, hbase⟩ := checkCreate_ok hok
    rw [hbase, ← hreq, hb]
    rfl
  | free draft _ | allowed draft _ => exact h
  | other hother => cases u <;> trivial

lemma isBaseline_of_fixed {x y : ScanRow V} (h : x.fixed = y.fixed) :
    x.isBaseline = y.isBaseline ∧ x.organizationId = y.organizationId := by
  simp only [ScanRow.fixed, ScanRow.mk.injEq] at h
  exact ⟨h.2.2.2.1, h.2.1⟩

lemma firsts_commit {n : Nat} {log : List (Event J)} (hd : d.Sound) (ht : t.holds S.transport H d)
    (hinv : (firsts n).inv d log) (h : (firsts n).holds t H d) (hn : S.next U t a d = some (.commit d' es t')) :
    (firsts n).inv d' (log ++ es) := by
  have hc := (Settings.base_commit hd ht hn).1
  intro i new hi hnew hb
  have hb' := hc.baseline_none hb
  rcases hc.row hnew with ⟨cur, hcur, hstep⟩ | ⟨hnone, -, -⟩
  · obtain ⟨hbase, horg⟩ := isBaseline_of_fixed hstep.fixed
    rw [hbase]
    exact hinv i cur hi hcur (by rw [← horg]; exact hb')
  -- the row is the one that has just been inserted
  rcases Settings.commit_created hn with ⟨draft, rfl⟩ | hlen
  · simp only [Settings.next, Settings.insertScan, Option.some.injEq] at hn
    split at hn <;> cases hn
    rw [List.getElem?_eq_none_iff] at hnone
    rw [getElem?_append_right hnone] at hnew
    have hrow := mem_of_getElem? hnew
    rw [mem_singleton] at hrow
    subst hrow
    exact h hb'
  · obtain ⟨hlt, -⟩ := List.getElem?_eq_some_iff.1 hnew
    rw [List.getElem?_eq_none_iff] at hnone
    omega

lemma firsts_keptOn (S : Settings V J) (n : Nat) : S.base.KeptOn (firsts n) (S.program U) where
  enter task d log _ _ := by cases task <;> trivial
  goOn t H a d log t' _ h hn := firsts_follows h.2 (Settings.follows hn rfl)
  lock t H a d log x t' _ h hn := firsts_follows h.2 (Settings.follows hn rfl)
  commit t H a d log d' es t' hd h hn := by
    refine ⟨firsts_commit hd.1 h.1 hd.2 h.2 hn, fun u hu => ?_⟩
    cases hu
    -- a task goes on after a commit only to publish the job
    cases t
    case advanceLocked row =>
      simp only [Settings.program, Settings.next, Db.advanceScan, Db.finalizeScan, Db.commitRows] at hn
      (repeat' split at hn) <;> first
        | (cases hn; trivial)
        | cases hn
    all_goals
      simp only [Settings.program, Settings.next, Settings.receiveResult, Settings.completeStage,
        Settings.failStage, Settings.insertScan, Db.lockScan, Db.commitRows] at hn
      (repeat' split at hn) <;> cases hn
  stable t H a d log d' es t' u G hd h hn hu _ :=
    firsts_mono hu.2 fun _ hb => (Settings.base_commit hd.1 h.1 hn).1.baseline_none hb
  pass x d log hd := hd.2
  passHolds x d log u G _ hu := firsts_mono hu.2 fun _ hb => hb

end Commit

/-! ## Every run -/

section Runs

variable {S : Settings V J} {d₀ : Db V} {s : Store Lock (Db V) (Session V J)}
  {as : List (Action (Task V J) (Input V) Nat)} {log : List (Event J)}

/-- What the log says about the baselines. -/
structure BaselineLog (d₀ d : Db V) (log : List (Event J)) : Prop where
  set : ∀ o, d.baselines o ≠ d₀.baselines o → ∃ i, Event.baseline o i ∈ log
  observed : ∀ o i, Event.baseline o i ∈ log → ∃ row, d.scans[i]? = some row ∧ row.organizationId = o ∧
    ∃ st ∈ row.life.stages, succeeded st.status = true

lemma isDone_of_succeeded {st : StageStatus} (h : succeeded st = true) : st.isDone = true := by
  cases st <;> first | rfl | cases h

lemma BaselineLog.commit {H : Lock → Prop} {d d' : Db V} {t : Session V J} {a : Input V} {es : List (Event J)}
    {t' : Option (Session V J)} (hl : BaselineLog d₀ d log) (hd : d.Sound) (ht : t.holds S.transport H d)
    (hn : S.next U t a d = some (.commit d' es t')) (hobs : endsObserved U t a = true) :
    BaselineLog d₀ d' (log ++ es) := by
  have hc := (Settings.base_commit hd ht hn).1
  constructor
  · intro o ho
    by_cases hsame : d'.baselines o = d.baselines o
    · rw [hsame] at ho
      obtain ⟨i, hi⟩ := hl.set o ho
      exact ⟨i, mem_append_left _ hi⟩
    · obtain ⟨-, i, hi⟩ := hc.baselines o hsame
      exact ⟨i, mem_append_right _ hi⟩
  intro o i he
  rcases mem_append.1 he with he | he
  · obtain ⟨cur, hcur, horg, st, hst, hsucc⟩ := hl.observed o i he
    obtain ⟨new, hnew, hstep⟩ := hc.old i cur hcur
    obtain ⟨st', hst', hlater⟩ := (hstep.onward (hd.wf i cur hcur)).later hst
    refine ⟨new, hnew, (isBaseline_of_fixed hstep.fixed).2.trans horg, st', hst', ?_⟩
    rw [hlater.status.eq_of_isDone (isDone_of_succeeded hsucc)]
    exact hsucc
  · exact Settings.baseline_observes hd ht hn hobs he

/-- **The baseline is set only by a scan with a completed or partial stage**, and until then every new scan
is a baseline scan, in every run that ends no baseline scan without a stage that ran. -/
theorem baseline_observed (hd : d₀.Sound) (h : Run (S.observing U).machine (Store.idle d₀) as s log) :
    (∀ o, s.data.baselines o ≠ d₀.baselines o → ∃ i, Event.baseline o i ∈ log) ∧
    (∀ o i, Event.baseline o i ∈ log → ∃ row, s.data.scans[i]? = some row ∧ row.organizationId = o ∧
      ∃ st ∈ row.stages, st.status = .completed ∨ st.status = .partially) ∧
    ∀ (i : Nat) (row : ScanRow V), d₀.scans.length ≤ i → s.data.scans[i]? = some row →
      s.data.baselines row.organizationId = none → row.isBaseline = true := by
  have hkept := (Assertions.KeptOn.and (S.base_kept (U := U)) (firsts_keptOn S d₀.scans.length)).restrict
    fun t a _ => endsObserved U t a
  have hempty : (firsts (J := J) d₀.scans.length).inv d₀ [] := by
    intro i row hi hrow
    obtain ⟨hlt, -⟩ := List.getElem?_eq_some_iff.1 hrow
    omega
  obtain ⟨hgood, hlog⟩ := hkept.invariant (BaselineLog d₀)
    (fun t H a d log d' es t' hd ht hn hi =>
      hi.commit hd.1 ht.1 (Program.next_of_restrict hn).2 (Program.next_of_restrict hn).1)
    (fun _ _ _ hi => ⟨hi.set, hi.observed⟩) (Assertions.good_idle ⟨hd, hempty⟩)
    ⟨fun o ho => absurd rfl ho, fun o i he => by cases he⟩ h
  refine ⟨hlog.set, fun o i he => ?_, hgood.inv.2⟩
  obtain ⟨row, hrow, horg, st, hst, hsucc⟩ := hlog.observed o i he
  obtain ⟨x, hx, rfl⟩ := List.mem_map.1 hst
  refine ⟨row, hrow, horg, x, hx, ?_⟩
  simpa [succeeded, ScanStage.life] using hsucc

/-- A scan resolves a name, and ends the baseline. -/
theorem baseline_observed_dnsx : ∃ (s : Store Lock (Db Unit) (Session Unit Str)) (log : List (Event Str)),
      Run (oneSettings.observing asciiUnicode).machine (Store.idle oneDb)
        (oneResult ++ [.run 1 oneInput] ++ session 2 (.advanceScan 0) oneInput 2) s log ∧
      s.data.baselines 0 = some 0 ∧ ∃ i, Event.baseline 0 i ∈ log ∧ ∃ row, s.data.scans[i]? = some row ∧
        ∃ st ∈ row.stages, st.status = .completed ∨ st.status = .partially := by
  refine Run.exists_of_exec (fun r => decide (r.1.data.baselines 0 = some 0)) (by decide +kernel)
    fun s log hrun hset => ?_
  have hset := of_decide_eq_true hset
  obtain ⟨hevent, hobserved, -⟩ := baseline_observed oneDb_sound hrun
  obtain ⟨i, hi⟩ := hevent 0 (by rw [hset]; exact fun h => by cases h)
  obtain ⟨row, hrow, -, hst⟩ := hobserved 0 i hi
  exact ⟨hset, i, hi, row, hrow, hst⟩

def emptyInput : Input Unit :=
  { oneInput with
    platform :=
      { onePlatform with
        inventory :=
          { assets := []
            scopeEntries := [{ id := some 1, entryType := .ip, value := "8.8.8.8".toList }] } } }

/-- **A scan whose only stage was skipped ends the baseline.** -/
theorem skipped_scan_ends_baseline : ∃ (s : Store Lock (Db Unit) (Session Unit Str)) (log : List (Event Str)),
      Run (oneSettings.program asciiUnicode).machine (Store.idle oneDb)
        (session 0 (.startScan 0) oneInput 7 ++ session 0 (.advanceScan 0) emptyInput 2) s log ∧
      s.data.baselines 0 = some 0 ∧ ∀ row ∈ s.data.scans, ∀ st ∈ row.stages, st.status = .skipped := by
  refine Run.exists_of_exec (fun r => decide (r.1.data.baselines 0 = some 0) &&
    r.1.data.scans.all fun row => row.stages.all fun st => decide (st.status = .skipped)) (by decide +kernel)
    fun s log _ heval => ?_
  simpa only [Bool.and_eq_true, decide_eq_true_eq, List.all_eq_true] using heval

end Runs

end App.Scans
