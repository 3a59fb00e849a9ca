import AttackSurface.Scans.Stages

/-!
# A cancelled scan

`try_start` reads the scan's status without its row lock and writes the new one when it
commits.  A cancellation that commits in between is overwritten: the scan runs again, and
with every stage cancelled it is finalized as completed (`cancelled_scan_completed`).

    every start commits on the status it read  →  a cancelled scan stays cancelled, is never
    finalized and never sets the baseline                        (cancelled_scan_stays)
-/

namespace App.Scans

open PyText AsmSensors Transactions Machines Option

variable {U : Unicode} {V J : Type}

/-! ## Starts and the other commits -/

section Commit

variable {S : Settings V J} {H : Lock → Prop} {d d' : Db V} {t : Session V J} {a : Input V}
  {es : List (Event J)} {t' : Option (Session V J)}

def withoutStart (H : Lock → Prop) : Lock → Prop := fun x => x ≠ .start ∧ H x

lemma Held.without_start {row : ScanRow V} (h : Held H d row) : Held (withoutStart H) d row :=
  ⟨⟨(fun he => by cases he), h.1⟩, h.2⟩

lemma Settings.commit_start (hd : d.Sound) (h : t.holds S.transport H d)
    (hn : S.next U t a d = some (.commit d' es t')) :
    (∃ row written, t = .startWritten row written ∧ d' = d.apply [(row, written)]) ∨
      Db.Commits (withoutStart H) d d' es := by
  have hwithout : t.holds S.transport (withoutStart H) d → Db.Commits (withoutStart H) d d' es :=
    fun h => (Settings.base_commit hd h hn).1
  cases t
  case startWritten row written =>
    cases hn
    exact .inl ⟨row, written, rfl, rfl⟩
  case startRefresh scan =>
    simp only [Settings.next] at hn
    split at hn <;> cases hn
  case startStages row =>
    simp only [Settings.next] at hn
    split at hn
    · cases hn
    · split at hn <;> cases hn
  case startCheck row =>
    simp only [Settings.next] at hn
    split at hn <;> cases hn
  case startCount row everywhere => cases hn
  case startFlush row written =>
    simp only [Settings.next] at hn
    split at hn <;> cases hn
  all_goals refine .inr (hwithout ?_)
  case advanceLocked row => exact h.without_start
  case cancelScanLocked row => exact h.without_start
  case dispatchFailedLocked row stage jobId => exact ⟨h.1.without_start, h.2⟩
  case stageFailedLocked row stage reason => exact ⟨h.1.without_start, h.2⟩
  case resultLocked sub env result stage row => exact ⟨h.1.without_start, h.2⟩
  case cancelTenant tenant held => exact fun r hr => ⟨(h r hr).1.without_start, (h r hr).2⟩
  all_goals exact h

def startsCurrent (t : Session V J) (d : Db V) : Bool :=
  match t with
  | .startWritten row _ => (d.scans[row.id]?).any fun cur => cur.status == row.status
  | _ => true

lemma Life.Works.active {l l' : Life} (hl : l.Wf) (h : l.Works l') : l.status.isActive = true := by
  by_cases hr : l.status = .running
  · rw [hr]
    rfl
  · exact (h.of_not_running hl hr).1

lemma RowStep.of_inactive {i : Nat} {cur new : ScanRow V} (h : RowStep (withoutStart H) i cur new)
    (hwf : cur.life.Wf) (hs : cur.status.isActive = false) : new.life = cur.life := by
  rcases h.life with h | h | h
  · exact h
  · have hactive := h.active hwf
    rw [show cur.life.status = cur.status from rfl, hs] at hactive
    cases hactive
  · exact absurd rfl h.1.1

/-- **What is not active stays as it is**, when starts commit on the status they read. -/
theorem Settings.inactive_kept (hd : d.Sound) (h : t.holds S.transport H d)
    (hn : S.next U t a d = some (.commit d' es t')) (hstart : startsCurrent t d = true) {i : Nat}
    {cur : ScanRow V} (hcur : d.scans[i]? = some cur) (hs : cur.status.isActive = false) :
    ∃ new, d'.scans[i]? = some new ∧ new.life = cur.life := by
  rcases Settings.commit_start hd h hn with ⟨row, written, rfl, rfl⟩ | hc
  · by_cases hi : row.id = i
    · -- the scan that is started was pending or queued, and still is
      subst hi
      obtain ⟨-, -, -, hstartable, -⟩ := h
      simp only [startsCurrent, hcur, any_some, beq_iff_eq] at hstart
      rw [hstart] at hs
      rcases hstartable with hp | hp <;> rw [hp] at hs <;> cases hs
    · exact ⟨cur, by rw [Db.getElem?_apply_other hi, hcur], rfl⟩
  · obtain ⟨new, hnew, hstep⟩ := hc.old i cur hcur
    exact ⟨new, hnew, hstep.of_inactive (hd.wf i cur hcur) hs⟩

end Commit

/-! ## Every run -/

def Settings.currentStarts (U : Unicode) (S : Settings V J) :
    Program Lock (Db V) (Session V J) (Task V J) (Input V) Nat (Event J) :=
  (S.program U).restrict fun t _ d => startsCurrent t d

/-- The events that end scan `i`. -/
def endsScan (i : Nat) : Event J → Prop
  | .finalized scan _ => scan = i
  | .baseline _ scan => scan = i
  | _ => False

section Runs

variable {S : Settings V J} {d₀ : Db V} {s s' : Store Lock (Db V) (Session V J)}
  {as as' : List (Action (Task V J) (Input V) Nat)} {log log' : List (Event J)}

lemma Db.Commits.not_ends {H : Lock → Prop} {d d' : Db V} {es : List (Event J)} (hc : Db.Commits H d d' es)
    {i : Nat} {cur : ScanRow V} (hcur : d.scans[i]? = some cur) (hs : cur.status ≠ .running) :
    ∀ e ∈ es, ¬ endsScan i e := by
  intro e he hend
  have htold := hc.told e he
  cases e with
  | entered _ _ _ | ingested _ _ _ => exact hend
  | finalized scan status | baseline organization scan =>
    cases hend
    obtain ⟨cur', -, hcur', -, hrun, -⟩ := htold
    rw [hcur] at hcur'
    cases hcur'
    exact hs hrun

/-- **A cancelled scan stays cancelled**, is not finalized and does not set the baseline, in every run
whose starts commit on the status they read. -/
theorem cancelled_scan_stays (hd : d₀.Sound)
    (h : Run (S.currentStarts U).machine (Store.idle d₀) as s log) {i : Nat} {row : ScanRow V}
    (hrow : s.data.scans[i]? = some row) (hcancelled : row.status = .cancelled)
    (h' : Run (S.currentStarts U).machine s as' s' log') :
    (∃ row', s'.data.scans[i]? = some row' ∧ row'.status = .cancelled) ∧ ∀ e ∈ log', ¬ endsScan i e := by
  have hkept := (S.base_kept (U := U)).restrict fun t _ d => startsCurrent t d
  have hgood : S.base.Good s [] := Settings.base_restart (hkept.run (Settings.base_idle hd) h)
  refine (hkept.invariant (fun d log => (∃ row', d.scans[i]? = some row' ∧ row'.status = .cancelled) ∧
    ∀ e ∈ log, ¬ endsScan i e) ?_ (fun _ _ _ hi => hi) hgood ⟨⟨row, hrow, hcancelled⟩, by simp⟩ h').2
  rintro t H a d log d' es t' hd ht hn ⟨⟨cur, hcur, hs⟩, hlog⟩
  obtain ⟨hstart, hn⟩ := Program.next_of_restrict hn
  obtain ⟨new, hnew, hlife⟩ := Settings.inactive_kept hd ht hn hstart hcur (by rw [hs]; rfl)
  have hnone := (Settings.base_commit hd ht hn).1.not_ends hcur (by rw [hs]; exact fun h => by cases h)
  refine ⟨⟨new, hnew, (congrArg Life.status hlife).trans hs⟩, fun e he => ?_⟩
  rcases List.mem_append.1 he with he | he
  · exact hlog e he
  · exact hnone e he

def Db.status? (d : Db V) (i : Nat) : Option ScanStatus := d.scans[i]?.map fun row => row.status

lemma Db.status?_eq_some {d : Db V} {i : Nat} {status : ScanStatus} (h : d.status? i = some status) :
    ∃ row, d.scans[i]? = some row ∧ row.status = status := map_eq_some_iff.1 h

/-- The scan is cancelled, and a start comes too late. -/
theorem cancelled_scan_stays_late :
    ∃ (s s' : Store Lock (Db Unit) (Session Unit Str)) (log log' : List (Event Str)),
      Run (oneSettings.currentStarts asciiUnicode).machine (Store.idle oneDb)
        (session 0 (.cancelScan 1 0) oneInput 2) s log ∧
      (∃ row, s.data.scans[0]? = some row ∧ row.status = .cancelled) ∧
      Run (oneSettings.currentStarts asciiUnicode).machine s (session 1 (.startScan 0) oneInput 3) s' log' ∧
      (∃ row, s'.data.scans[0]? = some row ∧ row.status = .cancelled) ∧ ∀ e ∈ log', ¬ endsScan 0 e := by
  have heval : ((oneSettings.currentStarts asciiUnicode).machine.exec (Store.idle oneDb)
      (session 0 (.cancelScan 1 0) oneInput 2)).any (fun r =>
        decide (r.1.data.status? 0 = some .cancelled) &&
        ((oneSettings.currentStarts asciiUnicode).machine.exec r.1
          (session 1 (.startScan 0) oneInput 3)).isSome) = true := by decide +kernel
  rw [Option.any_eq_true] at heval
  obtain ⟨⟨s, log⟩, hexec, heval⟩ := heval
  rw [Bool.and_eq_true, decide_eq_true_eq, isSome_iff_exists] at heval
  obtain ⟨hstatus, ⟨s', log'⟩, hexec'⟩ := heval
  obtain ⟨row, hrow, hs⟩ := Db.status?_eq_some hstatus
  have hrun := Run.of_exec hexec
  have hrun' := Run.of_exec hexec'
  obtain ⟨hstays, hnone⟩ := cancelled_scan_stays oneDb_sound hrun hrow hs hrun'
  exact ⟨s, s', log, log', hrun, ⟨row, hrow, hs⟩, hrun', hstays, hnone⟩

/-- **A cancelled scan is completed**: the cancellation commits while a start is about to write, and the
scan that runs again is finalized and sets the organization's baseline. -/
theorem cancelled_scan_completed :
    ∃ (s s' : Store Lock (Db Unit) (Session Unit Str)) (log log' : List (Event Str)),
      Run (oneSettings.program asciiUnicode).machine (Store.idle oneDb)
        (session 0 (.startScan 0) oneInput 5 ++ session 1 (.cancelScan 1 0) oneInput 2) s log ∧
      (∃ row, s.data.scans[0]? = some row ∧ row.status = .cancelled) ∧
      Run (oneSettings.program asciiUnicode).machine s
        (List.replicate 2 (.run 0 oneInput) ++ session 2 (.advanceScan 0) oneInput 2) s' log' ∧
      (∃ row, s'.data.scans[0]? = some row ∧ row.status = .completed) ∧
      s.data.baselines 0 = none ∧ s'.data.baselines 0 = some 0 := by
  have heval : ((oneSettings.program asciiUnicode).machine.exec (Store.idle oneDb)
      (session 0 (.startScan 0) oneInput 5 ++ session 1 (.cancelScan 1 0) oneInput 2)).any (fun r =>
        decide (r.1.data.status? 0 = some .cancelled) && decide (r.1.data.baselines 0 = none) &&
        ((oneSettings.program asciiUnicode).machine.exec r.1
          (List.replicate 2 (.run 0 oneInput) ++ session 2 (.advanceScan 0) oneInput 2)).any fun r' =>
          decide (r'.1.data.status? 0 = some .completed) && decide (r'.1.data.baselines 0 = some 0)) = true := by
    decide +kernel
  rw [Option.any_eq_true] at heval
  obtain ⟨⟨s, log⟩, hexec, heval⟩ := heval
  simp only [Bool.and_eq_true, decide_eq_true_eq, Option.any_eq_true] at heval
  obtain ⟨⟨hs, hnone⟩, ⟨s', log'⟩, hexec', hs', hsome⟩ := heval
  exact ⟨s, s', log, log', Run.of_exec hexec, Db.status?_eq_some hs, Run.of_exec hexec',
    Db.status?_eq_some hs', hnone, hsome⟩

end Runs

end App.Scans
