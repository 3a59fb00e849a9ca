import AttackSurface.Scans.Sessions

/-!
# What a commit can do to a scan

The assertions of the sessions: a session that read a scan `FOR UPDATE` sees it as it is,
up to `dispatched_at`; a start sees it as it is or as it was before it was cancelled.  From
them, every commit takes each scan a step on in its life, or leaves it alone.

    d.Sound  →  Db.Commits H d d' es  →  d'.Sound    (Db.Commits.sound)
-/

namespace App.Scans

open PyText AsmSensors Transactions List Function

variable {V J : Type}

/-! ## Written rows -/

section Written

variable {rs ws cs : List (ScanStage V)} {read written current : ScanRow V}

lemma writeBackStages_life (hrc : rs.map ScanStage.life = cs.map ScanStage.life)
    (hw : ws.map ScanStage.fixed = rs.map ScanStage.fixed) :
    (writeBackStages rs ws cs).map ScanStage.life = ws.map ScanStage.life := by
  induction rs generalizing ws cs with
  | nil => simp_all [writeBackStages]
  | cons r rs ih =>
    cases ws with
    | nil => simp at hw
    | cons w ws =>
      cases cs with
      | nil => simp at hrc
      | cons c cs =>
        simp only [map_cons, cons.injEq] at hrc hw
        simp only [writeBackStages, map_cons, cons.injEq]
        refine ⟨?_, ih hrc.2 hw.2⟩
        have hl := hrc.1
        have hf := hw.1
        simp only [ScanStage.life, StageLife.mk.injEq] at hl
        simp only [ScanStage.fixed, ScanStage.mk.injEq] at hf
        simp [ScanStage.life, ScanStage.writeBack, hl, hf, writeBack_read]

/-- A session that sees the scan's statuses as they are writes the statuses it computed. -/
lemma life_writeBack (hrc : read.life = current.life) (hw : written.fixed = read.fixed) :
    (read.writeBack written current).life = written.life := by
  simp only [ScanRow.life, Scan.life, Life.mk.injEq] at hrc
  simp only [ScanRow.fixed, ScanRow.mk.injEq, Scan.mk.injEq] at hw
  simp only [ScanRow.life, Scan.life, ScanRow.writeBack, Life.mk.injEq]
  exact ⟨by rw [hrc.1, writeBack_read], writeBackStages_life hrc.2 hw.1.2.2.2.2.1⟩

lemma writeBackStages_unchanged : (writeBackStages rs rs cs).map ScanStage.life = cs.map ScanStage.life := by
  have h : (writeBackStages rs rs cs).map ScanStage.erase = cs.map ScanStage.erase :=
    writeBackStages_of_erase rfl
  have := congrArg (List.map ScanStage.life) h
  rw [List.map_map, List.map_map] at this
  exact this

lemma life_writeBack_status {s : ScanStatus} (hs : s ≠ read.status) (hstatus : written.status = s)
    (hstages : written.stages = read.stages) :
    (read.writeBack written current).life = { current.life with status := s } := by
  simp only [ScanRow.life, Scan.life, ScanRow.writeBack, Life.mk.injEq, hstages, hstatus]
  refine ⟨?_, writeBackStages_unchanged⟩
  unfold Transactions.writeBack
  rw [if_neg hs]

lemma writeBackStages_cancel {now : Int} (hrc : cs.map ScanStage.life = rs.map fun st => st.life.cancel) :
    (writeBackStages rs (rs.map (ScanStage.cancel now)) cs).map ScanStage.life = cs.map ScanStage.life := by
  induction rs generalizing cs with
  | nil => simp [writeBackStages]
  | cons r rs ih =>
    cases cs with
    | nil => simp at hrc
    | cons c cs =>
      simp only [map_cons, cons.injEq] at hrc
      simp only [map_cons, writeBackStages, cons.injEq]
      refine ⟨?_, ih hrc.2⟩
      have hc := congrArg StageLife.status hrc.1
      have hw := congrArg StageLife.status (ScanStage.life_cancel now r)
      simp only [ScanStage.life] at hc hw
      simp only [ScanStage.life, ScanStage.writeBack, StageLife.mk.injEq, true_and, hw, hc]
      unfold Transactions.writeBack
      split <;> rfl

end Written

/-! ## What the bodies compute -/

section Bodies

variable {row : ScanRow V} {st x : ScanStage V}

lemma fixed_cancel (reason : Option InactiveReason) (now : Int) : (row.cancel reason now).fixed = row.fixed := by
  simp only [ScanRow.fixed, ScanRow.cancel, List.map_map, ScanRow.mk.injEq, Scan.mk.injEq, and_true, true_and]
  exact map_congr_left fun st _ => ScanStage.fixed_cancel now st

lemma life_cancel (reason : Option InactiveReason) (now : Int) :
    (row.cancel reason now).life = row.life.cancel := by
  simp only [ScanRow.life, Scan.life, ScanRow.cancel, Life.cancel, List.map_map, Life.mk.injEq, true_and]
  exact map_congr_left fun st _ => ScanStage.life_cancel now st

lemma fixed_setStage (hids : DistinctIds row.stages) (hst : st ∈ row.stages) (hx : x.fixed = st.fixed) :
    (row.setStage x).fixed = row.fixed := by
  simp only [ScanRow.fixed, ScanRow.setStage, setStage_stages, List.map_map, ScanRow.mk.injEq,
    Scan.mk.injEq, and_true, true_and]
  refine map_congr_left fun y hy => ?_
  by_cases hid : y.id = st.id
  · rw [hids.eq hy hst hid, comp_apply, replaceStage_self (id_of_fixed hx).symm, hx]
  · rw [comp_apply, replaceStage_other (by rwa [id_of_fixed hx])]

lemma position_of_fixed {a b : ScanStage V} (h : a.fixed = b.fixed) : a.position = b.position := by
  simp only [ScanStage.fixed, ScanStage.mk.injEq] at h
  exact h.2.1

lemma life_setStage (hids : DistinctIds row.stages) (hst : st ∈ row.stages) (hx : x.fixed = st.fixed) :
    (row.setStage x).life = row.life.endStage st.id x.status := by
  simp only [ScanRow.life, Scan.life, ScanRow.setStage, setStage_stages, Life.endStage, List.map_map,
    Life.mk.injEq, true_and]
  refine map_congr_left fun y hy => ?_
  by_cases hid : y.id = st.id
  · rw [hids.eq hy hst hid, comp_apply, replaceStage_self (id_of_fixed hx).symm]
    simp [ScanStage.life, StageLife.finish, id_of_fixed hx, position_of_fixed hx]
  · rw [comp_apply, replaceStage_other (by rwa [id_of_fixed hx])]
    simp [ScanStage.life, StageLife.finish, hid]

lemma mem_of_stage? {id : Nat} (h : row.stage? id = some st) : st ∈ row.stages ∧ st.id = id := by
  unfold ScanRow.stage? at h
  exact ⟨mem_of_find?_eq_some h, by simpa using find?_some h⟩

lemma finalize_life {now : Int} {l : Life} (hs : row.status ≠ .cancelled) (hl : row.life = l.skipAll) :
    (row.finalize now).life = l.finalize := by
  unfold ScanRow.finalize
  rw [if_neg hs]
  have hstages := congrArg Life.stages hl
  simp only [ScanRow.life, Scan.life] at hstages
  simp only [ScanRow.life, Scan.life, Life.finalize, Life.mk.injEq, hstages, and_true]
  rw [← hstages, List.map_map]
  rfl

lemma fixed_finalize (now : Int) : (row.finalize now).fixed = row.fixed := by
  unfold ScanRow.finalize
  split <;> rfl

end Bodies

/-! ## Steps of a row -/

/-- What a commit of a session with the locks `H` does to scan `i`. -/
structure RowStep (H : Lock → Prop) (i : Nat) (cur new : ScanRow V) : Prop where
  fixed : new.fixed = cur.fixed
  locked : new.erase = cur.erase ∨ H (.row i)
  life : new.life = cur.life ∨ cur.life.Works new.life ∨ (H .start ∧ cur.life.Starts new.life)

section RowStep

variable {H : Lock → Prop} {i : Nat} {read written cur new : ScanRow V}

lemma RowStep.refl : RowStep H i cur cur := ⟨rfl, .inl rfl, .inl rfl⟩

lemma RowStep.step (h : RowStep H i cur new) : new.life = cur.life ∨ cur.life.Step new.life := by
  rcases h.life with h | h | h
  · exact .inl h
  · exact .inr (.inl h)
  · exact .inr (.inr h.2)

lemma RowStep.wf (h : RowStep H i cur new) (hcur : cur.life.Wf) : new.life.Wf := by
  rcases h.step with h | h
  · rw [h]
    exact hcur
  · exact h.wf hcur

lemma RowStep.of_held (hrow : H (.row i)) (hrc : read.erase = cur.erase) (hw : written.fixed = read.fixed)
    (hl : written.life = read.life ∨ read.life.Works written.life) :
    RowStep H i cur (read.writeBack written cur) where
  fixed := ScanRow.writeBack_fixed
  locked := .inr hrow
  life := by
    rw [life_writeBack (life_of_erase hrc) hw, ← life_of_erase hrc]
    rcases hl with hl | hl
    · exact .inl hl
    · exact .inr (.inl hl)

/-- `dispatched_at` is written without the lock. -/
lemma RowStep.of_erase (hw : written.erase = read.erase) : RowStep H i cur (read.writeBack written cur) where
  fixed := ScanRow.writeBack_fixed
  locked := .inl (ScanRow.writeBack_of_erase hw)
  life := .inl (life_of_erase (ScanRow.writeBack_of_erase hw))

end RowStep

/-- What a start makes of the row it read: it takes a slot, waits for one, or cancels the scan. -/
inductive StartWrite (row written : ScanRow V) : Prop
  | status : written.fixed = row.fixed → written.stages = row.stages →
      written.status = .running ∨ written.status = .queued → StartWrite row written
  | cancel (reason : InactiveReason) (now : Int) : written = row.cancel (some reason) now →
      StartWrite row written

/-- The row as a start knows it: as it is, or as it was before it was cancelled. -/
def Behind (row cur : ScanRow V) : Prop := cur.life = row.life ∨ cur.life = row.life.cancel

def Startable (row : ScanRow V) : Prop := row.status = .pending ∨ row.status = .queued

lemma RowStep.of_start {H : Lock → Prop} {row written cur : ScanRow V} (hs : H .start)
    (hrow : H (.row row.id)) (hstartable : Startable row) (hb : Behind row cur)
    (hw : StartWrite row written) (hne : written.status ≠ row.status) :
    RowStep H row.id cur (row.writeBack written cur) where
  fixed := ScanRow.writeBack_fixed
  locked := .inr hrow
  life := by
    cases hw with
    | status hfixed hstages hstatus =>
      have hlife : (row.writeBack written cur).life = { cur.life with status := written.status } :=
        life_writeBack_status hne rfl hstages
      refine .inr (.inr ⟨hs, ?_⟩)
      rw [hlife]
      rcases hb with hb | hb
      · exact .start _ (by rw [hb]; exact hstartable) hstatus
      · exact .revive _ (by rw [hb]; rfl) hstatus
    | cancel reason now h =>
      subst h
      rcases hb with hb | hb
      · rw [life_writeBack hb.symm (fixed_cancel _ _), life_cancel, hb]
        refine .inr (.inl (.cancel ?_))
        rcases hstartable with h | h <;> simp [ScanRow.life, Scan.life, h, ScanStatus.isActive]
      -- already cancelled by another session
      refine .inl ?_
      simp only [ScanRow.life, Scan.life, Life.cancel, Life.mk.injEq, List.map_map] at hb
      simp only [ScanRow.life, Scan.life, ScanRow.writeBack, ScanRow.cancel, Life.mk.injEq]
      refine ⟨?_, writeBackStages_cancel hb.2⟩
      rw [hb.1]
      unfold Transactions.writeBack
      split <;> rfl

/-! ## Commits of the database -/

def Db.HasStage (d : Db V) (scan stage : Nat) : Prop :=
  ∃ row, d.scans[scan]? = some row ∧ ∃ st ∈ row.stages, st.id = stage

/-- What holds of the database between commits. -/
structure Db.Sound (d : Db V) : Prop where
  index : ∀ (i : Nat) (row : ScanRow V), d.scans[i]? = some row → row.id = i
  wf : ∀ (i : Nat) (row : ScanRow V), d.scans[i]? = some row → row.life.Wf
  /-- the watchdog's messages name a stage with its own scan -/
  failures : ∀ f ∈ d.failures, d.HasStage f.1 f.2.1

/-- A scan that has just been created. -/
structure Life.New (l : Life) : Prop where
  status : l.status = .pending
  ids : (l.stages.map StageLife.id).Nodup
  positions : (l.stages.map StageLife.position).Nodup
  pending : ∀ st ∈ l.stages, st.status = .pending

lemma Life.New.wf {l : Life} (h : l.New) : l.Wf where
  ids := h.ids
  positions := h.positions
  running st hst hr := by
    rw [h.pending st hst] at hr
    cases hr
  single a ha _ _ hr _ := by
    rw [h.pending a ha] at hr
    cases hr
  done hs := by
    rw [h.status] at hs
    cases hs

def enteredOf (es : List (Event J)) : List (Nat × Nat × Int) := es.filterMap fun
    | .entered scan stage position => some (scan, stage, position)
    | _ => none

def ingestedOf (es : List (Event J)) : List (Nat × Nat) := es.filterMap fun
    | .ingested scan stage _ => some (scan, stage)
    | _ => none

def Told (d d' : Db V) : Event J → Prop
  | .entered _ _ _ => True
  | .ingested i s _ => ∃ cur new, d.scans[i]? = some cur ∧ d'.scans[i]? = some new ∧
      (∃ x ∈ cur.life.stages, x.id = s ∧ x.status = .running) ∧
      ∃ y ∈ new.life.stages, y.id = s ∧ y.status.isDone = true
  | .finalized i s => ∃ cur new, d.scans[i]? = some cur ∧ d'.scans[i]? = some new ∧
      cur.status = .running ∧ new.life = cur.life.finalize ∧ new.status = s
  | .baseline o i => ∃ cur new, d.scans[i]? = some cur ∧ d'.scans[i]? = some new ∧
      cur.status = .running ∧ cur.isBaseline = true ∧ cur.organizationId = o ∧
      new.life = cur.life.finalize ∧ (new.status = .completed ∨ new.status = .partially)

/-- What a commit of a session with the locks `H` does. -/
structure Db.Commits (H : Lock → Prop) (d d' : Db V) (es : List (Event J)) : Prop where
  old : ∀ (i : Nat) (cur : ScanRow V), d.scans[i]? = some cur → ∃ new, d'.scans[i]? = some new ∧ RowStep H i cur new
  added : ∀ (i : Nat) (new : ScanRow V), d.scans[i]? = none → d'.scans[i]? = some new → new.id = i ∧ new.life.New
  failures : ∀ f ∈ d'.failures, f ∈ d.failures ∨ d.HasStage f.1 f.2.1
  entered : enteredOf es = [] ∨ ∃ i cur new x, d.scans[i]? = some cur ∧ d'.scans[i]? = some new ∧
    cur.life.Sends new.life x ∧ enteredOf es = [(i, x.id, x.position)]
  told : ∀ e ∈ es, Told d d' e
  once : (ingestedOf es).length ≤ 1
  baselines : ∀ o, d'.baselines o ≠ d.baselines o →
    (d'.baselines o).isSome = true ∧ ∃ i, Event.baseline o i ∈ es

section Commits

variable {H : Lock → Prop} {d d' : Db V} {es : List (Event J)}

variable {a b : ScanRow V}

lemma id_of_fixed_row (h : a.fixed = b.fixed) : a.id = b.id := by
  simp only [ScanRow.fixed, ScanRow.mk.injEq, Scan.mk.injEq] at h
  exact h.1.1

lemma stageIds_of_fixed (h : a.fixed = b.fixed) : a.stages.map ScanStage.id = b.stages.map ScanStage.id := by
  simp only [ScanRow.fixed, ScanRow.mk.injEq, Scan.mk.injEq] at h
  have hids := congrArg (List.map ScanStage.id) h.1.2.2.2.2.1
  rw [List.map_map, List.map_map] at hids
  exact hids

lemma hasStage_of_fixed {stage : Nat} (h : a.fixed = b.fixed)
    (hst : ∃ st ∈ a.stages, st.id = stage) : ∃ st ∈ b.stages, st.id = stage := by
  have hmem : stage ∈ a.stages.map ScanStage.id := by
    obtain ⟨st, hst, rfl⟩ := hst
    exact List.mem_map_of_mem hst
  rw [stageIds_of_fixed h] at hmem
  exact List.mem_map.1 hmem

lemma Db.Commits.hasStage (h : Db.Commits H d d' es) {scan stage : Nat} (hs : d.HasStage scan stage) :
    d'.HasStage scan stage := by
  obtain ⟨row, hrow, hst⟩ := hs
  obtain ⟨new, hnew, hstep⟩ := h.old scan row hrow
  exact ⟨new, hnew, hasStage_of_fixed hstep.fixed.symm hst⟩

lemma Db.Commits.row (h : Db.Commits H d d' es) {i : Nat} {new : ScanRow V} (hnew : d'.scans[i]? = some new) :
    (∃ cur, d.scans[i]? = some cur ∧ RowStep H i cur new) ∨
      (d.scans[i]? = none ∧ new.id = i ∧ new.life.New) := by
  cases hcur : d.scans[i]? with
  | none => exact .inr ⟨rfl, h.added i new hcur hnew⟩
  | some cur =>
    obtain ⟨new', hnew', hstep⟩ := h.old i cur hcur
    rw [hnew] at hnew'
    cases hnew'
    exact .inl ⟨cur, rfl, hstep⟩

/-- **Commits keep a database sound.** -/
theorem Db.Commits.sound (hd : d.Sound) (h : Db.Commits H d d' es) : d'.Sound where
  index i new hnew := by
    rcases h.row hnew with ⟨cur, hcur, hstep⟩ | ⟨-, hid, -⟩
    · rw [id_of_fixed_row hstep.fixed, hd.index i cur hcur]
    · exact hid
  wf i new hnew := by
    rcases h.row hnew with ⟨cur, hcur, hstep⟩ | ⟨-, -, hl⟩
    · exact hstep.wf (hd.wf i cur hcur)
    · exact hl.wf
  failures f hf := by
    rcases h.failures f hf with hf | hf
    · exact h.hasStage (hd.failures f hf)
    · exact h.hasStage hf

end Commits

/-! ## Commits of rows -/

section Rows

variable {H : Lock → Prop} {d d' : Db V} {ws : List (ScanRow V × ScanRow V)} {es : List (Event J)}

lemma Db.getElem?_apply (i : Nat) : (d.apply ws).scans[i]? = d.scans[i]?.map (flushRow ws i) := by
  rw [Db.apply, getElem?_mapIdx]

lemma Db.getElem?_apply_single {read written cur : ScanRow V} (hcur : d.scans[read.id]? = some cur) :
    (d.apply [(read, written)]).scans[read.id]? = some (read.writeBack written cur) := by
  rw [Db.getElem?_apply, hcur]
  simp [flushRow]

lemma Db.getElem?_apply_other {read written : ScanRow V} {i : Nat} (hi : read.id ≠ i) :
    (d.apply [(read, written)]).scans[i]? = d.scans[i]? := by
  have hsame : flushRow [(read, written)] i = id := by
    funext cur
    simp [flushRow, hi]
  rw [Db.getElem?_apply, hsame, Option.map_id_fun, id]

def RowSteps (H : Lock → Prop) (d : Db V) (ws : List (ScanRow V × ScanRow V)) : Prop :=
  ∀ rw ∈ ws, ∀ cur, d.scans[rw.1.id]? = some cur → RowStep H rw.1.id cur (rw.1.writeBack rw.2 cur)

lemma RowSteps.old (h : RowSteps H d ws) {i : Nat} {cur : ScanRow V} (hcur : d.scans[i]? = some cur) :
    ∃ new, (d.apply ws).scans[i]? = some new ∧ RowStep H i cur new := by
  rw [Db.getElem?_apply, hcur]
  refine ⟨_, rfl, ?_⟩
  unfold flushRow
  cases hf : ws.find? fun rw => rw.1.id = i with
  | none => exact .refl
  | some rw =>
    have hid : rw.1.id = i := by simpa using find?_some hf
    subst hid
    exact h rw (mem_of_find?_eq_some hf) cur hcur

lemma enteredOf_append (es fs : List (Event J)) : enteredOf (es ++ fs) = enteredOf es ++ enteredOf fs :=
  filterMap_append ..

lemma ingestedOf_append (es fs : List (Event J)) :
    ingestedOf (es ++ fs) = ingestedOf es ++ ingestedOf fs := filterMap_append ..

lemma mem_entered_row {e : Event J} (h : e ∈ d.entered ws) : ∃ i s p, e = .entered i s p := by
  simp only [Db.entered, mem_flatMap] at h
  obtain ⟨rw, -, h⟩ := h
  split at h
  · cases h
  simp only [List.mem_map] at h
  obtain ⟨st, -, rfl⟩ := h
  exact ⟨_, _, _, rfl⟩

lemma mem_of_mem_entered_append {e : Event J} (h : e ∈ d.entered ws ++ es) (he : ∀ i s p, e ≠ .entered i s p) :
    e ∈ es := by
  rcases mem_append.1 h with h | h
  · obtain ⟨i, s, p, hes⟩ := mem_entered_row h
    exact absurd hes (he i s p)
  · exact h

lemma ingestedOf_entered : ingestedOf (d.entered ws : List (Event J)) = [] := by
  unfold ingestedOf
  rw [filterMap_eq_nil_iff]
  intro e he
  obtain ⟨i, s, p, rfl⟩ := mem_entered_row he
  rfl

lemma Db.entered_eq_nil (h : ∀ rw ∈ ws, ∀ cur, d.scans[rw.1.id]? = some cur →
    cur.life.entered (rw.1.writeBack rw.2 cur).life = []) : (d.entered ws : List (Event J)) = [] := by
  simp only [Db.entered, flatMap_eq_nil_iff]
  intro rw hrw
  split
  · rfl
  · next cur hcur => rw [h rw hrw cur hcur, map_nil]

lemma Db.entered_single (hd : d.Sound) {read written : ScanRow V} (h : RowSteps H d [(read, written)]) :
    enteredOf (d.entered [(read, written)] : List (Event J)) = [] ∨
      ∃ i cur new x, d.scans[i]? = some cur ∧ (d.apply [(read, written)]).scans[i]? = some new ∧
        cur.life.Sends new.life x ∧
        enteredOf (d.entered [(read, written)] : List (Event J)) = [(i, x.id, x.position)] := by
  cases hcur : d.scans[read.id]? with
  | none =>
    refine .inl ?_
    simp [Db.entered, hcur, enteredOf]
  | some cur =>
    have hentered : (d.entered [(read, written)] : List (Event J)) =
        (cur.life.entered (read.writeBack written cur).life).map fun st =>
          .entered read.id st.id st.position := by
      simp [Db.entered, hcur]
    rcases (h (read, written) mem_cons_self cur hcur).step with hl | hl
    · refine .inl ?_
      rw [hentered, hl, Life.entered_eq_nil fun st hst hr => ⟨st, hst, rfl, hr⟩]
      rfl
    rcases hl.entered (hd.wf _ cur hcur) with hnone | ⟨x, hx⟩
    · refine .inl ?_
      rw [hentered, hnone]
      rfl
    refine .inr ⟨read.id, cur, _, x, hcur, Db.getElem?_apply_single hcur, hx, ?_⟩
    rw [hentered, hx.entered]
    rfl

/-- The commit of a session that wrote rows, and told `es` beside the stages it sent out. -/
lemma Db.commits_rows (hscans : d'.scans = (d.apply ws).scans) (hfail : d'.failures = d.failures)
    (h : RowSteps H d ws)
    (hentered : enteredOf (d.entered ws : List (Event J)) = [] ∨ ∃ i cur new x, d.scans[i]? = some cur ∧
      (d.apply ws).scans[i]? = some new ∧ cur.life.Sends new.life x ∧
      enteredOf (d.entered ws : List (Event J)) = [(i, x.id, x.position)])
    (hes : enteredOf es = []) (htold : ∀ e ∈ es, Told d d' e) (honce : (ingestedOf es).length ≤ 1)
    (hbase : ∀ o, d'.baselines o ≠ d.baselines o →
      (d'.baselines o).isSome = true ∧ ∃ i, Event.baseline o i ∈ es) :
    Db.Commits H d d' (d.entered ws ++ es) where
  old i cur hcur := by
    rw [hscans]
    exact h.old hcur
  added i new hcur hnew := by
    rw [hscans, Db.getElem?_apply, hcur] at hnew
    cases hnew
  failures f hf := by
    rw [hfail] at hf
    exact .inl hf
  entered := by
    rw [enteredOf_append, hes, append_nil, hscans]
    exact hentered
  told e he := by
    rcases mem_append.1 he with he | he
    · obtain ⟨i, s, p, rfl⟩ := mem_entered_row he
      trivial
    · exact htold e he
  once := by
    rw [ingestedOf_append, ingestedOf_entered]
    exact honce
  baselines o ho := by
    obtain ⟨hsome, i, hi⟩ := hbase o ho
    exact ⟨hsome, i, mem_append_right _ hi⟩

lemma Db.commits_same (hscans : d'.scans = d.scans) (hbase : d'.baselines = d.baselines)
    (hfail : ∀ f ∈ d'.failures, f ∈ d.failures ∨ d.HasStage f.1 f.2.1) :
    Db.Commits H d d' ([] : List (Event J)) where
  old i cur hcur := ⟨cur, by rw [hscans, hcur], .refl⟩
  added i new hcur hnew := by
    rw [hscans, hcur] at hnew
    cases hnew
  failures := hfail
  entered := .inl rfl
  told e he := by cases he
  once := Nat.zero_le _
  baselines o ho := absurd (congrFun hbase o) ho

end Rows

end App.Scans
