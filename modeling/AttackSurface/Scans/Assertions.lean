import AttackSurface.Scans.Commits

/-!
# What the scan sessions rely on

At each point a session knows something of the rows it has read, given the locks it holds
(`Session.holds`).  Every statement of it establishes what the next one needs, its commits
are steps of the scans (`Db.Commits`), and the commits of the others keep what it knows.

    S.base.Kept (S.program U)                               (Settings.base_kept)
-/

namespace App.Scans

open PyText AsmSensors Transactions List Option

variable {U : Unicode} {V J : Type}

def Held (H : Lock → Prop) (d : Db V) (row : ScanRow V) : Prop :=
  H (.row row.id) ∧ ∃ cur, d.scans[row.id]? = some cur ∧ row.erase = cur.erase

/-- The row is as the session read it, except that it may have been cancelled since. -/
def Knows (d : Db V) (row : ScanRow V) : Prop :=
  ∃ cur, d.scans[row.id]? = some cur ∧ row.fixed = cur.fixed ∧ (Startable row → Behind row cur)

def ScanRow.HasStage (row : ScanRow V) (stage : Nat) : Prop := ∃ st ∈ row.stages, st.id = stage

def Session.holds (tr : Transport J) (t : Session V J) (H : Lock → Prop) (d : Db V) : Prop :=
  match t with
  | .startRefresh _ => H .start
  | .startStages row => H .start ∧ Knows d row
  | .startCheck row | .startCount row _ => H .start ∧ Knows d row ∧ Startable row
  | .startFlush row written => H .start ∧ Knows d row ∧ Startable row ∧ StartWrite row written
  | .startWritten row written =>
    H .start ∧ H (.row row.id) ∧ Knows d row ∧ Startable row ∧ StartWrite row written ∧
      written.status ≠ row.status
  | .advanceLocked row | .cancelScanLocked row => Held H d row
  | .publish scan stage _ | .dispatchFailed scan stage _ | .markDispatched scan stage _ => d.HasStage scan stage
  | .dispatchFailedLocked row stage _ | .stageFailedLocked row stage _ => Held H d row ∧ row.HasStage stage
  | .marking row written => written.erase = row.erase
  | .resultLocked sub env result stage row =>
    Held H d row ∧ tr.openResult sub = some (env, result) ∧ tr.uuid env.scanId = some row.id ∧
      tr.uuid env.stageId = some stage ∧ result.adapter ≠ screenshotAdapter
  | .cancelTenant _ held => ∀ r ∈ held, Held H d r ∧ r.status.isActive = true
  | _ => True

/-! ## The commits of others -/

section Stable

variable {G H : Lock → Prop} {d d' : Db V} {row : ScanRow V} {es : List (Event J)}

lemma fixed_of_erase {a b : ScanRow V} (h : a.erase = b.erase) : a.fixed = b.fixed := by
  simp only [ScanRow.erase, ScanRow.mk.injEq, Scan.mk.injEq] at h
  have hstages := congrArg (List.map ScanStage.fixed) h.1.2.2.2.2.1
  rw [List.map_map, List.map_map] at hstages
  simp only [ScanRow.fixed, ScanRow.mk.injEq, Scan.mk.injEq, and_true, true_and]
  exact ⟨⟨h.1.1, h.1.2.1, h.1.2.2.2.1, hstages, h.1.2.2.2.2.2.2.1, h.1.2.2.2.2.2.2.2.1⟩, h.2.1, h.2.2.1,
    h.2.2.2.1, h.2.2.2.2.1⟩

lemma Held.stable (h : Held G d row) (hc : Db.Commits H d d' es) (hx : ¬ H (.row row.id)) : Held G d' row := by
  obtain ⟨hG, cur, hcur, he⟩ := h
  obtain ⟨new, hnew, hstep⟩ := hc.old _ cur hcur
  refine ⟨hG, new, hnew, ?_⟩
  rcases hstep.locked with hl | hl
  · rw [he, hl]
  · exact absurd hl hx

lemma Startable.not_running (h : Startable row) : row.life.status ≠ .running := by
  rcases h with h | h <;> simp [ScanRow.life, Scan.life, h]

lemma Knows.stable (h : Knows d row) (hd : d.Sound) (hc : Db.Commits H d d' es) (hs : ¬ H .start) :
    Knows d' row := by
  obtain ⟨cur, hcur, hf, hb⟩ := h
  obtain ⟨new, hnew, hstep⟩ := hc.old _ cur hcur
  refine ⟨new, hnew, hf.trans hstep.fixed.symm, fun hst => ?_⟩
  rcases hstep.life with hl | hl | hl
  · rcases hb hst with hb | hb
    · exact .inl (hl.trans hb)
    · exact .inr (hl.trans hb)
  · -- the scan does not run: it can only have been cancelled
    have hwf := hd.wf _ cur hcur
    rcases hb hst with hb | hb
    · have hwork := hl.of_not_running hwf (by rw [hb]; exact hst.not_running)
      exact .inr (by rw [hwork.2, hb])
    have hwork := hl.of_not_running hwf (by rw [hb]; exact fun h => by cases h)
    rw [hb] at hwork
    cases hwork.1
  · exact absurd hl.1 hs

lemma Session.holds_of_rows {tr : Transport J} {u : Session V J} (h : u.holds tr G d)
    (hheld : ∀ r, Held G d r → Held G d' r) (hknows : ∀ r, G .start → Knows d r → Knows d' r)
    (hstage : ∀ i j, d.HasStage i j → d'.HasStage i j) : u.holds tr G d' := by
  cases u
  case startRefresh => exact h
  case startStages => exact ⟨h.1, hknows _ h.1 h.2⟩
  case startCheck => exact ⟨h.1, hknows _ h.1 h.2.1, h.2.2⟩
  case startCount => exact ⟨h.1, hknows _ h.1 h.2.1, h.2.2⟩
  case startFlush => exact ⟨h.1, hknows _ h.1 h.2.1, h.2.2⟩
  case startWritten => exact ⟨h.1, h.2.1, hknows _ h.1 h.2.2.1, h.2.2.2⟩
  case advanceLocked => exact hheld _ h
  case cancelScanLocked => exact hheld _ h
  case publish => exact hstage _ _ h
  case dispatchFailed => exact hstage _ _ h
  case markDispatched => exact hstage _ _ h
  case dispatchFailedLocked => exact ⟨hheld _ h.1, h.2⟩
  case stageFailedLocked => exact ⟨hheld _ h.1, h.2⟩
  case marking => exact h
  case resultLocked => exact ⟨hheld _ h.1, h.2⟩
  case cancelTenant => exact fun r hr => ⟨hheld _ (h r hr).1, (h r hr).2⟩
  all_goals trivial

lemma Session.holds_stable {tr : Transport J} {u : Session V J} (h : u.holds tr G d) (hd : d.Sound)
    (hc : Db.Commits H d d' es) (hx : ∀ x, G x → ¬ H x) : u.holds tr G d' :=
  Session.holds_of_rows h (fun _ hr => hr.stable hc (hx _ hr.1)) (fun _ hG hr => hr.stable hd hc (hx _ hG))
    fun _ _ hs => hc.hasStage hs

end Stable

/-! ## The statements of a session -/

section Effects

variable {H : Lock → Prop} {d : Db V} {row : ScanRow V} {S : Settings V J}

def Fits (tr : Transport J) (H : Lock → Prop) (d : Db V) : Effect Lock (Db V) (Session V J) (Event J) → Prop
  | .goOn t => t.holds tr H d
  | .lock x t => t.holds tr (fun y => y = x ∨ H y) d
  | .commit d' es t => Db.Commits H d d' es ∧ ∀ u, t = some u → u.holds tr (fun _ => False) d'
  | .rollback => True

lemma Held.of_read (hd : d.Sound) {scan : Nat} (hrow : d.scans[scan]? = some row) :
    Held (fun y => y = .row scan ∨ H y) d row := by
  have hid := hd.index scan row hrow
  subst hid
  exact ⟨.inl rfl, row, hrow, rfl⟩

lemma Held.mono (h : Held H d row) (x : Lock) : Held (fun y => y = x ∨ H y) d row := ⟨.inr h.1, h.2⟩

variable {tr : Transport J} {written : ScanRow V} {stage : Nat}

lemma fits_lockScan (hd : d.Sound) {scan : Nat} {next : ScanRow V → Session V J}
    (h : ∀ row, d.scans[scan]? = some row → Held (fun y => y = .row scan ∨ H y) d row →
      (next row).holds tr (fun y => y = .row scan ∨ H y) d) : Fits tr H d (d.lockScan scan next) := by
  unfold Db.lockScan
  split
  · trivial
  · next row hrow => exact h row hrow (Held.of_read hd hrow)

lemma fits_rows (hd : d.Sound) {read written : ScanRow V}
    (h : RowSteps H d [(read, written)]) : Fits tr H d (d.commitRows [(read, written)] [] none) :=
  ⟨Db.commits_rows rfl rfl h (Db.entered_single hd h) rfl (by simp) (by simp [ingestedOf]) (by simp [Db.apply]),
    by simp⟩

lemma Held.rowSteps (h : Held H d row) (hw : written.fixed = row.fixed)
    (hl : written.life = row.life ∨ row.life.Works written.life) : RowSteps H d [(row, written)] := by
  intro rw hrw cur hcur
  rw [mem_singleton] at hrw
  subst hrw
  obtain ⟨hH, cur', hcur', he⟩ := h
  rw [hcur] at hcur'
  cases hcur'
  exact .of_held hH he hw hl

lemma Held.wf (hd : d.Sound) (h : Held H d row) : row.life.Wf := by
  obtain ⟨-, cur, hcur, he⟩ := h
  rw [life_of_erase he]
  exact hd.wf _ cur hcur

lemma Life.Wf.distinctIds (h : row.life.Wf) : DistinctIds row.stages := by
  have := h.ids
  simp only [ScanRow.life, Scan.life, List.map_map] at this
  exact this

lemma Life.Wf.distinctPositions (h : row.life.Wf) : (row.stages.map ScanStage.position).Nodup := by
  have := h.positions
  simp only [ScanRow.life, Scan.life, List.map_map] at this
  exact this

/-! ### Starting -/

lemma fits_startStages (tr : Transport J) {cur : ScanRow V} (hk : H .start ∧ Knows d row)
    (hcur : d.scans[row.id]? = some cur) (hs : Startable row) :
    (Session.startCheck (J := J) { row with stages := cur.stages }).holds tr H d := by
  obtain ⟨hH, cur', hcur', hf, hb⟩ := hk
  rw [hcur] at hcur'
  cases hcur'
  refine ⟨hH, ⟨cur, hcur, ?_, fun _ => ?_⟩, hs⟩
  · simp only [ScanRow.fixed, ScanRow.mk.injEq, Scan.mk.injEq] at hf ⊢
    simp [hf]
  -- the stages are read later than the row
  have hl : ∀ l : Life, cur.life.stages = l.stages →
      ({ row with stages := cur.stages } : ScanRow V).life = ⟨row.status, l.stages⟩ := fun l h => by
    rw [← h]
    rfl
  rcases hb hs with hb | hb
  · refine .inl ?_
    rw [hl row.life (congrArg Life.stages hb), hb]
    rfl
  refine .inr ?_
  rw [hl row.life.cancel (congrArg Life.stages hb), hb]
  exact (Life.cancel_cancel row.life).symm

lemma startWrite_reserve (row : ScanRow V) (everywhere : Nat) :
    StartWrite row (S.reserve d row everywhere) := by
  unfold Settings.reserve
  split
  · exact .status rfl rfl (.inr rfl)
  · exact .status rfl rfl (.inl rfl)

lemma fits_startWritten (hd : d.Sound) (h : (Session.startWritten (J := J) row written).holds tr H d) :
    Fits tr H d (d.commitRows [(row, written)] [] none) := by
  obtain ⟨hs, hrow, ⟨cur, hcur, -, hb⟩, hst, hw, hne⟩ := h
  refine fits_rows hd fun rw hrw cur' hcur' => ?_
  rw [mem_singleton] at hrw
  subst hrw
  rw [hcur] at hcur'
  cases hcur'
  exact .of_start hs hrow hst (hb hst) hw hne

/-! ### Advancing -/

lemma fixed_of_kept {scan : Scan V} (h : row.toScan.Kept scan) :
    ({ row with toScan := scan } : ScanRow V).fixed = row.fixed := by
  obtain ⟨h1, h2, h3, h4, h5, h6⟩ := h
  simp [ScanRow.fixed, h1, h2, h3, h4, h5, h6]

lemma fits_finalizeScan (hd : d.Sound) {prepared : ScanRow V} (h : Held H d row)
    (hrun : row.status = .running) (hidle : row.life.Idle) (hfixed : prepared.fixed = row.fixed)
    (hlife : prepared.life = row.life.cancel ∨ prepared.life = row.life.skipAll) :
    Fits tr H d (d.finalizeScan row prepared) := by
  have hfix : (prepared.finalize d.clock).fixed = row.fixed := (fixed_finalize _).trans hfixed
  have hrunning : row.life.status = .running := hrun
  rcases hlife with hlife | hlife
  · -- the tenant or the organization is no longer active
    have hcancel : prepared.status = .cancelled := congrArg Life.status hlife
    have hsame : prepared.finalize d.clock = prepared := if_pos hcancel
    have hsteps := h.rowSteps hfix (.inr (by
      rw [hsame, hlife]
      exact .cancel (by rw [hrunning]; rfl)))
    have hends : prepared.endsBaseline d.clock = false := by simp [ScanRow.endsBaseline, hcancel]
    unfold Db.finalizeScan
    simp only [hends, hcancel, if_true, Bool.false_eq_true, if_false]
    exact fits_rows hd hsteps
  have hstatus : prepared.status = .running := (congrArg Life.status hlife).trans hrun
  have hne : prepared.status ≠ .cancelled := by
    rw [hstatus]
    exact fun h => by cases h
  have hfin : (prepared.finalize d.clock).life = row.life.finalize := finalize_life hne hlife
  have hsteps := h.rowSteps hfix (.inr (by rw [hfin]; exact .finalize hrunning hidle))
  -- what the committed row is before and after
  obtain ⟨-, cur, hcur, he⟩ := h
  have hnew : (d.apply [(row, prepared.finalize d.clock)]).scans[row.id]? =
      some (row.writeBack (prepared.finalize d.clock) cur) := Db.getElem?_apply_single hcur
  have hlifeNew : (row.writeBack (prepared.finalize d.clock) cur).life = cur.life.finalize := by
    rw [life_writeBack (life_of_erase he) hfix, hfin, life_of_erase he]
  have hstatusNew : (row.writeBack (prepared.finalize d.clock) cur).status =
      (prepared.finalize d.clock).status :=
    congrArg Life.status (life_writeBack (life_of_erase he) hfix)
  have hcurRun : cur.status = .running := by
    have := congrArg Life.status (life_of_erase he)
    exact this.symm.trans hrun
  have hfixCur := fixed_of_erase he
  simp only [ScanRow.fixed, ScanRow.mk.injEq] at hfixCur hfixed
  unfold Db.finalizeScan
  simp only [hne, if_false]
  split
  · next hends =>
    simp only [ScanRow.endsBaseline, Bool.and_eq_true, bne_iff_ne, Bool.or_eq_true, beq_iff_eq] at hends
    refine ⟨Db.commits_rows (d := d) rfl rfl hsteps (Db.entered_single hd hsteps) rfl ?_
      (by simp [ingestedOf]) fun o ho => ?_, by simp⟩
    · intro e he
      simp only [cons_append, nil_append, mem_cons, not_mem_nil, or_false] at he
      rcases he with rfl | rfl
      · exact ⟨cur, _, hcur, hnew, hcurRun, hlifeNew, hstatusNew⟩
      · exact ⟨cur, _, hcur, hnew, hcurRun, by rw [← hfixCur.2.2.2.1, ← hfixed.2.2.2.1, hends.1.2],
          hfixCur.2.1.symm, hlifeNew, by rw [hstatusNew]; exact hends.2⟩
    · have : o = row.organizationId := by
        by_contra hne
        exact ho (by simp [Db.apply, Function.update_of_ne hne])
      subst this
      exact ⟨by simp [Db.apply], row.id, by simp⟩
  · refine ⟨Db.commits_rows rfl rfl hsteps (Db.entered_single hd hsteps) rfl ?_
      (by simp [ingestedOf]) (by simp [Db.apply]), by simp⟩
    intro e he
    rw [mem_singleton] at he
    subst he
    exact ⟨cur, _, hcur, hnew, hcurRun, hlifeNew, hstatusNew⟩

lemma idle_of_stages (h : ¬ (row.stages.any fun st => st.status == .running) = true) : row.life.Idle := by
  intro st hst hr
  simp only [ScanRow.life, Scan.life, List.mem_map] at hst
  obtain ⟨st, hst, rfl⟩ := hst
  exact h (List.any_eq_true.2 ⟨st, hst, by simpa [ScanStage.life] using hr⟩)

variable {a : Input V}

lemma fits_advanceScan (hd : d.Sound) (h : Held H d row) : Fits tr H d (d.advanceScan U a row) := by
  have hwf := h.wf hd
  unfold Db.advanceScan
  split
  · trivial
  next hrun =>
  rw [not_not] at hrun
  split
  · trivial
  next hidle =>
  split
  · trivial
  next prep hprep =>
  obtain ⟨hkept, hnext⟩ := prepareNextStage_life hprep hrun hwf.distinctIds hwf.distinctPositions
  have hfixed := fixed_of_kept hkept
  simp only []
  split
  · next stage job hdisp =>
    rw [hdisp] at hnext
    obtain ⟨x, hx, hp, hsent, -, -, hlife⟩ := hnext
    have hsteps : RowSteps H d [(row, { row with toScan := prep.scan })] := by
      refine h.rowSteps hfixed (.inr ?_)
      have hmem : x.life ∈ row.life.stages := List.mem_map_of_mem hx
      have hworks := Life.Works.send x.life hrun (idle_of_stages hidle) hmem hp
      rw [← hlife] at hworks
      exact hworks
    refine ⟨Db.commits_rows rfl rfl hsteps (Db.entered_single hd hsteps) rfl (by simp)
      (by simp [ingestedOf]) (by simp [Db.apply]), fun u hu => ?_⟩
    cases hu
    obtain ⟨-, cur, hcur, he⟩ := h
    refine ⟨_, Db.getElem?_apply_single hcur, hasStage_of_fixed ?_ ⟨x, hx, hsent.symm⟩⟩
    rw [ScanRow.writeBack_fixed, fixed_of_erase he]
  · next hdisp =>
    rw [hdisp] at hnext
    refine fits_finalizeScan hd h hrun (idle_of_stages hidle) hfixed ?_
    rcases hnext with hnext | hnext
    · exact .inl hnext
    · exact .inr hnext.1

/-! ### The end of a stage -/

lemma Held.getStage (h : Held H d row) (hd : d.Sound) {owner : ScanRow V} {st : ScanStage V}
    (hg : d.getStage row stage = some (owner, st)) (ho : owner.id = row.id ∨ row.HasStage stage) :
    owner = row ∧ st ∈ row.stages ∧ st.id = stage := by
  unfold Db.getStage at hg
  split at hg
  · next st' hst =>
    simp only [some.injEq, Prod.mk.injEq] at hg
    obtain ⟨rfl, rfl⟩ := hg
    exact ⟨rfl, mem_of_stage? hst⟩
  · next hnone =>
    -- another row would have to have the id, or this one the stage
    exfalso
    have hno : ¬ row.HasStage stage := by
      rintro ⟨x, hx, hid⟩
      unfold ScanRow.stage? at hnone
      rw [find?_eq_none] at hnone
      exact hnone x hx (by simpa using hid)
    rcases ho with ho | ho
    · obtain ⟨r, hr, hst⟩ := exists_of_findSome?_eq_some hg
      simp only [map_eq_some_iff, Prod.mk.injEq] at hst
      obtain ⟨st', hst', rfl, rfl⟩ := hst
      obtain ⟨i, hi⟩ := mem_iff_getElem?.1 hr
      obtain ⟨-, cur, hcur, he⟩ := h
      rw [← ho, hd.index i r hi, hi] at hcur
      cases hcur
      exact hno (hasStage_of_fixed (fixed_of_erase he).symm ⟨st', (mem_of_stage? hst').1, (mem_of_stage? hst').2⟩)
    · exact hno ho

lemma Held.endStage (h : Held H d row) (hd : d.Sound) {st x : ScanStage V} (hst : st ∈ row.stages)
    (hx : x.fixed = st.fixed) (hend : x.status = st.status ∨ (st.status = .running ∧ x.status.isDone = true)) :
    RowSteps H d [(row, row.setStage x)] := by
  have hids := (h.wf hd).distinctIds
  refine h.rowSteps (fixed_setStage hids hst hx) ?_
  rw [life_setStage hids hst hx]
  have hmem : st.life ∈ row.life.stages := List.mem_map_of_mem hst
  rcases hend with hsame | ⟨hr, hdone⟩
  · refine .inl ?_
    simp only [Life.endStage, Scan.life, Life.mk.injEq, true_and, List.map_map]
    refine map_congr_left fun y hy => ?_
    simp only [Function.comp_apply, StageLife.finish]
    split
    · next hid => rw [hids.eq hy hst hid, hsame]; rfl
    · rfl
  · exact .inr (.endStage st.life x.status hmem hr hdone)

variable (env : StageEnv V)

lemma fixed_failStage (error : Str) (now : Int) (st : ScanStage V) :
    (env.failStage error now st).fixed = st.fixed := by
  unfold StageEnv.failStage
  split <;> rfl

lemma status_failStage (error : Str) (now : Int) (st : ScanStage V) :
    (env.failStage error now st).status = st.status ∨
      (st.status = .running ∧ (env.failStage error now st).status.isDone = true) := by
  unfold StageEnv.failStage
  split
  · exact .inl rfl
  next hr =>
  refine .inr ⟨not_not.1 hr, ?_⟩
  dsimp only
  split <;> rfl

lemma fits_failStage (hd : d.Sound) {reason : Str}
    {accepts : ScanStage V → Bool} (h : Held H d row) (hstage : row.HasStage stage) :
    Fits tr H d (S.failStage d row stage reason accepts) := by
  unfold Settings.failStage
  split
  · trivial
  next owner st hg =>
  obtain ⟨rfl, hst, -⟩ := h.getStage hd hg (.inr hstage)
  split
  · exact fits_rows hd (h.endStage hd hst (fixed_failStage ..) (status_failStage ..))
  · trivial

lemma fixed_completeStage (result : SensorResult J) (now : Int) (st : ScanStage V) :
    (env.completeStage result now st).fixed = st.fixed := by
  unfold StageEnv.completeStage
  simp only []
  split <;> rfl

lemma status_completeStage (result : SensorResult J) (now : Int) (st : ScanStage V) :
    (env.completeStage result now st).status.isDone = true := by
  unfold StageEnv.completeStage
  simp only []
  split
  · dsimp only
    split <;> rfl
  · dsimp only
    split <;> rfl

/-- What a result commits: a running stage of the row that is held, and that the result answers. -/
lemma Settings.completeStage_commit (hd : d.Sound) (env : ResultEnvelope J) (result : SensorResult J)
    (stage : Nat) (h : Held H d row) :
    S.completeStage d env result stage row = .rollback ∨ ∃ st ∈ row.stages, st.id = stage ∧
      Bound S.transport row st env result ∧
      S.completeStage d env result stage row =
        d.commitRows [(row, row.setStage (S.stageEnv.completeStage result d.clock st))]
          (if (ingestedResult result).isSome then [.ingested row.id st.id env] else []) none := by
  unfold Settings.completeStage
  simp only []
  split
  · next owner st hbind hfound =>
    right
    obtain ⟨row', st', hrow', hst', hbound⟩ := Transport.resultBindingError_eq_none hbind
    cases hrow'
    rw [hfound] at hst'
    simp only [map_some, some.injEq, Prod.mk.injEq] at hst'
    obtain ⟨hid, rfl⟩ := hst'
    obtain ⟨rfl, hmem, hst⟩ := h.getStage hd hfound (.inl hid)
    exact ⟨st, hmem, hst, hbound, rfl⟩
  · exact .inl rfl

lemma fits_completeStage (hd : d.Sound) {env : ResultEnvelope J} {result : SensorResult J}
    (h : Held H d row) : Fits tr H d (S.completeStage d env result stage row) := by
  rcases S.completeStage_commit hd env result stage h with hr | ⟨st, hst, -, hb, hc⟩
  · rw [hr]
    trivial
  rw [hc]
  have hdone := status_completeStage S.stageEnv result d.clock st
  have hfix := fixed_completeStage S.stageEnv result d.clock st
  have hsteps := h.endStage hd hst hfix (.inr ⟨hb.stageRunning, hdone⟩)
  have hids := (h.wf hd).distinctIds
  refine ⟨Db.commits_rows rfl rfl hsteps (Db.entered_single hd hsteps) ?_ ?_ ?_ (by simp [Db.apply]), by simp⟩
  · split <;> rfl
  · intro e he
    split at he
    · rw [mem_singleton] at he
      subst he
      obtain ⟨-, cur, hcur, herase⟩ := h
      refine ⟨cur, _, hcur, Db.getElem?_apply_single hcur, ⟨st.life, ?_, rfl, hb.stageRunning⟩, ?_⟩
      · rw [← life_of_erase herase]
        exact List.mem_map_of_mem hst
      rw [life_writeBack (life_of_erase herase) (fixed_setStage hids hst hfix), life_setStage hids hst hfix]
      refine ⟨_, List.mem_map_of_mem (List.mem_map_of_mem hst), ?_, ?_⟩ <;>
        simp [StageLife.finish, ScanStage.life, hdone]
    · cases he
  · split <;> simp [ingestedOf]

/-! ### Results, failures, cancelling and creating -/

lemma fits_receiveResult (hd : d.Sound) {sub : Submission J} : Fits S.transport H d (S.receiveResult d sub) := by
  unfold Settings.receiveResult
  split
  · trivial
  next env result hopen =>
  split
  · next tenant scan stage htenant hscan hstage =>
    split
    · exact ⟨Db.commits_same rfl rfl fun f hf => .inl hf, by simp⟩
    next hadapter =>
    split
    · trivial
    next row hrow =>
    split
    · trivial
    refine ⟨Held.of_read hd hrow, hopen, ?_, hstage, hadapter⟩
    rw [hd.index scan row hrow]
    exact hscan
  · trivial

lemma mem_stuckStages {f : Nat × Nat × Str} (hd : d.Sound) (h : f ∈ S.stuckStages d) : d.HasStage f.1 f.2.1 := by
  simp only [Settings.stuckStages, mem_flatMap, List.mem_map, mem_filter] at h
  obtain ⟨row, hrow, st, ⟨hst, -⟩, rfl⟩ := h
  obtain ⟨i, hi⟩ := mem_iff_getElem?.1 hrow
  exact ⟨row, by rw [hd.index i row hi, hi], st, hst, rfl⟩

lemma fits_cancelTenant (held : List (ScanRow V))
    (h : ∀ r ∈ held, Held H d r ∧ r.status.isActive = true) (reason : Option InactiveReason) :
    Fits tr H d (d.commitRows (held.map fun r => (r, r.cancel reason d.clock)) [] none) := by
  have hlife : ∀ r ∈ held, ∀ cur, d.scans[r.id]? = some cur →
      RowStep H r.id cur (r.writeBack (r.cancel reason d.clock) cur) ∧
        (r.writeBack (r.cancel reason d.clock) cur).life = cur.life.cancel := by
    intro r hr cur hcur
    obtain ⟨⟨hH, cur', hcur', he⟩, hactive⟩ := h r hr
    rw [hcur] at hcur'
    cases hcur'
    refine ⟨.of_held hH he (fixed_cancel _ _) (.inr ?_), ?_⟩
    · rw [life_cancel]
      exact .cancel hactive
    · rw [life_writeBack (life_of_erase he) (fixed_cancel _ _), life_cancel, life_of_erase he]
  have hnone : (d.entered (held.map fun r => (r, r.cancel reason d.clock)) : List (Event J)) = [] := by
    refine Db.entered_eq_nil fun rw hrw cur hcur => ?_
    obtain ⟨r, hr, rfl⟩ := List.mem_map.1 hrw
    rw [(hlife r hr cur hcur).2]
    refine Life.entered_eq_nil fun st hst hrun => ?_
    simp only [Life.cancel, List.mem_map] at hst
    obtain ⟨st, -, rfl⟩ := hst
    have hdone := st.cancel_isDone
    rw [hrun] at hdone
    cases hdone
  refine ⟨Db.commits_rows rfl rfl ?_ (.inl (by rw [hnone]; rfl)) rfl (by simp) (by simp [ingestedOf])
    (by simp [Db.apply]), by simp⟩
  intro rw hrw cur hcur
  obtain ⟨r, hr, rfl⟩ := List.mem_map.1 hrw
  exact (hlife r hr cur hcur).1

lemma Draft.newRow_new (draft : Draft V) (boolean : Bool → V) (id first : Nat) (ciphertext : Str) :
    (draft.newRow boolean id first ciphertext).life.New := by
  have hpos : ((draft.newStages boolean first).map ScanStage.life).map StageLife.position =
      (range draft.stages.length).map (Nat.cast : Nat → Int) := by
    apply ext_getElem <;> simp [Draft.newStages, ScanStage.life]
  have hids : ((draft.newStages boolean first).map ScanStage.life).map StageLife.id =
      (range draft.stages.length).map fun i => first + i := by
    apply ext_getElem <;> simp [Draft.newStages, ScanStage.life]
  refine ⟨rfl, ?_, ?_, fun st hst => ?_⟩
  · simp only [ScanRow.life, Scan.life, Draft.newRow]
    rw [hids]
    exact nodup_range.map fun a b h => by simpa using h
  · simp only [ScanRow.life, Scan.life, Draft.newRow]
    rw [hpos]
    exact nodup_range.map Nat.cast_injective
  · simp only [ScanRow.life, Scan.life, Draft.newRow, Draft.newStages, List.mem_map, mem_mapIdx] at hst
    obtain ⟨x, ⟨i, hi, rfl⟩, rfl⟩ := hst
    rfl

lemma fits_insertScan {draft : Draft V} : Fits tr H d (S.insertScan d a draft) := by
  unfold Settings.insertScan
  split
  · trivial
  refine ⟨⟨fun i cur hcur => ⟨cur, ?_, .refl⟩, fun i new hnone hnew => ?_, fun f hf => .inl hf, .inl rfl,
    by simp, by simp [ingestedOf], by simp⟩, by simp⟩
  · obtain ⟨hi, -⟩ := List.getElem?_eq_some_iff.1 hcur
    rw [getElem?_append_left hi]
    exact hcur
  have hlen := List.getElem?_eq_none_iff.1 hnone
  rw [getElem?_append_right hlen] at hnew
  have hi : i = d.scans.length := by
    have := List.getElem?_eq_some_iff.1 hnew
    obtain ⟨hlt, -⟩ := this
    simp only [length_singleton] at hlt
    omega
  subst hi
  simp only [Nat.sub_self, getElem?_cons_zero, some.injEq] at hnew
  subst hnew
  exact ⟨rfl, draft.newRow_new ..⟩

lemma fits_marking (hd : d.Sound) (h : written.erase = row.erase) :
    Fits tr H d (d.commitRows [(row, written)] [] none) := by
  refine fits_rows hd fun rw hrw cur _ => ?_
  rw [mem_singleton] at hrw
  subst hrw
  exact .of_erase h

/-- Setting `dispatched_at` of a stage changes nothing else of the row. -/
lemma erase_dispatched {st : ScanStage V} (hwf : row.life.Wf) (hst : row.stage? stage = some st)
    (now : Option Int) : (row.setStage { st with dispatchedAt := now }).erase = row.erase := by
  obtain ⟨hmem, -⟩ := mem_of_stage? hst
  simp only [ScanRow.erase, ScanRow.setStage, setStage_stages, List.map_map, ScanRow.mk.injEq, Scan.mk.injEq,
    and_true, true_and]
  refine map_congr_left fun y hy => ?_
  by_cases hid : y.id = st.id
  · rw [hwf.distinctIds.eq hy hmem hid]
    have hself : replaceStage { st with dispatchedAt := now } st = { st with dispatchedAt := now } :=
      replaceStage_self rfl
    exact (congrArg ScanStage.erase hself).trans rfl
  · exact congrArg ScanStage.erase (replaceStage_other hid)

/-- **What a session does next is what its assertions allow.** -/
theorem Settings.next_fits (hd : d.Sound) {t : Session V J}
    {e : Effect Lock (Db V) (Session V J) (Event J)} (h : t.holds S.transport H d)
    (hn : S.next U t a d = some e) : Fits S.transport H d e := by
  cases t <;> simp only [Settings.next] at hn
  case start scan =>
    split at hn <;> cases hn
    · trivial
    · exact .inl rfl
  case startRefresh scan =>
    split at hn <;> cases hn
    · trivial
    next row hrow =>
    have hid := hd.index scan row hrow
    subst hid
    exact ⟨h, row, hrow, rfl, fun _ => .inl rfl⟩
  case startStages row =>
    split at hn
    · cases hn
      trivial
    next cur hcur =>
    split at hn <;> cases hn
    · next hs => exact fits_startStages S.transport h hcur hs
    · trivial
  case startCheck row =>
    split at hn <;> cases hn
    · next reason _ => exact ⟨h.1, h.2.1, h.2.2, .cancel reason d.clock rfl⟩
    · exact h
  case startCount row everywhere =>
    cases hn
    exact ⟨h.1, h.2.1, h.2.2, startWrite_reserve row everywhere⟩
  case startFlush row written =>
    split at hn <;> cases hn
    · trivial
    · next hne => exact ⟨.inr h.1, .inl rfl, h.2.1, h.2.2.1, h.2.2.2, hne⟩
  case startWritten row written =>
    cases hn
    exact fits_startWritten hd h
  case advance scan =>
    cases hn
    exact fits_lockScan hd fun row _ hrow => hrow
  case advanceLocked row =>
    cases hn
    exact fits_advanceScan hd h
  case publish scan stage jobId => split at hn <;> cases hn <;> exact h
  case dispatchFailed scan stage jobId =>
    cases hn
    refine fits_lockScan hd fun row hrow hheld => ⟨hheld, ?_⟩
    obtain ⟨row', hrow', hst⟩ := h
    rw [hrow] at hrow'
    cases hrow'
    exact hst
  case dispatchFailedLocked row stage jobId =>
    cases hn
    exact fits_failStage hd h.1 h.2
  case markDispatched scan stage jobId =>
    split at hn
    · cases hn
      trivial
    next row hrow =>
    split at hn
    · cases hn
      trivial
    next st hst =>
    split at hn <;> cases hn
    · exact erase_dispatched (hd.wf scan row hrow) hst _
    · trivial
  case marking row written =>
    cases hn
    exact fits_marking hd h
  case submit sub =>
    cases hn
    exact fits_receiveResult hd
  case resultLocked sub env result stage row =>
    cases hn
    exact fits_completeStage hd h.1
  case stageFailed scan stage reason =>
    split at hn <;> cases hn
    next hf =>
    refine fits_lockScan hd fun row hrow hheld => ⟨hheld, ?_⟩
    obtain ⟨row', hrow', hst⟩ := hd.failures _ hf
    rw [hrow] at hrow'
    cases hrow'
    exact hst
  case stageFailedLocked row stage reason =>
    cases hn
    exact fits_failStage hd h.1 h.2
  case watchdog =>
    cases hn
    refine ⟨Db.commits_same rfl rfl fun f hf => ?_, by simp⟩
    rcases mem_append.1 hf with hf | hf
    · exact .inl hf
    · exact .inr (mem_stuckStages hd hf)
  case cancelScan tenant scan =>
    split at hn
    · cases hn
      trivial
    next row hrow =>
    split at hn <;> cases hn
    · trivial
    · exact Held.of_read hd hrow
  case cancelScanLocked row =>
    split at hn <;> cases hn
    · next hactive => exact fits_cancelTenant [row] (by simpa using ⟨h, hactive⟩) none
    · trivial
  case cancelTenant tenant held =>
    split at hn
    · cases hn
      exact fits_cancelTenant held h (some .tenantSuspended)
    next scan _ =>
    split at hn
    · cases hn
    next row hrow =>
    split at hn <;> cases hn
    next hcond =>
    intro r hr
    rcases mem_cons.1 hr with rfl | hr
    · exact ⟨Held.of_read hd hrow, hcond.2.1⟩
    · exact ⟨(h r hr).1.mono _, (h r hr).2⟩
  case create req =>
    cases hn
    trivial
  case createBegun req createdAt => split at hn <;> cases hn <;> trivial
  case createAdmitted draft => split at hn <;> cases hn <;> trivial
  case createFree draft => split at hn <;> cases hn <;> trivial
  case createAllowed draft =>
    cases hn
    exact fits_insertScan

end Effects

/-! ## Every run -/

def Settings.base (S : Settings V J) : Assertions Lock (Db V) (Session V J) (Event J) where
  inv d _ := d.Sound
  holds t H d := t.holds S.transport H d

lemma Settings.base_commit {S : Settings V J} {t : Session V J} {H : Lock → Prop} {a : Input V} {d d' : Db V}
    {es : List (Event J)} {t' : Option (Session V J)} (hd : d.Sound) (h : t.holds S.transport H d)
    (hn : S.next U t a d = some (.commit d' es t')) :
    Db.Commits H d d' es ∧ ∀ u, t' = some u → u.holds S.transport (fun _ => False) d' :=
  S.next_fits hd h hn

/-- **The assertions hold whatever the sessions do.** -/
theorem Settings.base_kept (S : Settings V J) : S.base.Kept (S.program U) where
  enter task d log _ := by cases task <;> first | trivial | exact fun r hr => by cases hr
  goOn t H a d log t' hd h hn := S.next_fits hd h hn
  lock t H a d log x t' hd h hn := S.next_fits hd h hn
  commit t H a d log d' es t' hd h hn := by
    obtain ⟨hc, hu⟩ := Settings.base_commit hd h hn
    exact ⟨hc.sound hd, hu⟩
  stable t H a d log d' es t' u G hd h hn hu hG :=
    Session.holds_stable hu hd (Settings.base_commit hd h hn).1 hG
  pass x d log hd := ⟨hd.index, hd.wf, hd.failures⟩
  passHolds x d log u G _ hu := Session.holds_of_rows hu (fun _ hr => hr) (fun _ _ hr => hr) fun _ _ hs => hs

lemma Settings.base_idle {S : Settings V J} {d : Db V} (hd : d.Sound) : S.base.Good (Store.idle d) [] :=
  Assertions.good_idle hd

/-! ## Which statement follows which -/

def Session.decides : Session V J → Bool
  | .startCount _ _ | .startFlush _ _ | .startWritten _ _ => true
  | .createBegun _ _ | .createAdmitted _ | .createFree _ | .createAllowed _ => true
  | _ => false

/-- What a session knows when it goes on, as far as it is about other scans. -/
inductive Settings.Follows (U : Unicode) (S : Settings V J) (a : Input V) (d : Db V) :
    Session V J → Session V J → Prop
  | counted (row : ScanRow V) : inactiveReason a.platform = none →
      Settings.Follows U S a d (.startCheck row) (.startCount row (d.runningScans none))
  | inactive (row : ScanRow V) (reason : InactiveReason) :
      Settings.Follows U S a d (.startCheck row) (.startFlush row (row.cancel (some reason) d.clock))
  | reserved (row : ScanRow V) (everywhere : Nat) :
      Settings.Follows U S a d (.startCount row everywhere) (.startFlush row (S.reserve d row everywhere))
  | flushed (row written : ScanRow V) :
      Settings.Follows U S a d (.startFlush row written) (.startWritten row written)
  | begun (req : CreateRequest V) : Settings.Follows U S a d (.create req) (.createBegun req d.clock)
  | checked (req : CreateRequest V) (createdAt : Int) (draft : Draft V) :
      checkCreate U a.platform a.profile (S.internalProfile req.profileId)
        ((S.plan req.tenantId).all Plan.allowActiveScanning) createdAt
        (d.baselines req.organizationId).isNone req = .ok draft →
      Settings.Follows U S a d (.createBegun req createdAt) (.createAdmitted draft)
  | free (draft : Draft V) :
      ¬ (!S.internalProfile draft.request.profileId &&
        d.hasActive draft.request.organizationId draft.request.profileId) = true →
      Settings.Follows U S a d (.createAdmitted draft) (.createFree draft)
  | allowed (draft : Draft V) : S.checkCanStartScan d draft.request.tenantId = .ok () →
      Settings.Follows U S a d (.createFree draft) (.createAllowed draft)
  | other {t t' : Session V J} : t'.decides = false → Settings.Follows U S a d t t'

section Follows

variable {S : Settings V J} {d : Db V} {t t' : Session V J} {a : Input V}

def Undecided (e : Effect Lock (Db V) (Session V J) (Event J)) : Prop :=
  ∀ t, e.continues = some t → t.decides = false

lemma undecided_lockScan {scan : Nat} {next : ScanRow V → Session V J} (h : ∀ row, (next row).decides = false) :
    Undecided (d.lockScan scan next) := by
  intro t ht
  unfold Db.lockScan at ht
  split at ht <;> cases ht
  exact h _

variable {row : ScanRow V}

lemma undecided_advanceScan : Undecided (J := J) (d.advanceScan U a row) := by
  intro t ht
  unfold Db.advanceScan Db.finalizeScan at ht
  split at ht
  · cases ht
  split at ht
  · cases ht
  split at ht
  · cases ht
  simp only [Db.commitRows] at ht
  split at ht
  · cases ht
  · split at ht <;> cases ht

lemma undecided_failStage {stage : Nat} {reason : Str} {accepts : ScanStage V → Bool} :
    Undecided (S.failStage d row stage reason accepts) := by
  intro t ht
  unfold Settings.failStage at ht
  split at ht
  · cases ht
  · split at ht <;> cases ht

lemma undecided_completeStage {env : ResultEnvelope J} {result : SensorResult J} {stage : Nat} :
    Undecided (S.completeStage d env result stage row) := by
  intro t ht
  unfold Settings.completeStage at ht
  simp only [Db.commitRows] at ht
  split at ht <;> cases ht

lemma undecided_receiveResult {sub : Submission J} : Undecided (S.receiveResult d sub) := by
  intro t ht
  unfold Settings.receiveResult at ht
  split at ht
  · cases ht
  split at ht
  · split at ht
    · cases ht
    split at ht
    · cases ht
    · split at ht <;> cases ht
      rfl
  · cases ht

lemma undecided_insertScan {draft : Draft V} : Undecided (S.insertScan d a draft) := by
  intro t ht
  unfold Settings.insertScan at ht
  split at ht <;> cases ht

/-- **What a session knows of other scans when it goes on.** -/
theorem Settings.follows {e : Effect Lock (Db V) (Session V J) (Event J)} (hn : S.next U t a d = some e)
    (he : e.continues = some t') : S.Follows U a d t t' := by
  have hother : Undecided e → S.Follows U a d t t' := fun h => .other (h t' he)
  cases t <;> simp only [Settings.next] at hn
  case startCheck row =>
    split at hn <;> cases hn <;> cases he
    · exact .inactive row _
    · next hnone => exact .counted row hnone
  case startCount row everywhere =>
    cases hn
    cases he
    exact .reserved row everywhere
  case startFlush row written =>
    split at hn <;> cases hn <;> cases he
    exact .flushed row written
  case create req =>
    cases hn
    cases he
    exact .begun req
  case createBegun req createdAt =>
    split at hn <;> cases hn <;> cases he
    next hok => exact .checked req createdAt _ hok
  case createAdmitted draft =>
    split at hn <;> cases hn <;> cases he
    next hfree => exact .free draft hfree
  case createFree draft =>
    split at hn <;> cases hn <;> cases he
    next hok => exact .allowed draft hok
  case start scan => split at hn <;> cases hn <;> cases he; exact .other rfl
  case startRefresh scan => split at hn <;> cases hn <;> cases he; exact .other rfl
  case startStages row =>
    split at hn
    · cases hn
      cases he
    · split at hn <;> cases hn <;> cases he
      exact .other rfl
  case publish scan stage jobId => split at hn <;> cases hn <;> cases he <;> exact .other rfl
  case markDispatched scan stage jobId =>
    split at hn
    · cases hn
      cases he
    split at hn
    · cases hn
      cases he
    · split at hn <;> cases hn <;> cases he
      exact .other rfl
  case cancelScan tenant scan =>
    split at hn
    · cases hn
      cases he
    · split at hn <;> cases hn <;> cases he
      exact .other rfl
  case cancelScanLocked row => split at hn <;> cases hn <;> cases he
  case cancelTenant tenant held =>
    split at hn
    · cases hn
      cases he
    split at hn
    · cases hn
    split at hn <;> cases hn
    cases he
    exact .other rfl
  case stageFailed scan stage reason =>
    split at hn <;> cases hn
    exact hother (undecided_lockScan fun _ => rfl)
  all_goals cases hn
  case advance scan => exact hother (undecided_lockScan fun _ => rfl)
  case dispatchFailed scan stage jobId => exact hother (undecided_lockScan fun _ => rfl)
  case advanceLocked row => exact hother undecided_advanceScan
  case dispatchFailedLocked row stage jobId => exact hother undecided_failStage
  case stageFailedLocked row stage reason => exact hother undecided_failStage
  case submit sub => exact hother undecided_receiveResult
  case resultLocked sub env result stage row => exact hother undecided_completeStage
  case createAllowed draft => exact hother undecided_insertScan
  all_goals cases he

end Follows

/-! ## A small platform -/

def oneSettings : Settings Unit Str where
  plan := fun _ => none
  internalProfile := fun _ => false
  transport :=
    { mac := fun signed => signed.pool
      sensorResult := fun adapter => some { adapter, status := .completed, targetCount := 1 }
      uuid := fun s => some s.length
      uuidText := fun n => List.replicate n '1' }
  stageEnv := ⟨⟨fun _ _ => none, fun s => s⟩, fun _ => false⟩
  boolean := fun _ => ()
  capturePolicy := ⟨1, 1000, fun _ => none, fun _ => false⟩

def oneRow : ScanRow Unit :=
  { oneScan with id := 0, status := .pending, organizationId := 0, profileId := 0, isBaseline := true }

def oneDb : Db Unit := { scans := [oneRow] }

lemma oneDb_sound : oneDb.Sound where
  index i row h := by
    match i, h with
    | 0, h => cases h; rfl
    | i + 1, h => simp [oneDb] at h
  wf i row h := by
    match i, h with
    | 0, h =>
      cases h
      exact Life.New.wf ⟨rfl, by decide, by decide, by decide⟩
    | i + 1, h => simp [oneDb] at h
  failures f hf := by cases hf

def oneInput : Input Unit := { platform := onePlatform, jobId := "job".toList }

/-- Session `k` takes up a task and goes on for `n` statements. -/
def session {V J : Type} (k : Nat) (task : Task V J) (a : Input V) (n : Nat) :
    List (Action (Task V J) (Input V) Nat) :=
  .deliver k task :: List.replicate n (.run k a)

end App.Scans
