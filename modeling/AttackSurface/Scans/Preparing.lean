import AttackSurface.Scans.Life

/-!
# The next stage of a scan, as a step of its life

`prepareNextStage` walks the stages in the order of their positions: pending ones without
an authorized target are skipped, the first with one is sent out.

    dispatched  →  the life goes on by `send`; otherwise every pending stage is skipped
                                                                  (prepareNextStage_life)
-/

namespace App.Scans

open PyText AsmSensors List Option Function

variable {U : Unicode} {V : Type}

def ScanStage.life (st : ScanStage V) : StageLife := ⟨st.id, st.position, st.status⟩

def Scan.life (scan : Scan V) : Life := ⟨scan.status, scan.stages.map ScanStage.life⟩

abbrev ScanRow.life (row : ScanRow V) : Life := row.toScan.life

lemma life_of_erase {a b : ScanRow V} (h : a.erase = b.erase) : a.life = b.life := by
  simp only [ScanRow.erase, ScanRow.mk.injEq, Scan.mk.injEq] at h
  have hstages := congrArg (List.map ScanStage.life) h.1.2.2.2.2.1
  rw [List.map_map, List.map_map] at hstages
  simp only [ScanRow.life, Scan.life, h.1.2.2.1, Life.mk.injEq, true_and]
  exact hstages

def NoTargets (U : Unicode) (p : Platform V) (targetOverride : List Str) (st : ScanStage V) : Prop :=
  ∃ auth : Authorization U V, authorizeStage U p targetOverride st = some auth ∧ auth.allowed = []

/-- What the loop over the stages `l` does to the scan. -/
structure Prepares (p : Platform V) (jobId : Str) (l : List (ScanStage V)) (scan : Scan V)
    (r : Prepared U V) (f : ScanStage V → ScanStage V) : Prop where
  scan_eq : r.scan = { scan with stages := scan.stages.map f }
  rest : ∀ st ∈ scan.stages, st ∉ l → f st = st
  fixed : ∀ st ∈ scan.stages, (f st).fixed = st.fixed
  ended : r.dispatched = none → ∀ st ∈ l, (f st).life = st.life.skip ∧
    (st.status = .pending → NoTargets U p scan.targetOverride st)
  sent : ∀ x job, r.dispatched = some (x, job) → ∃ pre st post, l = pre ++ st :: post ∧
    st.status = .pending ∧ job.stageId = st.id ∧ x.id = st.id ∧ job.jobId = jobId ∧
    (f st).life = { st.life with status := .running } ∧
    (∀ y ∈ pre, (f y).life = y.life.skip) ∧ ∀ y ∈ post, f y = y

lemma life_skip_of_not_pending {st : ScanStage V} (h : st.status ≠ .pending) : st.life.skip = st.life := by
  simp [StageLife.skip, ScanStage.life, h]

variable {p : Platform V} {scan : Scan V} {r : Prepared U V}

lemma id_of_fixed {a b : ScanStage V} (h : a.fixed = b.fixed) : a.id = b.id := by
  simp only [ScanStage.fixed, ScanStage.mk.injEq] at h
  exact h.1

/-- Put `x` in the place of the stage with its id. -/
def replaceStage (x st : ScanStage V) : ScanStage V := if st.id = x.id then x else st

lemma setStage_stages (scan : Scan V) (x : ScanStage V) :
    scan.setStage x = { scan with stages := scan.stages.map (replaceStage x) } := rfl

lemma replaceStage_self {x st : ScanStage V} (h : st.id = x.id) : replaceStage x st = x := if_pos h

lemma replaceStage_other {x st : ScanStage V} (h : st.id ≠ x.id) : replaceStage x st = st := if_neg h

def DistinctIds (stages : List (ScanStage V)) : Prop := (stages.map ScanStage.id).Nodup

variable {stages : List (ScanStage V)} {jobId : Str} {rest : List (ScanStage V)}
  {log : List ScopeDecision}

lemma DistinctIds.eq (h : DistinctIds stages) {a b : ScanStage V}
    (ha : a ∈ stages) (hb : b ∈ stages) (hid : a.id = b.id) : a = b :=
  inj_on_of_nodup_map h ha hb hid

lemma DistinctIds.replace (h : DistinctIds stages) (x : ScanStage V) :
    DistinctIds (stages.map (replaceStage x)) := by
  have hsame : (stages.map (replaceStage x)).map ScanStage.id = stages.map ScanStage.id := by
    rw [List.map_map]
    refine map_congr_left fun st _ => ?_
    by_cases hid : st.id = x.id
    · simp [replaceStage_self hid, hid]
    · simp [replaceStage_other hid]
  unfold DistinctIds
  rw [hsame]
  exact h

/-- A pending stage without targets is replaced by `x`, and the loop goes on. -/
lemma Prepares.skip {stage x : ScanStage V} {f : ScanStage V → ScanStage V} (hids : DistinctIds scan.stages)
    (hstage : stage ∈ scan.stages)
    (hne : ∀ st ∈ rest, st.id ≠ stage.id) (hfixed : x.fixed = stage.fixed)
    (hlife : x.life = stage.life.skip) (hnone : NoTargets U p scan.targetOverride stage)
    (hf : Prepares p jobId rest (scan.setStage x) r f) :
    Prepares p jobId (stage :: rest) scan r (f ∘ replaceStage x) := by
  have hid : x.id = stage.id := id_of_fixed hfixed
  have hself : replaceStage x stage = x := replaceStage_self hid.symm
  have hother : ∀ st, st.id ≠ stage.id → replaceStage x st = st := fun st h =>
    replaceStage_other (by rwa [hid])
  have hrest : ∀ st ∈ rest, replaceStage x st = st := fun st hst => hother st (hne st hst)
  have hkept : ∀ st ∈ scan.stages, replaceStage x st ∈ (scan.setStage x).stages := fun st hst =>
    List.mem_map_of_mem hst
  -- the loop does not come back to the stage
  have hx : f x = x := by
    have hin := hkept stage hstage
    rw [hself] at hin
    exact hf.rest x hin fun hin => hne x hin hid
  refine ⟨?_, fun st hst hnl => ?_, fun st hst => ?_, fun hd st hst => ?_, fun sent job hd => ?_⟩
  · rw [hf.scan_eq, setStage_stages]
    simp only [List.map_map]
  · have hst' : st.id ≠ stage.id := fun he => hnl (by rw [hids.eq hst hstage he]; exact mem_cons_self)
    have hin := hkept st hst
    simp only [comp_apply, hother st hst'] at hin ⊢
    exact hf.rest st hin fun h => hnl (mem_cons_of_mem _ h)
  · simp only [comp_apply]
    by_cases he : st.id = stage.id
    · rw [hids.eq hst hstage he, hself, hx, hfixed]
    have hin := hkept st hst
    rw [hother st he] at hin ⊢
    exact hf.fixed st hin
  · simp only [comp_apply]
    rcases mem_cons.1 hst with rfl | hst
    · rw [hself, hx]
      exact ⟨hlife, fun _ => hnone⟩
    · rw [hrest st hst]
      exact hf.ended hd st hst
  · obtain ⟨pre, st, post, hsplit, hp, hjob, hsent, hjobId, hrun, hpre, hpost⟩ := hf.sent sent job hd
    have hin : ∀ y ∈ pre ++ st :: post, replaceStage x y = y := fun y hy => hrest y (hsplit ▸ hy)
    refine ⟨stage :: pre, st, post, by rw [hsplit]; rfl, hp, hjob, hsent, hjobId, ?_, fun y hy => ?_,
      fun y hy => ?_⟩
    · rw [comp_apply, hin st (by simp), hrun]
    · rcases mem_cons.1 hy with rfl | hy
      · rw [comp_apply, hself, hx, hlife]
      · rw [comp_apply, hin y (by simp [hy]), hpre y hy]
    · rw [comp_apply, hin y (by simp [hy]), hpost y hy]

/-- A pending stage with targets is replaced by `x`, and the loop ends. -/
lemma Prepares.send {stage x : ScanStage V} {job : SensorJob U V} (hids : DistinctIds scan.stages)
    (hstage : stage ∈ scan.stages) (hne : ∀ st ∈ rest, st.id ≠ stage.id) (hp : stage.status = .pending)
    (hfixed : x.fixed = stage.fixed) (hlife : x.life = { stage.life with status := .running })
    (hjobStage : job.stageId = stage.id) (hjobId : job.jobId = jobId) :
    Prepares p jobId (stage :: rest) scan ⟨scan.setStage x, log, some (x, job)⟩ (replaceStage x) := by
  have hid : x.id = stage.id := id_of_fixed hfixed
  have hself : replaceStage x stage = x := replaceStage_self hid.symm
  have hother : ∀ st, st.id ≠ stage.id → replaceStage x st = st := fun st h =>
    replaceStage_other (by rwa [hid])
  refine ⟨rfl, fun st hst hnl => hother st fun he => ?_, fun st hst => ?_, (fun hd => by cases hd),
    fun sent job' hd => ?_⟩
  · exact hnl (by rw [hids.eq hst hstage he]; exact mem_cons_self)
  · by_cases he : st.id = stage.id
    · rw [hids.eq hst hstage he, hself, hfixed]
    · rw [hother st he]
  simp only [some.injEq, Prod.mk.injEq] at hd
  obtain ⟨rfl, rfl⟩ := hd
  refine ⟨[], stage, rest, rfl, hp, hjobStage, hid, hjobId, ?_, by simp, fun y hy => hother y (hne y hy)⟩
  rw [hself, hlife]

lemma prepareStages_spec {pool jobId : Str} {now : Int} {l : List (ScanStage V)}
    (h : prepareStages p pool jobId now l scan log = some r) (hmem : ∀ st ∈ l, st ∈ scan.stages)
    (hids : DistinctIds scan.stages) (hl : DistinctIds l) :
    ∃ f, Prepares p jobId l scan r f := by
  induction l generalizing scan log with
  | nil =>
    simp only [prepareStages, some.injEq] at h
    subst h
    exact ⟨id, by simp, fun _ _ _ => rfl, fun _ _ => rfl, fun _ st hst => by simp at hst,
      fun _ _ hd => by cases hd⟩
  | cons stage rest ih =>
    have hstage : stage ∈ scan.stages := hmem stage mem_cons_self
    simp only [DistinctIds, map_cons, nodup_cons, List.mem_map, not_exists, not_and] at hl
    have hne : ∀ st ∈ rest, st.id ≠ stage.id := hl.1
    have hnot : ∀ st ∈ rest, st ≠ stage := fun st hst he => hne st hst (congrArg _ he)
    unfold prepareStages at h
    split at h
    · -- not pending: the loop passes it by
      next hpending =>
      obtain ⟨f, hf⟩ := ih h (fun st hst => hmem st (mem_cons_of_mem _ hst)) hids hl.2
      have hself : f stage = stage := hf.rest stage hstage fun hin => hnot stage hin rfl
      refine ⟨f, hf.scan_eq, fun st hst hnl => hf.rest st hst fun hin => hnl (mem_cons_of_mem _ hin),
        hf.fixed, fun hd st hst => ?_, fun sent job hd => ?_⟩
      · rcases mem_cons.1 hst with rfl | hst
        · exact ⟨by rw [hself, life_skip_of_not_pending hpending], fun hp => absurd hp hpending⟩
        · exact hf.ended hd st hst
      obtain ⟨pre, st, post, hsplit, hp, hjob, hsent, hid, hrun, hpre, hpost⟩ := hf.sent sent job hd
      refine ⟨stage :: pre, st, post, by rw [hsplit]; rfl, hp, hjob, hsent, hid, hrun, fun x hx => ?_, hpost⟩
      rcases mem_cons.1 hx with rfl | hx
      · rw [hself, life_skip_of_not_pending hpending]
      · exact hpre x hx
    next hpending =>
    rw [not_not] at hpending
    split at h
    · cases h
    next auth hauth =>
    simp only [] at h
    split at h
    · -- skipped: the loop goes on with the stage replaced
      next hnone =>
      have hkeep : ∀ st ∈ rest, st ∈ scan.stages := fun st hst => hmem st (mem_cons_of_mem _ hst)
      obtain ⟨f, hf⟩ := ih h
        (fun st hst => List.mem_map.2 ⟨st, hkeep st hst, replaceStage_other (hne st hst)⟩)
        (hids.replace _) hl.2
      refine ⟨_, Prepares.skip hids hstage hne ?_ ?_ ⟨auth, hauth, hnone⟩ hf⟩
      · rfl
      · simp [ScanStage.life, StageLife.skip, hpending]
    -- sent out
    next hsome =>
    split at h
    · cases h
    next job hjob =>
    simp only [some.injEq] at h
    subst h
    obtain ⟨-, hjobStage, hjobId⟩ := sensorJob_columns hjob
    exact ⟨_, Prepares.send hids hstage hne hpending rfl rfl hjobStage hjobId⟩

/-! ## The step -/

def Scan.Kept (scan scan' : Scan V) : Prop :=
  scan'.id = scan.id ∧ scan'.tenantId = scan.tenantId ∧ scan'.targetOverride = scan.targetOverride ∧
    scan'.authHeaderName = scan.authHeaderName ∧ scan'.retainRawOutput = scan.retainRawOutput ∧
    scan'.stages.map ScanStage.fixed = scan.stages.map ScanStage.fixed

lemma ScanStage.life_cancel (now : Int) (st : ScanStage V) : (st.cancel now).life = st.life.cancel := by
  unfold ScanStage.cancel StageLife.cancel
  cases hs : st.status <;> simp [ScanStage.life, StageStatus.isDone, hs]

lemma ScanStage.fixed_cancel (now : Int) (st : ScanStage V) : (st.cancel now).fixed = st.fixed := by
  unfold ScanStage.cancel
  split <;> rfl

/-- **The next stage.**  Of a running scan, the first pending stage with targets is sent out and the
pending ones before it are skipped; without one, all pending stages are skipped, or the scan is
cancelled. -/
theorem prepareNextStage_life {now : Int}
    (h : prepareNextStage U p scan jobId now = some r) (hrun : scan.status = .running)
    (hids : DistinctIds scan.stages) (hpos : (scan.stages.map ScanStage.position).Nodup) :
    scan.Kept r.scan ∧
    match r.dispatched with
    | some (sent, job) => ∃ x ∈ scan.stages, x.status = .pending ∧ sent.id = x.id ∧
        job.stageId = x.id ∧ job.jobId = jobId ∧ r.scan.life = scan.life.send x.life
    | none => r.scan.life = scan.life.cancel ∨ (r.scan.life = scan.life.skipAll ∧
        ∀ st ∈ scan.stages, st.status = .pending → NoTargets U p scan.targetOverride st) := by
  unfold prepareNextStage at h
  rw [if_neg (not_not.2 hrun)] at h
  split at h
  · -- the tenant or the organization is no longer active
    simp only [some.injEq] at h
    subst h
    refine ⟨⟨rfl, rfl, rfl, rfl, rfl, ?_⟩, .inl ?_⟩
    · simp only [Scan.cancel, List.map_map]
      exact map_congr_left fun st _ => ScanStage.fixed_cancel now st
    · simp only [Scan.life, Scan.cancel, Life.cancel, List.map_map, Life.mk.injEq, true_and]
      exact map_congr_left fun st _ => ScanStage.life_cancel now st
  · cases h
  have hperm := perm_insertionSort (fun a b : ScanStage V => a.position ≤ b.position) scan.stages
  have hmem : ∀ {st}, st ∈ scan.stages.insertionSort (fun a b => a.position ≤ b.position) ↔
      st ∈ scan.stages := hperm.mem_iff
  obtain ⟨f, hf⟩ := prepareStages_spec h (fun st hst => hmem.1 hst) hids
    ((hperm.map ScanStage.id).nodup_iff.2 hids)
  have hkept : scan.Kept r.scan := by
    rw [hf.scan_eq]
    refine ⟨rfl, rfl, rfl, rfl, rfl, ?_⟩
    rw [List.map_map]
    exact map_congr_left hf.fixed
  refine ⟨hkept, ?_⟩
  have hlife : ∀ g : StageLife → StageLife, (∀ st ∈ scan.stages, (f st).life = g st.life) →
      r.scan.life = { scan.life with stages := scan.life.stages.map g } := by
    intro g hg
    rw [hf.scan_eq]
    simp only [Scan.life, List.map_map, Life.mk.injEq, true_and]
    exact map_congr_left hg
  cases hd : r.dispatched with
  | none =>
    refine .inr ⟨hlife _ fun st hst => (hf.ended hd st (hmem.2 hst)).1, fun st hst => ?_⟩
    exact (hf.ended hd st (hmem.2 hst)).2
  | some sj =>
    obtain ⟨sent, job⟩ := sj
    obtain ⟨pre, x, post, hsplit, hp, hjob, hsent, hjobId, hx, hpre, hpost⟩ := hf.sent sent job hd
    have hxmem : x ∈ scan.stages := hmem.1 (by rw [hsplit]; simp)
    refine ⟨x, hxmem, hp, hsent, hjob, hjobId, hlife _ fun st hst => ?_⟩
    -- where the stage stands in the order decides what happened to it
    have hsorted : (pre ++ x :: post).Pairwise fun a b => a.position ≤ b.position := by
      rw [← hsplit]
      exact pairwise_insertionSort _ _
    rw [pairwise_append, pairwise_cons] at hsorted
    have hdiff : st ≠ x → st.id ≠ x.id ∧ st.position ≠ x.position := fun hne =>
      ⟨fun he => hne (hids.eq hst hxmem he), fun he => hne (inj_on_of_nodup_map hpos hst hxmem he)⟩
    by_cases hst' : st = x
    · subst hst'
      rw [hx]
      simp [StageLife.send]
    obtain ⟨hid, hposne⟩ := hdiff hst'
    have hmem' := hmem.2 hst
    rw [hsplit] at hmem'
    have hside : st ∈ pre ∨ st ∈ post := by simpa [hst'] using hmem'
    rcases hside with hs | hs
    · have hle := hsorted.2.2 st hs x mem_cons_self
      rw [hpre st hs]
      have hlt : st.life.position < x.life.position := lt_of_le_of_ne hle hposne
      simp [StageLife.send, hlt, show st.life.id ≠ x.life.id from hid]
    have hle := hsorted.2.1.1 st hs
    rw [hpost st hs]
    have hge : ¬ st.life.position < x.life.position := not_lt.2 hle
    simp [StageLife.send, hge, show st.life.id ≠ x.life.id from hid]

end App.Scans
