import AttackSurface.Scans.Stages

/-!
# What a submitted result can change

A result message, genuine or not, is taken up by a session that ends with one commit at
most.  What it changes is one running stage, which the message answers field by field and
with the key of the stage's pool, or the records of a screenshot capture:

    a submission's step  →  nothing, captures only, or one stage       (envelope_completes_one_stage)
    messages made with one pool's key leave the stages of another pool alone
    an envelope is ingested once
-/

namespace App.Scans

open PyText AsmSensors Transactions Machines List Option

variable {U : Unicode} {V J : Type}

/-! ## The commit, exactly -/

section Exact

variable {env : StageEnv V} {result : SensorResult J} {now : Int} {r c : ScanStage V}
  {rs cs : List (ScanStage V)} {row cur : ScanRow V}

@[simp] lemma ScanStage.writeBack_self : r.writeBack r c = c := by simp [ScanStage.writeBack]

/-- `complete_stage` does not look at `dispatched_at`. -/
lemma writeBack_completeStage (h : r.erase = c.erase) :
    r.writeBack (env.completeStage result now r) c = env.completeStage result now c := by
  cases r
  cases c
  simp only [ScanStage.erase, ScanStage.mk.injEq, true_and] at h
  obtain ⟨rfl, rfl, rfl, rfl, rfl, rfl, rfl, rfl, rfl, rfl, rfl, rfl, rfl, rfl⟩ := h
  unfold StageEnv.completeStage
  simp only []
  split
  · simp only [ScanStage.writeBack, writeBack_read, writeBack_unchanged]
    rfl
  · simp [ScanStage.writeBack, writeBack_read, writeBack_unchanged]

def completed (env : StageEnv V) (result : SensorResult J) (now : Int) (id : Nat) (st : ScanStage V) : ScanStage V :=
  if st.id = id then env.completeStage result now st else st

lemma writeBackStages_completed {id : Nat} (h : rs.map ScanStage.erase = cs.map ScanStage.erase) :
    writeBackStages rs (rs.map (completed env result now id)) cs = cs.map (completed env result now id) := by
  induction rs generalizing cs with
  | nil =>
    cases cs with
    | nil => rfl
    | cons c cs => simp at h
  | cons r rs ih =>
    cases cs with
    | nil => simp at h
    | cons c cs =>
      simp only [map_cons, cons.injEq] at h
      simp only [map_cons, writeBackStages, cons.injEq]
      refine ⟨?_, ih h.2⟩
      have hid : r.erase.id = c.erase.id := congrArg ScanStage.id h.1
      change r.id = c.id at hid
      unfold completed
      rw [hid]
      split
      · exact writeBack_completeStage h.1
      · exact ScanStage.writeBack_self

lemma setStage_completed (hids : DistinctIds row.stages) (hst : r ∈ row.stages) :
    row.setStage (env.completeStage result now r) =
      { row with stages := row.stages.map (completed env result now r.id) } := by
  have hid : (env.completeStage result now r).id = r.id := id_of_fixed (fixed_completeStage env result now r)
  simp only [ScanRow.setStage, setStage_stages, ScanRow.mk.injEq, Scan.mk.injEq, and_true, true_and]
  refine map_congr_left fun y hy => ?_
  unfold completed replaceStage
  rw [hid]
  by_cases h : y.id = r.id
  · rw [if_pos h, if_pos h, hids.eq hy hst h]
  · rw [if_neg h, if_neg h]

lemma writeBack_setStage (he : row.erase = cur.erase) (hids : DistinctIds row.stages)
    (hr : r ∈ row.stages) (hc : c ∈ cur.stages) (hid : c.id = r.id) (hidsc : DistinctIds cur.stages) :
    row.writeBack (row.setStage (env.completeStage result now r)) cur =
      cur.setStage (env.completeStage result now c) := by
  rw [setStage_completed hids hr, setStage_completed hidsc hc, hid]
  simp only [ScanRow.erase, ScanRow.mk.injEq, Scan.mk.injEq] at he
  simp [ScanRow.writeBack, writeBack_unchanged, writeBackStages_completed he.1.2.2.2.2.1]

lemma Db.apply_single {d : Db V} {read written cur : ScanRow V} (hcur : d.scans[read.id]? = some cur) :
    d.apply [(read, written)] = { d with scans := d.scans.set read.id (read.writeBack written cur) } := by
  have hscans : (d.apply [(read, written)]).scans = d.scans.set read.id (read.writeBack written cur) := by
    apply ext_getElem?
    intro i
    by_cases hi : read.id = i
    · subst hi
      obtain ⟨hlt, -⟩ := List.getElem?_eq_some_iff.1 hcur
      rw [Db.getElem?_apply_single hcur, getElem?_set_self hlt]
    · rw [Db.getElem?_apply_other hi, getElem?_set_ne hi]
  rw [← hscans]
  rfl

end Exact

/-! ## One submission -/

def Session.submission : Session V J → Option (Submission J)
  | .submit sub | .resultLocked sub _ _ _ _ => some sub
  | _ => none

/-- What handling a message may do. -/
inductive Handled (S : Settings V J) (sub : Submission J) (d : Db V) : Db V → Prop
  | nothing : Handled S sub d d
  /-- a screenshot: only capture records -/
  | screenshot (captures : List Capture) (env : ResultEnvelope J) (result : SensorResult J) :
      S.transport.openResult sub = some (env, result) → result.adapter = screenshotAdapter →
      env.pool ∈ sub.keys → Handled S sub d { d with captures }
  /-- one running stage, that the result answers -/
  | stage (env : ResultEnvelope J) (result : SensorResult J) (scan : Nat) (row : ScanRow V) (st : ScanStage V) :
      S.transport.openResult sub = some (env, result) → env.pool ∈ sub.keys →
      S.transport.uuid env.scanId = some scan → S.transport.uuid env.stageId = some st.id →
      d.scans[scan]? = some row → st ∈ row.stages → Bound S.transport row st env result →
      Handled S sub d
        { d with scans := d.scans.set scan (row.setStage (S.stageEnv.completeStage result d.clock st)) }

def Handles (S : Settings V J) (sub : Submission J) (d : Db V) :
    Effect Lock (Db V) (Session V J) (Event J) → Prop
  | .goOn _ => False
  | .lock _ t => t.submission = some sub
  | .commit d' _ t => Handled S sub d d' ∧ t = none
  | .rollback => True

section Handled

variable {S : Settings V J} {H : Lock → Prop} {d d' : Db V} {sub : Submission J} {row cur : ScanRow V}

lemma Bound.current {tr : Transport J} {env : ResultEnvelope J} {result : SensorResult J} {r c : ScanStage V}
    (h : Bound tr row r env result) (he : row.erase = cur.erase) (hrc : r.erase = c.erase) :
    Bound tr cur c env result := by
  have hr := congrArg (fun x : ScanRow V => (x.tenantId, x.status)) he
  have hc := congrArg (fun x : ScanStage V => (x.taskId, x.pool, x.engine, x.status)) hrc
  simp only [ScanRow.erase, ScanStage.erase, Prod.mk.injEq] at hr hc
  exact ⟨by rw [← hr.1]; exact h.tenant, by rw [← hc.1]; exact h.job, hc.2.1.symm.trans h.pool,
    h.engine.trans hc.2.2.1, hc.2.2.2.symm.trans h.stageRunning, hr.2.symm.trans h.scanRunning⟩

lemma stage_of_erase {r : ScanStage V} (he : row.erase = cur.erase) (hr : r ∈ row.stages) :
    ∃ c ∈ cur.stages, r.erase = c.erase := by
  have hmem : r.erase ∈ cur.stages.map ScanStage.erase := by
    have hstages := congrArg (fun x : ScanRow V => x.stages) he
    simp only [ScanRow.erase] at hstages
    rw [← hstages]
    exact List.mem_map_of_mem hr
  obtain ⟨c, hc, hce⟩ := List.mem_map.1 hmem
  exact ⟨c, hc, hce.symm⟩

/-- **One statement of a submission's session.** -/
theorem Settings.next_submission (hd : d.Sound) {t : Session V J} {a : Input V}
    {e : Effect Lock (Db V) (Session V J) (Event J)} (h : t.holds S.transport H d)
    (hsub : t.submission = some sub) (hgen : S.transport.Genuine sub) (hn : S.next U t a d = some e) :
    Handles S sub d e := by
  have hkey : ∀ {env result}, S.transport.openResult sub = some (env, result) → env.pool ∈ sub.keys := by
    intro env result hopen
    obtain ⟨henv, hmac⟩ := Transport.openResult_spec hopen
    exact hgen env henv hmac
  cases t <;> simp only [Session.submission, reduceCtorEq, some.injEq] at hsub
  case submit sub' =>
    subst hsub
    simp only [Settings.next, some.injEq] at hn
    subst hn
    unfold Settings.receiveResult
    split
    · trivial
    next env result hopen =>
    split
    · split
      · next hadapter => exact ⟨.screenshot _ env result hopen hadapter (hkey hopen), rfl⟩
      split
      · trivial
      split
      · trivial
      · rfl
    · trivial
  case resultLocked sub' env result stage row =>
    subst hsub
    simp only [Settings.next, some.injEq] at hn
    subst hn
    obtain ⟨hheld, hopen, hscan, hstage, -⟩ := h
    rcases S.completeStage_commit hd env result stage hheld with hr | ⟨st, hst, hid, hb, hc⟩
    · rw [hr]
      trivial
    rw [hc]
    refine ⟨?_, rfl⟩
    have hwf := hheld.wf hd
    obtain ⟨-, cur, hcur, he⟩ := hheld
    obtain ⟨c, hcm, hce⟩ := stage_of_erase he hst
    have hcid : c.erase.id = st.erase.id := (congrArg ScanStage.id hce).symm
    change c.id = st.id at hcid
    rw [Db.apply_single hcur,
      writeBack_setStage he hwf.distinctIds hst hcm hcid (hd.wf _ cur hcur).distinctIds]
    refine .stage env result row.id cur c hopen (hkey hopen) hscan ?_ hcur hcm (hb.current he hce)
    rw [hcid, hid]
    exact hstage

lemma Handled.other (h : Handled S sub d d') (hd : d.Sound) {P : Str} (hkeys : ∀ k ∈ sub.keys, k = P)
    {i : Nat} (hrow : d.scans[i]? = some row) :
    ∃ row', d'.scans[i]? = some row' ∧ ∀ st ∈ row.stages, st.pool ≠ P → st ∈ row'.stages := by
  cases h with
  | nothing | screenshot captures env result _ _ _ => exact ⟨row, hrow, fun st hst _ => hst⟩
  | stage env result scan cur st _ hpool _ _ hcur hst hb =>
    by_cases hi : scan = i
    · subst hi
      rw [hrow] at hcur
      cases hcur
      obtain ⟨hlt, -⟩ := List.getElem?_eq_some_iff.1 hrow
      refine ⟨_, getElem?_set_self hlt, fun x hx hp => ?_⟩
      -- the stage that is completed belongs to the pool
      have hne : x.id ≠ (S.stageEnv.completeStage result d.clock st).id := by
        intro hid
        rw [id_of_fixed (fixed_completeStage S.stageEnv result d.clock st)] at hid
        rw [(hd.wf _ row hrow).distinctIds.eq hx hst hid, hb.pool] at hp
        exact hp (hkeys _ hpool)
      exact List.mem_map.2 ⟨x, hx, replaceStage_other hne⟩
    · exact ⟨row, by rw [getElem?_set_ne hi]; exact hrow, fun x hx _ => hx⟩

end Handled

/-! ## Ingested envelopes -/

def ingestedEnvelopes (es : List (Event J)) : List (ResultEnvelope J) := es.filterMap fun
    | .ingested _ _ env => some env
    | _ => none

def Transport.names (tr : Transport J) (env : ResultEnvelope J) : Option Nat × Option Nat :=
  (tr.uuid env.scanId, tr.uuid env.stageId)

section Ingested

variable {S : Settings V J} {H : Lock → Prop} {d d' : Db V} {ws : List (ScanRow V × ScanRow V)}
  {es : List (Event J)} {i n : Nat} {env : ResultEnvelope J}

lemma ingested_of_mem_append (h : Event.ingested i n env ∈ d.entered ws ++ es) : Event.ingested i n env ∈ es :=
  mem_of_mem_entered_append h fun _ _ _ he => by cases he

variable {t' : Option (Session V J)}

lemma finalizeScan_not_ingested {read prepared : ScanRow V}
    (h : d.finalizeScan read prepared = .commit d' es t') : Event.ingested i n env ∉ es := by
  intro he
  unfold Db.finalizeScan at h
  simp only [Db.commitRows] at h
  split at h <;> cases h <;> have he := ingested_of_mem_append he <;> revert he <;> split <;> simp

/-- Which session a commit tells of: one that advances a scan, or one that ingests a result. -/
lemma Settings.event_next {t : Session V J} {a : Input V} {e : Event J}
    (hn : S.next U t a d = some (.commit d' es t')) (he : e ∈ es) (hnew : ∀ i s p, e ≠ .entered i s p) :
    (∃ row, t = .advanceLocked row ∧ ∀ i n env, e ≠ .ingested i n env) ∨
      ∃ sub env result stage row i n, t = .resultLocked sub env result stage row ∧ e = .ingested i n env := by
  have happend : ∀ {d : Db V} {ws es}, e ∈ d.entered ws ++ es → e ∈ es := fun h => mem_of_mem_entered_append h hnew
  cases t
  case advanceLocked row =>
    refine .inl ⟨row, rfl, ?_⟩
    rintro i n env rfl
    simp only [Settings.next, Db.advanceScan, some.injEq] at hn
    split at hn
    · cases hn
    split at hn
    · cases hn
    split at hn
    · cases hn
    split at hn
    · cases hn
      cases happend he
    · exact finalizeScan_not_ingested hn he
  case resultLocked sub env result stage row =>
    simp only [Settings.next, Settings.completeStage, Db.commitRows] at hn
    split at hn <;> cases hn
    have he := happend he
    split at he
    · exact .inr ⟨sub, env, result, stage, row, _, _, rfl, mem_singleton.1 he⟩
    · cases he
  all_goals
    exfalso
    simp only [Settings.next, Settings.receiveResult, Settings.failStage, Settings.insertScan, Db.lockScan,
      Db.commitRows] at hn
    (repeat' split at hn) <;> first
      | (cases hn; cases he)
      | (cases hn; cases happend he)
      | cases hn

lemma Settings.ingested_names (hd : d.Sound) {t : Session V J} {a : Input V}
    (h : t.holds S.transport H d) (hn : S.next U t a d = some (.commit d' es t'))
    (he : Event.ingested i n env ∈ es) : S.transport.names env = (some i, some n) := by
  rcases Settings.event_next hn he (fun _ _ _ he => by cases he) with
    ⟨_, -, hno⟩ | ⟨sub, _, result, stage, row, _, _, rfl, ⟨⟩⟩
  · exact absurd rfl (hno i n env)
  obtain ⟨hheld, -, hscan, hstage, -⟩ := h
  simp only [Settings.next, some.injEq] at hn
  rcases S.completeStage_commit hd env result stage hheld with hr | ⟨st, -, hid, -, hc⟩
  · rw [hr] at hn
    cases hn
  rw [hc] at hn
  cases hn
  have he := ingested_of_mem_append he
  split at he
  · rw [mem_singleton] at he
    cases he
    rw [Transport.names, hscan, hstage, hid]
  · cases he

lemma names_ingested {tr : Transport J} (h : ∀ i n env, Event.ingested i n env ∈ es → tr.names env = (some i, some n)) :
    (ingestedEnvelopes es).map tr.names = (ingestedOf es).map fun e => (some e.1, some e.2) := by
  induction es with
  | nil => rfl
  | cons e es ih =>
    have ih := ih fun i n env he => h i n env (mem_cons_of_mem _ he)
    cases e with
    | ingested i n env =>
      have hone := h i n env mem_cons_self
      exact congrArg₂ cons hone ih
    | entered _ _ _ | finalized _ _ | baseline _ _ => exact ih

end Ingested

/-! ## Every run -/

instance (tr : Transport J) (sub : Submission J) : Decidable (tr.Genuine sub) :=
  decidable_of_iff (sub.envelope.all fun env => decide (tr.mac env.toSigned = env.mac → env.pool ∈ sub.keys)) (by
    unfold Transport.Genuine
    cases sub.envelope with
    | none => simp
    | some env => simp only [Option.all_some, decide_eq_true_eq, Option.some.injEq, forall_eq'])

/-- The session handles a message that was made with pool `P`'s key alone. -/
def Settings.madeWith (S : Settings V J) (P : Str) (t : Session V J) : Bool :=
  t.submission.any fun sub => decide (S.transport.Genuine sub) && sub.keys.all fun k => k = P

section Runs

variable {S : Settings V J} {d₀ : Db V} {s : Store Lock (Db V) (Session V J)}
  {as : List (Action (Task V J) (Input V) Nat)} {log : List (Event J)}

lemma Settings.run_names (hd : d₀.Sound) (h : Run (S.program U).machine (Store.idle d₀) as s log) :
    ∀ i n env, Event.ingested i n env ∈ log → S.transport.names env = (some i, some n) := by
  refine (S.base_kept.invariant (fun _ log => ∀ i n env, Event.ingested i n env ∈ log →
    S.transport.names env = (some i, some n)) ?_ (fun _ _ _ hi => hi) (Settings.base_idle hd) (by simp) h).2
  intro t H a d log d' es t' hd ht hn hi i n env he
  rcases mem_append.1 he with he | he
  · exact hi i n env he
  · exact Settings.ingested_names hd ht hn he

lemma Settings.run_ingested_once (hd : d₀.Sound) (h : Run (S.program U).machine (Store.idle d₀) as s log) :
    (ingestedEnvelopes log).Nodup := by
  have hnodup : ((ingestedOf log).map fun e => (some e.1, some e.2)).Nodup := by
    refine (Settings.run_stageLog hd h).2.once.map fun a b hab => ?_
    simpa [Prod.ext_iff] using hab
  rw [← names_ingested (Settings.run_names hd h)] at hnodup
  exact hnodup.of_map

/-- **Non-interference between pools.** -/
theorem Settings.run_other_pool (hgood : S.base.Good s []) (P : Str)
    {as' : List (Action (Task V J) (Input V) Nat)} {s' : Store Lock (Db V) (Session V J)} {log' : List (Event J)}
    (h : Run ((S.program U).restrict fun t _ _ => S.madeWith P t).machine s as' s' log') {i : Nat} {row : ScanRow V}
    (hrow : s.data.scans[i]? = some row) :
    ∃ row', s'.data.scans[i]? = some row' ∧ ∀ st ∈ row.stages, st.pool ≠ P → st ∈ row'.stages := by
  refine ((S.base_kept.restrict _).invariant (fun d _ => ∃ row', d.scans[i]? = some row' ∧
    ∀ st ∈ row.stages, st.pool ≠ P → st ∈ row'.stages) ?_ (fun _ _ _ hi => hi) hgood
    ⟨row, hrow, fun st hst _ => hst⟩ h).2
  rintro t H a d log d' es t' hd ht hn ⟨cur, hcur, hkept⟩
  obtain ⟨hmade, hn⟩ := Program.next_of_restrict hn
  obtain ⟨sub, hsub, hmade⟩ := (Option.any_eq_true _ _).1 hmade
  simp only [Bool.and_eq_true, decide_eq_true_eq, List.all_eq_true] at hmade
  obtain ⟨hhandled, -⟩ := Settings.next_submission hd ht hsub hmade.1 hn
  obtain ⟨new, hnew, hother⟩ := hhandled.other hd hmade.2 hcur
  exact ⟨new, hnew, fun st hst hp => hother st (hkept st hst hp) hp⟩

def oneMessage (tenantId scanId stageId : Nat) (adapter : Str) : Submission Str where
  envelope := some
    { jobId := "job".toList
      tenantId := List.replicate tenantId '1'
      scanId := List.replicate scanId '1'
      stageId := List.replicate stageId '1'
      pool := "default".toList
      result := adapter
      mac := "default".toList }
  keys := ["default".toList]

def oneResult : List (Action (Task Unit Str) (Input Unit) Nat) :=
  session 0 (.startScan 0) oneInput 7 ++ session 0 (.advanceScan 0) oneInput 2 ++
    session 1 (.submitResult (oneMessage 1 0 7 "dnsx".toList)) oneInput 1

def captureDb : Db Unit :=
  { captures := [{ id := 0, tenantId := 0, assetId := 0, status := .running, taskId := some "job".toList }] }

lemma captureDb_sound : captureDb.Sound := ⟨by simp [captureDb], by simp [captureDb], by simp [captureDb]⟩

end Runs

end App.Scans
