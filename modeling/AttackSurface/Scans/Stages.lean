import AttackSurface.Scans.Assertions

/-!
# The stages of a scan run one by one, in order

Over any interleaving of the scan tasks, with crashes and messages delivered again:

    a stage is sent out once, and the stages of a scan in the order of their positions
    at most one stage of a scan is running
    a stage's result is ingested once
    a stage that has ended keeps its status                     (stages_run_in_order)

The invariant ties the log to the rows: what was sent out is no longer pending, and every
stage that still is stands after it (`StageLog`).
-/

namespace App.Scans

open PyText AsmSensors Transactions Machines List

variable {U : Unicode} {V J : Type}

/-! ## Onward -/

def Life.Onward (l l' : Life) : Prop :=
  ∃ f : StageLife → StageLife, l'.stages = l.stages.map f ∧ ∀ st ∈ l.stages, st.Later (f st)

lemma StageLife.Later.trans {a b c : StageLife} (h : a.Later b) (h' : b.Later c) : a.Later c :=
  ⟨h'.id.trans h.id, h'.position.trans h.position, h.status.trans h'.status⟩

lemma Life.Onward.refl (l : Life) : l.Onward l := ⟨id, by simp, fun st _ => .refl st⟩

lemma Life.Onward.trans {l l' l'' : Life} (h : l.Onward l') (h' : l'.Onward l'') : l.Onward l'' := by
  obtain ⟨f, hf, hlater⟩ := h
  obtain ⟨g, hg, hlater'⟩ := h'
  refine ⟨g ∘ f, by rw [hg, hf, List.map_map], fun st hst => ?_⟩
  have hmem : f st ∈ l'.stages := by
    rw [hf]
    exact List.mem_map_of_mem hst
  exact (hlater st hst).trans (hlater' _ hmem)

variable {H : Lock → Prop}

lemma RowStep.onward {i : Nat} {cur new : ScanRow V} (h : RowStep H i cur new)
    (hwf : cur.life.Wf) : cur.life.Onward new.life := by
  rcases h.step with h | h
  · rw [h]
    exact .refl _
  · exact h.forward hwf.ids

section Onward

variable {l l' : Life}

lemma Life.Onward.later (h : l.Onward l') {st : StageLife} (hst : st ∈ l.stages) :
    ∃ st' ∈ l'.stages, st.Later st' := by
  obtain ⟨f, hf, hlater⟩ := h
  exact ⟨f st, by rw [hf]; exact List.mem_map_of_mem hst, hlater st hst⟩

lemma Life.Onward.earlier (h : l.Onward l') {st' : StageLife} (hst : st' ∈ l'.stages) :
    ∃ st ∈ l.stages, st.Later st' := by
  obtain ⟨f, hf, hlater⟩ := h
  rw [hf] at hst
  obtain ⟨st, hmem, rfl⟩ := List.mem_map.1 hst
  exact ⟨st, hmem, hlater st hmem⟩

lemma StageStatus.Forward.pending {a b : StageStatus} (h : a.Forward b) (hb : b = .pending) : a = .pending := by
  rcases h with rfl | h
  · exact hb
  · rw [hb] at h
    cases h

lemma Life.Wf.stage_eq (h : l.Wf) {a b : StageLife} (ha : a ∈ l.stages) (hb : b ∈ l.stages)
    (hid : a.id = b.id) : a = b :=
  inj_on_of_nodup_map h.ids ha hb hid

end Onward

/-! ## The log and the rows -/

/-- A stage that was sent out: it is not pending, and what is pending stands after it. -/
structure SentOut (l : Life) (stage : Nat) (position : Int) : Prop where
  sent : ∃ st ∈ l.stages, st.id = stage ∧ st.status ≠ .pending
  after : ∀ st ∈ l.stages, st.status = .pending → position < st.position

def Ended (l : Life) (stage : Nat) : Prop := ∃ st ∈ l.stages, st.id = stage ∧ st.status.isDone = true

variable {l l' : Life}

lemma SentOut.onward {stage : Nat} {position : Int} (h : SentOut l stage position)
    (ho : l.Onward l') : SentOut l' stage position where
  sent := by
    obtain ⟨st, hst, hid, hp⟩ := h.sent
    obtain ⟨st', hst', hlater⟩ := ho.later hst
    exact ⟨st', hst', hlater.id.trans hid, fun hp' => hp (hlater.status.pending hp')⟩
  after st' hst' hp' := by
    obtain ⟨st, hst, hlater⟩ := ho.earlier hst'
    rw [hlater.position]
    exact h.after st hst (hlater.status.pending hp')

lemma Ended.onward {stage : Nat} (h : Ended l stage) (ho : l.Onward l') : Ended l' stage := by
  obtain ⟨st, hst, hid, hdone⟩ := h
  obtain ⟨st', hst', hlater⟩ := ho.later hst
  refine ⟨st', hst', hlater.id.trans hid, ?_⟩
  rw [hlater.status.eq_of_isDone hdone]
  exact hdone

lemma Life.Sends.sentOut {x : StageLife} (h : l.Sends l' x) : SentOut l' x.id x.position where
  sent := by
    have hmem : { x with status := .running } ∈ l.entered l' := by
      rw [h.entered]
      exact mem_cons_self
    obtain ⟨hst, -, -⟩ := Life.mem_entered.1 hmem
    exact ⟨_, hst, rfl, fun hp => by cases hp⟩
  after := h.first

/-- What the log says about the rows. -/
structure StageLog (d : Db V) (log : List (Event J)) : Prop where
  entered : ∀ e ∈ enteredOf log, ∃ row, d.scans[e.1]? = some row ∧ SentOut row.life e.2.1 e.2.2
  order : (enteredOf log).Pairwise fun a b => a.1 = b.1 → a.2.1 ≠ b.2.1 ∧ a.2.2 < b.2.2
  ingested : ∀ e ∈ ingestedOf log, ∃ row, d.scans[e.1]? = some row ∧ Ended row.life e.2
  once : (ingestedOf log).Nodup

lemma Db.Commits.onward {d d' : Db V} {es : List (Event J)} (hd : d.Sound)
    (h : Db.Commits H d d' es) {i : Nat} {cur : ScanRow V} (hcur : d.scans[i]? = some cur) :
    ∃ new, d'.scans[i]? = some new ∧ cur.life.Onward new.life := by
  obtain ⟨new, hnew, hstep⟩ := h.old i cur hcur
  exact ⟨new, hnew, hstep.onward (hd.wf i cur hcur)⟩

/-- **A commit keeps the log in step with the rows.** -/
theorem StageLog.commit {d d' : Db V} {log es : List (Event J)} (hd : d.Sound)
    (h : Db.Commits H d d' es) (hl : StageLog d log) : StageLog d' (log ++ es) := by
  have hentered : ∀ e ∈ enteredOf log, ∃ row, d'.scans[e.1]? = some row ∧ SentOut row.life e.2.1 e.2.2 := by
    intro e he
    obtain ⟨cur, hcur, hsent⟩ := hl.entered e he
    obtain ⟨new, hnew, ho⟩ := h.onward hd hcur
    exact ⟨new, hnew, hsent.onward ho⟩
  have hingested : ∀ e ∈ ingestedOf log, ∃ row, d'.scans[e.1]? = some row ∧ Ended row.life e.2 := by
    intro e he
    obtain ⟨cur, hcur, hend⟩ := hl.ingested e he
    obtain ⟨new, hnew, ho⟩ := h.onward hd hcur
    exact ⟨new, hnew, hend.onward ho⟩
  -- a result is ingested for a stage that was running and has ended
  have hnew : ∀ e ∈ ingestedOf es, e ∉ ingestedOf log ∧
      ∃ row, d'.scans[e.1]? = some row ∧ Ended row.life e.2 := by
    rintro ⟨i, s⟩ he
    simp only [ingestedOf, mem_filterMap] at he
    obtain ⟨ev, hev, hsome⟩ := he
    cases ev <;> simp only [reduceCtorEq, Option.some.injEq, Prod.mk.injEq] at hsome
    obtain ⟨rfl, rfl⟩ := hsome
    obtain ⟨cur, new, hcur, hnew, ⟨x, hx, hid, hrun⟩, y, hy, hyid, hydone⟩ := h.told _ hev
    refine ⟨fun hin => ?_, new, hnew, y, hy, hyid, hydone⟩
    obtain ⟨row, hrow, z, hz, hzid, hzdone⟩ := hl.ingested _ hin
    rw [hcur] at hrow
    cases hrow
    rw [(hd.wf _ cur hcur).stage_eq hz hx (hzid.trans hid.symm), hrun] at hzdone
    cases hzdone
  constructor
  · intro e he
    rw [enteredOf_append, mem_append] at he
    rcases he with he | he
    · exact hentered e he
    rcases h.entered with hnone | ⟨i, cur, new, x, hcur, hnew, hsends, hone⟩
    · rw [hnone] at he
      cases he
    rw [hone, mem_singleton] at he
    subst he
    exact ⟨new, hnew, hsends.sentOut⟩
  · rw [enteredOf_append]
    rcases h.entered with hnone | ⟨i, cur, new, x, hcur, hnew, hsends, hone⟩
    · rw [hnone, append_nil]
      exact hl.order
    -- what was sent out before stands before the pending stage that is sent out now
    rw [hone, pairwise_append]
    refine ⟨hl.order, pairwise_singleton _ _, fun a ha b hb hab => ?_⟩
    rw [mem_singleton] at hb
    subst hb
    obtain ⟨row, hrow, hsent⟩ := hl.entered a ha
    rw [hab, hcur] at hrow
    cases hrow
    refine ⟨fun hid => ?_, hsent.after x hsends.mem hsends.pending⟩
    obtain ⟨st, hst, hstid, hp⟩ := hsent.sent
    rw [(hd.wf i cur hcur).stage_eq hst hsends.mem (hstid.trans hid)] at hp
    exact hp hsends.pending
  · intro e he
    rw [ingestedOf_append, mem_append] at he
    rcases he with he | he
    · exact hingested e he
    · exact (hnew e he).2
  · rw [ingestedOf_append, nodup_append]
    refine ⟨hl.once, ?_, fun a ha b hb hab => (hnew b hb).1 (hab ▸ ha)⟩
    have hone := h.once
    cases hes : ingestedOf es with
    | nil => exact nodup_nil
    | cons e l =>
      rw [hes, length_cons] at hone
      have hnil : l = [] := eq_nil_of_length_eq_zero (by omega)
      rw [hnil]
      exact nodup_singleton e

/-! ## Every run -/

section Runs

variable {S : Settings V J} {d₀ : Db V} {s₀ s : Store Lock (Db V) (Session V J)}
  {as : List (Action (Task V J) (Input V) Nat)} {log : List (Event J)}

lemma Settings.run_invariant (I : Db V → List (Event J) → Prop)
    (hcommit : ∀ {H d d' log es}, d.Sound → Db.Commits H d d' es → I d log → I d' (log ++ es))
    (hpass : ∀ {d log} (now : Int), I d log → I { d with clock := now } log) (h₀ : S.base.Good s₀ [])
    (hI : I s₀.data []) (h : Run (S.program U).machine s₀ as s log) : S.base.Good s log ∧ I s.data log :=
  S.base_kept.invariant I
    (fun _ _ _ _ _ _ _ _ hd ht hn hi => hcommit hd (Settings.base_commit hd ht hn).1 hi)
    (fun _ _ _ hi => hpass _ hi) h₀ hI h

lemma Settings.base_restart (h : S.base.Good s log) : S.base.Good s [] := ⟨h.inv, h.free, h.holds⟩

lemma Settings.run_stageLog (hd : d₀.Sound) (h : Run (S.program U).machine (Store.idle d₀) as s log) :
    S.base.Good s log ∧ StageLog s.data log :=
  Settings.run_invariant StageLog (fun hd hc hl => hl.commit hd hc)
    (fun _ hl => ⟨hl.entered, hl.order, hl.ingested, hl.once⟩) (Settings.base_idle hd)
    ⟨by simp [enteredOf], by simp [enteredOf], by simp [ingestedOf], by simp [ingestedOf]⟩ h

lemma Settings.run_onward (h₀ : S.base.Good s₀ []) (h : Run (S.program U).machine s₀ as s log) {i : Nat}
    {row : ScanRow V} (hrow : s₀.data.scans[i]? = some row) :
    ∃ row', s.data.scans[i]? = some row' ∧ row.life.Onward row'.life := by
  refine (Settings.run_invariant (fun d _ => ∃ row', d.scans[i]? = some row' ∧ row.life.Onward row'.life)
    (fun hd hc hi => ?_) (fun _ hi => hi) h₀ ⟨row, hrow, .refl _⟩ h).2
  obtain ⟨cur, hcur, ho⟩ := hi
  obtain ⟨new, hnew, ho'⟩ := hc.onward hd hcur
  exact ⟨new, hnew, ho.trans ho'⟩

/-- **The stages of every scan run once, one at a time, in the order of their positions, and what has
ended stays as it is.** -/
theorem stages_run_in_order (hd : d₀.Sound) (h : Run (S.program U).machine (Store.idle d₀) as s log) :
    ((enteredOf log).map fun e => (e.1, e.2.1)).Nodup ∧
    (enteredOf log).Pairwise (fun a b => a.1 = b.1 → a.2.2 < b.2.2) ∧
    (∀ row ∈ s.data.scans, ∀ a ∈ row.stages, ∀ b ∈ row.stages,
      a.status = .running → b.status = .running → a = b) ∧
    (ingestedOf log).Nodup ∧
    ∀ as' s' log', Run (S.program U).machine s as' s' log' →
      ∀ (i : Nat) (row row' : ScanRow V), s.data.scans[i]? = some row → s'.data.scans[i]? = some row' →
        ∀ st ∈ row.stages, ∀ st' ∈ row'.stages, st'.id = st.id → st.status.isDone = true →
          st'.status = st.status := by
  obtain ⟨hgood, hlog⟩ := Settings.run_stageLog hd h
  refine ⟨?_, hlog.order.imp fun hab he => (hab he).2, fun row hrow a ha b hb har hbr => ?_, hlog.once,
    fun as' s' log' h' i row row' hrow hrow' st hst st' hst' hid hdone => ?_⟩
  · rw [Nodup, pairwise_map]
    refine hlog.order.imp fun {a b} hab he => ?_
    rw [Prod.mk.injEq] at he
    exact (hab he.1).1 he.2
  · obtain ⟨i, hi⟩ := mem_iff_getElem?.1 hrow
    have hwf := hgood.inv.wf i row hi
    have hlife := hwf.single _ (List.mem_map_of_mem ha) _ (List.mem_map_of_mem hb) har hbr
    exact hwf.distinctIds.eq ha hb (congrArg StageLife.id hlife)
  obtain ⟨row'', hrow'', ho⟩ := Settings.run_onward (Settings.base_restart hgood) h' hrow
  rw [hrow'] at hrow''
  cases hrow''
  -- the stage of the later row comes from the one of the earlier row
  obtain ⟨x, hx, hlater⟩ := ho.later (List.mem_map_of_mem hst)
  have hwf' := ((Settings.run_invariant (fun _ _ => True) (fun _ _ _ => trivial) (fun _ _ => trivial)
    (Settings.base_restart hgood) trivial h').1).inv.wf i row' hrow'
  have hxe : x = st'.life := hwf'.stage_eq hx (List.mem_map_of_mem hst') (hlater.id.trans hid.symm)
  have hstatus := hlater.status.eq_of_isDone hdone
  rw [hxe] at hstatus
  exact hstatus

/-- A scan is started and its first stage sent out. -/
theorem stages_run_in_order_sent : ∃ (s : Store Lock (Db Unit) (Session Unit Str)) (log : List (Event Str)),
      Run (oneSettings.program asciiUnicode).machine (Store.idle oneDb)
        (session 0 (.startScan 0) oneInput 7 ++ session 0 (.advanceScan 0) oneInput 2) s log ∧
      enteredOf log = [(0, 7, 0)] ∧
      ((enteredOf log).map fun e => (e.1, e.2.1)).Nodup ∧
      ∀ row ∈ s.data.scans, ∀ a ∈ row.stages, ∀ b ∈ row.stages,
        a.status = .running → b.status = .running → a = b := by
  refine Run.exists_of_exec (fun r => decide (enteredOf r.2 = [(0, 7, 0)])) (by decide +kernel)
    fun s log hrun hlog => ?_
  obtain ⟨honce, -, hsingle, -, -⟩ := stages_run_in_order oneDb_sound hrun
  exact ⟨of_decide_eq_true hlog, honce, hsingle⟩

/-- **Ended scans rest.**  In every committed state only a running scan has a running stage, and a scan that has
ended has no stage to go. -/
theorem ended_scans_rest (hd : d₀.Sound) (h : Run (S.program U).machine (Store.idle d₀) as s log) :
    ∀ row ∈ s.data.scans, (∀ st ∈ row.stages, st.status = .running → row.status = .running) ∧
      (row.status.isActive = false → ∀ st ∈ row.stages, st.status.isDone = true) := by
  intro row hrow
  obtain ⟨i, hi⟩ := mem_iff_getElem?.1 hrow
  have hwf := (Settings.run_stageLog hd h).1.inv.wf i row hi
  exact ⟨fun st hst => hwf.running _ (List.mem_map_of_mem hst),
    fun hs st hst => hwf.done hs _ (List.mem_map_of_mem hst)⟩

theorem ended_scans_rest_cancelled : ∃ (s : Store Lock (Db Unit) (Session Unit Str)) (log : List (Event Str)),
    Run (oneSettings.program asciiUnicode).machine (Store.idle oneDb) (session 0 (.cancelScan 1 0) oneInput 2) s log ∧
    (s.data.scans.any fun row => decide (row.status = .cancelled)) = true ∧
    ∀ row ∈ s.data.scans, row.status.isActive = false → ∀ st ∈ row.stages, st.status.isDone = true :=
  Run.exists_of_exec (fun r => r.1.data.scans.any fun row => decide (row.status = .cancelled)) (by decide +kernel)
    fun _ _ hrun hany => ⟨hany, fun row hrow => (ended_scans_rest oneDb_sound hrun row hrow).2⟩

end Runs

end App.Scans
