import AttackSurface.Scans.Lifecycle

/-!
# What a scan is for

A scan has a status and stages; each stage goes from pending through running to an end.
`Life.Step` are the steps a scan may take, in terms of its statuses alone.  The orchestrator
takes no other (`Scans.Commits`); a start among them can revive a cancelled scan.

    Life.Wf l  →  l.Step l'  →  Life.Wf l'               (Life.Step.wf)
    l.Step l'  →  every stage goes forward or stays      (Life.Step.forward)
    l.Step l'  →  at most one stage is sent out, and no pending stage stands before it
                                                         (Life.Step.entered)
-/

namespace App.Scans

open List

structure StageLife where
  id : Nat
  position : Int
  status : StageStatus
deriving DecidableEq

structure Life where
  status : ScanStatus
  stages : List StageLife

/-! ## The steps -/

variable (st : StageLife)

def StageLife.cancel : StageLife :=
  if st.status.isDone then st else { st with status := .cancelled }

def StageLife.skip : StageLife :=
  if st.status = .pending then { st with status := .skipped } else st

/-- `x` is sent out; what is pending before it has been skipped. -/
def StageLife.send (x st : StageLife) : StageLife :=
  if st.id = x.id then { st with status := .running }
  else if st.position < x.position then st.skip
  else st

def StageLife.finish (id : Nat) (s : StageStatus) (st : StageLife) : StageLife :=
  if st.id = id then { st with status := s } else st

def Life.cancel (l : Life) : Life := ⟨.cancelled, l.stages.map StageLife.cancel⟩

def Life.send (l : Life) (x : StageLife) : Life := { l with stages := l.stages.map (StageLife.send x) }

variable (l : Life)

def Life.endStage (id : Nat) (s : StageStatus) : Life :=
  { l with stages := l.stages.map (StageLife.finish id s) }

def Life.skipAll : Life := { l with stages := l.stages.map StageLife.skip }

def Life.finalize : Life :=
  { l.skipAll with status := finalStatus (l.skipAll.stages.map StageLife.status) }

def Life.Idle : Prop := ∀ st ∈ l.stages, st.status ≠ .running

/-- A scan takes a slot, or waits for one. -/
inductive Life.Starts (l : Life) : Life → Prop
  | start (s : ScanStatus) : l.status = .pending ∨ l.status = .queued → s = .running ∨ s = .queued →
      Life.Starts l { l with status := s }
  /-- the start had read the status before the scan was cancelled -/
  | revive (s : ScanStatus) : l.status = .cancelled → s = .running ∨ s = .queued →
      Life.Starts l { l with status := s }

/-- What happens to a scan otherwise. -/
inductive Life.Works (l : Life) : Life → Prop
  | cancel : l.status.isActive = true → Life.Works l l.cancel
  | send (x : StageLife) : l.status = .running → l.Idle → x ∈ l.stages → x.status = .pending →
      Life.Works l (l.send x)
  | endStage (x : StageLife) (s : StageStatus) : x ∈ l.stages → x.status = .running → s.isDone = true →
      Life.Works l (l.endStage x.id s)
  | finalize : l.status = .running → l.Idle → Life.Works l l.finalize

def Life.Step (l l' : Life) : Prop := l.Works l' ∨ l.Starts l'

/-! ## Forward -/

def StageStatus.rank : StageStatus → Nat
  | .pending => 0
  | .running => 1
  | _ => 2

def StageStatus.Forward (a b : StageStatus) : Prop := a = b ∨ a.rank < b.rank

lemma StageStatus.Forward.trans {a b c : StageStatus} (h : a.Forward b) (h' : b.Forward c) : a.Forward c := by
  rcases h with rfl | h
  · exact h'
  rcases h' with rfl | h'
  · exact .inr h
  · exact .inr (h.trans h')

lemma StageStatus.rank_of_isDone {s : StageStatus} (h : s.isDone = true) : s.rank = 2 := by
  cases s <;> first | rfl | cases h

lemma StageStatus.rank_lt_of_not_isDone {s : StageStatus} (h : s.isDone = false) : s.rank < 2 := by
  cases s <;> first | decide | cases h

lemma StageStatus.Forward.eq_of_isDone {a b : StageStatus} (h : a.Forward b) (ha : a.isDone = true) :
    b = a := by
  rcases h with rfl | h
  · rfl
  have hb : b.rank ≤ 2 := by cases b <;> decide
  rw [rank_of_isDone ha] at h
  omega

/-- The same stage, further on. -/
structure StageLife.Later (a b : StageLife) : Prop where
  id : b.id = a.id
  position : b.position = a.position
  status : a.status.Forward b.status

lemma StageLife.Later.refl (a : StageLife) : a.Later a := ⟨rfl, rfl, .inl rfl⟩

lemma StageLife.later_cancel : st.Later st.cancel := by
  unfold StageLife.cancel
  split
  · exact .refl st
  next h =>
  rw [Bool.not_eq_true] at h
  exact ⟨rfl, rfl, .inr (StageStatus.rank_lt_of_not_isDone h)⟩

lemma StageLife.later_skip : st.Later st.skip := by
  unfold StageLife.skip
  split
  · next h => exact ⟨rfl, rfl, .inr (by simp [h, StageStatus.rank])⟩
  · exact .refl st

lemma Life.Step.forward {l l' : Life} (hids : (l.stages.map StageLife.id).Nodup) (h : l.Step l') :
    ∃ f : StageLife → StageLife, l'.stages = l.stages.map f ∧ ∀ st ∈ l.stages, st.Later (f st) := by
  have hsame : ∀ x ∈ l.stages, ∀ st ∈ l.stages, st.id = x.id → st = x := by
    intro x hx st hst hid
    exact inj_on_of_nodup_map hids hst hx hid
  rcases h with h | h
  case inr =>
    cases h with
    | start s _ _ | revive s _ _ => exact ⟨id, by simp, fun st _ => .refl st⟩
  cases h with
  | cancel _ => exact ⟨_, rfl, fun st _ => st.later_cancel⟩
  | finalize _ _ => exact ⟨_, rfl, fun st _ => st.later_skip⟩
  | send x _ _ hx hp =>
    refine ⟨_, rfl, fun st hst => ?_⟩
    unfold StageLife.send
    split
    · next hid =>
      rw [hsame x hx st hst hid]
      exact ⟨rfl, rfl, .inr (by simp [hp, StageStatus.rank])⟩
    split
    · exact st.later_skip
    · exact .refl st
  | endStage x s hx hr hs =>
    refine ⟨_, rfl, fun st hst => ?_⟩
    unfold StageLife.finish
    split
    · next hid =>
      rw [hsame x hx st hst hid]
      refine ⟨rfl, rfl, .inr ?_⟩
      show x.status.rank < s.rank
      rw [hr, StageStatus.rank_of_isDone hs]
      decide
    · exact .refl st

/-! ## Well-formed lives -/

structure Life.Wf (l : Life) : Prop where
  ids : (l.stages.map StageLife.id).Nodup
  positions : (l.stages.map StageLife.position).Nodup
  /-- only a running scan has a running stage -/
  running : ∀ st ∈ l.stages, st.status = .running → l.status = .running
  single : ∀ a ∈ l.stages, ∀ b ∈ l.stages, a.status = .running → b.status = .running → a = b
  /-- a scan that has ended has no stage to go -/
  done : l.status.isActive = false → ∀ st ∈ l.stages, st.status.isDone = true

lemma Life.Wf.idle {l : Life} (h : l.Wf) (hs : l.status ≠ .running) : l.Idle :=
  fun st hst hr => hs (h.running st hst hr)

lemma StageLife.cancel_isDone : st.cancel.status.isDone = true := by
  unfold StageLife.cancel
  split
  · next h => exact h
  · rfl

lemma StageLife.status_skip : st.skip.status = if st.status = .pending then .skipped else st.status := by
  unfold StageLife.skip
  split <;> rfl

variable {st : StageLife}

lemma StageLife.skip_running : st.skip.status = .running ↔ st.status = .running := by
  rw [StageLife.status_skip]
  split
  · next h => simp [h]
  · rfl

lemma StageLife.skip_isDone (h : st.status ≠ .running) : st.skip.status.isDone = true := by
  rw [StageLife.status_skip]
  split
  · rfl
  · next hp => cases hst : st.status <;> simp_all [StageStatus.isDone]

lemma StageLife.send_running {x st : StageLife} (hst : st.status ≠ .running)
    (h : (StageLife.send x st).status = .running) : st.id = x.id := by
  unfold StageLife.send at h
  split at h
  · next hid => exact hid
  split at h
  · exact absurd (StageLife.skip_running.1 h) hst
  · exact absurd h hst

lemma isActive_of_start {s : ScanStatus} (h : s = .running ∨ s = .queued) : s.isActive = true := by
  rcases h with rfl | rfl <;> rfl

section Wf

variable {l l' : Life}

lemma Life.Wf.start (hl : l.Wf) (hidle : l.Idle) {s : ScanStatus} (hs : s = .running ∨ s = .queued) :
    Life.Wf { l with status := s } where
  ids := hl.ids
  positions := hl.positions
  running st hst hr := absurd hr (hidle st hst)
  single := hl.single
  done h := by
    have := isActive_of_start hs
    simp_all

lemma Life.wf_of_done (hids : (l.stages.map StageLife.id).Nodup)
    (hpos : (l.stages.map StageLife.position).Nodup) (hdone : ∀ st ∈ l.stages, st.status.isDone = true) :
    l.Wf where
  ids := hids
  positions := hpos
  running st hst hr := by
    have := hdone st hst
    rw [hr] at this
    cases this
  single a ha _ _ hr _ := by
    have := hdone a ha
    rw [hr] at this
    cases this
  done _ := hdone

/-- **The steps keep a life well formed.** -/
theorem Life.Step.wf (hl : l.Wf) (h : l.Step l') : l'.Wf := by
  obtain ⟨f, hf, hlater⟩ := h.forward hl.ids
  have hids : (l'.stages.map StageLife.id).Nodup := by
    have hsame : l'.stages.map StageLife.id = l.stages.map StageLife.id := by
      rw [hf, List.map_map]
      exact map_congr_left fun st hst => (hlater st hst).id
    rw [hsame]
    exact hl.ids
  have hpos : (l'.stages.map StageLife.position).Nodup := by
    have hsame : l'.stages.map StageLife.position = l.stages.map StageLife.position := by
      rw [hf, List.map_map]
      exact map_congr_left fun st hst => (hlater st hst).position
    rw [hsame]
    exact hl.positions
  rcases h with h | h
  case inr =>
    cases h with
    | start s hs hs' =>
      refine hl.start (hl.idle fun hr => ?_) hs'
      rcases hs with hs | hs <;> rw [hs] at hr <;> cases hr
    | revive s hs hs' =>
      refine hl.start (hl.idle fun hr => ?_) hs'
      rw [hs] at hr
      cases hr
  cases h with
  | cancel _ =>
    refine Life.wf_of_done hids hpos fun st hst => ?_
    simp only [Life.cancel, List.mem_map] at hst
    obtain ⟨st, -, rfl⟩ := hst
    exact st.cancel_isDone
  | finalize _ hidle =>
    refine Life.wf_of_done hids hpos fun st hst => ?_
    simp only [Life.finalize, Life.skipAll, List.mem_map] at hst
    obtain ⟨st, hst, rfl⟩ := hst
    exact StageLife.skip_isDone (hidle st hst)
  | send x hrun hidle hx hp =>
    refine ⟨hids, hpos, fun _ _ _ => hrun, fun a ha b hb har hbr => ?_, fun h => ?_⟩
    · simp only [Life.send, List.mem_map] at ha hb
      obtain ⟨a, ha, rfl⟩ := ha
      obtain ⟨b, hb, rfl⟩ := hb
      have hax := StageLife.send_running (hidle a ha) har
      have hbx := StageLife.send_running (hidle b hb) hbr
      rw [inj_on_of_nodup_map hl.ids ha hb (hax.trans hbx.symm)]
    · simp only [Life.send, hrun] at h
      cases h
  | endStage x s hx hr hs =>
    have hrun := hl.running x hx hr
    -- no other stage was running
    have hnone : ∀ st ∈ (l.endStage x.id s).stages, st.status ≠ .running := by
      intro st hst hst'
      simp only [Life.endStage, List.mem_map] at hst
      obtain ⟨st, hst, rfl⟩ := hst
      unfold StageLife.finish at hst'
      split at hst'
      · simp only at hst'
        rw [hst'] at hs
        cases hs
      · next hid =>
        rw [hl.single st hst x hx hst' hr] at hid
        exact hid rfl
    refine ⟨hids, hpos, fun _ _ _ => hrun, fun a ha _ _ har _ => absurd har (hnone a ha), fun h => ?_⟩
    simp only [Life.endStage, hrun] at h
    cases h

end Wf

/-! ## Stages that are sent out -/

/-- The stages that are running in `l'` and were not in `l`. -/
def Life.entered (l l' : Life) : List StageLife := l'.stages.filter fun st => decide (st.status = .running) &&
    l.stages.all fun x => decide (x.id = st.id → x.status ≠ .running)

lemma Life.mem_entered {l l' : Life} : st ∈ l.entered l' ↔
      st ∈ l'.stages ∧ st.status = .running ∧ ∀ x ∈ l.stages, x.id = st.id → x.status ≠ .running := by
  simp [Life.entered, imp_iff_not_or]

lemma Life.entered_eq_nil {l l' : Life}
    (h : ∀ st ∈ l'.stages, st.status = .running → ∃ x ∈ l.stages, x.id = st.id ∧ x.status = .running) :
    l.entered l' = [] := by
  rw [eq_nil_iff_forall_not_mem]
  intro st hst
  obtain ⟨hmem, hr, hnone⟩ := Life.mem_entered.1 hst
  obtain ⟨x, hx, hid, hxr⟩ := h st hmem hr
  exact hnone x hx hid hxr

/-- What a step sends out: a pending stage, with nothing pending before it or at its place. -/
structure Life.Sends (l l' : Life) (x : StageLife) : Prop where
  running : l.status = .running
  mem : x ∈ l.stages
  pending : x.status = .pending
  entered : l.entered l' = [{ x with status := .running }]
  first : ∀ st ∈ l'.stages, st.status = .pending → x.position < st.position

lemma filter_key_eq_singleton {α β : Type} [DecidableEq β] {key : α → β} {l : List α} {x : α}
    (h : (l.map key).Nodup) (hx : x ∈ l) : (l.filter fun y => key y = key x) = [x] := by
  induction l with
  | nil => cases hx
  | cons y l ih =>
    simp only [map_cons, nodup_cons, List.mem_map, not_exists, not_and] at h
    rcases mem_cons.1 hx with rfl | hx
    · have hnone : (l.filter fun y => key y = key x) = [] := by
        rw [filter_eq_nil_iff]
        intro z hz
        simpa using h.1 z hz
      simp [hnone]
    · have hne : key y ≠ key x := fun he => h.1 x hx he.symm
      simp [hne, ih h.2 hx]

lemma Life.sends_send {l : Life} (hl : l.Wf) {x : StageLife} (hrun : l.status = .running) (hidle : l.Idle)
    (hx : x ∈ l.stages) (hp : x.status = .pending) : l.Sends (l.send x) x where
  running := hrun
  mem := hx
  pending := hp
  entered := by
    have hpred : ∀ st ∈ l.stages, (decide ((StageLife.send x st).status = .running) &&
        l.stages.all fun y => decide (y.id = (StageLife.send x st).id → y.status ≠ .running)) =
        decide (st.id = x.id) := by
      intro st hst
      rw [Bool.eq_iff_iff]
      simp only [Bool.and_eq_true, decide_eq_true_eq, List.all_eq_true]
      constructor
      · rintro ⟨hr, -⟩
        exact StageLife.send_running (hidle st hst) hr
      · intro hid
        exact ⟨by simp [StageLife.send, hid], fun y hy _ => hidle y hy⟩
    have hself : StageLife.send x x = { x with status := .running } := by simp [StageLife.send]
    unfold Life.entered Life.send
    simp only [List.filter_map]
    rw [filter_congr (q := fun st => decide (st.id = x.id)) hpred,
      filter_key_eq_singleton hl.ids hx, map_singleton, hself]
  first := by
    intro st hst hst'
    simp only [Life.send, List.mem_map] at hst
    obtain ⟨st, hst, rfl⟩ := hst
    unfold StageLife.send at hst' ⊢
    split
    · next hid => simp [hid] at hst'
    next hid =>
    rw [if_neg hid] at hst'
    split
    · next hlt =>
      rw [if_pos hlt, StageLife.status_skip] at hst'
      split at hst' <;> simp_all
    · next hge =>
      have hne : st.position ≠ x.position := by
        intro he
        exact hid (congrArg StageLife.id (inj_on_of_nodup_map hl.positions hst hx he))
      omega

/-- **A step sends out at most one stage, and no pending stage stands before it.** -/
theorem Life.Step.entered {l l' : Life} (hl : l.Wf) (h : l.Step l') :
    l.entered l' = [] ∨ ∃ x, l.Sends l' x := by
  rcases h with h | h
  case inr =>
    cases h with
    | start s _ _ | revive s _ _ => exact .inl (Life.entered_eq_nil fun st hst hr => ⟨st, hst, rfl, hr⟩)
  cases h with
  | send x hrun hidle hx hp => exact .inr ⟨x, Life.sends_send hl hrun hidle hx hp⟩
  | cancel _ =>
    refine .inl (Life.entered_eq_nil fun st hst hr => ?_)
    simp only [Life.cancel, List.mem_map] at hst
    obtain ⟨st, -, rfl⟩ := hst
    have := st.cancel_isDone
    rw [hr] at this
    cases this
  | finalize _ _ =>
    refine .inl (Life.entered_eq_nil fun st hst hr => ?_)
    simp only [Life.finalize, Life.skipAll, List.mem_map] at hst
    obtain ⟨st, hst, rfl⟩ := hst
    exact ⟨st, hst, st.later_skip.id.symm, StageLife.skip_running.1 hr⟩
  | endStage x s hx hr hs =>
    refine .inl (Life.entered_eq_nil fun st hst hst' => ?_)
    simp only [Life.endStage, List.mem_map] at hst
    obtain ⟨st, hst, rfl⟩ := hst
    unfold StageLife.finish at hst' ⊢
    split
    · next hid =>
      rw [if_pos hid] at hst'
      simp only at hst'
      rw [hst'] at hs
      cases hs
    · next hid =>
      rw [if_neg hid] at hst'
      exact ⟨st, hst, rfl, hst'⟩

/-! ## Scans that do not run -/

section NotRunning

variable {l l' : Life}

lemma Life.Works.of_not_running (hl : l.Wf) (h : l.Works l') (hs : l.status ≠ .running) :
    l.status.isActive = true ∧ l' = l.cancel := by
  cases h with
  | cancel ha => exact ⟨ha, rfl⟩
  | send x hr _ _ _ | finalize hr _ => exact absurd hr hs
  | endStage x s hx hr _ => exact absurd (hl.running x hx hr) hs

lemma Life.Works.running (h : l.Works l') (hr : l'.status = .running) : l.status = .running := by
  cases h with
  | cancel _ => cases hr
  | send x h _ _ _ | finalize h _ => exact h
  | endStage x s _ _ _ => exact hr

lemma Life.cancel_cancel (l : Life) : l.cancel.cancel = l.cancel := by
  have hstage : ∀ st : StageLife, st.cancel.cancel = st.cancel := by
    intro st
    unfold StageLife.cancel
    split <;> rfl
  simp only [Life.cancel, List.map_map, Life.mk.injEq, true_and]
  exact map_congr_left fun st _ => hstage st

end NotRunning

end App.Scans
