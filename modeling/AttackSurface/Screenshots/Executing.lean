import AttackSurface.Screenshots.Slots

/-!
# The jobs that may be executing

A published job may be executing until a result arrives or until `not_after` and the hard
limit have passed.  In every run in which no row is deleted while its slot is not over, and
no job is launched that can outlast the slot,

    jobs that may be executing  ≤  rows whose slot is not over  ≤  max_concurrent
                                                                     (executing_le_limit)

The source does neither: a cancelled capture keeps its slot but can be deleted, and the slot
is sized by the policy at the reservation, the job by that at the launch.
-/

namespace App.Screenshots

open PyText Machines List

def Capture.slotOver (now : Int) (c : Capture) : Prop := ∀ u ∈ c.slotUntil, u ≤ now

def State.executing (s : State) : List Job :=
  s.published.filter fun j => !decide (j.jobId ∈ s.received) && decide (s.now < j.endsBy)

def Event.limitedBy (limit : Nat) : Event → Prop
  | .reserved pol .. => pol.maxConcurrent = limit
  | _ => True

/-- No row is deleted while its slot is not over, and no job is launched that can outlast the
slot of its capture. -/
def slotSafe (l : State × Event) : Prop :=
  match l.2 with
  | .launched id pol _ _ => ∀ c ∈ l.1.find id, c.status = .running → ∃ u ∈ c.slotUntil,
      c.startedAt.getD l.1.now + startWindow + ↑(jobTimeout pol + jobHardLimitGrace) ≤ u
  | .deleted _ id _ => ∀ c ∈ l.1.find id, c.slotOver l.1.now
  | .retained t pol now _ => ∀ c ∈ expiredCaptures pol t now l.1.captures, c.slotOver l.1.now
  | .organizationDeleted d => ∀ c ∈ l.1.captures, c.organizationId = d.organizationId → c.slotOver l.1.now
  | _ => True

instance (now : Int) (c : Capture) : Decidable (c.slotOver now) := by
  unfold Capture.slotOver
  infer_instance

instance (limit : Nat) (e : Event) : Decidable (e.limitedBy limit) := by
  unfold Event.limitedBy
  split <;> infer_instance

instance (l : State × Event) : Decidable (slotSafe l) :=
  match l with
  | (_, .launched ..) | (_, .deleted ..) | (_, .retained ..) | (_, .organizationDeleted ..) => by
    dsimp only [slotSafe]
    infer_instance
  | (_, .tick ..) | (_, .checked ..) | (_, .created ..) | (_, .refused ..) | (_, .cancelled ..)
  | (_, .reserved ..) | (_, .published ..) | (_, .marked ..) | (_, .received ..) | (_, .stored ..)
  | (_, .aborted ..) | (_, .dropped ..) | (_, .deleting ..) | (_, .purged ..) => isTrue trivial

/-! ## The dispatchers' work -/

namespace State

variable (s : State)

def failedJobs : List Job := s.attempts.filterMap fun a => if a.2 then none else some a.1

def able : List Job := s.built ++ s.published

def begun : List Nat := s.reserved ++ (s.able ++ s.failedJobs).map Job.captureId

/-- The captures that a call of `receive_result` is to drop. -/
def doomed : List Nat := (s.dropping ++ s.storing.map Storing.drop).flatten

def covers (j : Job) : Prop :=
  j.endsBy ≤ s.now ∨ ∃ c ∈ s.captures, c.id = j.captureId ∧ ∃ u, c.slotUntil = some u ∧ j.endsBy ≤ u

def slotless (id : Nat) : Prop :=
  id < s.nextId ∧ ∀ c ∈ s.captures, c.id = id → c.slotUntil = none ∧ c.status ≠ .queued

def live (task : Nat → Nat) (s : State) (id : Nat) : Prop :=
  task id ∉ s.received ∧ ∃ j ∈ s.able, j.captureId = id

end State

structure Work (task : Nat → Nat) (s : State) : Prop where
  once : s.begun.Nodup
  begun : ∀ id ∈ s.begun, id < s.nextId ∧ ∀ c ∈ s.captures, c.id = id → c.status ≠ .queued
  named : ∀ j ∈ s.able, j.jobId = task j.captureId
  covered : ∀ j ∈ s.able, task j.captureId ∉ s.received → s.covers j
  finished : ∀ r ∈ s.storing, task r.captureId ∈ s.received
  doomed : ∀ id ∈ s.doomed, s.slotless id

/-- What most steps do to the table: rows that are there are written to, new ones come, and
those of live jobs keep their slots, or the slots are over. -/
structure Keeps (task : Nat → Nat) (s s' : State) : Prop where
  nextId : s.nextId ≤ s'.nextId
  now : s.now ≤ s'.now
  rows : ∀ c' ∈ s'.captures, (∃ c ∈ s.captures, Capture.Tame c c') ∨ s.nextId ≤ c'.id
  slots : ∀ c ∈ s.captures, s'.live task c.id → ∀ u, c.slotUntil = some u →
    u ≤ s'.now ∨ ∃ c' ∈ s'.captures, c'.id = c.id ∧ c'.slotUntil = some u

/-- What most steps do to the work: they begin nothing. -/
structure Moves (task : Nat → Nat) (s s' : State) : Prop where
  begun : s'.begun.Subperm s.begun
  able : ∀ j ∈ s'.able, j ∈ s.able ∨ j.jobId = task j.captureId ∧ s'.covers j
  received : s.received ⊆ s'.received
  finished : ∀ r ∈ s'.storing, r ∈ s.storing ∨ task r.captureId ∈ s'.received
  doomed : ∀ id ∈ s'.doomed, id ∈ s.doomed ∨ s.slotless id

section Work

variable {limit : Nat} {task : Nat → Nat} {s s' : State}

lemma State.covers.keep {j : Job} (hc : s.covers j) (hnow : s.now ≤ s'.now)
    (hslots : ∀ c ∈ s.captures, s'.live task c.id → ∀ u, c.slotUntil = some u →
      u ≤ s'.now ∨ ∃ c' ∈ s'.captures, c'.id = c.id ∧ c'.slotUntil = some u)
    (hj : j ∈ s'.able) (hreceived : task j.captureId ∉ s'.received) : s'.covers j := by
  rcases hc with hover | ⟨c, hc, hid, u, hu, hend⟩
  · exact .inl (hover.trans hnow)
  have hlive : s'.live task c.id := by
    rw [hid]
    exact ⟨hreceived, j, hj, rfl⟩
  rcases hslots c hc hlive u hu with hover | ⟨c', hc', hid', hu'⟩
  · exact .inl (hend.trans hover)
  · exact .inr ⟨c', hc', hid'.trans hid, u, hu', hend⟩

lemma State.slotless.keep {id : Nat} (h : s.slotless id) (hk : Keeps task s s') : s'.slotless id := by
  refine ⟨h.1.trans_le hk.nextId, fun c' hc' hid' => ?_⟩
  rcases hk.rows c' hc' with ⟨c, hc, htame⟩ | hnew
  · obtain ⟨hnone, hq⟩ := h.2 c hc (htame.id.symm.trans hid')
    refine ⟨?_, fun hq' => hq (htame.queued hq')⟩
    rcases htame.slotUntil with hsame | hfreed
    · rw [hsame, hnone]
    · exact hfreed
  · have hlt := h.1
    omega

lemma Work.step (hw : Work task s) (hk : Keeps task s s') (hm : Moves task s s') : Work task s' := by
  refine ⟨?_, ?_, ?_, ?_, ?_, ?_⟩
  · obtain ⟨l, hperm, hl⟩ := hm.begun
    exact hperm.nodup_iff.1 (hl.nodup hw.once)
  · intro id hid
    obtain ⟨hlt, hrow⟩ := hw.begun id (hm.begun.subset hid)
    refine ⟨hlt.trans_le hk.nextId, fun c' hc' hid' hq => ?_⟩
    rcases hk.rows c' hc' with ⟨c, hc, htame⟩ | hnew
    · exact hrow c hc (htame.id.symm.trans hid') (htame.queued hq)
    · omega
  · intro j hj
    rcases hm.able j hj with hold | hnew
    · exact hw.named j hold
    · exact hnew.1
  · intro j hj hreceived
    rcases hm.able j hj with hold | hnew
    · have hcovers := hw.covered j hold fun hmem => hreceived (hm.received hmem)
      exact hcovers.keep hk.now hk.slots hj hreceived
    · exact hnew.2
  · intro r hr
    rcases hm.finished r hr with hold | hnew
    · exact hm.received (hw.finished r hold)
    · exact hnew
  · intro id hid
    rcases hm.doomed id hid with hold | hnew
    · exact (hw.doomed id hold).keep hk
    · exact hnew.keep hk

lemma Keeps.map {g : Capture → Capture} (hg : ∀ c : Capture, c.Tame (g c))
    (hslots : ∀ c ∈ s.captures, (g c).slotUntil = c.slotUntil ∨ ¬s'.live task c.id)
    (hcaptures : s'.captures = s.captures.map g) (hnext : s'.nextId = s.nextId) (hnow : s'.now = s.now) :
    Keeps task s s' where
  nextId := hnext.ge
  now := hnow.ge
  rows c' hc' := by
    rw [hcaptures, List.mem_map] at hc'
    obtain ⟨c, hc, rfl⟩ := hc'
    exact .inl ⟨c, hc, hg c⟩
  slots c hc hlive u hu := by
    refine .inr ⟨g c, hcaptures ▸ List.mem_map_of_mem hc, (hg c).id, ?_⟩
    rcases hslots c hc with hsame | hdead
    · rw [hsame, hu]
    · exact absurd hlive hdead

lemma Keeps.setCapture {f : Capture → Capture} (id : Nat) (hf : ∀ c : Capture, c.Tame (f c))
    (hslots : (∀ c, (f c).slotUntil = c.slotUntil) ∨ ¬s'.live task id)
    (hcaptures : s'.captures = (s.setCapture id f).captures) (hnext : s'.nextId = s.nextId)
    (hnow : s'.now = s.now) : Keeps task s s' := by
  refine Keeps.map (fun c => ?_) (fun c _ => ?_) hcaptures hnext hnow
  · split
    · exact hf c
    · exact .refl c
  split
  · next hid =>
    subst hid
    exact hslots.imp (fun h => h c) fun h => h
  · exact .inl rfl

lemma Keeps.sublist (hcaptures : s'.captures.Sublist s.captures)
    (hslots : ∀ c ∈ s.captures, c ∈ s'.captures ∨ c.slotOver s'.now)
    (hnext : s'.nextId = s.nextId) (hnow : s.now ≤ s'.now) : Keeps task s s' where
  nextId := hnext.ge
  now := hnow
  rows c' hc' := .inl ⟨c', hcaptures.subset hc', .refl c'⟩
  slots c hc _ u hu := by
    rcases hslots c hc with hkept | hover
    · exact .inr ⟨c, hkept, rfl, hu⟩
    · exact .inl (hover u hu)

lemma Keeps.same (hcaptures : s'.captures = s.captures) (hnext : s'.nextId = s.nextId)
    (hnow : s.now ≤ s'.now) : Keeps task s s' :=
  .sublist (hcaptures ▸ Sublist.refl _) (fun _ hc => .inl (hcaptures ▸ hc)) hnext hnow

lemma Keeps.create (r : Requesting) : Keeps task s (s.create r) where
  nextId := Nat.le_succ _
  now := le_refl _
  rows c' hc' := by
    rcases mem_append.1 hc' with hold | hnew
    · exact .inl ⟨c', hold, .refl c'⟩
    · rw [mem_singleton.1 hnew]
      exact .inr (le_refl _)
  slots c hc _ u hu := .inr ⟨c, mem_append_left _ hc, rfl, hu⟩

lemma Moves.same (hreserved : s'.reserved = s.reserved) (hbuilt : s'.built = s.built)
    (hattempts : s'.attempts = s.attempts) (hpublished : s'.published = s.published)
    (hreceived : s'.received = s.received) (hstoring : s'.storing = s.storing)
    (hdropping : s'.dropping = s.dropping) : Moves task s s' := by
  have hable : s'.able = s.able := by rw [State.able, hbuilt, hpublished, State.able]
  have hfailed : s'.failedJobs = s.failedJobs := by rw [State.failedJobs, hattempts, State.failedJobs]
  refine ⟨?_, fun j hj => .inl (hable ▸ hj), hreceived ▸ Subset.refl _,
    fun r hr => .inl (hstoring ▸ hr), fun id hid => .inl ?_⟩
  · rw [State.begun, hable, hfailed, hreserved, ← State.begun]
  · rwa [State.doomed, hdropping, hstoring, ← State.doomed] at hid

end Work

/-! ## The steps of a dispatch -/

section Dispatch

variable {limit : Nat} {task : Nat → Nat} {s : State} {id : Nat}

lemma Work.reserved_not_live (hw : Work task s) (hid : id ∈ s.reserved) : ¬s.live task id := by
  rintro ⟨_, j, hj, rfl⟩
  have hbegun : j.captureId ∈ (s.able ++ s.failedJobs).map Job.captureId :=
    List.mem_map_of_mem (mem_append_left _ hj)
  exact (nodup_append.1 hw.once).2.2 _ hid _ hbegun rfl

lemma Work.failed_not_live (hw : Work task s) {job : Job} (hjob : job ∈ s.failedJobs) :
    ¬s.live task job.captureId := by
  rintro ⟨_, j, hj, hid⟩
  have honce := (nodup_append.1 hw.once).2.1
  rw [map_append] at honce
  exact (nodup_append.1 honce).2.2 _ (List.mem_map_of_mem hj) _ (List.mem_map_of_mem hjob) hid

lemma begun_erase_subperm (s : State) (id : Nat) :
    State.begun { s with reserved := s.reserved.erase id } |>.Subperm s.begun :=
  (erase_sublist.append (Sublist.refl _)).subperm

lemma Work.launch (h : Table limit task s) (hw : Work task s) {pol : Policy} {authorized : Bool} {pool : Str}
    (hid : id ∈ s.reserved) (hsafe : slotSafe (s, .launched id pol authorized pool)) :
    Work task (s.launch id pol authorized pool) := by
  rcases launch_eq s id pol authorized pool with heq | ⟨c, t, hfind, htask, hrunning, ⟨_, heq⟩ | ⟨_, heq⟩⟩
  · rw [heq]
    exact hw.step (.same rfl rfl (le_refl _))
      ⟨begun_erase_subperm s id, fun j hj => .inl hj, Subset.refl _, fun r hr => .inl hr,
        fun i hi => .inl hi⟩
  · obtain ⟨hc, hcid⟩ := find_some hfind
    obtain ⟨u, hu, hend⟩ := hsafe c hfind hrunning
    rw [heq]
    refine hw.step (.setCapture id (Capture.tame_toPool pool) (.inl fun _ => rfl) rfl rfl rfl)
      ⟨?_, ?_, Subset.refl _, fun r hr => .inl hr, fun i hi => .inl hi⟩
    · -- the capture moves from the reserved ones to the jobs
      show (s.reserved.erase id ++ c.id :: (s.able ++ s.failedJobs).map Job.captureId).Subperm s.begun
      have hmove : (s.reserved.erase id ++ c.id :: (s.able ++ s.failedJobs).map Job.captureId).Perm s.begun := by
        rw [hcid]
        refine perm_middle.trans ?_
        rw [← cons_append]
        exact (perm_cons_erase hid).symm.append_right _
      exact hmove.subperm
    · intro j hj
      rcases mem_cons.1 hj with rfl | hold
      · refine .inr ⟨h.tasks c hc t htask, .inr ⟨c.toPool pool, ?_, rfl, u, hu, hend⟩⟩
        exact List.mem_map.2 ⟨c, hc, if_pos hcid⟩
      · exact .inl hold
  · rw [heq]
    refine hw.step (.setCapture id (Capture.tame_finish (by decide)) (.inr ?_) rfl rfl rfl)
      ⟨begun_erase_subperm s id, fun j hj => .inl hj, Subset.refl _, fun r hr => .inl hr,
        fun i hi => .inl hi⟩
    exact hw.reserved_not_live hid

lemma Work.publish (hw : Work task s) {job : Job} (hjob : job ∈ s.built) (ok : Bool) :
    Work task (s.publish job ok) := by
  have hperm : s.built.Perm (job :: s.built.erase job) := perm_cons_erase hjob
  refine hw.step (.same rfl rfl (le_refl _))
    ⟨?_, ?_, Subset.refl _, fun r hr => .inl hr, fun i hi => .inl hi⟩
  · refine (Perm.append_left _ (Perm.map _ ?_)).subperm
    cases ok with
    | true =>
      show (s.built.erase job ++ job :: s.published ++ s.failedJobs).Perm (s.built ++ s.published ++ s.failedJobs)
      refine Perm.append_right _ (perm_middle.trans ?_)
      exact (hperm.append_right s.published).symm
    | false =>
      show (s.built.erase job ++ s.published ++ job :: s.failedJobs).Perm (s.built ++ s.published ++ s.failedJobs)
      refine perm_middle.trans ?_
      exact ((hperm.append_right s.published).append_right s.failedJobs).symm
  intro j hj
  refine .inl (mem_append.2 ?_)
  rcases mem_append.1 hj with hbuilt | hpublished
  · exact .inl (mem_of_mem_erase hbuilt)
  cases ok with
  | true =>
    rcases mem_cons.1 hpublished with rfl | hold
    · exact .inl hjob
    · exact .inr hold
  | false => exact .inr hpublished

lemma Work.mark (hw : Work task s) {job : Job} {ok : Bool} (hjob : (job, ok) ∈ s.attempts) :
    Work task (s.mark job ok) := by
  refine hw.step (.setCapture job.captureId (Capture.tame_mark job.jobId ok s.now) ?_ rfl rfl rfl)
    ⟨?_, fun j hj => .inl hj, Subset.refl _, fun r hr => .inl hr, fun i hi => .inl hi⟩
  · cases ok with
    | true =>
      refine .inl fun c => ?_
      unfold Capture.mark
      split <;> rfl
    | false => exact .inr (hw.failed_not_live (mem_filterMap.2 ⟨_, hjob, rfl⟩))
  · have hfailed : (State.failedJobs (s.mark job ok)).Sublist s.failedJobs :=
      erase_sublist.filterMap _
    exact ((Sublist.refl _).append (((Sublist.refl s.able).append hfailed).map _)).subperm

/-- The captures that are reserved have not been begun, and their rows have no slot yet. -/
lemma Work.reserve (h : Table limit task s) (hw : Work task s) {pol : Policy} {now : Int}
    {skipped busy : List Nat} : Work task (s.reserve task pol now skipped busy) := by
  have hwatch : Keeps task s (s.watched pol now skipped) := by
    refine .map (Capture.tame_watch pol now skipped) (fun c _ => .inl ?_) rfl rfl rfl
    unfold watch
    split <;> rfl
  have hw' : Work task (s.watched pol now skipped) := hw.step hwatch (.same rfl rfl rfl rfl rfl rfl rfl)
  have h' := h.watched pol now skipped
  have hpicked : ∀ i ∈ (s.picks pol now skipped busy).map Capture.id,
      ∃ c ∈ (s.watched pol now skipped).captures, c.id = i ∧ c.status = .queued := by
    intro i hi
    obtain ⟨c, hc, rfl⟩ := List.mem_map.1 hi
    exact ⟨c, (picks_queued hc).1, rfl, (picks_queued hc).2⟩
  have hfresh : ∀ i ∈ (s.picks pol now skipped busy).map Capture.id, i ∉ s.begun := by
    intro i hi hbegun
    obtain ⟨c, hc, hid, hq⟩ := hpicked i hi
    exact (hw'.begun i hbegun).2 c hc hid hq
  refine ⟨?_, ?_, hw.named, ?_, hw.finished, ?_⟩
  · show ((s.picks pol now skipped busy).map Capture.id ++ s.reserved ++ _).Nodup
    rw [append_assoc]
    refine nodup_append.2 ⟨picks_nodup h, hw.once, ?_⟩
    rintro i hi _ hbegun rfl
    exact hfresh i hi hbegun
  · intro i hi
    have hi : i ∈ (s.picks pol now skipped busy).map Capture.id ++ s.begun := by
      rwa [State.begun, ← append_assoc]
    have hlt : i < s.nextId := by
      rcases mem_append.1 hi with hpick | hold
      · obtain ⟨c, hc, rfl, _⟩ := hpicked i hpick
        exact h'.known c hc
      · exact (hw.begun i hold).1
    refine ⟨hlt, fun c' hc' hid' hq => ?_⟩
    obtain ⟨c, hc, ⟨_, rfl⟩ | ⟨hpick, rfl⟩⟩ := reserve_row hc'
    · cases hq
    rcases mem_append.1 hi with hpicks | hold
    · exact hpick (hid' ▸ hpicks)
    · exact (hw'.begun i hold).2 c' hc hid' hq
  · intro j hj hreceived
    refine (hw'.covered j hj hreceived).keep (le_refl _) ?_ hj hreceived
    intro c hc _ u hu
    have hpick : c.id ∉ (s.picks pol now skipped busy).map Capture.id := by
      intro hmem
      obtain ⟨d, hd, hid, hq⟩ := hpicked _ hmem
      rw [← inj_on_of_nodup_map h'.ids hd hc hid, h'.queued d hd hq] at hu
      cases hu
    exact .inr ⟨c, List.mem_map.2 ⟨c, hc, if_neg hpick⟩, rfl, hu⟩
  · intro i hi
    obtain ⟨hlt, hrow⟩ := hw'.doomed i hi
    refine ⟨hlt, fun c' hc' hid' => ?_⟩
    obtain ⟨c, hc, ⟨hpick, rfl⟩ | ⟨_, rfl⟩⟩ := reserve_row hc'
    · obtain ⟨d, hd, hid, hq⟩ := hpicked _ hpick
      exact absurd hq (hrow d hd (hid.trans hid')).2
    · exact hrow c' hc hid'

end Dispatch

/-! ## Results and deletions -/

section Results

variable {limit : Nat} {task : Nat → Nat} {s : State} {id : Nat}

variable {c : Capture} {captures : List Capture}

lemma mem_droppedCaptures {keep : Nat} {older : List Capture}
    (hc : c ∈ droppedCaptures keep older) : c ∈ older := by
  unfold droppedCaptures at hc
  split at hc
  · exact mem_of_mem_drop hc
  · exact hc

lemma mem_olderCaptures {c o : Capture} (ho : o ∈ olderCaptures c captures) :
    o ∈ captures ∧ o.assetId = c.assetId ∧ o.status = .succeeded ∧ o.id ≠ c.id := by
  rw [olderCaptures, mem_insertionSort, mem_filter, decide_eq_true_eq] at ho
  exact ho

lemma Table.dropsFor_slotless (h : Table limit task s) {pol : Policy}
    (hid : id ∈ (s.dropsFor pol c).map Capture.id) : s.slotless id := by
  obtain ⟨o, ho, rfl⟩ := List.mem_map.1 hid
  obtain ⟨hmem, _, hsucceeded, _⟩ := mem_olderCaptures (mem_droppedCaptures ho)
  refine ⟨h.known o hmem, fun d hd hdid => ?_⟩
  obtain rfl := inj_on_of_nodup_map h.ids hd hmem hdid
  exact ⟨h.succeeded d hd hsucceeded, by simp [hsucceeded]⟩

lemma Work.receive (h : Table limit task s) (hw : Work task s) (pol : Policy) (env : Envelope)
    (result : CaptureResult) : Work task (s.receive pol env result) := by
  rcases receive_eq s pol env result with heq | ⟨c, f, hfind, htask, hended, heq⟩ | ⟨c, n, taken, haccepts, heq⟩
  · rw [heq]
    exact hw.step (.same rfl rfl (le_refl _))
      ⟨Subperm.refl _, fun j hj => .inl hj, subset_cons_self _ _, fun r hr => .inl hr,
        fun i hi => .inl hi⟩
  · -- the slot is freed because its job has a result now
    have hjob := h.tasks c (find_some hfind).1 _ htask
    rw [heq]
    refine hw.step (.setCapture c.id (fun d => (hended d).tame) (.inr fun hlive => ?_) rfl rfl rfl)
      ⟨Subperm.refl _, fun j hj => .inl hj, subset_cons_self _ _, fun r hr => .inl hr,
        fun i hi => .inl hi⟩
    exact hlive.1 (hjob ▸ mem_cons_self)
  have hjob := h.tasks c (find_some haccepts.found).1 _ haccepts.taskId
  rw [heq]
  refine hw.step (.same rfl rfl (le_refl _))
    ⟨Subperm.refl _, fun j hj => .inl hj, subset_cons_self _ _, fun r hr => ?_, fun i hi => ?_⟩
  · rcases mem_cons.1 hr with rfl | hold
    · exact .inr (hjob ▸ mem_cons_self)
    · exact .inl hold
  obtain ⟨ids, hids, hi⟩ := mem_flatten.1 hi
  rcases mem_append.1 hids with hdropping | hstoring
  · exact .inl (mem_flatten.2 ⟨ids, mem_append_left _ hdropping, hi⟩)
  rcases mem_cons.1 hstoring with rfl | hold
  · exact .inr (h.dropsFor_slotless hi)
  · exact .inl (mem_flatten.2 ⟨ids, mem_append_right _ hold, hi⟩)

lemma Work.store (hw : Work task s) {r : Storing} (hr : r ∈ s.storing) : Work task (s.store r) := by
  refine hw.step (.setCapture r.captureId (Capture.tame_succeed _ _) (.inr fun hlive => ?_) rfl rfl rfl)
    ⟨Subperm.refl _, fun j hj => .inl hj, Subset.refl _,
      fun q hq => .inl (mem_of_mem_erase hq), fun i hi => .inl ?_⟩
  · exact hlive.1 (hw.finished r hr)
  obtain ⟨ids, hids, hi⟩ := mem_flatten.1 hi
  refine mem_flatten.2 ⟨ids, mem_append.2 ?_, hi⟩
  rcases mem_append.1 hids with hdropping | hstoring
  · rcases mem_cons.1 hdropping with rfl | hold
    · exact .inr (List.mem_map_of_mem hr)
    · exact .inl hold
  · obtain ⟨q, hq, rfl⟩ := List.mem_map.1 hstoring
    exact .inr (List.mem_map_of_mem (mem_of_mem_erase hq))

lemma doomed_erase_storing {r : Storing} {i : Nat}
    (hi : i ∈ State.doomed { s with storing := s.storing.erase r }) : i ∈ s.doomed := by
  obtain ⟨ids, hids, hi⟩ := mem_flatten.1 hi
  exact mem_flatten.2
    ⟨ids, ((Sublist.refl _).append (erase_sublist.map _)).subset hids, hi⟩

lemma doomed_erase_dropping {drop : List Nat} {i : Nat}
    (hi : i ∈ State.doomed { s with dropping := s.dropping.erase drop }) : i ∈ s.doomed := by
  obtain ⟨ids, hids, hi⟩ := mem_flatten.1 hi
  exact mem_flatten.2 ⟨ids, (erase_sublist.append (Sublist.refl _)).subset hids, hi⟩

lemma deleteRows_sublist (ids failing : List Nat) (captures : List Capture) :
    (deleteRows ids failing captures).Sublist captures := filter_sublist

lemma mem_deleteRows {ids : List Nat} (failing : List Nat)
    (hc : c ∈ captures) (hid : c.id ∉ ids) : c ∈ deleteRows ids failing captures := by
  rw [deleteRows, mem_filter]
  exact ⟨hc, by simp [hid]⟩

lemma Work.dropOlder (hw : Work task s) {ids : List Nat} (hids : ids ∈ s.dropping) (failing : List Nat) :
    Work task (s.dropOlder ids failing) := by
  refine hw.step (.sublist (deleteRows_sublist _ _ _) (fun c hc => ?_) rfl (le_refl _))
    ⟨Subperm.refl _, fun j hj => .inl hj, Subset.refl _, fun r hr => .inl hr,
      fun i hi => .inl (doomed_erase_dropping hi)⟩
  by_cases hid : c.id ∈ ids
  · have hdoomed : c.id ∈ s.doomed := mem_flatten.2 ⟨ids, mem_append_left _ hids, hid⟩
    refine .inr fun u hu => ?_
    rw [((hw.doomed _ hdoomed).2 c hc rfl).1] at hu
    cases hu
  · exact .inl (mem_deleteRows failing hc hid)

lemma Keeps.deleteRows {s' : State} {ids failing : List Nat}
    (hover : ∀ c ∈ s.captures, c.id ∈ ids → c.slotOver s.now)
    (hcaptures : s'.captures = deleteRows ids failing s.captures) (hnext : s'.nextId = s.nextId)
    (hnow : s'.now = s.now) : Keeps task s s' := by
  refine .sublist (hcaptures ▸ deleteRows_sublist _ _ _) (fun c hc => ?_) hnext hnow.ge
  rw [hcaptures, hnow]
  by_cases hid : c.id ∈ ids
  · exact .inr (hover c hc hid)
  · exact .inl (mem_deleteRows failing hc hid)

lemma expiredCaptures_subset (pol : Policy) (t : Nat) (now : Int) (captures : List Capture) :
    expiredCaptures pol t now captures ⊆ captures := by
  refine append_subset.2 ⟨fun c hc => ?_, filter_subset_self _⟩
  obtain ⟨asset, _, hc⟩ := mem_flatMap.1 hc
  have hsorted := mem_of_mem_drop hc
  rw [mem_insertionSort] at hsorted
  exact filter_subset_self _ hsorted

end Results

/-! ## Runs -/

section Runs

variable {limit : Nat} {task : Nat → Nat} {s s' : State}

section

variable (h : Table limit task s)

include h

lemma Table.setCapture {f : Capture → Capture} (id : Nat)
    (hf : ∀ c : Capture, c.Tame (f c)) (hcaptures : s'.captures = (s.setCapture id f).captures)
    (hnext : s'.nextId = s.nextId) (hnow : s'.now = s.now) : Table limit task s' := by
  refine h.map (fun c => ?_) hcaptures hnext hnow
  split
  · exact hf c
  · exact .refl c

lemma Table.same (hcaptures : s'.captures = s.captures)
    (hnext : s'.nextId = s.nextId) (hnow : s.now ≤ s'.now) : Table limit task s' :=
  h.sublist (hcaptures ▸ Sublist.refl _) hnext hnow

lemma Table.launch (id : Nat) (pol : Policy) (authorized : Bool) (pool : Str) :
    Table limit task (s.launch id pol authorized pool) := by
  rcases launch_eq s id pol authorized pool with heq | ⟨c, t, _, _, _, ⟨_, heq⟩ | ⟨_, heq⟩⟩
  · rw [heq]
    exact h.same rfl rfl (le_refl _)
  · rw [heq]
    exact h.setCapture id (Capture.tame_toPool pool) rfl rfl rfl
  · rw [heq]
    exact h.setCapture id (Capture.tame_finish (by decide)) rfl rfl rfl

lemma Table.receive (pol : Policy) (env : Envelope) (result : CaptureResult) :
    Table limit task (s.receive pol env result) := by
  rcases receive_eq s pol env result with heq | ⟨c, f, _, _, hended, heq⟩ | ⟨c, n, taken, _, heq⟩
  · rw [heq]
    exact h.same rfl rfl (le_refl _)
  · rw [heq]
    exact h.setCapture c.id (fun d => (hended d).tame) rfl rfl rfl
  · rw [heq]
    exact h.same rfl rfl (le_refl _)

end

/-- The invariant of the runs. -/
structure SlotsHeld (limit : Nat) (task : Nat → Nat) (s : State) : Prop where
  table : Table limit task s
  work : Work task s

section

variable (h : SlotsHeld limit task s)

include h

lemma SlotsHeld.aside (htable : Table limit task s') (hk : Keeps task s s')
    (hm : Moves task s s') : SlotsHeld limit task s' := ⟨htable, h.work.step hk hm⟩

lemma SlotsHeld.cancel (asset id : Nat) : SlotsHeld limit task (s.cancel asset id) := by
  rcases cancel_eq s asset id with heq | ⟨c, _, _, heq⟩
  · rwa [heq]
  rw [heq]
  exact h.aside (h.table.setCapture id Capture.tame_cancel rfl rfl rfl)
    (.setCapture id Capture.tame_cancel (.inl fun _ => rfl) rfl rfl rfl) (.same rfl rfl rfl rfl rfl rfl rfl)

lemma SlotsHeld.delete {asset id : Nat} {failing : List Nat}
    (hsafe : slotSafe (s, .deleted asset id failing)) : SlotsHeld limit task (s.delete asset id failing) := by
  rcases delete_eq s asset id failing with heq | ⟨c, hfind, _, heq⟩
  · rwa [heq]
  rw [heq]
  refine h.aside (h.table.sublist (deleteRows_sublist _ _ _) rfl (le_refl _))
    (.deleteRows (fun d hd hid => ?_) rfl rfl rfl) (.same rfl rfl rfl rfl rfl rfl rfl)
  obtain rfl := mem_singleton.1 hid
  exact hsafe d (find_eq h.table.ids hd)

lemma SlotsHeld.retain {t : Nat} {pol : Policy} {now : Int} {failing : List Nat}
    (hsafe : slotSafe (s, .retained t pol now failing)) :
    SlotsHeld limit task (s.retain t pol now failing) := by
  refine h.aside (h.table.sublist (deleteRows_sublist _ _ _) rfl (le_refl _))
    (.deleteRows (fun c hc hid => ?_) rfl rfl rfl) (.same rfl rfl rfl rfl rfl rfl rfl)
  obtain ⟨d, hd, hdid⟩ := List.mem_map.1 hid
  obtain rfl := inj_on_of_nodup_map h.table.ids (expiredCaptures_subset _ _ _ _ hd) hc hdid
  exact hsafe d hd

lemma SlotsHeld.deleteOrganization {d : Deleting}
    (hsafe : slotSafe (s, .organizationDeleted d)) : SlotsHeld limit task (s.deleteOrganization d) := by
  refine h.aside (h.table.sublist filter_sublist rfl (le_refl _))
    (.sublist filter_sublist (fun c hc => ?_) rfl (le_refl _)) (.same rfl rfl rfl rfl rfl rfl rfl)
  by_cases horg : c.organizationId = d.organizationId
  · exact .inr (hsafe c hc horg)
  · exact .inl (mem_filter.2 ⟨hc, by simp [horg]⟩)

lemma SlotsHeld.step {e : Event} (hstep : s.step task e = some s')
    (hlimit : e.limitedBy limit) (hsafe : slotSafe (s, e)) : SlotsHeld limit task s' := by
  cases step_does hstep with
  | tick d =>
    have hnow : s.now ≤ s.now + ↑d := by omega
    exact h.aside (h.table.same rfl rfl hnow) (.same rfl rfl hnow) (.same rfl rfl rfl rfl rfl rfl rfl)
  | checked pol hlock =>
    unfold State.check
    split
    · exact h.aside (h.table.same rfl rfl (le_refl _)) (.same rfl rfl (le_refl _))
        (.same rfl rfl rfl rfl rfl rfl rfl)
    · exact h
  | created hr hday => exact h.aside (h.table.create _) (.create _) (.same rfl rfl rfl rfl rfl rfl rfl)
  | cancelled asset id => exact h.cancel asset id
  | reserved pol skipped busy hnow => exact ⟨h.table.reserve hlimit hnow, h.work.reserve h.table⟩
  | launched pol authorized pool hid =>
    exact ⟨h.table.launch _ pol authorized pool, h.work.launch h.table hid hsafe⟩
  | published ok hjob => exact ⟨h.table.same rfl rfl (le_refl _), h.work.publish hjob ok⟩
  | marked hjob => exact ⟨h.table.setCapture _ (Capture.tame_mark _ _ _) rfl rfl rfl, h.work.mark hjob⟩
  | received pol env result => exact ⟨h.table.receive pol env result, h.work.receive h.table pol env result⟩
  | stored hr => exact ⟨h.table.setCapture _ (Capture.tame_succeed _ _) rfl rfl rfl, h.work.store hr⟩
  | aborted r =>
    exact h.aside (h.table.same rfl rfl (le_refl _)) (.same rfl rfl (le_refl _))
      ⟨Subperm.refl _, fun j hj => .inl hj, Subset.refl _,
        fun q hq => .inl (mem_of_mem_erase hq), fun i hi => .inl (doomed_erase_storing hi)⟩
  | dropped failing hids =>
    exact ⟨h.table.sublist (deleteRows_sublist _ _ _) rfl (le_refl _), h.work.dropOlder hids failing⟩
  | deleted asset id failing => exact h.delete hsafe
  | retained t pol failing hnow => exact h.retain hsafe
  | organizationDeleted hd => exact h.deleteOrganization hsafe
  | refused | deleting | purged =>
    exact h.aside (h.table.same rfl rfl (le_refl _)) (.same rfl rfl (le_refl _))
      (.same rfl rfl rfl rfl rfl rfl rfl)

end

lemma SlotsHeld.empty (limit : Nat) (task : Nat → Nat) : SlotsHeld limit task {} := by
  refine ⟨⟨⟨nodup_nil, ?_⟩, Nat.zero_le _, ?_, ?_, ?_⟩, ⟨nodup_nil, ?_, ?_, ?_, ?_, ?_⟩⟩
  all_goals exact fun _ hmem => absurd hmem not_mem_nil

lemma SlotsHeld.executing_held (h : SlotsHeld limit task s) {j : Job} (hj : j ∈ s.executing) :
    j.captureId ∈ (s.captures.filter (Capture.holds s.now)).map Capture.id := by
  rw [State.executing, mem_filter, Bool.and_eq_true, Bool.not_eq_true', decide_eq_false_iff_not,
    decide_eq_true_eq] at hj
  obtain ⟨hpublished, hreceived, hrunning⟩ := hj
  have hable : j ∈ s.able := mem_append_right _ hpublished
  rw [h.work.named j hable] at hreceived
  rcases h.work.covered j hable hreceived with hover | ⟨c, hc, hid, u, hu, hend⟩
  · omega
  rw [← hid]
  refine List.mem_map_of_mem (mem_filter.2 ⟨hc, ?_⟩)
  simp only [Capture.holds, hu, Option.any_some, decide_eq_true_eq]
  omega

lemma SlotsHeld.executing_nodup (h : SlotsHeld limit task s) : (s.executing.map Job.captureId).Nodup := by
  have hable : (s.able.map Job.captureId).Nodup := by
    have honce := (nodup_append.1 h.work.once).2.1
    rw [map_append] at honce
    exact (nodup_append.1 honce).1
  have hsub : s.executing.Sublist s.able := filter_sublist.trans (sublist_append_right _ _)
  exact (hsub.map Job.captureId).nodup hable

/-- In every run that reserves with one limit, whose deletions spare the rows that hold a slot
and whose launches fit the slot, at most that many jobs may be executing. -/
theorem executing_le_limit {history : List (State × Event)} (h : Steps (State.Step task) {} history s)
    (hlimit : ∀ l ∈ history, l.2.limitedBy limit) (hsafe : ∀ l ∈ history, slotSafe l) :
    s.executing.length ≤ limit := by
  have hheld : SlotsHeld limit task s := by
    induction h with
    | nil => exact .empty limit task
    | snoc _ hstep ih =>
      simp only [forall_mem_append, forall_mem_singleton] at hlimit hsafe
      obtain ⟨hpre, hstep⟩ := hstep
      refine (ih hlimit.1 hsafe.1).step hstep hlimit.2 ?_
      rw [← hpre]
      exact hsafe.2
  calc s.executing.length = (s.executing.map Job.captureId).length := (length_map _).symm
    _ ≤ ((s.captures.filter (Capture.holds s.now)).map Capture.id).length := by
        refine (hheld.executing_nodup.subperm fun i hi => ?_).length_le
        obtain ⟨j, hj, rfl⟩ := List.mem_map.1 hi
        exact hheld.executing_held hj
    _ = s.captures.countP (Capture.holds s.now) := by rw [length_map, countP_eq_length_filter]
    _ ≤ limit := hheld.table.held

end Runs

/-! ## A slot that is deleted -/

def someUrl (asset : Nat) : CaptureRequest := ⟨1, 1, asset, true, true, true⟩

def onePolicy : Policy := { available := true }

def firstExecuting : List Event :=
  [.checked onePolicy (someUrl 1), .created ⟨1, 1, 1, 0⟩, .checked onePolicy (someUrl 2), .created ⟨1, 1, 2, 0⟩,
    .reserved onePolicy 0 [] [], .launched 0 onePolicy true defaultPool,
    .published ⟨0, 0, 120, 600⟩ true, .marked ⟨0, 0, 120, 600⟩ true]

theorem executing_le_limit_one : ∃ history s, Steps (State.Step id) {} history s ∧
    s.executing.length = 1 ∧ s.executing.length ≤ 1 := by
  refine exists_steps firstExecuting (fun s => decide (s.executing.length = 1)) (by decide +kernel)
    fun s hrun hlen => ?_
  exact ⟨of_decide_eq_true hlen, executing_le_limit hrun (by decide +kernel) (by decide +kernel)⟩

/-- The first capture is cancelled and deleted while its job is executing; the slot that it
held is gone with its row, and the second one is started. -/
def slotDeleted : List Event := firstExecuting ++
    [.cancelled 1 0, .deleted 1 0 [], .reserved onePolicy 0 [] [], .launched 1 onePolicy true defaultPool,
      .published ⟨1, 1, 120, 600⟩ true]

theorem deleted_slot_exceeds_limit : ∃ history s, Steps (State.Step id) {} history s ∧
    (∀ l ∈ history, l.2.limitedBy 1) ∧ s.executing.length = 2 := by
  refine exists_steps slotDeleted (fun s => decide (s.executing.length = 2)) (by decide +kernel) fun s _ hlen => ?_
  exact ⟨by decide +kernel, of_decide_eq_true hlen⟩

end App.Screenshots
