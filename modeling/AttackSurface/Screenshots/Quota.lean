import AttackSurface.Screenshots.Service

/-!
# The tenants' storage quota

`receive_result` compares the usage, less the captures that the new one replaces, with the
quota.  It stores the image later, and deletes those captures later still, or not at all if
the object store refuses.  So the usage stays within the quota in every run in which

* a result is received while no other one of its tenant is being stored,
* an image that replaces captures fits in beside them,
* an organization is deleted while all objects that were queued are still recorded

(`storedBytes_le_quota`), and not in every run.
-/

namespace App.Screenshots

open Machines List

def Event.receivedUnder (pol : Policy) : Event → Prop
  | .received p .. => p = pol
  | _ => True

def quotaSafe (pol : Policy) (l : State × Event) : Prop :=
  match l.2 with
  | .received _ env result =>
    (∀ r ∈ l.1.storing, r.tenantId ≠ env.tenantId) ∧
      ∀ c ∈ l.1.find env.stageId, ∀ img ∈ result.screenshots.head?, ∀ n ∈ img.length,
        l.1.dropsFor pol c = [] ∨ l.1.storedBytes env.tenantId + n ≤ pol.quota
  | .organizationDeleted d => d.objects ⊆ l.1.objects d.organizationId
  | _ => True

instance (pol : Policy) (e : Event) : Decidable (e.receivedUnder pol) := by
  unfold Event.receivedUnder
  split <;> infer_instance

instance (pol : Policy) (l : State × Event) : Decidable (quotaSafe pol l) := by
  unfold quotaSafe
  split <;> infer_instance

/-! ## Sizes -/

def Capture.weight (t : Nat) (c : Capture) : Nat :=
  if c.tenantId = t ∧ c.stored = true then c.size.getD 0 else 0

section Sizes

variable {t : Nat} {s s' : State}

lemma storedSize_eq (t : Nat) (cs : List Capture) : storedSize t cs = (cs.map (Capture.weight t)).sum := by
  induction cs with
  | nil => rfl
  | cons c cs ih =>
    rw [map_cons, sum_cons, ← ih, storedSize, filter_cons, Capture.weight]
    by_cases hc : c.tenantId = t ∧ c.stored = true
    · rw [if_pos (by simp [hc]), if_pos hc, map_cons, sum_cons, storedSize]
    · rw [if_neg (by simpa using hc), if_neg hc, Nat.zero_add, storedSize]

lemma storedSize_append (t : Nat) (cs ds : List Capture) :
    storedSize t (cs ++ ds) = storedSize t cs + storedSize t ds := by
  simp [storedSize_eq, sum_append]

lemma storedSize_le_of_sublist {cs ds : List Capture} (h : cs.Sublist ds) :
    storedSize t cs ≤ storedSize t ds := by
  rw [storedSize_eq, storedSize_eq]
  exact (h.map (Capture.weight t)).sum_le_sum fun _ _ => Nat.zero_le _

lemma storedSize_plain (h : s.Plain s') : storedSize t s'.captures ≤ storedSize t s.captures := by
  obtain ⟨_, g, hg, hsub⟩ := h
  refine (storedSize_le_of_sublist hsub).trans_eq ?_
  rw [storedSize_eq, storedSize_eq, List.map_map]
  congr 1
  refine map_congr_left fun c _ => ?_
  obtain ⟨hkept, hstored, hsize⟩ := hg c
  rw [Function.comp_apply, Capture.weight, hkept.tenantId, hstored, hsize, ← Capture.weight]

lemma storedSize_set_le {cs : List Capture} {id n : Nat} {f : Capture → Capture}
    (hids : (cs.map Capture.id).Nodup)
    (hf : ∀ c ∈ cs, c.id = id → (f c).weight t ≤ c.weight t + n) :
    storedSize t (cs.map fun c => if c.id = id then f c else c) ≤ storedSize t cs + n := by
  induction cs with
  | nil => exact Nat.zero_le _
  | cons c cs ih =>
    rw [map_cons, nodup_cons] at hids
    have hrest := ih hids.2 fun d hd => hf d (mem_cons_of_mem _ hd)
    simp only [storedSize_eq, map_cons, sum_cons] at hrest ⊢
    by_cases hc : c.id = id
    · -- the id does not occur again
      have hsame : (cs.map fun c => if c.id = id then f c else c) = cs := by
        refine (map_congr_left fun d hd => if_neg fun hd' => hids.1 ?_).trans (List.map_id' cs)
        rw [hc, ← hd']
        exact List.mem_map_of_mem hd
      have hfc := hf c mem_cons_self hc
      rw [hsame, if_pos hc]
      omega
    · rw [if_neg hc]
      omega

lemma pendingSize_append (t : Nat) (ds es : List Deletion) :
    pendingSize t (ds ++ es) = pendingSize t ds + pendingSize t es := by
  simp [pendingSize, sum_append]

lemma pendingSize_le_of_sublist {ds es : List Deletion} (h : ds.Sublist es) :
    pendingSize t ds ≤ pendingSize t es :=
  ((h.filter _).map Deletion.size).sum_le_sum fun _ _ => Nat.zero_le _

lemma pendingSize_le_of_subset {ds es : List Deletion} (hnodup : ds.Nodup) (h : ds ⊆ es) :
    pendingSize t ds ≤ pendingSize t es := by
  obtain ⟨l, hperm, hsub⟩ := hnodup.subperm h
  have hsame : pendingSize t ds = pendingSize t l := ((hperm.symm.filter _).map Deletion.size).sum_eq
  rw [hsame]
  exact pendingSize_le_of_sublist hsub

lemma pendingSize_objects (t org : Nat) : pendingSize t (s.objects org) =
    storedSize t (s.captures.filter fun c => decide (c.organizationId = org)) := by
  rw [pendingSize, State.objects, storedSize, List.filter_map, List.map_map, List.filter_filter, List.filter_filter]
  congr 2
  refine filter_congr fun c _ => ?_
  simp only [Function.comp_apply]
  cases decide (c.tenantId = t) <;> cases decide (c.organizationId = org) <;> cases c.stored <;> rfl

lemma storedSize_filter_add (t org : Nat) (cs : List Capture) :
    storedSize t (cs.filter fun c => decide (c.organizationId = org)) +
      storedSize t (cs.filter fun c => !decide (c.organizationId = org)) = storedSize t cs := by
  rw [← storedSize_append, storedSize_eq, storedSize_eq]
  exact ((filter_append_perm _ cs).map _).sum_eq

lemma objects_nodup (h : s.Identified) (org : Nat) : (s.objects org).Nodup := by
  have hids : ((s.objects org).map Deletion.captureId).Nodup := by
    rw [State.objects, List.map_map]
    exact (filter_sublist.map Capture.id).nodup h.ids
  exact hids.of_map

end Sizes

/-! ## Runs -/

/-- The invariant of the runs. -/
structure WithinQuota (pol : Policy) (s : State) : Prop where
  identified : s.Identified
  fits : ∀ t, s.storedBytes t ≤ pol.quota
  /-- an image that is being stored fits in -/
  room : ∀ r ∈ s.storing, s.storedBytes r.tenantId + r.size ≤ pol.quota
  apart : (s.storing.map Storing.tenantId).Nodup
  owner : ∀ r ∈ s.storing, r.captureId < s.nextId ∧
    ∀ c ∈ s.captures, c.id = r.captureId → c.tenantId = r.tenantId
  objects : ∀ d ∈ s.deleting, d.objects.Nodup

section Runs

variable {task : Nat → Nat} {pol : Policy} {s s' : State}

lemma owner_plain {r : Storing} (hplain : s.Plain s')
    (h : r.captureId < s.nextId ∧ ∀ c ∈ s.captures, c.id = r.captureId → c.tenantId = r.tenantId) :
    r.captureId < s'.nextId ∧ ∀ c ∈ s'.captures, c.id = r.captureId → c.tenantId = r.tenantId := by
  obtain ⟨hnext, g, hg, hsub⟩ := hplain
  refine ⟨hnext ▸ h.1, fun c' hc' hid => ?_⟩
  obtain ⟨c, hc, rfl⟩ := List.mem_map.1 (hsub.subset hc')
  rw [(hg c).1.tenantId]
  exact h.2 c hc ((hg c).1.id.symm.trans hid)

section

variable (h : WithinQuota pol s)

include h

lemma WithinQuota.plain (hplain : s.Plain s')
    (hbytes : ∀ t, s'.storedBytes t ≤ s.storedBytes t) (hstoring : s'.storing.Sublist s.storing)
    (hdeleting : ∀ d ∈ s'.deleting, d ∈ s.deleting ∨ d.objects.Nodup) : WithinQuota pol s' where
  identified := h.identified.plain hplain
  fits t := (hbytes t).trans (h.fits t)
  room r hr := by
    have hroom := h.room r (hstoring.subset hr)
    have hle := hbytes r.tenantId
    omega
  apart := (hstoring.map Storing.tenantId).nodup h.apart
  owner r hr := owner_plain hplain (h.owner r (hstoring.subset hr))
  objects d hd := by
    rcases hdeleting d hd with hold | hnew
    · exact h.objects d hold
    · exact hnew

lemma WithinQuota.aside (hplain : s.Plain s') (hsame : s.SameStorage s') : WithinQuota pol s' := by
  refine h.plain hplain (fun t => ?_) (hsame.storing ▸ Sublist.refl _)
    fun d hd => .inl (hsame.deleting ▸ hd)
  rw [State.storedBytes, State.storedBytes, hsame.deletions]
  exact Nat.add_le_add_right (storedSize_plain hplain) _

lemma WithinQuota.create (r : Requesting) : WithinQuota pol (s.create r) := by
  have hbytes : ∀ t, (s.create r).storedBytes t = s.storedBytes t := by
    intro t
    show storedSize t (s.captures ++ [r.capture s.nextId]) + pendingSize t s.deletions = _
    rw [storedSize_append]
    simp [storedSize, Requesting.capture, State.storedBytes]
  refine ⟨h.identified.create r, fun t => (hbytes t).trans_le (h.fits t), fun q hq => ?_, h.apart, fun q hq => ?_,
    h.objects⟩
  · rw [hbytes]
    exact h.room q hq
  obtain ⟨hlt, hrows⟩ := h.owner q hq
  refine ⟨hlt.trans (Nat.lt_succ_self _), fun c hc hid => ?_⟩
  rcases mem_append.1 hc with hold | hnew
  · exact hrows c hold hid
  rw [mem_singleton.1 hnew] at hid
  have hnext : s.nextId = q.captureId := hid
  omega

lemma storedBytes_store_le {r : Storing} (hr : r ∈ s.storing) (t : Nat) :
    (s.store r).storedBytes t ≤ s.storedBytes t + if r.tenantId = t then r.size else 0 := by
  have hrows : storedSize t (s.store r).captures ≤
      storedSize t s.captures + if r.tenantId = t then r.size else 0 := by
    refine storedSize_set_le h.identified.ids fun c hc hid => ?_
    have howner := (h.owner r hr).2 c hc hid
    show (if c.tenantId = t ∧ true = true then r.size else 0) ≤ _
    by_cases ht : r.tenantId = t
    · rw [if_pos ⟨howner.trans ht, rfl⟩, if_pos ht]
      omega
    · rw [if_neg fun hc => ht (howner.symm.trans hc.1)]
      omega
  show storedSize t (s.store r).captures + pendingSize t s.deletions ≤
    storedSize t s.captures + pendingSize t s.deletions + _
  omega

lemma WithinQuota.store {r : Storing} (hr : r ∈ s.storing) : WithinQuota pol (s.store r) := by
  have hbytes := storedBytes_store_le h hr
  have hothers : ∀ q ∈ s.storing.erase r, r.tenantId ≠ q.tenantId := by
    intro q hq heq
    have hnodup := ((perm_cons_erase hr).map Storing.tenantId).nodup_iff.1 h.apart
    rw [map_cons, nodup_cons] at hnodup
    exact hnodup.1 (heq ▸ List.mem_map_of_mem hq)
  refine ⟨h.identified.store r, fun t => ?_, fun q hq => ?_, ?_, fun q hq => ?_, h.objects⟩
  · have hle := hbytes t
    by_cases ht : r.tenantId = t
    · rw [if_pos ht, ← ht] at hle
      rw [← ht]
      exact hle.trans (h.room r hr)
    · rw [if_neg ht] at hle
      exact hle.trans (h.fits t)
  · have hle := hbytes q.tenantId
    rw [if_neg (hothers q hq)] at hle
    have hroom := h.room q (mem_of_mem_erase hq)
    omega
  · exact (erase_sublist.map Storing.tenantId).nodup h.apart
  obtain ⟨hlt, hrows⟩ := h.owner q (mem_of_mem_erase hq)
  refine ⟨hlt, fun c' hc' hid => ?_⟩
  obtain ⟨c, hc, rfl⟩ := List.mem_map.1 hc'
  by_cases hc' : c.id = r.captureId
  · rw [if_pos hc'] at hid ⊢
    exact hrows c hc hid
  · rw [if_neg hc'] at hid ⊢
    exact hrows c hc hid

end

/-- A result that is accepted fits in, whatever becomes of the captures that it replaces. -/
lemma accepts_room {env : Envelope} {result : CaptureResult} {c : Capture} {n : Nat}
    (hsafe : quotaSafe pol (s, .received pol env result)) (ha : s.Accepts pol env result c n) :
    s.storedBytes c.tenantId + n ≤ pol.quota := by
  obtain ⟨img, himg, hn⟩ := ha.image
  rcases hsafe.2 c ha.found img himg n hn with hnone | hfits
  · have hcheck := ha.fits
    rw [hnone, map_nil, sum_nil] at hcheck
    omega
  · rw [ha.tenantId]
    exact hfits

lemma WithinQuota.receive (h : WithinQuota pol s) {env : Envelope} {result : CaptureResult}
    (hsafe : quotaSafe pol (s, .received pol env result)) : WithinQuota pol (s.receive pol env result) := by
  have hplain := s.plain_receive pol env result
  rcases receive_eq s pol env result with heq | ⟨c, f, _, _, _, heq⟩ | ⟨c, n, taken, ha, heq⟩
  · refine h.aside hplain ?_
    rw [heq]
    exact ⟨rfl, rfl, rfl⟩
  · refine h.aside hplain ?_
    rw [heq]
    exact ⟨rfl, rfl, rfl⟩
  have hroom := accepts_room hsafe ha
  rw [heq]
  obtain ⟨hc, hid⟩ := find_some ha.found
  refine ⟨⟨h.identified.ids, h.identified.known⟩, h.fits, fun q hq => ?_, ?_, fun q hq => ?_, h.objects⟩
  · rcases mem_cons.1 hq with rfl | hold
    · exact hroom
    · exact h.room q hold
  · show (c.tenantId :: s.storing.map Storing.tenantId).Nodup
    refine nodup_cons.2 ⟨fun hmem => ?_, h.apart⟩
    obtain ⟨q, hq, hqt⟩ := List.mem_map.1 hmem
    exact hsafe.1 q hq (hqt.trans ha.tenantId)
  · rcases mem_cons.1 hq with rfl | hold
    · refine ⟨h.identified.known c hc, fun d hd hdid => ?_⟩
      exact congrArg Capture.tenantId (inj_on_of_nodup_map h.identified.ids hd hc hdid)
    · exact h.owner q hold

/-- What the rows of an organization took is taken by the objects that are still to be deleted. -/
lemma WithinQuota.deleteOrganization (h : WithinQuota pol s) {d : Deleting} (hd : d ∈ s.deleting)
    (hsafe : quotaSafe pol (s, .organizationDeleted d)) : WithinQuota pol (s.deleteOrganization d) := by
  refine h.plain (.sublist filter_sublist rfl) (fun t => ?_) (Sublist.refl _)
    fun e he => .inl (mem_of_mem_erase he)
  have hqueued : pendingSize t d.objects ≤ pendingSize t (s.objects d.organizationId) :=
    pendingSize_le_of_subset (h.objects d hd) hsafe
  have hrows := storedSize_filter_add t d.organizationId s.captures
  rw [pendingSize_objects] at hqueued
  show storedSize t (s.captures.filter fun c => !decide (c.organizationId = d.organizationId)) +
    pendingSize t (s.deletions ++ d.objects) ≤ storedSize t s.captures + pendingSize t s.deletions
  rw [pendingSize_append]
  omega

lemma WithinQuota.step (h : WithinQuota pol s) {e : Event} (hstep : s.step task e = some s')
    (hpol : e.receivedUnder pol) (hsafe : quotaSafe pol (s, e)) : WithinQuota pol s' := by
  rcases step_rows hstep with ⟨r, _, _, rfl⟩ | ⟨r, hr, _, rfl⟩ | hplain
  · exact h.create r
  · exact h.store hr
  cases step_does hstep with
  | created hr hday => exact h.create _
  | stored hr => exact h.store hr
  | checked p hlock => exact h.aside hplain (check_sameStorage s p _)
  | cancelled asset id => exact h.aside hplain (cancel_sameStorage s asset id)
  | launched p authorized pool hid => exact h.aside hplain (launch_same s _ p authorized pool).1
  | received p env result =>
    obtain rfl : p = pol := hpol
    exact h.receive hsafe
  | aborted r => exact h.plain hplain (fun t => le_refl _) erase_sublist fun d hd => .inl hd
  | deleted asset id failing => exact h.aside hplain (delete_same s asset id failing).1
  | retained | purged =>
    exact h.plain hplain
      (fun t => Nat.add_le_add (storedSize_plain hplain) (pendingSize_le_of_sublist filter_sublist))
      (Sublist.refl _) fun d hd => .inl hd
  | deleting org =>
    refine h.plain hplain (fun t => le_refl _) (Sublist.refl _) fun d hd => ?_
    rcases mem_cons.1 hd with rfl | hold
    · exact .inr (objects_nodup h.identified org)
    · exact .inl hold
  | organizationDeleted hd => exact h.deleteOrganization hd hsafe
  | tick | refused | reserved | published | marked | dropped => exact h.aside hplain ⟨rfl, rfl, rfl⟩

lemma WithinQuota.empty (pol : Policy) : WithinQuota pol {} := by
  refine ⟨⟨nodup_nil, fun c hc => ?_⟩, fun t => Nat.zero_le _, fun r hr => ?_, nodup_nil, fun r hr => ?_,
    fun d hd => ?_⟩
  · exact absurd hc not_mem_nil
  · exact absurd hr not_mem_nil
  · exact absurd hr not_mem_nil
  · exact absurd hd not_mem_nil

/-- In every run under one policy whose results and organization deletions meet the condition,
no tenant stores more than the quota. -/
theorem storedBytes_le_quota {history : List (State × Event)} (h : Steps (State.Step task) {} history s)
    (hpol : ∀ l ∈ history, l.2.receivedUnder pol) (hsafe : ∀ l ∈ history, quotaSafe pol l) (t : Nat) :
    s.storedBytes t ≤ pol.quota := by
  have hquota : WithinQuota pol s := by
    induction h with
    | nil => exact .empty pol
    | snoc _ hstep ih =>
      simp only [forall_mem_append, forall_mem_singleton] at hpol hsafe
      obtain ⟨hpre, hstep⟩ := hstep
      refine (ih hpol.1 hsafe.1).step hstep hpol.2 ?_
      rw [← hpre]
      exact hsafe.2
  exact hquota.fits t

end Runs

/-! ## A capture that is replaced later -/

def smallQuota : Policy := { available := true, storageQuotaMb := 10, maxImageKb := 5120 }

def fiveMegabytes (taken : Int) : CaptureResult where
  screenshots := [⟨some 5242880, 5242880, true, some (1280, 800), taken⟩]

/-- The `k`-th capture of the endpoint, up to its result. -/
def captured (k : Nat) : List Event :=
  [.checked smallQuota ⟨1, 1, 1, true, true, true⟩, .created ⟨1, 1, 1, 0⟩, .reserved smallQuota 0 [] [],
    .launched k smallQuota true defaultPool, .published ⟨k, k, 120, 600⟩ true, .marked ⟨k, k, 120, 600⟩ true,
    .received smallQuota ⟨1, k, k, k, defaultPool⟩ (fiveMegabytes k)]

def quotaFull : List Event := captured 0 ++ [.stored ⟨1, 0, 5242880, 0, 0, []⟩, .dropped [] []] ++
    (captured 1 ++ [.stored ⟨1, 1, 5242880, 1, 5242880, []⟩, .dropped [] []])

theorem storedBytes_le_quota_full : ∃ history s, Steps (State.Step id) {} history s ∧
    s.storedBytes 1 = smallQuota.quota ∧ s.storedBytes 1 ≤ smallQuota.quota := by
  refine exists_steps quotaFull (fun s => decide (s.storedBytes 1 = smallQuota.quota)) (by decide +kernel)
    fun s hrun hbytes => ?_
  exact ⟨of_decide_eq_true hbytes, storedBytes_le_quota hrun (by decide +kernel) (by decide +kernel) 1⟩

/-- The third image passes the check because the first is going to be deleted.  When it is
recorded, the first one is still there, and stays if the object store fails. -/
def replacing : List Event :=
  quotaFull ++ captured 2 ++ [.stored ⟨1, 2, 5242880, 2, 10485760, [0]⟩, .dropped [0] [0]]

theorem replaced_capture_exceeds_quota : ∃ history s, Steps (State.Step id) {} history s ∧
    (∀ l ∈ history, l.2.receivedUnder smallQuota) ∧ smallQuota.quota < s.storedBytes 1 := by
  refine exists_steps replacing (fun s => decide (smallQuota.quota < s.storedBytes 1)) (by decide +kernel)
    fun s _ hbytes => ?_
  exact ⟨by decide +kernel, of_decide_eq_true hbytes⟩

end App.Screenshots
