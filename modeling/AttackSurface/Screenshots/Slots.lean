import AttackSurface.Screenshots.Service

/-!
# The deployment's capture slots

`reserve` counts the rows that are running or whose slot is not over, and reserves no more
than the policy allows.  `Table` is what holds of the rows in every run: at most so many of
them hold a slot (`Table.held`), whatever happens to a row afterwards (`Table.map`,
`Table.sublist`).
-/

namespace App.Screenshots

open PyText List Function

def Capture.holds (now : Int) (c : Capture) : Bool := c.slotUntil.any fun u => decide (now < u)

/-! ## The table -/

/-- What a write to a row that is there can do to its slot. -/
structure Capture.Tame (c c' : Capture) : Prop where
  id : c'.id = c.id
  taskId : c'.taskId = c.taskId
  slotUntil : c'.slotUntil = c.slotUntil ∨ c'.slotUntil = none
  queued : c'.status = .queued → c.status = .queued
  succeeded : c'.status = .succeeded → c.status = .succeeded ∨ c'.slotUntil = none

variable (c : Capture)

lemma Capture.Tame.refl : c.Tame c := ⟨rfl, rfl, .inl rfl, fun h => h, .inl⟩

lemma Capture.tame_cancel : c.Tame c.cancel := ⟨rfl, rfl, .inl rfl, nofun, nofun⟩

lemma Capture.tame_finish {status : CaptureStatus} (hs : status ≠ .queued ∧ status ≠ .cancelled)
    (c : Capture) : c.Tame (c.finish status) :=
  ⟨rfl, rfl, .inr (if_neg hs.2), fun h => absurd h hs.1, fun _ => .inr (if_neg hs.2)⟩

lemma Capture.tame_toPool (pool : Str) (c : Capture) : c.Tame (c.toPool pool) :=
  ⟨rfl, rfl, .inl rfl, fun h => h, .inl⟩

lemma Capture.tame_mark (job : Nat) (ok : Bool) (now : Int) (c : Capture) : c.Tame (c.mark job ok now) := by
  unfold Capture.mark
  split
  · exact .refl c
  split
  · exact ⟨rfl, rfl, .inl rfl, fun h => h, .inl⟩
  · exact Capture.tame_finish (by decide) c

lemma Capture.tame_freeSlot : c.Tame c.freeSlot :=
  ⟨rfl, rfl, .inr rfl, fun h => h, fun _ => .inr rfl⟩

lemma Capture.tame_succeed (size : Nat) (taken : Int) (c : Capture) : c.Tame (c.succeed size taken) :=
  ⟨rfl, rfl, .inr rfl, nofun, fun _ => .inr rfl⟩

lemma Capture.tame_watch (pol : Policy) (now : Int) (skipped : List Nat) (c : Capture) :
    c.Tame (watch pol now skipped c) := by
  unfold watch
  split
  · exact ⟨rfl, rfl, .inl rfl, nofun, nofun⟩
  · exact .refl c

lemma Capture.Ended.tame {c c' : Capture} (h : c.Ended c') : c.Tame c' := by
  rcases h with rfl | rfl | rfl
  · exact c.tame_freeSlot
  all_goals exact c.tame_finish (by decide)

/-- The rows of a state that are about slots. -/
structure Table (limit : Nat) (task : Nat → Nat) (s : State) : Prop extends s.Identified where
  held : s.captures.countP (Capture.holds s.now) ≤ limit
  queued : ∀ c ∈ s.captures, c.status = .queued → c.slotUntil = none
  succeeded : ∀ c ∈ s.captures, c.status = .succeeded → c.slotUntil = none
  tasks : ∀ c ∈ s.captures, ∀ t, c.taskId = some t → t = task c.id

section Table

variable {limit : Nat} {task : Nat → Nat} {s s' : State}

lemma Table.map (h : Table limit task s) {g : Capture → Capture} (hg : ∀ c : Capture, c.Tame (g c))
    (hcaptures : s'.captures = s.captures.map g) (hnext : s'.nextId = s.nextId) (hnow : s'.now = s.now) :
    Table limit task s' := by
  have hback : ∀ c' ∈ s'.captures, ∃ c ∈ s.captures, Capture.Tame c c' := by
    intro c' hc'
    rw [hcaptures, List.mem_map] at hc'
    obtain ⟨c, hc, rfl⟩ := hc'
    exact ⟨c, hc, hg c⟩
  have hslot : ∀ c c' : Capture, c.Tame c' → c.slotUntil = none → c'.slotUntil = none := by
    intro c c' htame hnone
    rcases htame.slotUntil with hsame | hsame
    · rw [hsame, hnone]
    · exact hsame
  refine ⟨?_, ?_, ?_, ?_, ?_⟩
  · exact h.rewrite (fun _ _ htame => Capture.Tame.id htame) ⟨hnext, g, hg, hcaptures ▸ Sublist.refl _⟩
  · rw [hcaptures, countP_map, hnow]
    refine (countP_mono_left fun c _ hholds => ?_).trans h.held
    rcases (hg c).slotUntil with hsame | hnone
    · rwa [comp_apply, Capture.holds, hsame] at hholds
    · rw [comp_apply, Capture.holds, hnone] at hholds
      cases hholds
  · intro c' hc' hq
    obtain ⟨c, hc, htame⟩ := hback c' hc'
    exact hslot c c' htame (h.queued c hc (htame.queued hq))
  · intro c' hc' hs
    obtain ⟨c, hc, htame⟩ := hback c' hc'
    rcases htame.succeeded hs with hold | hnone
    · exact hslot c c' htame (h.succeeded c hc hold)
    · exact hnone
  · intro c' hc' t ht
    obtain ⟨c, hc, htame⟩ := hback c' hc'
    rw [htame.id]
    exact h.tasks c hc t (htame.taskId ▸ ht)

lemma Table.sublist (h : Table limit task s) (hcaptures : s'.captures.Sublist s.captures)
    (hnext : s'.nextId = s.nextId) (hnow : s.now ≤ s'.now) : Table limit task s' where
  toIdentified := h.plain (.sublist hcaptures hnext)
  held := by
    refine (countP_mono_left fun c _ hholds => ?_).trans
      ((hcaptures.countP_le (p := Capture.holds s.now)).trans h.held)
    rw [Capture.holds, Option.any_eq_true] at hholds ⊢
    obtain ⟨u, hu, hlt⟩ := hholds
    exact ⟨u, hu, decide_eq_true (hnow.trans_lt (of_decide_eq_true hlt))⟩
  queued c hc := h.queued c (hcaptures.subset hc)
  succeeded c hc := h.succeeded c (hcaptures.subset hc)
  tasks c hc := h.tasks c (hcaptures.subset hc)

lemma Table.create (h : Table limit task s) (r : Requesting) : Table limit task (s.create r) where
  toIdentified := h.toIdentified.create r
  held := by
    show (s.captures ++ [r.capture s.nextId]).countP (Capture.holds s.now) ≤ limit
    rw [countP_append, countP_singleton]
    simpa [Requesting.capture, Capture.holds] using h.held
  queued c hc hq := by
    rcases mem_append.1 hc with hc | hc
    · exact h.queued c hc hq
    · rw [mem_singleton.1 hc]
      rfl
  succeeded c hc hs := by
    rcases mem_append.1 hc with hc | hc
    · exact h.succeeded c hc hs
    · rw [mem_singleton.1 hc]
      rfl
  tasks c hc t ht := by
    rcases mem_append.1 hc with hc | hc
    · exact h.tasks c hc t ht
    · rw [mem_singleton.1 hc] at ht
      cases ht

end Table

/-! ## Reserving -/

section Reserving

variable {limit : Nat} {task : Nat → Nat} {s : State} {pol : Policy} {now : Int} {skipped busy : List Nat}

variable (cs : List Capture)

lemma firstOfTenants_nodup : (firstOfTenants cs).Nodup := by
  unfold firstOfTenants
  refine foldlRecOn (motive := fun l : List Capture => l.Nodup) cs _ nodup_nil ?_
  intro l hl c _
  split
  · exact hl
  next hnew =>
  rw [← concat_eq_append]
  refine hl.concat fun hmem => hnew (List.any_eq_true.2 ⟨c, hmem, by simp⟩)

lemma firstOfTenants_subset : firstOfTenants cs ⊆ cs := by
  unfold firstOfTenants
  refine foldlRecOn (motive := fun l : List Capture => l ⊆ cs) cs _ (nil_subset _) ?_
  intro l hl c hc
  split
  · exact hl
  · exact append_subset.2 ⟨hl, cons_subset.2 ⟨hc, nil_subset _⟩⟩

lemma pickOrder_nodup {cs : List Capture} (h : cs.Nodup) : (pickOrder cs).Nodup := by
  refine nodup_append.2 ⟨firstOfTenants_nodup cs, h.filter _, ?_⟩
  rintro c hc d hd rfl
  simp [hc] at hd

lemma pickOrder_subset : pickOrder cs ⊆ cs :=
  append_subset.2 ⟨firstOfTenants_subset cs, filter_subset_self _⟩

def State.watched (s : State) (pol : Policy) (now : Int) (skipped : List Nat) : State :=
  { s with captures := watchdog pol now skipped s.captures }

lemma Table.watched (h : Table limit task s) (pol : Policy) (now : Int) (skipped : List Nat) :
    Table limit task (s.watched pol now skipped) :=
  h.map (Capture.tame_watch pol now skipped) rfl rfl rfl

lemma picks_queued {c : Capture} (hc : c ∈ s.picks pol now skipped busy) :
    c ∈ (s.watched pol now skipped).captures ∧ c.status = .queued := by
  have hcand := pickOrder_subset _ (mem_of_mem_take hc)
  have hsorted := mem_of_mem_take hcand
  rw [mem_insertionSort, mem_filter, decide_eq_true_eq] at hsorted
  exact ⟨hsorted.1, hsorted.2.1⟩

lemma picks_nodup (h : Table limit task s) : ((s.picks pol now skipped busy).map Capture.id).Nodup := by
  have hwatched := h.watched pol now skipped
  have hrows : (s.watched pol now skipped).captures.Nodup := hwatched.ids.of_map
  have hcand : ∀ free, (candidates busy free (watchdog pol now skipped s.captures)).Nodup := by
    intro free
    refine Nodup.sublist (take_sublist _ _) ?_
    exact (perm_insertionSort _ _).nodup_iff.2 (hrows.filter _)
  refine Nodup.map_on ?_ ((pickOrder_nodup (hcand _)).sublist (take_sublist _ _))
  intro c hc d hd hid
  exact inj_on_of_nodup_map hwatched.ids (picks_queued hc).1 (picks_queued hd).1 hid

lemma countP_ids_le {cs : List Capture} (hids : (cs.map Capture.id).Nodup) (ids : List Nat) :
    cs.countP (fun c => decide (c.id ∈ ids)) ≤ ids.length := by
  rw [countP_eq_length_filter, ← length_map (f := Capture.id)]
  refine (Nodup.subperm ((filter_sublist.map Capture.id).nodup hids) ?_).length_le
  intro i hi
  obtain ⟨c, hc, rfl⟩ := List.mem_map.1 hi
  exact of_decide_eq_true (mem_filter.1 hc).2

lemma countP_map_le {α : Type} {p q : α → Bool} {f : α → α} (l : List α)
    (h : ∀ a, p (f a) = true → p a = true ∨ q a = true) :
    (l.map f).countP p ≤ l.countP p + l.countP q := by
  rw [countP_map]
  induction l with
  | nil => simp
  | cons a l ih =>
    have ha := h a
    simp only [countP_cons, comp_apply]
    split
    · next hp =>
      rcases ha hp with hpa | hqa
      · rw [if_pos hpa]
        omega
      · rw [if_pos hqa]
        omega
    · omega

/-- `reserve` leaves as many slots occupied as the limit allows. -/
lemma Table.held_reserve (h : Table limit task s) (hlimit : pol.maxConcurrent = limit) (hnow : now ≤ s.now) :
    (s.reserve task pol now skipped busy).captures.countP (Capture.holds s.now) ≤ limit := by
  have hwatched := h.watched pol now skipped
  have hoccupied : (s.watched pol now skipped).captures.countP (Capture.holds s.now) ≤
      (s.watched pol now skipped).captures.countP (occupied now) := by
    refine countP_mono_left fun c _ hholds => ?_
    rw [Capture.holds, Option.any_eq_true] at hholds
    obtain ⟨u, hu, hlt⟩ := hholds
    simp only [occupied, hu, Option.any_some, Bool.or_eq_true, decide_eq_true_eq]
    exact .inr (hnow.trans_lt (of_decide_eq_true hlt))
  have hpicked : ((s.picks pol now skipped busy).map Capture.id).length ≤
      limit - (s.watched pol now skipped).captures.countP (occupied now) := by
    rw [length_map, ← hlimit]
    exact length_take_le _ _
  have hcount : (s.reserve task pol now skipped busy).captures.countP (Capture.holds s.now) ≤
      (s.watched pol now skipped).captures.countP (Capture.holds s.now) +
        (s.watched pol now skipped).captures.countP
          fun c => decide (c.id ∈ (s.picks pol now skipped busy).map Capture.id) := by
    refine countP_map_le _ fun c hholds => ?_
    split at hholds
    · next hpick => exact .inr (decide_eq_true hpick)
    · exact .inl hholds
  have hpicks := countP_ids_le hwatched.ids ((s.picks pol now skipped busy).map Capture.id)
  have hheld := hwatched.held
  have hnow' : (s.watched pol now skipped).now = s.now := rfl
  rw [hnow'] at hheld
  omega

/-- A row after `reserve`: as the watchdog left it, or reserved. -/
lemma reserve_row {c' : Capture} (hc' : c' ∈ (s.reserve task pol now skipped busy).captures) :
    ∃ c ∈ (s.watched pol now skipped).captures,
      (c.id ∈ (s.picks pol now skipped busy).map Capture.id ∧ c' = c.reserve (task c.id) pol now) ∨
        (c.id ∉ (s.picks pol now skipped busy).map Capture.id ∧ c' = c) := by
  obtain ⟨c, hc, rfl⟩ := List.mem_map.1 hc'
  refine ⟨c, hc, ?_⟩
  by_cases hpick : c.id ∈ (s.picks pol now skipped busy).map Capture.id
  · exact .inl ⟨hpick, if_pos hpick⟩
  · exact .inr ⟨hpick, if_neg hpick⟩

lemma Table.reserve (h : Table limit task s) (hlimit : pol.maxConcurrent = limit) (hnow : now ≤ s.now) :
    Table limit task (s.reserve task pol now skipped busy) := by
  have hwatched := h.watched pol now skipped
  refine ⟨h.plain (s.plain_reserve pol now skipped busy), h.held_reserve hlimit hnow, ?_, ?_, ?_⟩
  · intro c' hc' hq
    obtain ⟨c, hc, ⟨_, rfl⟩ | ⟨_, rfl⟩⟩ := reserve_row hc'
    · cases hq
    · exact hwatched.queued c' hc hq
  · intro c' hc' hs
    obtain ⟨c, hc, ⟨_, rfl⟩ | ⟨_, rfl⟩⟩ := reserve_row hc'
    · cases hs
    · exact hwatched.succeeded c' hc hs
  · intro c' hc' t ht
    obtain ⟨c, hc, ⟨_, rfl⟩ | ⟨_, rfl⟩⟩ := reserve_row hc'
    · exact (Option.some_inj.1 ht).symm
    · exact hwatched.tasks c' hc t ht

end Reserving

end App.Screenshots
