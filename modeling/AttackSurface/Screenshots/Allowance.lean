import AttackSurface.Screenshots.Service

/-!
# The daily allowance

Captures are counted per tenant and day in a table of their own, by relative upserts: one
up when a capture is created, one down when it is cancelled from the queue on the same day.
The counter cannot be recomputed from the rows, which may be deleted.  From the history of a
run it can:

    counter  =  captures created that day  −  those cancelled that day while queued
                                                                      (counter_exact)

for the days that retention leaves.  The decrement never meets the floor of zero because the
queued captures of a day are among those that are counted (`Allowance.queued`), and the
counter stays within the limit because the tenant's lock is held from the check to the
increment (`Allowance.room`).
-/

namespace App.Screenshots

open Machines List Option

def createsOn (t : Nat) (d : Int) (l : State × Event) : Bool :=
  match l.2 with
  | .created r => decide (r.tenantId = t ∧ dayOf r.began = d)
  | _ => false

/-- The step cancels a capture of the tenant, on the day on which it was created and while it
was queued. -/
def cancelsOn (t : Nat) (d : Int) (l : State × Event) : Bool :=
  match l.2 with
  | .cancelled asset id => (l.1.find id).any fun c => decide (c.assetId = asset ∧ c.tenantId = t ∧
      c.status = .queued ∧ dayOf c.createdAt = d ∧ dayOf l.1.now = d)
  | _ => false

def Event.checkedUnder (pol : Policy) : Event → Prop
  | .checked p _ => p = pol
  | _ => True

instance (pol : Policy) (e : Event) : Decidable (e.checkedUnder pol) := by
  unfold Event.checkedUnder
  split <;> infer_instance

/-! ## The counters -/

section Counters

variable {t t' : Nat} {d d' : Int} {counters : List Counter}

lemma find_countRequest (t : Nat) (d delta : Int) (h : counters.any fun u => decide (u.tenantId = t ∧ u.day = d))
    (t' : Nat) (d' : Int) :
    (countRequest t d delta counters).find? (fun u => decide (u.tenantId = t' ∧ u.day = d')) =
      (counters.find? fun u => decide (u.tenantId = t' ∧ u.day = d')).map fun u =>
        if u.tenantId = t ∧ u.day = d then { u with requested := (u.requested + delta).toNat } else u := by
  rw [countRequest, if_pos h, find?_map]
  congr 2
  funext u
  simp only [Function.comp_apply]
  split <;> rfl

lemma counted_countRequest_self (t : Nat) (d delta : Int) (counters : List Counter) :
    counted (countRequest t d delta counters) t d = (counted counters t d + delta).toNat := by
  by_cases hany : counters.any fun u => decide (u.tenantId = t ∧ u.day = d)
  · obtain ⟨u, hu⟩ : ∃ u, (counters.find? fun u => decide (u.tenantId = t ∧ u.day = d)) = some u := by
      rw [← isSome_iff_exists, find?_isSome]
      exact List.any_eq_true.1 hany
    have hkey : u.tenantId = t ∧ u.day = d := by simpa using find?_some hu
    rw [counted, find_countRequest t d delta hany, hu, counted, hu]
    simp [hkey]
  · have hnone : (counters.find? fun u => decide (u.tenantId = t ∧ u.day = d)) = none := by
      rw [find?_eq_none]
      exact fun u hu hkey => hany (List.any_eq_true.2 ⟨u, hu, hkey⟩)
    rw [countRequest, if_neg hany, counted, find?_append, hnone, counted, hnone]
    simp

lemma counted_countRequest_ne (h : ¬(t' = t ∧ d' = d)) (delta : Int) (counters : List Counter) :
    counted (countRequest t d delta counters) t' d' = counted counters t' d' := by
  by_cases hany : counters.any fun u => decide (u.tenantId = t ∧ u.day = d)
  · rw [counted, find_countRequest t d delta hany, Option.map_map, counted]
    refine congrArg (fun o : Option Nat => o.getD 0) (Option.map_congr fun u hu => ?_)
    have hkey : u.tenantId = t' ∧ u.day = d' := by simpa using find?_some hu
    rw [Function.comp_apply, if_neg]
    rintro ⟨rfl, rfl⟩
    exact h ⟨hkey.1.symm, hkey.2.symm⟩
  · have hnew : ¬(t = t' ∧ d = d') := fun heq => h ⟨heq.1.symm, heq.2.symm⟩
    rw [countRequest, if_neg hany, counted, find?_append, find?_singleton, if_neg (by simpa using hnew),
      or_none, counted]

lemma counted_filter {p : Counter → Bool}
    (h : ∀ u : Counter, u.tenantId = t → u.day = d → p u = true) (counters : List Counter) :
    counted (counters.filter p) t d = counted counters t d := by
  rw [counted, find?_filter, counted]
  congr 3
  funext u
  by_cases hu : u.tenantId = t ∧ u.day = d
  · simp [hu, h u hu.1 hu.2]
  · simp [hu]

lemma counted_filter_le (p : Nat → Int → Bool) (counters : List Counter) (t : Nat) (d : Int) :
    counted (counters.filter fun u => p u.tenantId u.day) t d ≤ counted counters t d := by
  by_cases hp : p t d = true
  · exact (counted_filter (fun u ht hd => by rw [ht, hd, hp]) counters).le
  have hnone : (counters.filter fun u => p u.tenantId u.day).find?
      (fun u => decide (u.tenantId = t ∧ u.day = d)) = none := by
    rw [find?_eq_none]
    intro u hu hkey
    obtain ⟨rfl, rfl⟩ := of_decide_eq_true hkey
    exact hp (mem_filter.1 hu).2
  rw [counted, hnone]
  exact Nat.zero_le _

end Counters

/-! ## The queue -/

def State.queuedOn (s : State) (t : Nat) (d : Int) : Nat :=
  s.captures.countP fun c => decide (c.tenantId = t ∧ dayOf c.createdAt = d ∧ c.status = .queued)

section Queue

variable {s s' : State} {t : Nat} {d : Int} {id : Nat} {c : Capture}

lemma Capture.Kept.queuedOn {c' : Capture} (h : c.Kept c')
    (hc' : c'.tenantId = t ∧ dayOf c'.createdAt = d ∧ c'.status = .queued) :
    c.tenantId = t ∧ dayOf c.createdAt = d ∧ c.status = .queued :=
  ⟨h.tenantId ▸ hc'.1, h.createdAt ▸ hc'.2.1, h.queued hc'.2.2⟩

lemma queuedOn_rewrite {P : Capture → Capture → Prop} (hP : ∀ c c', P c c' → Capture.Kept c c')
    (h : s.Rewrites s' P) : s'.queuedOn t d ≤ s.queuedOn t d := by
  obtain ⟨_, g, hg, hsub⟩ := h
  refine hsub.countP_le.trans ?_
  rw [countP_map]
  refine countP_mono_left fun c _ hc => ?_
  exact decide_eq_true ((hP c (g c) (hg c)).queuedOn (of_decide_eq_true hc))

lemma queuedOn_plain (h : s.Plain s') : s'.queuedOn t d ≤ s.queuedOn t d :=
  queuedOn_rewrite (fun _ _ hk => hk.1) h

lemma countP_map_lt {α : Type} {p : α → Bool} {f : α → α} {l : List α}
    (hf : ∀ a, p (f a) = true → p a = true) {a : α} (ha : a ∈ l) (hp : p a = true) (hpf : p (f a) = false) :
    (l.map f).countP p < l.countP p := by
  have hle : ∀ l : List α, (l.map f).countP p ≤ l.countP p := by
    intro l
    rw [countP_map]
    exact countP_mono_left fun b _ hb => hf b hb
  obtain ⟨l₁, l₂, rfl⟩ := append_of_mem ha
  have h₁ := hle l₁
  have h₂ := hle l₂
  simp only [map_append, map_cons, countP_append, countP_cons, hp, hpf, if_true, Bool.false_eq_true, if_false]
  omega

lemma queuedOn_cancel (hfind : s.find id = some c) (hq : c.status = .queued) :
    (s.setCapture id Capture.cancel).queuedOn c.tenantId (dayOf c.createdAt) <
      s.queuedOn c.tenantId (dayOf c.createdAt) := by
  obtain ⟨hc, hid⟩ := find_some hfind
  refine countP_map_lt (fun b hb => ?_) hc (by simp [hq]) (by simp [hid, Capture.cancel])
  have hkept : b.Kept (if b.id = id then b.cancel else b) := by
    split
    · exact b.kept_cancel
    · exact .refl b
  exact decide_eq_true (hkept.queuedOn (of_decide_eq_true hb))

lemma cancel_counters (s : State) (asset id : Nat) :
    (∃ c, s.find id = some c ∧ c.assetId = asset ∧ c.status = .queued ∧ dayOf c.createdAt = dayOf s.now ∧
      s.cancel asset id = { s.setCapture id Capture.cancel with
        counters := countRequest c.tenantId (dayOf s.now) (-1) s.counters }) ∨
    (∀ t d, cancelsOn t d (s, .cancelled asset id) = false) ∧ s.SameAllowance (s.cancel asset id) := by
  have hnot : (∀ c, s.find id = some c → c.assetId = asset → ¬(c.status = .queued ∧
      dayOf c.createdAt = dayOf s.now)) → ∀ t d, cancelsOn t d (s, .cancelled asset id) = false := by
    intro h t d
    rw [cancelsOn, Option.any_eq_false]
    intro c hc
    refine decide_eq_false ?_
    rintro ⟨hasset, _, hq, hday, hnow⟩
    exact h c hc hasset ⟨hq, hday.trans hnow.symm⟩
  unfold State.cancel
  split
  · next hnone =>
    refine .inr ⟨hnot fun c hc => ?_, rfl, rfl, rfl⟩
    rw [hnone] at hc
    cases hc
  · next c hc =>
    split
    · next hskip =>
      refine .inr ⟨hnot fun c' hc' hasset hq => ?_, rfl, rfl, rfl⟩
      obtain rfl := some_inj.1 (hc.symm.trans hc')
      rcases hskip with hne | hinactive
      · exact hne hasset
      · rw [hq.1] at hinactive
        cases hinactive
    · next hok =>
      rw [not_or, not_not] at hok
      by_cases hrefund : s.refundable c = true
      · obtain ⟨hq, hday⟩ := of_decide_eq_true hrefund
        exact .inl ⟨c, hc, hok.1, hq, hday, by rw [if_pos hrefund]⟩
      refine .inr ⟨hnot fun c' hc' _ hq => ?_, rfl, rfl, if_neg hrefund⟩
      obtain rfl := some_inj.1 (hc.symm.trans hc')
      exact hrefund (decide_eq_true hq)

end Queue

/-! ## Runs -/

/-- The invariant of the runs. -/
structure Allowance (pol : Policy) (history : List (State × Event)) (s : State) : Prop where
  exact : ∀ t d, dayOf s.now - 7 ≤ d →
    counted s.counters t d + history.countP (cancelsOn t d) = history.countP (createsOn t d)
  /-- what is queued was counted -/
  queued : ∀ t d, dayOf s.now - 7 ≤ d → s.queuedOn t d ≤ counted s.counters t d
  limited : ∀ t d, counted s.counters t d ≤ pol.perTenantDaily
  /-- a request that was checked can be counted -/
  room : ∀ r ∈ s.requesting, counted s.counters r.tenantId (dayOf r.began) < pol.perTenantDaily
  apart : (s.requesting.map Requesting.tenantId).Nodup

section Runs

variable {task : Nat → Nat} {pol : Policy} {s s' : State} {history : List (State × Event)} {e : Event}

lemma countP_concat (p : State × Event → Bool) (history : List (State × Event)) (l : State × Event) :
    (history ++ [l]).countP p = history.countP p + if p l then 1 else 0 := by
  rw [countP_append, countP_singleton]

section

variable (h : Allowance pol history s)

include h

lemma Allowance.aside
    (hcreates : ∀ t d, createsOn t d (s, e) = false) (hcancels : ∀ t d, cancelsOn t d (s, e) = false)
    (hnow : s.now ≤ s'.now) (hqueued : ∀ t d, s'.queuedOn t d ≤ s.queuedOn t d)
    (hcounters : ∀ t d, counted s'.counters t d ≤ counted s.counters t d)
    (hrecent : ∀ t d, dayOf s.now - 7 ≤ d → counted s'.counters t d = counted s.counters t d)
    (hrequesting : s'.requesting.Sublist s.requesting) : Allowance pol (history ++ [(s, e)]) s' := by
  have hday : dayOf s.now ≤ dayOf s'.now := Int.ediv_le_ediv (by decide) hnow
  refine ⟨fun t d hd => ?_, fun t d hd => ?_, fun t d => (hcounters t d).trans (h.limited t d), fun r hr => ?_,
    (hrequesting.map _).nodup h.apart⟩
  · have hold := h.exact t d (by omega)
    simp only [countP_concat, hcreates, hcancels, Bool.false_eq_true, if_false, Nat.add_zero]
    rw [hrecent t d (by omega)]
    exact hold
  · rw [hrecent t d (by omega)]
    exact (hqueued t d).trans (h.queued t d (by omega))
  · exact (hcounters _ _).trans_lt (h.room r (hrequesting.subset hr))

lemma Allowance.same
    (hcreates : ∀ t d, createsOn t d (s, e) = false) (hcancels : ∀ t d, cancelsOn t d (s, e) = false)
    (hsame : s.SameAllowance s') (hqueued : ∀ t d, s'.queuedOn t d ≤ s.queuedOn t d) :
    Allowance pol (history ++ [(s, e)]) s' := by
  refine h.aside hcreates hcancels hsame.now.ge hqueued (fun t d => ?_) (fun t d _ => ?_)
    (hsame.requesting ▸ Sublist.refl _)
  · rw [hsame.counters]
  · rw [hsame.counters]

lemma Allowance.check {r : CaptureRequest}
    (hlock : (s.requesting.any fun q => decide (q.tenantId = r.tenantId)) = false) :
    Allowance pol (history ++ [(s, .checked pol r)]) (s.check pol r) := by
  unfold State.check
  split
  · next hok =>
    simp only [State.requestable, Bool.and_eq_true, decide_eq_true_eq] at hok
    have hold : Allowance pol (history ++ [(s, .checked pol r)]) s :=
      h.same (fun _ _ => rfl) (fun _ _ => rfl) ⟨rfl, rfl, rfl⟩ fun _ _ => le_refl _
    refine ⟨hold.exact, hold.queued, hold.limited, fun q hq => ?_, ?_⟩
    · rcases mem_cons.1 hq with rfl | hq
      · exact hok.1.2
      · exact hold.room q hq
    refine nodup_cons.2 ⟨fun hmem => ?_, hold.apart⟩
    obtain ⟨q, hq, hqt⟩ := List.mem_map.1 hmem
    rw [List.any_eq_false] at hlock
    exact hlock q hq (decide_eq_true hqt)
  · exact h.same (fun _ _ => rfl) (fun _ _ => rfl) ⟨rfl, rfl, rfl⟩ fun _ _ => le_refl _

end

lemma queuedOn_create (s : State) (r : Requesting) (t : Nat) (d : Int) : (s.create r).queuedOn t d =
    s.queuedOn t d + if createsOn t d (s, .created r) then 1 else 0 := by
  show (s.captures ++ [r.capture s.nextId]).countP _ = _
  rw [countP_append, countP_singleton]
  simp [State.queuedOn, createsOn, Requesting.capture]

lemma counted_create (s : State) (r : Requesting) (hday : dayOf r.began = dayOf s.now) (t : Nat) (d : Int) :
    counted (s.create r).counters t d =
      counted s.counters t d + if createsOn t d (s, .created r) then 1 else 0 := by
  show counted (countRequest r.tenantId (dayOf s.now) 1 s.counters) t d = _
  by_cases hkey : t = r.tenantId ∧ d = dayOf s.now
  · obtain ⟨rfl, rfl⟩ := hkey
    rw [counted_countRequest_self, if_pos (by simp [createsOn, hday])]
    omega
  rw [counted_countRequest_ne hkey, if_neg, Nat.add_zero]
  intro hcreates
  obtain ⟨rfl, rfl⟩ := of_decide_eq_true hcreates
  exact hkey ⟨rfl, hday⟩

section

variable (h : Allowance pol history s)

include h

lemma Allowance.create {r : Requesting} (hr : r ∈ s.requesting)
    (hday : dayOf r.began = dayOf s.now) :
    Allowance pol (history ++ [(s, .created r)]) (s.create r) := by
  have hothers : ∀ q ∈ s.requesting.erase r, r.tenantId ≠ q.tenantId := by
    intro q hq heq
    have hnodup := ((perm_cons_erase hr).map Requesting.tenantId).nodup_iff.1 h.apart
    rw [map_cons, nodup_cons] at hnodup
    exact hnodup.1 (heq ▸ List.mem_map_of_mem hq)
  refine ⟨fun t d hd => ?_, fun t d hd => ?_, fun t d => ?_, fun q hq => ?_,
    (erase_sublist.map _).nodup h.apart⟩
  · have hold := h.exact t d hd
    rw [counted_create s r hday, countP_concat, countP_concat,
      show cancelsOn t d (s, .created r) = false from rfl, if_neg Bool.false_ne_true]
    omega
  · rw [counted_create s r hday, queuedOn_create]
    exact Nat.add_le_add_right (h.queued t d hd) _
  · rw [counted_create s r hday]
    by_cases hcreates : createsOn t d (s, .created r) = true
    · obtain ⟨rfl, rfl⟩ := of_decide_eq_true hcreates
      rw [if_pos hcreates]
      exact h.room r hr
    · rw [if_neg hcreates]
      exact h.limited t d
  · have hother : ¬createsOn q.tenantId (dayOf q.began) (s, .created r) = true :=
      fun hcreates => hothers q hq (of_decide_eq_true hcreates).1
    rw [counted_create s r hday, if_neg hother]
    exact h.room q (mem_of_mem_erase hq)

lemma Allowance.cancel (asset id : Nat) :
    Allowance pol (history ++ [(s, .cancelled asset id)]) (s.cancel asset id) := by
  have hplain := s.plain_cancel asset id
  rcases cancel_counters s asset id with ⟨c, hfind, hasset, hq, hday, heq⟩ | ⟨hcancels, hsame⟩
  · have hless := queuedOn_cancel hfind hq
    rw [hday] at hless
    have hcounted := h.queued c.tenantId (dayOf s.now) (by omega)
    have hcancels : ∀ t d, cancelsOn t d (s, .cancelled asset id) =
        decide (t = c.tenantId ∧ d = dayOf s.now) := by
      intro t d
      simp only [cancelsOn, hfind, any_some, hasset, hq, hday, true_and]
      refine decide_eq_decide.2 ⟨fun hk => ⟨hk.1.symm, hk.2.1.symm⟩, fun hk => ⟨hk.1.symm, hk.2.symm, hk.2.symm⟩⟩
    have hcounters : ∀ t d, counted (s.cancel asset id).counters t d =
        counted s.counters t d - if cancelsOn t d (s, .cancelled asset id) then 1 else 0 := by
      intro t d
      rw [heq, hcancels]
      by_cases hkey : t = c.tenantId ∧ d = dayOf s.now
      · rw [if_pos (decide_eq_true hkey), hkey.1, hkey.2, counted_countRequest_self]
        omega
      · rw [if_neg (by simpa using hkey), counted_countRequest_ne hkey, Nat.sub_zero]
    have hnow : (s.cancel asset id).now = s.now := by rw [heq]; rfl
    have hrequesting : (s.cancel asset id).requesting = s.requesting := by rw [heq]; rfl
    refine ⟨fun t d hd => ?_, fun t d hd => ?_, fun t d => ?_, fun r hr => ?_, hrequesting ▸ h.apart⟩
    · rw [hnow] at hd
      have hold := h.exact t d hd
      rw [countP_concat, countP_concat, hcounters, show createsOn t d (s, .cancelled asset id) = false from rfl,
        if_neg Bool.false_ne_true]
      by_cases hkey : t = c.tenantId ∧ d = dayOf s.now
      · rw [if_pos (by rw [hcancels]; exact decide_eq_true hkey)]
        obtain ⟨rfl, rfl⟩ := hkey
        omega
      · rw [if_neg (by rw [hcancels]; simpa using hkey)]
        omega
    · rw [hnow] at hd
      have hold := h.queued t d hd
      rw [hcounters]
      by_cases hkey : t = c.tenantId ∧ d = dayOf s.now
      · rw [if_pos (by rw [hcancels]; exact decide_eq_true hkey)]
        obtain ⟨rfl, rfl⟩ := hkey
        have hqueued : (s.cancel asset id).queuedOn c.tenantId (dayOf s.now) =
            (s.setCapture id Capture.cancel).queuedOn c.tenantId (dayOf s.now) := by rw [heq]; rfl
        omega
      · rw [if_neg (by rw [hcancels]; simpa using hkey)]
        exact (queuedOn_plain hplain).trans hold
    · rw [hcounters]
      exact (Nat.sub_le _ _).trans (h.limited t d)
    · rw [hcounters]
      exact (Nat.sub_le _ _).trans_lt (h.room r (hrequesting ▸ hr))
  · exact h.same (fun _ _ => rfl) hcancels hsame fun _ _ => queuedOn_plain hplain

lemma Allowance.retain {t : Nat} {p : Policy} {now : Int} {failing : List Nat}
    (hnow : now ≤ s.now) :
    Allowance pol (history ++ [(s, .retained t p now failing)]) (s.retain t p now failing) := by
  have hplain : s.Plain (s.retain t p now failing) := .sublist filter_sublist rfl
  refine h.aside (fun _ _ => rfl) (fun _ _ => rfl) (le_refl _) (fun _ _ => queuedOn_plain hplain)
    (fun t' d => ?_) (fun t' d hd => ?_) (Sublist.refl _)
  · exact counted_filter_le (fun t' d => !decide (t' = t ∧ d < dayOf (now - 7 * 86400))) _ t' d
  refine counted_filter (fun u _ hu => ?_) _
  have hkeep : ¬(u.tenantId = t ∧ u.day < dayOf (now - 7 * 86400)) := by
    rintro ⟨_, hlt⟩
    unfold dayOf at hd hlt
    omega
  exact congrArg not (decide_eq_false hkeep)

end

lemma receive_sameAllowance (s : State) (p : Policy) (env : Envelope) (result : CaptureResult) :
    s.SameAllowance (s.receive p env result) := by
  rcases receive_eq s p env result with heq | ⟨c, f, _, _, _, heq⟩ | ⟨c, n, taken, _, heq⟩
  all_goals
    rw [heq]
    exact ⟨rfl, rfl, rfl⟩

lemma Allowance.step (h : Allowance pol history s) (hstep : s.step task e = some s')
    (hpol : e.checkedUnder pol) : Allowance pol (history ++ [(s, e)]) s' := by
  have hqueued : (∀ r, e ≠ .created r) → ∀ t d, s'.queuedOn t d ≤ s.queuedOn t d := by
    intro hnew t d
    rcases step_rows hstep with ⟨r, _, he, _⟩ | ⟨r, _, _, rfl⟩ | hplain
    · exact absurd he (hnew r)
    · exact queuedOn_rewrite (fun _ _ hk => hk)
        (.setCapture r.captureId Capture.Kept.refl (Capture.kept_succeed r.size r.capturedAt) rfl rfl)
    · exact queuedOn_plain hplain
  cases step_does hstep with
  | tick n =>
    have hnow : s.now ≤ s.now + ↑n := by omega
    exact h.aside (fun _ _ => rfl) (fun _ _ => rfl) hnow (hqueued nofun) (fun _ _ => le_refl _) (fun _ _ _ => rfl)
      (Sublist.refl _)
  | checked p hlock =>
    obtain rfl : p = pol := hpol
    exact h.check hlock
  | created hr hday => exact h.create hr hday
  | refused r =>
    exact h.aside (fun _ _ => rfl) (fun _ _ => rfl) (le_refl _) (hqueued nofun) (fun _ _ => le_refl _)
      (fun _ _ _ => rfl) erase_sublist
  | cancelled asset id => exact h.cancel asset id
  | retained t p failing hnow => exact h.retain hnow
  | launched p authorized pool hid =>
    exact h.same (fun _ _ => rfl) (fun _ _ => rfl) (launch_same s _ p authorized pool).2 (hqueued nofun)
  | received p env result =>
    exact h.same (fun _ _ => rfl) (fun _ _ => rfl) (receive_sameAllowance s p env result) (hqueued nofun)
  | deleted asset id failing =>
    exact h.same (fun _ _ => rfl) (fun _ _ => rfl) (delete_same s asset id failing).2 (hqueued nofun)
  | reserved | published | marked | stored | aborted | dropped | deleting | organizationDeleted | purged =>
    exact h.same (fun _ _ => rfl) (fun _ _ => rfl) ⟨rfl, rfl, rfl⟩ (hqueued nofun)

lemma Allowance.empty (pol : Policy) : Allowance pol [] {} := by
  refine ⟨fun t d _ => rfl, fun t d _ => le_refl _, fun t d => Nat.zero_le _, fun r hr => ?_, nodup_nil⟩
  exact absurd hr not_mem_nil

/-- In every run under one policy, the counter of a tenant and one of the last days is the
number of captures created that day less those of them cancelled that day from the queue, and
within the daily limit. -/
theorem counter_exact (h : Steps (State.Step task) {} history s)
    (hpol : ∀ l ∈ history, l.2.checkedUnder pol) (t : Nat) (d : Int) (hd : dayOf s.now - 7 ≤ d) :
    (counted s.counters t d : Int) = history.countP (createsOn t d) - history.countP (cancelsOn t d) ∧
      counted s.counters t d ≤ pol.perTenantDaily := by
  have hallowance : Allowance pol history s := by
    clear hd
    induction h with
    | nil => exact .empty pol
    | snoc _ hstep ih =>
      simp only [forall_mem_append, forall_mem_singleton] at hpol
      obtain ⟨rfl, hstep⟩ := hstep
      exact (ih hpol.1).step hstep hpol.2
  have hexact := hallowance.exact t d hd
  exact ⟨by omega, hallowance.limited t d⟩

/-- Two captures are requested; one is cancelled from the queue, and its row deleted. -/
def requestedTwice : List Event :=
  [.checked { available := true } ⟨1, 1, 1, true, true, true⟩, .created ⟨1, 1, 1, 0⟩,
    .checked { available := true } ⟨1, 1, 2, true, true, true⟩, .created ⟨1, 1, 2, 0⟩,
    .cancelled 1 0, .deleted 1 0 []]

theorem counter_exact_deleted : ∃ history s, Steps (State.Step id) {} history s ∧ s.captures.length = 1 ∧
    counted s.counters 1 0 = 1 ∧
    (counted s.counters 1 0 : Int) = history.countP (createsOn 1 0) - history.countP (cancelsOn 1 0) ∧
    counted s.counters 1 0 ≤ 50 := by
  refine exists_steps requestedTwice (fun s => decide (s.now = 0 ∧ s.captures.length = 1 ∧
    counted s.counters 1 0 = 1)) (by decide +kernel) fun s hrun hs => ?_
  obtain ⟨hnow, hrows, hcounted⟩ := of_decide_eq_true hs
  have hpol : ∀ l ∈ trace (State.step id) {} requestedTwice, l.2.checkedUnder { available := true } := by
    decide +kernel
  have hday : dayOf s.now - 7 ≤ 0 := by
    rw [hnow]
    decide
  exact ⟨hrows, hcounted, counter_exact hrun hpol 1 0 hday⟩

end Runs

end App.Screenshots
