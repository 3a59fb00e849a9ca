import AttackSurface.Risk.Engine

/-!
# Alerts for expiring certificates (`certificate_expiry`, `certificate_alerts`)

Each run fires the tightest threshold that is newly crossed and remembers it, not the wider
ones crossed with it.  The thresholds fired for a certificate go down as long as no run finds two
of them newly crossed (`thresholds_decreasing`); one first seen shortly before it expires has an
alert for 7 days and then another for 14.
-/

namespace App.Services

open PyText App.Risk AsmSensors List

/-- `EXPIRY_THRESHOLDS`. -/
def expiryThresholds : List Int := [30, 14, 7, 1]

inductive ExpiryEvent
  | certificateExpired
  | certificateExpiring
deriving DecidableEq, Repr

structure EventDraft where
  eventType : ExpiryEvent
  severity : Severity
  title : Str
  daysLeft : Int
deriving DecidableEq

/-- `subject or value[:16]`. -/
def certificateName (value : Str) (subject : Option Str) : Str := (subject.filter (· ≠ [])).getD (value.take 16)

def crossed (daysLeft : Int) (already : List Int) : List Int :=
  expiryThresholds.filter fun t => decide (daysLeft ≤ t ∧ t ∉ already)

/-- `certificate_expiry`: the tightest newly crossed threshold; `-1` stands for expired. -/
def certificateExpiry (value : Str) (subject : Option Str) (daysLeft : Int) (already : List Int) :
    Option (EventDraft × Int) :=
  if daysLeft < 0 then
    if -1 ∈ already then none
    else some (⟨.certificateExpired, .high, "TLS certificate expired: ".toList ++ certificateName value subject,
      daysLeft⟩, -1)
  else
    (crossed daysLeft already).min?.map fun t =>
      (⟨.certificateExpiring, if t ≤ 7 then .high else .medium,
        "TLS certificate for ".toList ++ certificateName value subject ++ " expires in ".toList ++
          PyJson.intText daysLeft ++ " day(s)".toList, daysLeft⟩, t)

/-- The columns of a certificate asset that the alerts read or write. -/
structure Certificate where
  id : Nat
  value : Str
  active : Bool := true
  notAfter : Option Str := none
  subjectCn : Option Str := none
  expiryAlerts : List Int := []

-- `datetime.fromisoformat` after the replacement of `Z`, in UTC where no zone is given
variable (fromIso : Str → Option Int)

variable (now : Int) (c : Certificate)

def Certificate.daysLeft : Option Int :=
  ((c.notAfter.filter (· ≠ [])).bind fromIso).map fun exp => days (exp - now)

/-- The body of the loop of `certificate_alerts`. -/
def Certificate.alert : Option (EventDraft × Int) :=
  if c.active then
    (c.daysLeft fromIso now).bind fun d => certificateExpiry c.value c.subjectCn d c.expiryAlerts
  else none

/-- The row after a run; the list of `expiry_alerts` is kept sorted and without duplicates. -/
def Certificate.after : Certificate := (c.alert fromIso now).elim c fun a =>
    { c with expiryAlerts := (a.2 :: c.expiryAlerts).dedup.insertionSort (· ≤ ·) }

/-- `certificate_alerts`: the rows, and the events with the threshold of each. -/
def certificateAlerts (rows : List Certificate) : List Certificate × List (Nat × EventDraft × Int) :=
  (rows.map (Certificate.after fromIso now), rows.filterMap fun c => (c.alert fromIso now).map fun a => (c.id, a))

def alertRuns : List Certificate → List Int → List (Nat × EventDraft × Int)
  | _, [] => []
  | rows, now :: times =>
    (certificateAlerts fromIso now rows).2 ++ alertRuns (certificateAlerts fromIso now rows).1 times

def thresholdsOf (id : Nat) (events : List (Nat × EventDraft × Int)) : List Int :=
  (events.filter fun e => decide (e.1 = id)).map fun e => e.2.2

def gradual : Certificate → List Int → Bool
  | _, [] => true
  | c, now :: times =>
    (c.daysLeft fromIso now).all (fun d => decide (0 ≤ d → (crossed d c.expiryAlerts).length ≤ 1)) &&
      gradual (c.after fromIso now) times

/-! ## One certificate -/

def fired : Certificate → List Int → List Int
  | _, [] => []
  | c, now :: times => ((c.alert fromIso now).map Prod.snd).toList ++ fired (c.after fromIso now) times

variable {fromIso} {now : Int} {c : Certificate} {times : List Int} {t : Int}

/-- What an alert says about the day of the run. -/
lemma alert_spec {d : EventDraft} (h : c.alert fromIso now = some (d, t)) :
    t ∉ c.expiryAlerts ∧ ∃ left, c.daysLeft fromIso now = some left ∧
      ((left < 0 ∧ t = -1) ∨ (0 ≤ left ∧ t ∈ crossed left c.expiryAlerts)) := by
  unfold Certificate.alert at h
  split at h
  · obtain ⟨left, hleft, hexpiry⟩ := Option.bind_eq_some_iff.1 h
    unfold certificateExpiry at hexpiry
    split at hexpiry
    · next hneg =>
      split at hexpiry <;> cases hexpiry
      next hnew => exact ⟨hnew, left, hleft, .inl ⟨hneg, rfl⟩⟩
    · next hpos =>
      obtain ⟨m, hm, heq⟩ := Option.map_eq_some_iff.1 hexpiry
      cases heq
      have hmem : t ∈ crossed left c.expiryAlerts := min?_mem hm
      have hnew := of_decide_eq_true (mem_filter.1 hmem).2
      exact ⟨hnew.2, left, hleft, .inr ⟨not_lt.1 hpos, hmem⟩⟩
  · cases h

lemma after_daysLeft (now' : Int) : (c.after fromIso now).daysLeft fromIso now' = c.daysLeft fromIso now' := by
  unfold Certificate.after
  cases c.alert fromIso now <;> rfl

lemma mem_after {x : Int} : x ∈ (c.after fromIso now).expiryAlerts ↔
    x ∈ (c.alert fromIso now).map Prod.snd ∨ x ∈ c.expiryAlerts := by
  unfold Certificate.after
  cases c.alert fromIso now with
  | none => simp
  | some a => simp [mem_insertionSort, eq_comm]

lemma daysLeft_antitone {now' : Int} (h : now ≤ now') {left' : Int} (hleft : c.daysLeft fromIso now' = some left') :
    ∃ left, c.daysLeft fromIso now = some left ∧ left' ≤ left := by
  obtain ⟨exp, hexp, rfl⟩ := Option.map_eq_some_iff.1 hleft
  exact ⟨_, Option.map_eq_some_iff.2 ⟨exp, hexp, rfl⟩, Int.ediv_le_ediv (by decide) (by omega)⟩

/-- A threshold fires once, and only those for the days to come fire before the certificate expires. -/
lemma mem_fired (hnow : ∀ x ∈ times, now ≤ x) (h : t ∈ fired fromIso c times) :
    t ∉ c.expiryAlerts ∧ ∃ left, c.daysLeft fromIso now = some left ∧
      (t = -1 ∨ (0 ≤ left ∧ t ∈ expiryThresholds)) := by
  induction times generalizing c with
  | nil => cases h
  | cons x times ih =>
    rcases mem_append.1 h with h | h
    · obtain ⟨⟨d, _⟩, ha, rfl⟩ := Option.map_eq_some_iff.1 (Option.mem_toList.1 h)
      obtain ⟨hnew, left', hleft', hkind⟩ := alert_spec ha
      obtain ⟨left, hleft, hle⟩ := daysLeft_antitone (hnow x mem_cons_self) hleft'
      refine ⟨hnew, left, hleft, ?_⟩
      rcases hkind with ⟨-, hexpired⟩ | ⟨hpos, hcrossed⟩
      · exact .inl hexpired
      · exact .inr ⟨hpos.trans hle, (mem_filter.1 hcrossed).1⟩
    · obtain ⟨hnew, left, hleft, hkind⟩ := ih (fun y hy => hnow y (mem_cons_of_mem _ hy)) h
      rw [after_daysLeft] at hleft
      exact ⟨fun hold => hnew (mem_after.2 (.inr hold)), left, hleft, hkind⟩

lemma fired_pairwise (htimes : times.Pairwise (· ≤ ·)) (hgradual : gradual fromIso c times = true) :
    (fired fromIso c times).Pairwise (· > ·) := by
  induction times generalizing c with
  | nil => exact Pairwise.nil
  | cons now times ih =>
    obtain ⟨hnow, htimes⟩ := pairwise_cons.1 htimes
    obtain ⟨hone, hrest⟩ := Bool.and_eq_true_iff.1 hgradual
    have htail := ih htimes hrest
    unfold fired
    cases ha : c.alert fromIso now with
    | none => exact htail
    | some a =>
      obtain ⟨d, t⟩ := a
      refine pairwise_cons.2 ⟨fun t' ht' => ?_, htail⟩
      obtain ⟨-, left, hleft, hkind⟩ := alert_spec ha
      obtain ⟨hnew', left', hleft', hkind'⟩ := mem_fired hnow ht'
      rw [after_daysLeft, hleft] at hleft'
      cases hleft'
      have hne : t' ≠ t := fun h => hnew' (mem_after.2 (.inl (by rw [ha, h]; rfl)))
      have hold : t' ∉ c.expiryAlerts := fun h => hnew' (mem_after.2 (.inr h))
      rcases hkind with ⟨hneg, rfl⟩ | ⟨hpos, hcrossed⟩
      · -- nothing fires once the certificate has expired
        rcases hkind' with rfl | ⟨hpos, -⟩
        · exact absurd rfl hne
        · omega
      have hmem := mem_filter.1 hcrossed
      rcases hkind' with rfl | ⟨-, hmem'⟩
      · have hthreshold : ∀ x ∈ expiryThresholds, x > -1 := by decide
        exact hthreshold t hmem.1
      -- a wider one would have been crossed with it
      by_contra hwider
      have hcrossed' : t' ∈ crossed left c.expiryAlerts := by
        have hle := (of_decide_eq_true hmem.2).1
        exact mem_filter.2 ⟨hmem', decide_eq_true ⟨by omega, hold⟩⟩
      have hlen : (crossed left c.expiryAlerts).length ≤ 1 := by
        rw [hleft] at hone
        exact of_decide_eq_true hone hpos
      generalize crossed left c.expiryAlerts = l at hlen hcrossed hcrossed'
      match l, hlen with
      | [], _ => cases hcrossed
      | [x], _ => exact hne ((mem_singleton.1 hcrossed').trans (mem_singleton.1 hcrossed).symm)

/-! ## All certificates -/

lemma after_id : (c.after fromIso now).id = c.id := by
  unfold Certificate.after
  cases c.alert fromIso now <;> rfl

lemma thresholdsOf_other {id : Nat} {rows : List Certificate} (h : id ∉ rows.map Certificate.id) :
    thresholdsOf id (certificateAlerts fromIso now rows).2 = [] := by
  rw [thresholdsOf, map_eq_nil_iff, filter_eq_nil_iff]
  intro e he hid
  obtain ⟨x, hx, hevent⟩ := mem_filterMap.1 he
  obtain ⟨a, -, rfl⟩ := Option.map_eq_some_iff.1 hevent
  exact h (of_decide_eq_true hid ▸ mem_map_of_mem hx)

/-- The runs treat each certificate by itself. -/
lemma thresholdsOf_alertRuns {rows : List Certificate} (hids : (rows.map Certificate.id).Nodup) (hc : c ∈ rows) :
    thresholdsOf c.id (alertRuns fromIso rows times) = fired fromIso c times := by
  have happend : ∀ (id : Nat) (es es' : List (Nat × EventDraft × Int)),
      thresholdsOf id (es ++ es') = thresholdsOf id es ++ thresholdsOf id es' := by simp [thresholdsOf]
  induction times generalizing c rows with
  | nil => rfl
  | cons now times ih =>
    have hids' : ((rows.map (Certificate.after fromIso now)).map Certificate.id).Nodup := by
      simpa only [map_map, Function.comp_def, after_id] using hids
    have htail := ih hids' (mem_map_of_mem hc)
    rw [after_id] at htail
    rw [alertRuns, happend, fired]
    refine congrArg₂ (· ++ ·) ?_ htail
    obtain ⟨s, u, rfl⟩ := append_of_mem hc
    rw [map_append, map_cons, nodup_middle, nodup_cons, mem_append, not_or] at hids
    have hsplit : (certificateAlerts fromIso now (s ++ c :: u)).2 = (certificateAlerts fromIso now s).2 ++
        (((c.alert fromIso now).map fun a => (c.id, a)).toList ++ (certificateAlerts fromIso now u).2) := by
      simp only [certificateAlerts, filterMap_append, filterMap_cons]
      cases c.alert fromIso now <;> rfl
    rw [hsplit, happend, happend, thresholdsOf_other hids.1.1, thresholdsOf_other hids.1.2]
    cases c.alert fromIso now <;> simp [thresholdsOf]

/-- **Thresholds go down.**  In runs at non-decreasing times of which none finds two thresholds of a
certificate newly crossed, the thresholds for which its events are emitted are strictly decreasing. -/
theorem thresholds_decreasing (fromIso : Str → Option Int) {rows : List Certificate}
    (hids : (rows.map Certificate.id).Nodup) {times : List Int} (htimes : times.Pairwise (· ≤ ·)) {c : Certificate}
    (hc : c ∈ rows) (hgradual : gradual fromIso c times = true) :
    (thresholdsOf c.id (alertRuns fromIso rows times)).Pairwise (· > ·) ∧
      ∀ t ∈ thresholdsOf c.id (alertRuns fromIso rows times), t ∈ expiryThresholds ++ [-1] := by
  rw [thresholdsOf_alertRuns hids hc]
  refine ⟨fired_pairwise htimes hgradual, fun t ht => ?_⟩
  cases times with
  | nil => cases ht
  | cons now times =>
    have hnow : ∀ x ∈ now :: times, now ≤ x := by
      intro x hx
      rcases mem_cons.1 hx with rfl | hx
      · exact le_refl _
      · exact (pairwise_cons.1 htimes).1 x hx
    obtain ⟨-, -, -, rfl | ⟨-, hmem⟩⟩ := mem_fired hnow ht
    · decide
    · exact mem_append_left _ hmem

def fortyDays : Certificate := { id := 1, value := "ab12".toList, notAfter := some "40".toList }

def onDay (d : Int) : Int := d * 86400000000

def afterForty : Str → Option Int := fun _ => some (onDay 40)

/-- Two runs, the first five days before the end: the alert for 14 days follows the one for 7. -/
theorem wider_after_tighter : thresholdsOf 1 (alertRuns afterForty [fortyDays] [onDay 35, onDay 36]) = [7, 14] := by
  decide +kernel

theorem thresholds_decreasing_daily :
    (thresholdsOf 1 (alertRuns afterForty [fortyDays] (([1, 11, 27, 34, 39, 41] : List Int).map onDay))).Pairwise (· > ·) :=
  (thresholds_decreasing afterForty (c := fortyDays) (by decide) (by decide +kernel) mem_cons_self
    (by decide +kernel)).1

end App.Services
