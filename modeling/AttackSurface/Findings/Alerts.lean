import AttackSurface.Findings.Activity
import AttackSurface.Findings.Verified

/-!
# The change events of findings (`FindingChange`)

The calls that sensors make on findings return changes, and a change that has an event
becomes an alert.  The first detection of an issue that nobody verified returns no event;
its resolution and its return do, whoever saw it (`CaseStep.Quiet`, `quiet_iff`).
-/

namespace App.Findings

open PyText AsmSensors App.Assets Machines List Option

inductive ChangeEvent
  | vulnerabilityDetected
  | vulnerabilityReopened
  | vulnerabilityResolved
deriving DecidableEq, Repr

structure FindingChange where
  finding : Nat
  event : Option ChangeEvent
deriving DecidableEq

section Changes

variable (U : Unicode) (ids : Identity) (fs : List Finding)

/-- What the call returns; an update by an analyst and an expiry return no changes. -/
def CaseStep.changes : CaseStep → List FindingChange
  | .upsert assetId obs source _ unverified =>
    match fs.findIdx? (·.fingerprint = fingerprint U ids assetId source obs.ruleId obs.location) with
    | none => [⟨fs.length, if unverified then none else some .vulnerabilityDetected⟩]
    | some i =>
      [⟨i, if fs[i]?.any (·.status = .remediated) then some .vulnerabilityReopened else none⟩]
  | .resolveUnobserved assetIds source cov observed threshold now =>
    (App.Findings.resolveUnobserved fs assetIds source cov observed threshold now).2.map
      (⟨·, some .vulnerabilityResolved⟩)
  | .assetLeft assetId _ =>
    (idsWhere fs fun f => decide (f.assetId = assetId) && f.status.isOpen).map
      (⟨·, some .vulnerabilityResolved⟩)
  | .update .. | .expire _ => []

/-- No change with an event is about a finding that is unverified after the call. -/
def CaseStep.Quiet (step : CaseStep) : Prop :=
  ∀ c ∈ step.changes U ids fs, c.event.isSome = true →
    ((step.onFindings U ids fs)[c.finding]?.map Finding.unverified) ≠ some true

/-- The call neither brings back nor resolves a finding that nobody verified. -/
def CaseStep.Vouched : CaseStep → Prop
  | .upsert assetId obs source _ unverified => unverified = true → ∀ (i : Nat) (f : Finding),
      fs.findIdx? (·.fingerprint = fingerprint U ids assetId source obs.ruleId obs.location) = some i →
      fs[i]? = some f → f.unverified = true → f.status ≠ .remediated
  | .resolveUnobserved assetIds source cov observed threshold _ => ∀ (i : Nat) (f : Finding),
      fs[i]? = some f → f.unverified = true → unobserved assetIds source cov observed i f = true →
      f.missedCount + 1 < threshold
  | .assetLeft assetId _ => ∀ (i : Nat) (f : Finding),
      fs[i]? = some f → f.unverified = true → f.assetId = assetId → f.status.isOpen = false
  | .update .. | .expire _ => True

end Changes

variable {U : Unicode} {ids : Identity} {fs fs' : List Finding}

/-- A call that resolves findings leaves their flags, so the flags before it decide. -/
lemma resolved_quiet_iff (fs : List Finding) {resolved : List Nat}
    (hflags : fs'.map Finding.unverified = fs.map Finding.unverified) :
    (∀ c ∈ resolved.map (fun i => (⟨i, some .vulnerabilityResolved⟩ : FindingChange)),
        c.event.isSome = true → (fs'[c.finding]?.map Finding.unverified) ≠ some true) ↔
      ∀ (i : Nat) (f : Finding), fs[i]? = some f → f.unverified = true → i ∉ resolved := by
  rw [List.forall_mem_map]
  have hflag : ∀ i : Nat, fs'[i]?.map Finding.unverified = fs[i]?.map Finding.unverified := by
    intro i
    rw [← getElem?_map, ← getElem?_map, hflags]
  simp only [hflag]
  constructor
  · intro h i f hf hun hmem
    refine h i hmem rfl ?_
    rw [hf, map_some, hun]
  · intro h i hmem _ hun
    obtain ⟨f, hf, hun⟩ := map_eq_some_iff.1 hun
    exact h i f hf hun hmem

lemma missFinding_unverified (threshold : Nat) (now : Int) (f : Finding) :
    (missFinding threshold now f).unverified = f.unverified := by
  unfold missFinding
  simp only
  split <;> rfl

lemma upsert_quiet_iff (assetId : Nat) (obs : FindingObservation) (source : Str) (now : Int)
    (unverified : Bool) :
    (CaseStep.upsert assetId obs source now unverified).Quiet U ids fs ↔
      (CaseStep.upsert assetId obs source now unverified).Vouched U ids fs := by
  unfold CaseStep.Quiet CaseStep.Vouched CaseStep.changes CaseStep.onFindings upsertObservation
  simp only
  cases hfind : fs.findIdx? (·.fingerprint = fingerprint U ids assetId source obs.ruleId obs.location) with
  | none =>
    -- a first detection has an event only if it is verified
    have hnew : (newFinding assetId (fingerprint U ids assetId source obs.ruleId obs.location) source obs now
        unverified).unverified = unverified := rfl
    cases unverified <;> simp [hnew]
  | some i =>
    obtain ⟨hi, -, -⟩ := findIdx?_eq_some_iff_getElem.1 hfind
    have hrow : fs[i]? = some fs[i] := getElem?_eq_getElem hi
    have hafter : (fs.modify i (seenAgain obs now unverified))[i]?.map Finding.unverified =
        some (fs[i].unverified && unverified) := by
      rw [getElem?_modify_map, hrow, map_some, map_some, if_pos rfl, seenAgain_unverified]
    simp only [mem_singleton, forall_eq, hafter, hrow, any_some, some.injEq]
    constructor
    · intro h hun j f hj hf hflag hstatus
      subst hj
      obtain rfl : fs[i] = f := some_inj.1 (hrow.symm.trans hf)
      exact h (by simp [hstatus]) (by simp [hflag, hun])
    · intro h hevent hflag
      rw [some.injEq, Bool.and_eq_true] at hflag
      have hstatus : fs[i].status ≠ .remediated := h hflag.2 i fs[i] rfl hrow hflag.1
      simp [hstatus] at hevent

/-- **One call.** -/
theorem quiet_iff (step : CaseStep) : step.Quiet U ids fs ↔ step.Vouched U ids fs := by
  cases step with
  | upsert assetId obs source now unverified => exact upsert_quiet_iff assetId obs source now unverified
  | resolveUnobserved assetIds source cov observed threshold now =>
    refine (resolved_quiet_iff fs ?_).trans ?_
    · refine ext_getElem? fun i => ?_
      simp only [CaseStep.onFindings, resolveUnobserved, getElem?_map, getElem?_mapIdx, Option.map_map]
      congr 1
      funext f
      simp only [Function.comp_apply]
      split
      · exact missFinding_unverified threshold now f
      · rfl
    · refine forall_congr' fun i => forall_congr' fun f => forall_congr' fun hf => forall_congr' fun _ => ?_
      have hi : i < fs.length := (List.getElem?_eq_some_iff.1 hf).1
      simp only [resolveUnobserved, missedIds, mem_filter, mem_range, hf, any_some, hi, true_and,
        decide_eq_true_eq, not_and, Nat.not_le]
  | assetLeft assetId now =>
    refine (resolved_quiet_iff fs ?_).trans ?_
    · show (resolveForInactiveAsset assetId now fs).map _ = _
      rw [resolveForInactiveAsset, List.map_map]
      refine map_congr_left fun f _ => ?_
      simp only [Function.comp_apply]
      split <;> rfl
    · refine forall_congr' fun i => forall_congr' fun f => forall_congr' fun hf => forall_congr' fun _ => ?_
      simp [mem_idsWhere, hf]
  | update | expire => exact iff_of_true (fun c hc => absurd hc (by simp [CaseStep.changes])) trivial

/-- **Alerts.**  From any findings and in any sequence of calls, no call alerts about an issue that
is unverified after it exactly if no call brings back or resolves an unverified one. -/
theorem alerts_vouched_iff (U : Unicode) (ids : Identity) (fs : List Finding) (steps : List CaseStep) :
    (∀ l ∈ labels (CaseStep.onFindings U ids) fs steps, l.2.Quiet U ids l.1) ↔
      ∀ l ∈ labels (CaseStep.onFindings U ids) fs steps, l.2.Vouched U ids l.1 :=
  forall₂_congr fun l _ => quiet_iff l.2

/-- A port that a third party's database lists with an issue, until it no longer does. -/
def listed : CaseStep :=
  .upsert 1 { asset := ⟨.port, "192.0.2.1:443/tcp".toList⟩, ruleId := "CVE-2021-1".toList, title := [] }
    "shodan".toList 5 true

def unlisted : CaseStep := .resolveUnobserved [1] "shodan".toList { assets := [] } [] 1 6

/-- The issue that nobody verified raises an alert when it is gone and when it is back. -/
theorem unverified_alerts :
    ¬unlisted.Quiet asciiUnicode oneTenant ([listed].foldl (CaseStep.onFindings asciiUnicode oneTenant) []) ∧
    ¬listed.Quiet asciiUnicode oneTenant
      ([listed, unlisted].foldl (CaseStep.onFindings asciiUnicode oneTenant) []) := by
  constructor
  · intro h
    exact h ⟨0, some .vulnerabilityResolved⟩ (by decide +kernel) rfl (by decide +kernel)
  · intro h
    exact h ⟨0, some .vulnerabilityReopened⟩ (by decide +kernel) rfl (by decide +kernel)

end App.Findings
