import AttackSurface.Findings.Service

/-!
# The activity log of a finding (`_activity`)

A `Case` is a finding with what an analyst wrote beside it and the rows that were
recorded about it, in the order in which they were recorded.  The operations of the
lifecycle are given once more, now with the rows they record; without the rows they are
the operations of `Findings.Service` (`CaseStep.apply_findings`).  After any sequence of them

    resolved_at is set        ↔  the status is REMEDIATED
    false_positive is true    ↔  the status is FALSE_POSITIVE
    the log, replayed from NEW, moves from status to status and ends in the stored one
                                                               (cases_consistent)
-/

namespace App.Findings

open PyText AsmSensors List Option Bool Function

inductive ActivityKind
  | detected
  | resolved
  | reopened
  | status
  | assignment
  | comment
  | tags
deriving DecidableEq, Repr

/-- A row of `finding_activities`. -/
structure Activity where
  kind : ActivityKind
  /-- the key `status` of `previous` and of `new` -/
  moved : Option (FindingStatus × FindingStatus) := none
  comment : Option Str := none
deriving DecidableEq

structure Case where
  finding : Finding
  assignedTo : Option Str := none
  notes : Option Str := none
  log : List Activity := []

def Case.record (c : Case) (a : Activity) : Case := { c with log := c.log ++ [a] }

/-! ## The operations on one finding -/

def newCase (assetId : Nat) (fp source : Str) (obs : FindingObservation) (now : Int)
    (unverified : Bool) : Case where
  finding := newFinding assetId fp source obs now unverified
  log := [{ kind := .detected }]

/-- `upsert_observation` of a known finding. -/
def Case.seenAgain (obs : FindingObservation) (now : Int) (unverified : Bool) (c : Case) : Case :=
  let c' := { c with finding := App.Findings.seenAgain obs now unverified c.finding }
  if c.finding.status = .remediated then
    c'.record { kind := .reopened, moved := some (c.finding.status, .reopened) }
  else c'

def autoResolved : Str :=
  "Automatically resolved: no longer detected by a scan that covered this asset.".toList

/-- One round of `resolve_unobserved`. -/
def Case.missed (threshold : Nat) (now : Int) (c : Case) : Case :=
  let c' := { c with finding := missFinding threshold now c.finding }
  if c.finding.missedCount + 1 < threshold then c'
  else
    c'.record { kind := .resolved, moved := some (c.finding.status, .remediated), comment := some autoResolved }

def assetGone : Str := "Automatically resolved: the affected asset is no longer observed.".toList

/-- One round of `resolve_for_inactive_asset`. -/
def Case.assetLeft (assetId : Nat) (now : Int) (c : Case) : Case :=
  if c.finding.assetId = assetId ∧ c.finding.status.isOpen = true then
    { c with finding := { c.finding with status := .remediated, resolvedAt := some now } }.record
      { kind := .resolved, moved := some (c.finding.status, .remediated), comment := some assetGone }
  else c

/-- The changes an analyst sends. -/
structure CaseUpdate extends FindingUpdate where
  assignedTo : Option (Option Str) := none
  notes : Option (Option Str) := none

variable (u : CaseUpdate)

/-- The `status` part of `update_finding`, and the comment that is left for its own row. -/
def Case.move (canAcceptRisk : Bool) (now : Int) (c : Case) :
    Except UpdateError (Case × Option Str) :=
  match u.status with
  | none => .ok (c, u.comment)
  | some status =>
    match moveFinding c.finding u.toFindingUpdate canAcceptRisk now status with
    | .error e => .error e
    | .ok f =>
      if status = c.finding.status then .ok (c, u.comment)
      else
        .ok ({ c with finding := f }.record
          { kind := .status, moved := some (c.finding.status, status), comment := u.comment }, none)

def Case.assign (c : Case) : Case :=
  match u.assignedTo with
  | none => c
  | some who =>
    if who = c.assignedTo then c else { c with assignedTo := who }.record { kind := .assignment }

/-- The `tags` part of `update_finding`. -/
def Case.retag (U : Unicode) (u : CaseUpdate) (c : Case) : Case :=
  match u.tags with
  | none => c
  | some tags =>
    let tags := (sortedSet (((tags.map strip).filter (· ≠ [])).map fun t =>
      (U.lower t).take 64)).take 30
    if tags = App.Scope.sortedNames c.finding.tags then c
    else { c with finding := { c.finding with tags := tags } }.record { kind := .tags }

def Case.annotate (comment : Option Str) (c : Case) : Case :=
  let c := { c with notes := u.notes.getD c.notes }
  if comment.getD [] = [] then c else c.record { kind := .comment, comment := comment }

/-- `update_finding`. -/
def Case.update (U : Unicode) (u : CaseUpdate) (canAcceptRisk : Bool) (now : Int) (c : Case) :
    Except UpdateError Case :=
  match c.move u canAcceptRisk now with
  | .error e => .error e
  | .ok (c, comment) => .ok (((c.assign u).retag U u).annotate u comment)

def acceptanceOver : Str := "Risk acceptance expired.".toList

/-- One round of `expire_risk_acceptance`. -/
def Case.expire (now : Int) (c : Case) : Case :=
  if acceptanceExpired now c.finding then
    { c with finding := { c.finding with status := .reopened, acceptedUntil := none } }.record
      { kind := .reopened, moved := some (.acceptedRisk, .reopened), comment := some acceptanceOver }
  else c

/-! ## The table -/

/-- A call of one of the five writers. -/
inductive CaseStep
  | upsert (assetId : Nat) (obs : FindingObservation) (source : Str) (now : Int) (unverified : Bool)
  | resolveUnobserved (assetIds : List Nat) (source : Str) (cov : FindingCoverage)
      (observed : List Nat) (threshold : Nat) (now : Int)
  | assetLeft (assetId : Nat) (now : Int)
  | update (i : Nat) (u : CaseUpdate) (canAcceptRisk : Bool) (now : Int)
  | expire (now : Int)

section Table

variable (U : Unicode) (ids : Identity)

def CaseStep.apply (cases : List Case) : CaseStep → List Case
  | .upsert assetId obs source now unverified =>
    let fp := fingerprint U ids assetId source obs.ruleId obs.location
    match cases.findIdx? (·.finding.fingerprint = fp) with
    | some i => cases.modify i (Case.seenAgain obs now unverified)
    | none => cases ++ [newCase assetId fp source obs now unverified]
  | .resolveUnobserved assetIds source cov observed threshold now =>
    let misses := missedIds (cases.map Case.finding) assetIds source cov observed
    cases.mapIdx fun i c => if i ∈ misses then c.missed threshold now else c
  | .assetLeft assetId now => cases.map (Case.assetLeft assetId now)
  | .update i u canAcceptRisk now =>
    match cases[i]? with
    | none => cases
    | some c =>
      match c.update U u canAcceptRisk now with
      | .error _ => cases
      | .ok c => cases.set i c
  | .expire now => cases.map (Case.expire now)

def CaseStep.onFindings (fs : List Finding) : CaseStep → List Finding
  | .upsert assetId obs source now unverified =>
    (upsertObservation U ids fs assetId obs source now unverified).1
  | .resolveUnobserved assetIds source cov observed threshold now =>
    (App.Findings.resolveUnobserved fs assetIds source cov observed threshold now).1
  | .assetLeft assetId now => resolveForInactiveAsset assetId now fs
  | .update i u canAcceptRisk now =>
    match updateFinding U fs i u.toFindingUpdate canAcceptRisk now with
    | .error _ => fs
    | .ok fs => fs
  | .expire now => expireRiskAcceptance now fs

end Table

/-! ## Consistency -/

/-- The status after the rows of a log, if each row starts from the status reached so far. -/
def replay : FindingStatus → List Activity → Option FindingStatus
  | s, [] => some s
  | s, a :: log =>
    match a.moved with
    | none => replay s log
    | some (before, after) => if before = s then replay after log else none

structure Case.Consistent (c : Case) : Prop where
  resolvedAt : c.finding.resolvedAt.isSome = true ↔ c.finding.status = .remediated
  falsePositive : c.finding.falsePositive = true ↔ c.finding.status = .falsePositive
  log : replay .new c.log = some c.finding.status

lemma replay_append (s : FindingStatus) (log₁ log₂ : List Activity) :
    replay s (log₁ ++ log₂) = (replay s log₁).bind fun s => replay s log₂ := by
  induction log₁ generalizing s with
  | nil => rfl
  | cons a log₁ ih =>
    cases hm : a.moved with
    | none => simpa [replay, hm] using ih s
    | some m =>
      by_cases hs : m.1 = s
      · simpa [replay, hm, hs] using ih m.2
      · simp [replay, hm, hs]

variable {c : Case} {canAcceptRisk : Bool}

lemma Case.Consistent.note (h : c.Consistent) {a : Activity} (ha : a.moved = none) :
    (c.record a).Consistent := by
  refine ⟨h.resolvedAt, h.falsePositive, ?_⟩
  show replay .new (c.log ++ [a]) = some c.finding.status
  rw [replay_append, h.log]
  simp [replay, ha]

lemma Case.Consistent.move (h : c.Consistent) {f : Finding} {a : Activity}
    (ha : a.moved = some (c.finding.status, f.status))
    (hres : f.resolvedAt.isSome = true ↔ f.status = .remediated)
    (hfp : f.falsePositive = true ↔ f.status = .falsePositive) :
    ({ c with finding := f }.record a).Consistent := by
  refine ⟨hres, hfp, ?_⟩
  show replay .new (c.log ++ [a]) = some f.status
  rw [replay_append, h.log]
  simp [replay, ha]

lemma Case.Consistent.keep {c c' : Case} (h : c.Consistent) (hlog : c'.log = c.log)
    (hstatus : c'.finding.status = c.finding.status)
    (hres : c'.finding.resolvedAt = c.finding.resolvedAt)
    (hfp : c'.finding.falsePositive = c.finding.falsePositive) : c'.Consistent := by
  refine ⟨?_, ?_, ?_⟩
  · rw [hres, hstatus, h.resolvedAt]
  · rw [hfp, hstatus, h.falsePositive]
  · rw [hlog, hstatus, h.log]

lemma Case.Consistent.unmarked (h : c.Consistent) (hr : c.finding.status ≠ .remediated)
    (hf : c.finding.status ≠ .falsePositive) :
    c.finding.resolvedAt = none ∧ c.finding.falsePositive = false := by
  constructor
  · rw [← not_isSome_iff_eq_none]
    exact fun hs => hr (h.resolvedAt.1 hs)
  · rw [← not_eq_true]
    exact fun hs => hf (h.falsePositive.1 hs)

lemma isOpen_not_marked {s : FindingStatus} (h : s.isOpen = true) : s ≠ .remediated ∧ s ≠ .falsePositive := by
  constructor <;> intro hs <;> rw [hs] at h <;> cases h

lemma newCase_consistent (assetId : Nat) (fp source : Str) (obs : FindingObservation) (now : Int)
    (unverified : Bool) : (newCase assetId fp source obs now unverified).Consistent :=
  ⟨by simp [newCase, newFinding], by simp [newCase, newFinding], rfl⟩

section

variable (h : c.Consistent)

include h

lemma Case.seenAgain_consistent (obs : FindingObservation) (now : Int)
    (unverified : Bool) : (c.seenAgain obs now unverified).Consistent := by
  unfold Case.seenAgain
  by_cases hr : c.finding.status = .remediated
  · have hfp : c.finding.falsePositive = false := by
      rw [← not_eq_true, h.falsePositive, hr]
      simp
    simp only [if_pos hr]
    refine h.move ?_ ?_ ?_ <;> simp [App.Findings.seenAgain, hr, hfp]
  · simp only [if_neg hr]
    refine h.keep rfl ?_ ?_ ?_ <;> simp [App.Findings.seenAgain, hr]

lemma Case.missed_consistent (hopen : c.finding.status.isOpen = true)
    (threshold : Nat) (now : Int) : (c.missed threshold now).Consistent := by
  obtain ⟨hr, hf⟩ := isOpen_not_marked hopen
  unfold Case.missed
  by_cases hlt : c.finding.missedCount + 1 < threshold
  · simp only [if_pos hlt]
    refine h.keep rfl ?_ ?_ ?_ <;> simp [missFinding, hlt]
  · simp only [if_neg hlt]
    refine h.move ?_ ?_ ?_ <;> simp [missFinding, hlt, (h.unmarked hr hf).2]

lemma Case.assetLeft_consistent (assetId : Nat) (now : Int) :
    (c.assetLeft assetId now).Consistent := by
  unfold Case.assetLeft
  split
  · next hc =>
    obtain ⟨hr, hf⟩ := isOpen_not_marked hc.2
    refine h.move rfl ?_ ?_ <;> simp [(h.unmarked hr hf).2]
  · exact h

lemma Case.expire_consistent (now : Int) : (c.expire now).Consistent := by
  unfold Case.expire
  split
  · next hexp =>
    have hstatus : c.finding.status = .acceptedRisk := by
      simp only [acceptanceExpired, and_eq_true, beq_iff_eq] at hexp
      exact hexp.1
    obtain ⟨hres, hfp⟩ := h.unmarked (by simp [hstatus]) (by simp [hstatus])
    refine h.move ?_ ?_ ?_ <;> simp [hstatus, hres, hfp]
  · exact h

end

/-! ## Updates -/

/-- A move that is allowed: the flags say the new status, and `resolved_at` is kept only where
the finding was not remediated. -/
lemma moveFinding_moved {f f' : Finding} {u : FindingUpdate} {now : Int}
    {status : FindingStatus} (h : moveFinding f u canAcceptRisk now status = .ok f')
    (hne : status ≠ f.status) :
    status ∈ allowedTransitions f.status ∧ f'.status = status ∧
      f'.falsePositive = decide (status = .falsePositive) ∧
      f'.resolvedAt = if status = .remediated then some now
        else if status = .reopened then none else f.resolvedAt := by
  unfold moveFinding at h
  rw [if_neg hne] at h
  by_cases hallow : status ∈ allowedTransitions f.status
  · rw [if_neg (not_not.2 hallow)] at h
    split at h
    · cases h
    split at h
    · cases h
    · cases h
      exact ⟨hallow, rfl, rfl, rfl⟩
  · rw [if_pos hallow] at h
    cases h

lemma reopened_of_remediated {s : FindingStatus} (h : s ∈ allowedTransitions .remediated) : s = .reopened := by
  simpa [allowedTransitions] using h

lemma Case.move_consistent {c c' : Case} (h : c.Consistent) {u : CaseUpdate}
    {now : Int} {comment : Option Str} (hmove : c.move u canAcceptRisk now = .ok (c', comment)) :
    c'.Consistent := by
  unfold Case.move at hmove
  split at hmove
  · cases hmove
    exact h
  next status hu =>
  split at hmove
  · cases hmove
  next f hf =>
  by_cases hsame : status = c.finding.status
  · rw [if_pos hsame] at hmove
    cases hmove
    exact h
  rw [if_neg hsame] at hmove
  cases hmove
  obtain ⟨hallow, hstatus, hfp, hres⟩ := moveFinding_moved hf hsame
  refine h.move (by rw [hstatus]) ?_ (by simp [hfp, hstatus])
  rw [hres, hstatus]
  split
  · simp [*]
  next hr =>
  split
  · simp [hr]
  · next hro =>
    -- the status before was not REMEDIATED: from there one only gets to REOPENED
    have hbefore : c.finding.status ≠ .remediated := fun hb =>
      hro (reopened_of_remediated (hb ▸ hallow))
    simp [h.resolvedAt, hbefore, hr]

lemma Case.assign_consistent (h : c.Consistent) (u : CaseUpdate) : (c.assign u).Consistent := by
  unfold Case.assign
  split
  · exact h
  next who _ =>
  split
  · exact h
  · have hkeep : ({ c with assignedTo := who } : Case).Consistent := h.keep rfl rfl rfl rfl
    exact hkeep.note rfl

lemma Case.retag_consistent (h : c.Consistent) (U : Unicode) (u : CaseUpdate) : (c.retag U u).Consistent := by
  unfold Case.retag
  split
  · exact h
  simp only
  split
  · exact h
  have hkeep : ∀ tags, ({ c with finding := { c.finding with tags := tags } } : Case).Consistent :=
    fun _ => h.keep rfl rfl rfl rfl
  exact (hkeep _).note rfl

lemma Case.annotate_consistent (h : c.Consistent) (u : CaseUpdate) (comment : Option Str) :
    (c.annotate u comment).Consistent := by
  unfold Case.annotate
  have hnotes : ({ c with notes := u.notes.getD c.notes } : Case).Consistent := h.keep rfl rfl rfl rfl
  simp only
  split
  · exact hnotes
  · exact hnotes.note rfl

lemma Case.update_consistent {c c' : Case} (h : c.Consistent) {U : Unicode} {u : CaseUpdate}
    {now : Int} (hu : c.update U u canAcceptRisk now = .ok c') :
    c'.Consistent := by
  unfold Case.update at hu
  split at hu <;> cases hu
  next c₁ comment hmove =>
  have h₁ := Case.move_consistent h hmove
  have h₂ := Case.assign_consistent h₁ u
  have h₃ := Case.retag_consistent h₂ U u
  exact Case.annotate_consistent h₃ u comment

/-! ## Every sequence -/

section Table

variable (U : Unicode) (ids : Identity)

lemma isOpen_of_mem_missedIds {fs : List Finding} {assetIds : List Nat} {source : Str}
    {cov : FindingCoverage} {observed : List Nat} {i : Nat} {f : Finding} (hf : fs[i]? = some f)
    (hi : i ∈ missedIds fs assetIds source cov observed) : f.status.isOpen = true := by
  have hmiss := (mem_filter.1 hi).2
  rw [hf, any_some] at hmiss
  simp only [unobserved, and_eq_true] at hmiss
  exact hmiss.1.1.2

lemma CaseStep.apply_consistent {cases : List Case} (h : ∀ c ∈ cases, c.Consistent) (step : CaseStep) :
    ∀ c ∈ step.apply U ids cases, c.Consistent := by
  intro c hc
  cases step with
  | upsert assetId obs source now unverified =>
    simp only [CaseStep.apply] at hc
    split at hc
    · next i _ =>
      obtain ⟨j, hj⟩ := mem_iff_getElem?.1 hc
      rw [getElem?_modify] at hj
      obtain ⟨c₀, hc₀, rfl⟩ := map_eq_some_iff.1 hj
      have hcons := h c₀ (mem_of_getElem? hc₀)
      split
      · exact Case.seenAgain_consistent hcons obs now unverified
      · exact hcons
    · rcases mem_append.1 hc with hc | hc
      · exact h c hc
      · rw [mem_singleton.1 hc]
        exact newCase_consistent assetId _ source obs now unverified
  | resolveUnobserved assetIds source cov observed threshold now =>
    obtain ⟨j, hj⟩ := mem_iff_getElem?.1 hc
    rw [CaseStep.apply, getElem?_mapIdx] at hj
    obtain ⟨c₀, hc₀, rfl⟩ := map_eq_some_iff.1 hj
    have hcons := h c₀ (mem_of_getElem? hc₀)
    split
    · next hmiss =>
      have hf : (cases.map Case.finding)[j]? = some c₀.finding := by
        rw [getElem?_map, hc₀, map_some]
      exact Case.missed_consistent hcons (isOpen_of_mem_missedIds hf hmiss) threshold now
    · exact hcons
  | assetLeft assetId now =>
    obtain ⟨c₀, hc₀, rfl⟩ := List.mem_map.1 hc
    exact Case.assetLeft_consistent (h c₀ hc₀) assetId now
  | update i u canAcceptRisk now =>
    simp only [CaseStep.apply] at hc
    split at hc
    · exact h c hc
    next c₀ hc₀ =>
    split at hc
    · exact h c hc
    next c₁ hu =>
    rcases mem_or_eq_of_mem_set hc with hc | rfl
    · exact h c hc
    · exact Case.update_consistent (h c₀ (mem_of_getElem? hc₀)) hu
  | expire now =>
    obtain ⟨c₀, hc₀, rfl⟩ := List.mem_map.1 hc
    exact Case.expire_consistent (h c₀ hc₀) now

/-- **The log tells the status.**  After any sequence of calls, every finding is marked as its
status says, and its log leads from NEW to that status. -/
theorem cases_consistent (steps : List CaseStep) : ∀ c ∈ steps.foldl (CaseStep.apply U ids) [],
      (c.finding.resolvedAt.isSome = true ↔ c.finding.status = .remediated) ∧
      (c.finding.falsePositive = true ↔ c.finding.status = .falsePositive) ∧
      replay .new c.log = some c.finding.status := by
  have hrun : ∀ cases : List Case, (∀ c ∈ cases, c.Consistent) →
      ∀ c ∈ steps.foldl (CaseStep.apply U ids) cases, c.Consistent := by
    induction steps with
    | nil => exact fun _ h => h
    | cons step steps ih => exact fun cases h => ih _ (step.apply_consistent U ids h)
  intro c hc
  have hcons := hrun [] (by simp) c hc
  exact ⟨hcons.resolvedAt, hcons.falsePositive, hcons.log⟩

def oneTenant : Identity := ⟨id, "t".toList, dec⟩

def reportAndLeave : List CaseStep :=
  [ .upsert 1 { asset := ⟨.httpEndpoint, "https://a.example.org/".toList⟩, ruleId := "tls".toList, title := [] }
      "nuclei".toList 5 false,
    .assetLeft 1 6 ]

/-- A finding that left with its asset. -/
theorem cases_consistent_left : ∃ c ∈ reportAndLeave.foldl (CaseStep.apply asciiUnicode oneTenant) [],
      c.finding.status = .remediated ∧ c.finding.resolvedAt.isSome = true ∧
        replay .new c.log = some c.finding.status := by
  have hany : (reportAndLeave.foldl (CaseStep.apply asciiUnicode oneTenant) []).any
      (fun c => decide (c.finding.status = .remediated)) = true := by
    decide +kernel
  obtain ⟨c, hc, hstatus⟩ := List.any_eq_true.1 hany
  obtain ⟨hresolved, -, hlog⟩ := cases_consistent asciiUnicode oneTenant reportAndLeave c hc
  have hremediated : c.finding.status = .remediated := of_decide_eq_true hstatus
  exact ⟨c, hc, hremediated, hresolved.2 hremediated, hlog⟩

/-! ## Without the log -/

lemma Case.seenAgain_finding (obs : FindingObservation) (now : Int) (unverified : Bool) (c : Case) :
    (c.seenAgain obs now unverified).finding = App.Findings.seenAgain obs now unverified c.finding := by
  unfold Case.seenAgain
  simp only
  split <;> rfl

lemma Case.missed_finding (threshold : Nat) (now : Int) (c : Case) :
    (c.missed threshold now).finding = missFinding threshold now c.finding := by
  unfold Case.missed
  simp only
  split <;> rfl

lemma Case.annotated_finding (u : CaseUpdate) (comment : Option Str) (c : Case) :
    (((c.assign u).retag U u).annotate u comment).finding = App.Findings.retag U c.finding u.toFindingUpdate := by
  have hassign : (c.assign u).finding = c.finding := by
    unfold Case.assign
    split
    · rfl
    · split <;> rfl
  have hretag : ((c.assign u).retag U u).finding =
      App.Findings.retag U (c.assign u).finding u.toFindingUpdate := by
    unfold Case.retag App.Findings.retag
    cases u.tags with
    | none => rfl
    | some tags =>
      simp only
      split <;> rfl
  rw [← hassign, ← hretag]
  unfold Case.annotate
  simp only
  split <;> rfl

/-- `update_finding` with and without the log gives the same finding, or the same error. -/
lemma Case.update_findings {fs : List Finding} {i : Nat} {c : Case} (hc : fs[i]? = some c.finding)
    (u : CaseUpdate) (canAcceptRisk : Bool) (now : Int) :
    updateFinding U fs i u.toFindingUpdate canAcceptRisk now =
      (c.update U u canAcceptRisk now).map fun c' => fs.set i c'.finding := by
  unfold updateFinding Case.update Case.move
  rw [hc]
  simp only
  cases hu : u.status with
  | none =>
    simp only [Except.map]
    rw [Case.annotated_finding]
  | some status =>
    simp only
    cases hm : moveFinding c.finding u.toFindingUpdate canAcceptRisk now status with
    | error e => rfl
    | ok f =>
      simp only
      by_cases hsame : status = c.finding.status
      · obtain rfl : c.finding = f := by simpa [moveFinding, hsame] using hm
        simp only [if_pos hsame, Except.map]
        rw [Case.annotated_finding]
      · simp only [if_neg hsame, Except.map]
        rw [Case.annotated_finding]
        rfl

/-- **Refinement.**  The findings of the cases are what the calls make of the findings alone. -/
theorem CaseStep.apply_findings (cases : List Case) (step : CaseStep) :
    (step.apply U ids cases).map Case.finding = step.onFindings U ids (cases.map Case.finding) := by
  cases step with
  | upsert assetId obs source now unverified =>
    simp only [CaseStep.apply, CaseStep.onFindings, upsertObservation, findIdx?_map, comp_def]
    cases cases.findIdx? fun c => decide (c.finding.fingerprint =
        fingerprint U ids assetId source obs.ruleId obs.location) with
    | none =>
      simp only [map_append]
      rfl
    | some i =>
      refine ext_getElem? fun j => ?_
      simp only [getElem?_map, getElem?_modify, Option.map_eq_map, Option.map_map]
      congr 1
      funext c
      simp only [comp_apply]
      split
      · exact Case.seenAgain_finding obs now unverified c
      · rfl
  | resolveUnobserved assetIds source cov observed threshold now =>
    refine ext_getElem? fun j => ?_
    simp only [CaseStep.apply, CaseStep.onFindings, App.Findings.resolveUnobserved, getElem?_map,
      getElem?_mapIdx, Option.map_map]
    congr 1
    funext c
    simp only [comp_apply]
    split
    · exact Case.missed_finding threshold now c
    · rfl
  | assetLeft assetId now =>
    simp only [CaseStep.apply, CaseStep.onFindings, resolveForInactiveAsset, List.map_map]
    refine map_congr_left fun c _ => ?_
    simp only [comp_apply, Case.assetLeft]
    split <;> rfl
  | update i u canAcceptRisk now =>
    simp only [CaseStep.apply, CaseStep.onFindings]
    cases hc : cases[i]? with
    | none => simp [updateFinding, hc]
    | some c =>
      rw [Case.update_findings U (show (cases.map Case.finding)[i]? = some c.finding by simp [hc])]
      simp only
      cases c.update U u canAcceptRisk now with
      | error e => rfl
      | ok c' => exact map_set
  | expire now =>
    simp only [CaseStep.apply, CaseStep.onFindings, expireRiskAcceptance, List.map_map]
    refine map_congr_left fun c _ => ?_
    simp only [comp_apply, Case.expire]
    split <;> rfl

end Table

end App.Findings
