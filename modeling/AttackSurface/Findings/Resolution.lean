import AttackSurface.Assets.Counting

/-!
# Automatic resolution over histories

A finding is counted by ingests, moved by analysts and reopened when the acceptance of its
risk runs out (`Change`).  Over any such history in which a result gets to the finding in
one way only, and in which it is reopened only while it has no misses,

    missed count  ≤  results that covered the finding since it was last seen or reopened
                                                                (missedCount_le_coveredSince)

so `resolve_unobserved` closes it after as many results as its threshold says.  The source
leaves the count as it is when a finding is reopened, so the second condition can fail: a
finding that was resolved automatically and is reopened has all its misses still, and the
next result that covers it resolves it again.
-/

namespace App.Findings

open PyText AsmSensors App.Assets Machines List Option

variable {J : Type} {T : Tables J}

/-- What happens to the findings of an organization. -/
inductive Change (T : Tables J)
  | ingested (a : Applied T)
  /-- an update that went through; one that fails leaves the rows -/
  | updated (before : Rows J) (i : Nat) (u : FindingUpdate) (canAcceptRisk : Bool) (now : Int)
      (findings : List Finding)
      (run : updateFinding T.unicode before.findings i u canAcceptRisk now = .ok findings)
  | acceptanceChecked (before : Rows J) (now : Int)

namespace Change

def before : Change T → Rows J
  | .ingested a => a.before
  | .updated before .. | .acceptanceChecked before _ => before

def after : Change T → Rows J
  | .ingested a => a.after.rows
  | .updated before _ _ _ _ findings _ => { before with findings := findings }
  | .acceptanceChecked before now =>
    { before with findings := expireRiskAcceptance now before.findings }

def Step (rows : Rows J) (c : Change T) (rows' : Rows J) : Prop := c.before = rows ∧ c.after = rows'

/-- An analyst, or the end of the acceptance, opens finding `i` again. -/
def reopens (i : Nat) : Change T → Bool
  | .ingested _ => false
  | .updated before j u .. => decide (j = i) && before.findings[i]?.any (!·.status.isOpen) &&
      u.status.any FindingStatus.isOpen
  | .acceptanceChecked before now => before.findings[i]?.any (acceptanceExpired now)

/-- One more change in the count of the results that covered the finding without seeing it. -/
def tally (i : Nat) (n : Nat) : Change T → Nat
  | .ingested a => a.tally (.finding i) n
  | c => if c.reopens i then 0 else n

/-- A result gets to the finding in one way only, and it is reopened while it has no misses. -/
def Clean (i : Nat) : Change T → Prop
  | .ingested a => a.covered.count (.finding i) ≤ 1
  | c => c.reopens i = true → c.before.missedOf (.finding i) = some 0

end Change

/-- How many results covered the finding without seeing it, since it was last seen, created or
reopened. -/
def coveredSince (i : Nat) (history : List (Change T)) : Nat := history.foldl (Change.tally i) 0

/-! ## Updates count nothing -/

lemma moveFinding_ok {f f' : Finding} {u : FindingUpdate} {canAcceptRisk : Bool} {now : Int}
    {status : FindingStatus} (h : moveFinding f u canAcceptRisk now status = .ok f') :
    f'.missedCount = f.missedCount ∧ f'.unverified = f.unverified ∧ f'.status = status := by
  unfold moveFinding at h
  by_cases hsame : status = f.status
  · rw [if_pos hsame] at h
    cases h
    exact ⟨rfl, rfl, hsame.symm⟩
  · rw [if_neg hsame] at h
    split_ifs at h <;> cases h <;> exact ⟨rfl, rfl, rfl⟩

lemma retag_same (U : PyText.Unicode) (f : Finding) (u : FindingUpdate) :
    (retag U f u).missedCount = f.missedCount ∧ (retag U f u).unverified = f.unverified ∧
      (retag U f u).status = f.status := by
  unfold retag
  split
  · exact ⟨rfl, rfl, rfl⟩
  · simp only
    split <;> exact ⟨rfl, rfl, rfl⟩

variable {i : Nat} {c : Change T}

/-- What an update makes of the finding: it counts and verifies nothing, and the status is the
one that was sent. -/
lemma updateFinding_ok {U : PyText.Unicode} {fs fs' : List Finding} {u : FindingUpdate}
    {canAcceptRisk : Bool} {now : Int} (h : updateFinding U fs i u canAcceptRisk now = .ok fs') :
    ∃ f f', fs[i]? = some f ∧ fs' = fs.set i f' ∧ f'.missedCount = f.missedCount ∧
      f'.unverified = f.unverified ∧ f'.status = u.status.getD f.status := by
  unfold updateFinding at h
  split at h
  · cases h
  next f hf =>
  refine ⟨f, ?_⟩
  split at h
  · next hnone =>
    cases h
    rw [hnone]
    exact ⟨_, hf, rfl, retag_same U f u⟩
  · next status hstatus =>
    split at h <;> cases h
    next f₁ hmove =>
    obtain ⟨hmissed, hflag, hmoved⟩ := moveFinding_ok hmove
    obtain ⟨hmissed', hflag', hmoved'⟩ := retag_same U f₁ u
    rw [hstatus]
    exact ⟨_, hf, rfl, hmissed'.trans hmissed, hflag'.trans hflag, hmoved'.trans hmoved⟩

lemma Change.finding_after (hc : ∀ a, c ≠ .ingested a) {f' : Finding} (hf' : c.after.findings[i]? = some f') :
    ∃ f, c.before.findings[i]? = some f ∧ f'.missedCount = f.missedCount ∧
      (c.reopens i = true ↔ f.status.isOpen = false ∧ f'.status.isOpen = true) := by
  cases c with
  | ingested a => exact absurd rfl (hc a)
  | updated before j u canAcceptRisk now findings run =>
    obtain ⟨g, g', hg, rfl, hmissed, _, hstatus⟩ := updateFinding_ok run
    by_cases hij : j = i
    · subst hij
      have hlt : j < before.findings.length := (List.getElem?_eq_some_iff.1 hg).1
      obtain rfl : g' = f' := by simpa [Change.after, hlt] using hf'
      refine ⟨g, hg, hmissed, ?_⟩
      rw [hstatus]
      cases hu : u.status <;> cases hopen : g.status.isOpen <;> simp [Change.reopens, hg, hu, hopen]
    · rw [Change.after, getElem?_set_ne hij] at hf'
      refine ⟨f', hf', rfl, ?_⟩
      simp [Change.reopens, hij]
  | acceptanceChecked before now =>
    rw [Change.after, expireRiskAcceptance, getElem?_map, map_eq_some_iff] at hf'
    obtain ⟨f, hf, rfl⟩ := hf'
    refine ⟨f, hf, by split <;> rfl, ?_⟩
    rw [Change.reopens, hf, any_some]
    by_cases hexp : acceptanceExpired now f = true
    · have hstatus : f.status = .acceptedRisk := by
        simp only [acceptanceExpired, Bool.and_eq_true, beq_iff_eq] at hexp
        exact hexp.1
      simp [hexp, hstatus, FindingStatus.isOpen]
    · simp [hexp]

/-! ## Histories -/

lemma Change.valid (hv : c.before.Valid) : c.after.Valid := by
  cases c with
  | ingested a => exact ingest_valid hv a.run
  | updated | acceptanceChecked => exact ⟨hv.asset_keys, hv.relation_keys, hv.relation_ends⟩

/-- **One change.**  A bound on the misses by a count of results stays one. -/
theorem Change.missedOf_le (hv : c.before.Valid) (hclean : c.Clean i) {m : Nat}
    (hm : ∀ n, c.before.missedOf (.finding i) = some n → n ≤ m) {n : Nat}
    (hn : c.after.missedOf (.finding i) = some n) : n ≤ c.tally i m := by
  by_cases hc : ∃ a, c = .ingested a
  · obtain ⟨a, rfl⟩ := hc
    exact a.missedOf_le hv hclean hm hn
  obtain ⟨f', hf', rfl⟩ := map_eq_some_iff.1 hn
  obtain ⟨f, hf, hmissed, _⟩ := Change.finding_after (fun a ha => hc ⟨a, ha⟩) hf'
  have hbefore : c.before.missedOf (.finding i) = some f.missedCount := by
    rw [Rows.missedOf, hf, map_some]
  have hcases : (c.Clean i → c.reopens i = true → c.before.missedOf (.finding i) = some 0) ∧
      c.tally i m = if c.reopens i then 0 else m := by
    cases c with
    | ingested a => exact absurd ⟨a, rfl⟩ hc
    | updated | acceptanceChecked => exact ⟨id, rfl⟩
  rw [hmissed, hcases.2]
  split
  · next hre => exact (some_inj.1 (hbefore.symm.trans (hcases.1 hclean hre))).le
  · exact hm _ hbefore

/-- **Every history.**  No finding has more misses than results have covered it since. -/
theorem missedCount_le_coveredSince {start rows : Rows J} {history : List (Change T)}
    (hv : start.Valid) (hstart : ∀ n, start.missedOf (.finding i) = some n → n = 0)
    (h : Steps Change.Step start history rows) (hclean : ∀ c ∈ history, c.Clean i) :
    rows.Valid ∧ ∀ n, rows.missedOf (.finding i) = some n → n ≤ coveredSince i history := by
  induction h with
  | nil => exact ⟨hv, fun n hn => (hstart n hn).le⟩
  | @snoc history before rows c _ hstep ih =>
    obtain ⟨hvalid, hle⟩ := ih fun d hd => hclean d (mem_append_left _ hd)
    obtain ⟨rfl, rfl⟩ := hstep
    refine ⟨Change.valid hvalid, fun n hn => ?_⟩
    rw [coveredSince, foldl_append]
    exact Change.missedOf_le hvalid (hclean c (by simp)) hle hn

/-- **Automatic resolution.**  In a history in which every result gets to the finding in one way
only, and which reopens it only while it has no misses, a result that resolves the finding is
at least the `threshold`-th that covered it without seeing it since it was last seen or opened. -/
theorem resolved_after_threshold_results {start rows : Rows J} {history : List (Change T)} {i : Nat}
    (hv : start.Valid) (hstart : ∀ n, start.missedOf (.finding i) = some n → n = 0)
    (h : Steps Change.Step start history rows) (a : Applied T) (ha : a.before = rows)
    (hclean : ∀ c ∈ history ++ [.ingested a], c.Clean i) (hres : .finding i ∈ a.after.closings) :
    findingThreshold a.ctx ≤ coveredSince i (history ++ [.ingested a]) := by
  subst ha
  have hvalid : a.before.Valid :=
    (missedCount_le_coveredSince hv hstart h fun c hc => hclean c (mem_append_left _ hc)).1
  obtain ⟨n, hn, hle⟩ := ingest_atThreshold hvalid a.run _ hres
  have hstep : Change.Step a.before (.ingested a) a.after.rows := ⟨rfl, rfl⟩
  exact hle.trans ((missedCount_le_coveredSince hv hstart (h.snoc hstep) hclean).2 n hn)

/-! ## A finding that was reopened -/

def endpointWithFinding : Rows Unit where
  assets := [{ assetType := .httpEndpoint, normalizedValue := "https://a.example.com".toList }]
  findings := [newFinding 0 [] "nuclei".toList
    { asset := ⟨.httpEndpoint, []⟩, ruleId := "rule".toList, title := [] } 0 false]

def nuclei : IngestContext := { secondMiss with source := "nuclei".toList }

def nothingFound : SensorResult Unit where
  adapter := "nuclei".toList
  coverage := [.finding { assets := [⟨.httpEndpoint, "https://a.example.com".toList⟩] }]

lemma endpointWithFinding_valid : endpointWithFinding.Valid := ⟨by decide, by decide, by decide⟩

def firstMiss : Applied plainTables := applied nuclei endpointWithFinding nothingFound (by decide +kernel)

def resolvingRun : Applied plainTables := applied nuclei firstMiss.after.rows nothingFound (by decide +kernel)

theorem resolving_run_is_second : .finding 0 ∈ resolvingRun.after.closings ∧
    findingThreshold resolvingRun.ctx ≤ coveredSince 0 [.ingested firstMiss, .ingested resolvingRun] := by
  have hres : .finding 0 ∈ resolvingRun.after.closings := by decide +kernel
  have hsteps : Steps Change.Step endpointWithFinding [.ingested firstMiss] firstMiss.after.rows :=
    .single ⟨rfl, rfl⟩
  refine ⟨hres, resolved_after_threshold_results endpointWithFinding_valid (by decide) hsteps
    resolvingRun rfl ?_ hres⟩
  have hfirst : firstMiss.covered.count (.finding 0) ≤ 1 := by decide +kernel
  have hsecond : resolvingRun.covered.count (.finding 0) ≤ 1 := by decide +kernel
  simpa using ⟨hfirst, hsecond⟩

def reopening : FindingUpdate := { status := some .reopened }

def reopenedRows : Rows Unit :=
  { resolvingRun.after.rows with findings :=
      resolvingRun.after.rows.findings.map fun f => { f with status := .reopened, resolvedAt := none } }

lemma reopening_ok : updateFinding plainTables.unicode resolvingRun.after.rows.findings 0 reopening
    false 0 = .ok reopenedRows.findings := by decide +kernel

def runAfterReopening : Applied plainTables := applied nuclei reopenedRows nothingFound (by decide +kernel)

/-- The finding is resolved automatically, reopened, and resolved again by the next result. -/
theorem reopened_finding_resolved_at_once : ∃ (history : List (Change plainTables)) (a : Applied plainTables),
    Steps Change.Step endpointWithFinding history a.before ∧ endpointWithFinding.Valid ∧
    (∀ n, endpointWithFinding.missedOf (.finding 0) = some n → n = 0) ∧
    .finding 0 ∈ a.after.closings ∧ coveredSince 0 (history ++ [.ingested a]) = 1 ∧
    findingThreshold a.ctx = 2 := by
  refine ⟨[.ingested firstMiss, .ingested resolvingRun,
    .updated resolvingRun.after.rows 0 reopening false 0 reopenedRows.findings reopening_ok],
    runAfterReopening, ?_, endpointWithFinding_valid, by decide, by decide +kernel, by decide +kernel,
    by decide +kernel⟩
  exact .cons ⟨rfl, rfl⟩ (.cons ⟨rfl, rfl⟩ (.single ⟨rfl, rfl⟩))

end App.Findings
