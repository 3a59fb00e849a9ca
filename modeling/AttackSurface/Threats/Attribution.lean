import AttackSurface.Findings.Activity
import AttackSurface.Threats.Outcomes

/-!
# Whose detection it is

A check's detections are read back from the findings table, by `last_scan_id`.  A finding is one
row for its lifetime (`FindingTable`), and every scan that sees it again writes its own id there:

    check sees it  …  nobody else does  …  sync    →  never NOT_DETECTED   (detection_kept)
    check sees it  …  another scan sees it  …  sync    →  NOT_DETECTED     (detection_lost)
-/

namespace App.Threats

open PyText PyNet AsmSensors App.Scans App.Scope App.Findings List Function

/-! ## The findings table -/

/-- One finding that a scan reports on an asset, as `Ingestor.ingest` meets it. -/
structure Sighting where
  scanId : Nat
  assetId : Nat
  /-- `asset.scope_status` at that moment -/
  scope : ScopeStatus := .inScope
  source : Str
  obs : FindingObservation
  cve : List Str := []
  historical : Bool := false
  now : Int := 0
  /-- the id and the organization that a new row gets -/
  newId : Nat := 0
  organizationId : Nat := 0

def Sighting.unverified (s : Sighting) : Bool := s.historical || decide ("unverified".toList ∈ s.obs.tags)

/-- The findings of a tenant: one row for each fingerprint. -/
structure FindingTable where
  rows : List FindingRow
  unique : (rows.map fun f => f.fingerprint).Nodup

section Table

variable (U : Unicode) (ids : Identity)

def Sighting.fingerprint (s : Sighting) : Str :=
  Findings.fingerprint U ids s.assetId s.source s.obs.ruleId s.obs.location

variable (s : Sighting)

def Sighting.newRow : FindingRow where
  toFinding := newFinding s.assetId (s.fingerprint U ids) s.source s.obs s.now s.unverified
  id := s.newId
  organizationId := s.organizationId
  cve := s.cve
  lastScanId := some s.scanId

def Sighting.again (f : FindingRow) : FindingRow :=
  { f with
    toFinding := seenAgain s.obs s.now s.unverified f.toFinding
    cve := if s.cve = [] then f.cve else sortedSet (f.cve ++ s.cve)
    lastScanId := some s.scanId }

lemma Sighting.again_fingerprint (f : FindingRow) : (s.again f).fingerprint = f.fingerprint := by
  show (seenAgain s.obs s.now s.unverified f.toFinding).fingerprint = f.fingerprint
  unfold seenAgain
  dsimp only
  split <;> rfl

variable (t : FindingTable) (s : Sighting)

/-- `upsert_observation`, for a finding on an asset that is not out of scope. -/
def FindingTable.upsert : FindingTable :=
  if h : s.fingerprint U ids ∈ t.rows.map fun f => f.fingerprint then
    { rows := t.rows.map fun f => if f.fingerprint = s.fingerprint U ids then s.again f else f
      unique := by
        rw [List.map_map]
        refine (List.map_congr_left fun f _ => ?_) ▸ t.unique
        rw [Function.comp_apply]
        split
        · exact (s.again_fingerprint f).symm
        · rfl }
  else
    { rows := t.rows ++ [s.newRow U ids]
      unique := by
        rw [List.map_append]
        refine List.nodup_append.2 ⟨t.unique, List.nodup_singleton _, ?_⟩
        rintro x hx y hy rfl
        obtain rfl : x = s.fingerprint U ids := List.mem_singleton.1 hy
        exact h hx }

def FindingTable.sight : FindingTable :=
  if s.scope = .outOfScope then t else t.upsert U ids s

def FindingTable.rewrite (g : Nat → Finding → Finding)
    (hg : ∀ i f, (g i f).fingerprint = f.fingerprint) : FindingTable where
  rows := t.rows.mapIdx fun i f => { f with toFinding := g i f.toFinding }
  unique := by
    have hsame : (t.rows.mapIdx fun i f => { f with toFinding := g i f.toFinding }).map (fun f => f.fingerprint) =
        t.rows.map fun f => f.fingerprint := by
      refine List.ext_getElem? fun i => ?_
      simp [List.getElem?_mapIdx, hg, Function.comp_def]
    rw [hsame]
    exact t.unique

lemma fingerprint_missFinding (threshold : Nat) (now : Int) (f : Finding) :
    (missFinding threshold now f).fingerprint = f.fingerprint := by
  unfold missFinding
  dsimp only
  split <;> rfl

/-- What the ingests of scans do to findings. -/
inductive FindingEvent
  | sight (s : Sighting)
  | resolveUnobserved (assetIds : List Nat) (source : Str) (cov : FindingCoverage) (observed : List Nat)
      (threshold : Nat) (now : Int)
  | assetLeft (assetId : Nat) (now : Int)

def FindingEvent.apply : FindingEvent → FindingTable
  | .sight s => t.sight U ids s
  | .resolveUnobserved assetIds source cov observed threshold now =>
    t.rewrite
      (fun i f =>
        if i ∈ missedIds (t.rows.map FindingRow.toFinding) assetIds source cov observed then
          missFinding threshold now f
        else f)
      (fun i f => by split; exacts [fingerprint_missFinding threshold now f, rfl])
  | .assetLeft assetId now =>
    t.rewrite
      (fun _ f =>
        if f.assetId = assetId ∧ f.status.isOpen = true then
          { f with status := .remediated, resolvedAt := some now }
        else f)
      (fun i f => by split <;> rfl)

end Table

/-! ## The row that carries a detection -/

section Carrying

variable {U : Unicode} {ids : Identity} {t : FindingTable} {s : Sighting}

/-- The row still says that the scan saw the finding. -/
structure Carries (U : Unicode) (ids : Identity) (s : Sighting) (f : FindingRow) : Prop where
  fingerprint : f.fingerprint = s.fingerprint U ids
  scan : f.lastScanId = some s.scanId
  verified : f.unverified = false
  asset : f.assetId = s.assetId
  rule : f.sourceFindingId = s.obs.ruleId
  cves : ∀ c ∈ s.cve, c ∈ f.cve

lemma mem_sortedSet {l : List Str} {c : Str} : c ∈ sortedSet l ↔ c ∈ l :=
  (mem_insertionSort _).trans mem_dedup

lemma Sighting.again_columns (s : Sighting) (f : FindingRow) :
    (s.again f).assetId = f.assetId ∧ (s.again f).sourceFindingId = f.sourceFindingId ∧
      (s.again f).unverified = (f.unverified && s.unverified) ∧ ∀ c, c ∈ f.cve ∨ c ∈ s.cve → c ∈ (s.again f).cve := by
  have hfinding : (s.again f).toFinding = seenAgain s.obs s.now s.unverified f.toFinding := rfl
  refine ⟨?_, ?_, ?_, fun c hc => ?_⟩
  · rw [hfinding]
    unfold seenAgain
    dsimp only
    split <;> rfl
  · rw [hfinding]
    unfold seenAgain
    dsimp only
    split <;> rfl
  · rw [hfinding]
    unfold seenAgain
    dsimp only
    split <;> rfl
  · show c ∈ if s.cve = [] then f.cve else sortedSet (f.cve ++ s.cve)
    split
    · next hnil =>
      rcases hc with hc | hc
      · exact hc
      · rw [hnil] at hc
        cases hc
    · rw [mem_sortedSet, mem_append]
      exact hc

/-- A verified sighting on an asset in scope leaves a row that carries it, unless another asset's or
rule's finding is stored under its fingerprint. -/
lemma carries_sight (hverified : s.unverified = false) (hscope : s.scope ≠ .outOfScope)
    (hrow : ∀ f ∈ t.rows, f.fingerprint = s.fingerprint U ids →
      f.assetId = s.assetId ∧ f.sourceFindingId = s.obs.ruleId) :
    ∃ f ∈ (t.sight U ids s).rows, Carries U ids s f := by
  rw [FindingTable.sight, if_neg hscope, FindingTable.upsert]
  split
  · next hmem =>
    obtain ⟨f, hf, hfp⟩ := List.mem_map.1 hmem
    obtain ⟨hasset, hrule⟩ := hrow f hf hfp
    obtain ⟨hasset', hrule', hunverified, hcve⟩ := s.again_columns f
    refine ⟨s.again f, List.mem_map.2 ⟨f, hf, if_pos hfp⟩, ?_⟩
    exact ⟨(s.again_fingerprint f).trans hfp, rfl, by rw [hunverified, hverified, Bool.and_false],
      hasset'.trans hasset, hrule'.trans hrule, fun c hc => hcve c (.inr hc)⟩
  · refine ⟨s.newRow U ids, mem_append_right _ (mem_singleton_self _), ?_⟩
    exact ⟨rfl, rfl, hverified, rfl, rfl, fun c hc => hc⟩

def FindingEvent.Spares (U : Unicode) (ids : Identity) (scanId : Nat) (fp : Str) : FindingEvent → Prop
  | .sight s => s.scope ≠ .outOfScope → s.fingerprint U ids = fp → s.scanId = scanId
  | _ => True

lemma carries_rewrite {g : Nat → Finding → Finding} {hg : ∀ i f, (g i f).fingerprint = f.fingerprint}
    (hcols : ∀ i f, (g i f).assetId = f.assetId ∧ (g i f).sourceFindingId = f.sourceFindingId ∧
      (g i f).unverified = f.unverified)
    (h : ∃ f ∈ t.rows, Carries U ids s f) : ∃ f ∈ (t.rewrite g hg).rows, Carries U ids s f := by
  obtain ⟨f, hf, hc⟩ := h
  obtain ⟨i, hi⟩ := mem_iff_getElem?.1 hf
  obtain ⟨hasset, hrule, hunverified⟩ := hcols i f.toFinding
  refine ⟨{ f with toFinding := g i f.toFinding }, mem_iff_getElem?.2 ⟨i, ?_⟩, ?_⟩
  · rw [FindingTable.rewrite, getElem?_mapIdx, hi]
    rfl
  · exact ⟨(hg i f.toFinding).trans hc.fingerprint, hc.scan, hunverified.trans hc.verified, hasset.trans hc.asset,
      hrule.trans hc.rule, hc.cves⟩

lemma carries_step {e : FindingEvent} (he : e.Spares U ids s.scanId (s.fingerprint U ids))
    (h : ∃ f ∈ t.rows, Carries U ids s f) : ∃ f ∈ (e.apply U ids t).rows, Carries U ids s f := by
  cases e with
  | sight s' =>
    obtain ⟨f, hf, hc⟩ := h
    rw [FindingEvent.apply, FindingTable.sight]
    split
    · exact ⟨f, hf, hc⟩
    next hscope =>
    rw [FindingTable.upsert]
    split
    · by_cases hfp : f.fingerprint = s'.fingerprint U ids
      · -- the scan itself sees it once more
        have hscan : s'.scanId = s.scanId := he hscope (hfp.symm.trans hc.fingerprint)
        obtain ⟨hasset, hrule, hunverified, hcve⟩ := s'.again_columns f
        refine ⟨s'.again f, List.mem_map.2 ⟨f, hf, if_pos hfp⟩, ?_⟩
        exact ⟨(s'.again_fingerprint f).trans hc.fingerprint, congrArg some hscan,
          by rw [hunverified, hc.verified, Bool.false_and], hasset.trans hc.asset, hrule.trans hc.rule,
          fun c hmem => hcve c (.inl (hc.cves c hmem))⟩
      · exact ⟨f, List.mem_map.2 ⟨f, hf, if_neg hfp⟩, hc⟩
    · exact ⟨f, mem_append_left _ hf, hc⟩
  | resolveUnobserved assetIds source cov observed threshold now =>
    refine carries_rewrite (fun i f => ?_) h
    split
    · unfold missFinding
      dsimp only
      split <;> exact ⟨rfl, rfl, rfl⟩
    · exact ⟨rfl, rfl, rfl⟩
  | assetLeft assetId now =>
    refine carries_rewrite (fun i f => ?_) h
    split <;> exact ⟨rfl, rfl, rfl⟩

lemma carries_run {events : List FindingEvent}
    (he : ∀ e ∈ events, e.Spares U ids s.scanId (s.fingerprint U ids))
    (h : ∃ f ∈ t.rows, Carries U ids s f) :
    ∃ f ∈ (events.foldl (FindingEvent.apply U ids) t).rows, Carries U ids s f := by
  induction events generalizing t with
  | nil => exact h
  | cons e events ih =>
    refine ih (fun e' he' => he e' (mem_cons_of_mem _ he')) ?_
    exact carries_step (he e mem_cons_self) h

end Carrying

/-! ## Reading the outcome -/

section Reading

variable {T : Texts} {V : Type} (W : CheckWorld T V)

def CheckWorld.withFindings (t : FindingTable) : CheckWorld T V := { W with findings := t.rows }

def Sighting.isAbout (run : CheckRun) (s : Sighting) : Prop :=
  T.lower (splitAt ':' s.obs.ruleId).1 = T.lower (run.templateIn W) ∨ ∃ c ∈ s.cve, c ∈ run.cvesIn W

def Sighting.isOn (m : Match) (s : Sighting) : Prop :=
  s.assetId = m.assetId ∨ ∃ a b, W.asset? m.assetId = some a ∧ W.asset? s.assetId = some b ∧
    tested T.toUnicode a [b.normalizedValue] = true

lemma reported_of_carries {ids : Identity} {W : CheckWorld T V} {t : FindingTable} {scan : CheckScan V}
    {run : CheckRun} {m : Match} {s : Sighting} {a : Asset} (hscan : s.scanId = scan.id) (habout : s.isAbout W run)
    (hon : s.isOn W m) (ha : W.asset? m.assetId = some a)
    (h : ∃ f ∈ t.rows, Carries T.toUnicode ids s f) : Reported (W.withFindings t) scan run a := by
  obtain ⟨f, hf, hc⟩ := h
  have hrow : run.isAbout (W.withFindings t) f = true := by
    unfold CheckRun.isAbout
    rw [Bool.or_eq_true, decide_eq_true_eq, List.any_eq_true]
    rcases habout with hrule | ⟨c, hc', hin⟩
    · left
      rw [ruleName, hc.rule]
      exact hrule
    · exact .inr ⟨c, hc.cves c hc', decide_eq_true hin⟩
  refine ⟨f, hf, hc.scan.trans (congrArg some hscan), hc.verified, hrow, ?_⟩
  rw [hc.asset]
  rcases hon with hsame | ⟨a', b, ha', hb, ht⟩
  · rw [hsame]
    exact ⟨a, ha, .inl rfl⟩
  rw [ha] at ha'
  cases ha'
  exact ⟨b, hb, .inr ht⟩

/-- **A detection is not lost**: when no other scan sees the finding before the outcome is read, the
outcome is never NOT_DETECTED. -/
theorem detection_kept {ids : Identity} {W : CheckWorld T V} {scan : CheckScan V} {db : Db} {run : CheckRun}
    {m : Match} {s : Sighting} {t : FindingTable} {events : List FindingEvent} (hrun : db.runOf scan = some run)
    (hscan : s.scanId = scan.id) (hverified : s.unverified = false) (habout : s.isAbout W run) (hon : s.isOn W m)
    (hscope : s.scope ≠ .outOfScope)
    (hrow : ∀ f ∈ t.rows, f.fingerprint = s.fingerprint T.toUnicode ids →
      f.assetId = s.assetId ∧ f.sourceFindingId = s.obs.ruleId)
    (hothers : ∀ e ∈ events, e.Spares T.toUnicode ids scan.id (s.fingerprint T.toUnicode ids)) :
    (recordFor (W.withFindings (events.foldl (FindingEvent.apply T.toUnicode ids) (t.sight T.toUnicode ids s)))
      scan db m).map Prod.fst ≠ some .notDetected := by
  intro hnot
  obtain ⟨outcome, hrecord, hfst⟩ := Option.map_eq_some_iff.1 hnot
  obtain ⟨run', hrun', -, -, hout⟩ := recordFor_eq_some.1 hrecord
  rw [hrun] at hrun'
  cases hrun'
  obtain ⟨-, a, ha, stage, hquiet⟩ := outcomeFor_notDetected_iff.1 ((congrArg Prod.fst hout).trans hfst)
  rw [← hscan] at hothers
  have hcarried := carries_run hothers (carries_sight hverified hscope hrow)
  exact hquiet.unreported (reported_of_carries hscan habout hon ha hcarried)

/-! A check and another scan that see the same finding. -/

def detection (scanId : Nat) : Sighting where
  scanId := scanId
  assetId := 1
  source := "nuclei".toList
  obs :=
    { asset := ⟨.httpEndpoint, "https://a.example.org/".toList⟩
      ruleId := "cve-2021-2:body".toList
      title := "Outdated server".toList }

def currentRun : CheckRun := runOfVersion 2 "new".toList (some "cve-2021-2".toList)

def emptyTable : FindingTable := ⟨[], by simp⟩

/-- The findings after the check's scan `4` detected the issue and these events. -/
def findingsAfter (events : List FindingEvent) : FindingTable :=
  events.foldl (FindingEvent.apply asciiTexts.toUnicode oneTenant)
    (emptyTable.sight asciiTexts.toUnicode oneTenant (detection 4))

def outcomeAfter (events : List FindingEvent) : Option CheckOutcome :=
  (recordFor (republished.withFindings (findingsAfter events)) (endedScan plainEnv 4 .completed none cleanEnds)
    (waitingDb currentRun) waitingMatch).map Prod.fst

/-- Scan `8` sees the issue again before the outcome is read. -/
theorem detection_lost : (detection 4).unverified = false ∧ (detection 4).isAbout republished currentRun ∧
      (detection 4).isOn republished waitingMatch ∧
      outcomeAfter [.sight (detection 8)] = some .notDetected :=
  ⟨by decide +kernel, .inl (by decide +kernel), .inl rfl, by decide +kernel⟩

/-- Scan `8` sees something else and the endpoint leaves: the detection counts. -/
theorem detection_kept_elsewhere :
    outcomeAfter [.sight { detection 8 with assetId := 2 }, .assetLeft 1 70] = some .detected ∧
      outcomeAfter [.sight { detection 8 with assetId := 2 }, .assetLeft 1 70] ≠ some .notDetected := by
  have hrun : (waitingDb currentRun).runOf (endedScan plainEnv 4 .completed none cleanEnds) = some currentRun := rfl
  refine ⟨by decide +kernel, ?_⟩
  refine detection_kept hrun rfl (by decide +kernel) (.inl (by decide +kernel)) (.inl rfl) (by decide)
    (fun f hf => by cases hf) fun e he => ?_
  rcases mem_cons.1 he with rfl | he
  · intro _ hfp
    exact absurd hfp (by decide +kernel)
  · rw [mem_singleton.1 he]
    trivial

end Reading

end App.Threats
