import AttackSurface.Threats.Checks
import AttackSurface.Threats.Idempotence
import AttackSurface.Scans.Messages
import AttackSurface.Sensors.Runner

/-!
# When a check says "not detected"

`sync_check_run` reads the outcome from the columns of the scan, its first stage, the scope
decisions and the findings.  `rawOutcome_notDetected_iff` says exactly when it is NOT_DETECTED in
terms of these columns (`Quiet`); behind the stage's columns stands the result of the sensor, with
its error lines (`StageEnd`):

    stage COMPLETED, error empty  →  no error line, no target dropped      (silent_of_ended)

A run has to be what the published version asks for (`Asked`).  `run_applies` decides that from
the run's template and CVEs, except for a run without a template of its own: for such a run it
compares two version numbers, neither of which is the published one.
-/

namespace App.Threats

open PyText AsmSensors App.Scans App.Findings List Option Bool

/-! ## What a call records -/

section Recording

variable {T : Texts} {V : Type}

def Db.runOf (db : Db) (scan : CheckScan V) : Option CheckRun :=
  db.runs.find? fun r => decide (r.scanId = some scan.id)

lemma runOf_eq_some {db : Db} {scan : CheckScan V} {run : CheckRun} (h : db.runOf scan = some run) :
    run ∈ db.runs ∧ run.scanId = some scan.id := by
  unfold Db.runOf at h
  have hscan := find?_some h
  exact ⟨mem_of_find?_eq_some h, of_decide_eq_true hscan⟩

/-- What `sync_check_run` records for a match, if it records anything. -/
def recordFor (W : CheckWorld T V) (scan : CheckScan V) (db : Db) (m : Match) : Option (CheckOutcome × Str) :=
  (db.runOf scan).bind fun run =>
    if run.status.active && run.owns m then some (outcomeFor W scan run m) else none

def Match.record (now : Int) (m : Match) (outcome : CheckOutcome × Str) : Match := Match.assessed
    { m with
      checkOutcome := outcome.1
      checkDetail := some (outcome.2.take 500)
      checkedAt := if outcome.1 ≠ .none then some now else none }

lemma recordFor_eq_some {W : CheckWorld T V} {scan : CheckScan V} {db : Db} {m : Match}
    {outcome : CheckOutcome × Str} :
    recordFor W scan db m = some outcome ↔
      ∃ run, db.runOf scan = some run ∧ run.status.active = true ∧ run.owns m = true ∧
        outcomeFor W scan run m = outcome := by
  unfold recordFor
  rw [bind_eq_some_iff]
  refine exists_congr fun run => and_congr_right fun _ => ?_
  split
  · next h =>
    rw [and_eq_true] at h
    simp [h.1, h.2]
  · next h =>
    rw [and_eq_true] at h
    refine iff_of_false (by simp) fun ⟨ha, ho, _⟩ => h ⟨ha, ho⟩

end Recording

/-! ## The columns behind an outcome -/

section Columns

variable {T : Texts} {V : Type}

lemma tested_iff (U : Unicode) (a : Asset) (allowed : List Str) :
    tested U a allowed = true ↔ ∃ t ∈ allowed, tested U a [t] = true := by
  have hpairs : ∀ p : Str × Nat → Bool, ((allowed.filterMap (hostPortOf U)).any p = true ↔
      ∃ t ∈ allowed, ([t].filterMap (hostPortOf U)).any p = true) := by
    intro p
    simp only [List.any_eq_true, mem_filterMap, mem_singleton]
    constructor
    · rintro ⟨hp, ⟨t, ht, heq⟩, hh⟩
      exact ⟨t, ht, hp, ⟨t, rfl, heq⟩, hh⟩
    · rintro ⟨t, ht, hp, ⟨t', rfl, heq⟩, hh⟩
      exact ⟨hp, ⟨t', ht, heq⟩, hh⟩
  unfold tested
  split
  · simp
  · simp
  · split
    · exact hpairs _
    · simp
  · split
    · exact hpairs _
    · simp
  · exact hpairs _

/-- A finding of this scan that the run is about, verified and on the asset or an endpoint of it. -/
def Reported (W : CheckWorld T V) (scan : CheckScan V) (run : CheckRun) (a : Asset) : Prop :=
  ∃ f ∈ W.findings, f.lastScanId = some scan.id ∧ f.unverified = false ∧ run.isAbout W f = true ∧
    ∃ b, W.asset? f.assetId = some b ∧ (b.id = a.id ∨ tested T.toUnicode a [b.normalizedValue] = true)

variable {W : CheckWorld T V} {scan : CheckScan V}

lemma detectedOn_iff {run : CheckRun} {a : Asset} : detectedOn W scan run a = true ↔ Reported W scan run a := by
  unfold detectedOn hits Reported
  simp only [List.any_eq_true, mem_filterMap, mem_filter, and_eq_true, not_eq_true',
    decide_eq_true_eq, map_eq_some_iff, or_eq_true]
  constructor
  · rintro ⟨h, ⟨f, ⟨hf, ⟨hscan, hverified⟩, habout⟩, b, hb, rfl⟩, hon⟩
    exact ⟨f, hf, hscan, hverified, habout, b, hb, hon⟩
  · rintro ⟨f, hf, hscan, hverified, habout, b, hb, hon⟩
    exact ⟨_, ⟨f, ⟨hf, ⟨hscan, hverified⟩, habout⟩, b, hb, rfl⟩, hon⟩

def Authorized (W : CheckWorld T V) (scan : CheckScan V) (stage : ScanStage V) (a : Asset) : Prop :=
  ∃ d ∈ W.decisions, d.scanId = scan.id ∧ d.stageId = stage.id ∧ d.allowed = true ∧
    tested T.toUnicode a [d.target] = true

lemma tested_allowedTargets_iff {stage : ScanStage V} {a : Asset} (h : scan.stage = some stage) :
    tested T.toUnicode a (allowedTargets W scan) = true ↔ Authorized W scan stage a := by
  rw [tested_iff, allowedTargets, h]
  simp only [List.mem_map, mem_filter, and_eq_true, decide_eq_true_eq]
  constructor
  · rintro ⟨t, ⟨d, ⟨hd, ⟨hscan, hstage⟩, hallowed⟩, rfl⟩, ht⟩
    exact ⟨d, hd, hscan, hstage, hallowed, ht⟩
  · rintro ⟨d, hd, hscan, hstage, hallowed, ht⟩
    exact ⟨_, ⟨d, ⟨hd, ⟨hscan, hstage⟩, hallowed⟩, rfl⟩, ht⟩

lemma bound_eq_none {text : Option Str} : bound text = none ↔ text = none ∨ text = some [] := by
  cases text with
  | none => simp [bound]
  | some s => simp [bound, filter_some]

def StageEnded (stage : ScanStage V) : Prop :=
  stage.status = .completed ∧ (stage.error = none ∨ stage.error = some [])

lemma stageProblem_eq_none_iff {stage : ScanStage V} : stageProblem stage = none ↔ StageEnded stage := by
  unfold stageProblem StageEnded
  split
  case h_5 h => rw [map_eq_none_iff, bound_eq_none, and_iff_right h]
  case h_6 hcompleted => exact iff_of_false nofun fun hc => hcompleted hc.1
  all_goals
    next h => exact iff_of_false nofun fun hc => by rw [h] at hc; cases hc.1

lemma problem_eq_none_iff :
    scan.problem = none ↔ scan.status ≠ .cancelled ∧ ∃ stage, scan.stage = some stage ∧ StageEnded stage := by
  unfold CheckScan.problem
  split
  · next hc => exact iff_of_false nofun fun h => h.1 hc
  next hc =>
  rw [and_iff_right hc]
  split
  · next hs => exact iff_of_false nofun fun ⟨stage, hstage, _⟩ => by rw [hs] at hstage; cases hstage
  next stage hs =>
  rw [stageProblem_eq_none_iff]
  constructor
  · exact fun h => ⟨stage, hs, h⟩
  rintro ⟨stage', hs', h⟩
  rw [hs] at hs'
  cases hs'
  exact h

/-- The columns of a clean run for an asset. -/
structure Quiet (W : CheckWorld T V) (scan : CheckScan V) (run : CheckRun) (stage : ScanStage V) (a : Asset) :
    Prop where
  notCancelled : scan.status ≠ .cancelled
  first : scan.stage = some stage
  ended : StageEnded stage
  authorized : Authorized W scan stage a
  unreported : ¬ Reported W scan run a

lemma rawOutcome_notDetected_iff {run : CheckRun} {a : Option Asset} :
    (rawOutcome W scan run a).1 = .notDetected ↔ ∃ b, a = some b ∧ ∃ stage, Quiet W scan run stage b := by
  cases a with
  | none =>
    refine iff_of_false ?_ (by simp)
    unfold rawOutcome
    split
    · simp
    · split <;> simp
  | some b =>
    have hone : (∃ c, some b = some c ∧ ∃ stage, Quiet W scan run stage c) ↔ ∃ stage, Quiet W scan run stage b := by
      simp
    rw [hone]
    unfold rawOutcome
    rw [any_some, any_some]
    by_cases hdet : detectedOn W scan run b = true
    · rw [if_pos hdet]
      exact iff_of_false (by simp) fun ⟨stage, hq⟩ => hq.unreported (detectedOn_iff.1 hdet)
    rw [if_neg hdet]
    cases hp : scan.problem with
    | some reason =>
      refine iff_of_false (by simp) fun ⟨stage, hq⟩ => ?_
      rw [problem_eq_none_iff.2 ⟨hq.notCancelled, stage, hq.first, hq.ended⟩] at hp
      cases hp
    | none =>
      obtain ⟨hcancelled, stage, hfirst, hended⟩ := problem_eq_none_iff.1 hp
      by_cases ht : tested T.toUnicode b (allowedTargets W scan) = true
      · rw [if_pos ht]
        refine iff_of_true rfl ⟨stage, hcancelled, hfirst, hended, ?_, fun hr => hdet (detectedOn_iff.2 hr)⟩
        exact (tested_allowedTargets_iff hfirst).1 ht
      rw [if_neg ht]
      refine iff_of_false nofun fun ⟨stage', hq⟩ => ht ?_
      exact (tested_allowedTargets_iff hq.first).2 hq.authorized

end Columns

/-! ## The result behind the stage -/

section Results

variable {V J : Type}

/-- How a stage came to its end: with a sensor's result for the targets that were not dropped, or
without one; only a result completes a stage. -/
inductive StageEnd (V J : Type)
  | answered (before : ScanStage V) (dropped : List Str) (result : SensorResult J) (now : Int)
  | unanswered (stage : ScanStage V) (incomplete : stage.status ≠ .completed)

def StageEnd.stage (env : StageEnv V) : StageEnd V J → ScanStage V
  | .answered before dropped result now => env.completeStage (withBlocked dropped result) now before
  | .unanswered stage _ => stage

def StageEnd.Silent : StageEnd V J → Prop
  | .answered _ dropped result _ =>
    result.status = .completed ∧ (∀ line ∈ (withBlocked dropped result).errors, strip line = []) ∧ dropped = []
  | .unanswered _ _ => False

def stageEnv (E : Re) (labelFor : Str → Str) (truthy : V → Bool) : StageEnv V := ⟨messagesOf E labelFor, truthy⟩

def endedScan (env : StageEnv V) (id : Nat) (status : ScanStatus) (error : Option Str) (ends : List (StageEnd V J)) :
    CheckScan V :=
  ⟨id, status, error, ends.map (StageEnd.stage env)⟩

variable {E : Re} {labelFor : Str → Str} {truthy : V → Bool}

lemma silent_of_ended {e : StageEnd V J} (h : StageEnded (e.stage (stageEnv E labelFor truthy))) : e.Silent := by
  obtain ⟨hstatus, herror⟩ := h
  cases e with
  | unanswered stage incomplete => exact absurd hstatus incomplete
  | answered before dropped result now =>
    unfold StageEnd.stage StageEnv.completeStage at hstatus herror
    dsimp only at hstatus herror
    by_cases hfailed : result.status = .failed
    · have hfailed' : (withBlocked dropped result).status = .failed := hfailed
      rw [if_pos hfailed'] at hstatus
      dsimp only at hstatus
      split at hstatus <;> cases hstatus
    have hfailed' : ¬ (withBlocked dropped result).status = .failed := hfailed
    rw [if_neg hfailed'] at hstatus herror
    dsimp only at hstatus herror
    have hcompleted : result.status = .completed := by
      by_contra hne
      have hne' : ¬ (withBlocked dropped result).status = .completed := hne
      rw [if_neg hne'] at hstatus
      cases hstatus
    have hblank : ∀ line ∈ (withBlocked dropped result).errors, strip line = [] := by
      by_cases hnil : (withBlocked dropped result).errors = []
      · rw [hnil]
        intro line hline
        cases hline
      rw [if_neg hnil] at herror
      rcases herror with hnone | hempty
      · exact friendly_eq_none_iff.1 hnone
      · exact absurd rfl (friendly_ne_nil hempty)
    refine ⟨hcompleted, hblank, blockedNote_blank_iff.1 fun line hline => hblank line ?_⟩
    exact mem_append_left _ hline

lemma stage_endedScan {env : StageEnv V} {id : Nat} {status : ScanStatus} {error : Option Str}
    {ends : List (StageEnd V J)} {stage : ScanStage V} :
    (endedScan env id status error ends).stage = some stage ↔ ∃ e, ends.head? = some e ∧ e.stage env = stage := by
  simp [endedScan, CheckScan.stage, head?_map, map_eq_some_iff]

end Results

/-! ## The version that was asked for -/

section Versions

variable {T : Texts} {V J : Type}

/-- While the advisory is published, the run's template and CVEs are those its current version
asks for. -/
def Asked (W : CheckWorld T V) (run : CheckRun) : Prop :=
  ∀ current, W.publishedOf run.advisoryId = some current →
    T.lower (run.templateIn W) ∈ templatesFor W.checks current.2 ∧
      sameSet (run.cvesIn W) current.2.cves = true

/-- A run that was recorded without its own template is held to be current when the version it was
made for is the one at which the match was last evaluated. -/
def Presumed (run : CheckRun) (m : Match) : Prop :=
  run.templateId = none ∧ run.advisoryVersion = m.advisoryVersion

variable {W : CheckWorld T V}

variable {run : CheckRun}

lemma asked_of_stillApplies {m : Match}
    (h : stillApplies W run m = true) (hp : ¬ Presumed run m) : Asked W run := by
  intro current hcurrent
  unfold stillApplies at h
  rw [hcurrent] at h
  unfold runApplies at h
  dsimp only at h
  cases ht : run.templateId with
  | none =>
    rw [ht] at h
    exact absurd ⟨ht, of_decide_eq_true h⟩ hp
  | some t =>
    rw [ht] at h
    rw [and_eq_true, decide_eq_true_eq] at h
    have htemplate : run.templateIn W = t := by rw [CheckRun.templateIn, ht]
    have hcves : run.cvesIn W = run.cves := by rw [CheckRun.cvesIn, ht]; rfl
    rw [htemplate, hcves]
    exact h

lemma stillApplies_of_presumed {m : Match} (h : Presumed run m) : stillApplies W run m = true := by
  unfold stillApplies
  split
  · rfl
  unfold runApplies
  dsimp only
  rw [h.1]
  exact decide_eq_true h.2

lemma outcomeFor_notDetected_iff {scan : CheckScan V} {m : Match} : (outcomeFor W scan run m).1 = .notDetected ↔
      stillApplies W run m = true ∧ ∃ a, W.asset? m.assetId = some a ∧ ∃ stage, Quiet W scan run stage a := by
  unfold outcomeFor
  split
  · next h => rw [rawOutcome_notDetected_iff, and_iff_right h]
  · next h => exact iff_of_false (by simp) fun hc => h hc.1

/-- What a recorded NOT_DETECTED is held to mean. -/
structure Clean (W : CheckWorld T V) (scan : CheckScan V) (ends : List (StageEnd V J)) (env : StageEnv V)
    (run : CheckRun) (m : Match) (a : Asset) : Prop where
  notCancelled : scan.status ≠ .cancelled
  silent : ∃ e, ends.head? = some e ∧ (e.stage env).status = .completed ∧ e.Silent ∧
    Authorized W scan (e.stage env) a
  unreported : ¬ Reported W scan run a
  lastRun : m.lastCheckRunId = some run.id
  asked : Asked W run

/-- NOT_DETECTED is recorded on a clean run only, exactly when a run without a template of its own
that would be recorded so is what the current version asks for. -/
theorem notDetected_clean_iff (E : Re) (labelFor : Str → Str) (truthy : V → Bool) (W : CheckWorld T V) (id : Nat)
    (status : ScanStatus) (error : Option Str) (ends : List (StageEnd V J)) (db : Db) (m : Match) :
    ((∃ detail, recordFor W (endedScan (stageEnv E labelFor truthy) id status error ends) db m =
          some (.notDetected, detail)) →
        ∃ run ∈ db.runs, run.scanId = some id ∧ ∃ a, W.asset? m.assetId = some a ∧
          Clean W (endedScan (stageEnv E labelFor truthy) id status error ends) ends (stageEnv E labelFor truthy)
            run m a) ↔
      ∀ run a stage, db.runOf (endedScan (stageEnv E labelFor truthy) id status error ends) = some run →
        run.status.active = true → run.owns m = true → W.asset? m.assetId = some a →
        Quiet W (endedScan (stageEnv E labelFor truthy) id status error ends) run stage a → Presumed run m →
          Asked W run := by
  constructor
  · intro h run a stage hrun hactive howns ha hq hp
    have happlies := stillApplies_of_presumed (W := W) hp
    have hout := outcomeFor_notDetected_iff.2 ⟨happlies, a, ha, stage, hq⟩
    have hrecord := recordFor_eq_some (W := W).2 ⟨run, hrun, hactive, howns, rfl⟩
    obtain ⟨run', hrun', -, a', -, hclean⟩ := h ⟨_, hrecord.trans (congrArg some (Prod.ext hout rfl))⟩
    -- the match names one run as its last
    have hlast : m.lastCheckRunId = some run.id := (of_decide_eq_true howns).2.2
    have hid : run'.id = run.id := some.inj (hclean.lastRun.symm.trans hlast)
    obtain rfl := run_eq hrun' (runOf_eq_some hrun).1 hid
    exact hclean.asked
  rintro h ⟨detail, hrecord⟩
  obtain ⟨run, hrun, hactive, howns, hout⟩ := recordFor_eq_some.1 hrecord
  obtain ⟨happlies, a, ha, stage, hq⟩ := outcomeFor_notDetected_iff.1 (congrArg Prod.fst hout)
  obtain ⟨e, hfirst, rfl⟩ := stage_endedScan.1 hq.first
  obtain ⟨hmem, hscan⟩ := runOf_eq_some hrun
  have hlast : m.lastCheckRunId = some run.id := (of_decide_eq_true howns).2.2
  have hasked : Asked W run := by
    by_cases hp : Presumed run m
    · exact h run a _ hrun hactive howns ha hq hp
    · exact asked_of_stillApplies happlies hp
  exact ⟨run, hmem, hscan, a, ha, hq.notCancelled, ⟨e, hfirst, hq.ended.1, silent_of_ended hq.ended, hq.authorized⟩,
    hq.unreported, hlast, hasked⟩

/-! An advisory that was published again with another check, while a check of its first version ran. -/

def noMatches : Re where
  search := fun _ _ => false
  sub := fun _ _ text => text
  sub_ne_nil := fun _ _ _ _ h => h

def plainEnv : StageEnv Unit := stageEnv noMatches id fun _ => false

def republished : CheckWorld asciiTexts Unit where
  assets :=
    [ { id := 1, organizationId := 7, assetType := .httpEndpoint, normalizedValue := "https://a.example.org/".toList } ]
  checks :=
    [ { key := "old".toList, templateId := "cve-2021-1".toList },
      { key := "new".toList, templateId := "cve-2021-2".toList } ]
  published :=
    { list := [({ id := 3, publishedVersion := some 2 }, { checkKeys := ["new".toList] })]
      ids := by decide }
  decisions := [⟨4, 1, "https://a.example.org/".toList, true⟩]

def runOfVersion (version : Nat) (checkKey : Str) (templateId : Option Str) : CheckRun where
  id := 9
  organizationId := 7
  advisoryId := 3
  advisoryVersion := version
  checkKey := checkKey
  templateId := templateId
  cves := []
  scanId := some 4
  assetIds := [1]
  status := .running

/-- The match that waits for the run; it was last evaluated at the first version. -/
def waitingMatch : Match where
  organizationId := 7
  advisoryId := 3
  assetId := 1
  advisoryVersion := 1
  basis := .product
  matchStatus := .potentiallyAffected
  evidence := {}
  findingIds := []
  unverifiedFindingIds := []
  checkOutcome := .pending
  checkDetail := none
  checkedAt := none
  lastCheckRunId := some 9
  assessment := .checkPending
  firstMatchedAt := 0
  lastEvaluatedAt := 0

def waitingDb (run : CheckRun) : Db := ⟨[waitingMatch], [run], by simp, by simp⟩

def cleanEnds : List (StageEnd Unit Unit) :=
  [.answered { id := 1, position := 0, stageType := .vulnerabilityDetection, engine := "nuclei".toList } []
    { adapter := "nuclei".toList } 50]

/-- A run of version 1 without a template of its own: its result is recorded for version 2, which
asks for another check. -/
theorem notDetected_republished :
    (∃ detail, recordFor republished (endedScan plainEnv 4 .completed none cleanEnds)
        (waitingDb (runOfVersion 1 "old".toList none)) waitingMatch = some (.notDetected, detail)) ∧
      ¬ ∃ run ∈ (waitingDb (runOfVersion 1 "old".toList none)).runs, run.scanId = some 4 ∧
        ∃ a, republished.asset? waitingMatch.assetId = some a ∧
          Clean republished (endedScan plainEnv 4 .completed none cleanEnds) cleanEnds plainEnv run waitingMatch a := by
  constructor
  · have hout : (recordFor republished (endedScan plainEnv 4 .completed none cleanEnds)
        (waitingDb (runOfVersion 1 "old".toList none)) waitingMatch).map Prod.fst = some .notDetected := by
      decide +kernel
    obtain ⟨outcome, hrecord, hfst⟩ := map_eq_some_iff.1 hout
    exact ⟨outcome.2, hrecord.trans (congrArg some (Prod.ext hfst rfl))⟩
  rintro ⟨run, hrun, -, a, -, hclean⟩
  obtain rfl := mem_singleton.1 hrun
  have hpublished : republished.publishedOf 3 =
      some ({ id := 3, publishedVersion := some 2 }, { checkKeys := ["new".toList] }) := rfl
  have hasked := (hclean.asked _ hpublished).1
  revert hasked
  decide +kernel

/-- A run of the current check is recorded as clean. -/
theorem notDetected_clean_current :
    ∃ run ∈ (waitingDb (runOfVersion 2 "new".toList (some "CVE-2021-2".toList))).runs, run.scanId = some 4 ∧
      ∃ a, republished.asset? waitingMatch.assetId = some a ∧
        Clean republished (endedScan plainEnv 4 .completed none cleanEnds) cleanEnds plainEnv run waitingMatch a := by
  have hout : (recordFor republished (endedScan plainEnv 4 .completed none cleanEnds)
      (waitingDb (runOfVersion 2 "new".toList (some "CVE-2021-2".toList))) waitingMatch).map Prod.fst =
        some .notDetected := by
    decide +kernel
  obtain ⟨outcome, hrecord, hfst⟩ := map_eq_some_iff.1 hout
  refine (notDetected_clean_iff noMatches id (fun _ => false) republished 4 .completed none cleanEnds _ waitingMatch).2
    ?_ ⟨outcome.2, hrecord.trans (congrArg some (Prod.ext hfst rfl))⟩
  intro run a stage hrun _ _ _ _ hpresumed
  cases hrun
  cases hpresumed.1

end Versions

end App.Threats
