import AttackSurface.Threats.Evaluation
import AttackSurface.Scans.Lifecycle

/-!
# Checks (`app/threats/service.py`)

`requestChecks` starts one scan per organization and marks the selected matches as pending;
`syncCheckRun` turns a finished scan into outcomes, and `refreshRunStatus` repairs runs whose
completion was lost.  A request that is refused leaves the tables as they were.
-/

namespace App.Threats

open PyText PyNet AsmSensors App.Scans App.Scope

variable {T : Texts} {V : Type}

/-- A scan as far as a check run looks at it; the stages stand by position. -/
structure CheckScan (V : Type) where
  id : Nat
  status : ScanStatus
  error : Option Str := none
  stages : List (ScanStage V) := []

/-- `ScopeDecision`. -/
structure Decision where
  scanId : Nat
  stageId : Nat
  target : Str
  allowed : Bool

/-- The tables that checks read besides those of an evaluation. -/
structure CheckWorld (T : Texts) (V : Type) extends World T where
  published : Advisories T
  /-- `ThreatAdvisory.cves` -/
  advisoryCves : Nat → List Str := fun _ => []
  decisions : List Decision := []
  scans : List (CheckScan V) := []
  hasProfile : Bool := true

variable (W : CheckWorld T V)

/-- `published_advisories(db, [id])`. -/
def CheckWorld.publishedOf (id : Nat) : Option (Advisory × AdvisoryContent T) :=
  W.published.list.find? fun e => decide (e.1.id = id)

/-! ## Requesting -/

inductive CheckError
  | nothingSelected
  | tooManySelected
  | advisoryNotFound
  | noUsableCheck
  | matchNotFound
  | profileMissing
  | alreadyActive
  | nothingToCheck
  | scanRefused
  | integrityError
deriving DecidableEq, Repr

def maxCheckAssets : Nat := 50

/-- `_target_for`: how an asset is named to the scan pipeline. -/
def targetFor (U : Unicode) (a : Asset) : Option Str :=
  match a.assetType with
  | .httpEndpoint | .webApplication =>
    if contains "://".toList a.normalizedValue then some a.normalizedValue else none
  | .port | .service =>
    match parsePortValue U a.normalizedValue with
    | some (host, port, proto) =>
      if proto = "tcp".toList then
        some ((if ':' ∈ host then '[' :: host ++ [']'] else host) ++ ':' :: dec port)
      else none
    | none => none
  | .ipAddress | .rootDomain | .domain | .subdomain => some a.normalizedValue
  | _ => none

/-- `usable_check`: the first of the advisory's checks that is enabled. -/
def usableCheck (content : AdvisoryContent T) : Option Check :=
  content.checkKeys.findSome? fun key => W.checks.find? fun c => decide (c.key = key) && c.enabled

/-- A request: the advisory, the assets of the selected matches, and what the scan pipeline and
the new run's id will be for each organization. -/
structure Request where
  advisoryId : Nat
  selected : List Nat
  createScan : Nat → Option Nat
  newRunId : Nat → Nat

variable (req : Request)

def newRun (adv : Advisory) (content : AdvisoryContent T) (check : Check) (org scanId : Nat)
    (group : List Match) : CheckRun where
  id := req.newRunId org
  organizationId := org
  advisoryId := adv.id
  advisoryVersion := adv.version
  checkKey := check.key
  templateId := some check.templateId
  cves := content.cves
  scanId := some scanId
  assetIds := group.map Match.assetId
  status := .queued

def Match.await (m : Match) (runId : Nat) : Match :=
  Match.assessed { m with checkOutcome := .pending, checkDetail := none, lastCheckRunId := some runId }

def awaiting (group : List Match) (runId : Nat) (m : Match) : Match :=
  if m.key ∈ group.map Match.key then m.await runId else m

lemma key_awaiting (group : List Match) (runId : Nat) (m : Match) : (awaiting group runId m).key = m.key := by
  unfold awaiting
  split <;> rfl

lemma run_eq {db : Db} {r r' : CheckRun} (hr : r ∈ db.runs) (hr' : r' ∈ db.runs) (h : r.id = r'.id) : r = r' :=
  List.inj_on_of_nodup_map db.runIds hr hr' h

def Db.start (db : Db) (run : CheckRun) (group : List Match) : Option Db :=
  if h : run.id ∈ db.runs.map CheckRun.id then none
  else
    some
      { rows := db.rows.map (awaiting group run.id)
        runs := db.runs ++ [run]
        keys := by
          rw [List.map_map]
          exact (List.map_congr_left fun m _ => key_awaiting group run.id m) ▸ db.keys
        runIds := by
          rw [List.map_append]
          refine List.nodup_append.2 ⟨db.runIds, List.nodup_singleton _, ?_⟩
          rintro x hx y hy rfl
          exact h (List.mem_singleton.1 hy ▸ hx) }

def Db.activeRun (db : Db) (org advisoryId : Nat) : Option CheckRun :=
  db.runs.find? fun r => decide (r.organizationId = org ∧ r.advisoryId = advisoryId) && r.status.active

def requestFor (adv : Advisory) (content : AdvisoryContent T) (check : Check)
    (selected : List Match) (db : Db) (org : Nat) : Except CheckError Db :=
  let group := selected.filter fun m => decide (m.organizationId = org)
  if (db.activeRun org adv.id).isSome then .error .alreadyActive
  else if (group.filterMap fun m => (W.asset? m.assetId).bind (targetFor T.toUnicode)) = [] then
    .error .nothingToCheck
  else
    match req.createScan org with
    | none => .error .scanRefused
    | some scanId =>
      match db.start (newRun req adv content check org scanId group) group with
      | none => .error .integrityError
      | some db' => .ok db'

def requestAll (W : CheckWorld T V) (req : Request) (adv : Advisory) (content : AdvisoryContent T) (check : Check)
    (selected : List Match) : List Nat → Db → Except CheckError Db
  | [], db => .ok db
  | org :: orgs, db =>
    match requestFor W req adv content check selected db org with
    | .error e => .error e
    | .ok db' => requestAll W req adv content check selected orgs db'

/-- `request_checks`. -/
def requestChecks (db : Db) : Except CheckError Db :=
  if req.selected = [] then .error .nothingSelected
  else if maxCheckAssets < req.selected.length then .error .tooManySelected
  else
    match W.publishedOf req.advisoryId with
    | none => .error .advisoryNotFound
    | some (adv, content) =>
      match usableCheck W content with
      | none => .error .noUsableCheck
      | some check =>
        let selected := db.rows.filter fun m => decide (m.advisoryId = adv.id ∧ m.assetId ∈ req.selected)
        if selected.length ≠ req.selected.dedup.length then .error .matchNotFound
        else if W.hasProfile = false then .error .profileMissing
        else requestAll W req adv content check selected (selected.map Match.organizationId).eraseDups db

/-! ## Outcomes -/

section Sync

variable (W : CheckWorld T V) (scan : CheckScan V) (run : CheckRun)

/-- `_host_port`; a port `0` counts as none. -/
def hostPortOf (U : Unicode) (url : Str) : Option (Str × Nat) :=
  match urlsplit url with
  | none => none
  | some u =>
    match u.port with
    | none => none
    | some port =>
      let standard := if u.scheme = "https".toList then 443 else 80
      some (u.hostname U, match port with
        | some 0 => standard
        | some n => n
        | none => standard)

/-- `_tested`: a target of `allowed` belongs to the asset. -/
def tested (U : Unicode) (a : Asset) (allowed : List Str) : Bool :=
  match a.assetType with
  | .httpEndpoint | .webApplication => decide (a.normalizedValue ∈ allowed)
  | .port | .service =>
    match parsePortValue U a.normalizedValue with
    | some (host, port, _) => (allowed.filterMap (hostPortOf U)).any fun hp => decide (hp = (host, port))
    | none => false
  | _ => (allowed.filterMap (hostPortOf U)).any fun hp => decide (hp.1 = a.normalizedValue)

def CheckScan.stage : Option (ScanStage V) := scan.stages.head?

def suffix (before after : Str) (text : Option Str) : Str :=
  match bound text with
  | some s => before ++ s ++ after
  | none => []

def stageStatusValue : StageStatus → Str
  | .pending => "pending".toList
  | .running => "running".toList
  | .completed => "completed".toList
  | .partially => "partial".toList
  | .failed => "failed".toList
  | .skipped => "skipped".toList
  | .cancelled => "cancelled".toList

def stageProblem (stage : ScanStage V) : Option Str :=
  match stage.status with
  | .skipped =>
    some ("nothing could be tested: no authorized web endpoint for the selected assets".toList ++
      suffix " (".toList [')'] stage.error)
  | .failed | .cancelled =>
    some ("the check did not run successfully".toList ++ suffix ": ".toList [] stage.error)
  | .partially => some "the check did not complete, so absence cannot be concluded".toList
  | .completed => (bound stage.error).map fun e => "the check completed with problems: ".toList ++ e
  | status => some ("the check ended in state ".toList ++ stageStatusValue status)

def CheckScan.problem : Option Str :=
  if scan.status = .cancelled then
    some ("the check was cancelled".toList ++ suffix ": ".toList [] scan.error)
  else
    match scan.stage with
    | none => some "nothing could be tested: no authorized web endpoint for the selected assets".toList
    | some stage => stageProblem stage

def allowedTargets : List Str :=
  match scan.stage with
  | none => []
  | some stage =>
    (W.decisions.filter fun d => decide (d.scanId = scan.id ∧ d.stageId = stage.id) && d.allowed).map Decision.target

/-- The CVEs that were dispatched; runs from before they were kept use the advisory's. -/
def CheckRun.cvesIn : List Str :=
  if run.templateId.isSome then run.cves else W.advisoryCves run.advisoryId

def CheckRun.templateIn : Str :=
  match run.templateId with
  | some t => t
  | none => ((W.checks.find? fun c => decide (c.key = run.checkKey)).map Check.templateId).getD []

def CheckRun.isAbout (f : FindingRow) : Bool :=
  decide (ruleName T f = T.lower (run.templateIn W)) || f.cve.any fun c => decide (c ∈ run.cvesIn W)

/-- `hits`: the verified findings of this scan that the run is about, with the values of their assets. -/
def hits : List (Nat × Str) := (W.findings.filter fun f =>
    decide (f.lastScanId = some scan.id) && !f.unverified && run.isAbout W f).filterMap fun f =>
      (W.asset? f.assetId).map fun a => (a.id, a.normalizedValue)

def detectedOn (a : Asset) : Bool :=
  (hits W scan run).any fun h => decide (h.1 = a.id) || tested T.toUnicode a [h.2]

/-- The outcome for an asset, before the advisory's current version is looked at. -/
def rawOutcome (a : Option Asset) : CheckOutcome × Str :=
  if a.any (detectedOn W scan run) then
    (.detected, "the approved check reported the issue on this asset".toList)
  else
    match scan.problem with
    | some reason => (.inconclusive, reason)
    | none =>
      if a.any (fun a => tested T.toUnicode a (allowedTargets W scan)) then
        (.notDetected, "the check completed without detecting the issue. This is not proof the asset is safe".toList)
      else
        (.inconclusive, "this asset was not tested: it has no web endpoint the check could reach, or scope did not ".toList ++
          "authorize it".toList)

/-- While the advisory is published, the run must be what `m`'s version asks for. -/
def stillApplies (m : Match) : Bool :=
  match W.publishedOf run.advisoryId with
  | none => true
  | some current =>
    runApplies T (some run) m.advisoryVersion (templatesFor W.checks current.2) current.2.cves

def outcomeFor (m : Match) : CheckOutcome × Str :=
  if stillApplies W run m then rawOutcome W scan run (W.asset? m.assetId)
  else
    (.none, "the advisory changed while this check ran, so its result does not apply to the current version; ".toList ++
      "request the check again".toList)

def CheckRun.owns (m : Match) : Bool :=
  decide (m.advisoryId = run.advisoryId ∧ m.assetId ∈ run.assetIds ∧ m.lastCheckRunId = some run.id)

def recordOutcome (now : Int) (m : Match) : Match :=
  if run.owns m then
    Match.assessed
      { m with
        checkOutcome := (outcomeFor W scan run m).1
        checkDetail := some ((outcomeFor W scan run m).2.take 500)
        checkedAt := if (outcomeFor W scan run m).1 ≠ .none then some now else none }
  else m

lemma key_recordOutcome (now : Int) (m : Match) : (recordOutcome W scan run now m).key = m.key := by
  unfold recordOutcome
  split <;> rfl

def endStatus : CheckRunStatus :=
  if scan.status = .cancelled then .cancelled else if scan.problem.isSome then .inconclusive else .completed

end Sync

def Db.finish (db : Db) (runId : Nat) (status : CheckRunStatus) (reason : Option Str) (f : Match → Match)
    (hf : ∀ m, (f m).key = m.key) : Db where
  rows := db.rows.map f
  runs := db.runs.map fun r => if r.id = runId then { r with status := status, reason := reason } else r
  keys := by
    rw [List.map_map]
    exact (List.map_congr_left fun m _ => hf m) ▸ db.keys
  runIds := by
    rw [List.map_map]
    refine (List.map_congr_left fun r _ => ?_) ▸ db.runIds
    rw [Function.comp_apply]
    split <;> rfl

section

variable (W : CheckWorld T V)

/-- `sync_check_run`. -/
def syncCheckRun (scan : CheckScan V) (now : Int) (db : Db) : Db :=
  match db.runs.find? fun r => decide (r.scanId = some scan.id) with
  | none => db
  | some run =>
    if run.status.active then
      db.finish run.id (endStatus scan) scan.problem (recordOutcome W scan run now) (key_recordOutcome W scan run now)
    else db

/-! ## Reconciling -/

variable (runId : Nat) (now : Int)

def giveUp (m : Match) : Match :=
  if m.lastCheckRunId = some runId ∧ m.checkOutcome = .pending then
    Match.assessed
      { m with
        checkOutcome := .inconclusive
        checkDetail := some "the check's scan no longer exists".toList
        checkedAt := some now }
  else m

lemma key_giveUp (m : Match) : (giveUp runId now m).key = m.key := by
  unfold giveUp
  split <;> rfl

/-- `reconcile_run`, for a run that is still active. -/
def reconcileRun (run : CheckRun) (scan : Option (CheckScan V)) (now : Int) (db : Db) : Db :=
  match scan with
  | some scan => syncCheckRun W scan now db
  | none =>
    db.finish run.id .inconclusive (some "the check's scan no longer exists".toList) (giveUp run.id now)
      (key_giveUp run.id now)

/-- `TERMINAL_SCAN_STATES`. -/
def terminal : ScanStatus → Bool
  | .completed | .partially | .failed | .cancelled => true
  | _ => false

def Db.setStatus (db : Db) (runId : Nat) (status : CheckRunStatus) : Db where
  rows := db.rows
  runs := db.runs.map fun r => if r.id = runId then { r with status := status } else r
  keys := db.keys
  runIds := by
    rw [List.map_map]
    refine (List.map_congr_left fun r _ => ?_) ▸ db.runIds
    rw [Function.comp_apply]
    split <;> rfl

/-- `refresh_run_status`. -/
def refreshRunStatus (db : Db) : Db :=
  match db.run? runId with
  | none => db
  | some run =>
    if run.status.active = false then db
    else
      match run.scanId.bind fun id => W.scans.find? fun s => decide (s.id = id) with
      | some scan =>
        if scan.status = .running ∧ run.status = .queued then db.setStatus run.id .running
        else if terminal scan.status then reconcileRun W run (some scan) now db
        else db
      | none => reconcileRun W run none now db

end

end App.Threats
