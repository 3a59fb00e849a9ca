import AttackSurface.Threats.Matching
import AttackSurface.Findings.Service
import AttackSurface.Scans.Orchestrator

/-!
# Evaluating an organization (`app/threats/service.py`)

`evaluateOrg` brings the matches of one organization up to date with a list of advisories: it
reads product observations and findings (each query bounded), and for each advisory in turn
refreshes, creates and retires matches.  A match is named by its advisory and its asset, which
are unique together in a tenant.  The text order of UUIDs is their numeric order, so ids are
sorted as numbers.
-/

namespace App.Threats

open PyText PyNet AsmSensors App.Scans App.Scope App.Findings

/-! ## Rows -/

inductive MatchBasis
  | product
  | finding
  | thirdParty
deriving DecidableEq, Repr

inductive CheckOutcome
  | none
  | pending
  | detected
  | notDetected
  | inconclusive
deriving DecidableEq, Repr

inductive Assessment
  | confirmed
  | checkPending
  | notDetected
  | inconclusive
  | potentiallyAffected
  | versionUnknown
  | reportedUnverified
  | notAffectedVersion
  | noLongerObserved
deriving DecidableEq, Repr

inductive CheckRunStatus
  | queued
  | running
  | completed
  | inconclusive
  | cancelled
deriving DecidableEq, Repr

/-- `ACTIVE_CHECK_RUN_STATES`. -/
def CheckRunStatus.active : CheckRunStatus → Bool
  | .queued | .running => true
  | _ => false

structure Asset where
  id : Nat
  organizationId : Nat
  assetType : AssetType
  normalizedValue : Str
  status : AssetStatus := .active
  scopeStatus : ScopeStatus := .inScope
  /-- `meta["product"]` -/
  product : Option Str := none
  /-- `meta["version"]` -/
  version : Option Str := none
  /-- `meta["webserver"]` -/
  webserver : Option Str := none
  lastSeen : Int := 0
  sources : List Str := []

structure Relationship where
  organizationId : Nat
  sourceAssetId : Nat
  targetAssetId : Nat
  relationType : RelationType
  active : Bool := true
  /-- `attributes["version"]` -/
  version : Option Str := none
  lastSeen : Int := 0
  source : Option Str := none

/-- A finding with the columns that the Threat Center reads. -/
structure FindingRow extends Findings.Finding where
  id : Nat
  organizationId : Nat
  cve : List Str := []
  lastScanId : Option Nat := none
deriving DecidableEq

structure Advisory where
  id : Nat
  publishedVersion : Option Nat
  title : Str := []
  severity : Severity := .high
  cves : List Str := []

/-- `ThreatCheck`: an approved check. -/
structure Check where
  key : Str
  templateId : Str
  enabled : Bool := true

structure Evidence where
  observations : List EvidenceItem := []
  thirdPartyOnly : Option Bool := none
  reason : Option Str := none
deriving DecidableEq

/-- `ThreatMatch`. -/
structure Match where
  organizationId : Nat
  advisoryId : Nat
  assetId : Nat
  advisoryVersion : Nat
  basis : MatchBasis
  matchStatus : MatchStatus
  evidence : Evidence
  findingIds : List Nat
  unverifiedFindingIds : List Nat
  checkOutcome : CheckOutcome
  checkDetail : Option Str
  checkedAt : Option Int
  lastCheckRunId : Option Nat
  assessment : Assessment
  firstMatchedAt : Int
  lastEvaluatedAt : Int
deriving DecidableEq

def Match.key (m : Match) : Nat × Nat := (m.advisoryId, m.assetId)

/-- `ThreatCheckRun`. -/
structure CheckRun where
  id : Nat
  organizationId : Nat
  advisoryId : Nat
  advisoryVersion : Nat
  checkKey : Str
  templateId : Option Str
  cves : List Str
  scanId : Option Nat
  assetIds : List Nat
  status : CheckRunStatus
  reason : Option Str := none
deriving DecidableEq

/-- The matches and check runs of a tenant. -/
structure Db where
  rows : List Match
  runs : List CheckRun
  keys : (rows.map Match.key).Nodup
  runIds : (runs.map CheckRun.id).Nodup

def Db.run? (db : Db) (id : Nat) : Option CheckRun := db.runs.find? fun r => decide (r.id = id)

/-- Published advisories with their contents, each once. -/
structure Advisories (T : Texts) where
  list : List (Advisory × AdvisoryContent T)
  ids : (list.map fun e => e.1.id).Nodup

lemma insertion_order (_ : ObservationSource) (l : List ProductObservation) : l.Perm l := List.Perm.refl l

/-- The other tables of the tenant's session, and the order in which the database returns rows. -/
structure World (T : Texts) where
  assets : List Asset := []
  relationships : List Relationship := []
  findings : List FindingRow := []
  checks : List Check := []
  /-- the sources that report a third party's record -/
  historical : List Str := []
  observed : ObservationSource → List ProductObservation → List ProductObservation := fun _ l => l
  related : List FindingRow → List FindingRow := id
  observed_perm : ∀ source l, (observed source l).Perm l := by exact insertion_order
  related_perm : ∀ l, (related l).Perm l := by exact List.Perm.refl

/-! ## Observations and findings -/

def maxObservations : Nat := 20000

def maxMatchesPerAdvisory : Nat := 5000

section Queries

variable {T : Texts} (W : World T) (org : Nat)

def World.asset? (id : Nat) : Option Asset := W.assets.find? fun a => decide (a.id = id)

/-- `_norm_sql`. -/
def normSql (T : Texts) (s : Str) : Str := T.lower (squeeze (stripChars [' '] s))

def live (a : Asset) : Bool :=
  decide (a.status = .active) && decide (a.scopeStatus ≠ .outOfScope) && decide (a.organizationId = org)

variable (names : List Str)

/-- Technologies on `uses_technology` relationships. -/
def technologies : List ProductObservation := W.relationships.filterMap fun r =>
    match W.asset? r.targetAssetId, W.asset? r.sourceAssetId with
    | some tech, some a =>
      if r.organizationId = org ∧ r.active = true ∧ r.relationType = .usesTechnology ∧
          normSql T tech.normalizedValue ∈ names ∧ live org a = true then
        some ⟨r.sourceAssetId, tech.normalizedValue, r.version, .technology, some r.lastSeen,
          r.source.any fun s => decide (s ∈ W.historical)⟩
      else none
    | _, _ => none

def services : List ProductObservation := W.assets.filterMap fun a =>
    match a.product with
    | some product =>
      if a.assetType = .service ∧ normSql T product ∈ names ∧ live org a = true then
        some ⟨a.id, product, a.version, .service, some a.lastSeen,
          decide (a.sources ≠ []) && a.sources.all fun s => decide (s ∈ W.historical)⟩
      else none
    | none => none

/-- Banners of web servers: `name/version` up to the first blank. -/
def webServers : List ProductObservation := W.assets.filterMap fun a =>
    match a.webserver with
    | some banner =>
      let first := (splitAt ' ' banner).1
      let server := splitAt '/' first
      if a.assetType = .httpEndpoint ∧ normSql T server.1 ∈ names ∧ live org a = true then
        some ⟨a.id, server.1, bound (some server.2), .webServer, some a.lastSeen, false⟩
      else none
    | none => none

/-- A query with `limit(MAX_OBSERVATIONS)`. -/
def limited (source : ObservationSource) (rows : List ProductObservation) : List ProductObservation :=
  (W.observed source rows).take maxObservations

/-- `product_observations`: the observations and whether the bound was hit. -/
def productObservations : List ProductObservation × Bool :=
  let out := limited W .technology (technologies W org names) ++ limited W .service (services W org names) ++
    limited W .webServer (webServers W org names)
  (out.take maxObservations, decide (maxObservations ≤ out.length))

def ruleName (T : Texts) (f : FindingRow) : Str := T.lower (splitAt ':' f.sourceFindingId).1

def relatedFindings (cves templates : List Str) : List FindingRow := W.findings.filter fun f =>
    decide (f.organizationId = org) && decide (f.status ≠ .falsePositive) &&
      (f.cve.any (fun c => decide (c ∈ cves)) || decide (ruleName T f ∈ templates))

/-- `_findings`: the findings and whether the bound was hit. -/
def findingsOf (cves templates : List Str) : List FindingRow × Bool :=
  let rows := (W.related (relatedFindings W org cves templates)).take maxObservations
  (rows, decide (maxObservations ≤ rows.length))

/-- `_templates_for`. -/
def templatesFor (checks : List Check) (content : AdvisoryContent T) : List Str :=
  (checks.filter fun c => decide (c.key ∈ content.checkKeys)).map fun c => T.lower c.templateId

end Queries

/-! ## Assessment -/

/-- `assess`: the one label per asset. -/
def assess (matchStatus : MatchStatus) (basis : MatchBasis) (check : CheckOutcome) (hasVerified : Bool) :
    Assessment :=
  if hasVerified = true ∨ check = .detected then .confirmed
  else if matchStatus = .noLongerObserved then .noLongerObserved
  else if check = .pending then .checkPending
  else if matchStatus = .notAffectedVersion then .notAffectedVersion
  else if check = .notDetected then .notDetected
  else if check = .inconclusive then .inconclusive
  else if basis = .thirdParty then .reportedUnverified
  else if matchStatus = .versionUnknown then .versionUnknown
  else .potentiallyAffected

/-- `AFFECTED_ASSESSMENTS`. -/
def Assessment.affected : Assessment → Bool
  | .notAffectedVersion | .noLongerObserved => false
  | _ => true

def Match.assessed (m : Match) : Match :=
  { m with assessment := assess m.matchStatus m.basis m.checkOutcome (decide (m.findingIds ≠ [])) }

/-- `set(a) == set(b)`. -/
def sameSet (a b : List Str) : Bool := a.all (fun x => decide (x ∈ b)) && b.all fun x => decide (x ∈ a)

/-- `run_applies`: the run tested what this version asks for. -/
def runApplies (T : Texts) (run : Option CheckRun) (version : Nat) (templates cves : List Str) : Bool :=
  match run with
  | none => false
  | some run =>
    match run.templateId with
    | none => decide (run.advisoryVersion = version)
    | some template => decide (T.lower template ∈ templates) && sameSet run.cves cves

/-! ## One advisory -/

/-- Why an evaluation saw only part of the inventory. -/
inductive Gap
  | observations
  | findings
  | assets
deriving DecidableEq, Repr

def Gap.text : Gap → Str
  | .observations => "more than 20000 product observations".toList
  | .findings => "more than 20000 related findings".toList
  | .assets => "more than 5000 assets match".toList

/-- What a call has read before its loop. -/
structure Reading (T : Texts) where
  org : Nat
  observations : List ProductObservation
  observationsCut : Bool
  findings : List FindingRow
  findingsCut : Bool
  activeAssets : List Nat
  runs : List CheckRun
  checks : List Check

section Advisory

variable {T : Texts} (R : Reading T) (adv : Advisory) (content : AdvisoryContent T)

def Reading.templates : List Str := templatesFor R.checks content

def Reading.verdicts : List AssetVerdict := Threats.verdicts T content R.observations

def Reading.verdict? (a : Nat) : Option AssetVerdict :=
  (R.verdicts content).find? fun v => decide (v.assetId = a)

/-- The findings that concern the advisory, on an active asset or one with a verdict. -/
def Reading.counted : List FindingRow := R.findings.filter fun f =>
    (f.cve.any (fun c => decide (c ∈ content.cves)) || decide (ruleName T f ∈ R.templates content)) &&
      (decide (f.assetId ∈ R.activeAssets) || (R.verdict? content f.assetId).isSome)

/-- `sorted(set(…), key=str)` of the ids of an asset's findings. -/
def Reading.findingIds (unverified : Bool) (a : Nat) : List Nat :=
  (((R.counted content).filter fun f => decide (f.unverified = unverified ∧ f.assetId = a)).map
    FindingRow.id).dedup.insertionSort fun x y => x ≤ y

def Reading.assetIds : List Nat :=
  ((R.verdicts content).map AssetVerdict.assetId ++ (R.counted content).map (·.assetId)).dedup

def Reading.sharedGap : Option Gap :=
  if R.observationsCut then some .observations else if R.findingsCut then some .findings else none

def Reading.gap : Option Gap :=
  R.sharedGap.or (if maxMatchesPerAdvisory < (R.assetIds content).length then some .assets else none)

/-- The order of `ranked`: what is already tracked comes first. -/
def rankLe (existing : List Nat) (a b : Nat) : Bool := (decide (a ∈ existing) && !decide (b ∈ existing)) ||
    (decide (a ∈ existing) == decide (b ∈ existing) && decide (a ≤ b))

/-- The assets that are evaluated; `existing` are those with a match. -/
def Reading.chosen (existing : List Nat) : List Nat :=
  if maxMatchesPerAdvisory < (R.assetIds content).length then
    ((R.assetIds content).insertionSort fun a b => rankLe existing a b).take maxMatchesPerAdvisory
  else R.assetIds content

/-- What the inventory says about an asset. -/
structure Standing where
  basis : MatchBasis
  status : MatchStatus
  evidence : Evidence

def Reading.standing (a : Nat) : Standing :=
  match R.verdict? content a with
  | some v =>
    { basis := if v.thirdPartyOnly = true ∧ R.findingIds content false a = [] then .thirdParty else .product
      status := v.status
      evidence := { observations := v.evidence, thirdPartyOnly := some v.thirdPartyOnly } }
  | none =>
    if R.findingIds content false a ≠ [] then
      ⟨.finding, .potentiallyAffected,
        { reason := some "a verified finding on this asset names the advisory".toList }⟩
    else
      ⟨.thirdParty, .potentiallyAffected,
        { reason := some "only an unverified third-party report names the advisory".toList }⟩

def Advisory.version : Nat := adv.publishedVersion.getD 0

/-- The last check of the match tested something else than the advisory asks for now. -/
def Reading.outdated (outcome : CheckOutcome) (lastRun : Option Nat) : Bool :=
  decide (outcome ∈ [CheckOutcome.detected, .notDetected, .inconclusive]) &&
    !runApplies T (lastRun.bind fun id => R.runs.find? fun r => decide (r.id = id)) adv.version
      (R.templates content) content.cves

/-- `check_outcome`, `checked_at` and `check_detail` of a match. -/
structure Checked where
  outcome : CheckOutcome
  time : Option Int
  detail : Option Str
deriving DecidableEq

def Match.checked (m : Match) : Checked := ⟨m.checkOutcome, m.checkedAt, m.checkDetail⟩

def Reading.checkedAfter (m : Match) : Checked :=
  if R.outdated adv content m.checkOutcome m.lastCheckRunId then
    ⟨.none, none, some ("the last check tested an earlier version of this advisory; it does not apply to version ".toList ++
      dec adv.version)⟩
  else m.checked

variable (now : Int)

def Reading.refresh (m : Match) : Match := Match.assessed
    { m with
      advisoryVersion := adv.version
      checkOutcome := (R.checkedAfter adv content m).outcome
      checkedAt := (R.checkedAfter adv content m).time
      checkDetail := (R.checkedAfter adv content m).detail
      basis := (R.standing content m.assetId).basis
      matchStatus := (R.standing content m.assetId).status
      evidence := (R.standing content m.assetId).evidence
      findingIds := R.findingIds content false m.assetId
      unverifiedFindingIds := R.findingIds content true m.assetId
      lastEvaluatedAt := now }

def Reading.blank (a : Nat) : Match where
  organizationId := R.org
  advisoryId := adv.id
  assetId := a
  advisoryVersion := adv.version
  basis := .product
  matchStatus := .potentiallyAffected
  evidence := {}
  findingIds := []
  unverifiedFindingIds := []
  checkOutcome := .none
  checkDetail := none
  checkedAt := none
  lastCheckRunId := none
  assessment := .potentiallyAffected
  firstMatchedAt := now
  lastEvaluatedAt := now

def retire (m : Match) : Match := Match.assessed
    { m with
      matchStatus := .noLongerObserved
      findingIds := []
      unverifiedFindingIds := []
      evidence := { m.evidence with
        reason := some "the product or finding is no longer observed on this asset".toList }
      lastEvaluatedAt := now }

def Reading.existing (rows : List Match) : List Nat :=
  (rows.filter fun m => decide (m.organizationId = R.org ∧ m.advisoryId = adv.id)).map Match.assetId

def Reading.touch (chosen : List Nat) (m : Match) : Match :=
  if m.organizationId = R.org ∧ m.advisoryId = adv.id then
    if m.assetId ∈ chosen then R.refresh adv content now m
    else if (R.gap content).isSome then m
    else retire now m
  else m

def Reading.created (existing chosen : List Nat) : List Match :=
  (chosen.filter fun a => decide (a ∉ existing)).map fun a =>
    R.refresh adv content now (R.blank adv now a)

end Advisory

/-! ## The loop over the advisories -/

/-- `_match_event`. -/
structure MatchEvent where
  organizationId : Nat
  advisoryId : Nat
  advisoryVersion : Option Nat
  count : Nat
  occurredAt : Int
deriving DecidableEq

/-- `incomplete_orgs` of the advisory's campaign, for this organization. -/
structure CampaignNote where
  advisoryId : Nat
  gap : Option Gap
deriving DecidableEq

structure Progress where
  rows : List Match
  newMatches : Nat := 0
  events : List MatchEvent := []
  campaigns : List CampaignNote := []

section Evaluate

variable {T : Texts}

def evaluateAdvisory (R : Reading T) (now : Int) (st : Progress) (entry : Advisory × AdvisoryContent T) : Progress :=
  let existing := R.existing entry.1 st.rows
  let chosen := R.chosen entry.2 existing
  let created := R.created entry.1 entry.2 now existing chosen
  let countable := created.countP fun m => m.assessment.affected
  { rows := st.rows.map (R.touch entry.1 entry.2 now chosen) ++ created
    newMatches := st.newMatches + countable
    events := st.events ++
      (if countable ≠ 0 then [⟨R.org, entry.1.id, entry.1.publishedVersion, countable, now⟩] else [])
    campaigns := st.campaigns ++ [⟨entry.1.id, R.gap entry.2⟩] }

/-- What `evaluate_org` reads. -/
def reading (W : World T) (org : Nat) (advisories : Advisories T) (db : Db) : Reading T :=
  let observations := productObservations W org (advisories.list.flatMap fun e => namesOf e.2)
  let findings := findingsOf W org (advisories.list.flatMap fun e => e.2.cves)
    (advisories.list.flatMap fun e => templatesFor W.checks e.2)
  { org := org
    observations := observations.1
    observationsCut := observations.2
    findings := findings.1
    findingsCut := findings.2
    activeAssets := (W.assets.filter fun a =>
      decide (a.organizationId = org ∧ a.status = .active) &&
        findings.1.any fun f => decide (f.assetId = a.id)).map Asset.id
    runs := db.runs
    checks := W.checks }

structure Evaluated where
  db : Db
  newMatches : Nat
  events : List MatchEvent
  campaigns : List CampaignNote

/-- `evaluate_org` (`none`: two matches of one asset, refused by the unique index). -/
def evaluateOrg (W : World T) (org : Nat) (advisories : Advisories T) (now : Int) (db : Db) : Option Evaluated :=
  let st := advisories.list.foldl (evaluateAdvisory (reading W org advisories db) now) { rows := db.rows }
  if h : (st.rows.map Match.key).Nodup then
    some ⟨{ db with rows := st.rows, keys := h }, st.newMatches, st.events, st.campaigns⟩
  else none

end Evaluate

end App.Threats
