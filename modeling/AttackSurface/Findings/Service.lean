import AttackSurface.Sensors.Observations

/-!
# The finding lifecycle (`app/findings/service.py`, `expire_risk_acceptance`)

The findings of one organization are the list `fs`; a finding's id is its position.
Sensors report findings (`upsertObservation`), covered runs that no longer see one count
as misses and resolve it at a threshold (`resolveUnobserved`), assets that leave take
theirs along (`resolveForInactiveAsset`), and analysts move them (`updateFinding`).
-/

namespace App.Findings

open PyText PyNet AsmSensors

inductive FindingStatus
  | new
  | investigating
  | acceptedRisk
  | falsePositive
  | remediated
  | reopened
deriving DecidableEq, Repr

/-- `OPEN_FINDING_STATES`. -/
def FindingStatus.isOpen : FindingStatus → Bool
  | .new | .investigating | .reopened => true
  | _ => false

/-- The columns of a finding that the lifecycle reads. -/
structure Finding where
  assetId : Nat
  fingerprint : Str
  source : Str
  sourceFindingId : Str
  severity : Severity := .info
  tags : List Str := []
  status : FindingStatus := .new
  missedCount : Nat := 0
  occurrenceCount : Nat := 1
  lastSeen : Int := 0
  resolvedAt : Option Int := none
  acceptedUntil : Option Int := none
  falsePositive : Bool := false
  unverified : Bool := false
deriving DecidableEq

/-! ## Observations -/

variable (U : Unicode)

/-- `_norm_location`: query strings are dropped, the path identifies the issue. -/
def normLocation : Option Str → Str
  | none => []
  | some [] => []
  | some location =>
    let loc := strip location
    match urlsplit loc with
    | none => U.lower loc
    | some p =>
      if p.scheme = "http".toList ∨ p.scheme = "https".toList then
        match p.port with
        | none => U.lower loc
        | some port =>
          let suffix := match port with
            | some n => if n = 0 then [] else ':' :: dec n
            | none => []
          p.scheme ++ "://".toList ++ U.lower (p.hostname U) ++ suffix ++
            (if p.path = [] then ['/'] else p.path)
      else U.lower loc

/-- How findings are told apart: the digest and the texts of the tenant's and assets' ids. -/
structure Identity where
  sha256 : Str → Str
  tenantId : Str
  assetId : Nat → Str

def fingerprint (ids : Identity) (assetId : Nat) (source ruleId : Str) (location : Option Str) : Str :=
  ids.sha256 (['|'].intercalate
    [ids.tenantId, ids.assetId assetId, source, ruleId, normLocation U location])

/-- `sorted(set(l))`. -/
def sortedSet (l : List Str) : List Str := App.Scope.sortedNames l.dedup

def newFinding (assetId : Nat) (fp source : Str) (obs : FindingObservation) (now : Int)
    (unverified : Bool) : Finding where
  assetId := assetId
  fingerprint := fp
  source := source
  sourceFindingId := obs.ruleId
  severity := obs.severity
  tags := (sortedSet obs.tags).take 20
  lastSeen := now
  unverified := unverified

def seenAgain (obs : FindingObservation) (now : Int) (unverified : Bool) (f : Finding) : Finding :=
  let f := { f with
    unverified := f.unverified && unverified
    lastSeen := now
    occurrenceCount := f.occurrenceCount + 1
    missedCount := 0
    severity := obs.severity }
  if f.status = .remediated then { f with status := .reopened, resolvedAt := none } else f

/-- `upsert_observation`: the findings and the id of the one observed. -/
def upsertObservation (ids : Identity) (fs : List Finding) (assetId : Nat)
    (obs : FindingObservation) (source : Str) (now : Int) (unverified : Bool) :
    List Finding × Nat :=
  let fp := fingerprint U ids assetId source obs.ruleId obs.location
  match fs.findIdx? (·.fingerprint = fp) with
  | some i => (fs.modify i (seenAgain obs now unverified), i)
  | none => (fs ++ [newFinding assetId fp source obs now unverified], fs.length)

/-! ## Automatic resolution -/

variable (f : Finding)

/-- `f.source_finding_id.split(":")[0]`. -/
def ruleOf : Str := (splitAt ':' f.sourceFindingId).1

def matchesFilter (cov : FindingCoverage) : Bool := (match cov.severities with
    | some l => decide (f.severity ∈ l)
    | none => true) &&
  (match cov.includeTags with
    | some l => l == [] || l.any (· ∈ f.tags)
    | none => true) &&
  (match cov.excludeTags with
    | some l => l == [] || !l.any (· ∈ f.tags)
    | none => true) &&
  (match cov.ruleIds with
    | some l => l == [] || decide (ruleOf f ∈ l)
    | none => true)

/-- The finding with id `i` is open and the run that covered it did not see it. -/
def unobserved (assetIds : List Nat) (source : Str) (cov : FindingCoverage) (observed : List Nat)
    (i : Nat) (f : Finding) : Bool :=
  decide (f.assetId ∈ assetIds) && f.source == source && f.status.isOpen &&
    !decide (i ∈ observed) && matchesFilter f cov

def missFinding (threshold : Nat) (now : Int) (f : Finding) : Finding :=
  let f := { f with missedCount := f.missedCount + 1 }
  if f.missedCount < threshold then f else { f with status := .remediated, resolvedAt := some now }

variable (fs : List Finding) (assetIds : List Nat)

def missedIds (source : Str) (cov : FindingCoverage) (observed : List Nat) : List Nat :=
  (List.range fs.length).filter fun i => fs[i]?.any (unobserved assetIds source cov observed i)

/-- `resolve_unobserved`: the findings and the ids of those it resolved. -/
def resolveUnobserved (source : Str)
    (cov : FindingCoverage) (observed : List Nat) (threshold : Nat) (now : Int) :
    List Finding × List Nat :=
  let misses := missedIds fs assetIds source cov observed
  (fs.mapIdx fun i f => if i ∈ misses then missFinding threshold now f else f,
   misses.filter fun i => fs[i]?.any fun f => decide (threshold ≤ f.missedCount + 1))

/-- `resolve_for_inactive_asset`. -/
def resolveForInactiveAsset (assetId : Nat) (now : Int) (fs : List Finding) : List Finding := fs.map fun f =>
    if f.assetId = assetId ∧ f.status.isOpen = true then
      { f with status := .remediated, resolvedAt := some now }
    else f

/-! ## The analyst workflow -/

/-- `ALLOWED_TRANSITIONS`. -/
def allowedTransitions : FindingStatus → List FindingStatus
  | .new => [.investigating, .acceptedRisk, .falsePositive, .remediated]
  | .investigating => [.new, .acceptedRisk, .falsePositive, .remediated]
  | .reopened => [.investigating, .acceptedRisk, .falsePositive, .remediated]
  | .acceptedRisk => [.reopened, .investigating]
  | .falsePositive => [.reopened, .investigating]
  | .remediated => [.reopened]

/-- The changes an analyst sends, those that the lifecycle reads. -/
structure FindingUpdate where
  status : Option FindingStatus := none
  acceptedUntil : Option Int := none
  tags : Option (List Str) := none
  comment : Option Str := none

inductive UpdateError
  | notFound
  | cannotMove (before after : FindingStatus)
  | acceptingNeedsAdmin
  | commentRequired
deriving DecidableEq, Repr

/-- The `status` part of `update_finding`. -/
def moveFinding (u : FindingUpdate) (canAcceptRisk : Bool) (now : Int) :
    FindingStatus → Except UpdateError Finding := fun status =>
  if status = f.status then .ok f
  else if status ∉ allowedTransitions f.status then .error (.cannotMove f.status status)
  else if status = .acceptedRisk && !canAcceptRisk then .error .acceptingNeedsAdmin
  else if status = .acceptedRisk && (u.comment.getD []) == [] then .error .commentRequired
  else
    .ok { f with
      acceptedUntil := if status = .acceptedRisk then u.acceptedUntil else f.acceptedUntil
      falsePositive := decide (status = .falsePositive)
      resolvedAt :=
        if status = .remediated then some now
        else if status = .reopened then none
        else f.resolvedAt
      status := status }

/-- The `tags` part of `update_finding`. -/
def retag (u : FindingUpdate) : Finding :=
  match u.tags with
  | none => f
  | some tags =>
    let tags := (sortedSet (((tags.map strip).filter (· ≠ [])).map fun t =>
      (U.lower t).take 64)).take 30
    if tags = App.Scope.sortedNames f.tags then f else { f with tags := tags }

/-- `update_finding` of the finding with id `i`. -/
def updateFinding (i : Nat) (u : FindingUpdate)
    (canAcceptRisk : Bool) (now : Int) : Except UpdateError (List Finding) :=
  match fs[i]? with
  | none => .error .notFound
  | some f =>
    match u.status with
    | none => .ok (fs.set i (retag U f u))
    | some status =>
      match moveFinding f u canAcceptRisk now status with
      | .error e => .error e
      | .ok f => .ok (fs.set i (retag U f u))

def acceptanceExpired (now : Int) (f : Finding) : Bool :=
  f.status == .acceptedRisk && f.acceptedUntil.any fun t => decide (t < now)

/-- `expire_risk_acceptance`. -/
def expireRiskAcceptance (now : Int) (fs : List Finding) : List Finding := fs.map fun f =>
    if acceptanceExpired now f then { f with status := .reopened, acceptedUntil := none } else f

end App.Findings
