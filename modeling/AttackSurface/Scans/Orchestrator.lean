import AttackSurface.Scans.BuildTargets
import AttackSurface.Scope.Policy

/-!
# Preparing a stage (`app/scans/orchestrator.py`)

`prepareNextStage` picks the next pending stage of a running scan, builds its
targets, asks the scope checker about each of them with the activity of the stage's
adapter, and hands the allowed ones to a sensor job.  A stage without an allowed
target is skipped.  The scanner adapters and the sealing of credentials are not part
of it; they are fields of `Platform`.

A result of `none` is an exception of the source (a stored entry, URL or setting that
does not parse, an unknown adapter).

    dispatched with `job`  →  job.targets = the built targets that `check` allows
                                                              (prepareNextStage_dispatched)
-/

namespace App.Scans

open PyText PyNet AsmSensors App.Scope StableSort Option

inductive ScanStatus
  | pending
  | queued
  | running
  | completed
  | partially
  | failed
  | cancelled
deriving DecidableEq, Repr

inductive StageStatus
  | pending
  | running
  | completed
  | partially
  | failed
  | skipped
  | cancelled
deriving DecidableEq, Repr

/-- Why a scan may not go on (`_inactive_reason`). -/
inductive InactiveReason
  | tenantSuspended
  | organizationInactive
  | noScannerForPool (pool : Str)
  | poolShared (pool : Str)
deriving DecidableEq, Repr

/-- A stage or adapter configuration: a `dict` with values of a type `V`. -/
abbrev Config (V : Type) := List (Str × V)

structure ScanStage (V : Type) where
  id : Nat
  position : Int
  stageType : StageType
  engine : Str
  config : Config V := []
  status : StageStatus := .pending
  targetCount : Nat := 0
  rejectedCount : Nat := 0
  isActive : Bool := false
  error : Option Str := none
  taskId : Option Str := none
  workerPool : Option Str := none
  startedAt : Option Int := none
  dispatchedAt : Option Int := none
  finishedAt : Option Int := none

structure Scan (V : Type) where
  id : Nat
  tenantId : Nat
  status : ScanStatus
  targetOverride : List Str := []
  stages : List (ScanStage V)
  authSecretEncrypted : Option Str := none
  authHeaderName : Option Str := none
  retainRawOutput : Bool := false
  error : Option InactiveReason := none
  finishedAt : Option Int := none

/-- A scanner adapter, as far as the orchestrator asks it. -/
structure Adapter (V : Type) where
  wantsCrawledPages : Bool
  /-- `is_active(parse_config(cfg))`; `none` when the configuration is refused -/
  isActive : Config V → Option Bool
  credentialProviders : List Str
  /-- its configuration has the field `auth_header_name` -/
  authHeaderField : Bool

structure Tenant where
  active : Bool
  workerPool : Option Str

/-- What the orchestrator reads: the organization's rows, the settings, the adapters. -/
structure Platform (V : Type) where
  inventory : Inventory
  tenant : Option Tenant
  /-- the organization's `is_active` -/
  organizationActive : Option Bool
  /-- another tenant is assigned to this pool -/
  poolShared : Str → Bool
  workerPools : List Str
  perTenantIsolation : Bool
  requireScopeVerification : Bool
  derivedIpScanning : Bool
  allowNonPublicScope : Bool
  maxTargetsPerStage : Nat := 50000
  stageTimeoutSeconds : Nat := 14400
  getAdapter : Str → Option (Adapter V)
  /-- a `str` as a configuration value -/
  configText : Str → V
  /-- `scanner_credentials`: the tenant's stored secrets for these providers -/
  scannerCredentials : List Str → List (Str × List Str)
  decrypt : Str → Option Str
  /-- `seal_credentials` with the pool's key, for one job -/
  sealCredentials : List (Str × List Str) → Str → Str → Str

/-- One row of the decision log. -/
structure ScopeDecision where
  stageId : Nat
  target : Str
  allowed : Bool
  reason : Str
  matchedEntryId : Option Nat
  active : Bool
deriving DecidableEq

structure SensorJob (U : Unicode) (V : Type) where
  jobId : Str
  tenantId : Nat
  scanId : Nat
  stageId : Nat
  adapter : Str
  targets : List (Target U)
  config : Config V
  sealedCredentials : Option Str
  timeoutSeconds : Nat
  retainRawOutput : Bool
  excludedNetworks : List Str

/-! ## Cancellation -/

/-- `tenant.worker_pool or "default"`. -/
def Tenant.pool (t : Tenant) : Str :=
  match t.workerPool with
  | some (c :: s) => c :: s
  | _ => "default".toList

variable {V : Type} (p : Platform V)

def scannerPoolError (t : Tenant) : Option InactiveReason :=
  if t.pool ∉ p.workerPools then some (.noScannerForPool t.pool)
  else if !p.perTenantIsolation then none
  else if p.poolShared t.pool then some (.poolShared t.pool)
  else none

/-- `_inactive_reason`. -/
def inactiveReason : Option InactiveReason :=
  match p.tenant with
  | none => some .tenantSuspended
  | some t =>
    if !t.active then some .tenantSuspended
    else if p.organizationActive ≠ some true then some .organizationInactive
    else scannerPoolError p t

variable (scan : Scan V)

/-- `_cancel`. -/
def Scan.cancel (reason : InactiveReason) (now : Int) : Scan V :=
  { scan with
    stages := scan.stages.map fun st =>
      if st.status = .pending ∨ st.status = .running then
        { st with status := .cancelled, finishedAt := some now }
      else st
    status := .cancelled
    finishedAt := some now
    authSecretEncrypted := none
    error := some reason }

/-! ## Authorizing the targets of a stage -/

def decideTargets {U : Unicode} (c : ScopeChecker) (active : Bool) (derivedFrom : DerivedFrom) :
    List (Target U) → Option (List (Target U × Decision))
  | [] => some []
  | t :: ts =>
    match c.check t active derivedFrom, decideTargets c active derivedFrom ts with
    | some d, some ds => some ((t, d) :: ds)
    | _, _ => none

structure Authorization (U : Unicode) (V : Type) where
  checker : ScopeChecker
  adapter : Adapter V
  config : Config V
  active : Bool
  allowed : List (Target U)
  decisions : List ScopeDecision

def adapterConfig (cfg : Config V) : Config V := cfg.filter fun e => !startsWith ['_'] e.1

/-- `load_checker`. -/
def loadChecker : Option ScopeChecker :=
  ScopeChecker.make p.inventory.scopeEntries p.requireScopeVerification p.derivedIpScanning
    p.allowNonPublicScope

def authorizeStage (U : Unicode) {V : Type} (p : Platform V) (targetOverride : List Str)
    (stage : ScanStage V) : Option (Authorization U V) :=
  match loadChecker p, p.getAdapter stage.engine with
  | some checker, some adapter =>
    match buildTargets U p.inventory targetOverride stage.stageType p.maxTargetsPerStage
        adapter.wantsCrawledPages with
    | none => none
    | some built =>
      match adapter.isActive (adapterConfig stage.config) with
      | none => none
      | some active =>
        match decideTargets checker active built.derivedFrom built.targets with
        | none => none
        | some ds =>
          some
            { checker, adapter, config := adapterConfig stage.config, active
              allowed := (ds.filter (·.2.allowed)).map Prod.fst
              decisions :=
                ds.map (fun r => ⟨stage.id, r.1.value.take 2048, r.2.allowed, r.2.reason.take 255,
                  r.2.ruleId, active⟩) ++
                built.invalid.map fun bad =>
                  ⟨stage.id, bad.take 2048, false, "invalid target syntax".toList, none, active⟩ }
  | _, _ => none

/-! ## The job -/

/-- `AUTH_PROVIDER`. -/
def authProvider : Str := "zap_auth".toList

/-- `d[k] = v`. -/
def setKey {β : Type} (d : List (Str × β)) (k : Str) (v : β) : List (Str × β) :=
  if d.any (·.1 == k) then d.map fun e => if e.1 = k then (k, v) else e else d ++ [(k, v)]

/-- `str(ip_network(n, strict=False))` for each of them. -/
def normalNetworks : List Str → Option (List Str)
  | [] => some []
  | s :: ss =>
    match ipNetwork s, normalNetworks ss with
    | some n, some ns => some (n.toStr :: ns)
    | _, _ => none

/-- The secrets of a job, and its configuration: a sign-in value given for the scan wins. -/
def jobSecrets (adapter : Adapter V) (cfg : Config V) :
    Option (List (Str × List Str) × Config V) :=
  let creds := p.scannerCredentials adapter.credentialProviders
  match scan.authSecretEncrypted with
  | none => some (creds, cfg)
  | some secret =>
    if secret = [] ∨ authProvider ∉ adapter.credentialProviders then some (creds, cfg)
    else
      match p.decrypt secret with
      | none => none
      | some value =>
        let creds := setKey creds authProvider [value]
        match scan.authHeaderName with
        | some (c :: name) =>
          if adapter.authHeaderField then
            some (creds, setKey cfg "auth_header_name".toList (p.configText (c :: name)))
          else some (creds, cfg)
        | _ => some (creds, cfg)

def excludedValues (c : ScopeChecker) : List Str :=
  (c.rules.filter fun r => r.isExclusion && (r.entryType == .ip || r.entryType == .cidr)).map
    ScopeRule.value

/-- `SensorJob(…)`, with the bounds its fields are validated against. -/
def sensorJob {U : Unicode} {V : Type} (p : Platform V) (scan : Scan V) (stage : ScanStage V)
    (auth : Authorization U V) (pool jobId : Str) : Option (SensorJob U V) :=
  match jobSecrets p scan auth.adapter auth.config, normalNetworks (excludedValues auth.checker) with
  | some (creds, cfg), some excluded =>
    if auth.allowed.length ≤ 500000 ∧ excluded.length ≤ 10000 ∧ 30 ≤ p.stageTimeoutSeconds ∧
        p.stageTimeoutSeconds ≤ 86400 then
      some
        { jobId, tenantId := scan.tenantId, scanId := scan.id, stageId := stage.id
          adapter := stage.engine, targets := auth.allowed, config := cfg
          sealedCredentials := if creds = [] then none else some (p.sealCredentials creds jobId pool)
          timeoutSeconds := p.stageTimeoutSeconds, retainRawOutput := scan.retainRawOutput
          excludedNetworks := excluded }
    else none
  | _, _ => none

/-! ## The next stage -/

def Scan.setStage (stage : ScanStage V) : Scan V :=
  { scan with stages := scan.stages.map fun st => if st.id = stage.id then stage else st }

/-- The scan and the log after the call, and the stage that was sent out with its job. -/
structure Prepared (U : Unicode) (V : Type) where
  scan : Scan V
  log : List ScopeDecision
  dispatched : Option (ScanStage V × SensorJob U V)

def prepareStages {U : Unicode} {V : Type} (p : Platform V) (pool jobId : Str) (now : Int) :
    List (ScanStage V) → Scan V → List ScopeDecision → Option (Prepared U V)
  | [], scan, log => some ⟨scan, log, none⟩
  | stage :: rest, scan, log =>
    if stage.status ≠ .pending then prepareStages p pool jobId now rest scan log
    else
      match authorizeStage U p scan.targetOverride stage with
      | none => none
      | some auth =>
        let counted := { stage with
          targetCount := auth.allowed.length
          rejectedCount := auth.decisions.length - auth.allowed.length
          isActive := auth.active }
        let log := log ++ auth.decisions
        if auth.allowed = [] then
          let skipped := { counted with
            status := .skipped
            error := some "No authorized targets for this stage".toList
            finishedAt := some now }
          prepareStages p pool jobId now rest (scan.setStage skipped) log
        else
          match sensorJob p scan counted auth pool jobId with
          | none => none
          | some job =>
            let sent := { counted with
              status := .running
              startedAt := some now
              taskId := some jobId
              workerPool := some pool
              dispatchedAt := none }
            some ⟨scan.setStage sent, log, some (sent, job)⟩

/-- `prepare_next_stage`; `jobId` is the `uuid4().hex` of the call. -/
def prepareNextStage (U : Unicode) {V : Type} (p : Platform V) (scan : Scan V) (jobId : Str)
    (now : Int) : Option (Prepared U V) :=
  if scan.status ≠ .running then some ⟨scan, [], none⟩
  else
    match inactiveReason p, p.tenant with
    | some reason, _ => some ⟨scan.cancel reason now, [], none⟩
    | none, none => none
    | none, some tenant =>
      prepareStages p tenant.pool jobId now
        (scan.stages.insertionSort fun a b => a.position ≤ b.position) scan []

/-! ## What is sent out -/

section Dispatched

variable {U : Unicode} {V : Type} {p : Platform V}

lemma decideTargets_allowed {c : ScopeChecker} {active : Bool} {df : DerivedFrom}
    {ts : List (Target U)} {ds : List (Target U × Decision)}
    (h : decideTargets c active df ts = some ds) :
    (ds.filter (·.2.allowed)).map Prod.fst = ts.filter fun t => isAllowed (c.check t active df) := by
  induction ts generalizing ds with
  | nil =>
    simp only [decideTargets, some.injEq] at h
    rw [← h]
    rfl
  | cons t ts ih =>
    unfold decideTargets at h
    split at h
    · next d ds' hd hds =>
      simp only [some.injEq] at h
      rw [← h, List.filter_cons, List.filter_cons, hd]
      have hsame : isAllowed (some d) = d.allowed := rfl
      rw [hsame]
      cases d.allowed with
      | true => simp [ih hds]
      | false => simpa using ih hds
    · cases h

/-- The targets of `stage` that the scope checker allows, as its adapter would scan them. -/
def StageAllowed (p : Platform V) (targetOverride : List Str) (stage : ScanStage V)
    (allowed : List (Target U)) : Prop :=
  ∃ checker adapter built active, loadChecker p = some checker ∧ p.getAdapter stage.engine = some adapter ∧
    buildTargets U p.inventory targetOverride stage.stageType p.maxTargetsPerStage
      adapter.wantsCrawledPages = some built ∧
    adapter.isActive (adapterConfig stage.config) = some active ∧
    allowed = built.targets.filter fun t => isAllowed (checker.check t active built.derivedFrom)

variable {auth : Authorization U V} {scan : Scan V}

lemma authorizeStage_allowed {targetOverride : List Str} {stage : ScanStage V}
    (h : authorizeStage U p targetOverride stage = some auth) :
    StageAllowed p targetOverride stage auth.allowed := by
  unfold authorizeStage at h
  split at h
  · next checker adapter hc ha =>
    split at h
    · cases h
    next built hb =>
    split at h
    · cases h
    next active hact =>
    split at h
    · cases h
    next ds hds =>
    simp only [some.injEq] at h
    rw [← h]
    exact ⟨checker, adapter, built, active, hc, ha, hb, hact, decideTargets_allowed hds⟩
  · cases h

variable {job : SensorJob U V}

lemma sensorJob_columns {stage : ScanStage V}
    {pool jobId : Str} (h : sensorJob p scan stage auth pool jobId = some job) :
    job.targets = auth.allowed ∧ job.stageId = stage.id ∧ job.jobId = jobId := by
  unfold sensorJob at h
  split at h
  · split at h
    · cases h
      exact ⟨rfl, rfl, rfl⟩
    · cases h
  · cases h

/-- One stage is sent out, after stages that were no longer pending or had no allowed target. -/
lemma prepareStages_dispatched {pool jobId : Str} {now : Int} {stages : List (ScanStage V)}
    {log : List ScopeDecision} {r : Prepared U V}
    (h : prepareStages p pool jobId now stages scan log = some r) {sent : ScanStage V}
    (hd : r.dispatched = some (sent, job)) :
    ∃ stage ∈ stages, stage.status = .pending ∧ job.stageId = stage.id ∧ job.targets ≠ [] ∧
      StageAllowed p scan.targetOverride stage job.targets := by
  induction stages generalizing scan log with
  | nil =>
    simp only [prepareStages, some.injEq] at h
    rw [← h] at hd
    cases hd
  | cons stage rest ih =>
    unfold prepareStages at h
    split at h
    · obtain ⟨st, hst, hrest⟩ := ih h
      exact ⟨st, by simp [hst], hrest⟩
    next hpending =>
    split at h
    · cases h
    next auth hauth =>
    simp only [] at h
    split at h
    · -- skipped
      obtain ⟨st, hst, hrest⟩ := ih h
      exact ⟨st, by simp [hst], hrest⟩
    next hne =>
    split at h
    · cases h
    next job' hjob =>
    simp only [some.injEq] at h
    rw [← h] at hd
    simp only [some.injEq, Prod.mk.injEq] at hd
    obtain ⟨-, rfl⟩ := hd
    obtain ⟨ht, hid, -⟩ := sensorJob_columns hjob
    exact ⟨stage, by simp, not_not.1 hpending, hid, ht ▸ hne, ht ▸ authorizeStage_allowed hauth⟩

/-- **A job holds exactly the built targets of a pending stage that pass the scope check.** -/
theorem prepareNextStage_dispatched {jobId : Str} {now : Int} {r : Prepared U V}
    (h : prepareNextStage U p scan jobId now = some r) {sent : ScanStage V}
    (hd : r.dispatched = some (sent, job)) :
    ∃ stage ∈ scan.stages, stage.status = .pending ∧ job.stageId = stage.id ∧ job.targets ≠ [] ∧
      StageAllowed p scan.targetOverride stage job.targets := by
  unfold prepareNextStage at h
  split at h
  · simp only [some.injEq] at h
    rw [← h] at hd
    cases hd
  split at h
  · simp only [some.injEq] at h
    rw [← h] at hd
    cases hd
  · cases h
  · obtain ⟨stage, hs, hrest⟩ := prepareStages_dispatched h hd
    exact ⟨stage, (List.mem_insertionSort _).1 hs, hrest⟩

end Dispatched

/-! ## The decision and its use -/

/-- **A target other than a network is allowed exactly by the policy for its host, and the job of
a stage holds exactly the built targets that are allowed.** -/
theorem check_and_dispatch (U : Unicode) (V : Type) :
    (∀ (c : ScopeChecker) (active : Bool) (df : DerivedFrom) (t : Target U), t.kind ≠ .cidr →
      (isAllowed (c.check t active df) = true ↔ ∃ host, t.host = .ok host ∧ HostAllowed c active firstListed
            (∃ q ∈ df host, isAllowed (c.checkHost q active noMap) = true) host)) ∧
    ∀ (p : Platform V) (scan : Scan V) (jobId : Str) (now : Int) (r : Prepared U V)
      (sent : ScanStage V) (job : SensorJob U V),
      prepareNextStage U p scan jobId now = some r → r.dispatched = some (sent, job) →
      ∃ stage ∈ scan.stages, stage.status = .pending ∧ job.stageId = stage.id ∧ job.targets ≠ [] ∧
        StageAllowed p scan.targetOverride stage job.targets := by
  refine ⟨fun c active df t hk => ?_, fun p scan jobId now r sent job h hd =>
    prepareNextStage_dispatched h hd⟩
  have hparent : ∀ q, isAllowed (c.checkHost q active noMap) = true ↔
      DirectAllowed c active firstListed q := by
    intro q
    rw [checkHost_iff]
    simp [noMap, DirectAllowed]
  rw [check_iff]
  unfold Allowed
  simp [hk, hparent]

/-- An organization with the domain `example.com` and one known name below it. -/
def onePlatform : Platform Unit where
  inventory :=
    { assets := [{ id := 1, assetType := .subdomain, normalizedValue := "www.example.com".toList }]
      scopeEntries := [{ id := some 1, entryType := .domain, value := "example.com".toList }] }
  tenant := some ⟨true, none⟩
  organizationActive := some true
  poolShared := fun _ => false
  workerPools := ["default".toList]
  perTenantIsolation := false
  requireScopeVerification := false
  derivedIpScanning := true
  allowNonPublicScope := false
  getAdapter := fun _ => some ⟨false, fun _ => some true, [], false⟩
  configText := fun _ => ()
  scannerCredentials := fun _ => []
  decrypt := fun _ => none
  sealCredentials := fun _ _ _ => []

def oneScan : Scan Unit where
  id := 1
  tenantId := 1
  status := .running
  stages := [{ id := 7, position := 0, stageType := .dnsResolution, engine := "dnsx".toList }]

theorem check_and_dispatch_dnsx :
    ∃ (c : ScopeChecker) (t : Target asciiUnicode) (r : Prepared asciiUnicode Unit)
      (sent : ScanStage Unit) (job : SensorJob asciiUnicode Unit),
      loadChecker onePlatform = some c ∧
      Target.make asciiUnicode .hostname "www.example.com".toList = .ok t ∧
      (isAllowed (c.check t true noMap) = true ↔ ∃ host, t.host = .ok host ∧ HostAllowed c true firstListed
            (∃ q ∈ noMap host, isAllowed (c.checkHost q true noMap) = true) host) ∧
      prepareNextStage asciiUnicode onePlatform oneScan "job".toList 0 = some r ∧
      r.dispatched = some (sent, job) ∧
      ∃ stage ∈ oneScan.stages, stage.status = .pending ∧ job.stageId = stage.id ∧ job.targets ≠ [] ∧
        StageAllowed onePlatform oneScan.targetOverride stage job.targets := by
  have hc : (loadChecker onePlatform).isSome = true := by decide +kernel
  obtain ⟨c, hc⟩ := isSome_iff_exists.1 hc
  obtain ⟨t, ht, hk, -⟩ := @Target.make_of_validate asciiUnicode .hostname
    "www.example.com".toList "www.example.com".toList (by decide)
  have heval : (prepareNextStage asciiUnicode onePlatform oneScan "job".toList 0).any
      (fun r => r.dispatched.isSome) = true := by decide +kernel
  rw [Option.any_eq_true] at heval
  obtain ⟨r, hr, hd⟩ := heval
  obtain ⟨⟨sent, job⟩, hd⟩ := isSome_iff_exists.1 hd
  obtain ⟨hcheck, hjob⟩ := check_and_dispatch asciiUnicode Unit
  exact ⟨c, t, r, sent, job, hc, ht, hcheck c true noMap t (by rw [hk]; decide), hr, hd,
    hjob onePlatform oneScan "job".toList 0 r sent job hr hd⟩

def mappedRules : List ScopeRule := [{ id := some 1, entryType := .ip, value := "::ffff:8.8.8.8".toList }]

/-- An IPv4-mapped address of a global one is global, in scope, and refused. -/
theorem check_mappedAddress : ∃ (c : ScopeChecker) (t : Target asciiUnicode) (host : Str) (a : Address),
      ScopeChecker.make mappedRules false true false = some c ∧
      Target.make asciiUnicode .ip "::ffff:8.8.8.8".toList = .ok t ∧
      t.host = .ok host ∧ ipAddress host = some a ∧
      (∀ p ∈ c.nets, p.2.isExclusion = true → p.1.contains a = false) ∧
      firstListed _ (fun p => p.1.prefixlen) (inclusionNets c a) (fun p => passes c true p.2) ∧
      a.isGlobal = true ∧
      isAllowed (c.check t true noMap) = false := by
  have heval : (ScopeChecker.make mappedRules false true false).any (fun c =>
      (Target.make asciiUnicode .ip "::ffff:8.8.8.8".toList).toOption.any fun t =>
        (t.kind == .ip) && (ipAddress t.value).any fun a =>
          (c.nets.all fun p => !p.2.isExclusion) &&
          ((sortDesc (fun p => p.1.prefixlen) (inclusionNets c a)).head?.any fun p =>
            passes c true p.2) &&
          a.isGlobal && !isAllowed (c.check t true noMap)) = true := by decide +kernel
  simp only [Option.any_eq_true, Bool.and_eq_true, beq_iff_eq, List.all_eq_true, Bool.not_eq_true'] at heval
  obtain ⟨c, hc, t, ht, hk, a, ha, ⟨⟨hex, p, hp, hpass⟩, hg⟩, hno⟩ := heval
  refine ⟨c, t, t.value, a, hc, ?_, ?_, ha, fun q hq he => ?_, ⟨p, head_sortDesc_iff.1 hp, hpass⟩, hg, hno⟩
  · cases hmake : Target.make asciiUnicode .ip "::ffff:8.8.8.8".toList with
    | error e => rw [hmake] at ht; cases ht
    | ok t' => rw [hmake] at ht; exact congrArg _ (some.inj ht)
  · unfold Target.host hostOf
    rw [hk]
  · rw [hex q hq] at he
    cases he

end App.Scans
