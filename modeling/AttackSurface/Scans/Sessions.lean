import AttackSurface.Scans.Creation
import AttackSurface.Scans.Envelope
import AttackSurface.Scans.Preparing

/-!
# The scan tasks as transactions (`app/workers/tasks.py`, `results.py`, `orchestrator.py`)

Each task of the scan pipeline is a session of READ COMMITTED transactions: which statement
reads what, which lock it waits for, and what it writes back.  `start_scan` holds the
platform-wide advisory lock and re-reads the scan without its row lock; all others read the
scan `FOR UPDATE`, except the last transaction of `advance_scan`, which only sets
`dispatched_at`.  Any task can be delivered at any time and any number of times, and any
session can crash between two statements.

The organization's inventory is not part of the database here: what an accepted result does
to it is `App.Assets`.
-/

namespace App.Scans

open PyText AsmSensors Transactions

/-! ## The database -/

structure Plan where
  maxConcurrentScans : Nat
  maxScansPerDay : Option Nat := none
  allowActiveScanning : Bool := true

/-- What does not change while the platform runs. -/
structure Settings (V J : Type) where
  /-- the tenant's plan -/
  plan : Nat → Option Plan
  maxConcurrentScansGlobal : Nat := 10
  stageTimeoutSeconds : Nat := 14400
  /-- built-in profiles in `INTERNAL_SLUGS` -/
  internalProfile : Nat → Bool
  transport : Transport J
  stageEnv : StageEnv V
  /-- a `bool` as a configuration value -/
  boolean : Bool → V
  capturePolicy : CapturePolicy

/-- The rows that the tasks share, the messages of the watchdog, and the time (seconds). -/
structure Db (V : Type) where
  /-- by id, in the order of creation -/
  scans : List (ScanRow V) := []
  /-- `baseline_completed_at` of the organizations -/
  baselines : Nat → Option Int := fun _ => none
  captures : List Capture := []
  /-- the `stage_failed(scan, stage, reason)` messages sent so far -/
  failures : List (Nat × Nat × Str) := []
  nextStage : Nat := 0
  clock : Int := 0

/-- What can be seen of a commit. -/
inductive Event (J : Type)
  /-- a stage became running -/
  | entered (scan stage : Nat) (position : Int)
  /-- a result was ingested for a stage -/
  | ingested (scan stage : Nat) (env : ResultEnvelope J)
  /-- a scan was finalized with this status -/
  | finalized (scan : Nat) (status : ScanStatus)
  /-- finalizing the scan set the organization's baseline -/
  | baseline (organization scan : Nat)

/-- The lock of `try_start`, and the row locks. -/
inductive Lock
  | start
  | row (scan : Nat)
deriving DecidableEq

/-! ## The sessions -/

inductive Task (V J : Type)
  | startScan (scan : Nat)
  | advanceScan (scan : Nat)
  | submitResult (sub : Submission J)
  | stageFailed (scan stage : Nat) (reason : Str)
  | watchdog
  | cancelScan (tenant scan : Nat)
  | cancelTenantScans (tenant : Nat)
  | createScan (req : CreateRequest V)

/-- Where a session stands: its task, and what it has read. -/
inductive Session (V J : Type)
  -- start_scan / try_start
  | start (scan : Nat)
  /-- holds the advisory lock; `db.refresh(scan)` is next -/
  | startRefresh (scan : Nat)
  /-- the row has been read; its stages are read by a second statement -/
  | startStages (row : ScanRow V)
  | startCheck (row : ScanRow V)
  /-- the running scans of all tenants have been counted -/
  | startCount (row : ScanRow V) (everywhere : Nat)
  | startFlush (row written : ScanRow V)
  | startWritten (row written : ScanRow V)
  -- advance_scan
  | advance (scan : Nat)
  | advanceLocked (row : ScanRow V)
  | publish (scan stage : Nat) (jobId : Str)
  | dispatchFailed (scan stage : Nat) (jobId : Str)
  | dispatchFailedLocked (row : ScanRow V) (stage : Nat) (jobId : Str)
  | markDispatched (scan stage : Nat) (jobId : Str)
  | marking (row written : ScanRow V)
  -- results.receive_result
  | submit (sub : Submission J)
  | resultLocked (sub : Submission J) (env : ResultEnvelope J) (result : SensorResult J) (stage : Nat)
      (row : ScanRow V)
  -- stage_failed and the watchdog
  | stageFailed (scan stage : Nat) (reason : Str)
  | stageFailedLocked (row : ScanRow V) (stage : Nat) (reason : Str)
  | watchdog
  -- cancel_scan and cancel_tenant_scans
  | cancelScan (tenant scan : Nat)
  | cancelScanLocked (row : ScanRow V)
  | cancelTenant (tenant : Nat) (held : List (ScanRow V))
  -- create_scan
  | create (req : CreateRequest V)
  | createBegun (req : CreateRequest V) (createdAt : Int)
  | createAdmitted (draft : Draft V)
  | createFree (draft : Draft V)
  | createAllowed (draft : Draft V)

def Task.session {V J : Type} : Task V J → Session V J
  | .startScan scan => .start scan
  | .advanceScan scan => .advance scan
  | .submitResult sub => .submit sub
  | .stageFailed scan stage reason => .stageFailed scan stage reason
  | .watchdog => .watchdog
  | .cancelScan tenant scan => .cancelScan tenant scan
  | .cancelTenantScans tenant => .cancelTenant tenant []
  | .createScan req => .create req

/-- What a statement gets from outside the rows. -/
structure Input (V : Type) where
  /-- the tenant, organization, inventory and scope as the session reads them -/
  platform : Platform V
  profile : Option (Profile V) := none
  /-- `uuid4().hex` -/
  jobId : Str := []
  /-- the broker took the job -/
  published : Bool := true
  /-- the next row that `cancel_tenant_scans` locks; `none` after the last -/
  next : Option Nat := none
  ciphertext : Str := []

variable {V J : Type}

/-! ## Reading and writing rows -/

/-- Row `i` after a flush of what a session changed of the rows it read: `(read, written)`. -/
def flushRow (ws : List (ScanRow V × ScanRow V)) (i : Nat) (current : ScanRow V) : ScanRow V :=
  match ws.find? fun rw => rw.1.id = i with
  | some (read, written) => read.writeBack written current
  | none => current

variable (d : Db V) (ws : List (ScanRow V × ScanRow V))

def Db.apply : Db V :=
  { d with scans := d.scans.mapIdx (flushRow ws) }

def Db.entered (d : Db V) (ws : List (ScanRow V × ScanRow V)) : List (Event J) := ws.flatMap fun rw =>
    match d.scans[rw.1.id]? with
    | none => []
    | some current =>
      (current.life.entered (rw.1.writeBack rw.2 current).life).map fun st =>
        .entered rw.1.id st.id st.position

def Db.commitRows (es : List (Event J))
    (next : Option (Session V J)) : Effect Lock (Db V) (Session V J) (Event J) :=
  .commit (d.apply ws) (d.entered ws ++ es) next

/-- `db.get(ScanStage, id)` in a session that holds `row`: the stage with the row it belongs to. -/
def Db.getStage (row : ScanRow V) (id : Nat) : Option (ScanRow V × ScanStage V) :=
  match row.stage? id with
  | some st => some (row, st)
  | none => d.scans.findSome? fun r => (r.stage? id).map fun st => (r, st)

/-- `running_scans`, of one tenant or of all. -/
def Db.runningScans (tenant : Option Nat) : Nat :=
  d.scans.countP fun r => r.status == .running && tenant.all fun t => r.tenantId == t

variable (S : Settings V J) (tenant : Nat)

def Settings.scanConcurrencyLimit : Nat :=
  match S.plan tenant with
  | some plan => plan.maxConcurrentScans
  | none => 2

/-- Read a scan `FOR UPDATE`, and go on with it. -/
def Db.lockScan (scan : Nat) (next : ScanRow V → Session V J) : Effect Lock (Db V) (Session V J) (Event J) :=
  match d.scans[scan]? with
  | none => .rollback
  | some row => .lock (.row scan) (next row)

/-! ## Starting -/

/-- The end of `try_start`: a slot is taken, or the scan waits. -/
def Settings.reserve (d : Db V) (row : ScanRow V) (everywhere : Nat) : ScanRow V :=
  if S.scanConcurrencyLimit row.tenantId ≤ d.runningScans (some row.tenantId) ∨
      S.maxConcurrentScansGlobal ≤ everywhere then
    { row with status := .queued }
  else { row with status := .running, startedAt := some d.clock }

/-! ## Advancing -/

/-- The end of a scan: `finalize_scan` on the row that `prepare_next_stage` left. -/
def Db.finalizeScan (read prepared : ScanRow V) : Effect Lock (Db V) (Session V J) (Event J) :=
  let ended := prepared.finalize d.clock
  let finalized := if prepared.status = .cancelled then [] else [.finalized read.id ended.status]
  if prepared.endsBaseline d.clock then
    Db.commitRows { d with baselines := Function.update d.baselines read.organizationId (some d.clock) }
      [(read, ended)] (finalized ++ [.baseline read.organizationId read.id]) none
  else d.commitRows [(read, ended)] finalized none

/-- `advance_scan` with the scan's row locked. -/
def Db.advanceScan (U : Unicode) (d : Db V) (a : Input V) (row : ScanRow V) :
    Effect Lock (Db V) (Session V J) (Event J) :=
  if row.status ≠ .running then .rollback
  else if row.stages.any fun st => st.status == .running then .rollback
  else
    match prepareNextStage U a.platform row.toScan a.jobId d.clock with
    | none => .rollback
    | some prep =>
      let prepared := { row with toScan := prep.scan }
      match prep.dispatched with
      | some (stage, job) => d.commitRows [(row, prepared)] [] (some (.publish row.id stage.id job.jobId))
      | none => d.finalizeScan row prepared

/-! ## Results -/

/-- `receive_result` up to the scan's row lock. -/
def Settings.receiveResult (d : Db V) (sub : Submission J) : Effect Lock (Db V) (Session V J) (Event J) :=
  match S.transport.openResult sub with
  | none => .rollback
  | some (env, result) =>
    match S.transport.uuid env.tenantId, S.transport.uuid env.scanId, S.transport.uuid env.stageId with
    | some tenant, some scan, some stage =>
      if result.adapter = screenshotAdapter then
        let captures := S.transport.receiveScreenshot S.capturePolicy d.captures env result d.clock
        .commit { d with captures } [] none
      else
        match d.scans[scan]? with
        | none => .rollback
        | some row =>
          -- row-level security: the session sees its tenant's scans
          if row.tenantId ≠ tenant then .rollback
          else .lock (.row scan) (.resultLocked sub env result stage row)
    | _, _, _ => .rollback

/-- `receive_result` with the row locked: the binding, then `complete_stage`. -/
def Settings.completeStage (S : Settings V J) (d : Db V) (env : ResultEnvelope J) (result : SensorResult J)
    (stage : Nat) (row : ScanRow V) : Effect Lock (Db V) (Session V J) (Event J) :=
  let found := d.getStage row stage
  match S.transport.resultBindingError (some row) (found.map fun f => (f.1.id, f.2)) env result, found with
  | none, some (owner, st) =>
    let ingested := if (ingestedResult result).isSome then [Event.ingested row.id st.id env] else []
    d.commitRows [(owner, owner.setStage (S.stageEnv.completeStage result d.clock st))] ingested none
  | _, _ => .rollback

/-! ## Failures -/

/-- `fail_stage` with the scan's row locked. -/
def Settings.failStage (S : Settings V J) (d : Db V) (row : ScanRow V) (stage : Nat) (reason : Str)
    (accepts : ScanStage V → Bool) : Effect Lock (Db V) (Session V J) (Event J) :=
  match d.getStage row stage with
  | none => .rollback
  | some (owner, st) =>
    if accepts st then
      d.commitRows [(owner, owner.setStage (S.stageEnv.failStage reason d.clock st))] [] none
    else .rollback

/-- `UNDISPATCHED_GRACE`. -/
def undispatchedGrace : Int := 600

def Settings.stuckStages (d : Db V) : List (Nat × Nat × Str) :=
  let lost := d.clock - (S.stageTimeoutSeconds + 900)
  d.scans.flatMap fun row =>
    (row.stages.filter fun st => st.status == .running && (st.startedAt.any (· < lost) ||
        (st.dispatchedAt.isNone && st.startedAt.any (· < d.clock - undispatchedGrace)))).map fun st =>
      (row.id, st.id,
        if st.dispatchedAt.isNone then "The sensor job was never dispatched".toList
        else "Sensor task failed, timed out or was lost".toList)

/-! ## Creating -/

def Db.hasActive (organization profile : Nat) : Bool :=
  d.scans.any fun r => r.organizationId == organization && r.profileId == profile && r.status.isActive

def Db.createdSince (since : Int) : Nat :=
  d.scans.countP fun r => r.tenantId == tenant && decide (since ≤ r.createdAt)

def daySeconds : Int := 86400

/-- `check_can_start_scan`. -/
def Settings.checkCanStartScan (d : Db V) (tenant : Nat) : Except CreateError Unit :=
  match (S.plan tenant).bind Plan.maxScansPerDay with
  | none => .ok ()
  | some n => if n ≤ d.createdSince tenant (d.clock - daySeconds) then .error (.quotaExceeded n) else .ok ()

def Settings.insertScan (d : Db V) (a : Input V) (draft : Draft V) :
    Effect Lock (Db V) (Session V J) (Event J) :=
  match checkSecret a.platform draft with
  | .error _ => .rollback
  | .ok _ =>
    let row := draft.newRow S.boolean d.scans.length d.nextStage a.ciphertext
    .commit { d with scans := d.scans ++ [row], nextStage := d.nextStage + row.stages.length } [] none

/-! ## The program -/

def Settings.next (U : Unicode) (S : Settings V J) (t : Session V J) (a : Input V) (d : Db V) :
    Option (Effect Lock (Db V) (Session V J) (Event J)) :=
  match t with
  | .start scan =>
    match d.scans[scan]? with
    | none => some .rollback
    | some _ => some (.lock .start (.startRefresh scan))
  | .startRefresh scan =>
    match d.scans[scan]? with
    | none => some .rollback
    | some row => some (.goOn (.startStages row))
  | .startStages row =>
    match d.scans[row.id]? with
    | none => some .rollback
    | some current =>
      if row.status = .pending ∨ row.status = .queued then
        some (.goOn (.startCheck { row with stages := current.stages }))
      else some .rollback
  | .startCheck row =>
    match inactiveReason a.platform with
    | some reason => some (.goOn (.startFlush row (row.cancel (some reason) d.clock)))
    | none => some (.goOn (.startCount row (d.runningScans none)))
  | .startCount row everywhere => some (.goOn (.startFlush row (S.reserve d row everywhere)))
  | .startFlush row written =>
    -- a scan that stays queued is not written
    if written.status = row.status then some .rollback
    else some (.lock (.row row.id) (.startWritten row written))
  | .startWritten row written => some (d.commitRows [(row, written)] [] none)
  | .advance scan => some (d.lockScan scan .advanceLocked)
  | .advanceLocked row => some (d.advanceScan U a row)
  | .publish scan stage jobId =>
    if a.published then some (.goOn (.markDispatched scan stage jobId))
    else some (.goOn (.dispatchFailed scan stage jobId))
  | .dispatchFailed scan stage jobId => some (d.lockScan scan fun row => .dispatchFailedLocked row stage jobId)
  | .dispatchFailedLocked row stage jobId =>
    some (S.failStage d row stage "The sensor job could not be dispatched".toList fun st =>
      st.taskId == some jobId)
  | .markDispatched scan stage jobId =>
    match d.scans[scan]? with
    | none => some .rollback
    | some row =>
      match row.stage? stage with
      | none => some .rollback
      | some st =>
        if st.taskId = some jobId ∧ st.dispatchedAt = none then
          some (.goOn (.marking row (row.setStage { st with dispatchedAt := some d.clock })))
        else some .rollback
  | .marking row written => some (d.commitRows [(row, written)] [] none)
  | .submit sub => some (S.receiveResult d sub)
  | .resultLocked _ env result stage row => some (S.completeStage d env result stage row)
  | .stageFailed scan stage reason =>
    -- only messages that the watchdog has sent are delivered
    if (scan, stage, reason) ∈ d.failures then
      some (d.lockScan scan fun row => .stageFailedLocked row stage reason)
    else none
  | .stageFailedLocked row stage reason => some (S.failStage d row stage reason fun _ => true)
  | .watchdog => some (.commit { d with failures := d.failures ++ S.stuckStages d } [] none)
  | .cancelScan tenant scan =>
    match d.scans[scan]? with
    | none => some .rollback
    | some row => if row.tenantId ≠ tenant then some .rollback else some (.lock (.row scan) (.cancelScanLocked row))
  | .cancelScanLocked row =>
    if row.status.isActive then some (d.commitRows [(row, row.cancel none d.clock)] [] none)
    else some .rollback
  | .cancelTenant tenant held =>
    match a.next with
    | none => some (d.commitRows (held.map fun r => (r, r.cancel (some .tenantSuspended) d.clock)) [] none)
    | some scan =>
      match d.scans[scan]? with
      | none => none
      | some row =>
        if row.tenantId = tenant ∧ row.status.isActive ∧ scan ∉ held.map fun r => r.id then
          some (.lock (.row scan) (.cancelTenant tenant (row :: held)))
        else none
  | .create req => some (.goOn (.createBegun req d.clock))
  | .createBegun req createdAt =>
    let planAllows := (S.plan req.tenantId).all Plan.allowActiveScanning
    match checkCreate U a.platform a.profile (S.internalProfile req.profileId) planAllows createdAt
        (d.baselines req.organizationId).isNone req with
    | .error _ => some .rollback
    | .ok draft => some (.goOn (.createAdmitted draft))
  | .createAdmitted draft =>
    if !S.internalProfile draft.request.profileId &&
        d.hasActive draft.request.organizationId draft.request.profileId then some .rollback
    else some (.goOn (.createFree draft))
  | .createFree draft =>
    match S.checkCanStartScan d draft.request.tenantId with
    | .error _ => some .rollback
    | .ok _ => some (.goOn (.createAllowed draft))
  | .createAllowed draft => some (S.insertScan d a draft)

def Settings.program (U : Unicode) (S : Settings V J) :
    Program Lock (Db V) (Session V J) (Task V J) (Input V) Nat (Event J) where
  enter := Task.session
  next := S.next U
  pass seconds d := { d with clock := d.clock + seconds }

end App.Scans
