import AttackSurface.Scans.Lifecycle

/-!
# Submitted results (`asm_sensors/jobs.py`, `app/workers/results.py`)

A sensor worker puts its result on its pool's queue in an envelope with a MAC under the
pool's key.  `openResult` authenticates the envelope with the key of the pool it names;
`resultBindingError` says why it does not answer the job persisted for its stage.  A result
of the screenshot adapter is bound to a capture record instead (`app/screenshots/service.py`).
-/

namespace App.Scans

open PyText AsmSensors

/-! ## Authentication -/

/-- The fields of an envelope that the MAC is over; `result` is a JSON object. -/
structure Signed (J : Type) where
  jobId : Str
  tenantId : Str
  scanId : Str
  stageId : Str
  pool : Str
  result : J

/-- `ResultEnvelope`. -/
structure ResultEnvelope (J : Type) extends Signed J where
  mac : Str

/-- One message on a result queue. -/
structure Submission (J : Type) where
  /-- `none` when it is not an object with exactly the fields of an envelope -/
  envelope : Option (ResultEnvelope J)
  /-- the pools whose keys its maker held -/
  keys : List Str

/-- What the consumer computes with libraries. -/
structure Transport (J : Type) where
  /-- `_mac` with the key of the pool that the envelope names -/
  mac : Signed J → Str
  /-- `SensorResult.model_validate` -/
  sensorResult : J → Option (SensorResult J)
  /-- `uuid.UUID(s)` -/
  uuid : Str → Option Nat
  /-- `str(id)` -/
  uuidText : Nat → Str

/-- `[a-z0-9]`. -/
def isPoolChar (c : Char) : Bool := ('a' ≤ c && c ≤ 'z') || ('0' ≤ c && c ≤ '9')

/-- `validate_pool`: `^[a-z0-9](?:[a-z0-9-]{0,62})$`, where `$` may stand before a last newline. -/
def validPool (pool : Str) : Bool :=
  match if pool.getLast? = some '\n' then pool.dropLast else pool with
  | [] => false
  | c :: s => isPoolChar c && decide (s.length ≤ 62) && s.all fun d => isPoolChar d || d == '-'

def ResultEnvelope.valid {J : Type} (env : ResultEnvelope J) : Bool :=
  decide (1 ≤ env.jobId.length) && decide (env.jobId.length ≤ 64) && decide (env.tenantId.length ≤ 64) &&
    decide (env.scanId.length ≤ 64) && decide (env.stageId.length ≤ 64) && decide (env.mac.length ≤ 128)

variable {V J : Type} (t : Transport J)

/-- `open_result`. -/
def Transport.openResult (sub : Submission J) : Option (ResultEnvelope J × SensorResult J) :=
  match sub.envelope with
  | none => none
  | some env =>
    if !env.valid || !validPool env.pool then none
    else if t.mac env.toSigned ≠ env.mac then none
    else (t.sensorResult env.result).map fun result => (env, result)

def Transport.Genuine (sub : Submission J) : Prop :=
  ∀ env, sub.envelope = some env → t.mac env.toSigned = env.mac → env.pool ∈ sub.keys

variable {result : SensorResult J}

lemma Transport.openResult_spec {t : Transport J} {sub : Submission J} {env : ResultEnvelope J}
    (h : t.openResult sub = some (env, result)) :
    sub.envelope = some env ∧ t.mac env.toSigned = env.mac := by
  unfold Transport.openResult at h
  split at h
  · cases h
  next env' henv =>
  split at h
  · cases h
  split at h
  · cases h
  next hmac =>
  obtain ⟨result', -, heq⟩ := Option.map_eq_some_iff.1 h
  cases heq
  exact ⟨henv, not_not.1 hmac⟩

/-! ## The binding to a stage -/

/-- Why a result does not answer the job dispatched for a stage. -/
inductive BindingError
  | noSuchStage
  | jobMismatch
  | poolMismatch (submitted : Str) (dispatched : Option Str)
  | engineMismatch (result stage : Str)
  | stale (stage : StageStatus) (scan : ScanStatus)
deriving DecidableEq, Repr

/-- `result_binding_error`; the stage comes with its `scan_id`. -/
def Transport.resultBindingError (scan : Option (ScanRow V))
    (stage : Option (Nat × ScanStage V)) (env : ResultEnvelope J) (result : SensorResult J) :
    Option BindingError :=
  match scan, stage with
  | some scan, some (scanId, stage) =>
    if scanId ≠ scan.id ∨ t.uuidText scan.tenantId ≠ env.tenantId then some .noSuchStage
    else if stage.taskId = none ∨ stage.taskId = some [] ∨ stage.taskId ≠ some env.jobId then
      some .jobMismatch
    else if stage.pool ≠ env.pool then some (.poolMismatch env.pool stage.workerPool)
    else if result.adapter ≠ stage.engine then some (.engineMismatch result.adapter stage.engine)
    else if stage.status ≠ .running ∨ scan.status ≠ .running then some (.stale stage.status scan.status)
    else none
  | _, _ => some .noSuchStage

/-- The result answers the job persisted for the stage. -/
structure Bound (t : Transport J) (scan : ScanRow V) (stage : ScanStage V) (env : ResultEnvelope J)
    (result : SensorResult J) : Prop where
  tenant : t.uuidText scan.tenantId = env.tenantId
  job : stage.taskId = some env.jobId
  pool : stage.pool = env.pool
  engine : result.adapter = stage.engine
  stageRunning : stage.status = .running
  scanRunning : scan.status = .running

lemma Transport.resultBindingError_eq_none {t : Transport J} {scan : Option (ScanRow V)}
    {stage : Option (Nat × ScanStage V)} {env : ResultEnvelope J}
    (h : t.resultBindingError scan stage env result = none) :
    ∃ row st, scan = some row ∧ stage = some (row.id, st) ∧ Bound t row st env result := by
  unfold Transport.resultBindingError at h
  split at h
  · next row sid st =>
    split at h
    · cases h
    next h1 =>
    split at h
    · cases h
    next h2 =>
    split at h
    · cases h
    next h3 =>
    split at h
    · cases h
    next h4 =>
    split at h
    · cases h
    next h5 =>
    simp only [not_or, not_not] at h1 h2 h3 h4 h5
    exact ⟨row, st, rfl, by rw [h1.1], h1.2, h2.2.2, h3, h4, h5.1, h5.2⟩
  · cases h

/-! ## The binding to a capture -/

/-- `ADAPTER` of the screenshot service. -/
def screenshotAdapter : Str := "screenshot".toList

inductive ScreenshotStatus
  | queued
  | running
  | succeeded
  | failed
  | blocked
  | cancelled
deriving DecidableEq, Repr

/-- A row of `screenshot_captures`. -/
structure Capture where
  id : Nat
  tenantId : Nat
  assetId : Nat
  status : ScreenshotStatus
  taskId : Option Str := none
  workerPool : Option Str := none
  slotUntil : Option Int := none
  finishedAt : Option Int := none
  capturedAt : Option Int := none
  size : Nat := 0
deriving DecidableEq

/-- The capture policy, and what is done with an image outside the database. -/
structure CapturePolicy where
  retentionPerEndpoint : Nat
  /-- bytes -/
  storageQuota : Nat
  /-- `_decode`: the size of an image that passes its checks -/
  decode : ScreenshotImage → Option Nat
  /-- the run was refused by the egress policy -/
  egressBlocked : List Str → Bool

variable (c : Capture)

def Capture.pool : Str :=
  match c.workerPool with
  | some (d :: s) => d :: s
  | _ => "default".toList

/-- `_finish`. -/
def Capture.finish (status : ScreenshotStatus) (now : Int) : Capture :=
  { c with
    status
    finishedAt := some now
    slotUntil := if status ≠ .cancelled then none else c.slotUntil }

/-- `binding_error(…) is None`. -/
def Transport.capturesBound (env : ResultEnvelope J) (result : SensorResult J) : Bool :=
  t.uuidText c.tenantId == env.tenantId && env.scanId == t.uuidText c.id && env.stageId == t.uuidText c.id &&
    result.adapter == screenshotAdapter && c.taskId != some [] && c.taskId == some env.jobId &&
    c.pool == env.pool && c.status == .running

def setCapture (captures : List Capture) (c : Capture) : List Capture :=
  captures.map fun x => if x.id = c.id then c else x

/-- The older captures of the endpoint that make room for a new one, newest first. -/
def dropped (policy : CapturePolicy) (captures : List Capture) (c : Capture) : List Capture :=
  let older := (captures.filter fun x =>
    decide (x.tenantId = c.tenantId) && decide (x.assetId = c.assetId) && x.status == .succeeded &&
      decide (x.id ≠ c.id)).insertionSort fun a b => b.capturedAt.getD 0 ≤ a.capturedAt.getD 0
  older.drop (policy.retentionPerEndpoint - 1)

/-- `app.screenshots.service.receive_result`, in the tenant's session. -/
def Transport.receiveScreenshot (policy : CapturePolicy) (captures : List Capture)
    (env : ResultEnvelope J) (result : SensorResult J) (now : Int) : List Capture :=
  match t.uuid env.tenantId, t.uuid env.stageId with
  | some tenantId, some captureId =>
    match captures.find? fun c => c.id = captureId ∧ c.tenantId = tenantId with
    | none => captures
    | some c =>
      if !t.capturesBound c env result then
        if c.slotUntil.isSome ∧ c.taskId = some env.jobId ∧ c.pool = env.pool then
          setCapture captures { c with slotUntil := none }
        else captures
      else
        match result.status, result.screenshots with
        | .completed, img :: _ =>
          match policy.decode img with
          | none => setCapture captures (c.finish .failed now)
          | some size =>
            let drop := dropped policy captures c
            let stored := ((captures.filter fun x => x.tenantId = tenantId).map Capture.size).sum
            if policy.storageQuota < stored - (drop.map Capture.size).sum + size then
              setCapture captures (c.finish .failed now)
            else
              setCapture (captures.filter fun x => decide (x ∉ drop))
                { c.finish .succeeded now with size, capturedAt := some img.capturedAt }
        | _, _ =>
          setCapture captures
            (c.finish (if policy.egressBlocked result.errors then .blocked else .failed) now)
  | _, _ => captures

end App.Scans
