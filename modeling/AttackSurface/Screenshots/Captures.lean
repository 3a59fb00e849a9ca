import AttackSurface.Run.Steps
import AttackSurface.Text.Str

/-!
# Website captures (`app/screenshots/service.py`, `app/screenshots/jobs.py`)

The rows of `screenshot_captures` and what the functions of the service do to them.
`State` is the database with what the running calls hold in their local variables, and
`State.step` one step of one call: a transaction, or the part of one up to a point where
another can come in between.  Such points are

    request_capture    after its checks, while it holds the tenant's lock
    dispatch           after `reserve`, `launch` and the publication
    receive_result     after its checks, while it holds the capture's row lock, and after
                       the first commit
    delete_organization  after the stored objects were read

Ids and task ids are uuids: the next number, and a number that is drawn for the capture.
Times are in seconds.  Columns that no function here reads (`error`, `finished_at`, the
page's own) are left out.
-/

namespace App.Screenshots

open PyText

/-! ## Policy -/

/-- `DEFAULT_POLICY`. -/
structure Policy where
  available : Bool := false
  maxConcurrent : Nat := 1
  perTenantDaily : Nat := 50
  perTenantQueued : Nat := 10
  retentionPerEndpoint : Nat := 2
  storageQuotaMb : Nat := 200
  failedRetentionDays : Nat := 30
  timeoutSeconds : Nat := 20
  viewportWidth : Nat := 1280
  viewportHeight : Nat := 800
  maxImageKb : Nat := 2048
deriving DecidableEq

def dispatchGrace : Int := 600
def startWindow : Int := 600
def jobHardLimitGrace : Nat := 300

variable (pol : Policy)

/-- `job_timeout`. -/
def jobTimeout : Nat := max 60 (pol.timeoutSeconds * 3 + 60)

/-- `slot_hold`. -/
def slotHold : Int := startWindow + ↑(jobTimeout pol + jobHardLimitGrace + 60)

def Policy.quota : Nat := pol.storageQuotaMb * 1024 * 1024

/-! ## Rows -/

/-- `ScreenshotStatus`. -/
inductive CaptureStatus
  | queued
  | running
  | succeeded
  | failed
  | blocked
  | cancelled
deriving DecidableEq, Repr

/-- `ACTIVE_SCREENSHOT_STATES`. -/
def CaptureStatus.isActive : CaptureStatus → Bool
  | .queued | .running => true
  | _ => false

structure Capture where
  id : Nat
  tenantId : Nat
  organizationId : Nat
  assetId : Nat
  createdAt : Int
  status : CaptureStatus := .queued
  taskId : Option Nat := none
  workerPool : Option Str := none
  startedAt : Option Int := none
  dispatchedAt : Option Int := none
  slotUntil : Option Int := none
  capturedAt : Option Int := none
  /-- `storage_key` is set -/
  stored : Bool := false
  size : Option Nat := none
deriving DecidableEq

/-- `screenshot_usage`. -/
structure Counter where
  tenantId : Nat
  day : Int
  requested : Nat
deriving DecidableEq

/-- `storage_deletions`; the object is that of a capture. -/
structure Deletion where
  tenantId : Nat
  captureId : Nat
  size : Nat
deriving DecidableEq

def dayOf (t : Int) : Int := t / 86400

variable (t : Nat)

def storedSize (captures : List Capture) : Nat :=
  ((captures.filter fun c => decide (c.tenantId = t) && c.stored).map fun c => c.size.getD 0).sum

def pendingSize (deletions : List Deletion) : Nat :=
  ((deletions.filter fun d => decide (d.tenantId = t)).map Deletion.size).sum

def counted (counters : List Counter) (t : Nat) (day : Int) : Nat :=
  ((counters.find? fun u => decide (u.tenantId = t ∧ u.day = day)).map Counter.requested).getD 0

/-- `_count_request`, an upsert on `(tenant_id, day)`. -/
def countRequest (day delta : Int) (counters : List Counter) : List Counter :=
  if counters.any fun u => decide (u.tenantId = t ∧ u.day = day) then
    counters.map fun u =>
      if u.tenantId = t ∧ u.day = day then { u with requested := (u.requested + delta).toNat } else u
  else counters ++ [⟨t, day, delta.toNat⟩]

/-! ## Slots and jobs -/

variable (now : Int)

/-- `_occupied`. -/
def occupied (c : Capture) : Bool :=
  decide (c.status = .running) || c.slotUntil.any fun u => decide (now < u)

/-- The query of `_watchdog`. -/
def overdue (c : Capture) : Bool :=
  decide (c.status = .running) &&
    ((c.dispatchedAt.isNone && c.startedAt.any fun t => decide (t < now - dispatchGrace)) ||
      (c.slotUntil.any fun u => decide (u < now)) ||
      (c.slotUntil.isNone && c.startedAt.any fun t => decide (t < now - slotHold pol)))

variable (skipped : List Nat)

/-- What `_watchdog` writes; rows that are locked by others are skipped. -/
def watch (c : Capture) : Capture :=
  if overdue pol now c && !decide (c.id ∈ skipped) then { c with status := .failed } else c

/-- `_watchdog`. -/
def watchdog (captures : List Capture) : List Capture :=
  captures.map (watch pol now skipped)

/-- The queued captures that `reserve` reads, oldest first. -/
def candidates (free : Nat) (captures : List Capture) : List Capture :=
  ((captures.filter fun c => decide (c.status = .queued ∧ c.id ∉ skipped)).insertionSort
    fun a b => a.createdAt ≤ b.createdAt).take (free * 5)

variable (captures : List Capture)

def firstOfTenants : List Capture := captures.foldl (fun picked c =>
    if picked.any fun p => decide (p.tenantId = c.tenantId) then picked else picked ++ [c]) []

def pickOrder : List Capture :=
  firstOfTenants captures ++ captures.filter fun c => !decide (c ∈ firstOfTenants captures)

structure Job where
  jobId : Nat
  captureId : Nat
  timeoutSeconds : Nat
  notAfter : Int
deriving DecidableEq

/-- When a scanner that honours `not_after` and the hard limit has ended the job. -/
def Job.endsBy (j : Job) : Int := j.notAfter + ↑(j.timeoutSeconds + jobHardLimitGrace)

/-- `_finish`. -/
def Capture.finish (status : CaptureStatus) (c : Capture) : Capture :=
  { c with status := status, slotUntil := if status = .cancelled then c.slotUntil else none }

variable (c : Capture)

def Capture.cancel : Capture := { c with status := .cancelled }

/-- What `reserve` writes. -/
def Capture.reserve (task : Nat) (pol : Policy) (now : Int) (c : Capture) : Capture :=
  { c with
    status := .running, startedAt := some now, taskId := some task, slotUntil := some (now + slotHold pol) }

def Capture.toPool (pool : Str) (c : Capture) : Capture := { c with workerPool := some pool }

/-- What `mark_dispatched` writes. -/
def Capture.mark (job : Nat) (ok : Bool) (now : Int) (c : Capture) : Capture :=
  if c.taskId ≠ some job ∨ c.status ≠ .running then c
  else if ok then { c with dispatchedAt := some now }
  else c.finish .failed

def Capture.freeSlot : Capture := { c with slotUntil := none }

/-- What `receive_result` writes with the image. -/
def Capture.succeed (size : Nat) (capturedAt : Int) (c : Capture) : Capture :=
  { c.finish .succeeded with stored := true, size := some size, capturedAt := some capturedAt }

/-! ## Results -/

structure Envelope where
  tenantId : Nat
  scanId : Nat
  stageId : Nat
  jobId : Nat
  pool : Str

/-- What `_decode` reads of an image. -/
structure Image where
  /-- the length of the decoded data -/
  length : Option Nat
  size : Nat
  checksumMatches : Bool
  /-- `png_dimensions` -/
  dimensions : Option (Nat × Nat)
  capturedAt : Int

structure CaptureResult where
  adapter : Str := "screenshot".toList
  completed : Bool := true
  /-- the scanner's egress policy refused the page -/
  egressBlocked : Bool := false
  screenshots : List Image := []

def defaultPool : Str := "default".toList

/-- `binding_error`. -/
def bindingError (env : Envelope) (result : CaptureResult) : Bool :=
  decide (c.tenantId ≠ env.tenantId ∨ env.scanId ≠ c.id ∨ env.stageId ≠ c.id) ||
    decide (result.adapter ≠ "screenshot".toList) || decide (c.taskId ≠ some env.jobId) ||
    decide (c.workerPool.getD defaultPool ≠ env.pool) || decide (c.status ≠ .running)

/-- `_decode`: the length of the image, if it is valid. -/
def decode (img : Image) : Option Nat :=
  match img.length, img.dimensions with
  | some n, some (width, height) =>
    if n = img.size ∧ n ≤ pol.maxImageKb * 1024 ∧ img.checksumMatches = true ∧
        width ≤ pol.viewportWidth * 2 ∧ height ≤ pol.viewportHeight * 2 then some n
    else none
  | _, _ => none

def olderCaptures (captures : List Capture) : List Capture :=
  (captures.filter fun o => decide (o.assetId = c.assetId ∧ o.status = .succeeded ∧ o.id ≠ c.id)).insertionSort
    fun a b => b.capturedAt.getD 0 ≤ a.capturedAt.getD 0

def droppedCaptures (keep : Nat) (older : List Capture) : List Capture :=
  if 1 ≤ keep then older.drop (keep - 1) else older

/-! ## Retention -/

/-- The captures of one endpoint beyond the newest `keep`. -/
def surplus (keep t asset : Nat) (captures : List Capture) : List Capture :=
  ((captures.filter fun c => decide (c.tenantId = t ∧ c.assetId = asset ∧ c.status = .succeeded)).insertionSort
    fun a b => b.capturedAt.getD 0 ≤ a.capturedAt.getD 0).drop keep

/-- The captures that `apply_retention` deletes. -/
def expiredCaptures (captures : List Capture) : List Capture :=
  ((captures.map Capture.assetId).dedup.flatMap fun asset => surplus pol.retentionPerEndpoint t asset captures) ++
    captures.filter fun c => decide (c.tenantId = t ∧ c.createdAt < now - pol.failedRetentionDays * 86400 ∧
      (c.status = .failed ∨ c.status = .blocked ∨ c.status = .cancelled))

/-- `_delete` of some captures: the record goes unless its object cannot be deleted. -/
def deleteRows (ids failing : List Nat) (captures : List Capture) : List Capture :=
  captures.filter fun c => !(decide (c.id ∈ ids) && !(c.stored && decide (c.id ∈ failing)))

/-- `purge_pending_deletions`, of the first `500` of a tenant. -/
def purge (failing : List Nat) (deletions : List Deletion) : List Deletion :=
  let batch := (deletions.filter fun d => decide (d.tenantId = t)).take 500
  deletions.filter fun d => !(decide (d ∈ batch) && !decide (d.captureId ∈ failing))

end App.Screenshots
