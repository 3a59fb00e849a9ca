import AttackSurface.Scans.Orchestrator
import AttackSurface.Sensors.Observations
import AttackSurface.Store.Transactions

/-!
# The life of a scan (`app/scans/orchestrator.py`)

What the orchestrator does to a scan and its stages after `prepare_next_stage`: cancelling,
completing or failing a stage, finalizing.  A session works on the row it read and writes
back the columns it changed (`ScanRow.writeBack`), so a write can meet a row that has
changed since.

`Life` is what a scan is for: a status, and stages that go from pending through running to
an end.  `Life.Step` are the steps such a scan can take; `Scans.Commits` and
`Scans.Assertions` show that every commit is one of them.
-/

namespace App.Scans

open PyText AsmSensors Transactions

/-- A row of `scans` with its stages. -/
structure ScanRow (V : Type) extends Scan V where
  organizationId : Nat
  profileId : Nat
  isBaseline : Bool := false
  createdAt : Int := 0
  startedAt : Option Int := none

/-- `ACTIVE_SCAN_STATES`. -/
def ScanStatus.isActive : ScanStatus → Bool
  | .pending | .queued | .running => true
  | _ => false

/-- `_DONE`. -/
def StageStatus.isDone : StageStatus → Bool
  | .pending | .running => false
  | _ => true

/-- `worker_pool or "default"`. -/
def ScanStage.pool {V : Type} (st : ScanStage V) : Str :=
  match st.workerPool with
  | some (c :: s) => c :: s
  | _ => "default".toList

def ScanRow.stage? {V : Type} (row : ScanRow V) (id : Nat) : Option (ScanStage V) :=
  row.stages.find? fun st => st.id = id

def ScanRow.setStage {V : Type} (row : ScanRow V) (st : ScanStage V) : ScanRow V :=
  { row with toScan := row.toScan.setStage st }

/-! ## Cancelling -/

def ScanStage.cancel {V : Type} (now : Int) (st : ScanStage V) : ScanStage V :=
  if st.status = .pending ∨ st.status = .running then
    { st with status := .cancelled, finishedAt := some now }
  else st

/-- `_cancel`, with or without a reason. -/
def ScanRow.cancel {V : Type} (row : ScanRow V) (reason : Option InactiveReason) (now : Int) : ScanRow V :=
  { row with
    stages := row.stages.map (ScanStage.cancel now)
    status := .cancelled
    finishedAt := some now
    authSecretEncrypted := none
    error := if reason.isSome then reason else row.error }

/-! ## The end of a stage -/

/-- The texts of `app/scans/messages.py` and the adapters' display names. -/
structure Messages where
  friendly : List Str → Str → Option Str
  labelFor : Str → Str

/-- What the result handler needs from outside the rows. -/
structure StageEnv (V : Type) where
  messages : Messages
  /-- `bool(v)` of a configuration value -/
  truthy : V → Bool

variable {V J : Type} (env : StageEnv V) (st : ScanStage V)

/-- `stage.config.get("_optional")`. -/
def StageEnv.optional : Bool :=
  (st.config.lookup "_optional".toList).any env.truthy

/-- `fail_stage`. -/
def StageEnv.failStage (error : Str) (now : Int) (st : ScanStage V) : ScanStage V :=
  if st.status ≠ .running then st
  else
    { st with
      status := if env.optional st then .skipped else .failed
      error := some (error.take 4000)
      finishedAt := some now }

/-- `friendly(…) or f"{capability} did not finish successfully."` -/
def Messages.failure (m : Messages) (errors : List Str) (capability : Str) : Str :=
  match m.friendly errors capability with
  | some (c :: s) => c :: s
  | _ => capability ++ " did not finish successfully.".toList

/-- What `complete_stage` writes into the stage. -/
def StageEnv.completeStage (result : SensorResult J) (now : Int) (st : ScanStage V) : ScanStage V :=
  let capability := env.messages.labelFor st.engine
  if result.status = .failed then
    { st with
      status := if env.optional st then .skipped else .failed
      finishedAt := some now
      error := some (env.messages.failure result.errors capability) }
  else
    { st with
      status := if result.status = .completed then .completed else .partially
      finishedAt := some now
      error := if result.errors = [] then st.error else env.messages.friendly result.errors capability }

/-- The result that `complete_stage` hands to the ingestor: a failed run adds nothing, and only a
completed one may vouch for absence. -/
def ingestedResult (result : SensorResult J) : Option (SensorResult J) :=
  if result.status = .failed then none
  else if result.status ≠ .completed then some { result with coverage := [] }
  else some result

/-! ## The end of a scan -/

def succeeded (st : StageStatus) : Bool := st == .completed || st == .partially

/-- The status that `finalize_scan` computes from those of the stages. -/
def finalStatus (stages : List StageStatus) : ScanStatus :=
  let failed := stages.any (· == .failed)
  if !stages.any succeeded && failed then .failed
  else if failed || stages.any (· == .partially) then .partially
  else .completed

/-- `finalize_scan`. -/
def ScanRow.finalize (row : ScanRow V) (now : Int) : ScanRow V :=
  if row.status = .cancelled then row
  else
    { row with
      status := finalStatus (row.stages.map ScanStage.status)
      finishedAt := some now
      authSecretEncrypted := none }

/-- `finalize_scan` sets the organization's `baseline_completed_at`. -/
def ScanRow.endsBaseline (row : ScanRow V) (now : Int) : Bool := row.status != .cancelled && row.isBaseline &&
    ((row.finalize now).status == .completed || (row.finalize now).status == .partially)

/-! ## Writing back -/

def ScanStage.writeBack (read written current : ScanStage V) : ScanStage V :=
  { current with
    status := Transactions.writeBack read.status written.status current.status
    targetCount := Transactions.writeBack read.targetCount written.targetCount current.targetCount
    rejectedCount := Transactions.writeBack read.rejectedCount written.rejectedCount current.rejectedCount
    isActive := Transactions.writeBack read.isActive written.isActive current.isActive
    error := Transactions.writeBack read.error written.error current.error
    taskId := Transactions.writeBack read.taskId written.taskId current.taskId
    workerPool := Transactions.writeBack read.workerPool written.workerPool current.workerPool
    startedAt := Transactions.writeBack read.startedAt written.startedAt current.startedAt
    dispatchedAt := Transactions.writeBack read.dispatchedAt written.dispatchedAt current.dispatchedAt
    finishedAt := Transactions.writeBack read.finishedAt written.finishedAt current.finishedAt }

def writeBackStages : List (ScanStage V) → List (ScanStage V) → List (ScanStage V) → List (ScanStage V)
  | r :: rs, w :: ws, c :: cs => r.writeBack w c :: writeBackStages rs ws cs
  | _, _, cs => cs

/-- The row after a session that read `read` and made it `written` has flushed its changes. -/
def ScanRow.writeBack (read written current : ScanRow V) : ScanRow V :=
  { current with
    status := Transactions.writeBack read.status written.status current.status
    stages := writeBackStages read.stages written.stages current.stages
    authSecretEncrypted := Transactions.writeBack read.authSecretEncrypted written.authSecretEncrypted
      current.authSecretEncrypted
    error := Transactions.writeBack read.error written.error current.error
    finishedAt := Transactions.writeBack read.finishedAt written.finishedAt current.finishedAt
    startedAt := Transactions.writeBack read.startedAt written.startedAt current.startedAt }

def ScanStage.fixed : ScanStage V :=
  { st with
    status := .pending, targetCount := 0, rejectedCount := 0, isActive := false, error := none
    taskId := none, workerPool := none, startedAt := none, dispatchedAt := none, finishedAt := none }

def ScanRow.fixed (row : ScanRow V) : ScanRow V :=
  { row with
    status := .pending, stages := row.stages.map ScanStage.fixed, authSecretEncrypted := none
    error := none, finishedAt := none, startedAt := none }

/-- The row without `dispatched_at`, the one column that is written without the scan's row lock. -/
def ScanStage.erase : ScanStage V := { st with dispatchedAt := none }

def ScanRow.erase (row : ScanRow V) : ScanRow V := { row with stages := row.stages.map ScanStage.erase }

section WriteBack

variable {r w c : ScanStage V} {rs ws cs : List (ScanStage V)}

lemma ScanStage.writeBack_of_erase (hw : w.erase = r.erase) : (r.writeBack w c).erase = c.erase := by
  simp only [ScanStage.erase, ScanStage.mk.injEq] at hw
  simp only [ScanStage.erase, ScanStage.writeBack, ScanStage.mk.injEq]
  simp [hw, writeBack_unchanged]

lemma writeBackStages_of_erase (hw : ws.map ScanStage.erase = rs.map ScanStage.erase) :
    (writeBackStages rs ws cs).map ScanStage.erase = cs.map ScanStage.erase := by
  fun_induction writeBackStages rs ws cs with
  | case1 r rs w ws c cs ih =>
    simp only [List.map_cons, List.cons.injEq] at hw ⊢
    exact ⟨ScanStage.writeBack_of_erase hw.1, ih hw.2⟩
  | case2 => rfl

lemma writeBackStages_fixed : (writeBackStages rs ws cs).map ScanStage.fixed = cs.map ScanStage.fixed := by
  fun_induction writeBackStages rs ws cs with
  | case1 r rs w ws c cs ih => exact congrArg (c.fixed :: ·) ih
  | case2 => rfl

variable {read written current : ScanRow V}

/-- A session that changed no other column than `dispatched_at` leaves the rest alone. -/
lemma ScanRow.writeBack_of_erase (hw : written.erase = read.erase) :
    (read.writeBack written current).erase = current.erase := by
  simp only [ScanRow.erase, ScanRow.mk.injEq, Scan.mk.injEq] at hw
  simp only [ScanRow.erase, ScanRow.writeBack, ScanRow.mk.injEq, Scan.mk.injEq]
  rw [writeBackStages_of_erase hw.1.2.2.2.2.1]
  simp [hw, writeBack_unchanged]

@[simp] lemma ScanRow.writeBack_fixed : (read.writeBack written current).fixed = current.fixed := by
  simp [ScanRow.fixed, ScanRow.writeBack, writeBackStages_fixed]

end WriteBack

end App.Scans
