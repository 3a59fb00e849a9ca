import AttackSurface.Scans.Lifecycle

/-!
# Creating a scan (`create_scan` of `app/scans/orchestrator.py`)

The checks that read the organization, the profile, the scope and the request, and the row
that is inserted.  The two checks against other scans (an active scan of the same profile,
the plan's scans per day) read the database again and stand in `Scans.Sessions`.
-/

namespace App.Scans

open PyText AsmSensors App.Scope

inductive CreateError
  | organizationNotFound
  | profileNotFound
  | noEnabledStages
  | noScope
  | planWithoutActiveScanning
  | noActiveScope
  | invalidTarget (raw : Str)
  | outsideScope (raw reason : Str)
  | alreadyActive
  | quotaExceeded (maxScansPerDay : Nat)
  | multilineSecret
  | unusedSecret
  /-- an exception that is no answer to the request (a malformed entry, an unknown engine) -/
  | raised
deriving DecidableEq, Repr

/-- `parse_target`: one line of "limit to specific targets". -/
def parseTarget (U : Unicode) (raw : Str) : Option (Target U) :=
  let value := U.lower (strip raw)
  if value = [] then none
  else if contains "://".toList value then (Target.make U .url value).toOption
  else [TargetKind.ip, .hostPort, .cidr, .hostname].findSome? fun kind => (Target.make U kind value).toOption

structure StageSpec (V : Type) where
  stage : StageType
  engine : Str
  config : Config V := []
  enabled : Bool := true
  active : Bool := false
  optional : Bool := false

structure Profile (V : Type) where
  tenantId : Option Nat
  stages : List (StageSpec V)
  retainRawOutput : Bool := false

structure CreateRequest (V : Type) where
  tenantId : Nat
  organizationId : Nat
  profileId : Nat
  /-- the stages of a Threat Center check, already validated -/
  stages : Option (List (StageSpec V)) := none
  targetOverride : List Str := []
  authSecret : Str := []
  authHeaderName : Str := "Cookie".toList

/-- A request that has passed the checks, to be inserted. -/
structure Draft (V : Type) where
  request : CreateRequest V
  /-- the start of the transaction -/
  createdAt : Int
  isBaseline : Bool
  stages : List (StageSpec V)
  targetOverride : List Str
  retainRawOutput : Bool

variable {U : Unicode} {V : Type}

/-- The loop over `target_override`. -/
def checkOverride (U : Unicode) (checker : ScopeChecker) : List Str → Except CreateError (List Str)
  | [] => .ok []
  | raw :: rest =>
    match parseTarget U raw with
    | none => .error (.invalidTarget raw)
    | some t =>
      match checker.check t false noMap with
      | none => .error .raised
      | some d =>
        if !d.allowed then .error (.outsideScope raw d.reason)
        else
          match checkOverride U checker rest with
          | .error e => .error e
          | .ok ts => .ok (t.value :: ts)

/-- The plan lets the stages scan actively, and so does some entry of the scope. -/
def checkActive (checker : ScopeChecker) (planAllows : Bool) (stages : List (StageSpec V)) :
    Except CreateError Unit :=
  if !stages.any StageSpec.active then .ok ()
  else if !planAllows then .error .planWithoutActiveScanning
  else if !checker.rules.any fun r => r.allowActiveScanning && !r.isExclusion then .error .noActiveScope
  else .ok ()

/-- The checks of `create_scan` before it looks at other scans. -/
def checkCreate (U : Unicode) (p : Platform V) (profile : Option (Profile V)) (internal planAllows : Bool)
    (createdAt : Int) (isBaseline : Bool) (req : CreateRequest V) : Except CreateError (Draft V) :=
  if p.organizationActive ≠ some true then .error .organizationNotFound
  else
    match profile with
    | none => .error .profileNotFound
    | some profile =>
      if profile.tenantId ≠ none ∧ profile.tenantId ≠ some req.tenantId then .error .profileNotFound
      else if internal ≠ req.stages.isSome then .error .profileNotFound
      else
        let stages := (req.stages.getD profile.stages).filter StageSpec.enabled
        if stages = [] then .error .noEnabledStages
        else
          match loadChecker p with
          | none => .error .raised
          | some checker =>
            if !checker.rules.any fun r => !r.isExclusion then .error .noScope
            else
              match checkActive checker planAllows stages, checkOverride U checker req.targetOverride with
              | .error e, _ => .error e
              | _, .error e => .error e
              | .ok _, .ok targetOverride =>
                .ok ⟨req, createdAt, isBaseline, stages, targetOverride, profile.retainRawOutput⟩

def checkSecret (p : Platform V) (draft : Draft V) : Except CreateError Unit :=
  let secret := draft.request.authSecret
  if secret = [] then .ok ()
  else if secret.any fun c => c == '\r' || c == '\n' then .error .multilineSecret
  else if draft.stages.any fun s => (p.getAdapter s.engine).isNone then .error .raised
  else if !draft.stages.any fun s => (p.getAdapter s.engine).any fun a => decide (authProvider ∈ a.credentialProviders)
  then .error .unusedSecret
  else .ok ()

def Draft.newStages (draft : Draft V) (boolean : Bool → V) (firstId : Nat) : List (ScanStage V) :=
  draft.stages.mapIdx fun i s =>
    { id := firstId + i
      position := i
      stageType := s.stage
      engine := s.engine
      config := setKey s.config "_optional".toList (boolean s.optional)
      isActive := s.active }

/-- The row that is inserted; `ciphertext` is the encrypted sign-in value. -/
def Draft.newRow (draft : Draft V) (boolean : Bool → V) (id firstStage : Nat) (ciphertext : Str) : ScanRow V where
  id := id
  tenantId := draft.request.tenantId
  status := .pending
  targetOverride := draft.targetOverride
  stages := draft.newStages boolean firstStage
  authSecretEncrypted := if draft.request.authSecret = [] then none else some ciphertext
  authHeaderName := if draft.request.authSecret = [] then none else some draft.request.authHeaderName
  retainRawOutput := draft.retainRawOutput
  organizationId := draft.request.organizationId
  profileId := draft.request.profileId
  isBaseline := draft.isBaseline
  createdAt := draft.createdAt

end App.Scans
