import AttackSurface.Scans.Inventory

/-!
# What a sensor reports (`asm_sensors/observations.py`)

A result holds observations (assets, relations, findings) and coverage: the parts of the
known state the run was authoritative for.  Attribute values are of a type `J` (JSON).
-/

namespace AsmSensors

open PyText App.Scans

/-- Asset types a sensor may report; the platform classifies host names. -/
inductive ObservedType
  | hostname
  | ipAddress
  | cidr
  | asn
  | dnsRecord
  | certificate
  | port
  | service
  | httpEndpoint
  | webApplication
  | technology
  | cloudResource
deriving DecidableEq, Repr

inductive Severity
  | info
  | low
  | medium
  | high
  | critical
deriving DecidableEq, Repr

/-- A `dict[str, Any]` of a sensor. -/
abbrev Attributes (J : Type) := List (Str × J)

structure AssetRef where
  type : ObservedType
  value : Str
deriving DecidableEq

structure AssetObservation (J : Type) where
  type : ObservedType
  value : Str
  attributes : Attributes J := []
  confidence : Nat := 80

structure RelationObservation (J : Type) where
  source : AssetRef
  target : AssetRef
  relation : RelationType
  attributes : Attributes J := []

structure FindingObservation where
  asset : AssetRef
  ruleId : Str
  title : Str
  severity : Severity := .info
  tags : List Str := []
  location : Option Str := none

inductive Observation (J : Type)
  | asset (o : AssetObservation J)
  | relation (o : RelationObservation J)
  | finding (o : FindingObservation)

/-- The sensor checked whether these assets still exist. -/
structure LivenessCoverage where
  assetType : ObservedType
  values : List Str

/-- The keys of `constraints` that sensors set and the platform reads. -/
structure Constraints where
  portSpec : Option Str := none
  cdnPortSpec : Option Str := none
  parentCidrs : List Str := []

/-- The sensor enumerated all children of these parents, within the constraints. -/
structure RelationCoverage where
  parentType : ObservedType
  parents : List Str
  relation : RelationType
  childType : ObservedType
  constraints : Constraints := {}

/-- The sensor tested these assets for this class of findings. -/
structure FindingCoverage where
  assets : List AssetRef
  severities : Option (List Severity) := none
  includeTags : Option (List Str) := none
  excludeTags : Option (List Str) := none
  ruleIds : Option (List Str) := none

inductive Coverage
  | liveness (c : LivenessCoverage)
  | relation (c : RelationCoverage)
  | finding (c : FindingCoverage)

inductive ResultStatus
  | completed
  | failed
  | partially
deriving DecidableEq, Repr

/-- A website capture, as far as the platform looks at it. -/
structure ScreenshotImage where
  capturedAt : Int
  size : Nat
  sha256 : Str
  data : Str

structure SensorResult (J : Type) where
  adapter : Str
  status : ResultStatus := .completed
  historical : Bool := false
  targetCount : Nat := 0
  observations : List (Observation J) := []
  coverage : List Coverage := []
  errors : List Str := []
  screenshots : List ScreenshotImage := []

end AsmSensors
