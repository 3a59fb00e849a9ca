import AttackSurface.Assets.Observing

/-!
# Applying coverage (`app/assets/ingest.py`)

The second half of `ingest`.  A sensor that was authoritative for some assets or
relations counts a miss for each of them that it did not observe; at a threshold the row
is closed, and a closed asset takes its findings and what only it owns along.

A result of `none` is an exception of the source (a stored value or a specification that
does not parse); the transaction is then rolled back.
-/

namespace App.Assets

open PyText PyNet AsmSensors App.Scans App.Findings

variable {J : Type}

/-! ## Closing an asset -/

/-- `OWNED_CHILDREN`. -/
def ownedChildren : AssetType → List (RelationType × AssetType)
  | .subdomain | .rootDomain | .domain => [(.serves, .httpEndpoint)]
  | .ipAddress => [(.hasPort, .port), (.serves, .httpEndpoint)]
  | .port => [(.runsService, .service)]
  | _ => []

def ownRank : AssetType → Nat
  | .subdomain | .rootDomain | .domain | .ipAddress => 2
  | .port => 1
  | _ => 0

lemma ownRank_lt {t : AssetType} {c : RelationType × AssetType} (h : c ∈ ownedChildren t) :
    ownRank c.2 < ownRank t := by
  cases t <;> simp [ownedChildren] at h
  case ipAddress => rcases h with rfl | rfl <;> decide
  all_goals subst h; decide

variable (rows : Rows J)

/-- The active relations of one type from an asset to active children of one type. -/
def Rows.ownedRelations (id : Nat) (kind : RelationType × AssetType) : List Nat :=
  idsWhere rows.relations fun r =>
    decide (r.sourceAssetId = id ∧ r.relationType = kind.1) && r.active &&
      rows.assets[r.targetAssetId]?.any fun c =>
        decide (c.assetType = kind.2 ∧ c.status = .active)

/-- `_has_incoming`. -/
def Rows.hasIncoming (id : Nat) (types : List RelationType) : Bool :=
  rows.relations.any fun r =>
    decide (r.targetAssetId = id) && r.active && decide (r.relationType ∈ types)

/-- `_has_other_presence`. -/
def Rows.hasOtherPresence (id exceptParent : Nat) : Bool := rows.relations.any fun r =>
    decide (r.targetAssetId = id) && r.active && decide (r.sourceAssetId ≠ exceptParent) &&
      decide (r.relationType = .serves)

def AssetRow.closed (now : Int) (a : AssetRow J) : AssetRow J :=
  { a with status := .inactive, inactiveSince := some now }

def RelationRow.closed (r : RelationRow J) : RelationRow J := { r with active := false }

/-- The asset's own row and its findings in `_deactivate`. -/
def Ingestor.closeAsset (st : Ingestor J) (now : Int) (id : Nat) : Ingestor J :=
  let st := st.setAsset id (AssetRow.closed now)
  let st := st.setFindings (resolveForInactiveAsset id now st.rows.findings)
  { st with deactivated := id :: st.deactivated }

def Ingestor.closeRelation (st : Ingestor J) (id : Nat) : Ingestor J := st.setRelation id RelationRow.closed

def Ingestor.childStays (st : Ingestor J) (parent child : Nat) : Bool := st.rows.assets[child]?.any fun c =>
    decide (c.key ∈ st.observed) ||
      (decide (c.assetType = .httpEndpoint) && st.rows.hasOtherPresence child parent)

/-- One round of the loop over what an asset owned; `deactivate` is the recursive call. -/
def Ingestor.disown (deactivate : Ingestor J → Nat → Ingestor J) (id : Nat) (st : Ingestor J)
    (r : Nat) : Ingestor J :=
  match st.rows.relations[r]? with
  | none => st
  | some rel =>
    let st := st.closeRelation r
    if st.childStays id rel.targetAssetId then st else deactivate st rel.targetAssetId

/-- `_deactivate`.  The first argument bounds the depth of the cascade; what is owned has a
smaller `ownRank`, so that `cascadeDepth` is enough for every asset (`deactivate_steps`). -/
def Ingestor.deactivate (now : Int) : Nat → Ingestor J → Nat → Ingestor J
  | 0, st, _ => st
  | depth + 1, st, id =>
    match st.rows.assets[id]? with
    | none => st
    | some a =>
      if a.status = .inactive ∨ id ∈ st.deactivated then st
      else
        (ownedChildren a.assetType).foldl (fun st kind =>
          (st.rows.ownedRelations id kind).foldl (Ingestor.disown (deactivate now depth) id) st)
          (st.closeAsset now id)

def cascadeDepth : Nat := 3

/-! ## Counting misses -/

def AssetRow.missedOnce (a : AssetRow J) : AssetRow J := { a with missedCount := a.missedCount + 1 }

def RelationRow.missedOnce (r : RelationRow J) : RelationRow J := { r with missedCount := r.missedCount + 1 }

/-- `_missed`. -/
def Ingestor.missed (ctx : IngestContext) (st : Ingestor J) (id : Nat) : Ingestor J :=
  match st.rows.assets[id]? with
  | none => st
  | some a =>
    if a.key ∈ st.observed ∨ a.status ≠ .active then st
    else
      let st := st.setAsset id AssetRow.missedOnce
      if inactivityThreshold ctx.rules (thresholdKey a.assetType) ≤ a.missedCount + 1 then
        { st with closings := .asset id :: st.closings }.deactivate ctx.now cascadeDepth id
      else st

/-- The lists of at most `1000` that long `IN` queries are split into. -/
def chunks {α : Type} (l : List α) : List (List α) :=
  (List.range (l.length / 1000 + 1)).map fun i => (l.drop (1000 * i)).take 1000

/-- The assets of these types with these values; one that stands in two chunks is found twice. -/
def Rows.assetsByValue (types : List AssetType) (values : List Str) : List Nat :=
  (chunks values).flatMap fun chunk =>
    idsWhere rows.assets fun a => decide (a.assetType ∈ types ∧ a.normalizedValue ∈ chunk)

variable (T : Tables J)

/-- The parents that `values` name in `_resolve_parents`. -/
def Rows.namedParents (rows : Rows J) (t : ObservedType) (values : List Str) : List Nat :=
  rows.assetsByValue (assetTypesOf t) (values.filterMap (normalizeValue T.unicode t))

def Rows.activeAddresses : List Nat :=
  idsWhere rows.assets fun a => decide (a.assetType = .ipAddress ∧ a.status = .active)

def Rows.addressOf (id : Nat) : Option Address :=
  rows.assets[id]?.bind fun a => ipAddress a.normalizedValue

def Rows.parents (rows : Rows J) (t : ObservedType) (values cidrs : List Str) : List Nat :=
  let found := rows.namedParents T t values
  let nets := cidrs.filterMap ipNetwork
  found ++ rows.activeAddresses.filter fun id =>
    !decide (id ∈ found) && (rows.addressOf id).any fun addr => nets.any fun n => n.contains addr

/-- `_resolve_parents`; every network and every active address must parse. -/
def Rows.resolveParents (rows : Rows J) (t : ObservedType) (values cidrs : List Str) : Option (List Nat) :=
  if cidrs = [] ∨ (cidrs.all (fun c => (ipNetwork c).isSome) ∧
      rows.activeAddresses.all fun id => (rows.addressOf id).isSome) then
    some (rows.parents T t values cidrs)
  else none

/-- `_child_port`; the outer `none` is an exception. -/
def childPort (child : AssetRow J) : Option (Option Int) :=
  match child.assetType with
  | .port | .service =>
    some ((parsePortValue T.unicode child.normalizedValue).map fun p => (p.2.1 : Int))
  | .httpEndpoint =>
    match (child.metadata.lookup "port".toList).filter T.truthy with
    | some port => (T.toInt port).map some
    | none =>
      match urlsplit child.normalizedValue with
      | none => none
      | some u =>
        u.port.map fun port =>
          some ((port.filter (· ≠ 0)).getD (defaultPort u.scheme) : Nat)
  | _ => some none

/-- The child's port is inside the ports that were probed on this parent; `none` is an
exception. -/
def inProbedPorts (cov : RelationCoverage) (parent child : AssetRow J) : Option Bool :=
  match cov.constraints.portSpec.filter (· ≠ []) with
  | none => some true
  | some spec =>
    match childPort T child with
    | none => none
    | some none => some false
    | some (some port) =>
      match cov.constraints.cdnPortSpec.filter (· ≠ []) with
      | some cdnSpec =>
        if (parent.metadata.lookup "cdn".toList).any T.truthy then
          portInSpec T.unicode port cdnSpec
        else portInSpec T.unicode port spec
      | none => portInSpec T.unicode port spec

/-- The active relations of the covered type from some parents to the covered children. -/
def Rows.coveredFrom (cov : RelationCoverage) (parents : List Nat) : List Nat :=
  idsWhere rows.relations fun r =>
    decide (r.sourceAssetId ∈ parents ∧ r.relationType = cov.relation) && r.active &&
      rows.assets[r.targetAssetId]?.any fun c => decide (c.assetType ∈ assetTypesOf cov.childType)

/-- A relation that the run covered and did not observe; `none` is an exception. -/
def Ingestor.missesRelation (st : Ingestor J) (cov : RelationCoverage) (r : Nat) : Option Bool :=
  match st.rows.relations[r]? with
  | none => some false
  | some rel =>
    if rel.key ∈ st.observedRels then some false
    else
      match st.rows.assets[rel.sourceAssetId]?, st.rows.assets[rel.targetAssetId]? with
      | some parent, some child => inProbedPorts T cov parent child
      | _, _ => some false

/-- The relations from some parents for which the loop of `_apply_relation_coverage` counts a
miss.  The tests that skip a relation read nothing the loop writes, so they are made before
it. -/
def Ingestor.missedFrom (st : Ingestor J) (cov : RelationCoverage) (parents : List Nat) : Option (List Nat) :=
  let rows := st.rows.coveredFrom cov parents
  if rows.all fun r => (st.missesRelation T cov r).isSome then
    some (rows.filter fun r => st.missesRelation T cov r == some true)
  else none

/-- `LIVENESS_TYPES`. -/
def livenessTypes : List AssetType := [.port, .service, .httpEndpoint]

/-- The address left the attack surface: no name in scope points to it any more. -/
def Ingestor.addressLeft (st : Ingestor J) (rel : RelationRow J) (child : AssetRow J) : Bool :=
  decide (rel.relationType = .resolvesTo ∧ child.assetType = .ipAddress ∧
      child.scopeStatus = .derived ∧ child.key ∉ st.observed) &&
    !st.rows.hasIncoming rel.targetAssetId [.resolvesTo, .hostedOn]

variable (ctx : IngestContext)

/-- One round of the loop of `_apply_relation_coverage`. -/
def Ingestor.missRelation (st : Ingestor J) (r : Nat) : Ingestor J :=
  match st.rows.relations[r]? with
  | none => st
  | some rel =>
    match st.rows.assets[rel.targetAssetId]? with
    | none => st
    | some child =>
      let st := st.setRelation r RelationRow.missedOnce
      let st :=
        if inactivityThreshold ctx.rules "relation".toList ≤ rel.missedCount + 1 then
          let st := { st.closeRelation r with closings := .relation r :: st.closings }
          if st.addressLeft rel child then st.deactivate ctx.now cascadeDepth rel.targetAssetId
          else st
        else st
      if child.assetType ∈ livenessTypes then st.missed ctx rel.targetAssetId else st

def AssetRow.scanned (now : Int) (a : AssetRow J) : AssetRow J := { a with lastScannedAt := some now }

/-- `last_scanned_at` of the assets a sensor was run against. -/
def Ingestor.scanned (ctx : IngestContext) (st : Ingestor J) (ids : List Nat) : Ingestor J :=
  ids.foldl (fun st id => st.setAsset id (AssetRow.scanned ctx.now)) st

/-! ## The coverage entries -/

/-- `_apply_liveness`. -/
def Ingestor.applyLiveness (st : Ingestor J) (cov : LivenessCoverage) : Ingestor J :=
  (st.rows.namedParents T cov.assetType cov.values).foldl
    (fun st id => (st.setAsset id (AssetRow.scanned ctx.now)).missed ctx id) st

/-- The parents of one query of `_apply_relation_coverage`. -/
def Ingestor.missParents (cov : RelationCoverage)
    (st : Ingestor J) (parents : List Nat) : Option (Ingestor J) :=
  (st.missedFrom T cov parents).map fun misses => misses.foldl (Ingestor.missRelation ctx) st

/-- The keys of a `dict` in the order they were first set. -/
def distinct (ids : List Nat) : List Nat := ids.reverse.dedup.reverse

/-- `_apply_relation_coverage`. -/
def Ingestor.applyRelationCoverage (st : Ingestor J) (cov : RelationCoverage) : Option (Ingestor J) :=
  match st.rows.resolveParents T cov.parentType cov.parents cov.constraints.parentCidrs with
  | none => none
  | some parents =>
    (chunks (distinct parents)).foldlM (Ingestor.missParents T ctx cov) (st.scanned ctx parents)

def Ingestor.coveredAssets (st : Ingestor J) (cov : FindingCoverage) : List Nat :=
  (cov.assets.filterMap fun ref => akey T ctx ref.type ref.value).filterMap st.rows.assetId

/-- `_apply_finding_coverage`. -/
def Ingestor.applyFindingCoverage (seen : List Nat) (st : Ingestor J) (cov : FindingCoverage) : Ingestor J :=
  let (fs, resolved) := resolveUnobserved st.rows.findings (st.coveredAssets T ctx cov) ctx.source
    cov seen (inactivityThreshold ctx.rules "finding".toList) ctx.now
  let st := st.load (cov.assets.filterMap fun ref => akey T ctx ref.type ref.value)
  { st.setFindings fs with closings := resolved.map Item.finding ++ st.closings }

def Ingestor.applyCoverage (seen : List Nat) (st : Ingestor J) : Coverage → Option (Ingestor J)
  | .liveness cov => some (st.applyLiveness T ctx cov)
  | .relation cov => st.applyRelationCoverage T ctx cov
  | .finding cov => some (st.applyFindingCoverage T ctx seen cov)

/-- `ingest`. -/
def ingest (rows : Rows J) (result : SensorResult J) : Option (Ingestor J) :=
  let (st, seen) := observe T ctx rows result
  result.coverage.foldlM (Ingestor.applyCoverage T ctx seen) st

end App.Assets
