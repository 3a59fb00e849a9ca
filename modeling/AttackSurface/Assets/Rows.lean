import AttackSurface.Assets.Normalization
import AttackSurface.Findings.Service
import AttackSurface.Scans.Orchestrator

/-!
# The rows ingestion works on (`app/models/assets.py`, `Ingestor`)

The tables of one organization.  A row's id is its position in its table; rows are added
at the end and never removed, so the ids below the old length are the rows that were
there before.  `Ingestor` is the state of one run of ingestion: the rows as the session
sees them and what the run has loaded, observed and deactivated so far.
-/

namespace App.Assets

open PyText PyNet AsmSensors App.Scans App.Scope App.Findings

/-! ## Rows -/

structure AssetRow (J : Type) where
  assetType : AssetType
  normalizedValue : Str
  status : AssetStatus := .active
  scopeStatus : ScopeStatus := .inScope
  firstSeen : Int := 0
  lastSeen : Int := 0
  lastScannedAt : Option Int := none
  inactiveSince : Option Int := none
  missedCount : Nat := 0
  /-- the first sensor that reported it -/
  source : Option Str := none
  sources : List Str := []
  confidence : Nat := 80
  /-- the column `meta` -/
  metadata : Attributes J := []

def AssetRow.key {J : Type} (a : AssetRow J) : AKey := (a.assetType, a.normalizedValue)

/-- `(source_asset_id, target_asset_id, relation_type)`, unique in its table. -/
abbrev RelKey := Nat × Nat × RelationType

instance : LawfulBEq RelKey := inferInstanceAs (LawfulBEq (Nat × Nat × RelationType))

structure RelationRow (J : Type) where
  sourceAssetId : Nat
  targetAssetId : Nat
  relationType : RelationType
  active : Bool := true
  missedCount : Nat := 0
  firstSeen : Int := 0
  lastSeen : Int := 0
  attributes : Attributes J := []

def RelationRow.key {J : Type} (r : RelationRow J) : RelKey :=
  (r.sourceAssetId, r.targetAssetId, r.relationType)

structure Rows (J : Type) where
  assets : List (AssetRow J) := []
  relations : List (RelationRow J) := []
  findings : List Finding := []

variable {J : Type}

def idsWhere {α : Type} (rows : List α) (p : α → Bool) : List Nat :=
  (List.range rows.length).filter fun i => rows[i]?.any p

lemma mem_idsWhere {α : Type} {rows : List α} {p : α → Bool} {i : Nat} :
    i ∈ idsWhere rows p ↔ ∃ row, rows[i]? = some row ∧ p row = true := by
  rw [idsWhere, List.mem_filter, List.mem_range, Option.any_eq_true]
  refine ⟨fun h => h.2, fun h => ⟨?_, h⟩⟩
  obtain ⟨row, hrow, _⟩ := h
  exact (List.getElem?_eq_some_iff.1 hrow).1

def Rows.assetId (rows : Rows J) (key : AKey) : Option Nat := rows.assets.findIdx? fun a => a.key = key

def Rows.relationId (rows : Rows J) (key : RelKey) : Option Nat :=
  rows.relations.findIdx? fun r => r.key = key

/-! ## What ingestion is given -/

structure CloudMatch where
  provider : Str
  service : Str
  kind : Str
  resource : Str

/-- The tables and JSON functions that ingestion calls; sets of keys are walked in an
order of their own. -/
structure Tables (J : Type) where
  unicode : Unicode
  /-- the public suffix list -/
  registrableDomain : Str → Option Str
  /-- `cloud.match_hostname` -/
  matchHostname : Str → Option CloudMatch
  /-- `cloud.provider_for_asn` -/
  providerForAsn : J → Option (Str × Str)
  isNone : J → Bool
  truthy : J → Bool
  ofStr : Str → J
  ofBool : Bool → J
  /-- `int(v)`; `none` is the exception -/
  toInt : J → Option Int
  ids : Identity
  /-- the order in which a set of keys is walked -/
  keyOrder : List AKey → List AKey
  keyOrder_perm : ∀ keys, (keyOrder keys).Perm keys
  /-- the order in which `HOSTNAME_ASSET_TYPES` is walked -/
  hostnameTypes : List AssetType
  hostnameTypes_perm : hostnameTypes.Perm hostnameAssetTypes

def plainTables : Tables Unit where
  unicode := asciiUnicode
  registrableDomain := fun _ => none
  matchHostname := fun _ => none
  providerForAsn := fun _ => none
  isNone := fun _ => true
  truthy := fun _ => false
  ofStr := fun _ => ()
  ofBool := fun _ => ()
  toInt := fun _ => none
  ids := { sha256 := id, tenantId := [], assetId := fun i => List.replicate i 'i' }
  keyOrder := id
  keyOrder_perm := List.Perm.refl
  hostnameTypes := hostnameAssetTypes
  hostnameTypes_perm := List.Perm.refl _

/-- The tenant's `inactivity` settings. -/
abbrev InactivityRules := List (Str × Int)

/-- `inactivity_threshold`. -/
def inactivityThreshold (rules : InactivityRules) (key : Str) : Nat :=
  (max 1 ((rules.lookup key).getD ((rules.lookup "default".toList).getD 3))).toNat

/-- `_threshold_key`. -/
def thresholdKey : AssetType → Str
  | .rootDomain => "root_domain".toList
  | .domain => "domain".toList
  | .subdomain => "subdomain".toList
  | .ipAddress => "ip_address".toList
  | .cidr => "cidr".toList
  | .asn => "asn".toList
  | .dnsRecord => "dns_record".toList
  | .certificate => "certificate".toList
  | .port => "port".toList
  | .service => "service".toList
  | .httpEndpoint => "http_endpoint".toList
  | .webApplication => "web_application".toList
  | .technology => "technology".toList
  | .cloudResource => "cloud_resource".toList

structure IngestContext where
  checker : ScopeChecker
  /-- seconds -/
  now : Int := 0
  rules : InactivityRules := []
  source : Str
  historical : Bool := false

/-! ## The state of a run -/

/-- A row of one of the tables. -/
inductive Item
  | asset (id : Nat)
  | relation (id : Nat)
  | finding (id : Nat)
deriving DecidableEq, Repr

structure Ingestor (J : Type) where
  rows : Rows J
  /-- the keys of `self.assets`, as far as they are in the table -/
  loaded : List AKey := []
  status : AKey → Option ScopeStatus := fun _ => none
  observed : List AKey := []
  observedRels : List RelKey := []
  deactivated : List Nat := []
  /-- what `_missed`, `_apply_relation_coverage` and `resolve_unobserved` closed by counting
  misses; the source only counts these rows -/
  closings : List Item := []

variable (st : Ingestor J)

/-- `self.assets.get(key)`. -/
def Ingestor.get (key : AKey) : Option Nat :=
  if key ∈ st.loaded then st.rows.assetId key else none

/-- `_load`. -/
def Ingestor.load (keys : List AKey) : Ingestor J := { st with loaded := keys ++ st.loaded }

def Ingestor.setAsset (id : Nat) (f : AssetRow J → AssetRow J) : Ingestor J :=
  { st with rows := { st.rows with assets := st.rows.assets.modify id f } }

def Ingestor.setRelation (id : Nat) (f : RelationRow J → RelationRow J) : Ingestor J :=
  { st with rows := { st.rows with relations := st.rows.relations.modify id f } }

def Ingestor.setFindings (fs : List Finding) : Ingestor J :=
  { st with rows := { st.rows with findings := fs } }

/-- `{**d, **e}`. -/
def merge (d e : Attributes J) : Attributes J := e.foldl (fun d kv => setKey d kv.1 kv.2) d

end App.Assets
