import AttackSurface.Assets.Rows

/-!
# Applying what a sensor observed (`app/assets/ingest.py`)

The first half of `ingest`: the observations are keyed, every key gets a scope status,
and assets, relationships and findings are created or updated (`observe`).  A key
without a status is unrelated third-party noise and is dropped.
-/

namespace App.Assets

open PyText PyNet AsmSensors App.Scans App.Scope App.Findings

variable {J : Type}

/-- A relation between two keys, with its attributes. -/
structure Link (J : Type) where
  source : AKey
  relation : RelationType
  target : AKey
  attributes : Attributes J := []

variable (T : Tables J) (ctx : IngestContext)

/-- `_akey`. -/
def akey (t : ObservedType) (value : Str) : Option AKey :=
  (normalizeValue T.unicode t value).map fun norm =>
    (assetTypeFor T.registrableDomain ctx.checker.rootDomains norm t, norm)

/-! ## Sorting the observations -/

/-- What `ingest` collects from the observations before it touches a row. -/
structure Gathered (J : Type) where
  /-- attributes and confidence of each observed asset -/
  assets : List (AKey × Attributes J × Nat) := []
  links : List (Link J) := []
  findings : List (AKey × FindingObservation) := []
  keys : List AKey := []

variable (g : Gathered J)

/-- `asset_obs[key]`, with the default of the loop. -/
def Gathered.asset (key : AKey) : Option (Attributes J × Nat) :=
  (g.assets.find? fun e => e.1 = key).map Prod.snd

/-- One more observation of an asset: attributes are merged, the confidence is the highest. -/
def Gathered.addAsset (key : AKey) (o : AssetObservation J) : Gathered J :=
  let (attrs, conf) := (g.asset key).getD ([], 0)
  let entry := (merge attrs (o.attributes.filter fun kv => !T.isNone kv.2), max conf o.confidence)
  let assets :=
    if (g.asset key).isSome then g.assets.map fun e => if e.1 = key then (key, entry) else e
    else g.assets ++ [(key, entry)]
  { g with assets := assets, keys := key :: g.keys }

def gatherOne : Observation J → Gathered J
  | .asset o =>
    match akey T ctx o.type o.value with
    | some key => g.addAsset T key o
    | none => g
  | .relation o =>
    match akey T ctx o.source.type o.source.value, akey T ctx o.target.type o.target.value with
    | some s, some d =>
      { g with links := g.links ++ [⟨s, o.relation, d, o.attributes⟩], keys := s :: d :: g.keys }
    | _, _ => g
  | .finding o =>
    match akey T ctx o.asset.type o.asset.value with
    | some key => { g with findings := g.findings ++ [(key, o)], keys := key :: g.keys }
    | none => g

def gather (obs : List (Observation J)) : Gathered J :=
  obs.foldl (gatherOne T ctx) {}

/-- `all_keys`, in the order the set is walked. -/
def Gathered.allKeys : List AKey := T.keyOrder g.keys.dedup

def impliedKeys (U : Unicode) (keys : List AKey) : List AKey := keys.filterMap fun key =>
    if key.1 = .port ∨ key.1 = .service then
      (parsePortValue U key.2).map fun p => (AssetType.ipAddress, p.1)
    else none

/-! ## Scope status -/

abbrev Statuses := AKey → Option ScopeStatus

def contextTypes : List AssetType :=
  [.technology, .certificate, .asn, .cidr, .cloudResource, .dnsRecord, .webApplication]

/-- `_existing_status`. -/
def Ingestor.existingStatus (st : Ingestor J) : Statuses := fun key =>
  ((st.get key).bind fun id => st.rows.assets[id]?).map AssetRow.scopeStatus

section statuses

variable (U : Unicode) (c : ScopeChecker) (existing : Statuses)

/-- `_ip_status`: an address that is not excluded keeps the status it has. -/
def ipStatus (status : Statuses) (ip : Str) : ScopeStatus :=
  match status (.ipAddress, ip) with
  | some s => s
  | none =>
    if c.ipStatus ip = .outOfScope ∧ c.isExcludedIp ip = false then
      (existing (.ipAddress, ip)).getD .outOfScope
    else c.ipStatus ip

variable (status : Statuses)

/-- `_host_status`. -/
def hostStatus (host : Str) : ScopeStatus :=
  if (normalizeValue U .ipAddress host).isSome then ipStatus c existing status host
  else c.hostnameStatus host

/-- `_endpoint_host`; the empty text is `None`. -/
def endpointHost (url : Str) : Str := ((urlsplit url).map fun p => p.hostname U).getD []

variable (key : AKey)

def ownStatus : Option ScopeStatus :=
  match key.1 with
  | .rootDomain | .domain | .subdomain => some (c.hostnameStatus key.2)
  | .ipAddress => some (ipStatus c existing status key.2)
  | .cidr =>
    match Target.make U .cidr key.2 with
    | .error _ => none
    | .ok t => if isAllowed (c.check t false noMap) then some .inScope else none
  | _ => none

/-- Addresses that names in scope resolve to, or that host their endpoints, are derived. -/
def deriveTarget (l : Link J) : Statuses :=
  if l.target.1 = .ipAddress ∧ status l.target = some .outOfScope ∧ c.isExcludedIp l.target.2 = false then
    if l.relation = .resolvesTo ∧ status l.source = some .inScope then
      Function.update status l.target (some .derived)
    else if l.relation = .hostedOn ∧ l.source.1 = .httpEndpoint ∧ endpointHost U l.source.2 ≠ [] ∧
        hostStatus U c existing status (endpointHost U l.source.2) = .inScope then
      Function.update status l.target (some .derived)
    else status
  else status

def inheritStatus : Statuses :=
  match key.1 with
  | .port | .service =>
    Function.update status key
      ((parsePortValue U key.2).map fun p => ipStatus c existing status p.1)
  | .httpEndpoint =>
    Function.update status key
      (if endpointHost U key.2 = [] then none
       else some (hostStatus U c existing status (endpointHost U key.2)))
  | _ => status

def anchored : Bool :=
  status key == some .inScope || status key == some .derived

variable (links : List (Link J))

section

variable (status : Statuses)

def nearAnchor (key : AKey) : Bool := links.any fun l =>
    (l.source == key && anchored status l.target) || (l.target == key && anchored status l.source)

def attachContext (key : AKey) : Statuses :=
  if !anchored status key && decide (key.1 ∈ contextTypes) &&
      (nearAnchor links status key || (existing key).any (· != .outOfScope)) then
    Function.update status key (some .derived)
  else status

def dropNoise (key : AKey) : Statuses :=
  if status key = some .outOfScope ∧ nearAnchor links status key = false then
    Function.update status key none
  else status

end

/-- `_compute_statuses`.  A round of the source's loop that changes nothing ends it; the
remaining rounds would change nothing either. -/
def computeStatuses (keys : List AKey) (links : List (Link J)) : Statuses :=
  let own := keys.foldl (fun s k => Function.update s k (ownStatus U c existing s k)) fun _ => none
  let derived := links.foldl (deriveTarget U c existing) own
  let inherited := keys.foldl (inheritStatus U c existing) derived
  let round := fun s => keys.foldl (attachContext existing links) s
  keys.foldl (dropNoise links) (round (round (round inherited)))

end statuses

/-! ## Assets -/

variable (T : Tables J) (t : AssetType)

/-- `_enrich`. -/
def enrich (attrs : Attributes J) : Attributes J :=
  match t, (attrs.lookup "asn".toList).filter T.truthy with
  | .ipAddress, some asn =>
    match T.providerForAsn asn with
    | none => attrs
    | some (provider, kind) =>
      let attrs := merge attrs
        [("hosting_provider".toList, T.ofStr provider), ("hosting_kind".toList, T.ofStr kind)]
      if provider ∈ ["cloudflare".toList, "akamai".toList, "fastly".toList, "bunny".toList] then
        setKey attrs "cdn".toList (T.ofBool true)
      else attrs
  | _, _ => attrs

/-- `_RANK`. -/
def scopeRank : ScopeStatus → Nat
  | .outOfScope => 0
  | .derived => 1
  | .inScope => 2

def newScope (old status : ScopeStatus) : ScopeStatus :=
  if t ∈ hostnameAssetTypes ∨ t = .ipAddress then
    if t = .ipAddress ∧ status = .outOfScope ∧ old = .derived then old else status
  else if scopeRank old < scopeRank status then status
  else old

variable (ctx : IngestContext) (attrs : Attributes J)

/-- What a sighting changes in a known asset; only a live one refreshes or revives it. -/
def sight (confidence : Nat) (a : AssetRow J) : AssetRow J :=
  let sources := a.sources ++ [ctx.source]
  let a := { a with
    metadata := merge a.metadata attrs
    sources := if ctx.source ∈ a.sources then a.sources else sources.drop (sources.length - 20) }
  if ctx.historical then a
  else
    { a with
      lastSeen := ctx.now
      missedCount := 0
      confidence := max a.confidence confidence
      status := .active
      inactiveSince := if a.status = .inactive then none else a.inactiveSince }

/-- What `_apply_asset` changes in a known asset. -/
def updateAsset (status : ScopeStatus) (attrs : Attributes J)
    (confidence : Nat) (observed : Bool) (a : AssetRow J) : AssetRow J :=
  let a := if observed then sight ctx attrs confidence a else a
  let a := { a with scopeStatus := newScope a.assetType a.scopeStatus status }
  if ctx.historical then a else { a with lastScannedAt := some ctx.now }

def newAsset (key : AKey) (status : ScopeStatus) (attrs : Attributes J) (confidence : Nat) : AssetRow J where
  assetType := key.1
  normalizedValue := key.2
  scopeStatus := status
  firstSeen := ctx.now
  lastSeen := ctx.now
  lastScannedAt := some ctx.now
  source := some ctx.source
  sources := [ctx.source]
  confidence := confidence
  metadata := attrs

variable (st : Ingestor J)

/-- `_apply_asset`. -/
def Ingestor.applyAsset (key : AKey) (attrs : Attributes J) (confidence : Nat) (observed : Bool) : Ingestor J :=
  match st.status key with
  | none => st
  | some status =>
    let attrs := enrich T key.1 attrs
    let st := match st.get key with
      | some id => st.setAsset id (updateAsset ctx status attrs confidence observed)
      | none =>
        { st with
          rows := { st.rows with
            assets := st.rows.assets ++ [newAsset ctx key status attrs confidence] }
          loaded := key :: st.loaded }
    if observed then { st with observed := key :: st.observed } else st

/-! ## Relationships -/

/-- `_find_hostname`. -/
def Ingestor.findHostname (value : Str) : Ingestor J × Option AKey :=
  match T.hostnameTypes.find? fun t => (st.get (t, value)).isSome with
  | some t => (st, some (t, value))
  | none =>
    match st.rows.assets.find? fun a =>
        a.normalizedValue = value ∧ a.assetType ∈ hostnameAssetTypes with
    | some a => (st.load [a.key], some a.key)
    | none => (st, none)

/-- One round of `_structural_relations`: a name in scope below a known one. -/
def structuralRelation (acc : Ingestor J × List (Link J)) (key : AKey) : Ingestor J × List (Link J) :=
  let (st, links) := acc
  if key.1 = .subdomain ∧ st.status key = some .inScope then
    match parentDomain T.registrableDomain ctx.checker.rootDomains key.2 with
    | none => acc
    | some parent =>
      match st.findHostname T parent with
      | (st, some pkey) => (st, links ++ [⟨key, .subdomainOf, pkey, []⟩])
      | (st, none) => (st, links)
  else acc

/-- `cloud.resource_value`. -/
def resourceValue (m : CloudMatch) : Str := m.provider ++ ':' :: m.service ++ ':' :: m.resource

/-- One round of `_cloud_relations`: the cloud resource behind a name of ours. -/
def cloudRelation (acc : Ingestor J × List (Link J)) (candidate : AKey × Str) : Ingestor J × List (Link J) :=
  let (st, links) := acc
  match T.matchHostname candidate.2 with
  | none => acc
  | some m =>
    if anchored st.status candidate.1 then
      let ckey : AKey := (.cloudResource, resourceValue m)
      let st := { st with status := Function.update st.status ckey (some .derived) }
      let st := (st.load [ckey]).applyAsset T ctx ckey
        [("provider".toList, T.ofStr m.provider), ("service".toList, T.ofStr m.service),
          ("kind".toList, T.ofStr m.kind), ("hostname".toList, T.ofStr m.resource)] 70 true
      (st, links ++ [⟨candidate.1, .hostedBy, ckey, []⟩])
    else acc

/-- The names that may be hosted in a cloud: aliases of our names, and our names. -/
def cloudCandidates (links : List (Link J)) (keys : List AKey) (status : Statuses) : List (AKey × Str) :=
  (links.filter fun l => l.relation = .cname ∧ l.target.1 ∈ hostnameAssetTypes).map
    (fun l => (l.source, l.target.2)) ++
  (keys.filter fun k => k.1 ∈ hostnameAssetTypes ∧ status k = some .inScope).map fun k => (k, k.2)

/-- A link whose two ends are in the table. -/
structure Pair (J : Type) where
  source : Nat
  relation : RelationType
  target : Nat
  attributes : Attributes J := []

variable (p : Pair J)

def Pair.key : RelKey := (p.source, p.target, p.relation)

/-- `pairs` of `_upsert_relations`. -/
def Ingestor.pairs (links : List (Link J)) : List (Pair J) := links.filterMap fun l =>
    match st.get l.source, st.get l.target with
    | some s, some d => if s = d then none else some ⟨s, l.relation, d, l.attributes⟩
    | _, _ => none

/-- A known relationship is observed.  It becomes active again whether or not the source is
historical. -/
def seeRelation (r : RelationRow J) : RelationRow J :=
  let r := { r with active := true }
  let r := if ctx.historical then r else { r with lastSeen := ctx.now, missedCount := 0 }
  { r with attributes := merge r.attributes attrs }

def replaceCertificates (source : Nat) (observedRels : List RelKey)
    (relations : List (RelationRow J)) : List (RelationRow J) :=
  relations.map fun r =>
    if r.sourceAssetId = source ∧ r.relationType = .presentsCertificate ∧ r.key ∉ observedRels then
      { r with active := false }
    else r

def newRelation : RelationRow J where
  sourceAssetId := p.source
  targetAssetId := p.target
  relationType := p.relation
  firstSeen := ctx.now
  lastSeen := ctx.now
  attributes := p.attributes

/-- One round of the loop of `_upsert_relations`. -/
def Ingestor.upsertRelation : Ingestor J :=
  if p.key ∈ st.observedRels then st
  else
    let st := { st with observedRels := p.key :: st.observedRels }
    match st.rows.relationId p.key with
    | some id => st.setRelation id (seeRelation ctx p.attributes)
    | none =>
      let relations := st.rows.relations ++ [newRelation ctx p]
      let relations := if p.relation = .presentsCertificate then
          replaceCertificates p.source st.observedRels relations
        else relations
      { st with rows := { st.rows with relations := relations } }

/-! ## Findings and the whole first half -/

def observeFinding (acc : Ingestor J × List Nat) (f : AKey × FindingObservation) : Ingestor J × List Nat :=
  let (st, seen) := acc
  match st.get f.1 with
  | none => acc
  | some id =>
    if (st.rows.assets[id]?.map AssetRow.scopeStatus) = some .outOfScope then acc
    else
      let (fs, i) := upsertObservation T.unicode T.ids st.rows.findings id f.2 ctx.source ctx.now
        (ctx.historical || f.2.tags.contains "unverified".toList)
      (st.setFindings fs, i :: seen)

/-- `list(AssetType).index(t)`. -/
def typeIndex : Nat := t.ctorIdx

/-- The run after the observed assets were applied, hosts before what is on them. -/
def applyAssets (rows : Rows J) (g : Gathered J) : Ingestor J :=
  let keys := g.allKeys T
  let st := ({ rows := rows } : Ingestor J).load (keys ++ impliedKeys T.unicode keys)
  let st := { st with
    status := computeStatuses T.unicode ctx.checker st.existingStatus keys g.links }
  (keys.insertionSort fun a b => typeIndex a.1 ≤ typeIndex b.1).foldl (fun st key =>
    let (attrs, conf) := (g.asset key).getD ([], 80)
    st.applyAsset T ctx key attrs conf (g.asset key).isSome) st

/-- The run after `_structural_relations` and `_cloud_relations`, and all relations. -/
def relate (g : Gathered J) : Ingestor J × List (Link J) :=
  let keys := g.allKeys T
  let (st, structural) := keys.foldl (structuralRelation T ctx) (st, [])
  let (st, cloud) := (cloudCandidates g.links keys st.status).foldl (cloudRelation T ctx) (st, [])
  (st, g.links ++ structural ++ cloud)

/-- The first half of `ingest`: the run before coverage is applied, and the findings seen. -/
def observe (rows : Rows J) (result : SensorResult J) : Ingestor J × List Nat :=
  let g := gather T ctx result.observations
  let (st, links) := relate T ctx (applyAssets T ctx rows g) g
  let st := (st.pairs links).foldl (Ingestor.upsertRelation ctx) st
  g.findings.foldl (observeFinding T ctx) (st, [])

end App.Assets
