import AttackSurface.Scope.Checker

/-!
# The inventory (`app/models`, the queries of `app/scans/targets.py`)

The rows of one organization that the target builder reads, and its queries over
them: the host names in scope, which address resolves from which name, and the open
TCP ports.  A Python `dict` of sets is kept as its list of pairs; `valuesOf` is `get`.
-/

namespace App.Scans

open PyText PyNet AsmSensors App.Scope

inductive AssetType
  | rootDomain
  | domain
  | subdomain
  | ipAddress
  | cidr
  | asn
  | dnsRecord
  | certificate
  | port
  | service
  | httpEndpoint
  | webApplication
  | technology
  | cloudResource
deriving DecidableEq, Repr

inductive AssetStatus
  | active
  | inactive
deriving DecidableEq, Repr

inductive RelationType
  | resolvesTo
  | cname
  | nsRecord
  | mxRecord
  | ptr
  | subdomainOf
  | contains
  | announces
  | belongsToAsn
  | hasPort
  | runsService
  | serves
  | hostedOn
  | usesTechnology
  | presentsCertificate
  | certificateFor
  | hostedBy
  | redirectsTo
  | relatedTo
deriving DecidableEq, Repr

structure Asset where
  id : Nat
  assetType : AssetType
  normalizedValue : Str
  status : AssetStatus := .active
  scopeStatus : ScopeStatus := .inScope
  /-- seconds -/
  lastSeen : Int := 0
  /-- `meta["cdn"]` is set -/
  cdn : Bool := false
  /-- `meta["crawled_pages"]` -/
  crawledPages : List Str := []
deriving DecidableEq

structure AssetRelationship where
  sourceAssetId : Nat
  targetAssetId : Nat
  relationType : RelationType
  active : Bool := true
deriving DecidableEq

/-- The rows of one organization, each table in the order the database returns it. -/
structure Inventory where
  assets : List Asset
  relationships : List AssetRelationship := []
  /-- the scope entries, exclusions included -/
  scopeEntries : List ScopeRule := []
  /-- `org_settings(org)["skip_cdn_ips"]` -/
  skipCdnIps : Bool := true
  /-- seconds -/
  now : Int := 0

/-- The values of a key in a `dict` of sets. -/
def valuesOf {α β : Type} [DecidableEq α] [DecidableEq β] (m : List (α × β)) (k : α) : List β :=
  ((m.filter fun r => r.1 = k).map Prod.snd).dedup

lemma mem_valuesOf {α β : Type} [DecidableEq α] [DecidableEq β] {m : List (α × β)} {k : α} {v : β} :
    v ∈ valuesOf m k ↔ (k, v) ∈ m := by
  unfold valuesOf
  rw [List.mem_dedup, List.mem_map]
  constructor
  · rintro ⟨⟨a, b⟩, hm, rfl⟩
    simp only [List.mem_filter, decide_eq_true_eq] at hm
    exact hm.2 ▸ hm.1
  · intro h
    exact ⟨(k, v), by simp [h], rfl⟩

/-! ## Host names and resolution -/

def isHostnameType : AssetType → Bool
  | .rootDomain | .domain | .subdomain => true
  | _ => false

def revisitInactiveDays : Int := 30

variable (inv : Inventory)

/-- `_hostnames`. -/
def Inventory.hostnames (includeRecentInactive : Bool) : List Asset :=
  let cutoff := inv.now - revisitInactiveDays * 86400
  inv.assets.filter fun a =>
    isHostnameType a.assetType && a.scopeStatus == .inScope &&
      (a.status == .active || (includeRecentInactive && decide (cutoff ≤ a.lastSeen)))

/-- The rows of `_resolution_map`: a host name in scope and an active address. -/
def Inventory.resolutions : List (Str × Str) :=
  (inv.relationships.filter fun r => r.active && r.relationType == .resolvesTo).flatMap fun r =>
    (inv.assets.filter fun a => a.id == r.sourceAssetId && a.scopeStatus == .inScope).flatMap fun s =>
      (inv.assets.filter fun a => a.id == r.targetAssetId && a.status == .active).map fun d =>
        (s.normalizedValue, d.normalizedValue)

def Inventory.hostToIps (host : Str) : List Str := valuesOf inv.resolutions host

def Inventory.ipToHosts : DerivedFrom := valuesOf (inv.resolutions.map Prod.swap)

lemma mem_ipToHosts {inv : Inventory} {ip host : Str} :
    host ∈ inv.ipToHosts ip ↔ (host, ip) ∈ inv.resolutions := by
  simp [Inventory.ipToHosts, mem_valuesOf]

/-! ## Open ports (`app/assets/normalization.py`) -/

/-- The `host` group of `_PORT_RE` and the text after its colon. -/
def portReHost : Str → Option (Str × Str)
  | '[' :: rest =>
    match partition ']' rest with
    | some (host, ':' :: after) =>
      if host ≠ [] && host.all (fun c => isHexDigit c || c == ':' || c == '.') then
        some ('[' :: host ++ [']'], after)
      else none
    | _ => none
  | s =>
    match partition ':' s with
    | some (host, after) =>
      if host ≠ [] && host.all (fun c => c.isDigit || c == '.') then some (host, after) else none
    | none => none

variable (U : Unicode)

/-- The `host`, `port` and `proto` groups of `_PORT_RE`, the protocol in lower case. -/
def portRe (s : Str) : Option (Str × Str × Str) :=
  match portReHost s with
  | none => none
  | some (host, after) =>
    match partition '/' after with
    | none => none
    | some (port, proto) =>
      let proto := proto.map Char.toLower
      if port ≠ [] && decide (port.length ≤ 5) && port.all (fun c => (U.decimal c).isSome) &&
          (proto == "tcp".toList || proto == "udp".toList) then
        some (host, port, proto)
      else none

/-- `int(s)` of a text of decimal digits. -/
def intOf (s : Str) : Nat := s.foldl (fun n c => 10 * n + (U.decimal c).getD 0) 0

variable (value : Str)

def normalizeIp : Option Str := (ipAddress (strip value)).map Address.toStr

def normalizePort : Option Str :=
  match portRe U (strip value) with
  | none => none
  | some (host, port, proto) =>
    match normalizeIp (stripChars ['[', ']'] host) with
    | none => none
    | some ip =>
      if 1 ≤ intOf U port ∧ intOf U port ≤ 65535 then
        some (bracketHost ip ++ ':' :: dec (intOf U port) ++ '/' :: proto)
      else none

def parsePortValue : Option (Str × Nat × Str) :=
  match normalizePort U value with
  | none => none
  | some norm =>
    let (hostpart, rest) := (rpartition ':' norm).getD ([], norm)
    let (port, proto) := (partition '/' rest).getD (rest, [])
    some (stripChars ['[', ']'] hostpart, intOf U port, proto)

/-- `_open_ports`. -/
def Inventory.openPorts : List (Str × Nat) :=
  (inv.assets.filter fun a => a.assetType == .port && a.status == .active).filterMap fun a =>
    match parsePortValue U a.normalizedValue with
    | some (ip, port, proto) => if proto = "tcp".toList then some (ip, port) else none
    | none => none

/-! ## The other queries of the builder -/

def Inventory.entries : List ScopeRule := inv.scopeEntries.filter (!·.isExclusion)

def Inventory.addresses : List Asset := inv.assets.filter fun a =>
    a.assetType == .ipAddress && a.status == .active && a.scopeStatus != .outOfScope

def Inventory.derivedAddresses : List Asset := inv.assets.filter fun a =>
    a.assetType == .ipAddress && a.status == .active && a.scopeStatus == .derived

def Inventory.endpoints : List Asset := inv.assets.filter fun a =>
    a.assetType == .httpEndpoint && a.status == .active && a.scopeStatus != .outOfScope

end App.Scans
