import AttackSurface.Sensors.Endpoints

/-!
# Canonical asset values (`app/assets/normalization.py`)

Two observations are of one asset when they have the same key: the asset type and the
canonical value.  The public suffix list (`tldextract`) is the parameter
`registrableDomain`.
-/

namespace App.Assets

open PyText PyNet AsmSensors App.Scans

/-- A key of the inventory: `(asset_type, normalized_value)`. -/
abbrev AKey := AssetType × Str

instance : LawfulBEq AKey := inferInstanceAs (LawfulBEq (AssetType × Str))

/-- `_ASN_RE`, the digits; the letters in either case (the long `s` folds to `s`). -/
def asnDigits (U : Unicode) (s : Str) : Option Str :=
  let digits := match s with
    | a :: b :: rest =>
      if (a == 'a' || a == 'A') && (b == 's' || b == 'S' || b == 'ſ') then rest else s
    | _ => s
  if digits ≠ [] && decide (digits.length ≤ 10) && digits.all (fun c => (U.decimal c).isSome) then
    some digits
  else none

/-- `s.split()`. -/
def words (s : Str) : List Str := (s.splitOnP isSpace).filter (· ≠ [])

/-- `_FP_RE`; `$` also matches before a final line feed. -/
def isFingerprint (v : Str) : Bool :=
  let body := if v.getLast? = some '\n' then v.dropLast else v
  decide (8 ≤ body.length ∧ body.length ≤ 128) && body.all isLowerHex

def normalizeCidr (value : Str) : Option Str := (ipNetwork (strip value)).map Network.toStr

/-- `normalize_value`: the canonical value, or `none` when it is not valid for the type. -/
def normalizeValue (U : Unicode) (t : ObservedType) (value : Str) : Option Str :=
  if strip value = [] ∨ 2048 < value.length then none
  else
    match t with
    | .hostname => (validateHostname U value).toOption
    | .ipAddress => normalizeIp value
    | .cidr => normalizeCidr value
    | .asn => (asnDigits U (strip value)).map fun digits => "AS".toList ++ dec (intOf U digits)
    | .port | .service => normalizePort U value
    | .httpEndpoint => (endpointBase U (strip value)).map EndpointBase.base
    | .technology =>
      let v := [' '].intercalate (words (U.lower (strip value)))
      if v = [] then none else some (v.take 128)
    | .certificate =>
      let v := (U.lower (strip value)).filter (· != ':')
      if isFingerprint v then some v else none
    | .cloudResource | .webApplication | .dnsRecord =>
      let v := U.lower (strip value)
      if v = [] || v.any (fun c => decide (c.toNat < 32)) then none else some (v.take 512)

variable (registrableDomain : Str → Option Str) (rootDomains : List Str) (host : Str)

def classifyHostname : AssetType :=
  if host ∈ rootDomains then .rootDomain
  else if registrableDomain host = some host then .domain
  else .subdomain

def assetTypeFor (value : Str) : ObservedType → AssetType
  | .hostname => classifyHostname registrableDomain rootDomains value
  | .ipAddress => .ipAddress
  | .cidr => .cidr
  | .asn => .asn
  | .dnsRecord => .dnsRecord
  | .certificate => .certificate
  | .port => .port
  | .service => .service
  | .httpEndpoint => .httpEndpoint
  | .webApplication => .webApplication
  | .technology => .technology
  | .cloudResource => .cloudResource

def hostnameAssetTypes : List AssetType := [.rootDomain, .domain, .subdomain]

def assetTypesOf (t : ObservedType) : List AssetType :=
  if t = .hostname then hostnameAssetTypes else [assetTypeFor (fun _ => none) [] [] t]

/-- One round of the loop of `parent_domain`. -/
def betterRoot (best : Option Str) (root : Str) : Option Str :=
  if host ≠ root ∧ endsWith ('.' :: root) host = true then
    match best with
    | none => some root
    | some b => if b.length < root.length then some root else some b
  else best

/-- `parent_domain`: the longest scoped root above the host, else its registrable domain. -/
def parentDomain : Option Str :=
  match rootDomains.foldl (betterRoot host) none with
  | some root => some root
  | none => (registrableDomain host).filter (· ≠ host)

end App.Assets
