import AttackSurface.Order.StableSort
import AttackSurface.Sensors.TargetLaws

/-!
# The scope checker (`app/scope/checker.py`)

The single place that decides whether a target may be scanned, as the source
computes it: `domainRules` and `ipRules` sort the matching entries most specific
first, `checkHost` decides a host (trying the names an address was resolved from),
`check` decides a target and walks the entries in listed order for a network.

A decision is `none` where the source raises `ValueError`.  `ScopeChecker` carries
the networks that `__post_init__` parsed, so a checker with a malformed entry cannot
be built.
-/

namespace App.Scope

open PyText PyNet AsmSensors StableSort

inductive ScopeEntryType
  | domain
  | ip
  | cidr
deriving DecidableEq, Repr

inductive ScopeStatus
  | inScope
  | derived
  | outOfScope
deriving DecidableEq, Repr

structure ScopeRule where
  id : Option Nat
  entryType : ScopeEntryType
  value : Str
  includeSubdomains : Bool := true
  isExclusion : Bool := false
  allowActiveScanning : Bool := true
  verified : Bool := true
deriving DecidableEq

structure Decision where
  allowed : Bool
  reason : Str
  status : ScopeStatus
  ruleId : Option Nat := none
deriving DecidableEq

/-- `__post_init__`: the networks of the IP and CIDR entries (`none`: `ValueError`). -/
def netsOf : List ScopeRule → Option (List (Network × ScopeRule))
  | [] => some []
  | r :: rs =>
    if r.entryType = .domain then netsOf rs
    else
      match ipNetwork r.value, netsOf rs with
      | some n, some nets => some ((n, r) :: nets)
      | _, _ => none

structure ScopeChecker where
  rules : List ScopeRule
  requireVerification : Bool := false
  derivedIpScanning : Bool := true
  allowNonPublic : Bool
  nets : List (Network × ScopeRule)
  nets_eq : netsOf rules = some nets

lemma netsOf_nil : netsOf [] = some [] := rfl

/-- `ScopeChecker(rules, …)`. -/
def ScopeChecker.make (rules : List ScopeRule)
    (requireVerification derivedIpScanning allowNonPublic : Bool) : Option ScopeChecker :=
  match h : netsOf rules with
  | none => none
  | some nets => some ⟨rules, requireVerification, derivedIpScanning, allowNonPublic, nets, h⟩

/-- `derived_from`: for an address, the names it was resolved from. -/
abbrev DerivedFrom := Str → List Str

def noMap : DerivedFrom := fun _ => []

/-- `a <= b` for Python strings. -/
def strLe : Str → Str → Bool
  | [], _ => true
  | _ :: _, [] => false
  | a :: s, b :: t => decide (a.toNat < b.toNat) || (a == b && strLe s t)

/-- `sorted(names)`. -/
def sortedNames (l : List Str) : List Str := l.insertionSort fun a b => strLe a b

/-! ## Matching entries -/

variable (host : Str)

def domainMatches (r : ScopeRule) : Bool := r.entryType == .domain &&
    (host == r.value || (r.includeSubdomains && endsWith ('.' :: r.value) host))

variable (c : ScopeChecker)

section

variable (host : Str)

/-- `_domain_rules`, most specific first. -/
def ScopeChecker.domainRules (exclusion : Bool) : List ScopeRule :=
  sortDesc (fun r => r.value.length)
    (c.rules.filter fun r => r.isExclusion == exclusion && domainMatches host r)

/-- `_ip_rules`, longest prefix first. -/
def ScopeChecker.ipRules (ip : Str) (exclusion : Bool) : List ScopeRule :=
  match ipAddress ip with
  | none => []
  | some addr =>
    (sortDesc (fun p => p.1.prefixlen)
      (c.nets.filter fun p => p.2.isExclusion == exclusion && p.1.contains addr)).map Prod.snd

/-- `root_domains`. -/
def ScopeChecker.rootDomains : List Str :=
  (c.rules.filter fun r => r.entryType == .domain && !r.isExclusion).map ScopeRule.value

/-- `hostname_status`, the status alone. -/
def ScopeChecker.hostnameStatus : ScopeStatus :=
  if c.domainRules host true ≠ [] then .outOfScope
  else if c.domainRules host false ≠ [] then .inScope
  else .outOfScope

/-- `is_excluded_ip`. -/
def ScopeChecker.isExcludedIp (ip : Str) : Bool := c.ipRules ip true != []

/-- `ip_status`, the status alone. -/
def ScopeChecker.ipStatus (ip : Str) : ScopeStatus :=
  if c.isExcludedIp ip then .outOfScope
  else if c.ipRules ip false ≠ [] then .inScope
  else .outOfScope

/-! ## Decisions -/

/-- `_authorize`. -/
def ScopeChecker.authorize (rule : ScopeRule) (active : Bool) (what : Str) : Decision :=
  if active && !rule.allowActiveScanning then
    ⟨false, what ++ " matched scope entry ".toList ++ rule.value ++
      " which does not permit active scanning".toList, .inScope, rule.id⟩
  else if active && c.requireVerification && !rule.verified then
    ⟨false, "scope entry ".toList ++ rule.value ++ " is not verified".toList, .inScope, rule.id⟩
  else
    ⟨true, what ++ " within authorized scope entry ".toList ++ rule.value, .inScope, rule.id⟩

/-- `_public_only`: no active scanning of a non-public destination. -/
def ScopeChecker.publicOnly (address : Str) (active : Bool) (d : Decision) : Option Decision :=
  if !d.allowed || !active || c.allowNonPublic then some d
  else
    match ipNetwork address with
    | none => none
    | some net =>
      if net.isGlobal then some d
      else
        some ⟨false, address ++
          " is not a publicly routable address; it is never actively scanned".toList, d.status,
          d.ruleId⟩

/-- The loop over the names an address was resolved from: the first authorized one decides. -/
def ScopeChecker.derivedDecision (c : ScopeChecker) (checkParent : Str → Option Decision)
    (host : Str) (active : Bool) : List Str → Option Decision
  | [] => some ⟨false, "IP address is not within authorized scope".toList, .outOfScope, none⟩
  | parent :: rest =>
    match checkParent parent with
    | none => none
    | some d =>
      if d.allowed then
        if active && !c.derivedIpScanning then
          some ⟨false, ("IP is only derived from in-scope hostnames and derived scanning is " ++
            "disabled").toList, .derived, d.ruleId⟩
        else
          c.publicOnly host active
            ⟨true, "IP address resolved from in-scope hostname ".toList ++ parent, .derived, d.ruleId⟩
      else c.derivedDecision checkParent host active rest

/-- The body of `check_host`, with the recursive call and the host's parents as arguments. -/
def ScopeChecker.hostDecision (checkParent : Str → Option Decision)
    (parents : List Str) (host : Str) (active : Bool) : Option Decision :=
  match ipAddress host with
  | none =>
    if c.domainRules host true ≠ [] then
      some ⟨false, "hostname excluded from scope".toList, .outOfScope, none⟩
    else
      match c.domainRules host false with
      | [] => some ⟨false, "hostname is not within any authorized domain".toList, .outOfScope, none⟩
      | r :: _ => some (c.authorize r active "hostname".toList)
  | some _ =>
    if c.ipRules host true ≠ [] then
      some ⟨false, "IP address excluded from scope".toList, .outOfScope, none⟩
    else
      match c.ipRules host false with
      | r :: _ => c.publicOnly host active (c.authorize r active "IP address".toList)
      | [] => c.derivedDecision checkParent host active parents

/-- `check_host(host, active=active)`: without a derivation map there are no parents. -/
def ScopeChecker.checkHostDirect (active : Bool) : Option Decision :=
  c.hostDecision (fun _ => none) [] host active

/-- `check_host(host, active=active, derived_from=derivedFrom)`. -/
def ScopeChecker.checkHost (active : Bool) (derivedFrom : DerivedFrom) : Option Decision :=
  c.hostDecision (fun parent => c.checkHostDirect parent active) (sortedNames (derivedFrom host))
    host active

end

/-- `check` of a network: exclusions first, then the first listed entry around it. -/
def ScopeChecker.checkNetwork (value : Str) (active : Bool) : Option Decision :=
  match ipNetwork value with
  | none => none
  | some net =>
    match c.nets.find? fun p => p.2.isExclusion && p.1.overlaps net with
    | some p =>
      some ⟨false, "network overlaps excluded range ".toList ++ p.2.value, .outOfScope, none⟩
    | none =>
      match c.nets.find? fun p =>
          !p.2.isExclusion && (p.1.version == net.version && net.subnetOf p.1) with
      | some p => c.publicOnly value active (c.authorize p.2 active "network".toList)
      | none => some ⟨false, "network is not within authorized scope".toList, .outOfScope, none⟩

/-- `check`. -/
def ScopeChecker.check {U : Unicode} (c : ScopeChecker) (target : Target U) (active : Bool)
    (derivedFrom : DerivedFrom) : Option Decision :=
  if target.kind = .cidr then c.checkNetwork target.value active
  else
    match target.host with
    | .error _ => none
    | .ok host => c.checkHost host active derivedFrom

/-- The `allowed` flag of a decision that was returned. -/
def isAllowed (d : Option Decision) : Bool := d.any fun d => d.allowed

end App.Scope
