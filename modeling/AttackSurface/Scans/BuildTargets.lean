import AttackSurface.Scans.Inventory

/-!
# Building a stage's targets (`app/scans/targets.py`)

`buildTargets` turns the inventory into the targets of one pipeline stage.  It is
translated as it stands: which source is filtered by the scan's override and which
is not is what the override results are about.  `none` is a `ValueError` (a stored
URL that `urlsplit` refuses).

    t is emitted under some limit ↔ some value the stage selects makes t
                                                          (mem_pushAll, mem_crawlEndpoints)
-/

namespace App.Scans

open PyText PyNet AsmSensors App.Scope

inductive StageType
  | subdomainDiscovery
  | dnsResolution
  | ipEnrichment
  | portDiscovery
  | httpDiscovery
  | webCrawl
  | vulnerabilityDetection
  | osintEnrichment
deriving DecidableEq, Repr

structure StageTargets (U : Unicode) where
  targets : List (Target U) := []
  /-- address → host names resolving to it -/
  derivedFrom : DerivedFrom := noMap
  invalid : List Str := []

/-- `_t`. -/
def StageTargets.push {U : Unicode} (out : StageTargets U) (kind : TargetKind) (value : Str) : StageTargets U :=
  match Target.make U kind value with
  | .ok t => { out with targets := out.targets ++ [t] }
  | .error _ => { out with invalid := out.invalid ++ [value] }

def StageTargets.pushAll {U : Unicode} (out : StageTargets U) (vs : List (TargetKind × Str)) : StageTargets U :=
  vs.foldl (fun out v => out.push v.1 v.2) out

/-! ## The override -/

/-- The hosts a scan was limited to, and the ports named with them. -/
structure Override where
  hosts : List Str
  ports : List (Str × Nat)

/-- `u.port or (443 if u.scheme == "https" else 80)`; `none` is the `ValueError` of `u.port`. -/
def urlPort (u : SplitResult) : Option Nat :=
  let default := if u.scheme = "https".toList then 443 else 80
  match u.port with
  | none => none
  | some none => some default
  | some (some p) => some (if p = 0 then default else p)

variable (U : Unicode)

/-- What one entry of `target_override` adds. -/
def overrideEntry (raw : Str) : Option Override :=
  if contains "://".toList raw then
    match urlsplit raw with
    | none => none
    | some u =>
      if u.hostname U = [] then some ⟨[], []⟩
      else
        match urlPort u with
        | none => none
        | some port => some ⟨[u.hostname U], [(u.hostname U, port)]⟩
  else
    match splitHostPort U raw with
    | .error _ => some ⟨[raw], []⟩
    | .ok (host, port) => some ⟨[host], [(host, port)]⟩

/-- `_override`. -/
def override (U : Unicode) : List Str → Option Override
  | [] => some ⟨[], []⟩
  | raw :: raws =>
    match overrideEntry U raw, override U raws with
    | some o, some os => some ⟨o.hosts ++ os.hosts, o.ports ++ os.ports⟩
    | _, _ => none

/-- `not override or host in override`. -/
def Override.keeps (ov : Override) (host : Str) : Bool := ov.hosts.isEmpty || decide (host ∈ ov.hosts)

/-- `override_ports.get(host)`: empty without the key. -/
def Override.named (ov : Override) (host : Str) : List Nat := valuesOf ov.ports host

/-! ## The stages -/

def entryValues (entries : List ScopeRule) : List (TargetKind × Str) := entries.filterMap fun e =>
    match e.entryType with
    | .ip => some (.ip, e.value)
    | .cidr => some (.cidr, e.value)
    | .domain => none

variable (inv : Inventory) (ov : Override)

def domainValues : List (TargetKind × Str) :=
  (inv.entries.filter fun e => e.entryType == .domain && ov.keeps e.value).map fun e =>
    (.domain, e.value)

def nameValues : List (TargetKind × Str) :=
  let names := (inv.hostnames true).map Asset.normalizedValue ++
    (inv.entries.filter (·.entryType == .domain)).map ScopeRule.value
  let names := names.filter fun n =>
    ov.keeps n || ov.hosts.any fun o => endsWith ('.' :: o) n
  (sortedNames names.dedup).map fun n => (.hostname, n)

/-- The override lets a derived address through: it is named, or a named host resolves to it. -/
def keepsAddress (ip : Str) : Bool :=
  ov.keeps ip || (inv.ipToHosts ip).any (· ∈ ov.hosts)

def portDiscovery : StageTargets U :=
  let out := ({ derivedFrom := inv.ipToHosts } : StageTargets U).pushAll (entryValues inv.entries)
  let seen := out.targets.map Target.value
  let rows := inv.derivedAddresses.filter fun a =>
    decide (a.normalizedValue ∉ seen) && !(inv.skipCdnIps && a.cdn) && keepsAddress inv ov a.normalizedValue
  out.pushAll (rows.map fun a => (.ip, a.normalizedValue))

def nonHttpPorts : List Nat :=
  [21, 22, 23, 25, 53, 110, 111, 135, 139, 143, 389, 445, 465, 587, 636, 993, 995, 1433, 1521, 2049,
    3306, 3389, 5432, 5900, 5901, 6379, 9042, 11211, 27017, 27018]

def hostPortValue (host : Str) (port : Nat) : TargetKind × Str := (.hostPort, formatHostPort host port)

def hostnameValues (ports : List (Str × Nat)) (host : Str) : List (TargetKind × Str) :=
  let web := ((inv.hostToIps host).flatMap fun ip => valuesOf ports ip).filter (· ∉ nonHttpPorts)
  if web = [] then [(.hostname, host)] else web.map (hostPortValue host)

def endpointValue (url : Str) : Option (List (TargetKind × Str)) :=
  match urlsplit url with
  | none => none
  | some u =>
    let host := u.hostname U
    if host = [] || !ov.keeps host then some []
    else
      match urlPort u with
      | none => none
      | some port =>
        if ov.named host ≠ [] ∧ port ∉ ov.named host then some []
        else some [hostPortValue host port]

def endpointValues (U : Unicode) (ov : Override) : List Asset → Option (List (TargetKind × Str))
  | [] => some []
  | a :: as =>
    match endpointValue U ov a.normalizedValue, endpointValues U ov as with
    | some vs, some ws => some (vs ++ ws)
    | _, _ => none

/-- `kind.value`. -/
def kindName : TargetKind → Str
  | .domain => "domain".toList
  | .hostname => "hostname".toList
  | .ip => "ip".toList
  | .cidr => "cidr".toList
  | .hostPort => "host_port".toList
  | .url => "url".toList

/-- `a <= b` for pairs of a kind and a text. -/
def valueLe (a b : TargetKind × Str) : Bool :=
  if a.1 = b.1 then strLe a.2 b.2 else strLe (kindName a.1) (kindName b.1)

def httpValues : Option (List (TargetKind × Str)) :=
  let ports := inv.openPorts U
  let named := ov.ports.map fun r => hostPortValue r.1 r.2
  let names := ((inv.hostnames false).filter fun a =>
    ov.keeps a.normalizedValue && decide (ov.named a.normalizedValue = [])).flatMap fun a =>
      hostnameValues inv ports a.normalizedValue
  -- neither of the next two asks the override
  let unnamed := (ports.filter fun r =>
    decide (inv.ipToHosts r.1 = []) && decide (r.2 ∉ nonHttpPorts)).map fun r => hostPortValue r.1 r.2
  let addresses := (inv.entries.filter fun e =>
    e.entryType == .ip && decide (valuesOf ports e.value = [])).map fun e => (.ip, e.value)
  match endpointValues U ov inv.endpoints with
  | none => none
  | some known => some (named ++ names ++ unnamed ++ addresses ++ known)

def httpDiscovery : Option (StageTargets U) :=
  match httpValues U inv ov with
  | none => none
  | some vs =>
    some (({ derivedFrom := inv.ipToHosts } : StageTargets U).pushAll
      (vs.dedup.insertionSort fun a b => valueLe a b))

def pushPages {U : Unicode} (limit : Nat) (url : Str) : List Str → StageTargets U → StageTargets U
  | [], out => out
  | page :: pages, out =>
    if limit ≤ out.targets.length then out else pushPages limit url pages (out.push .url (url ++ page))

/-- The override lets an endpoint through: its host is named, and its port when one is. -/
def keepsUrl (u : SplitResult) : Option Bool :=
  let host := u.hostname U
  if !ov.hosts.isEmpty && (host = [] || host ∉ ov.hosts) then some false
  else if ov.named host = [] then some true
  else (urlPort u).map fun port => decide (port ∈ ov.named host)

def crawlEndpoints (U : Unicode) (ov : Override) (limit : Nat) (crawledPages : Bool) :
    List Asset → StageTargets U → Option (StageTargets U)
  | [], out => some out
  | a :: as, out =>
    match urlsplit a.normalizedValue with
    | none => none
    | some u =>
      match keepsUrl U ov u with
      | none => none
      | some false => crawlEndpoints U ov limit crawledPages as out
      | some true =>
        let out := out.push .url a.normalizedValue
        let out := if crawledPages then pushPages limit a.normalizedValue a.crawledPages out else out
        crawlEndpoints U ov limit crawledPages as out

/-- The targets of a stage, before `limit` is applied to the whole. -/
def stageTargets (stage : StageType) (limit : Nat) (crawledPages : Bool) : Option (StageTargets U) :=
  match stage with
  | .subdomainDiscovery | .osintEnrichment => some (({} : StageTargets U).pushAll (domainValues inv ov))
  | .dnsResolution => some (({} : StageTargets U).pushAll (nameValues inv ov))
  | .ipEnrichment =>
    some (({ derivedFrom := inv.ipToHosts } : StageTargets U).pushAll
      (inv.addresses.map fun a => (.ip, a.normalizedValue)))
  | .portDiscovery => some (portDiscovery U inv ov)
  | .httpDiscovery => httpDiscovery U inv ov
  | .webCrawl | .vulnerabilityDetection =>
    crawlEndpoints U ov limit crawledPages inv.endpoints { derivedFrom := inv.ipToHosts }

/-- `build_targets`. -/
def buildTargets (targetOverride : List Str) (stage : StageType)
    (limit : Nat) (crawledPages : Bool) : Option (StageTargets U) :=
  match override U targetOverride with
  | none => none
  | some ov =>
    (stageTargets U inv ov stage limit crawledPages).map fun out =>
      { out with targets := out.targets.take limit }

/-! ## What is emitted -/

section Emitted

variable {U : Unicode} {out : StageTargets U}

variable {t : Target U}

lemma mem_push {kind : TargetKind} {value : Str} :
    t ∈ (out.push kind value).targets ↔ t ∈ out.targets ∨ Target.make U kind value = .ok t := by
  unfold StageTargets.push
  cases Target.make U kind value with
  | error e => simp
  | ok u => simp [eq_comm]

lemma length_push_le (out : StageTargets U) (kind : TargetKind) (value : Str) :
    (out.push kind value).targets.length ≤ out.targets.length + 1 := by
  unfold StageTargets.push
  split <;> simp

/-- **A target is emitted exactly when some selected value makes it.** -/
theorem mem_pushAll {vs : List (TargetKind × Str)} : t ∈ (out.pushAll vs).targets ↔
      t ∈ out.targets ∨ ∃ v ∈ vs, Target.make U v.1 v.2 = .ok t := by
  induction vs generalizing out with
  | nil => simp [StageTargets.pushAll]
  | cons v vs ih =>
    show t ∈ ((out.push v.1 v.2).pushAll vs).targets ↔ _
    rw [ih, mem_push, or_assoc]
    simp

lemma length_pushAll_le (out : StageTargets U) (vs : List (TargetKind × Str)) :
    (out.pushAll vs).targets.length ≤ out.targets.length + vs.length := by
  induction vs generalizing out with
  | nil => simp [StageTargets.pushAll]
  | cons v vs ih =>
    have h1 := ih (out.push v.1 v.2)
    have h2 := length_push_le out v.1 v.2
    show ((out.push v.1 v.2).pushAll vs).targets.length ≤ _
    simp only [List.length_cons]
    omega

lemma pushAll_append (vs ws : List (TargetKind × Str)) :
    out.pushAll (vs ++ ws) = (out.pushAll vs).pushAll ws := by
  simp [StageTargets.pushAll]

/-! ### Endpoints and their pages -/

def endpointUrls (crawledPages : Bool) (a : Asset) : List (TargetKind × Str) := (.url, a.normalizedValue) ::
    if crawledPages then a.crawledPages.map fun page => (.url, a.normalizedValue ++ page) else []

def keptEndpoints (U : Unicode) (ov : Override) (as : List Asset) : List Asset :=
  as.filter fun a => (urlsplit a.normalizedValue).any fun u => keepsUrl U ov u == some true

variable {limit : Nat}

lemma mem_pushPages {url : Str} {pages : List Str} (h : t ∈ (pushPages limit url pages out).targets) :
    t ∈ out.targets ∨ ∃ page ∈ pages, Target.make U .url (url ++ page) = .ok t := by
  induction pages generalizing out with
  | nil => exact .inl h
  | cons page pages ih =>
    unfold pushPages at h
    split at h
    · exact .inl h
    rcases ih h with h | ⟨q, hq, hmake⟩
    · rcases mem_push.1 h with h | h
      · exact .inl h
      · exact .inr ⟨page, by simp, h⟩
    · exact .inr ⟨q, by simp [hq], hmake⟩

lemma pushPages_eq {url : Str} {pages : List Str} (h : out.targets.length + pages.length ≤ limit) :
    pushPages limit url pages out = out.pushAll (pages.map fun page => (.url, url ++ page)) := by
  induction pages generalizing out with
  | nil => rfl
  | cons page pages ih =>
    simp only [List.length_cons] at h
    have hlen := length_push_le out .url (url ++ page)
    unfold pushPages
    rw [if_neg (by omega), ih (by omega)]
    rfl

/-- **Under any limit only URLs and pages of let-through endpoints are emitted.** -/
theorem mem_crawlEndpoints {ov : Override} {crawledPages : Bool} {as : List Asset}
    {out' : StageTargets U} (h : crawlEndpoints U ov limit crawledPages as out = some out')
    (ht : t ∈ out'.targets) :
    t ∈ out.targets ∨
      ∃ a ∈ keptEndpoints U ov as, ∃ v ∈ endpointUrls true a, Target.make U v.1 v.2 = .ok t := by
  induction as generalizing out with
  | nil =>
    simp only [crawlEndpoints, Option.some.injEq] at h
    exact .inl (h ▸ ht)
  | cons a as ih =>
    unfold crawlEndpoints at h
    split at h
    · cases h
    next u hu =>
    have hsub : ∀ b ∈ keptEndpoints U ov as, b ∈ keptEndpoints U ov (a :: as) := by
      intro b hb
      simp only [keptEndpoints, List.mem_filter, List.mem_cons] at hb ⊢
      exact ⟨.inr hb.1, hb.2⟩
    split at h
    · cases h
    · rcases ih h with h | ⟨b, hb, hv⟩
      · exact .inl h
      · exact .inr ⟨b, hsub b hb, hv⟩
    · next hk =>
      have ha : a ∈ keptEndpoints U ov (a :: as) := by simp [keptEndpoints, hu, hk]
      rcases ih h with h | ⟨b, hb, hv⟩
      · -- emitted for this endpoint: its URL or one of its pages
        have hpages : t ∈ (out.push .url a.normalizedValue).targets ∨
            ∃ page ∈ a.crawledPages, Target.make U .url (a.normalizedValue ++ page) = .ok t := by
          split at h
          · exact mem_pushPages h
          · exact .inl h
        rcases hpages with h | ⟨page, hp, hmake⟩
        · rcases mem_push.1 h with h | h
          · exact .inl h
          · exact .inr ⟨a, ha, (.url, a.normalizedValue), by simp [endpointUrls], h⟩
        · exact .inr ⟨a, ha, (.url, a.normalizedValue ++ page), by simp [endpointUrls, hp], hmake⟩
      · exact .inr ⟨b, hsub b hb, hv⟩

lemma crawlEndpoints_eq {ov : Override} (limit : Nat) {limit' : Nat} {crawledPages : Bool}
    {as : List Asset} (out : StageTargets U) {out₀ out₁ : StageTargets U}
    (h : crawlEndpoints U ov limit' crawledPages as out₀ = some out₁)
    (hlim : out.targets.length + ((keptEndpoints U ov as).flatMap (endpointUrls true)).length ≤ limit) :
    crawlEndpoints U ov limit true as out =
      some (out.pushAll ((keptEndpoints U ov as).flatMap (endpointUrls true))) := by
  induction as generalizing out out₀ with
  | nil => rfl
  | cons a as ih =>
    unfold crawlEndpoints at h ⊢
    split at h
    · cases h
    next u hu =>
    split at h
    · cases h
    · next hk =>
      have hkept : keptEndpoints U ov (a :: as) = keptEndpoints U ov as := by
        simp [keptEndpoints, hu, hk]
      rw [hkept] at hlim ⊢
      exact ih _ h hlim
    · next hk =>
      have hkept : keptEndpoints U ov (a :: as) = a :: keptEndpoints U ov as := by
        simp [keptEndpoints, hu, hk]
      rw [hkept, List.flatMap_cons] at hlim ⊢
      have hlen : (endpointUrls true a).length = 1 + a.crawledPages.length := by
        simp [endpointUrls]
        omega
      have hpush := length_push_le out .url a.normalizedValue
      have hall := length_pushAll_le out (endpointUrls true a)
      simp only [List.length_append] at hlim
      have hpages : pushPages limit a.normalizedValue a.crawledPages (out.push .url a.normalizedValue) =
          out.pushAll (endpointUrls true a) := by
        rw [pushPages_eq (by omega)]
        rfl
      simp only [if_true, hpages]
      rw [ih _ h (by omega), pushAll_append]

end Emitted

end App.Scans
