import AttackSurface.Sensors.Adapters
import AttackSurface.Store.Groups

/-!
# What a web probe covers (`asm_sensors/adapters/httpx`)

The coverage that `HttpxAdapter.normalize` returns.  The ports that were probed are collected
per host, hosts with the same ports are put into one entry, and the ports of an entry are
printed as a specification that the platform reads back.

`CoverageExact` is what the entries should say: every host has one entry, under its own kind,
and a port is in the specification of that entry exactly when it was probed on that host.  The
kind of a bare target is the kind of the target, and the kind of a `host:port` is found from
its text, so that a name that reads as an address is a different parent in the two:

    CoverageExact  ↔  no bare name reads as an address        (coverageExact_iff)
-/

namespace AsmSensors.Httpx

open PyText PyNet PyDict App.Scans App.Scope Intervals List

/-- The settings that the coverage depends on, as the validator of `HttpxConfig` leaves them. -/
structure Config (U : Unicode) where
  ports : Str := PortSets.web
  techDetect : Bool := true
  tlsGrab : Bool := true
  /-- `_ports`; the default is not validated -/
  normalized : ports = PortSets.web ∨ ∃ v w, validatePortSpec U v = some w ∧ normalizeSpec U w = some ports

variable {U : Unicode}

/-- `_expand`, for the texts that a configuration can hold. -/
def expand (U : Unicode) (spec : Str) : Option (List Nat) :=
  ((spec.splitOn ',').mapM (portRange U)).map fun rs =>
    rs.flatMap fun r => List.range' r.1 (r.2 + 1 - r.1)

/-- The kind of asset that the host of a `host:port` target is. -/
def hostKind (host : Str) : ObservedType :=
  if (cleanIp (.str host)).isSome then .ipAddress else .hostname

/-- The ports that one target adds to `probed`, each with the key it is added to. -/
def probesOf (bare : List Nat) (t : Target U) : Option (List ((ObservedType × Str) × Nat)) :=
  match t.kind with
  | .hostname => some (bare.map fun p => ((.hostname, t.value), p))
  | .ip => some (bare.map fun p => ((.ipAddress, t.value), p))
  | .hostPort =>
    match splitHostPort U t.value with
    | .ok (h, p) => some [((hostKind h, h), p)]
    | .error _ => none
  | _ => some []

variable (cfg : Config U) (targets : List (Target U))

/-- `probed`; the lists hold the members of its sets. -/
def probed : Option (Groups (ObservedType × Str) Nat) := do
  let bare ← expand U cfg.ports
  let probes ← targets.mapM (probesOf bare)
  some (pushAll [] probes.flatten)

/-- `normalize_spec` of a set of ports. -/
def specOf (U : Unicode) (ports : List Nat) : Option Str :=
  normalizeSpec U ([','].intercalate ((ports.dedup.insertionSort (· ≤ ·)).map dec))

/-- `grouped`. -/
def grouped : Option (Groups (ObservedType × Str) Str) := do
  let probed ← probed cfg targets
  let entries ← probed.mapM fun e => (specOf U e.2).map fun spec => ((e.1.1, spec), e.1.2)
  some (pushAll [] entries)

def servesEntry (group : (ObservedType × Str) × List Str) : RelationCoverage where
  parentType := group.1.1
  parents := sortedNames group.2
  relation := .serves
  childType := .httpEndpoint
  constraints := { portSpec := some group.1.2 }

def techCoverage (endpoints : List Str) : RelationCoverage where
  parentType := .httpEndpoint
  parents := sortedNames endpoints.dedup
  relation := .usesTechnology
  childType := .technology

def certificateCoverage (endpoints : List Str) : RelationCoverage where
  parentType := .httpEndpoint
  parents := sortedNames endpoints.dedup
  relation := .presentsCertificate
  childType := .certificate

/-- The coverage of `HttpxAdapter.normalize`, for the endpoints that answered and those of them
that showed a certificate. -/
def coverage (observed tls : List Str) : Option (List Coverage) :=
  (grouped cfg targets).map fun groups =>
    groups.map (fun g => .relation (servesEntry g)) ++
      (if cfg.techDetect && !observed.isEmpty then [.relation (techCoverage observed)] else []) ++
      (if cfg.tlsGrab && !tls.isEmpty then [.relation (certificateCoverage tls)] else [])

/-! ## What the entries should say -/

variable (t : Target U) (host : Str)

def OnHost : Prop := (t.kind = .hostname ∨ t.kind = .ip) ∧ t.value = host ∨
    t.kind = .hostPort ∧ ∃ p, splitHostPort U t.value = .ok (host, p)

/-- The target has this port of this host probed: every configured port of a bare host, and the
port that is named. -/
def Probes (p : Nat) : Prop :=
  (t.kind = .hostname ∨ t.kind = .ip) ∧ t.value = host ∧ (p : ℤ) ∈ ports U cfg.ports ∨
    t.kind = .hostPort ∧ splitHostPort U t.value = .ok (host, p)

def servesEntries (coverage : List Coverage) : List RelationCoverage :=
  coverage.filterMap fun c => match c with
    | .relation e => if e.relation = .serves then some e else none
    | _ => none

/-- Each host of a target has one entry, with the kind of the host and the ports that were probed
on it, and no other host has one. -/
structure CoverageExact (cfg : Config U) (targets : List (Target U)) (entries : List RelationCoverage) :
    Prop where
  one : ∀ t ∈ targets, ∀ host, OnHost t host →
    ∃ e, (entries.filter fun e => decide (host ∈ e.parents)) = [e] ∧ e.parentType = hostKind host ∧
      ∃ spec, e.constraints.portSpec = some spec ∧ ∀ p : ℤ, ∃ b, portInSpec U p spec = some b ∧
          (b = true ↔ ∃ n : Nat, p = n ∧ ∃ t ∈ targets, Probes cfg t host n)
  others : ∀ e ∈ entries, ∀ host ∈ e.parents, ∃ t ∈ targets, OnHost t host

/-! ## The configured ports -/

lemma expand_printRanges {rs : List (Nat × Nat)} (hne : rs ≠ []) (h : ∀ r ∈ rs, IsPortRange r) :
    expand U (printRanges rs) = some (rs.flatMap fun r => List.range' r.1 (r.2 + 1 - r.1)) := by
  rw [expand, splitOn_printRanges hne, mapM_printRange h]
  rfl

lemma mem_expanded {rs : List (Nat × Nat)} (h : ∀ r ∈ rs, IsPortRange r) {n : Nat} :
    (n ∈ rs.flatMap fun r => List.range' r.1 (r.2 + 1 - r.1)) ↔ Covers rs n := by
  rw [mem_flatMap]
  refine exists_congr fun r => and_congr_right fun hr => ?_
  have hrange := h r hr
  unfold IsPortRange at hrange
  rw [mem_range'_1]
  omega

lemma Config.ports_printed : ∃ rs, cfg.ports = printRanges rs ∧ rs ≠ [] ∧ ∀ r ∈ rs, IsPortRange r := by
  rcases cfg.normalized with h | ⟨v, w, hv, hw⟩
  · refine ⟨[80, 443, 3000, 5000, 8000, 8008, 8080, 8081, 8443, 8888, 9443].map fun p => (p, p), ?_, ?_, ?_⟩
    · rw [h]
      decide +kernel
    · decide
    intro r hr
    obtain ⟨p, hp, rfl⟩ := List.mem_map.1 hr
    have hall : ∀ p ∈ [80, 443, 3000, 5000, 8000, 8008, 8080, 8081, 8443, 8888, 9443],
        1 ≤ p ∧ p ≤ 65535 := by decide
    exact ⟨(hall p hp).1, le_rfl, (hall p hp).2⟩
  · obtain ⟨rs, hn, hne, hports, -⟩ := normalizeSpec_printed (validatePortSpec_again hv)
    rw [hw, Option.some_inj] at hn
    exact ⟨rs, hn, hne, hports⟩

lemma Config.expand_spec : ∃ bare, expand U cfg.ports = some bare ∧ bare ≠ [] ∧
      ∀ n : Nat, n ∈ bare ↔ (n : ℤ) ∈ AsmSensors.ports U cfg.ports := by
  obtain ⟨rs, hrs, hne, hports⟩ := cfg.ports_printed
  have hmem : ∀ n : Nat, (n ∈ rs.flatMap fun r => range' r.1 (r.2 + 1 - r.1)) ↔
      (n : ℤ) ∈ AsmSensors.ports U cfg.ports := by
    intro n
    rw [mem_expanded hports, mem_ports, hrs, writtenRanges_printRanges hne hports]
    simp
  refine ⟨_, by rw [hrs, expand_printRanges hne hports], ?_, hmem⟩
  -- the lower end of the first range is a port
  obtain ⟨r, hr⟩ := exists_mem_of_ne_nil rs hne
  intro hnil
  have hfirst : Covers rs r.1 := ⟨r, hr, le_rfl, (hports r hr).2.1⟩
  rw [← mem_expanded hports, hnil] at hfirst
  cases hfirst

lemma Config.mem_ports_bounds {n : Nat} (h : (n : ℤ) ∈ AsmSensors.ports U cfg.ports) : 1 ≤ n ∧ n ≤ 65535 := by
  obtain ⟨rs, hrs, hne, hports⟩ := cfg.ports_printed
  rw [mem_ports, hrs, writtenRanges_printRanges hne hports] at h
  obtain ⟨m, hm, r, hr, hlo, hhi⟩ := h
  have hrange := hports r hr
  unfold IsPortRange at hrange
  omega

/-! ## A set of ports as a specification -/

lemma specOf_spec {ps : List Nat} (hne : ps ≠ []) (h : ∀ p ∈ ps, 1 ≤ p ∧ p ≤ 65535) :
    ∃ spec, specOf U ps = some spec ∧
      ∀ p : ℤ, ∃ b, portInSpec U p spec = some b ∧ (b = true ↔ ∃ n ∈ ps, p = n) := by
  set sorted := ps.dedup.insertionSort (· ≤ ·) with hsorted
  have hmem : ∀ p, p ∈ sorted ↔ p ∈ ps := by
    intro p
    rw [hsorted, mem_insertionSort, mem_dedup]
  have hnil : sorted.map (fun p => (p, p)) ≠ [] := by
    obtain ⟨p, hp⟩ := exists_mem_of_ne_nil ps hne
    exact ne_nil_of_mem (List.mem_map_of_mem ((hmem p).2 hp))
  have hports : ∀ r ∈ sorted.map (fun p => (p, p)), IsPortRange r := by
    intro r hr
    obtain ⟨p, hp, rfl⟩ := List.mem_map.1 hr
    have hp := h p ((hmem p).1 hp)
    exact ⟨hp.1, le_rfl, hp.2⟩
  have htext : [','].intercalate (sorted.map dec) = printRanges (sorted.map fun p => (p, p)) := by
    rw [printRanges, List.map_map]
    refine congrArg _ (map_congr_left fun p _ => ?_)
    exact (if_pos rfl).symm
  have hvalid := validatePortSpec_printRanges (U := U) hnil hports
  obtain ⟨spec, hspec, hagain, hcompile⟩ := normalizeSpec_spec hvalid
  refine ⟨spec, by rw [specOf, ← hsorted, htext, hspec], fun p => ?_⟩
  obtain ⟨b, hb, hiff⟩ := portInSpec_iff hagain p
  refine ⟨b, hb, hiff.trans ?_⟩
  rw [(compileSpec_eq_iff hagain hvalid).1 hcompile, mem_ports, writtenRanges_printRanges hnil hports]
  constructor
  · rintro ⟨n, rfl, r, hr, hlo, hhi⟩
    obtain ⟨q, hq, rfl⟩ := List.mem_map.1 hr
    have hqn : q = n := le_antisymm hlo hhi
    exact ⟨n, hqn ▸ (hmem q).1 hq, rfl⟩
  · rintro ⟨n, hn, rfl⟩
    exact ⟨n, rfl, (n, n), List.mem_map.2 ⟨n, (hmem n).2 hn, rfl⟩, le_rfl, le_rfl⟩

/-! ## The probed ports -/

def coveredKind : ObservedType :=
  match t.kind with
  | .ip => .ipAddress
  | .hostPort => hostKind host
  | _ => .hostname

variable {t : Target U} {host : Str} {targets : List (Target U)} {d : Groups (ObservedType × Str) Nat}

lemma Probes.onHost {cfg : Config U} {p : Nat} (h : Probes cfg t host p) : OnHost t host := by
  rcases h with ⟨hk, hv, -⟩ | ⟨hk, hs⟩
  · exact .inl ⟨hk, hv⟩
  · exact .inr ⟨hk, p, hs⟩

lemma OnHost.probes (h : OnHost t host) : ∃ p, Probes cfg t host p := by
  rcases h with ⟨hk, hv⟩ | ⟨hk, p, hs⟩
  · obtain ⟨bare, -, hne, hmem⟩ := cfg.expand_spec
    obtain ⟨p, hp⟩ := exists_mem_of_ne_nil bare hne
    exact ⟨p, .inl ⟨hk, hv, (hmem p).1 hp⟩⟩
  · exact ⟨p, .inr ⟨hk, hs⟩⟩

lemma Probes.bounds {cfg : Config U} {p : Nat} (h : Probes cfg t host p) : 1 ≤ p ∧ p ≤ 65535 := by
  rcases h with ⟨-, -, hp⟩ | ⟨-, hs⟩
  · exact cfg.mem_ports_bounds hp
  · exact (splitHostPort_ok hs).2

section Probed

variable {cfg : Config U} {bare : List Nat} (hbare : ∀ n : Nat, n ∈ bare ↔ (n : ℤ) ∈ ports U cfg.ports)
include hbare

lemma mem_probesOf {t : Target U} {l : List ((ObservedType × Str) × Nat)}
    (h : probesOf bare t = some l) {k : ObservedType} {host : Str} {p : Nat} :
    ((k, host), p) ∈ l ↔ Probes cfg t host p ∧ coveredKind t host = k := by
  unfold probesOf at h
  unfold Probes coveredKind
  cases hk : t.kind with
  | hostname | ip =>
    simp only [hk, Option.some_inj] at h
    subst h
    simp [← hbare, and_assoc, and_comm, eq_comm]
  | hostPort =>
    simp only [hk] at h
    cases hs : splitHostPort U t.value with
    | error e => simp [hs] at h
    | ok r =>
      simp only [hs, Option.some_inj] at h
      subst h
      simp only [mem_singleton, Prod.mk.injEq, reduceCtorEq, or_self, false_and, Except.ok.injEq,
        true_and, false_or]
      constructor
      · rintro ⟨⟨rfl, rfl⟩, rfl⟩
        exact ⟨rfl, rfl⟩
      · rintro ⟨rfl, rfl⟩
        exact ⟨⟨rfl, rfl⟩, rfl⟩
  | domain | cidr | url =>
    simp only [hk, Option.some_inj] at h
    subst h
    simp

end Probed

lemma probesOf_eq_some_iff {bare : List Nat} :
    (∃ l, probesOf bare t = some l) ↔ (t.kind = .hostPort → ∃ r, splitHostPort U t.value = .ok r) := by
  unfold probesOf
  cases hk : t.kind with
  | hostPort => cases hs : splitHostPort U t.value <;> simp
  | _ => simp

/-- The dictionary is built when every `host:port` can be split. -/
lemma probed_eq_some_iff (cfg : Config U) (targets : List (Target U)) : (∃ d, probed cfg targets = some d) ↔
      ∀ t ∈ targets, t.kind = .hostPort → ∃ r, splitHostPort U t.value = .ok r := by
  obtain ⟨bare, hexp, -⟩ := cfg.expand_spec
  have hmap : (∃ d, probed cfg targets = some d) ↔ ∃ l, targets.mapM (probesOf bare) = some l := by
    simp [probed, hexp, Option.bind_eq_some_iff]
  rw [hmap, exists_mapM_eq_some_iff]
  exact forall₂_congr fun t _ => probesOf_eq_some_iff

section

variable {cfg : Config U}

/-- **The probed ports** of a host under a kind are those that targets of this kind probe. -/
theorem probed_spec (h : probed cfg targets = some d) : Valid d ∧ ∀ k host p, p ∈ get d (k, host) ↔
      ∃ t ∈ targets, Probes cfg t host p ∧ coveredKind t host = k := by
  obtain ⟨bare, hexp, -, hbare⟩ := cfg.expand_spec
  have hmap : ∃ probes, targets.mapM (probesOf bare) = some probes ∧ pushAll [] probes.flatten = d := by
    simpa [probed, hexp, Option.bind_eq_some_iff] using h
  obtain ⟨probes, hprobes, rfl⟩ := hmap
  refine ⟨Valid.nil.pushAll _, fun k host p => ?_⟩
  rw [mem_get_pushAll, mem_flatten]
  constructor
  · rintro ⟨l, hl, hp⟩
    obtain ⟨t, ht, hl⟩ := (mem_of_mapM_eq_some hprobes).1 hl
    exact ⟨t, ht, (mem_probesOf hbare hl).1 hp⟩
  rintro ⟨t, ht, hp⟩
  obtain ⟨l, hl⟩ := exists_mapM_eq_some_iff.1 ⟨probes, hprobes⟩ t ht
  exact ⟨l, (mem_of_mapM_eq_some hprobes).2 ⟨t, ht, hl⟩, (mem_probesOf hbare hl).2 hp⟩

/-! ## The entries -/

lemma specOf_probed (h : probed cfg targets = some d) {k : ObservedType} (hne : PyDict.get d (k, host) ≠ []) :
    ∃ spec, specOf U (PyDict.get d (k, host)) = some spec ∧ ∀ p : ℤ, ∃ b, portInSpec U p spec = some b ∧
      (b = true ↔ ∃ n : Nat, p = n ∧ ∃ t ∈ targets, Probes cfg t host n ∧ coveredKind t host = k) := by
  obtain ⟨-, hmem⟩ := probed_spec h
  have hbounds : ∀ p ∈ PyDict.get d (k, host), 1 ≤ p ∧ p ≤ 65535 := by
    intro p hp
    obtain ⟨t, -, hp, -⟩ := (hmem k host p).1 hp
    exact hp.bounds
  obtain ⟨spec, hspec, hports⟩ := specOf_spec (U := U) hne hbounds
  refine ⟨spec, hspec, fun p => ?_⟩
  obtain ⟨b, hb, hiff⟩ := hports p
  refine ⟨b, hb, hiff.trans (exists_congr fun n => ?_)⟩
  rw [hmem, and_comm]

/-- **The grouped hosts**: a host stands under the specification of the ports that were probed on
it. -/
theorem grouped_spec (h : probed cfg targets = some d) :
    ∃ g, grouped cfg targets = some g ∧ Valid g ∧ ∀ k spec host,
      (∃ hosts, ((k, spec), hosts) ∈ g ∧ host ∈ hosts) ↔
        PyDict.get d (k, host) ≠ [] ∧ specOf U (PyDict.get d (k, host)) = some spec := by
  obtain ⟨hvalid, -⟩ := probed_spec h
  have hspec : ∀ e ∈ d, ∃ x, ((specOf U e.2).map fun spec => ((e.1.1, spec), e.1.2)) = some x := by
    rintro ⟨⟨k, host⟩, ps⟩ he
    obtain ⟨hne, rfl⟩ := hvalid.mem_iff.1 he
    obtain ⟨spec, hspec, -⟩ := specOf_probed h hne
    exact ⟨_, by rw [hspec]; rfl⟩
  obtain ⟨entries, hentries⟩ := exists_mapM_eq_some_iff.2 hspec
  have hvalid' : Valid (pushAll [] entries) := Valid.nil.pushAll _
  refine ⟨pushAll [] entries, by simp [grouped, h, hentries], hvalid', fun k spec host => ?_⟩
  rw [hvalid'.exists_mem_iff, mem_get_pushAll, mem_of_mapM_eq_some hentries]
  constructor
  · rintro ⟨⟨⟨k', host'⟩, ps⟩, he, heq⟩
    obtain ⟨spec', hspec', heq⟩ := Option.map_eq_some_iff.1 heq
    simp only [Prod.mk.injEq] at heq
    obtain ⟨⟨rfl, rfl⟩, rfl⟩ := heq
    obtain ⟨hne, rfl⟩ := hvalid.mem_iff.1 he
    exact ⟨hne, hspec'⟩
  · rintro ⟨hne, hspec'⟩
    exact ⟨((k, host), PyDict.get d (k, host)), hvalid.mem_iff.2 ⟨hne, rfl⟩, by simp [hspec']⟩

lemma grouped_eq_some_iff (cfg : Config U) (targets : List (Target U)) : (∃ g, grouped cfg targets = some g) ↔
      ∀ t ∈ targets, t.kind = .hostPort → ∃ r, splitHostPort U t.value = .ok r := by
  rw [← probed_eq_some_iff cfg]
  constructor
  · rintro ⟨g, hg⟩
    cases hd : probed cfg targets with
    | none => simp [grouped, hd] at hg
    | some d => exact ⟨d, rfl⟩
  · rintro ⟨d, hd⟩
    obtain ⟨g, hg, -⟩ := grouped_spec hd
    exact ⟨g, hg⟩

lemma mem_parents {g : (ObservedType × Str) × List Str} : host ∈ (servesEntry g).parents ↔ host ∈ g.2 :=
  mem_insertionSort _

variable {g : Groups (ObservedType × Str) Str}

lemma servesEntries_coverage (observed tls : List Str) (h : grouped cfg targets = some g) :
    ∃ covs, coverage cfg targets observed tls = some covs ∧ servesEntries covs = g.map servesEntry := by
  refine ⟨_, by rw [coverage, h]; rfl, ?_⟩
  have hserves : servesEntries (g.map fun g => .relation (servesEntry g)) = g.map servesEntry := by
    rw [servesEntries, filterMap_map, ← filterMap_eq_map]
    rfl
  have htail : ∀ (b : Bool) (e : RelationCoverage), e.relation ≠ .serves →
      servesEntries (if b then [.relation e] else []) = [] := by
    intro b e he
    cases b <;> simp [servesEntries, he]
  unfold servesEntries at hserves htail ⊢
  rw [filterMap_append, filterMap_append, hserves, htail _ (techCoverage observed) (by simp [techCoverage]),
    htail _ (certificateCoverage tls) (by simp [certificateCoverage]), append_nil, append_nil]

/-! ## When the entries are exact -/

/-- The host of a target is covered under its own kind, unless it is a name that reads as an
address. -/
lemma coveredKind_eq (hon : OnHost t host)
    (hname : t.kind = .hostname → cleanIp (.str t.value) = none) : coveredKind t host = hostKind host := by
  unfold coveredKind
  cases hk : t.kind with
  | hostPort => rfl
  | hostname =>
    rcases hon with ⟨-, rfl⟩ | ⟨hk', -⟩
    · simp [hostKind, hname hk]
    · rw [hk] at hk'
      cases hk'
  | ip =>
    rcases hon with ⟨-, rfl⟩ | ⟨hk', -⟩
    · -- the value of an address target is the text of an address
      obtain ⟨raw, hvalid⟩ := t.accepted
      rw [hk] at hvalid
      obtain ⟨a, ha, -⟩ := validateIp_ok_iff.1 (validateIp_again (validateTarget_ok_iff.1 hvalid).1)
      simp [hostKind, cleanIp, ha]
    · rw [hk] at hk'
      cases hk'
  | domain | cidr | url =>
    rcases hon with ⟨hk' | hk', -⟩ | ⟨hk', -⟩ <;> simp [hk] at hk'

lemma filter_eq_singleton {α : Type} {p : α → Bool} {l : List α} {x : α} (hnodup : l.Nodup)
    (hx : x ∈ l) (hp : p x = true) (huniq : ∀ y ∈ l, p y = true → y = x) : l.filter p = [x] := by
  refine perm_singleton.1 ((perm_ext_iff_of_nodup (hnodup.filter p) (nodup_singleton x)).2 ?_)
  intro y
  rw [mem_filter, mem_singleton]
  constructor
  · rintro ⟨hy, hpy⟩
    exact huniq y hy hpy
  · rintro rfl
    exact ⟨hx, hp⟩

/-- **The entries are exact** when no bare name reads as an address. -/
theorem coverageExact_iff (h : grouped cfg targets = some g) : CoverageExact cfg targets (g.map servesEntry) ↔
      ∀ t ∈ targets, t.kind = .hostname → cleanIp (.str t.value) = none := by
  obtain ⟨d, hd⟩ := (probed_eq_some_iff cfg targets).2 ((grouped_eq_some_iff cfg targets).1 ⟨g, h⟩)
  obtain ⟨g', hg', hvalid, hgroup⟩ := grouped_spec hd
  obtain rfl : g = g' := Option.some_inj.1 (h.symm.trans hg')
  obtain ⟨-, hprobed⟩ := probed_spec hd
  -- a host that was probed under some kind has a group of that kind
  have hkey : ∀ t ∈ targets, ∀ host, OnHost t host → PyDict.get d (coveredKind t host, host) ≠ [] := by
    intro t ht host hon
    obtain ⟨p, hp⟩ := hon.probes cfg
    exact ne_nil_of_mem ((hprobed _ _ p).2 ⟨t, ht, hp, rfl⟩)
  constructor
  · intro hexact t ht hk
    by_contra hip
    have hon : OnHost t t.value := .inl ⟨.inl hk, rfl⟩
    obtain ⟨e, hfilter, hkind, -⟩ := hexact.one t ht t.value hon
    have hne := hkey t ht t.value hon
    obtain ⟨spec, hspec, -⟩ := specOf_probed hd hne
    obtain ⟨hosts, hmem, hhost⟩ := (hgroup _ spec t.value).2 ⟨hne, hspec⟩
    have hin : servesEntry ((coveredKind t t.value, spec), hosts) ∈
        (g.map servesEntry).filter fun e => decide (t.value ∈ e.parents) :=
      mem_filter.2 ⟨List.mem_map_of_mem hmem, by simpa using mem_parents.2 hhost⟩
    rw [hfilter, mem_singleton] at hin
    have hcovered : coveredKind t t.value = hostKind t.value := by rw [← hkind, ← hin]; rfl
    have hsome : (cleanIp (.str t.value)).isSome = true := by
      cases hc : cleanIp (.str t.value) with
      | none => exact absurd hc hip
      | some v => rfl
    simp [coveredKind, hk, hostKind, hsome] at hcovered
  intro hnames
  have hkind : ∀ t ∈ targets, ∀ host, OnHost t host → coveredKind t host = hostKind host :=
    fun t ht host hon => coveredKind_eq hon (hnames t ht)
  -- a host is probed under its own kind only
  have hown : ∀ k host, PyDict.get d (k, host) ≠ [] → k = hostKind host := by
    intro k host hne
    obtain ⟨p, hp⟩ := exists_mem_of_ne_nil _ hne
    obtain ⟨t, ht, hprobe, rfl⟩ := (hprobed k host p).1 hp
    exact hkind t ht host hprobe.onHost
  constructor
  · intro t ht host hon
    have hne : PyDict.get d (hostKind host, host) ≠ [] := hkind t ht host hon ▸ hkey t ht host hon
    obtain ⟨spec, hspec, hports⟩ := specOf_probed hd hne
    obtain ⟨hosts, hmem, hhost⟩ := (hgroup _ spec host).2 ⟨hne, hspec⟩
    refine ⟨servesEntry ((hostKind host, spec), hosts), ?_, rfl, spec, rfl, fun p => ?_⟩
    · rw [List.filter_map]
      have hone : g.filter ((fun e : RelationCoverage => decide (host ∈ e.parents)) ∘ servesEntry) =
          [((hostKind host, spec), hosts)] := by
        refine filter_eq_singleton (Nodup.of_map _ hvalid.keys) hmem
          (by simpa using mem_parents.2 hhost) ?_
        rintro ⟨⟨k', spec'⟩, hosts'⟩ hmem' hp
        have hhost' : host ∈ hosts' := mem_parents.1 (by simpa using hp)
        obtain ⟨hne', hspec'⟩ := (hgroup k' spec' host).1 ⟨hosts', hmem', hhost'⟩
        obtain rfl := hown k' host hne'
        obtain rfl : spec' = spec := Option.some_inj.1 (hspec'.symm.trans hspec)
        rw [(hvalid.mem_iff.1 hmem').2.symm, (hvalid.mem_iff.1 hmem).2]
      rw [hone]
      rfl
    · obtain ⟨b, hb, hiff⟩ := hports p
      refine ⟨b, hb, hiff.trans (exists_congr fun n => and_congr_right fun _ => ?_)⟩
      refine exists_congr fun t => and_congr_right fun ht => ?_
      exact ⟨fun hp => hp.1, fun hp => ⟨hp, hkind t ht host hp.onHost⟩⟩
  · intro e he host hhost
    obtain ⟨⟨⟨k, spec⟩, hosts⟩, hmem, rfl⟩ := List.mem_map.1 he
    obtain ⟨hne, -⟩ := (hgroup k spec host).1 ⟨hosts, hmem, mem_parents.1 hhost⟩
    obtain ⟨p, hp⟩ := exists_mem_of_ne_nil _ hne
    obtain ⟨t, ht, hp, -⟩ := (hprobed k host p).1 hp
    exact ⟨t, ht, hp.onHost⟩

end

end AsmSensors.Httpx
