import AttackSurface.Scans.BuildTargets
import AttackSurface.Sensors.HostForms

/-!
# "Limit to specific targets"

A scan may be limited to some targets (its override).  A target `Belongs` to the
override when its host is an override host, an address that one resolves to, or an
address or network inside an override one.  The stages that touch hosts do not always
keep to it:

* port discovery takes every address and network entry of the scope;
* HTTP discovery takes every open port of an address without a name, and every
  address entry without open ports;
* the endpoint stages append the recorded pages to the endpoint's URL as they are;
* an IPv6 address such as `2001:db8::1:8080` is read as a host and a port.

    all targets of a stage belong to the override ↔ OverrideRespected   (override_iff)
-/

namespace App.Scans

open PyText PyNet AsmSensors App.Scope List Option

section Statement

variable {U : Unicode} (o : Target U)

def overrideHost : Str :=
  match o.host with
  | .ok host => host
  | .error _ => o.value

def targetNetwork (t : Target U) : Option Network :=
  match t.host with
  | .ok host => ipNetwork host
  | .error _ => none

/-- Every address of `n` is in `m`. -/
def Within (n m : Network) : Prop := ∀ a, n.contains a = true → m.contains a = true

variable (inv : Inventory) (os : List (Target U))

/-- The target belongs to the override `os`. -/
def Belongs (t : Target U) : Prop := ∃ o ∈ os,
    (∃ host, t.host = .ok host ∧ SameHost U (overrideHost o) host) ∨
    (∃ host ip, t.host = .ok host ∧ ip ∈ inv.hostToIps (overrideHost o) ∧ SameHost U ip host) ∨
    (∃ n m, targetNetwork t = some n ∧ targetNetwork o = some m ∧ Within n m)

def Stays (v : TargetKind × Str) : Prop :=
  ∀ t, Target.make U v.1 v.2 = .ok t → Belongs inv os t

/-- What an override entry is read as: only its text is stored, and an address whose last
group can be a port reads as `host:port`. -/
def reading : Str × Option Nat :=
  if o.kind = .url then (overrideHost o, (urlsplit o.value).bind urlPort)
  else
    match splitHostPort U o.value with
    | .ok (host, port) => (host, some port)
    | .error _ => (o.value, none)

def Misread : Prop := (reading o).1 ≠ overrideHost o

/-- The override names the endpoint: its host, and its port when it names ports of the host. -/
def EndpointNamed (u : SplitResult) : Prop :=
  u.hostname U ≠ [] ∧ (∃ o ∈ os, (reading o).1 = u.hostname U) ∧
    ((∃ o ∈ os, ∃ p, reading o = (u.hostname U, some p)) →
      ∃ p, urlPort u = some p ∧ ∃ o ∈ os, reading o = (u.hostname U, some p))

/-- What has to hold of the inventory and the scope for a stage to keep to the override. -/
def OverrideRespected : StageType → Prop
  | .portDiscovery =>
    (∀ e ∈ inv.entries, (e.entryType = .ip → Stays inv os (.ip, e.value)) ∧
      (e.entryType = .cidr → Stays inv os (.cidr, e.value))) ∧
    ∀ o ∈ os, Misread o → ∀ a ∈ inv.derivedAddresses, (inv.skipCdnIps && a.cdn) = false →
      (a.normalizedValue = (reading o).1 ∨ (reading o).1 ∈ inv.ipToHosts a.normalizedValue) →
      Stays inv os (.ip, a.normalizedValue)
  | .httpDiscovery =>
    (∀ r ∈ inv.openPorts U, inv.ipToHosts r.1 = [] → r.2 ∉ nonHttpPorts →
      Stays inv os (hostPortValue r.1 r.2)) ∧
    (∀ e ∈ inv.entries, e.entryType = .ip → valuesOf (inv.openPorts U) e.value = [] →
      Stays inv os (.ip, e.value)) ∧
    ∀ o ∈ os, Misread o → ∀ p, (reading o).2 = some p → Stays inv os (hostPortValue (reading o).1 p)
  | .webCrawl | .vulnerabilityDetection =>
    ∀ a ∈ inv.endpoints, ∀ u, urlsplit a.normalizedValue = some u → EndpointNamed os u →
      (∀ page ∈ a.crawledPages, Stays inv os (.url, a.normalizedValue ++ page)) ∧
      ((∀ o ∈ os, overrideHost o ≠ u.hostname U) → Stays inv os (.url, a.normalizedValue))
  | _ => True

end Statement

/-! ## Reading the override -/

section Reading

variable {U : Unicode}

lemma slash_not_mem_of_ipAddress {s : Str} {a : Address} (h : ipAddress s = some a) : '/' ∉ s := by
  unfold ipAddress at h
  rcases or_eq_some_iff.1 h with h | ⟨-, h⟩
  · exact (ipv4Address_eq_some_iff.1 h).1
  · exact (ipv6Address_eq_some_iff.1 h).1

lemma slash_not_mem_body {b : Str} (hb : hostnameBody b = true) : '/' ∉ b :=
  hostnameBody_not_mem hb (by decide) (by decide)

lemma slash_not_mem_hostname {raw v : Str} (h : validateHostname U raw = .ok v) : '/' ∉ v := by
  rcases validateHostname_ok h with ⟨hb, -⟩ | ⟨b, rfl, hb, -⟩
  · exact slash_not_mem_body hb
  · simp [slash_not_mem_body hb]

lemma slash_not_mem_host {text h : Str} (hok : validateHost U text = .ok h) : '/' ∉ h := by
  rcases validateHost_ok hok with ⟨a, -, rfl⟩ | ⟨-, hv⟩
  · exact slash_not_mem_toStr a
  · exact slash_not_mem_hostname hv

lemma slash_not_mem_format {host : Str} {port : Nat} (h : '/' ∉ host) : '/' ∉ formatHostPort host port := by
  have hd : '/' ∉ dec port := not_mem_dec (by decide)
  unfold formatHostPort bracketHost
  split <;> simp [h, hd]

/-- Only URLs hold `://`. -/
lemma contains_scheme_iff (o : Target U) : contains "://".toList o.value = true ↔ o.kind = .url := by
  obtain ⟨kind, value, raw, hval⟩ := o
  have hv := (validateTarget_ok_iff.1 hval).1
  rw [contains_iff (by decide)]
  -- without two slashes there is no `://`
  have hcount : count '/' value ≤ 1 → ¬ "://".toList <:+: value := by
    intro hle hin
    have h2 := hin.sublist.count_le '/'
    have : count '/' "://".toList = 2 := by decide
    omega
  have hno : '/' ∉ value → count '/' value ≤ 1 := by
    intro h
    rw [count_eq_zero_of_not_mem h]
    omega
  show "://".toList <:+: value ↔ kind = .url
  cases kind with
  | domain | hostname => simpa using hcount (hno (slash_not_mem_hostname hv))
  | ip =>
    obtain ⟨a, -, rfl⟩ := validateIp_ok_iff.1 hv
    simpa using hcount (hno (slash_not_mem_toStr a))
  | cidr =>
    obtain ⟨n, -, -, rfl⟩ := validateCidr_ok_iff.1 hv
    have hone : count '/' n.toStr ≤ 1 := by
      unfold Network.toStr
      rw [count_append, count_cons, count_eq_zero_of_not_mem (slash_not_mem_toStr _),
        count_eq_zero_of_not_mem (not_mem_dec (by decide))]
      simp
    simpa using hcount hone
  | hostPort =>
    obtain ⟨r, hr, rfl⟩ := hostPort_ok_iff.1 hv
    simpa using hcount (hno (slash_not_mem_format (slash_not_mem_host (splitHostPort_ok hr).1)))
  | url =>
    obtain ⟨parts, host, port, hacc, rfl⟩ := validateUrl_ok_iff.1 hv
    refine iff_of_true ⟨parts.scheme, (bracketHost host ++ portSuffix port) ++ parts.path ++
      (if parts.query = [] then [] else '?' :: parts.query), ?_⟩ rfl
    unfold storedUrl composeUrl
    simp

lemma url_target (o : Target U) (hk : o.kind = .url) :
    ∃ u port, urlsplit o.value = some u ∧ o.host = .ok (u.hostname U) ∧ u.hostname U ≠ [] ∧ u.port = some port := by
  obtain ⟨kind, value, raw, hval⟩ := o
  simp only at hk
  subst hk
  obtain ⟨parts, host, port, hacc, rfl⟩ := validateUrl_ok_iff.1 (validateTarget_ok_iff.1 hval).1
  obtain ⟨parts', hacc', -, hname⟩ := hacc.again
  have hsplit := hacc'.split
  rw [strip_of_not_isSpace fun c hc => (hacc.stored_letters hc).1] at hsplit
  refine ⟨parts', port, hsplit, ?_, by rw [hname]; exact hacc.host_ne_nil, hacc'.port_ok⟩
  unfold Target.host hostOf
  simp [hsplit]

variable {o : Target U}

lemma overrideHost_of_error (hk : o.kind ≠ .url) {e : TargetError}
    (h : splitHostPort U o.value = .error e) : overrideHost o = o.value := by
  unfold overrideHost Target.host hostOf
  cases hkind : o.kind with
  | url => exact absurd hkind hk
  | hostPort => simp [h]
  | domain => rfl
  | hostname => rfl
  | ip => rfl
  | cidr => rfl

lemma misread_port (h : Misread o) : ∃ p, (reading o).2 = some p := by
  unfold Misread reading at h
  unfold reading
  split at h
  · exact absurd rfl h
  next hk =>
  rw [if_neg hk]
  cases hs : splitHostPort U o.value with
  | ok r => exact ⟨r.2, rfl⟩
  | error e =>
    rw [hs] at h
    exact absurd (overrideHost_of_error hk hs).symm h

lemma overrideEntry_eq {e : Override} (h : overrideEntry U o.value = some e) : e.hosts = [(reading o).1] ∧
      e.ports = ((reading o).2.map fun p => ((reading o).1, p)).toList := by
  unfold overrideEntry at h
  unfold reading
  by_cases hk : o.kind = .url
  · obtain ⟨u, -, hu, hhost, hne, -⟩ := url_target o hk
    have hov : overrideHost o = u.hostname U := by
      unfold overrideHost
      rw [hhost]
    rw [if_pos ((contains_scheme_iff o).2 hk), hu] at h
    simp only [if_neg hne] at h
    rw [if_pos hk, hu, hov]
    split at h
    · cases h
    next port hport =>
    simp only [some.injEq] at h
    subst h
    simp [hport]
  · rw [if_neg (mt (contains_scheme_iff o).1 hk)] at h
    rw [if_neg hk]
    cases hs : splitHostPort U o.value with
    | ok r | error err =>
      rw [hs] at h
      simp only [some.injEq] at h
      subst h
      exact ⟨rfl, rfl⟩

/-- **`_override` holds the readings of the entries.** -/
theorem override_readings {os : List (Target U)} {ov : Override}
    (h : override U (os.map Target.value) = some ov) :
    (∀ x, x ∈ ov.hosts ↔ ∃ o ∈ os, (reading o).1 = x) ∧
      ∀ x p, (x, p) ∈ ov.ports ↔ ∃ o ∈ os, reading o = (x, some p) := by
  induction os generalizing ov with
  | nil =>
    simp only [map_nil, override, some.injEq] at h
    subst h
    simp
  | cons o os ih =>
    rw [map_cons, override] at h
    split at h
    · next e ovs he hovs =>
      simp only [some.injEq] at h
      subst h
      obtain ⟨hh, hp⟩ := overrideEntry_eq he
      obtain ⟨ih1, ih2⟩ := ih hovs
      constructor
      · intro x
        simp [hh, ih1, eq_comm]
      intro x p
      have hentry : (x, p) ∈ e.ports ↔ reading o = (x, some p) := by
        rw [hp, mem_toList, map_eq_some_iff, Prod.ext_iff]
        constructor
        · rintro ⟨q, hq, he⟩
          simp only [Prod.mk.injEq] at he
          exact ⟨he.1, he.2 ▸ hq⟩
        · rintro ⟨h1, h2⟩
          exact ⟨p, h2, by rw [h1]⟩
      simp [hentry, ih2]
    · cases h

end Reading

/-! ## Targets made for an override host -/

section Stages

variable {U : Unicode} {inv : Inventory} {os : List (Target U)} {ov : Override}

lemma belongs_of_sameHost {o t : Target U} (ho : o ∈ os) {host : Str} (ht : t.host = .ok host)
    (hs : SameHost U (overrideHost o) host) : Belongs inv os t :=
  ⟨o, ho, .inl ⟨host, ht, hs⟩⟩

variable {o : Target U} {entries : List ScopeRule} {vs : List (TargetKind × Str)}

lemma stays_overrideHost (inv : Inventory) (ho : o ∈ os) :
    Stays inv os (.ip, overrideHost o) ∧ Stays inv os (.hostname, overrideHost o) ∧
      ∀ p, Stays inv os (hostPortValue (overrideHost o) p) := by
  refine ⟨fun t ht => ?_, fun t ht => ?_, fun p t ht => ?_⟩
  · obtain ⟨h, hh, hs⟩ := ip_sameHost ht
    exact belongs_of_sameHost ho hh hs
  · obtain ⟨h, hh, hs⟩ := hostname_sameHost ht
    exact belongs_of_sameHost ho hh hs
  · obtain ⟨h, hh, hs⟩ := hostPort_sameHost ht
    exact belongs_of_sameHost ho hh hs

lemma stays_resolved (ho : o ∈ os) {ip : Str}
    (hip : overrideHost o ∈ inv.ipToHosts ip) : Stays inv os (.ip, ip) := by
  intro t ht
  obtain ⟨h, hh, hs⟩ := ip_sameHost ht
  exact ⟨o, ho, .inr (.inl ⟨h, ip, hh, mem_valuesOf.2 (mem_ipToHosts.1 hip), hs⟩)⟩

lemma stays_endpoint (ho : o ∈ os) {url : Str} {u : SplitResult}
    (hu : urlsplit url = some u) (hne : u.hostname U ≠ []) (hov : overrideHost o = u.hostname U) :
    Stays inv os (.url, url) := by
  intro t ht
  obtain ⟨h, hh, hs⟩ := url_sameHost ht hu hne
  exact belongs_of_sameHost ho hh (hov ▸ hs)

lemma host_cases (hov : override U (os.map Target.value) = some ov) {x : Str} (hx : x ∈ ov.hosts) :
    ∃ o ∈ os, (reading o).1 = x ∧ (Misread o ∨ overrideHost o = x) := by
  obtain ⟨o, ho, rfl⟩ := ((override_readings hov).1 x).1 hx
  by_cases hm : (reading o).1 = overrideHost o
  · exact ⟨o, ho, rfl, .inr hm.symm⟩
  · exact ⟨o, ho, rfl, .inl hm⟩

lemma hosts_ne_nil (hov : override U (os.map Target.value) = some ov) (hos : os ≠ []) : ov.hosts ≠ [] := by
  obtain ⟨o, os', rfl⟩ := exists_cons_of_ne_nil hos
  exact ne_nil_of_mem (((override_readings hov).1 _).2 ⟨o, by simp, rfl⟩)

lemma keeps_iff (hne : ov.hosts ≠ []) {x : Str} : ov.keeps x = true ↔ x ∈ ov.hosts := by
  simp [Override.keeps, hne]

/-! ## Port discovery -/

variable {v : TargetKind × Str}

lemma mem_entryValues : v ∈ entryValues entries ↔ ∃ e ∈ entries, (e.entryType = .ip ∧ v = (.ip, e.value)) ∨
        (e.entryType = .cidr ∧ v = (.cidr, e.value)) := by
  unfold entryValues
  rw [mem_filterMap]
  constructor
  · rintro ⟨e, he, hv⟩
    refine ⟨e, he, ?_⟩
    cases ht : e.entryType <;> simp_all
  · rintro ⟨e, he, ⟨ht, rfl⟩ | ⟨ht, rfl⟩⟩
    all_goals exact ⟨e, he, by simp [ht]⟩

lemma target_of_seen (hv : v ∈ entryValues entries)
    {s t : Target U} (hs : Target.make U v.1 v.2 = .ok s) (ht : Target.make U .ip s.value = .ok t) :
    t = s := by
  obtain ⟨hk, hval⟩ := Target.make_ok_iff.1 ht
  have hip : validateIp s.value = .ok t.value := (validateTarget_ok_iff.1 hval).1
  obtain ⟨hks, hvals⟩ := Target.make_ok_iff.1 hs
  have hvs := (validateTarget_ok_iff.1 hvals).1
  obtain ⟨e, -, ⟨-, rfl⟩ | ⟨-, rfl⟩⟩ := mem_entryValues.1 hv
  · rw [validateIp_again hvs, Except.ok.injEq] at hip
    obtain ⟨k, w, hw⟩ := s
    obtain ⟨k', w', hw'⟩ := t
    simp only at hk hks hip
    subst hk hks hip
    rfl
  -- a network is no address
  exfalso
  obtain ⟨n, -, -, he⟩ := validateCidr_ok_iff.1 hvs
  obtain ⟨a, ha, -⟩ := validateIp_ok_iff.1 hip
  rw [he, strip_network_toStr] at ha
  exact slash_not_mem_of_ipAddress ha (by simp [Network.toStr])

/-- **Port discovery keeps to the override exactly when the scope entries do.** -/
theorem portDiscovery_iff (hov : override U (os.map Target.value) = some ov) (hos : os ≠ []) :
    (∀ t ∈ (portDiscovery U inv ov).targets, Belongs inv os t) ↔ OverrideRespected inv os .portDiscovery := by
  have hne := hosts_ne_nil hov hos
  unfold portDiscovery
  simp only []
  generalize hout : ({ derivedFrom := inv.ipToHosts } : StageTargets U).pushAll
    (entryValues inv.entries) = out
  have hmem : ∀ t, t ∈ out.targets ↔ ∃ v ∈ entryValues inv.entries, Target.make U v.1 v.2 = .ok t := by
    intro t
    rw [← hout, mem_pushAll]
    simp
  constructor
  · intro h
    have hentry : ∀ v ∈ entryValues inv.entries, Stays inv os v :=
      fun v hv t ht => h t (mem_pushAll.2 (.inl ((hmem t).2 ⟨v, hv, ht⟩)))
    refine ⟨fun e he => ⟨fun ht => ?_, fun ht => ?_⟩, ?_⟩
    · exact hentry _ (mem_entryValues.2 ⟨e, he, .inl ⟨ht, rfl⟩⟩)
    · exact hentry _ (mem_entryValues.2 ⟨e, he, .inr ⟨ht, rfl⟩⟩)
    intro o ho hmis a ha hcdn hsel t ht
    have hx : (reading o).1 ∈ ov.hosts := ((override_readings hov).1 _).2 ⟨o, ho, rfl⟩
    have hkeep : keepsAddress inv ov a.normalizedValue = true := by
      unfold keepsAddress
      rw [Bool.or_eq_true, keeps_iff hne, List.any_eq_true]
      rcases hsel with hsel | hsel
      · exact .inl (hsel ▸ hx)
      · exact .inr ⟨_, hsel, by simpa using hx⟩
    by_cases hseen : a.normalizedValue ∈ out.targets.map Target.value
    · obtain ⟨s, hs, he⟩ := List.mem_map.1 hseen
      obtain ⟨v, hv, hmake⟩ := (hmem s).1 hs
      rw [← he] at ht
      rw [target_of_seen hv hmake ht]
      exact h s (mem_pushAll.2 (.inl hs))
    · refine h t (mem_pushAll.2 (.inr ⟨(.ip, a.normalizedValue), ?_, ht⟩))
      refine List.mem_map.2 ⟨a, mem_filter.2 ⟨ha, ?_⟩, rfl⟩
      simp [hseen, hcdn, hkeep]
  · rintro ⟨hentries, hmisread⟩ t ht
    rcases mem_pushAll.1 ht with ht | ⟨v, hv, ht⟩
    · obtain ⟨v, hv, hmake⟩ := (hmem t).1 ht
      obtain ⟨e, he, ⟨hty, rfl⟩ | ⟨hty, rfl⟩⟩ := mem_entryValues.1 hv
      · exact (hentries e he).1 hty t hmake
      · exact (hentries e he).2 hty t hmake
    obtain ⟨a, ha, rfl⟩ := List.mem_map.1 hv
    simp only [mem_filter, Bool.and_eq_true, Bool.not_eq_true', keepsAddress, Bool.or_eq_true,
      keeps_iff hne, List.any_eq_true, decide_eq_true_eq] at ha
    obtain ⟨ha, ⟨-, hcdn⟩, hsel⟩ := ha
    rcases hsel with hx | ⟨x, hres, hx⟩
    · obtain ⟨o, ho, hr, hm | hh⟩ := host_cases hov hx
      · exact hmisread o ho hm a ha hcdn (.inl hr.symm) t ht
      · exact (stays_overrideHost inv ho).1 t (hh ▸ ht)
    obtain ⟨o, ho, hr, hm | hh⟩ := host_cases hov hx
    · exact hmisread o ho hm a ha hcdn (.inr (hr ▸ hres)) t ht
    · exact stays_resolved ho (hh ▸ hres) t ht

/-! ## HTTP discovery -/

lemma mem_endpointValues {as : List Asset} (h : endpointValues U ov as = some vs) (hv : v ∈ vs) :
    ∃ a ∈ as, ∃ ws, endpointValue U ov a.normalizedValue = some ws ∧ v ∈ ws := by
  induction as generalizing vs with
  | nil =>
    simp only [endpointValues, some.injEq] at h
    rw [← h] at hv
    cases hv
  | cons a as ih =>
    unfold endpointValues at h
    split at h
    · next ws ws' hw hw' =>
      simp only [some.injEq] at h
      rw [← h, mem_append] at hv
      rcases hv with hv | hv
      · exact ⟨a, by simp, ws, hw, hv⟩
      · obtain ⟨b, hb, hrest⟩ := ih hw' hv
        exact ⟨b, by simp [hb], hrest⟩
    · cases h

/-- A known endpoint that is probed again: its host is named, and its port when one is. -/
lemma endpointValue_spec (hne : ov.hosts ≠ []) {url : Str}
    (h : endpointValue U ov url = some vs) (hv : v ∈ vs) :
    ∃ host port, host ∈ ov.hosts ∧ (ov.named host ≠ [] → (host, port) ∈ ov.ports) ∧
      v = hostPortValue host port := by
  unfold endpointValue at h
  split at h
  · cases h
  next u hu =>
  simp only [] at h
  split at h
  · simp only [some.injEq] at h
    rw [← h] at hv
    cases hv
  next hkeep =>
  simp only [Bool.or_eq_true, decide_eq_true_eq, not_or, Bool.not_eq_true', Bool.not_eq_false,
    keeps_iff hne] at hkeep
  split at h
  · cases h
  next port hport =>
  split at h
  · simp only [some.injEq] at h
    rw [← h] at hv
    cases hv
  next hnamed =>
  simp only [some.injEq] at h
  rw [← h, mem_singleton] at hv
  refine ⟨u.hostname U, port, hkeep.2, fun hn => ?_, hv⟩
  rw [not_and_not_right] at hnamed
  exact mem_valuesOf.1 (hnamed hn)

lemma mem_hostnameValues {ports : List (Str × Nat)} {host : Str} (h : v ∈ hostnameValues inv ports host) :
    v = (.hostname, host) ∨ ∃ p, v = hostPortValue host p := by
  unfold hostnameValues at h
  simp only [] at h
  split at h
  · exact .inl (mem_singleton.1 h)
  · obtain ⟨p, -, rfl⟩ := List.mem_map.1 h
    exact .inr ⟨p, rfl⟩

section

variable (hov : override U (os.map Target.value) = some ov)

include hov

/-- A port that was named stays within the override, unless its target was misread. -/
lemma named_stays (hmisread : ∀ o ∈ os, Misread o → ∀ p, (reading o).2 = some p →
      Stays inv os (hostPortValue (reading o).1 p)) {x : Str} {p : Nat} (hxp : (x, p) ∈ ov.ports) :
    Stays inv os (hostPortValue x p) := by
  obtain ⟨o, ho, hr⟩ := ((override_readings hov).2 x p).1 hxp
  by_cases hm : Misread o
  · have := hmisread o ho hm p (by rw [hr])
    rwa [hr] at this
  have hx : overrideHost o = x := by
    unfold Misread at hm
    rw [not_not, hr] at hm
    exact hm.symm
  exact hx ▸ (stays_overrideHost inv ho).2.2 p

lemma host_of_named_eq_nil {x : Str}
    (hx : x ∈ ov.hosts) (hnil : ov.named x = []) : ∃ o ∈ os, overrideHost o = x := by
  obtain ⟨o, ho, hr, hm | hh⟩ := host_cases hov hx
  · obtain ⟨p, hp⟩ := misread_port hm
    have hxp : p ∈ ov.named x := mem_valuesOf.2 (((override_readings hov).2 x p).2 ⟨o, ho, Prod.ext hr hp⟩)
    rw [hnil] at hxp
    cases hxp
  · exact ⟨o, ho, hh⟩

/-- **HTTP discovery keeps to the override exactly when the nameless addresses do.** -/
theorem httpDiscovery_iff (hos : os ≠ []) {out : StageTargets U} (hout : httpDiscovery U inv ov = some out) :
    (∀ t ∈ out.targets, Belongs inv os t) ↔ OverrideRespected inv os .httpDiscovery := by
  have hne := hosts_ne_nil hov hos
  obtain ⟨hhosts, hports⟩ := override_readings hov
  unfold httpDiscovery at hout
  cases hvs : httpValues U inv ov with
  | none => rw [hvs] at hout; cases hout
  | some vs =>
  rw [hvs] at hout
  simp only [some.injEq] at hout
  have hmem : ∀ t, t ∈ out.targets ↔ ∃ v ∈ vs, Target.make U v.1 v.2 = .ok t := by
    intro t
    rw [← hout, mem_pushAll]
    simp [mem_insertionSort]
  unfold httpValues at hvs
  simp only [] at hvs
  cases hknown : endpointValues U ov inv.endpoints with
  | none => rw [hknown] at hvs; cases hvs
  | some known =>
  rw [hknown] at hvs
  simp only [some.injEq] at hvs
  constructor
  · intro h
    have hstays : ∀ v ∈ vs, Stays inv os v := fun v hv t ht => h t ((hmem t).2 ⟨v, hv, ht⟩)
    refine ⟨fun r hr hip hp => hstays _ ?_, fun e he hty hval => hstays _ ?_,
      fun o ho hm p hp => hstays _ ?_⟩
    · rw [← hvs]
      simp only [mem_append, List.mem_map, mem_filter]
      exact .inl (.inl (.inr ⟨r, ⟨hr, by simp [hip, hp]⟩, rfl⟩))
    · rw [← hvs]
      simp only [mem_append, List.mem_map, mem_filter]
      exact .inl (.inr ⟨e, ⟨he, by simp [hty, hval]⟩, rfl⟩)
    · rw [← hvs]
      simp only [mem_append, List.mem_map]
      exact .inl (.inl (.inl (.inl ⟨((reading o).1, p), (hports _ p).2 ⟨o, ho, Prod.ext rfl hp⟩, rfl⟩)))
  rintro ⟨hopen, hentries, hmisread⟩ t ht
  obtain ⟨v, hv, hmake⟩ := (hmem t).1 ht
  rw [← hvs] at hv
  simp only [mem_append, List.mem_map, mem_filter, mem_flatMap, Bool.and_eq_true,
    decide_eq_true_eq, beq_iff_eq, keeps_iff hne] at hv
  rcases hv with (((⟨r, hr, rfl⟩ | ⟨a, ⟨-, hx, hnil⟩, hv⟩) | ⟨r, ⟨hr, hip, hp⟩, rfl⟩) |
    ⟨e, ⟨he, hty, hval⟩, rfl⟩) | hv
  · exact named_stays hov hmisread hr t hmake
  · obtain ⟨o, ho, hh⟩ := host_of_named_eq_nil hov hx hnil
    obtain ⟨-, hname, hport⟩ := stays_overrideHost inv ho
    rw [hh] at hname hport
    rcases mem_hostnameValues hv with rfl | ⟨p, rfl⟩
    · exact hname t hmake
    · exact hport p t hmake
  · exact hopen r hr hip hp t hmake
  · exact hentries e he hty hval t hmake
  obtain ⟨a, -, ws, hws, hv⟩ := mem_endpointValues hknown hv
  obtain ⟨host, port, hx, himp, rfl⟩ := endpointValue_spec hne hws hv
  by_cases hnil : ov.named host = []
  · obtain ⟨o, ho, hh⟩ := host_of_named_eq_nil hov hx hnil
    exact (hh ▸ (stays_overrideHost inv ho).2.2 port) t hmake
  · exact named_stays hov hmisread (himp hnil) t hmake

end

/-! ## Endpoint stages -/

lemma keepsUrl_iff (hov : override U (os.map Target.value) = some ov) (hos : os ≠ [])
    {u : SplitResult} : keepsUrl U ov u = some true ↔ EndpointNamed os u := by
  have hne := hosts_ne_nil hov hos
  obtain ⟨hhosts, hports⟩ := override_readings hov
  have hempty : ov.hosts.isEmpty = false := by simp [hne]
  have hnamed : ∀ p, p ∈ ov.named (u.hostname U) ↔ ∃ o ∈ os, reading o = (u.hostname U, some p) :=
    fun p => mem_valuesOf.trans (hports _ p)
  unfold keepsUrl EndpointNamed
  simp only [hempty, Bool.not_false, Bool.true_and, Bool.or_eq_true, decide_eq_true_eq]
  by_cases h1 : u.hostname U = [] ∨ u.hostname U ∉ ov.hosts
  · rw [if_pos h1]
    simp only [some.injEq, Bool.false_eq_true, false_iff]
    rintro ⟨hn, hx, -⟩
    rcases h1 with h1 | h1
    · exact hn h1
    · exact h1 ((hhosts _).2 hx)
  rw [if_neg h1]
  push Not at h1
  have hx := (hhosts _).1 h1.2
  by_cases h2 : ov.named (u.hostname U) = []
  · rw [if_pos h2]
    refine iff_of_true rfl ⟨h1.1, hx, ?_⟩
    rintro ⟨o, ho, p, hr⟩
    have := (hnamed p).2 ⟨o, ho, hr⟩
    rw [h2] at this
    cases this
  rw [if_neg h2, map_eq_some_iff]
  obtain ⟨p, hp⟩ := exists_mem_of_ne_nil _ h2
  obtain ⟨o, ho, hr⟩ := (hnamed p).1 hp
  constructor
  · rintro ⟨q, hq, hmem⟩
    exact ⟨h1.1, hx, fun _ => ⟨q, hq, (hnamed q).1 (by simpa using hmem)⟩⟩
  rintro ⟨-, -, himp⟩
  obtain ⟨q, hq, hmem⟩ := himp ⟨o, ho, p, hr⟩
  exact ⟨q, hq, by simpa using (hnamed q).2 hmem⟩

/-- **The endpoint stages keep to the override exactly when the pages do.** -/
theorem crawlEndpoints_iff (hov : override U (os.map Target.value) = some ov) (hos : os ≠ [])
    {limit₀ : Nat} {crawled₀ : Bool} {out₀ : StageTargets U}
    (hret : crawlEndpoints U ov limit₀ crawled₀ inv.endpoints { derivedFrom := inv.ipToHosts } = some out₀) :
    (∀ limit crawled out,
        crawlEndpoints U ov limit crawled inv.endpoints { derivedFrom := inv.ipToHosts } = some out →
        ∀ t ∈ out.targets.take limit, Belongs inv os t) ↔
      OverrideRespected inv os .webCrawl := by
  have hkept : ∀ a, a ∈ keptEndpoints U ov inv.endpoints ↔
      a ∈ inv.endpoints ∧ ∃ u, urlsplit a.normalizedValue = some u ∧ EndpointNamed os u := by
    intro a
    unfold keptEndpoints
    rw [mem_filter, Option.any_eq_true]
    simp [keepsUrl_iff hov hos]
  constructor
  · intro h a ha u hu hnamed
    have hstays : ∀ v ∈ endpointUrls true a, Stays inv os v := by
      intro v hv t ht
      -- a limit that cuts nothing
      have hall := crawlEndpoints_eq
        ((keptEndpoints U ov inv.endpoints).flatMap (endpointUrls true)).length
        { derivedFrom := inv.ipToHosts } hret (by simp)
      refine h _ true _ hall t ?_
      rw [take_of_length_le]
      · exact mem_pushAll.2 (.inr ⟨v, mem_flatMap.2 ⟨a, (hkept a).2 ⟨ha, u, hu, hnamed⟩, hv⟩, ht⟩)
      · simpa using length_pushAll_le ({ derivedFrom := inv.ipToHosts } : StageTargets U)
          ((keptEndpoints U ov inv.endpoints).flatMap (endpointUrls true))
    exact ⟨fun page hp => hstays _ (by simp [endpointUrls, hp]), fun _ => hstays _ (by simp [endpointUrls])⟩
  intro h limit crawled out hout t ht
  rcases mem_crawlEndpoints hout (mem_of_mem_take ht) with hnil | ⟨a, ha, v, hv, hmake⟩
  · cases hnil
  obtain ⟨hmem, u, hu, hnamed⟩ := (hkept a).1 ha
  obtain ⟨hpages, hself⟩ := h a hmem u hu hnamed
  rcases mem_cons.1 hv with rfl | hv
  · by_cases ho : ∃ o ∈ os, overrideHost o = u.hostname U
    · obtain ⟨o, ho, hh⟩ := ho
      exact stays_endpoint ho hu hnamed.1 hh t hmake
    · push Not at ho
      exact hself ho t hmake
  · simp only [if_true, List.mem_map] at hv
    obtain ⟨page, hp, rfl⟩ := hv
    exact hpages page hp t hmake

end Stages

/-! ## Every stage that touches hosts -/

def hostStages : List StageType := [.portDiscovery, .httpDiscovery, .webCrawl, .vulnerabilityDetection]

lemma forall_mem_take {α : Type} {P : α → Prop} {l : List α} : (∀ n, ∀ x ∈ l.take n, P x) ↔ ∀ x ∈ l, P x :=
  ⟨fun h x hx => h l.length x (by simpa using hx), fun h _ x hx => h x (mem_of_mem_take hx)⟩

/-- **A stage keeps to the override, under every limit, exactly when `OverrideRespected`.** -/
theorem override_iff (U : Unicode) (inv : Inventory) (os : List (Target U)) (stage : StageType)
    (hos : os ≠ []) (hstage : stage ∈ hostStages) (limit₀ : Nat) (crawled₀ : Bool)
    (out₀ : StageTargets U)
    (hret : buildTargets U inv (os.map Target.value) stage limit₀ crawled₀ = some out₀) :
    (∀ limit crawled out, buildTargets U inv (os.map Target.value) stage limit crawled = some out →
        ∀ t ∈ out.targets, Belongs inv os t) ↔
      OverrideRespected inv os stage := by
  have hsome : ∃ ov, override U (os.map Target.value) = some ov := by
    cases hov : override U (os.map Target.value) with
    | none =>
      unfold buildTargets at hret
      rw [hov] at hret
      cases hret
    | some ov => exact ⟨ov, rfl⟩
  obtain ⟨ov, hov⟩ := hsome
  have hbuild : ∀ limit crawled out, buildTargets U inv (os.map Target.value) stage limit crawled = some out ↔
        ∃ st, stageTargets U inv ov stage limit crawled = some st ∧
          { st with targets := st.targets.take limit } = out := by
    intro limit crawled out
    unfold buildTargets
    rw [hov]
    exact map_eq_some_iff
  obtain ⟨st₀, hst₀, -⟩ := (hbuild _ _ _).1 hret
  -- the emitted targets are those of the stage, cut at the limit
  have hcut : (∀ limit crawled out, buildTargets U inv (os.map Target.value) stage limit crawled = some out →
        ∀ t ∈ out.targets, Belongs inv os t) ↔
      ∀ limit crawled st, stageTargets U inv ov stage limit crawled = some st →
        ∀ t ∈ st.targets.take limit, Belongs inv os t := by
    constructor
    · intro h limit crawled st hst
      exact h limit crawled _ ((hbuild _ _ _).2 ⟨st, hst, rfl⟩)
    intro h limit crawled out hout
    obtain ⟨st, hst, rfl⟩ := (hbuild _ _ _).1 hout
    exact h limit crawled st hst
  rw [hcut]
  -- a stage whose targets do not depend on the limit
  have hfixed : (∀ limit crawled, stageTargets U inv ov stage limit crawled = some st₀) →
      ((∀ limit crawled st, stageTargets U inv ov stage limit crawled = some st →
        ∀ t ∈ st.targets.take limit, Belongs inv os t) ↔ ∀ t ∈ st₀.targets, Belongs inv os t) := by
    intro hst
    rw [← forall_mem_take]
    constructor
    · intro h limit
      exact h limit false st₀ (hst limit false)
    intro h limit crawled st hst'
    rw [hst, some.injEq] at hst'
    exact hst' ▸ h limit
  simp only [hostStages, mem_cons, not_mem_nil, or_false] at hstage
  rcases hstage with rfl | rfl | rfl | rfl
  · rw [hfixed fun _ _ => hst₀, ← portDiscovery_iff hov hos]
    simp only [stageTargets, some.injEq] at hst₀
    rw [hst₀]
  · rw [hfixed fun _ _ => hst₀]
    exact httpDiscovery_iff hov hos hst₀
  all_goals exact crawlEndpoints_iff hov hos hst₀

/-! ## A scan limited to a name still scans the scope's addresses -/

def oneAddress : Inventory where
  assets := []
  scopeEntries := [{ id := some 1, entryType := .ip, value := "8.8.8.8".toList }]

lemma sameHost_fixed {U : Unicode} {x h : Str} (hx : ∀ b, HostForm U x b → b = x)
    (hs : SameHost U x h) : h = x := by
  induction hs with
  | refl => rfl
  | tail _ hstep ih => exact hx _ (ih ▸ hstep)

lemma example_fixed (b : Str) (h : HostForm asciiUnicode "example.com".toList b) :
    b = "example.com".toList := by
  have hip : validateIp "example.com".toList = .error (.invalidIp "example.com".toList) := by decide
  have hname : validateHostname asciiUnicode "example.com".toList = .ok "example.com".toList := by
    decide
  have hstrip : strip "example.com".toList = "example.com".toList := by decide
  rcases h with h | h | ⟨y, hy, -⟩
  · rw [hip] at h
    cases h
  · rw [hname, Except.ok.injEq] at h
    exact h.symm
  · rw [hstrip] at hy
    exact absurd (congrArg head? hy) (by simp)

/-- Port discovery of a scan limited to `example.com` takes in `8.8.8.8`. -/
theorem override_unfiltered : ∃ (o t : Target asciiUnicode) (out : StageTargets asciiUnicode),
      Target.make asciiUnicode .hostname "example.com".toList = .ok o ∧
      buildTargets asciiUnicode oneAddress [o.value] .portDiscovery 50000 false = some out ∧
      t ∈ out.targets ∧ t.value = "8.8.8.8".toList ∧ ¬ Belongs oneAddress [o] t := by
  obtain ⟨o, ho, hk, hv⟩ := @Target.make_of_validate asciiUnicode .hostname
    "example.com".toList "example.com".toList (by decide)
  have heval : (buildTargets asciiUnicode oneAddress ["example.com".toList] .portDiscovery 50000
      false).any (fun out => out.targets.any fun t =>
        t.kind == .ip && t.value == "8.8.8.8".toList) = true := by decide +kernel
  simp only [Option.any_eq_true, List.any_eq_true, Bool.and_eq_true, beq_iff_eq] at heval
  obtain ⟨out, hout, t, ht, htk, htv⟩ := heval
  refine ⟨o, t, out, ho, by rw [hv]; exact hout, ht, htv, ?_⟩
  have hoh : o.host = .ok "example.com".toList := by
    unfold Target.host hostOf
    rw [hk, hv]
  have hth : t.host = .ok "8.8.8.8".toList := by
    unfold Target.host hostOf
    rw [htk, htv]
  have hov : overrideHost o = "example.com".toList := by
    unfold overrideHost
    rw [hoh]
  rintro ⟨o', ho', h⟩
  rw [mem_singleton] at ho'
  subst ho'
  rcases h with ⟨host, hh, hs⟩ | ⟨host, ip, hh, hip, -⟩ | ⟨n, m, -, hm, -⟩
  · rw [hth, Except.ok.injEq] at hh
    rw [hov, ← hh] at hs
    exact absurd (sameHost_fixed example_fixed hs) (by decide)
  · rw [hov] at hip
    have hnone : oneAddress.hostToIps "example.com".toList = [] := by decide
    rw [hnone] at hip
    cases hip
  · have hnone : ipNetwork "example.com".toList = none := by decide
    unfold targetNetwork at hm
    rw [hoh] at hm
    simp only [hnone] at hm
    cases hm

theorem override_iff_oneAddress : ∃ (o : Target asciiUnicode) (out₀ : StageTargets asciiUnicode),
      Target.make asciiUnicode .hostname "example.com".toList = .ok o ∧
      buildTargets asciiUnicode oneAddress ([o].map Target.value) .portDiscovery 50000 false = some out₀ ∧
      ((∀ limit crawled out,
          buildTargets asciiUnicode oneAddress ([o].map Target.value) .portDiscovery limit crawled = some out →
          ∀ t ∈ out.targets, Belongs oneAddress [o] t) ↔
        OverrideRespected oneAddress [o] .portDiscovery) := by
  obtain ⟨o, ho, hk, hv⟩ := @Target.make_of_validate asciiUnicode .hostname
    "example.com".toList "example.com".toList (by decide)
  have heval : (buildTargets asciiUnicode oneAddress ["example.com".toList] .portDiscovery 50000
      false).isSome = true := by decide +kernel
  obtain ⟨out₀, hout⟩ := isSome_iff_exists.1 heval
  have hret : buildTargets asciiUnicode oneAddress ([o].map Target.value) .portDiscovery 50000 false =
      some out₀ := by
    rw [map_cons, map_nil, hv]
    exact hout
  exact ⟨o, out₀, ho, hret, override_iff asciiUnicode oneAddress [o] .portDiscovery (by simp)
    (by decide) 50000 false out₀ hret⟩

end App.Scans
