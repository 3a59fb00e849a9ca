import AttackSurface.Sensors.TargetLaws

/-!
# Two egress guards (`runner.egress_filter`, `egress_proxy.address_verdict`)

Before a scan, `egressFilter` drops targets whose addresses may not be contacted; at
connection time the proxy asks `addressVerdict` about each address.  The second one
also looks at IPv4 addresses hidden in IPv6 ones, and refuses link-local, multicast and
unspecified addresses in every mode.  The first does neither, so it may keep what the
second refuses:

    every kept target has only accepted addresses ↔ each target has an address the filter
    refuses, or only `Plain` ones                                          (egressFilter_iff)
-/

namespace AsmSensors

open PyText PyNet List Option

/-! ## The connection guard -/

/-- `_NAT64`. -/
def nat64Networks : NetTable := [(0x64ff9b * 2 ^ 96, 96), (0x64ff9b0001 * 2 ^ 80, 48)]

def tunnelled (a : Address) : List Address :=
  match a.version with
  | .v4 => []
  | .v6 =>
    a.ipv4Mapped.toList ++ a.sixtofour.toList ++ (match a.teredo with
      | some (server, client) => [server, client]
      | none => []) ++
      (if nat64Networks.has 128 a.ip then [v4OfInt a.ip] else [])

/-- `_embedded`. -/
def embedded (a : Address) : List Address := a :: tunnelled a

/-- `ALWAYS_BLOCKED`: `169.254.0.0/16`, `100.100.100.200/32`, `fe80::/10`, `fd00:ec2::254/128`. -/
def alwaysBlocked : Version → NetTable
  | .v4 => [(0xA9FE0000, 16), (0x646464C8, 32)]
  | .v6 => [(0xfe80 * 2 ^ 112, 10), (0xfd000ec2 * 2 ^ 96 + 0x254, 128)]

def isAlwaysBlocked (a : Address) : Bool := (alwaysBlocked a.version).has a.version.bits a.ip

def isExcluded (excluded : List Network) (a : Address) : Bool := excluded.any (·.contains a)

variable (allowNonPublic : Bool) (excluded : List Network)

/-- One round of the loop in `address_verdict`, for `a` embedded in `addr`. -/
def embeddedVerdict (addr a : Address) : Option Str :=
  if isAlwaysBlocked a then some ("link-local or metadata address ".toList ++ addr.toStr)
  else if !allowNonPublic && (!a.isGlobal || a.isMulticast) then
    some ("non-public address ".toList ++ addr.toStr)
  else if a.isUnspecified || a.isMulticast then some ("unusable address ".toList ++ addr.toStr)
  else if isExcluded excluded a then some ("excluded address ".toList ++ addr.toStr)
  else none

/-- Why this address may not be contacted (`none`: it may). -/
def addressVerdict (addr : Address) : Option Str :=
  (embedded addr).findSome? (embeddedVerdict allowNonPublic excluded addr)

/-! ## The filter before the scan -/

/-- `verdict` of `egress_filter`. -/
def filterVerdict (addrs : List Address) : Option Str :=
  addrs.findSome? fun a =>
    if !allowNonPublic && !a.isGlobal then some ("resolves to non-public address ".toList ++ a.toStr)
    else if isExcluded excluded a then some ("resolves to excluded address ".toList ++ a.toStr)
    else none

/-- A target, with the addresses that a lookup of its host gives during the call. -/
abbrev Looked (U : Unicode) := Target U × List Address

variable {U : Unicode}

/-- `check` of `egress_filter`: why the target is dropped.  The outer `none` is a `ValueError`. -/
def egressCheck (allowNonPublic : Bool) (excluded : List Network) (e : Looked U) :
    Option (Option Str) :=
  if e.1.kind = .cidr then
    match ipNetwork e.1.value with
    | none => none
    | some net =>
      if !allowNonPublic && !net.isGlobal then some (some "non-public network".toList)
      else if excluded.any (net.overlaps ·) then some (some "overlaps an excluded range".toList)
      else some none
  else
    match e.1.host with
    | .error _ => none
    | .ok host =>
      match ipAddress host with
      | some a => some (filterVerdict allowNonPublic excluded [a])
      | none => some (filterVerdict allowNonPublic excluded e.2)

def sortOut {U : Unicode} (allowNonPublic : Bool) (excluded : List Network) :
    List (Looked U) → Option (List (Looked U) × List Str)
  | [] => some ([], [])
  | e :: es =>
    match egressCheck allowNonPublic excluded e, sortOut allowNonPublic excluded es with
    | some none, some (kept, dropped) => some (e :: kept, dropped)
    | some (some reason), some (kept, dropped) =>
      some (kept, (e.1.value ++ ": ".toList ++ reason) :: dropped)
    | _, _ => none

/-- `egress_filter`. -/
def egressFilter (allowNonPublic : Bool) (excluded : List Network)
    (es : List (Looked U)) : Option (List (Looked U) × List Str) :=
  if allowNonPublic && excluded.isEmpty then some (es, [])
  else sortOut allowNonPublic excluded es

/-! ## Where they agree -/

def addressesOf (e : Looked U) : List Address :=
  match e.1.host with
  | .error _ => []
  | .ok host =>
    match ipAddress host with
    | some a => [a]
    | none => e.2

def Refused (a : Address) : Prop :=
  (allowNonPublic = false ∧ a.isGlobal = false) ∨ isExcluded excluded a = true

/-- Neither the address nor one tunnelled in it is link-local (or a metadata service), multicast
or unspecified, and none tunnelled in it is non-public or excluded. -/
structure Plain (allowNonPublic : Bool) (excluded : List Network) (a : Address) : Prop where
  reachable : ∀ b ∈ embedded a, isAlwaysBlocked b = false ∧ b.isMulticast = false ∧ b.isUnspecified = false
  inner : ∀ b ∈ tunnelled a, ¬ Refused allowNonPublic excluded b

section Agreement

variable {U : Unicode} {allowNonPublic : Bool} {excluded : List Network}

lemma embeddedVerdict_eq_none_iff {addr a : Address} : embeddedVerdict allowNonPublic excluded addr a = none ↔
      (isAlwaysBlocked a = false ∧ a.isMulticast = false ∧ a.isUnspecified = false) ∧
        ¬ Refused allowNonPublic excluded a := by
  unfold embeddedVerdict Refused
  cases isAlwaysBlocked a <;> cases a.isMulticast <;> cases a.isUnspecified <;> cases allowNonPublic <;>
    cases a.isGlobal <;> cases isExcluded excluded a <;> simp

/-- **The guard accepts an address exactly when it is plain and the filter's test passes.** -/
theorem addressVerdict_eq_none_iff {a : Address} : addressVerdict allowNonPublic excluded a = none ↔
      Plain allowNonPublic excluded a ∧ ¬ Refused allowNonPublic excluded a := by
  unfold addressVerdict
  rw [findSome?_eq_none_iff]
  simp only [embeddedVerdict_eq_none_iff]
  constructor
  · intro h
    exact ⟨⟨fun b hb => (h b hb).1, fun b hb => (h b (mem_cons_of_mem _ hb)).2⟩, (h a mem_cons_self).2⟩
  rintro ⟨⟨hreach, hinner⟩, hself⟩ b hb
  refine ⟨hreach b hb, ?_⟩
  rcases mem_cons.1 hb with rfl | hb
  · exact hself
  · exact hinner b hb

lemma filterVerdict_eq_none_iff {addrs : List Address} : filterVerdict allowNonPublic excluded addrs = none ↔
      ∀ a ∈ addrs, ¬ Refused allowNonPublic excluded a := by
  unfold filterVerdict Refused
  rw [findSome?_eq_none_iff]
  refine forall₂_congr fun a _ => ?_
  cases allowNonPublic <;> cases a.isGlobal <;> cases isExcluded excluded a <;> simp

lemma egressCheck_host_iff {e : Looked U} (hk : e.1.kind ≠ .cidr)
    (hsome : egressCheck allowNonPublic excluded e ≠ none) :
    egressCheck allowNonPublic excluded e = some none ↔
      ∀ a ∈ addressesOf e, ¬ Refused allowNonPublic excluded a := by
  unfold egressCheck at hsome ⊢
  unfold addressesOf
  rw [if_neg hk] at hsome ⊢
  cases hhost : e.1.host with
  | error err =>
    rw [hhost] at hsome
    exact absurd rfl hsome
  | ok host =>
    cases ha : ipAddress host with
    | some a | none => simp only [ha, some.injEq, filterVerdict_eq_none_iff]

variable {es kept : List (Looked U)}

lemma mem_sortOut {dropped : List Str} (h : sortOut allowNonPublic excluded es = some (kept, dropped)) :
    (∀ e, e ∈ kept ↔ e ∈ es ∧ egressCheck allowNonPublic excluded e = some none) ∧
      ∀ e ∈ es, egressCheck allowNonPublic excluded e ≠ none := by
  induction es generalizing kept dropped with
  | nil =>
    simp only [sortOut, some.injEq, Prod.mk.injEq] at h
    rw [← h.1]
    simp
  | cons x es ih =>
    unfold sortOut at h
    split at h
    · next k d hx hes =>
      simp only [some.injEq, Prod.mk.injEq] at h
      obtain ⟨ih1, ih2⟩ := ih hes
      rw [← h.1]
      constructor
      · intro e
        simp only [mem_cons, ih1]
        constructor
        · rintro (rfl | ⟨he, hc⟩)
          · exact ⟨.inl rfl, hx⟩
          · exact ⟨.inr he, hc⟩
        rintro ⟨rfl | he, hc⟩
        · exact .inl rfl
        · exact .inr ⟨he, hc⟩
      · simpa [hx] using ih2
    · next reason k d hx hes =>
      simp only [some.injEq, Prod.mk.injEq] at h
      obtain ⟨ih1, ih2⟩ := ih hes
      rw [← h.1]
      constructor
      · intro e
        rw [ih1, mem_cons]
        constructor
        · rintro ⟨he, hc⟩
          exact ⟨.inr he, hc⟩
        rintro ⟨rfl | he, hc⟩
        · rw [hx] at hc
          cases hc
        · exact ⟨he, hc⟩
      · simpa [hx] using ih2
    · cases h

lemma mem_egressFilter {dropped : List Str}
    (h : egressFilter allowNonPublic excluded es = some (kept, dropped)) {e : Looked U}
    (hk : e.1.kind ≠ .cidr) :
    e ∈ kept ↔ e ∈ es ∧ ∀ a ∈ addressesOf e, ¬ Refused allowNonPublic excluded a := by
  unfold egressFilter at h
  split at h
  · next hlab =>
    -- in the lab mode without exclusions nothing is refused
    simp only [some.injEq, Prod.mk.injEq] at h
    simp only [Bool.and_eq_true, List.isEmpty_iff] at hlab
    have hnone : ∀ a, ¬ Refused allowNonPublic excluded a := by
      intro a
      simp [Refused, isExcluded, hlab.1, hlab.2]
    rw [← h.1]
    simp [hnone]
  · obtain ⟨hmem, hsome⟩ := mem_sortOut h
    rw [hmem]
    constructor
    · rintro ⟨he, hc⟩
      exact ⟨he, (egressCheck_host_iff hk (hsome e he)).1 hc⟩
    · rintro ⟨he, hc⟩
      exact ⟨he, (egressCheck_host_iff hk (hsome e he)).2 hc⟩

end Agreement

/-- **The filter keeps nothing that the guard refuses exactly when every target either has an
address the filter itself refuses or has only plain ones.** -/
theorem egressFilter_iff (U : Unicode) (allowNonPublic : Bool) (excluded : List Network)
    (es kept : List (Looked U)) (dropped : List Str)
    (h : egressFilter allowNonPublic excluded es = some (kept, dropped)) :
    (∀ e ∈ kept, e.1.kind ≠ .cidr → ∀ a ∈ addressesOf e, addressVerdict allowNonPublic excluded a = none) ↔
      ∀ e ∈ es, e.1.kind ≠ .cidr → (∃ a ∈ addressesOf e, Refused allowNonPublic excluded a) ∨
          ∀ a ∈ addressesOf e, Plain allowNonPublic excluded a := by
  simp only [addressVerdict_eq_none_iff]
  constructor
  · intro hkept e he hk
    by_cases href : ∃ a ∈ addressesOf e, Refused allowNonPublic excluded a
    · exact .inl href
    push Not at href
    have hmem := (mem_egressFilter h hk).2 ⟨he, href⟩
    exact .inr fun a ha => (hkept e hmem hk a ha).1
  · intro hes e he hk a ha
    obtain ⟨hin, hpass⟩ := (mem_egressFilter h hk).1 he
    rcases hes e hin hk with ⟨b, hb, href⟩ | hplain
    · exact absurd href (hpass b hb)
    · exact ⟨hplain a ha, hpass a ha⟩

/-- `10.0.0.1` behind the well-known NAT64 prefix. -/
lemma exists_nat64 : ∃ (t : Target asciiUnicode) (a : Address),
      Target.make asciiUnicode .ip "64:ff9b::a00:1".toList = .ok t ∧
      addressesOf (t, []) = [a] ∧ egressFilter false [] [(t, [])] = some ([(t, [])], []) ∧
      (addressVerdict false [] a).isSome = true := by
  obtain ⟨t, ht, hk, hv⟩ := @Target.make_of_validate asciiUnicode .ip
    "64:ff9b::a00:1".toList "64:ff9b::a00:1".toList (by decide +kernel)
  have hhost : t.host = .ok "64:ff9b::a00:1".toList := by
    unfold Target.host hostOf
    rw [hk, hv]
  have heval : (ipAddress "64:ff9b::a00:1".toList).any (fun a =>
      (filterVerdict false [] [a]).isNone && (addressVerdict false [] a).isSome) = true := by
    decide +kernel
  simp only [Option.any_eq_true, Bool.and_eq_true, isNone_iff_eq_none] at heval
  obtain ⟨a, ha, hkeep, hrefuse⟩ := heval
  have hcheck : egressCheck false [] (t, []) = some none := by
    unfold egressCheck
    rw [if_neg (by rw [hk]; decide), hhost]
    simp only [ha, hkeep]
  refine ⟨t, a, ht, ?_, by simp [egressFilter, sortOut, hcheck], hrefuse⟩
  unfold addressesOf
  simp only [hhost, ha]

/-- It is kept by the filter and refused by the guard. -/
theorem egressFilter_nat64 : ∃ (t : Target asciiUnicode) (a : Address),
      Target.make asciiUnicode .ip "64:ff9b::a00:1".toList = .ok t ∧
      egressFilter false [] [(t, [])] = some ([(t, [])], []) ∧
      addressesOf (t, []) = [a] ∧ addressVerdict false [] a ≠ none := by
  obtain ⟨t, a, ht, haddr, hkeep, hrefuse⟩ := exists_nat64
  exact ⟨t, a, ht, hkeep, haddr, isSome_iff_ne_none.1 hrefuse⟩

theorem egressFilter_iff_nat64 : ∃ t : Target asciiUnicode,
      Target.make asciiUnicode .ip "64:ff9b::a00:1".toList = .ok t ∧
      egressFilter false [] [(t, [])] = some ([(t, [])], []) ∧
      ((∀ e ∈ [((t, []) : Looked asciiUnicode)], e.1.kind ≠ .cidr →
          ∀ a ∈ addressesOf e, addressVerdict false [] a = none) ↔
        ∀ e ∈ [((t, []) : Looked asciiUnicode)], e.1.kind ≠ .cidr →
          (∃ a ∈ addressesOf e, Refused false [] a) ∨ ∀ a ∈ addressesOf e, Plain false [] a) := by
  obtain ⟨t, a, ht, -, hkeep, -⟩ := exists_nat64
  exact ⟨t, ht, hkeep, egressFilter_iff asciiUnicode false [] [(t, [])] [(t, [])] [] hkeep⟩

end AsmSensors
