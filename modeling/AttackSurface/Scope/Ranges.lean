import AttackSurface.Scope.Laws

/-!
# Ranges and the addresses in them

A network target is decided by the first listed entry around it, an address by the
most specific one.  For a network that may be scanned actively:

    every address of it may be scanned actively
      ↔  no entry that fails the active test is the most specific one anywhere in it,
         and every address of it is public                               (range_check_iff)
-/

namespace App.Scope

open PyText PyNet AsmSensors StableSort List

/-- In the part of every failing entry that lies in the network, a more specific entry takes
over: one with a longer prefix, or with the same prefix and listed earlier. -/
def FailingShadowed (c : ScopeChecker) (net : Network) : Prop :=
  ∀ pre p post, c.nets = pre ++ p :: post → p.2.isExclusion = false → passes c true p.2 = false →
    ∀ a, net.contains a = true → p.1.contains a = true →
      ∃ q, q.2.isExclusion = false ∧ q.1.contains a = true ∧
        (q ∈ pre ∧ p.1.prefixlen ≤ q.1.prefixlen ∨ q ∈ post ∧ p.1.prefixlen < q.1.prefixlen)

def AllPublic (c : ScopeChecker) (net : Network) : Prop :=
  c.allowNonPublic = false → ∀ a, net.contains a = true → a.isGlobal = true ∧ a.ipv4Mapped = none

/-! ## Address targets -/

lemma exists_ip_target (U : Unicode) (a : Address) :
    ∃ (t : Target U) (b : Address), t.kind = .ip ∧ ipAddress t.value = some b ∧
      b.version = a.version ∧ b.ip = a.ip := by
  have hplain : ∀ c ∈ (Address.ofInt a.version a.ip a.ip_lt).toStr, isPlain c = true := by
    intro c hc
    rcases toStr_letters hc with hc | rfl | hc
    · exact isPlain_of_isAddressChar hc
    · decide
    · cases hc
  have hval : validateTarget U .ip (Address.ofInt a.version a.ip a.ip_lt).toStr =
      .ok (Address.ofInt a.version a.ip a.ip_lt).toStr := by
    rw [validateTarget_ok_iff, head_eq_dash_iff]
    constructor
    · exact validateIp_ok_iff.2 ⟨_, by rw [strip_of_isPlain hplain, ipAddress_toStr], rfl⟩
    · intro hd
      exact absurd (toStr_head hd) (by decide)
  obtain ⟨t, -, hk, hv⟩ := Target.make_of_validate hval
  exact ⟨t, Address.ofInt a.version a.ip a.ip_lt, hk, by rw [hv, ipAddress_toStr], rfl, rfl⟩

section Congr

variable {a b : Address} (hv : b.version = a.version) (hip : b.ip = a.ip)
include hv hip

lemma contains_congr (n : Network) : n.contains b = n.contains a := by
  unfold Network.contains
  rw [hv, hip]

lemma isGlobal_congr : b.isGlobal = a.isGlobal ∧ b.ipv4Mapped = a.ipv4Mapped := by
  have hm : b.ipv4Mapped = a.ipv4Mapped := by
    unfold Address.ipv4Mapped
    rw [hv, hip]
  unfold Address.isGlobal Address.isPrivate
  rw [hm, hv, hip]
  exact ⟨rfl, rfl⟩

end Congr

/-! ## One address of an allowed network -/

section Range

variable {c : ScopeChecker} {net : Network}

lemma inclusionNets_ne_nil {p : Network × ScopeRule} (hp : p ∈ supernets c net) {a : Address}
    (hin : net.contains a = true) : inclusionNets c a ≠ [] := by
  have hmem := mem_filter.1 hp
  simp only [Bool.and_eq_true, Bool.not_eq_true', beq_iff_eq] at hmem
  apply ne_nil_of_mem (a := p)
  apply mem_filter.2
  refine ⟨hmem.1, ?_⟩
  simp only [Bool.and_eq_true, beq_iff_eq]
  exact ⟨hmem.2.1, Network.subnetOf_contains hmem.2.2.1 hmem.2.2.2 hin⟩

/-- The target for an address of an allowed network is decided by its most specific entry and
by being public: exclusions are out of the way. -/
lemma check_address_iff {U : Unicode} (hnet : NetworkAllowed c true firstListed net) {t : Target U}
    {a : Address} (hk : t.kind = .ip) (ha : ipAddress t.value = some a) (hin : net.contains a = true) :
    isAllowed (c.check t true noMap) = true ↔
      firstListed _ (fun p => p.1.prefixlen) (inclusionNets c a) (fun p => passes c true p.2) ∧
        PublicAddress c true a := by
  obtain ⟨hex, ⟨p, hp, -⟩, -⟩ := hnet
  have hhost : t.host = .ok t.value := by
    unfold Target.host
    rw [hk]
    rfl
  have hnone : ∀ p ∈ c.nets, p.2.isExclusion = true → p.1.contains a = false := by
    intro p hp he
    by_contra hc
    rw [Bool.not_eq_false] at hc
    have := hex p hp he
    rw [Network.overlaps_of_contains hc hin] at this
    cases this
  have hne : inclusionNets c a ≠ [] := inclusionNets_ne_nil hp.maxBy.1 hin
  have hkind : t.kind ≠ .cidr := by
    rw [hk]
    decide
  rw [check_iff]
  unfold Allowed HostAllowed AddressAllowed
  simp only [hkind, false_and, false_or, hhost, Except.ok.injEq, exists_eq_left', ha, reduceCtorEq,
    Option.some.injEq, hne, or_false, ne_eq, not_false_eq_true, true_and]
  exact ⟨fun h => h.2, fun h => ⟨hnone, h⟩⟩

/-- The most specific entry passes everywhere exactly when failing entries are shadowed. -/
lemma firstListed_iff_shadowed (hne : ∀ a, net.contains a = true → inclusionNets c a ≠ []) :
    (∀ a, net.contains a = true →
      firstListed _ (fun p => p.1.prefixlen) (inclusionNets c a) (fun p => passes c true p.2)) ↔
    FailingShadowed c net := by
  constructor
  · intro h pre p post hsplit hinc hfail a ha hpa
    obtain ⟨x, hx, hok⟩ := h a ha
    have hxm := (mem_filter.1 hx.maxBy.1).2
    simp only [Bool.and_eq_true, beq_iff_eq] at hxm
    have hfilter : inclusionNets c a = pre.filter (fun p => p.2.isExclusion == false && p.1.contains a) ++
          p :: post.filter (fun p => p.2.isExclusion == false && p.1.contains a) := by
      unfold inclusionNets
      rw [hsplit, filter_append, filter_cons_of_pos (by simp [hinc, hpa])]
    rw [hfilter] at hx
    rcases firstMax_append_cons hx with ⟨hm, hle⟩ | rfl | ⟨hm, hlt⟩
    · exact ⟨x, hxm.1, hxm.2, .inl ⟨(mem_filter.1 hm).1, hle⟩⟩
    · have hpass : passes c true x.2 = true := hok
      rw [hpass] at hfail
      cases hfail
    · exact ⟨x, hxm.1, hxm.2, .inr ⟨(mem_filter.1 hm).1, hlt⟩⟩
  · intro h a ha
    obtain ⟨x, hx⟩ : ∃ x, FirstMax (fun p => p.1.prefixlen) (inclusionNets c a) x :=
      exists_firstMax (hne a ha)
    refine ⟨x, hx, ?_⟩
    by_contra hfail
    rw [Bool.not_eq_true] at hfail
    have hxm := (mem_filter.1 hx.maxBy.1).2
    simp only [Bool.and_eq_true, beq_iff_eq] at hxm
    -- nothing more specific stands before or after the first of the longest ones
    obtain ⟨pre, post, hsplit, hpre, hpost⟩ := firstMax_filter hx
    obtain ⟨q, hq1, hq2, ⟨hm, hle⟩ | ⟨hm, hlt⟩⟩ := h pre x post hsplit hxm.1 hfail a ha hxm.2
    · have := hpre q hm (by simp [hq1, hq2])
      omega
    · have := hpost q hm (by simp [hq1, hq2])
      omega

end Range

/-- **When an authorized range holds only authorized addresses.** -/
theorem range_check_iff {U : Unicode} (c : ScopeChecker) (t : Target U) (net : Network)
    (df : DerivedFrom) (hk : t.kind = .cidr) (hn : ipNetwork t.value = some net)
    (h : isAllowed (c.check t true df) = true) :
    (∀ (t' : Target U) (a : Address), t'.kind = .ip → ipAddress t'.value = some a →
      net.contains a = true → isAllowed (c.check t' true noMap) = true) ↔
    FailingShadowed c net ∧ AllPublic c net := by
  have hnet : NetworkAllowed c true firstListed net := by
    rcases check_iff.1 h with ⟨-, net', hn', h⟩ | ⟨hk', -⟩
    · rw [hn, Option.some.injEq] at hn'
      rwa [← hn'] at h
    · exact absurd hk hk'
  have hne : ∀ a, net.contains a = true → inclusionNets c a ≠ [] := by
    intro a ha
    obtain ⟨-, ⟨p, hp, -⟩, -⟩ := hnet
    exact inclusionNets_ne_nil hp.maxBy.1 ha
  rw [← firstListed_iff_shadowed hne]
  constructor
  · intro hall
    -- every address has a target that stands for it
    have hboth : ∀ a, net.contains a = true →
        firstListed _ (fun p => p.1.prefixlen) (inclusionNets c a) (fun p => passes c true p.2) ∧
          PublicAddress c true a := by
      intro a ha
      obtain ⟨t', b, hk', hb, hv, hip⟩ := exists_ip_target U a
      have hin : net.contains b = true := by
        rw [contains_congr hv hip]
        exact ha
      have hok := (check_address_iff hnet hk' hb hin).1 (hall t' b hk' hb hin)
      have hsame : inclusionNets c b = inclusionNets c a := by
        unfold inclusionNets
        simp only [contains_congr hv hip]
      have hg := isGlobal_congr hv hip
      unfold PublicAddress at hok ⊢
      rwa [hsame, hg.1, hg.2] at hok
    exact ⟨fun a ha => (hboth a ha).1, fun hnp a ha => (hboth a ha).2 rfl hnp⟩
  · rintro ⟨hfirst, hpub⟩ t' a hk' ha hin
    rw [check_address_iff hnet hk' ha hin]
    exact ⟨hfirst a hin, fun _ hnp => hpub hnp a hin⟩

def nestedRules : List ScopeRule := [{ id := none, entryType := .cidr, value := "8.8.0.0/16".toList },
    { id := none, entryType := .cidr, value := "8.8.8.0/24".toList, allowActiveScanning := false }]

/-- The /16 is authorized, the address in the /24 is not. -/
theorem range_check_nested : ∃ (c : ScopeChecker) (t t' : Target asciiUnicode) (net : Network) (a : Address),
      ScopeChecker.make nestedRules false true false = some c ∧
      (t.kind = .cidr ∧ t.value = "8.8.0.0/16".toList ∧ ipNetwork t.value = some net) ∧
      (t'.kind = .ip ∧ t'.value = "8.8.8.8".toList ∧ ipAddress t'.value = some a) ∧
      net.contains a = true ∧ isAllowed (c.check t true noMap) = true ∧
      isAllowed (c.check t' true noMap) = false := by
  have heval : (ScopeChecker.make nestedRules false true false).any (fun c =>
      (Target.make asciiUnicode .cidr "8.8.0.0/16".toList).toOption.any fun t =>
      (Target.make asciiUnicode .ip "8.8.8.8".toList).toOption.any fun t' =>
      (ipNetwork t.value).any fun net => (ipAddress t'.value).any fun a =>
        decide (t.kind = .cidr ∧ t.value = "8.8.0.0/16".toList) &&
        decide (t'.kind = .ip ∧ t'.value = "8.8.8.8".toList) && net.contains a &&
        isAllowed (c.check t true noMap) && !isAllowed (c.check t' true noMap)) = true := by
    decide +kernel
  simp only [Option.any_eq_true, Bool.and_eq_true, decide_eq_true_eq, Bool.not_eq_true'] at heval
  obtain ⟨c, hc, t, -, t', -, net, hn, a, ha, ⟨⟨⟨ht, ht'⟩, hin⟩, h1⟩, h2⟩ := heval
  exact ⟨c, t, t', net, a, hc, ⟨ht.1, ht.2, hn⟩, ⟨ht'.1, ht'.2, ha⟩, hin, h1, h2⟩

theorem range_check_iff_nested : ∃ (c : ScopeChecker) (t : Target asciiUnicode) (net : Network),
      isAllowed (c.check t true noMap) = true ∧
      ((∀ (t' : Target asciiUnicode) (a : Address), t'.kind = .ip → ipAddress t'.value = some a →
        net.contains a = true → isAllowed (c.check t' true noMap) = true) ↔
        FailingShadowed c net ∧ AllPublic c net) := by
  have heval : (ScopeChecker.make nestedRules false true false).any (fun c =>
      (Target.make asciiUnicode .cidr "8.8.8.0/24".toList).toOption.any fun t =>
      (ipNetwork t.value).any fun _ =>
        decide (t.kind = .cidr) && isAllowed (c.check t true noMap)) = true := by
    decide +kernel
  simp only [Option.any_eq_true, Bool.and_eq_true, decide_eq_true_eq] at heval
  obtain ⟨c, -, t, -, net, hn, hk, h⟩ := heval
  exact ⟨c, t, net, h, range_check_iff c t net noMap hk hn h⟩

end App.Scope
