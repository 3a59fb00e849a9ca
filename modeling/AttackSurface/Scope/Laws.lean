import AttackSurface.Scope.Policy

/-!
# Monotonicity of the scope policy

    adding an exclusion never turns a refusal into an allowance,
    and what may be scanned actively may be scanned passively        (check_monotone)

Both come from one fact: a checker, a mode and a choice that grant at least as much at
every point where the policy looks (`Grants`) allow at least as many targets
(`Allowed.mono`).
-/

namespace App.Scope

open PyText PyNet AsmSensors List Option Bool

/-! ## Comparing policies -/

/-- `c'` in mode `active'` with `choice'` grants what `c` in mode `active` with `choice` does. -/
structure Grants (c c' : ScopeChecker) (active active' : Bool) (choice choice' : Choice) : Prop where
  rules : ∀ r ∈ c'.rules, r.isExclusion = true → r ∈ c.rules
  nets : ∀ p ∈ c'.nets, p.2.isExclusion = true → p ∈ c.nets
  name : ∀ host, choice _ (fun r => r.value.length) (inclusionDomains c host) (passes c active) →
    choice' _ (fun r => r.value.length) (inclusionDomains c' host) (passes c' active')
  address : ∀ a, choice _ (fun p => p.1.prefixlen) (inclusionNets c a) (fun p => passes c active p.2) →
    choice' _ (fun p => p.1.prefixlen) (inclusionNets c' a) (fun p => passes c' active' p.2)
  none_left : ∀ a, inclusionNets c a = [] → inclusionNets c' a = []
  network : ∀ net, choice _ (fun _ => 0) (supernets c net) (fun p => passes c active p.2) →
    choice' _ (fun _ => 0) (supernets c' net) (fun p => passes c' active' p.2)
  mode : active' = true → active = true
  derived : c.derivedIpScanning = true → c'.derivedIpScanning = true
  nonPublic : c.allowNonPublic = true → c'.allowNonPublic = true

section Mono

variable {c c' : ScopeChecker} {active active' : Bool} {choice choice' : Choice}

section

variable (h : Grants c c' active active' choice choice')

include h

lemma Grants.public_mono {P : Prop} (hp : active = true → c.allowNonPublic = false → P) :
    active' = true → c'.allowNonPublic = false → P := by
  intro ha hn
  apply hp (h.mode ha)
  by_contra hc
  rw [not_eq_false] at hc
  rw [h.nonPublic hc] at hn
  cases hn

lemma HostAllowed.mono {P P' : Prop} (hP : P → P')
    {host : Str} (ha : HostAllowed c active choice P host) : HostAllowed c' active' choice' P' host := by
  rcases ha with ⟨hn, hex, hinc⟩ | ⟨a, hip, hex, hinc, hpub⟩
  · exact .inl ⟨hn, fun r hr he => hex r (h.rules r hr he) he, h.name host hinc⟩
  refine .inr ⟨a, hip, fun p hp he => hex p (h.nets p hp he) he, ?_, h.public_mono hpub⟩
  rcases hinc with hinc | ⟨hnil, hpar, hder⟩
  · exact .inl (h.address a hinc)
  · exact .inr ⟨h.none_left a hnil, hP hpar, fun ha => h.derived (hder (h.mode ha))⟩

lemma NetworkAllowed.mono {net : Network}
    (ha : NetworkAllowed c active choice net) : NetworkAllowed c' active' choice' net := by
  obtain ⟨hex, hinc, hpub⟩ := ha
  exact ⟨fun p hp he => hex p (h.nets p hp he) he, h.network net hinc, h.public_mono hpub⟩

/-- **More grants, more allowed targets**: through the parents as well. -/
theorem Allowed.mono {U : Unicode} {t : Target U}
    {df : DerivedFrom} (ha : Allowed c active choice df t) : Allowed c' active' choice' df t := by
  rcases ha with ⟨hk, net, hn, hnet⟩ | ⟨hk, host, hh, hhost⟩
  · exact .inl ⟨hk, net, hn, hnet.mono h⟩
  refine .inr ⟨hk, host, hh, hhost.mono h ?_⟩
  rintro ⟨q, hq, hd⟩
  exact ⟨q, hq, HostAllowed.mono h id hd⟩

end

end Mono

/-! ## The networks of a rule list -/

variable {nets : List (Network × ScopeRule)} {pre post : List ScopeRule}

lemma netsOf_append (rs ss : List ScopeRule) : netsOf (rs ++ ss) = some nets ↔
      ∃ m n, netsOf rs = some m ∧ netsOf ss = some n ∧ nets = m ++ n := by
  induction rs generalizing nets with
  | nil => simp [netsOf]
  | cons r rs ih =>
    rw [cons_append]
    simp only [netsOf]
    split
    · exact ih
    cases ipNetwork r.value with
    | none => simp
    | some k =>
      constructor
      · intro h
        cases hall : netsOf (rs ++ ss) with
        | none =>
          rw [hall] at h
          cases h
        | some x =>
          rw [hall] at h
          obtain ⟨m, n, hm, hn, rfl⟩ := ih.1 hall
          simp only [some.injEq] at h
          exact ⟨(k, r) :: m, n, by rw [hm], hn, by rw [← h]; rfl⟩
      rintro ⟨m, n, hm, hn, rfl⟩
      cases hrs : netsOf rs with
      | none =>
        rw [hrs] at hm
        cases hm
      | some m' =>
        rw [hrs] at hm
        simp only [some.injEq] at hm
        rw [ih.2 ⟨m', n, hrs, hn, rfl⟩, ← hm]
        rfl

lemma mem_netsOf {rs : List ScopeRule} (h : netsOf rs = some nets) {p : Network × ScopeRule} :
    p ∈ nets ↔ p.2 ∈ rs ∧ p.2.entryType ≠ .domain ∧ ipNetwork p.2.value = some p.1 := by
  induction rs generalizing nets with
  | nil =>
    simp only [netsOf, some.injEq] at h
    simp [← h]
  | cons r rs ih =>
    simp only [netsOf] at h
    split at h
    · next hd =>
      rw [ih h]
      constructor
      · rintro ⟨h1, h2⟩
        exact ⟨by simp [h1], h2⟩
      rintro ⟨h1, h2, h3⟩
      rcases mem_cons.1 h1 with h1 | h1
      · rw [h1] at h2
        exact absurd hd h2
      · exact ⟨h1, h2, h3⟩
    · next hd =>
      split at h
      · next n ns hn hns =>
        simp only [some.injEq] at h
        rw [← h, mem_cons, ih hns]
        constructor
        · rintro (rfl | ⟨h1, h2⟩)
          · exact ⟨by simp, hd, hn⟩
          · exact ⟨by simp [h1], h2⟩
        rintro ⟨h1, h2, h3⟩
        rcases mem_cons.1 h1 with h1 | h1
        · left
          obtain ⟨k, s⟩ := p
          simp only at h1 h3
          subst h1
          rw [hn, some.injEq] at h3
          rw [h3]
        · exact .inr ⟨h1, h2, h3⟩
      · cases h

/-! ## Adding an exclusion, scanning passively -/

def SameSettings (c c' : ScopeChecker) : Prop :=
  c'.requireVerification = c.requireVerification ∧ c'.derivedIpScanning = c.derivedIpScanning ∧
    c'.allowNonPublic = c.allowNonPublic

variable {c c' : ScopeChecker}

lemma passes_congr (h : SameSettings c c') (active : Bool) : passes c' active = passes c active := by
  funext r
  unfold passes
  rw [h.1]

lemma nets_of_exclusion {x : ScopeRule}
    (hc : c.rules = pre ++ post) (hc' : c'.rules = pre ++ x :: post) (hx : x.isExclusion = true) :
    ∃ m n k, c.nets = m ++ n ∧ c'.nets = m ++ (k ++ n) ∧ ∀ p ∈ k, p.2.isExclusion = true := by
  obtain ⟨m, n, hm, hn, hnets⟩ := (netsOf_append _ _).1 (hc ▸ c.nets_eq)
  have hc1 : netsOf (pre ++ ([x] ++ post)) = some c'.nets := by
    rw [← c'.nets_eq, hc']
    rfl
  obtain ⟨m', n1, hm', hn1, hnets'⟩ := (netsOf_append _ _).1 hc1
  obtain ⟨k, n', hk, hn', rfl⟩ := (netsOf_append _ _).1 hn1
  rw [hm, some.injEq] at hm'
  rw [hn, some.injEq] at hn'
  subst hm' hn'
  refine ⟨m, n, k, hnets, hnets', fun p hp => ?_⟩
  have := ((mem_netsOf hk).1 hp).1
  rw [mem_singleton.1 this]
  exact hx

lemma grants_of_exclusion {x : ScopeRule}
    (hs : SameSettings c c') (hc : c.rules = pre ++ post) (hc' : c'.rules = pre ++ x :: post)
    (hx : x.isExclusion = true) (active : Bool) :
    Grants c' c active active firstListed firstListed := by
  obtain ⟨m, n, k, hnets, hnets', hkx⟩ := nets_of_exclusion hc hc' hx
  have hfilter : ∀ q : Network × ScopeRule → Bool, (∀ p, q p = true → p.2.isExclusion = false) →
      c'.nets.filter q = c.nets.filter q := by
    intro q hq
    have hk0 : k.filter q = [] := by
      rw [filter_eq_nil_iff]
      intro p hp hqp
      have := hq p hqp
      rw [hkx p hp] at this
      cases this
    rw [hnets, hnets', filter_append, filter_append, filter_append, hk0, nil_append]
  have hdom : ∀ host, inclusionDomains c' host = inclusionDomains c host := by
    intro host
    unfold inclusionDomains
    rw [hc, hc', filter_append, filter_append, filter_cons_of_neg (by simp [hx])]
  have haddr : ∀ a, inclusionNets c' a = inclusionNets c a := by
    intro a
    apply hfilter
    intro p hp
    simp only [and_eq_true, beq_iff_eq] at hp
    exact hp.1
  have hnet : ∀ net, supernets c' net = supernets c net := by
    intro net
    apply hfilter
    intro p hp
    simp only [and_eq_true, not_eq_true'] at hp
    exact hp.1
  have hpass := passes_congr hs active
  refine ⟨?_, ?_, ?_, ?_, ?_, ?_, id, ?_, ?_⟩
  · intro r hr _
    rw [hc] at hr
    rw [hc']
    simp only [mem_append, mem_cons] at hr ⊢
    tauto
  · intro p hp _
    rw [hnets] at hp
    rw [hnets']
    simp only [mem_append] at hp ⊢
    tauto
  · intro host h
    rwa [hdom, hpass] at h
  · intro a h
    rwa [haddr, hpass] at h
  · intro a h
    rwa [haddr] at h
  · intro net h
    rwa [hnet, hpass] at h
  · intro h
    rwa [hs.2.1] at h
  · intro h
    rwa [hs.2.2] at h

lemma grants_passive (c : ScopeChecker) : Grants c c true false firstListed firstListed := by
  have hp : ∀ r, passes c false r = true := fun r => rfl
  refine ⟨fun r hr _ => hr, fun p hp _ => hp, ?_, ?_, fun a h => h, ?_, fun h => ?_, id, id⟩
  · rintro host ⟨x, hx, -⟩
    exact ⟨x, hx, hp x⟩
  · rintro a ⟨x, hx, -⟩
    exact ⟨x, hx, hp x.2⟩
  · rintro net ⟨x, hx, -⟩
    exact ⟨x, hx, hp x.2⟩
  · cases h

/-- **Exclusions only refuse, and passive scanning needs no more than active scanning.**  An
exclusion added anywhere keeps every refusal; what is allowed actively is allowed passively. -/
theorem check_monotone {U : Unicode} (t : Target U) (df : DerivedFrom) :
    (∀ (c c' : ScopeChecker) (pre post : List ScopeRule) (x : ScopeRule) (active : Bool),
      SameSettings c c' → c.rules = pre ++ post → c'.rules = pre ++ x :: post →
      x.isExclusion = true → isAllowed (c.check t active df) = false →
        isAllowed (c'.check t active df) = false) ∧
    ∀ c : ScopeChecker, isAllowed (c.check t true df) = true → isAllowed (c.check t false df) = true := by
  constructor
  · intro c c' pre post x active hs hc hc' hx h
    by_contra hne
    rw [not_eq_false, check_iff] at hne
    have := check_iff.2 (hne.mono (grants_of_exclusion hs hc hc' hx active))
    rw [h] at this
    cases this
  · intro c h
    rw [check_iff] at h ⊢
    exact h.mono (grants_passive c)

/-- **Laxer settings refuse nothing more.**  What is allowed stays allowed when verification is not required any
more, or when derived or non-public addresses may be scanned. -/
theorem check_laxer {U : Unicode} (c : ScopeChecker) (t : Target U) (df : DerivedFrom) (active v d n : Bool) :
    isAllowed (c.check t active df) ≤ isAllowed ({ c with
      requireVerification := c.requireVerification && v
      derivedIpScanning := c.derivedIpScanning || d
      allowNonPublic := c.allowNonPublic || n }.check t active df) := by
  have hpass : ∀ r, passes c active r = true →
      passes { c with requireVerification := c.requireVerification && v } active r = true := by
    simp only [passes]
    grind
  refine Bool.le_iff_imp.2 fun h => ?_
  rw [check_iff] at h ⊢
  refine Allowed.mono ?_ h
  refine ⟨fun r hr _ => hr, fun p hp _ => hp, ?_, ?_, fun _ h => h, ?_, id, ?_, ?_⟩
  · rintro host ⟨r, hr, hp⟩
    exact ⟨r, hr, hpass r hp⟩
  · rintro a ⟨p, hp, hpasses⟩
    exact ⟨p, hp, hpass p.2 hpasses⟩
  · rintro net ⟨p, hp, hpasses⟩
    exact ⟨p, hp, hpass p.2 hpasses⟩
  · simp +contextual
  · simp +contextual

lemma ScopeChecker.make_spec {rules : List ScopeRule} {rv dv an : Bool} {c : ScopeChecker}
    (h : ScopeChecker.make rules rv dv an = some c) :
    c.rules = rules ∧ c.requireVerification = rv ∧ c.derivedIpScanning = dv ∧ c.allowNonPublic = an := by
  unfold ScopeChecker.make at h
  split at h
  · cases h
  simp only [some.injEq] at h
  rw [← h]
  exact ⟨rfl, rfl, rfl, rfl⟩

def exampleDomain : ScopeRule := { id := none, entryType := .domain, value := "example.com".toList }

def excludedHost : ScopeRule :=
  { id := none, entryType := .domain, value := "www.example.com".toList, isExclusion := true }

/-- An exclusion below an authorized domain, asked about a name that was refused before. -/
theorem check_monotone_excludedHost : ∃ (c c' : ScopeChecker) (t : Target asciiUnicode),
      c.rules = [exampleDomain] ∧ c'.rules = [exampleDomain, excludedHost] ∧
      isAllowed (c.check t true noMap) = false ∧ isAllowed (c'.check t true noMap) = false := by
  have heval : (ScopeChecker.make [exampleDomain] false true false).any (fun c =>
      (ScopeChecker.make [exampleDomain, excludedHost] false true false).any fun _ =>
      (Target.make asciiUnicode .hostname "www.example.org".toList).toOption.any fun t =>
        !isAllowed (c.check t true noMap)) = true := by
    decide +kernel
  simp only [Option.any_eq_true, not_eq_true'] at heval
  obtain ⟨c, hc, c', hc', t, -, h⟩ := heval
  obtain ⟨r1, a1, b1, d1⟩ := ScopeChecker.make_spec hc
  obtain ⟨r2, a2, b2, d2⟩ := ScopeChecker.make_spec hc'
  have hs : SameSettings c c' := ⟨by rw [a1, a2], by rw [b1, b2], by rw [d1, d2]⟩
  exact ⟨c, c', t, r1, r2, h,
    (check_monotone t noMap).1 c c' [exampleDomain] [] excludedHost true hs r1 r2 rfl h⟩

end App.Scope
