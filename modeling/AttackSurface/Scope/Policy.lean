import AttackSurface.Scope.Checker

/-!
# What the scope checker decides

The policy behind `check`, stated without sorting, loops or early returns.  An entry
decides for a host when it is the most specific inclusion that matches; exclusions
refuse first; an address without an inclusion is allowed through a parent.

    isAllowed (c.check t active df) = true  ↔  Allowed c active firstListed df t     (check_iff)

How the deciding entry is chosen among equally specific ones is a parameter
(`Choice`): the code takes the first listed one, and the order-free readings of the
policy take some or every one of them.
-/

namespace App.Scope

open PyText PyNet AsmSensors StableSort List Option

/-! ## The policy -/

def Choice : Type 1 := ∀ α : Type, (α → Nat) → List α → (α → Bool) → Prop

def firstListed : Choice := fun _ key l ok => ∃ x, FirstMax key l x ∧ ok x = true

def someTied : Choice := fun _ key l ok => ∃ x, MaxBy key l x ∧ ok x = true

def everyTied : Choice := fun _ key l ok => (∃ x, MaxBy key l x) ∧ ∀ x, MaxBy key l x → ok x = true

section Policy

variable (c : ScopeChecker) (active : Bool)

/-- The active test: active scanning needs a permitting entry, verified if that is required. -/
def passes (r : ScopeRule) : Bool :=
  !active || (r.allowActiveScanning && (r.verified || !c.requireVerification))

def inclusionDomains (host : Str) : List ScopeRule :=
  c.rules.filter fun r => r.isExclusion == false && domainMatches host r

def inclusionNets (a : Address) : List (Network × ScopeRule) :=
  c.nets.filter fun p => p.2.isExclusion == false && p.1.contains a

def supernets (net : Network) : List (Network × ScopeRule) :=
  c.nets.filter fun p => !p.2.isExclusion && (p.1.version == net.version && net.subnetOf p.1)

variable (choice : Choice)

def NameAllowed (host : Str) : Prop :=
  (∀ r ∈ c.rules, r.isExclusion = true → domainMatches host r = false) ∧
    choice _ (fun r => r.value.length) (inclusionDomains c host) (passes c active)

/-- Active scanning is for public addresses only, unless the deployment says otherwise. -/
def PublicAddress (a : Address) : Prop :=
  active = true → c.allowNonPublic = false → a.isGlobal = true ∧ a.ipv4Mapped = none

/-- No exclusion covers the address; the longest inclusion that does passes, or there is none
and a parent is allowed; and the address is public. -/
def AddressAllowed (parentAllowed : Prop) (a : Address) : Prop :=
  (∀ p ∈ c.nets, p.2.isExclusion = true → p.1.contains a = false) ∧
  (choice _ (fun p => p.1.prefixlen) (inclusionNets c a) (fun p => passes c active p.2) ∨
    (inclusionNets c a = [] ∧ parentAllowed ∧ (active = true → c.derivedIpScanning = true))) ∧
  PublicAddress c active a

def HostAllowed (parentAllowed : Prop) (host : Str) : Prop :=
  (ipAddress host = none ∧ NameAllowed c active choice host) ∨
    ∃ a, ipAddress host = some a ∧ AddressAllowed c active choice parentAllowed a

def DirectAllowed (host : Str) : Prop := HostAllowed c active choice False host

/-- No exclusion overlaps the network; the deciding entry around it passes; it is public. -/
def NetworkAllowed (net : Network) : Prop :=
  (∀ p ∈ c.nets, p.2.isExclusion = true → p.1.overlaps net = false) ∧
  choice _ (fun _ => 0) (supernets c net) (fun p => passes c active p.2) ∧
  (active = true → c.allowNonPublic = false → net.isGlobal = true)

/-- **The policy for a target.** -/
def Allowed {U : Unicode} (choice : Choice) (derivedFrom : DerivedFrom) (t : Target U) : Prop :=
  (t.kind = .cidr ∧ ∃ net, ipNetwork t.value = some net ∧ NetworkAllowed c active choice net) ∨
  (t.kind ≠ .cidr ∧ ∃ host, t.host = .ok host ∧
    HostAllowed c active choice (∃ q ∈ derivedFrom host, DirectAllowed c active choice q) host)

end Policy

/-! ## Choices -/

variable {α : Type} {key : α → Nat} {ok : α → Bool}

variable {l : List α}

lemma firstListed_of_everyTied (h : everyTied α key l ok) : firstListed α key l ok := by
  obtain ⟨⟨x, hx⟩, hall⟩ := h
  obtain ⟨y, hy⟩ : ∃ y, FirstMax key l y := exists_firstMax (ne_nil_of_mem hx.1)
  exact ⟨y, hy, hall y hy.maxBy⟩

lemma someTied_of_firstListed (h : firstListed α key l ok) : someTied α key l ok := by
  obtain ⟨x, hx, hok⟩ := h
  exact ⟨x, hx.maxBy, hok⟩

lemma firstListed_nil : ¬ firstListed α key [] ok := by
  rintro ⟨x, hx, -⟩
  exact absurd hx.maxBy.1 (by simp)

lemma firstMax_const_iff {x : α} : FirstMax (fun _ => 0) l x ↔ l.head? = some x := by
  constructor
  · rintro ⟨pre, post, rfl, hpre, -⟩
    cases pre with
    | nil => rfl
    | cons y pre => exact absurd (hpre y (by simp)) (by simp)
  intro h
  cases l with
  | nil => cases h
  | cons y l =>
    simp only [head?_cons, some.injEq] at h
    exact ⟨[], l, by rw [h]; rfl, by simp, by simp⟩

/-! ## Single decisions -/

section Decisions

variable {c : ScopeChecker} {active : Bool}

@[simp] lemma authorize_allowed (r : ScopeRule) (what : Str) :
    (c.authorize r active what).allowed = passes c active r := by
  unfold ScopeChecker.authorize passes
  cases active <;> cases r.allowActiveScanning <;> cases c.requireVerification <;>
    cases r.verified <;> rfl

variable {net : Network}

/-- `_public_only` on a text that is a network. -/
lemma publicOnly_spec {address : Str} (h : ipNetwork address = some net) (d : Decision) :
    isAllowed (c.publicOnly address active d) = true ↔
      d.allowed = true ∧ (active = true → c.allowNonPublic = false → net.isGlobal = true) := by
  unfold ScopeChecker.publicOnly
  by_cases hskip : (!d.allowed || !active || c.allowNonPublic) = true
  · rw [if_pos hskip]
    show d.allowed = true ↔ _
    simp only [Bool.or_eq_true, Bool.not_eq_true'] at hskip
    constructor
    · intro hd
      refine ⟨hd, fun ha hn => ?_⟩
      rw [hd, ha, hn] at hskip
      simp at hskip
    · exact fun hd => hd.1
  rw [if_neg hskip, h]
  simp only [Bool.or_eq_true, Bool.not_eq_true', not_or, Bool.not_eq_false, Bool.not_eq_true] at hskip
  simp only []
  split
  · next hg => exact ⟨fun hd => ⟨hd, fun _ _ => hg⟩, fun hd => hd.1⟩
  next hg =>
  constructor
  · intro hd
    cases hd
  · rintro ⟨-, hd⟩
    exact absurd (hd hskip.1.2 hskip.2) hg

lemma publicOnly_isSome {address : Str} (h : ipNetwork address = some net)
    (d : Decision) : (c.publicOnly address active d).isSome = true := by
  unfold ScopeChecker.publicOnly
  rw [h]
  split
  · rfl
  · simp only []
    split <;> rfl

variable {host : Str} {a : Address} {checkParent : Str → Option Decision} {parents : List Str}

lemma domainRules_head {r : ScopeRule} : (c.domainRules host false).head? = some r ↔
      FirstMax (fun r => r.value.length) (inclusionDomains c host) r :=
  head_sortDesc_iff

lemma domainRules_excluded : c.domainRules host true = [] ↔
      ∀ r ∈ c.rules, r.isExclusion = true → domainMatches host r = false := by
  unfold ScopeChecker.domainRules
  rw [sortDesc_eq_nil_iff, filter_eq_nil_iff]
  simp

section

variable (ha : ipAddress host = some a)

include ha

lemma ipRules_head {r : ScopeRule} : (c.ipRules host false).head? = some r ↔
      ∃ p, FirstMax (fun p => p.1.prefixlen) (inclusionNets c a) p ∧ p.2 = r := by
  unfold ScopeChecker.ipRules
  rw [ha]
  simp only [head?_map, map_eq_some_iff]
  constructor
  · rintro ⟨p, hp, rfl⟩
    exact ⟨p, head_sortDesc_iff.1 hp, rfl⟩
  · rintro ⟨p, hp, rfl⟩
    exact ⟨p, head_sortDesc_iff.2 hp, rfl⟩

lemma ipRules_eq_nil (e : Bool) :
    c.ipRules host e = [] ↔ ∀ p ∈ c.nets, p.2.isExclusion = e → p.1.contains a = false := by
  unfold ScopeChecker.ipRules
  rw [ha]
  simp only [map_eq_nil_iff]
  rw [sortDesc_eq_nil_iff, filter_eq_nil_iff]
  simp

section

variable (hp : ∀ q ∈ parents, (checkParent q).isSome = true)

include hp

lemma derivedDecision_spec :
    isAllowed (c.derivedDecision checkParent host active parents) = true ↔
      (∃ q ∈ parents, isAllowed (checkParent q) = true) ∧ (active = true → c.derivedIpScanning = true) ∧
        (active = true → c.allowNonPublic = false → a.network.isGlobal = true) := by
  induction parents with
  | nil =>
    simp only [ScopeChecker.derivedDecision]
    simp [isAllowed]
  | cons q rest ih =>
    obtain ⟨d, hd⟩ := isSome_iff_exists.1 (hp q (by simp))
    have hrest := ih fun q hq => hp q (by simp [hq])
    have hq : isAllowed (checkParent q) = d.allowed := by
      rw [hd]
      rfl
    simp only [ScopeChecker.derivedDecision, hd]
    split
    · next hal =>
      have hex : ∃ q' ∈ q :: rest, isAllowed (checkParent q') = true := ⟨q, by simp, by rw [hq]; exact hal⟩
      split
      · next hder =>
        simp only [Bool.and_eq_true, Bool.not_eq_true'] at hder
        constructor
        · intro h
          cases h
        rintro ⟨-, h, -⟩
        rw [h hder.1] at hder
        cases hder.2
      · next hder =>
        rw [publicOnly_spec (ipNetwork_of_ipAddress ha)]
        constructor
        · rintro ⟨-, hpub⟩
          refine ⟨hex, fun hact => ?_, hpub⟩
          by_contra hno
          rw [Bool.not_eq_true] at hno
          simp [hact, hno] at hder
        · rintro ⟨-, -, hpub⟩
          exact ⟨rfl, hpub⟩
    · next hal =>
      rw [hrest]
      constructor
      · rintro ⟨⟨q', hq', h1⟩, h2⟩
        exact ⟨⟨q', by simp [hq'], h1⟩, h2⟩
      rintro ⟨⟨q', hq', h1⟩, h2⟩
      rcases mem_cons.1 hq' with rfl | hq'
      · rw [hq] at h1
        exact absurd h1 hal
      · exact ⟨⟨q', hq', h1⟩, h2⟩

lemma derivedDecision_isSome :
    (c.derivedDecision checkParent host active parents).isSome = true := by
  induction parents with
  | nil => rfl
  | cons q rest ih =>
    obtain ⟨d, hd⟩ := isSome_iff_exists.1 (hp q (by simp))
    simp only [ScopeChecker.derivedDecision, hd]
    split
    · split
      · rfl
      · exact publicOnly_isSome (ipNetwork_of_ipAddress ha) _
    · exact ih fun q hq => hp q (by simp [hq])

end

end

lemma publicAddress_iff : (active = true → c.allowNonPublic = false → a.network.isGlobal = true) ↔
      PublicAddress c active a := by
  unfold PublicAddress
  rw [a.network_isGlobal]
  simp

lemma hostDecision_name (ha : ipAddress host = none) :
    isAllowed (c.hostDecision checkParent parents host active) = true ↔
      NameAllowed c active firstListed host := by
  unfold ScopeChecker.hostDecision NameAllowed
  rw [ha, ← domainRules_excluded]
  simp only []
  split
  · next hex =>
    constructor
    · intro h
      cases h
    · rintro ⟨h, -⟩
      exact absurd h hex
  next hex =>
  rw [not_not] at hex
  cases hinc : c.domainRules host false with
  | nil =>
    constructor
    · intro h
      cases h
    rintro ⟨-, x, hx, -⟩
    rw [← domainRules_head, hinc] at hx
    cases hx
  | cons r rest =>
    have hr : FirstMax (fun r => r.value.length) (inclusionDomains c host) r := by
      rw [← domainRules_head, hinc]
      rfl
    show (c.authorize r active _).allowed = true ↔ _
    rw [authorize_allowed]
    constructor
    · intro h
      exact ⟨hex, r, hr, h⟩
    rintro ⟨-, x, hx, hok⟩
    rw [hr.unique hx]
    exact hok

lemma hostDecision_address (ha : ipAddress host = some a) (hp : ∀ q ∈ parents, (checkParent q).isSome = true) :
    isAllowed (c.hostDecision checkParent parents host active) = true ↔
      AddressAllowed c active firstListed (∃ q ∈ parents, isAllowed (checkParent q) = true) a := by
  unfold ScopeChecker.hostDecision AddressAllowed
  rw [ha, ← publicAddress_iff, ← ipRules_eq_nil ha true]
  simp only []
  split
  · next hex =>
    constructor
    · intro h
      cases h
    · rintro ⟨h, -⟩
      exact absurd h hex
  next hex =>
  rw [not_not] at hex
  cases hinc : c.ipRules host false with
  | nil =>
    have hnil : inclusionNets c a = [] := by
      rw [ipRules_eq_nil ha] at hinc
      unfold inclusionNets
      rw [filter_eq_nil_iff]
      simpa using hinc
    rw [derivedDecision_spec ha hp, hnil]
    constructor
    · rintro ⟨h1, h2, h3⟩
      exact ⟨hex, .inr ⟨rfl, h1, h2⟩, h3⟩
    rintro ⟨-, h | ⟨-, h1, h2⟩, h3⟩
    · exact absurd h firstListed_nil
    · exact ⟨h1, h2, h3⟩
  | cons r rest =>
    obtain ⟨p, hp', rfl⟩ := (ipRules_head ha).1 (show (c.ipRules host false).head? = some r by
      rw [hinc]
      rfl)
    show isAllowed (c.publicOnly host active _) = true ↔ _
    rw [publicOnly_spec (ipNetwork_of_ipAddress ha), authorize_allowed]
    constructor
    · rintro ⟨h1, h2⟩
      exact ⟨hex, .inl ⟨p, hp', h1⟩, h2⟩
    rintro ⟨-, ⟨x, hx, hok⟩ | ⟨hnil, -⟩, h3⟩
    · rw [hp'.unique hx]
      exact ⟨hok, h3⟩
    · rw [hnil] at hp'
      exact absurd hp'.maxBy.1 (by simp)

section

variable (host : Str)

section

variable (hp : ∀ q ∈ parents, (checkParent q).isSome = true)

include hp

/-- **The body of `check_host`.** -/
theorem hostDecision_spec :
    isAllowed (c.hostDecision checkParent parents host active) = true ↔
      HostAllowed c active firstListed (∃ q ∈ parents, isAllowed (checkParent q) = true) host := by
  unfold HostAllowed
  cases ha : ipAddress host with
  | none => simp [hostDecision_name ha]
  | some a => simp [hostDecision_address ha hp, exists_eq_left']

lemma hostDecision_isSome :
    (c.hostDecision checkParent parents host active).isSome = true := by
  unfold ScopeChecker.hostDecision
  cases ha : ipAddress host with
  | none =>
    simp only []
    split
    · rfl
    · split <;> rfl
  | some a =>
    simp only []
    split
    · rfl
    split
    · exact publicOnly_isSome (ipNetwork_of_ipAddress ha) _
    · exact derivedDecision_isSome ha hp

end

lemma checkHostDirect_isSome : (c.checkHostDirect host active).isSome = true :=
  hostDecision_isSome host (by simp)

lemma checkHostDirect_iff :
    isAllowed (c.checkHostDirect host active) = true ↔ DirectAllowed c active firstListed host := by
  unfold ScopeChecker.checkHostDirect DirectAllowed
  rw [hostDecision_spec host (by simp)]
  simp

lemma checkHost_iff (df : DerivedFrom) : isAllowed (c.checkHost host active df) = true ↔
      HostAllowed c active firstListed (∃ q ∈ df host, DirectAllowed c active firstListed q) host := by
  unfold ScopeChecker.checkHost
  rw [hostDecision_spec host fun q _ => checkHostDirect_isSome q]
  have hmem : ∀ q, q ∈ sortedNames (df host) ↔ q ∈ df host := fun q => mem_insertionSort _
  simp [hmem, checkHostDirect_iff]

end

lemma checkNetwork_iff {value : Str} (h : ipNetwork value = some net) :
    isAllowed (c.checkNetwork value active) = true ↔ NetworkAllowed c active firstListed net := by
  unfold ScopeChecker.checkNetwork NetworkAllowed
  rw [h]
  simp only []
  cases hex : c.nets.find? fun p => p.2.isExclusion && p.1.overlaps net with
  | some p =>
    obtain ⟨h1, h2⟩ := And.intro (find?_some hex) (mem_of_find?_eq_some hex)
    simp only [Bool.and_eq_true] at h1
    constructor
    · intro h
      cases h
    rintro ⟨hno, -⟩
    rw [hno p h2 h1.1] at h1
    cases h1.2
  | none =>
    have hno : ∀ p ∈ c.nets, p.2.isExclusion = true → p.1.overlaps net = false := by
      intro p hp he
      have := find?_eq_none.1 hex p hp
      simpa [he] using this
    have hfind : (c.nets.find? fun p =>
        !p.2.isExclusion && (p.1.version == net.version && net.subnetOf p.1)) =
        (supernets c net).head? := (head?_filter).symm
    simp only []
    rw [hfind]
    cases hinc : (supernets c net).head? with
    | none =>
      constructor
      · intro h
        cases h
      rintro ⟨-, ⟨x, hx, -⟩, -⟩
      rw [firstMax_const_iff, hinc] at hx
      cases hx
    | some p =>
      show isAllowed (c.publicOnly value active _) = true ↔ _
      rw [publicOnly_spec h, authorize_allowed]
      constructor
      · rintro ⟨h1, h2⟩
        exact ⟨hno, ⟨p, firstMax_const_iff.2 hinc, h1⟩, h2⟩
      rintro ⟨-, ⟨x, hx, hok⟩, h3⟩
      rw [firstMax_const_iff, hinc, some.injEq] at hx
      rw [hx]
      exact ⟨hok, h3⟩

/-- **The checker decides by the policy.** -/
theorem check_iff {U : Unicode} {t : Target U} {df : DerivedFrom} :
    isAllowed (c.check t active df) = true ↔ Allowed c active firstListed df t := by
  unfold ScopeChecker.check Allowed
  by_cases hk : t.kind = .cidr
  · rw [if_pos hk]
    cases hn : ipNetwork t.value with
    | none => simp [ScopeChecker.checkNetwork, hn, isAllowed, hk]
    | some net => simp [hk, checkNetwork_iff hn]
  rw [if_neg hk]
  cases hh : t.host with
  | error e => simp [isAllowed, hk]
  | ok host => simp [hk, checkHost_iff]

end Decisions

end App.Scope
