import AttackSurface.Net.Prefix
import AttackSurface.Text.Str

/-!
# Addresses and networks (`ipaddress`)

The values of the `ipaddress` module: an address is a version, an integer below
`2 ^ bits` and, for IPv6, an optional scope id; a network is an address without
host bits and a prefix length.  The registry tables behind `is_global` are those
of CPython 3.12.

Two facts used throughout: what `overlaps` and `subnet_of` mean as sets
(`overlaps_iff`, `subnetOf_contains`), and how the one-address network answers
`is_global` (`Address.network_isGlobal`): as the address does, except that an
IPv4-mapped address is never global as a network.
-/

namespace PyNet

open PyText PrefixNet

inductive Version
  | v4
  | v6
deriving DecidableEq, Repr

/-- `_max_prefixlen`. -/
def Version.bits : Version → Nat
  | .v4 => 32
  | .v6 => 128

/-- A scope id that `_split_scope_id` lets through (the `/` is refused earlier). -/
def ScopeIdOk (s : Str) : Prop := s ≠ [] ∧ '%' ∉ s ∧ '/' ∉ s

instance (s : Str) : Decidable (ScopeIdOk s) := inferInstanceAs (Decidable (_ ∧ _ ∧ _))

structure Address where
  version : Version
  ip : Nat
  scopeId : Option Str
  ip_lt : ip < 2 ^ version.bits
  scope_ok : ∀ s ∈ scopeId, version = .v6 ∧ ScopeIdOk s
deriving DecidableEq

def Address.ofInt (v : Version) (n : Nat) (h : n < 2 ^ v.bits) : Address :=
  ⟨v, n, none, h, fun _ hs => by cases hs⟩

abbrev NetTable := List (Nat × Nat)

def NetTable.has (t : NetTable) (w x : Nat) : Bool := t.any fun n => inNet w n.1 n.2 x

/-- `_private_networks`. -/
def Version.privateNetworks : Version → NetTable
  | .v4 => [(0x00000000, 8), (0x0A000000, 8), (0x7F000000, 8), (0xA9FE0000, 16),
      (0xAC100000, 12), (0xC0000000, 24), (0xC00000AA, 31), (0xC0000200, 24),
      (0xC0A80000, 16), (0xC6120000, 15), (0xC6336400, 24), (0xCB007100, 24),
      (0xF0000000, 4), (0xFFFFFFFF, 32)]
  | .v6 => [(1, 128), (0, 128), (0xFFFF * 2 ^ 32, 96), (0x0064FF9B0001 * 2 ^ 80, 48),
      (0x0100 * 2 ^ 112, 64), (0x2001 * 2 ^ 112, 23), (0x20010DB8 * 2 ^ 96, 32),
      (0x2002 * 2 ^ 112, 16), (0xFC00 * 2 ^ 112, 7), (0xFE80 * 2 ^ 112, 10)]

/-- `_private_networks_exceptions`. -/
def Version.privateExceptions : Version → NetTable
  | .v4 => [(0xC0000009, 32), (0xC000000A, 32)]
  | .v6 => [(0x20010001 * 2 ^ 96 + 1, 128), (0x20010001 * 2 ^ 96 + 2, 128),
      (0x20010003 * 2 ^ 96, 32), (0x200100040112 * 2 ^ 80, 48), (0x20010020 * 2 ^ 96, 28),
      (0x20010030 * 2 ^ 96, 28)]

/-- `_public_network` of IPv4, `100.64.0.0/10`: neither private nor global. -/
def inSharedV4 (x : Nat) : Bool := inNet 32 0x64400000 10 x

def listedPrivate (v : Version) (x : Nat) : Bool :=
  v.privateNetworks.has v.bits x && !v.privateExceptions.has v.bits x

/-! ## Addresses -/

def low32 (n : Nat) : Nat := n &&& 0xFFFFFFFF

lemma low32_lt (n : Nat) : low32 n < 2 ^ 32 := by
  unfold low32
  have : n &&& 0xFFFFFFFF ≤ 0xFFFFFFFF := Nat.and_le_right
  omega

def v4OfInt (n : Nat) : Address := Address.ofInt .v4 (low32 n) (low32_lt n)

variable (a : Address)

def Address.ipv4Mapped : Option Address :=
  if a.version = .v6 ∧ a.ip >>> 32 = 0xFFFF then some (v4OfInt a.ip) else none

def Address.sixtofour : Option Address :=
  if a.version = .v6 ∧ a.ip >>> 112 = 0x2002 then some (v4OfInt (a.ip >>> 80)) else none

/-- `(server, client)` of a Teredo address; the client is stored inverted. -/
def Address.teredo : Option (Address × Address) :=
  if a.version = .v6 ∧ a.ip >>> 96 = 0x20010000 then
    some (v4OfInt (a.ip >>> 64), v4OfInt (2 ^ 128 - 1 - a.ip))
  else none

def Address.isPrivate : Bool :=
  match a.ipv4Mapped with
  | some m => listedPrivate .v4 m.ip
  | none => listedPrivate a.version a.ip

def Address.isGlobal : Bool :=
  match a.version with
  | .v4 => !inSharedV4 a.ip && !a.isPrivate
  | .v6 => !a.isPrivate

def Address.isMulticast : Bool :=
  match a.version with
  | .v4 => inNet 32 0xE0000000 4 a.ip
  | .v6 => inNet 128 (0xFF00 * 2 ^ 112) 8 a.ip

def Address.isUnspecified : Bool := a.ip == 0

/-- `a <= b` as `total_ordering` derives it: below, or equal with the scope id counted. -/
def Address.le (a b : Address) : Bool := a.ip < b.ip || a == b

/-! ## Networks -/

structure Network where
  address : Address
  prefixlen : Nat
  aligned : Aligned address.version.bits address.ip prefixlen
deriving DecidableEq

def Network.version (n : Network) : Version := n.address.version

def Network.broadcast (n : Network) : Nat := PrefixNet.broadcast n.version.bits n.address.ip n.prefixlen

variable (n : Network)

/-- `x in n` for an integer of the network's version. -/
def Network.has (x : Nat) : Bool := inNet n.version.bits n.address.ip n.prefixlen x

/-- `a in n`. -/
def Network.contains (a : Address) : Bool := a.version == n.version && n.has a.ip

/-- `n.overlaps(m)`. -/
def Network.overlaps (n m : Network) : Bool := n.version == m.version &&
    (m.has n.address.ip || m.has n.broadcast || n.has m.address.ip || n.has m.broadcast)

/-- `n.subnet_of(m)` for networks of one version. -/
def Network.subnetOf (n m : Network) : Bool := m.address.le n.address && decide (n.broadcast ≤ m.broadcast)

def Network.isPrivate : Bool := (n.version.privateNetworks.any fun p =>
    inNet n.version.bits p.1 p.2 n.address.ip && inNet n.version.bits p.1 p.2 n.broadcast) &&
  (n.version.privateExceptions.all fun p =>
    !inNet n.version.bits p.1 p.2 n.address.ip && !inNet n.version.bits p.1 p.2 n.broadcast)

def Network.isGlobal : Bool :=
  match n.version with
  | .v4 => !(inSharedV4 n.address.ip && inSharedV4 n.broadcast) && !n.isPrivate
  | .v6 => !n.isPrivate

def Address.network : Network := ⟨a, a.version.bits, aligned_full a.ip_lt⟩

lemma Network.broadcast_lt : n.broadcast < 2 ^ n.version.bits := n.aligned.broadcast_lt

lemma Network.has_iff {x : Nat} (hx : x < 2 ^ n.version.bits) :
    n.has x = true ↔ n.address.ip ≤ x ∧ x ≤ n.broadcast :=
  inNet_iff n.aligned hx

lemma Network.address_le_broadcast : n.address.ip ≤ n.broadcast := n.aligned.base_le_broadcast

lemma Network.contains_iff (a : Address) :
    n.contains a = true ↔ a.version = n.version ∧ n.address.ip ≤ a.ip ∧ a.ip ≤ n.broadcast := by
  unfold Network.contains
  rw [Bool.and_eq_true, beq_iff_eq]
  constructor
  · rintro ⟨hv, h⟩
    exact ⟨hv, (n.has_iff (hv ▸ a.ip_lt)).1 h⟩
  · rintro ⟨hv, h⟩
    exact ⟨hv, (n.has_iff (hv ▸ a.ip_lt)).2 h⟩

lemma Network.overlaps_iff (n m : Network) : n.overlaps m = true ↔
      n.version = m.version ∧ n.address.ip ≤ m.broadcast ∧ m.address.ip ≤ n.broadcast := by
  unfold Network.overlaps
  rw [Bool.and_eq_true, beq_iff_eq]
  have hn := n.address_le_broadcast
  have hm := m.address_le_broadcast
  constructor
  · rintro ⟨hv, h⟩
    refine ⟨hv, ?_⟩
    simp only [Bool.or_eq_true] at h
    rw [m.has_iff (hv ▸ n.address.ip_lt), m.has_iff (hv ▸ n.broadcast_lt),
      n.has_iff (hv ▸ m.address.ip_lt), n.has_iff (hv ▸ m.broadcast_lt)] at h
    omega
  rintro ⟨hv, h1, h2⟩
  refine ⟨hv, ?_⟩
  simp only [Bool.or_eq_true]
  rw [m.has_iff (hv ▸ n.address.ip_lt), m.has_iff (hv ▸ n.broadcast_lt),
    n.has_iff (hv ▸ m.address.ip_lt), n.has_iff (hv ▸ m.broadcast_lt)]
  omega

lemma Network.overlaps_of_contains {n m : Network} {a : Address} (hn : n.contains a = true)
    (hm : m.contains a = true) : n.overlaps m = true := by
  rw [n.contains_iff] at hn
  rw [m.contains_iff] at hm
  rw [n.overlaps_iff]
  exact ⟨hn.1.symm.trans hm.1, by omega, by omega⟩

lemma Address.le_ip {a b : Address} (h : a.le b = true) : a.ip ≤ b.ip := by
  unfold Address.le at h
  simp only [Bool.or_eq_true, decide_eq_true_eq, beq_iff_eq] at h
  rcases h with h | rfl
  · omega
  · omega

lemma Network.subnetOf_contains {n m : Network} (hv : m.version = n.version)
    (h : n.subnetOf m = true) {a : Address} (ha : n.contains a = true) : m.contains a = true := by
  unfold Network.subnetOf at h
  rw [Bool.and_eq_true, decide_eq_true_eq] at h
  have h1 := Address.le_ip h.1
  rw [n.contains_iff] at ha
  rw [m.contains_iff]
  exact ⟨ha.1.trans hv.symm, by omega, by omega⟩

@[simp] lemma Address.network_broadcast : a.network.broadcast = a.ip :=
  broadcast_full a.ip_lt

lemma listedPrivate_of_mapped {x : Nat} (hx : x < 2 ^ 128) (hm : x >>> 32 = 0xFFFF) :
    listedPrivate .v6 x = true := by
  have hlo : 0xFFFF * 2 ^ 32 ≤ x ∧ x < 0x10000 * 2 ^ 32 := by
    rw [Nat.shiftRight_eq_div_pow] at hm
    omega
  have hin : inNet 128 (0xFFFF * 2 ^ 32) 96 x = true := by
    unfold inNet
    rw [beq_iff_eq, and_netmask hx]
    omega
  unfold listedPrivate NetTable.has Version.privateNetworks Version.privateExceptions Version.bits
  simp only [List.any_cons, List.any_nil, hin, Bool.true_or, Bool.or_true, Bool.true_and,
    Bool.not_eq_true', Bool.or_eq_false_iff, and_true]
  unfold inNet
  simp only [beq_eq_false_iff_ne, ne_eq, and_netmask hx]
  refine ⟨?_, ?_, ?_, ?_, ?_, ?_⟩ <;> omega

/-- **One address as a network.**  It is global when the address is, except that an
IPv4-mapped address is inside the private block `::ffff:0:0/96`. -/
theorem Address.network_isGlobal : a.network.isGlobal = (a.isGlobal && a.ipv4Mapped.isNone) := by
  have hpriv : a.network.isPrivate = listedPrivate a.version a.ip := by
    unfold Network.isPrivate listedPrivate NetTable.has
    rw [a.network_broadcast]
    show ((a.version.privateNetworks.any fun p =>
        inNet a.version.bits p.1 p.2 a.ip && inNet a.version.bits p.1 p.2 a.ip) &&
      (a.version.privateExceptions.all fun p =>
        !inNet a.version.bits p.1 p.2 a.ip && !inNet a.version.bits p.1 p.2 a.ip)) = _
    simp only [Bool.and_self, List.not_any_eq_all_not]
  unfold Network.isGlobal Address.isGlobal
  rw [hpriv, a.network_broadcast]
  show (match a.version with
    | .v4 => !(inSharedV4 a.ip && inSharedV4 a.ip) && !listedPrivate a.version a.ip
    | .v6 => !listedPrivate a.version a.ip) = _
  cases hv : a.version with
  | v4 =>
    have hm : a.ipv4Mapped = none := by simp [Address.ipv4Mapped, hv]
    simp [Address.isPrivate, hm, hv]
  | v6 =>
    by_cases hm : a.ip >>> 32 = 0xFFFF
    · have hmap : a.ipv4Mapped = some (v4OfInt a.ip) := by simp [Address.ipv4Mapped, hv, hm]
      have hlt : a.ip < 2 ^ 128 := by
        have := a.ip_lt
        rwa [hv] at this
      simp [hmap, listedPrivate_of_mapped hlt hm]
    · have hmap : a.ipv4Mapped = none := by simp [Address.ipv4Mapped, hm]
      simp [Address.isPrivate, hmap, hv]

end PyNet
