import AttackSurface.Net.Address
import AttackSurface.Text.Digits

/-!
# Reading and printing addresses and networks

`ip_address(s)`, `ip_network(s, strict=False)` and `str(...)` of their results,
as `ipaddress` computes them: dotted quads without leading zeros, IPv6 with one
`::`, an IPv4 tail and a scope id, networks with a prefix length or (IPv4) a
netmask or hostmask.  Printing compresses the first longest run of zero groups.
-/

namespace PyNet

open PyText PrefixNet List Option

/-! ## Digits of a fixed width -/

/-- The `k` digits of `n` to base `b`, most significant first. -/
def digitsBE (b : Nat) : Nat → Nat → List Nat
  | 0, _ => []
  | k + 1, n => digitsBE b k (n / b) ++ [n % b]

def ofDigitsBE (b : Nat) (acc : Nat) (ds : List Nat) : Nat := ds.foldl (fun n d => n * b + d) acc

@[simp] lemma length_digitsBE (b k n : Nat) : (digitsBE b k n).length = k := by
  induction k generalizing n with
  | zero => rfl
  | succ k ih => simp [digitsBE, ih]

lemma ofDigitsBE_append (b acc : Nat) (xs ys : List Nat) :
    ofDigitsBE b acc (xs ++ ys) = ofDigitsBE b (ofDigitsBE b acc xs) ys := by
  simp [ofDigitsBE]

lemma ofDigitsBE_digitsBE {b k n : Nat} (hb : 0 < b) (h : n < b ^ k) : ofDigitsBE b 0 (digitsBE b k n) = n := by
  induction k generalizing n with
  | zero =>
    simp only [Nat.pow_zero] at h
    show 0 = n
    omega
  | succ k ih =>
    have hq : n / b < b ^ k := by
      rw [Nat.div_lt_iff_lt_mul hb]
      rwa [← Nat.pow_succ]
    rw [digitsBE, ofDigitsBE_append, ih hq]
    show n / b * b + n % b = n
    rw [Nat.mul_comm]
    exact Nat.div_add_mod n b

lemma lt_of_mem_digitsBE {b k n d : Nat} (hb : 0 < b) (h : d ∈ digitsBE b k n) : d < b := by
  induction k generalizing n with
  | zero => cases h
  | succ k ih =>
    rcases mem_append.1 h with h | h
    · exact ih h
    simp only [mem_singleton] at h
    rw [h]
    exact Nat.mod_lt _ hb

lemma ofDigitsBE_zeros (b acc l : Nat) : ofDigitsBE b acc (List.replicate l 0) = acc * b ^ l := by
  induction l generalizing acc with
  | zero => simp [ofDigitsBE]
  | succ l ih =>
    rw [replicate_succ]
    show ofDigitsBE b (acc * b + 0) (replicate l 0) = _
    rw [ih, Nat.add_zero, Nat.pow_succ, Nat.mul_assoc, Nat.mul_comm b]

/-! ## IPv4 text -/

variable (s : Str)

/-- `_parse_octet`. -/
def parseOctet : Option Nat :=
  if !isDecimal s then none
  else if 3 < s.length then none
  else if s ≠ ['0'] ∧ s.head? = some '0' then none
  else if 255 < decVal s then none
  else some (decVal s)

/-- `_ip_int_from_string` of IPv4. -/
def ipv4FromString : Option Nat :=
  match s.splitOn '.' with
  | [a, b, c, d] =>
    match parseOctet a, parseOctet b, parseOctet c, parseOctet d with
    | some a, some b, some c, some d => some (ofDigitsBE 256 0 [a, b, c, d])
    | _, _, _, _ => none
  | _ => none

/-- `_string_from_ip_int` of IPv4. -/
def ipv4ToString (n : Nat) : Str := ['.'].intercalate ((digitsBE 256 4 n).map dec)

/-! ## IPv6 text -/

/-- `_parse_hextet`; the empty string is refused by `int`. -/
def parseHextet : Option Nat :=
  if s.all isHexDigit && decide (s.length ≤ 4) && decide (s ≠ []) then some (hexVal s) else none

/-- `ip_int = ip_int << 16 | hextet` over the groups. -/
def hextetsVal (acc : Nat) : List Str → Option Nat
  | [] => some acc
  | p :: ps =>
    match parseHextet p with
    | some h => hextetsVal (acc * 65536 + h) ps
    | none => none

variable (parts : List Str)

def expandV4Tail : Option (List Str) :=
  match parts.getLast? with
  | none => none
  | some l =>
    if '.' ∈ l then
      match ipv4FromString l with
      | some n => some (parts.dropLast ++ [hex (n >>> 16 &&& 0xFFFF), hex (n &&& 0xFFFF)])
      | none => none
    else some parts

/-- The positions of empty groups, counted from `i`. -/
def emptyFrom : Nat → List Str → List Nat
  | _, [] => []
  | i, p :: ps => if p = [] then i :: emptyFrom (i + 1) ps else emptyFrom (i + 1) ps

/-- The positions of `::`: empty groups other than the first and the last. -/
def skipIndices : List Nat := emptyFrom 1 parts.tail.dropLast

/-- The groups before and after a `::` at position `i`; an empty end must belong to it. -/
def skipSides (i : Nat) : Option (Nat × Nat) :=
  let hi := i
  let lo := parts.length - i - 1
  match (if parts.head? = some [] then (if hi = 1 then some 0 else none) else some hi),
      (if parts.getLast? = some [] then (if lo = 1 then some 0 else none) else some lo) with
  | some hi, some lo => some (hi, lo)
  | _, _ => none

def ipv6FromParts : Option Nat :=
  if 9 < parts.length then none
  else
    match skipIndices parts with
    | [] =>
      if parts.length ≠ 8 then none
      else if parts.head? = some [] ∨ parts.getLast? = some [] then none
      else hextetsVal 0 parts
    | [i] =>
      match skipSides parts i with
      | none => none
      | some (hi, lo) =>
        if 7 < hi + lo then none
        else
          match hextetsVal 0 (parts.take hi) with
          | none => none
          | some n => hextetsVal (n * 65536 ^ (8 - (hi + lo))) (parts.drop (parts.length - lo))
    | _ => none

/-- `_ip_int_from_string` of IPv6. -/
def ipv6FromString : Option Nat :=
  let parts := s.splitOn ':'
  if parts.length < 3 then none
  else
    match expandV4Tail parts with
    | none => none
    | some parts => ipv6FromParts parts

/-- The loop of `_compress_hextets`: the first longest run of `"0"`, as start and length. -/
def longestZeros : List Str → Nat → Nat × Nat → Nat × Nat → Nat × Nat
  | [], _, _, best => best
  | h :: hs, i, cur, best =>
    if h = ['0'] then
      let cur := if cur.2 = 0 then (i, 1) else (cur.1, cur.2 + 1)
      longestZeros hs (i + 1) cur (if best.2 < cur.2 then cur else best)
    else longestZeros hs (i + 1) (0, 0) best

/-- `_compress_hextets`. -/
def compressHextets (hs : List Str) : List Str :=
  let run := longestZeros hs 0 (0, 0) (0, 0)
  if 1 < run.2 then
    let stop := run.1 + run.2
    (if run.1 = 0 then [[]] else []) ++ hs.take run.1 ++ [[]] ++ hs.drop stop ++
      (if stop = hs.length then [[]] else [])
  else hs

/-- `_string_from_ip_int` of IPv6. -/
def ipv6ToString (n : Nat) : Str := [':'].intercalate (compressHextets ((digitsBE 65536 8 n).map hex))

/-! ## Every number read is in range -/

variable {s : Str} {n : Nat}

lemma parseOctet_lt (h : parseOctet s = some n) : n < 256 := by
  unfold parseOctet at h
  split_ifs at h with _ _ _ h4
  simp only [some.injEq] at h
  omega

lemma ipv4FromString_lt (h : ipv4FromString s = some n) : n < 2 ^ 32 := by
  unfold ipv4FromString at h
  split at h
  · split at h
    · next a b c d ha hb hc hd =>
      simp only [some.injEq] at h
      have h1 := parseOctet_lt ha
      have h2 := parseOctet_lt hb
      have h3 := parseOctet_lt hc
      have h4 := parseOctet_lt hd
      rw [← h]
      show (((0 * 256 + _) * 256 + _) * 256 + _) * 256 + _ < 2 ^ 32
      omega
    · cases h
  · cases h

lemma parseHextet_lt (h : parseHextet s = some n) : n < 65536 := by
  unfold parseHextet at h
  split_ifs at h with hc
  simp only [Bool.and_eq_true, decide_eq_true_eq, List.all_eq_true] at hc
  simp only [some.injEq] at h
  have h1 := hexVal_lt hc.1.1
  have h2 : 16 ^ s.length ≤ 16 ^ 4 := Nat.pow_le_pow_right (by decide) hc.1.2
  omega

lemma hextetsVal_lt {ps : List Str} {acc n : Nat} (h : hextetsVal acc ps = some n) :
    n < (acc + 1) * 65536 ^ ps.length := by
  induction ps generalizing acc with
  | nil =>
    simp only [hextetsVal, some.injEq] at h
    simp only [length_nil, Nat.pow_zero]
    omega
  | cons p ps ih =>
    simp only [hextetsVal] at h
    split at h
    · next d hd =>
      have h1 := ih h
      have h2 := parseHextet_lt hd
      have h3 : (acc * 65536 + d + 1) * 65536 ^ ps.length ≤ (acc + 1) * 65536 ^ (p :: ps).length := by
        rw [length_cons, Nat.pow_succ, Nat.mul_comm (65536 ^ ps.length), ← Nat.mul_assoc]
        apply Nat.mul_le_mul_right
        omega
      omega
    · cases h

lemma ipv6FromParts_lt {parts : List Str} (h : ipv6FromParts parts = some n) : n < 2 ^ 128 := by
  unfold ipv6FromParts at h
  split at h
  · cases h
  split at h
  · split_ifs at h with h8
    have h1 := hextetsVal_lt h
    have h2 : parts.length = 8 := by omega
    rw [h2] at h1
    omega
  · split at h
    · cases h
    next hi lo hs =>
    split_ifs at h with h7
    split at h
    · cases h
    next m hm =>
    have h1 := hextetsVal_lt hm
    have h2 := hextetsVal_lt h
    have h3 : (parts.take hi).length ≤ hi := length_take_le _ _
    have h4 : (parts.drop (parts.length - lo)).length ≤ lo := by
      rw [length_drop]
      omega
    -- `hi` groups, `8 - (hi + lo)` zero groups, `lo` groups
    have h5 : m + 1 ≤ 65536 ^ hi := by
      have : 65536 ^ (parts.take hi).length ≤ 65536 ^ hi := Nat.pow_le_pow_right (by decide) h3
      omega
    have h6 : m * 65536 ^ (8 - (hi + lo)) + 1 ≤ 65536 ^ hi * 65536 ^ (8 - (hi + lo)) := by
      have h8 : (m + 1) * 65536 ^ (8 - (hi + lo)) ≤ 65536 ^ hi * 65536 ^ (8 - (hi + lo)) :=
        Nat.mul_le_mul_right _ h5
      have h9 : 0 < 65536 ^ (8 - (hi + lo)) := Nat.pow_pos (by decide)
      rw [Nat.add_mul] at h8
      omega
    calc n < (m * 65536 ^ (8 - (hi + lo)) + 1) * 65536 ^ (parts.drop (parts.length - lo)).length := h2
      _ ≤ 65536 ^ hi * 65536 ^ (8 - (hi + lo)) * 65536 ^ lo :=
        Nat.mul_le_mul h6 (Nat.pow_le_pow_right (by decide) h4)
      _ = 65536 ^ 8 := by
        rw [← Nat.pow_add, ← Nat.pow_add]
        congr 1
        omega
      _ = 2 ^ 128 := by decide
  · cases h

lemma ipv6FromString_lt (h : ipv6FromString s = some n) : n < 2 ^ 128 := by
  unfold ipv6FromString at h
  simp only [] at h
  split_ifs at h
  split at h
  · cases h
  · exact ipv6FromParts_lt h

/-! ## Addresses -/

/-- `IPv4Address(s)`. -/
def ipv4Address (s : Str) : Option Address :=
  if '/' ∈ s then none
  else
    match h : ipv4FromString s with
    | some n => some (Address.ofInt .v4 n (ipv4FromString_lt h))
    | none => none

/-- `_split_scope_id`. -/
def splitScopeId (s : Str) : Option (Str × Option Str) :=
  match partition '%' s with
  | none => some (s, none)
  | some (addr, scope) => if scope = [] ∨ '%' ∈ scope then none else some (addr, some scope)

lemma splitScopeId_ok {s addr : Str} {scope : Option Str} (hs : '/' ∉ s)
    (h : splitScopeId s = some (addr, scope)) :
    ∀ z ∈ scope, Version.v6 = .v6 ∧ ScopeIdOk z := by
  intro z hz
  unfold splitScopeId at h
  split at h
  · simp only [some.injEq, Prod.mk.injEq] at h
    rw [← h.2] at hz
    cases hz
  · next a z' hp =>
    split_ifs at h with hc
    simp only [some.injEq, Prod.mk.injEq] at h
    rw [← h.2] at hz
    cases hz
    push Not at hc
    refine ⟨rfl, hc.1, hc.2, fun hm => hs ?_⟩
    rw [(partition_eq_some_iff.1 hp).1]
    simp [hm]

/-- `IPv6Address(s)`. -/
def ipv6Address (s : Str) : Option Address :=
  if hs : '/' ∈ s then none
  else
    match h : splitScopeId s with
    | none => none
    | some (addr, scope) =>
      match hn : ipv6FromString addr with
      | some n => some ⟨.v6, n, scope, ipv6FromString_lt hn, splitScopeId_ok hs h⟩
      | none => none

/-- `ip_address(s)`. -/
def ipAddress (s : Str) : Option Address := (ipv4Address s).or (ipv6Address s)

/-- `str(a)`. -/
def Address.toStr (a : Address) : Str :=
  match a.version with
  | .v4 => ipv4ToString a.ip
  | .v6 =>
    match a.scopeId with
    | some z => ipv6ToString a.ip ++ '%' :: z
    | none => ipv6ToString a.ip

/-! ## Networks -/

variable (v : Version)

/-- `_prefix_from_prefix_string`. -/
def prefixFromPrefixString (s : Str) : Option Nat :=
  if isDecimal s && decide (decVal s ≤ v.bits) then some (decVal s) else none

/-- `_prefix_from_ip_int`: the `p` for which the mask is `p` ones and then zeros. -/
def prefixFromIpInt (n : Nat) : Option Nat := (List.range 33).find? fun p => netmask 32 p == n

/-- `_prefix_from_ip_string`: a netmask, else a hostmask. -/
def prefixFromIpString (s : Str) : Option Nat :=
  match ipv4FromString s with
  | none => none
  | some n => (prefixFromIpInt n).or (prefixFromIpInt (n ^^^ allOnes 32))

/-- `_make_netmask` on the text after the `/`. -/
def makeNetmask (s : Str) : Option Nat :=
  match v with
  | .v4 => (prefixFromPrefixString .v4 s).or (prefixFromIpString s)
  | .v6 => prefixFromPrefixString .v6 s

lemma prefixFromPrefixString_le {v : Version} {p : Nat}
    (h : prefixFromPrefixString v s = some p) : p ≤ v.bits := by
  unfold prefixFromPrefixString at h
  split_ifs at h with hc
  simp only [Bool.and_eq_true, decide_eq_true_eq] at hc
  simp only [some.injEq] at h
  omega

lemma prefixFromIpInt_le {n p : Nat} (h : prefixFromIpInt n = some p) : p ≤ 32 := by
  have := mem_of_find?_eq_some h
  rw [mem_range] at this
  omega

lemma makeNetmask_le {v : Version} {p : Nat} (h : makeNetmask v s = some p) : p ≤ v.bits := by
  unfold makeNetmask at h
  cases v with
  | v4 =>
    simp only [or_eq_some_iff] at h
    rcases h with h | ⟨-, h⟩
    · exact prefixFromPrefixString_le h
    unfold prefixFromIpString at h
    split at h
    · cases h
    · simp only [or_eq_some_iff] at h
      rcases h with h | ⟨-, h⟩ <;> exact prefixFromIpInt_le h
  | v6 => exact prefixFromPrefixString_le h

/-- The network of an address and a prefix length, host bits cleared; an address that
had host bits loses its scope id with them. -/
def Address.toNetwork (a : Address) (p : Nat) (h : p ≤ a.version.bits) : Network :=
  if ha : a.ip &&& netmask a.version.bits p = a.ip then ⟨a, p, a.ip_lt, h, ha⟩
  else
    ⟨Address.ofInt a.version (a.ip &&& netmask a.version.bits p)
      (lt_of_le_of_lt Nat.and_le_left a.ip_lt), p, aligned_mask a.ip_lt h⟩

/-- `IPv4Network(s, strict=False)` and `IPv6Network(s, strict=False)`, by the class's address
parser. -/
def networkOf (parse : Str → Option Address) (s : Str) : Option Network :=
  match s.splitOn '/' with
  | [addr] => (parse addr).map Address.network
  | [addr, mask] =>
    match parse addr with
    | none => none
    | some a =>
      if hv : a.version = v then
        match hm : makeNetmask v mask with
        | some p => some (a.toNetwork p (hv ▸ makeNetmask_le hm))
        | none => none
      else none
  | _ => none

/-- `ip_network(s, strict=False)`. -/
def ipNetwork (s : Str) : Option Network := (networkOf .v4 ipv4Address s).or (networkOf .v6 ipv6Address s)

/-- `str(n)`. -/
def Network.toStr (n : Network) : Str := n.address.toStr ++ '/' :: dec n.prefixlen

end PyNet
