import AttackSurface.Sensors.Targets

/-!
# Normal forms of hosts and ports

What `validate_ip`, `validate_hostname` and `validate_port` return, and that they
return it again when given it.  An accepted host is

* the text of an address, with the scope id that was typed (`validateIp_zone`), or
* a host name `b`, or `b` and a line feed: exactly when the last label of what was
  typed ends in one (`LineFeedName`, `validateHostname_ok`).
-/

namespace AsmSensors

open PyText PyNet List Option

/-- The text after the first `%`: the scope id of an address. -/
def zoneOf (s : Str) : Str := (splitAt '%' s).2

/-- The last label of a name, encoded, ends in a line feed: `example.com\n.` -/
def LineFeedName (U : Unicode) (raw : Str) : Prop :=
  ∃ r, encodedLabel U (lastLabel (normalName U raw)) = some r ∧ r.getLast? = some '\n'

def isPlain (c : Char) : Bool := 33 ≤ c.toNat && c.toNat ≤ 126 && !(65 ≤ c.toNat && c.toNat ≤ 90)

/-! ## Plain letters -/

variable {c : Char} {s : Str} {b : Str} {U : Unicode} {raw v : Str} {a : Address}

lemma isPlain_iff : isPlain c = true ↔ 33 ≤ c.toNat ∧ c.toNat ≤ 126 ∧ ¬ (65 ≤ c.toNat ∧ c.toNat ≤ 90) := by
  simp only [isPlain, Bool.and_eq_true, Bool.not_eq_true', decide_eq_true_eq,
    Bool.and_eq_false_iff, decide_eq_false_iff_not]
  omega

lemma isPlain_not_isSpace (h : isPlain c = true) : isSpace c = false := by
  have := isPlain_iff.1 h
  simp [isSpace]
  omega

lemma isPlain_of_isDigit (h : c.isDigit = true) : isPlain c = true := by
  have := isDigit_bounds h
  rw [isPlain_iff]
  omega

lemma isPlain_of_isLabelChar (h : isLabelChar c = true) : isPlain c = true := by
  unfold isLabelChar at h
  simp only [Bool.or_eq_true, beq_iff_eq] at h
  rcases h with ((h | h) | rfl) | rfl
  · simp only [Char.isLower, Bool.and_eq_true, decide_eq_true_eq] at h
    have h1 : 97 ≤ c.toNat := h.1
    have h2 : c.toNat ≤ 122 := h.2
    rw [isPlain_iff]
    omega
  · exact isPlain_of_isDigit h
  · decide
  · decide

lemma toLower_of_isPlain (h : isPlain c = true) : c.toLower = c := by
  have hb := isPlain_iff.1 h
  unfold Char.toLower
  split
  · next hu => exact absurd ⟨hu.1, hu.2⟩ hb.2.2
  · rfl

lemma isAscii_of_isPlain (h : isPlain c = true) : isAscii c = true := by
  have hb := isPlain_iff.1 h
  simp [isAscii]
  omega

lemma lower_of_isPlain (U : Unicode) (h : ∀ c ∈ s, isPlain c = true) : U.lower s = s := by
  rw [U.lower_ascii s fun c hc => isAscii_of_isPlain (h c hc)]
  conv => rhs; rw [← List.map_id s]
  exact map_congr_left fun c hc => toLower_of_isPlain (h c hc)

lemma strip_of_isPlain (h : ∀ c ∈ s, isPlain c = true) : strip s = s :=
  strip_of_not_isSpace fun c hc => isPlain_not_isSpace (h c hc)

/-! ## Host names -/

lemma isLabel_iff {l : Str} :
    isLabel l = true ↔ 1 ≤ l.length ∧ l.length ≤ 63 ∧ (∀ c ∈ l, isLabelChar c = true) ∧
      l.head? ≠ some '-' ∧ l.getLast? ≠ some '-' := by
  simp [isLabel, and_assoc]

lemma hostnameBody_iff : hostnameBody b = true ↔ b.length ≤ 253 ∧ 2 ≤ (b.splitOn '.').length ∧
      ∀ l ∈ b.splitOn '.', isLabel l = true := by
  simp [hostnameBody, and_assoc]

section

variable (h : hostnameBody b = true)

include h

lemma hostnameBody_letters (hc : c ∈ b) : isLabelChar c = true ∨ c = '.' := by
  rcases mem_splitOn (x := '.') hc with rfl | ⟨l, hl, hcl⟩
  · exact .inr rfl
  · exact .inl ((isLabel_iff.1 ((hostnameBody_iff.1 h).2.2 l hl)).2.2.1 c hcl)

lemma hostnameBody_plain (hc : c ∈ b) : isPlain c = true := by
  rcases hostnameBody_letters h hc with h | rfl
  · exact isPlain_of_isLabelChar h
  · decide

lemma hostnameBody_ne_nil : b ≠ [] := by
  rintro rfl
  exact absurd h (by decide)

lemma hostnameBody_head (hc : b.head? = some c) : isLabelChar c = true ∧ c ≠ '-' := by
  have hjoin : ['.'].intercalate (b.splitOn '.') = b := intercalate_splitOn '.'
  have hlab := (hostnameBody_iff.1 h).2.2
  cases hs : b.splitOn '.' with
  | nil =>
    rw [hs, intercalate_nil] at hjoin
    exact absurd hjoin.symm (hostnameBody_ne_nil h)
  | cons l ls =>
    have hl := isLabel_iff.1 (hlab l (by simp [hs]))
    have hne : l ≠ [] := length_pos_iff.1 hl.1
    have hhead : l.head? = some c := by
      rw [← hc, ← hjoin, hs]
      cases ls with
      | nil => simp
      | cons m ls => rw [intercalate_cons_cons, append_assoc, head?_append_of_ne_nil _ hne]
    refine ⟨hl.2.2.1 c (mem_of_mem_head? hhead), ?_⟩
    rintro rfl
    exact hl.2.2.2.1 hhead

lemma hostnameBody_last : b.getLast? ≠ some '.' := by
  intro hc
  have hl := splitOnP_getLast (· == '.') b
  have hlab := isLabel_iff.1 ((hostnameBody_iff.1 h).2.2 _ (mem_of_getLast? hl))
  obtain ⟨t, ht⟩ := getLast?_eq_some_iff.1 hc
  rw [ht, rtakeWhile_concat] at hlab
  simp at hlab

end

lemma normalName_of_body (U : Unicode) (h : hostnameBody b = true) : normalName U b = b := by
  unfold normalName
  rw [strip_of_isPlain fun c hc => hostnameBody_plain h hc,
    lower_of_isPlain U fun c hc => hostnameBody_plain h hc]
  apply rstrip_eq_self
  intro c hc
  have hne : c ≠ '.' := by
    rintro rfl
    exact hostnameBody_last h hc
  simpa using hne

lemma aLabelForm_of_plain (U : Unicode) (h : ∀ c ∈ b, isPlain c = true) : aLabelForm U b = some b := by
  unfold aLabelForm
  rw [if_neg]
  simp only [List.any_eq_true, Bool.not_eq_true', not_exists, not_and, Bool.not_eq_false]
  exact fun c hc => isAscii_of_isPlain (h c hc)

lemma validateHostname_of_normalName {raw b : Str} (hb : hostnameBody b = true)
    (h : normalName U raw = b) : validateHostname U raw = .ok b := by
  have hstar : startsWith "*.".toList b = false := by
    cases b with
    | nil => rfl
    | cons c b =>
      have hc := (hostnameBody_head hb rfl).1
      have : c ≠ '*' := by
        rintro rfl
        exact absurd hc (by decide)
      simpa [startsWith, isPrefixOf] using fun e => absurd e.symm this
  unfold validateHostname
  simp only [h, hstar, aLabelForm_of_plain U fun c hc => hostnameBody_plain hb hc]
  simp [hostnameRe, hb]

lemma validateHostname_of_body (U : Unicode) (hb : hostnameBody b = true) : validateHostname U b = .ok b :=
  validateHostname_of_normalName hb (normalName_of_body U hb)

lemma strip_body_lf (hb : hostnameBody b = true) : strip (b ++ ['\n']) = b := by
  have hne := hostnameBody_ne_nil hb
  have hplain : ∀ c ∈ b, isSpace c = false :=
    fun c hc => isPlain_not_isSpace (hostnameBody_plain hb hc)
  have hl : lstrip isSpace (b ++ ['\n']) = b ++ ['\n'] := by
    apply lstrip_eq_self
    intro c hc
    rw [head?_append_of_ne_nil _ hne] at hc
    exact hplain c (mem_of_mem_head? hc)
  unfold strip
  rw [hl, rstrip_append_of_all b (by simp [isSpace])]
  exact rstrip_eq_self fun c hc => hplain c (mem_of_getLast? hc)

lemma validateHostname_lf (U : Unicode) (hb : hostnameBody b = true) :
    validateHostname U (b ++ ['\n']) = .ok b := by
  apply validateHostname_of_normalName hb
  have hb' := normalName_of_body U hb
  unfold normalName at hb' ⊢
  rw [strip_of_isPlain fun c hc => hostnameBody_plain hb hc] at hb'
  rw [strip_body_lf hb, hb']

lemma aLabelForm_getLast_lf {n v : Str} (h : aLabelForm U n = some v) : v.getLast? = some '\n' ↔
      ∃ r, encodedLabel U (lastLabel n) = some r ∧ r.getLast? = some '\n' := by
  unfold aLabelForm at h
  split at h
  · next ha =>
    have hs : n.all isAscii = false := by
      rw [← Bool.not_eq_true, List.all_eq_true]
      intro hall
      obtain ⟨c, hc, hn⟩ := List.any_eq_true.1 ha
      simp [hall c hc] at hn
    exact idnaEncode_getLast_lf hs h
  · next ha =>
    simp only [some.injEq] at h
    subst h
    have hs : (lastLabel n).all isAscii = true := by
      rw [List.all_eq_true]
      intro c hc
      by_contra hn
      apply ha
      exact List.any_eq_true.2 ⟨c, (rtakeWhile_suffix _ _).subset hc, by simp [hn]⟩
    have hlast : (lastLabel n).getLast? = some '\n' ↔ n.getLast? = some '\n' := getLast_rtakeWhile (by decide)
    unfold encodedLabel
    rw [if_pos hs]
    simp [hlast]

/-- **What `validate_hostname` returns**: a name, with a line feed exactly for a
`LineFeedName`. -/
theorem validateHostname_ok (h : validateHostname U raw = .ok v) :
    (hostnameBody v = true ∧ ¬ LineFeedName U raw) ∨
      ∃ b, v = b ++ ['\n'] ∧ hostnameBody b = true ∧ LineFeedName U raw := by
  unfold validateHostname at h
  simp only [] at h
  split at h
  · cases h
  split at h
  · cases h
  next w hw =>
  split at h
  · next hre =>
    simp only [Except.ok.injEq] at h
    subst h
    have hlf := aLabelForm_getLast_lf hw
    unfold hostnameRe at hre
    simp only [Bool.or_eq_true, Bool.and_eq_true, beq_iff_eq] at hre
    rcases hre with hb | ⟨hl, hb⟩
    · refine .inl ⟨hb, fun hL => ?_⟩
      have hm := mem_of_getLast? (hlf.2 hL)
      exact absurd (hostnameBody_plain hb hm) (by decide)
    obtain ⟨t, ht⟩ := getLast?_eq_some_iff.1 hl
    rw [ht, dropLast_concat] at hb
    exact .inr ⟨t, ht, hb, hlf.1 hl⟩
  · cases h

/-! ## Addresses -/

lemma zoneOf_of_not_mem (h : '%' ∉ s) : zoneOf s = [] := by
  unfold zoneOf
  rw [splitAt_of_not_mem h]

lemma zoneOf_append {x z : Str} (hx : '%' ∉ x) : zoneOf (x ++ '%' :: z) = z := by
  unfold zoneOf
  rw [splitAt_append hx]

lemma ipv4Address_zone (h : ipv4Address s = some a) : zoneOf s = [] := by
  obtain ⟨-, -, -, hn⟩ := ipv4Address_eq_some_iff.1 h
  apply zoneOf_of_not_mem
  intro hm
  exact absurd (ipv4FromString_letters hn hm) (by decide)

lemma ipv6Address_zone (h : ipv6Address s = some a) : zoneOf s = a.scopeId.getD [] := by
  obtain ⟨-, -, addr, hsc, -⟩ := ipv6Address_eq_some_iff.1 h
  unfold splitScopeId at hsc
  split at hsc
  · next hp =>
    simp only [some.injEq, Prod.mk.injEq] at hsc
    rw [zoneOf_of_not_mem (partition_eq_none_iff.1 hp), ← hsc.2]
    rfl
  · next x z hp =>
    split_ifs at hsc
    simp only [some.injEq, Prod.mk.injEq] at hsc
    obtain ⟨hs, hx⟩ := partition_eq_some_iff.1 hp
    rw [hs, zoneOf_append hx, ← hsc.2]
    rfl

/-- The scope id of an address is the text after the `%`. -/
lemma ipAddress_zone (h : ipAddress s = some a) : zoneOf s = a.scopeId.getD [] := by
  unfold ipAddress at h
  rcases or_eq_some_iff.1 h with h | ⟨-, h⟩
  · rw [ipv4Address_zone h, Address.scopeId_v4 (ipv4Address_version h)]
    rfl
  · exact ipv6Address_zone h

def addressBody (a : Address) : Str :=
  match a.version with
  | .v4 => ipv4ToString a.ip
  | .v6 => ipv6ToString a.ip

/-- The scope id of an address with its `%`. -/
def zoneSuffix : Option Str → Str
  | some z => '%' :: z
  | none => []

def isAddressChar (c : Char) : Bool := isLowerHex c || c == '.' || c == ':'

lemma toStr_eq (a : Address) : a.toStr = addressBody a ++ zoneSuffix a.scopeId := by
  unfold Address.toStr addressBody
  cases hv : a.version with
  | v4 => simp [Address.scopeId_v4 hv, zoneSuffix]
  | v6 => cases a.scopeId <;> simp [zoneSuffix]

lemma isPlain_of_isAddressChar (h : isAddressChar c = true) : isPlain c = true := by
  simp only [isAddressChar, Bool.or_eq_true, beq_iff_eq] at h
  rcases h with (h | rfl) | rfl
  · have := isLowerHex_bounds h
    rw [isPlain_iff]
    omega
  · decide
  · decide

lemma addressBody_letters (h : c ∈ addressBody a) : isAddressChar c = true := by
  unfold addressBody at h
  simp only [isAddressChar, Bool.or_eq_true, beq_iff_eq]
  split at h
  · rcases ipv4ToString_letters h with h | h
    · exact .inl (.inl (by simp [isLowerHex, h]))
    · exact .inl (.inr h)
  rcases ipv6ToString_letters h with h | h
  · exact .inl (.inl h)
  · exact .inr h

lemma addressBody_ne_nil (a : Address) : addressBody a ≠ [] := by
  intro h
  have hlt := a.ip_lt
  unfold addressBody at h
  split at h
  · next hv =>
    rw [hv] at hlt
    have h4 := ipv4FromString_toString hlt
    rw [h] at h4
    cases h4
  · have hc := colon_mem_ipv6ToString a.ip
    rw [h] at hc
    cases hc

lemma toStr_head (h : a.toStr.head? = some c) : isAddressChar c = true := by
  rw [toStr_eq, head?_append_of_ne_nil _ (addressBody_ne_nil a)] at h
  exact addressBody_letters (mem_of_mem_head? h)

lemma toStr_letters (h : c ∈ a.toStr) : isAddressChar c = true ∨ c = '%' ∨ c ∈ a.scopeId.getD [] := by
  rw [toStr_eq] at h
  rcases mem_append.1 h with h | h
  · exact .inl (addressBody_letters h)
  cases hz : a.scopeId with
  | none =>
    rw [hz] at h
    cases h
  | some z =>
    rw [hz] at h
    exact .inr (mem_cons.1 h)

lemma zoneOf_suffix (h : zoneOf s ≠ []) : ∃ x, s = x ++ '%' :: zoneOf s ∧ '%' ∉ x := by
  unfold zoneOf at h ⊢
  rcases hs : splitAt '%' s with ⟨x, z⟩
  rw [hs] at h
  obtain ⟨hx, ⟨-, rfl⟩ | he⟩ := splitAt_eq hs
  · exact absurd rfl h
  · exact ⟨x, he, hx⟩

lemma strip_toStr (h : ipAddress (strip s) = some a) : strip a.toStr = a.toStr := by
  apply strip_eq_self
  · intro c hc
    exact isPlain_not_isSpace (isPlain_of_isAddressChar (toStr_head hc))
  intro c hc
  have hz := ipAddress_zone h
  rw [toStr_eq, getLast?_append] at hc
  cases hsc : a.scopeId with
  | none =>
    rw [hsc] at hc
    exact isPlain_not_isSpace (isPlain_of_isAddressChar (addressBody_letters (mem_of_getLast? hc)))
  | some z =>
    -- the last letter of the scope id is the last letter of the stripped text
    rw [hsc] at hz hc
    simp only [getD_some] at hz
    have hne : zoneOf (strip s) ≠ [] := by
      rw [hz]
      exact (a.scope_ok z hsc).2.1
    obtain ⟨x, hx, -⟩ := zoneOf_suffix hne
    apply strip_last (s := s)
    rw [hx, hz, getLast?_append]
    cases hl : ('%' :: z).getLast? with
    | none => simp at hl
    | some d =>
      simp only [zoneSuffix, hl] at hc
      exact hc

/-! ## `validate_ip`, `validate_cidr`, `validate_port` -/

lemma validateIp_ok_iff : validateIp raw = .ok v ↔ ∃ a, ipAddress (strip raw) = some a ∧ v = a.toStr := by
  unfold validateIp
  cases ipAddress (strip raw) with
  | none => simp
  | some a => simp [eq_comm]

lemma validateIp_error_iff {raw : Str} :
    validateIp raw = .error (.invalidIp raw) ↔ ipAddress (strip raw) = none := by
  unfold validateIp
  cases ipAddress (strip raw) with
  | none => simp
  | some a => simp

lemma validateIp_toStr (h : ipAddress (strip s) = some a) : validateIp a.toStr = .ok a.toStr :=
  validateIp_ok_iff.2 ⟨a, by rw [strip_toStr h, ipAddress_toStr], rfl⟩

lemma strip_network_toStr (n : Network) : strip n.toStr = n.toStr := by
  unfold Network.toStr
  apply strip_eq_self
  · intro c hc
    have hne : n.address.toStr ≠ [] := by
      rw [toStr_eq]
      simp [addressBody_ne_nil]
    rw [head?_append_of_ne_nil _ hne] at hc
    exact isPlain_not_isSpace (isPlain_of_isAddressChar (toStr_head hc))
  intro c hc
  rw [getLast?_append, getLast?_cons] at hc
  cases hd : (dec n.prefixlen).getLast? with
  | none => exact absurd (getLast?_eq_none_iff.1 hd) (dec_ne_nil _)
  | some d =>
    rw [hd] at hc
    simp only [getD_some, some_or, some.injEq] at hc
    rw [← hc]
    exact not_isSpace_of_isDigit (isDigit_of_mem_dec (mem_of_getLast? hd))

lemma validateCidr_ok_iff : validateCidr raw = .ok v ↔
      ∃ n, ipNetwork (strip raw) = some n ∧ cidrLimit n.version ≤ n.prefixlen ∧ v = n.toStr := by
  unfold validateCidr
  cases ipNetwork (strip raw) with
  | none => simp
  | some n =>
    simp only [some.injEq, exists_eq_left']
    split
    · next h =>
      simp only [reduceCtorEq, false_iff, not_and]
      intro hle
      omega
    · next h =>
      simp only [Except.ok.injEq]
      constructor
      · rintro rfl
        exact ⟨by omega, rfl⟩
      · rintro ⟨-, rfl⟩
        rfl

lemma validateCidr_again (h : validateCidr raw = .ok v) : validateCidr v = .ok v := by
  obtain ⟨n, -, hn, rfl⟩ := validateCidr_ok_iff.1 h
  exact validateCidr_ok_iff.2 ⟨n, by rw [strip_network_toStr, ipNetwork_toStr], hn, rfl⟩

lemma validatePort_dec {p : Nat} (h1 : 1 ≤ p) (h2 : p ≤ 65535) : validatePort (dec p) = .ok p := by
  have hlen : (dec p).length ≤ 5 := length_dec_le (by decide) (by omega)
  have hd : portDigits (dec p) = some (dec p) := by simp [portDigits, hlen]
  unfold validatePort
  rw [hd]
  simp [h1, h2]

lemma validatePort_ok {p : Nat} (h : validatePort s = .ok p) : 1 ≤ p ∧ p ≤ 65535 := by
  unfold validatePort at h
  split at h
  · split at h
    · next hp =>
      simp only [Except.ok.injEq] at h
      omega
    · cases h
  · cases h

lemma validatePort_letters {p : Nat} (h : validatePort s = .ok p) (hc : c ∈ s) :
    c.isDigit = true ∨ c = '\n' := by
  unfold validatePort at h
  split at h
  · next d hd =>
    unfold portDigits at hd
    simp only [] at hd
    split at hd
    · next hs =>
      simp only [isDecimal, Bool.and_eq_true, List.all_eq_true] at hs
      exact .inl (hs.1.2 c hc)
    split at hd
    · next hs =>
      simp only [isDecimal, Bool.and_eq_true, List.all_eq_true, beq_iff_eq] at hs
      obtain ⟨t, ht⟩ := getLast?_eq_some_iff.1 hs.1
      rw [ht, mem_append, mem_singleton] at hc
      rcases hc with hc | hc
      · exact .inl (hs.2.1.2 c (by rw [ht, dropLast_concat]; exact hc))
      · exact .inr hc
    · cases hd
  · cases h

/-! ## Hosts -/

lemma validateHost_ok {text h : Str} (hok : validateHost U text = .ok h) :
    (∃ a, ipAddress (strip text) = some a ∧ h = a.toStr) ∨
      (ipAddress (strip text) = none ∧ validateHostname U text = .ok h) := by
  unfold validateHost at hok
  split at hok
  · next v hv =>
    simp only [Except.ok.injEq] at hok
    subst hok
    exact .inl (validateIp_ok_iff.1 hv)
  · next e he =>
    refine .inr ⟨?_, hok⟩
    cases ha : ipAddress (strip text) with
    | none => rfl
    | some a =>
      rw [validateIp_ok_iff.2 ⟨a, ha, rfl⟩] at he
      cases he

lemma validateHost_of_address {text : Str}
    (h : ipAddress (strip text) = some a) : validateHost U text = .ok a.toStr := by
  unfold validateHost
  rw [validateIp_ok_iff.2 ⟨a, h, rfl⟩]

/-- A text without `:` that is an address is a printed IPv4 address. -/
lemma ipAddress_of_not_colon (hs : ':' ∉ s) (h : ipAddress s = some a) : a.toStr = s := by
  unfold ipAddress at h
  rcases or_eq_some_iff.1 h with h | ⟨-, h⟩
  · obtain ⟨-, hv, -, hn⟩ := ipv4Address_eq_some_iff.1 h
    unfold Address.toStr
    rw [hv]
    exact (ipv4FromString_canonical hn).symm
  exfalso
  obtain ⟨-, -, addr, hsc, hn⟩ := ipv6Address_eq_some_iff.1 h
  have hsub : ':' ∈ addr → ':' ∈ s := by
    intro hm
    unfold splitScopeId at hsc
    split at hsc
    · simp only [some.injEq, Prod.mk.injEq] at hsc
      exact hsc.1 ▸ hm
    next x z hp =>
    split_ifs at hsc
    simp only [some.injEq, Prod.mk.injEq] at hsc
    rw [(partition_eq_some_iff.1 hp).1, hsc.1]
    simp [hm]
  have hone : addr.splitOn ':' = [addr] := splitOn_eq_singleton fun hm => hs (hsub hm)
  unfold ipv6FromString at hn
  simp only [hone] at hn
  rw [if_pos (by simp)] at hn
  cases hn

lemma hostnameBody_not_mem (h : hostnameBody b = true) (hc : isLabelChar c = false) (hd : c ≠ '.') : c ∉ b := by
  intro hm
  rcases hostnameBody_letters h hm with h1 | h1
  · rw [h1] at hc
    cases hc
  · exact hd h1

/-- A text that strips to a name and is read as it, is read as it where addresses are
tried first: a name of four numbers is printed as it was. -/
lemma validateHost_of_name {text b : Str} (hb : hostnameBody b = true)
    (hs : strip text = b) (hn : validateHostname U text = .ok b) : validateHost U text = .ok b := by
  cases ha : ipAddress b with
  | none =>
    unfold validateHost
    have he : validateIp text = .error (.invalidIp text) := by
      rw [validateIp_error_iff, hs]
      exact ha
    rw [he]
    exact hn
  | some a =>
    rw [validateHost_of_address (by rw [hs]; exact ha)]
    rw [ipAddress_of_not_colon (hostnameBody_not_mem hb (by decide) (by decide)) ha]

lemma validateHost_of_body (U : Unicode) (hb : hostnameBody b = true) : validateHost U b = .ok b :=
  validateHost_of_name hb (strip_of_isPlain fun _ hc => hostnameBody_plain hb hc)
    (validateHostname_of_body U hb)

lemma validateHost_lf (U : Unicode) (hb : hostnameBody b = true) : validateHost U (b ++ ['\n']) = .ok b :=
  validateHost_of_name hb (strip_body_lf hb) (validateHostname_lf U hb)

/-- **The three forms of an accepted host**: an address, a name, a name and a line feed. -/
theorem validateHost_forms {text h : Str} (hok : validateHost U text = .ok h) :
    (∃ a, ipAddress (strip text) = some a ∧ h = a.toStr) ∨
    (ipAddress (strip text) = none ∧ hostnameBody h = true ∧ ¬ LineFeedName U text) ∨
    (ipAddress (strip text) = none ∧ ∃ b, h = b ++ ['\n'] ∧ hostnameBody b = true ∧ LineFeedName U text) := by
  rcases validateHost_ok hok with h1 | ⟨hn, h1⟩
  · exact .inl h1
  rcases validateHostname_ok h1 with h2 | h2
  · exact .inr (.inl ⟨hn, h2⟩)
  · exact .inr (.inr ⟨hn, h2⟩)

end AsmSensors
