import AttackSurface.Sensors.HostPort
import AttackSurface.Sensors.UrlLaws

/-!
# What a stored target is

For every accepted input `raw` with stored text `v`:

    v is non-empty, does not start with `-`, holds no whitespace and no control character
      ↔  CleanInput U kind raw                                              (safeValue_iff)
    validating `v` again gives the same target, with the same host
      ↔  StableInput U kind raw                                             (revalidate_iff)

Both conditions fail for names such as `example.com\n.`, whose line feed the final `$` of
`HOSTNAME_RE` lets through, and for IPv6 scope ids, which `ipaddress` does not restrict.
-/

namespace AsmSensors

open PyText PyNet List Option

/-! ## Definitions -/

def isControl (c : Char) : Bool := decide (c.toNat < 32) || c.toNat == 127

def SafeText (s : Str) : Prop := ∀ c ∈ s, isSpace c = false ∧ isControl c = false

def SafeValue (v : Str) : Prop := v ≠ [] ∧ v.head? ≠ some '-' ∧ SafeText v

def hostZone (text : Str) : Str :=
  match ipAddress (strip text) with
  | some _ => zoneOf (strip text)
  | none => []

variable (U : Unicode)

def HostClean (text : Str) : Prop :=
  match ipAddress (strip text) with
  | some _ => SafeText (zoneOf (strip text))
  | none => ¬ LineFeedName U text

/-- An IPv6 `address/prefix` with bits set after the prefix: they are cleared, and the scope id
is dropped with them. -/
def HasHostBits (s : Str) : Prop :=
  ∃ addr mask a p, s.splitOn '/' = [addr, mask] ∧ ipv6Address addr = some a ∧
    makeNetmask .v6 mask = some p ∧ ¬ 2 ^ (128 - p) ∣ a.ip

/-- The inputs whose stored text is a `SafeValue`. -/
def CleanInput : TargetKind → Str → Prop
  | .domain, raw => ¬ LineFeedName U raw
  | .hostname, raw => ¬ LineFeedName U raw
  | .ip, raw => SafeText (zoneOf (strip raw))
  | .cidr, raw => HasHostBits (strip raw) ∨ SafeText (zoneOf (splitAt '/' (strip raw)).1)
  | .hostPort, raw => HostClean U (hostText raw)
  | .url, raw => ∀ parts, urlsplit (strip raw) = some parts →
      '\x7f' ∉ hostZone (parts.hostname U) ∧ '\x7f' ∉ parts.path ∧ '\x7f' ∉ parts.query

def StableInput : TargetKind → Str → Prop
  | .domain, raw => ¬ LineFeedName U raw
  | .hostname, raw => ¬ LineFeedName U raw
  | .hostPort, raw => HostStable U (hostText raw)
  | .ip, _ => True
  | .cidr, _ => True
  | .url, _ => True

instance (s : Str) : Decidable (SafeText s) :=
  List.decidableBAll (fun c => isSpace c = false ∧ isControl c = false) s

instance (v : Str) : Decidable (SafeValue v) := by
  unfold SafeValue
  infer_instance

/-! ## Targets -/

variable {U : Unicode} {kind : TargetKind} {raw v : Str}

lemma validateTarget_ok_iff :
    validateTarget U kind raw = .ok v ↔ validator U kind raw = .ok v ∧ startsWith ['-'] v = false := by
  unfold validateTarget
  cases validator U kind raw with
  | error e => simp
  | ok w =>
    simp only [Except.ok.injEq]
    split
    · next hd =>
      constructor
      · intro h
        cases h
      rintro ⟨rfl, h⟩
      rw [hd] at h
      cases h
    · next hd =>
      constructor
      · rintro ⟨⟩
        exact ⟨rfl, by simpa using hd⟩
      · rintro ⟨rfl, -⟩
        rfl

lemma Target.make_ok_iff {t : Target U} :
    Target.make U kind raw = .ok t ↔ t.kind = kind ∧ validateTarget U kind raw = .ok t.value := by
  unfold Target.make
  constructor
  · intro h
    split at h
    · cases h
    next v hv =>
    simp only [Except.ok.injEq] at h
    subst h
    exact ⟨rfl, hv⟩
  rintro ⟨rfl, hv⟩
  split
  · next e he =>
    rw [hv] at he
    cases he
  · next w hw =>
    rw [hv, Except.ok.injEq] at hw
    obtain ⟨k, v, ha⟩ := t
    simp only at hw
    subst hw
    rfl

lemma Target.make_of_validate (h : validateTarget U kind raw = .ok v) :
    ∃ t, Target.make U kind raw = .ok t ∧ t.kind = kind ∧ t.value = v :=
  ⟨⟨kind, v, raw, h⟩, Target.make_ok_iff.2 ⟨rfl, h⟩, rfl, rfl⟩

lemma hostPort_ok_iff : validator U .hostPort raw = .ok v ↔
      ∃ r, splitHostPort U raw = .ok r ∧ v = formatHostPort r.1 r.2 := by
  simp only [validator]
  cases splitHostPort U raw with
  | error e => simp
  | ok r => simp [eq_comm]

/-! ## Reading a stored target again -/

lemma validateHostname_again (h : validateHostname U raw = .ok v) :
    validateHostname U v = .ok v ↔ ¬ LineFeedName U raw := by
  rcases validateHostname_ok h with ⟨hb, hlf⟩ | ⟨b, rfl, hb, hlf⟩
  · simp [validateHostname_of_body U hb, hlf]
  · simp [validateHostname_lf U hb, hlf]

lemma validateIp_again (h : validateIp raw = .ok v) : validateIp v = .ok v := by
  obtain ⟨a, ha, rfl⟩ := validateIp_ok_iff.1 h
  exact validateIp_toStr ha

lemma validateUrl_again (h : validateUrl U raw = .ok v) :
    validateUrl U v = .ok v ∧ ∃ host, hostOf U .url v = .ok host := by
  obtain ⟨parts, host, port, hacc, rfl⟩ := validateUrl_ok_iff.1 h
  obtain ⟨parts', hacc', he, -⟩ := hacc.again
  refine ⟨validateUrl_ok_iff.2 ⟨parts', host, port, hacc', he.symm⟩, ?_⟩
  unfold hostOf
  rw [hacc.urlsplit_stored]
  exact ⟨_, rfl⟩

lemma formatHostPort_lf_ne (h : Str) (p : Nat) : formatHostPort h p ≠ formatHostPort (h ++ ['\n']) p := by
  have hc : ':' ∈ h ++ ['\n'] ↔ ':' ∈ h := by simp
  intro he
  have hlen := congrArg length he
  unfold formatHostPort bracketHost at hlen
  by_cases hm : ':' ∈ h
  · rw [if_pos hm, if_pos (hc.2 hm)] at hlen
    simp at hlen
  · rw [if_neg hm, if_neg (fun h' => hm (hc.1 h'))] at hlen
    simp at hlen

lemma hostPort_again {r : Str × Nat} (h : splitHostPort U raw = .ok r) :
    (validator U .hostPort (formatHostPort r.1 r.2) = .ok (formatHostPort r.1 r.2) ∧
      splitHostPort U (formatHostPort r.1 r.2) = .ok r) ↔ HostStable U (hostText raw) := by
  obtain ⟨hst, hun⟩ := splitHostPort_format h
  constructor
  · rintro ⟨h1, -⟩
    by_contra hns
    obtain ⟨q, hq, he⟩ := hostPort_ok_iff.1 h1
    obtain ⟨e1, e2⟩ := hun hns q hq
    rw [← e1, ← e2] at he
    exact formatHostPort_lf_ne q.1 q.2 he.symm
  · intro hs
    exact ⟨hostPort_ok_iff.2 ⟨r, hst hs, rfl⟩, hst hs⟩

/-- **When the sensor reads back the authorized target.**  For every accepted input: reading
the stored text again gives the same target with the same host, and a `host:port` splits into
the pair it was joined from, exactly for a `StableInput`. -/
theorem revalidate_iff (U : Unicode) (kind : TargetKind) (raw : Str) (t : Target U)
    (h : Target.make U kind raw = .ok t) :
    (Target.make U t.kind t.value = .ok t ∧ (∃ host, t.host = .ok host) ∧
      (kind = .hostPort → ∀ r, splitHostPort U raw = .ok r →
        splitHostPort U (formatHostPort r.1 r.2) = .ok r)) ↔
    StableInput U kind raw := by
  obtain ⟨rfl, hv⟩ := Target.make_ok_iff.1 h
  obtain ⟨hval, hdash⟩ := validateTarget_ok_iff.1 hv
  have hmake : Target.make U t.kind t.value = .ok t ↔ validator U t.kind t.value = .ok t.value := by
    rw [Target.make_ok_iff, validateTarget_ok_iff]
    simp [hdash]
  rw [hmake]
  unfold Target.host
  cases hk : t.kind with
  | domain | hostname =>
    rw [hk] at hval
    have := validateHostname_again hval
    simpa [StableInput, hostOf, validator] using this
  | ip =>
    rw [hk] at hval
    have := validateIp_again hval
    simpa [StableInput, hostOf, validator] using this
  | cidr =>
    rw [hk] at hval
    have := validateCidr_again hval
    simpa [StableInput, hostOf, validator] using this
  | url =>
    rw [hk] at hval
    have := validateUrl_again hval
    simpa [StableInput, validator] using this
  | hostPort =>
    rw [hk] at hval
    obtain ⟨r, hr, he⟩ := hostPort_ok_iff.1 hval
    have hag := hostPort_again hr
    show _ ↔ HostStable U (hostText raw)
    rw [← hag, he]
    constructor
    · rintro ⟨h1, -, h3⟩
      exact ⟨h1, h3 rfl r hr⟩
    rintro ⟨h1, h2⟩
    refine ⟨h1, ⟨r.1, ?_⟩, fun _ q hq => ?_⟩
    · unfold hostOf
      simp only [h2]
    rw [hr, Except.ok.injEq] at hq
    rw [← hq]
    exact h2

theorem revalidate_iff_ipv4 : ∃ t, Target.make asciiUnicode .hostPort "8.8.8.8:53".toList = .ok t ∧
      ((Target.make asciiUnicode t.kind t.value = .ok t ∧ (∃ host, t.host = .ok host) ∧
        (TargetKind.hostPort = .hostPort → ∀ r,
          splitHostPort asciiUnicode "8.8.8.8:53".toList = .ok r →
            splitHostPort asciiUnicode (formatHostPort r.1 r.2) = .ok r)) ↔
        StableInput asciiUnicode .hostPort "8.8.8.8:53".toList) := by
  obtain ⟨t, ht, -⟩ := @Target.make_of_validate asciiUnicode .hostPort
    "8.8.8.8:53".toList "8.8.8.8:53".toList (by decide)
  exact ⟨t, ht, revalidate_iff _ _ _ t ht⟩

/-- A scope id with `]:` in it is cut when `host:port` is read again. -/
theorem revalidate_bracket : ∃ t, Target.make asciiUnicode .hostPort "fe80::1%a]:b:80".toList = .ok t ∧
      t.value = "[fe80::1%a]:b]:80".toList ∧
      Target.make asciiUnicode t.kind t.value ≠ .ok t ∧ ∀ host, t.host ≠ .ok host := by
  obtain ⟨t, ht, hk, hv⟩ := @Target.make_of_validate asciiUnicode .hostPort
    "fe80::1%a]:b:80".toList "[fe80::1%a]:b]:80".toList (by decide +kernel)
  refine ⟨t, ht, hv, ?_, ?_⟩
  · intro he
    have hval := (Target.make_ok_iff.1 he).2
    rw [hk, hv] at hval
    exact absurd hval (by decide)
  intro host
  unfold Target.host
  rw [hk, hv]
  have : hostOf asciiUnicode .hostPort "[fe80::1%a]:b]:80".toList =
      .error (.invalidPort "b]:80".toList) := by decide
  rw [this]
  simp

/-- A name with a line feed before its final dot is read again without it. -/
example : validateTarget asciiUnicode .domain "example.com\n.".toList = .ok "example.com\n".toList ∧
    validateTarget asciiUnicode .domain "example.com\n".toList = .ok "example.com".toList := by
  decide

/-! ## Safe texts -/

lemma isPlain_safe {c : Char} (h : isPlain c = true) : isSpace c = false ∧ isControl c = false := by
  refine ⟨isPlain_not_isSpace h, ?_⟩
  have := isPlain_iff.1 h
  simp [isControl]
  omega

lemma safeText_nil : SafeText [] := by
  intro c hc
  cases hc

lemma safeText_append {s t : Str} : SafeText (s ++ t) ↔ SafeText s ∧ SafeText t := by
  unfold SafeText
  constructor
  · intro h
    exact ⟨fun c hc => h c (mem_append_left _ hc), fun c hc => h c (mem_append_right _ hc)⟩
  rintro ⟨h1, h2⟩ c hc
  rcases mem_append.1 hc with hc | hc
  · exact h1 c hc
  · exact h2 c hc

lemma safeText_cons {c : Char} {s : Str} :
    SafeText (c :: s) ↔ (isSpace c = false ∧ isControl c = false) ∧ SafeText s :=
  forall_mem_cons

lemma safeText_of_isPlain {s : Str} (h : ∀ c ∈ s, isPlain c = true) : SafeText s :=
  fun c hc => isPlain_safe (h c hc)

lemma safeText_dec (n : Nat) : SafeText (dec n) :=
  safeText_of_isPlain fun _ hc => isPlain_of_isDigit (isDigit_of_mem_dec hc)

lemma safeText_body {b : Str} (hb : hostnameBody b = true) : SafeText b :=
  safeText_of_isPlain fun _ hc => hostnameBody_plain hb hc

lemma not_safeText_lf (b : Str) : ¬ SafeText (b ++ ['\n']) := by
  intro h
  exact absurd (h '\n' (by simp)).1 (by decide)

/-- A printed address is as safe as its scope id. -/
lemma safeText_toStr {a : Address} : SafeText a.toStr ↔ SafeText (a.scopeId.getD []) := by
  have hbody : SafeText (addressBody a) :=
    safeText_of_isPlain fun _ hc => isPlain_of_isAddressChar (addressBody_letters hc)
  rw [toStr_eq, safeText_append]
  cases a.scopeId with
  | none => simp [hbody, zoneSuffix, safeText_nil]
  | some z =>
    have hpct : isSpace '%' = false ∧ isControl '%' = false := by decide
    simp [hbody, zoneSuffix, safeText_cons, hpct]

lemma safeText_hostname (h : validateHostname U raw = .ok v) : SafeText v ↔ ¬ LineFeedName U raw := by
  rcases validateHostname_ok h with ⟨hb, hlf⟩ | ⟨b, rfl, -, hlf⟩
  · simp [safeText_body hb, hlf]
  · simp [not_safeText_lf, hlf]

lemma safeText_ip (h : validateIp raw = .ok v) : SafeText v ↔ SafeText (zoneOf (strip raw)) := by
  obtain ⟨a, ha, rfl⟩ := validateIp_ok_iff.1 h
  rw [safeText_toStr, ipAddress_zone ha]

lemma safeText_host {text h : Str} (hok : validateHost U text = .ok h) : SafeText h ↔ HostClean U text := by
  unfold HostClean
  rcases validateHost_ok hok with ⟨a, ha, rfl⟩ | ⟨hn, hv⟩
  · rw [ha, safeText_toStr, ipAddress_zone ha]
  · rw [hn]
    exact safeText_hostname hv

lemma safeText_bracketHost {h : Str} : SafeText (bracketHost h) ↔ SafeText h := by
  unfold bracketHost
  split
  · rw [cons_append, safeText_cons, safeText_append]
    have h1 : SafeText [']'] := by decide
    have h2 : isSpace '[' = false ∧ isControl '[' = false := by decide
    simp [h1, h2]
  · rfl

lemma safeText_formatHostPort {h : Str} {p : Nat} : SafeText (formatHostPort h p) ↔ SafeText h := by
  have hp : SafeText (':' :: dec p) := safeText_cons.2 ⟨by decide, safeText_dec p⟩
  unfold formatHostPort
  rw [safeText_append, safeText_bracketHost]
  simp [hp]

/-! ## Networks -/

lemma splitAt_of_splitOn {x : Char} {s l : Str} {ls : List Str} (h : s.splitOn x = l :: ls) :
    (splitAt x s).1 = l := by
  rcases hs : splitAt x s with ⟨a, b⟩
  obtain ⟨ha, ⟨rfl, -⟩ | rfl⟩ := splitAt_eq hs
  · rw [splitOn_eq_singleton ha] at h
    exact (cons.inj h).1
  · rw [splitOn_append_cons_self_of_not_mem ha] at h
    exact (cons.inj h).1

lemma networkOf_cases {v : Version} {parse : Str → Option Address} {s : Str} {n : Network}
    (h : networkOf v parse s = some n) :
    ∃ addr rest a, s.splitOn '/' = addr :: rest ∧ parse addr = some a ∧ ((rest = [] ∧ n = a.network) ∨
        ∃ mask p, ∃ hp : p ≤ a.version.bits, rest = [mask] ∧ makeNetmask v mask = some p ∧
          n = a.toNetwork p hp) := by
  unfold networkOf at h
  split at h
  · next addr hs =>
    obtain ⟨a, ha, rfl⟩ := map_eq_some_iff.1 h
    exact ⟨addr, [], a, hs, ha, .inl ⟨rfl, rfl⟩⟩
  · next addr mask hs =>
    split at h
    · cases h
    next a ha =>
    split at h
    · split at h
      · next p hm =>
        simp only [some.injEq] at h
        exact ⟨addr, [mask], a, hs, ha, .inr ⟨mask, p, _, rfl, hm, h.symm⟩⟩
      · cases h
    · cases h
  · cases h

lemma toNetwork_scopeId (a : Address) {p : Nat} (hp : p ≤ a.version.bits) : (a.toNetwork p hp).address.scopeId =
      if 2 ^ (a.version.bits - p) ∣ a.ip then a.scopeId else none := by
  have hmask : a.ip &&& PrefixNet.netmask a.version.bits p = a.ip ↔ 2 ^ (a.version.bits - p) ∣ a.ip := by
    rw [PrefixNet.and_netmask a.ip_lt]
    constructor
    · intro h
      exact ⟨a.ip / 2 ^ (a.version.bits - p), by rw [Nat.mul_comm]; exact h.symm⟩
    · exact Nat.div_mul_cancel
  unfold Address.toNetwork
  by_cases hd : 2 ^ (a.version.bits - p) ∣ a.ip
  · rw [dif_pos (hmask.2 hd), if_pos hd]
  · rw [dif_neg (fun h => hd (hmask.1 h)), if_neg hd]
    rfl

/-- **The scope id of a network**: dropped with host bits, else the one that was typed. -/
theorem safeText_network {s : Str} {n : Network} (h : ipNetwork s = some n) :
    SafeText (n.address.scopeId.getD []) ↔ HasHostBits s ∨ SafeText (zoneOf (splitAt '/' s).1) := by
  unfold ipNetwork at h
  rcases or_eq_some_iff.1 h with h | ⟨-, h⟩
  · -- IPv4: no scope id
    obtain ⟨addr, rest, a, hs, ha, hn⟩ := networkOf_cases h
    have hz : zoneOf (splitAt '/' s).1 = [] := by
      rw [splitAt_of_splitOn hs]
      exact ipv4Address_zone ha
    have hv : n.address.version = .v4 := by
      rcases hn with ⟨-, rfl⟩ | ⟨mask, p, hp, -, -, rfl⟩
      · exact ipv4Address_version ha
      unfold Address.toNetwork
      split
      · exact ipv4Address_version ha
      · show a.version = .v4
        exact ipv4Address_version ha
    rw [Address.scopeId_v4 hv, hz]
    simp [safeText_nil]
  obtain ⟨addr, rest, a, hs, ha, hn⟩ := networkOf_cases h
  have hv := ipv6Address_version ha
  rw [splitAt_of_splitOn hs, ipv6Address_zone ha]
  rcases hn with ⟨rfl, rfl⟩ | ⟨mask, p, hp, rfl, hm, rfl⟩
  · have hno : ¬ HasHostBits s := by
      rintro ⟨addr', mask, -, -, hs', -⟩
      rw [hs] at hs'
      simp at hs'
    simp [hno, Address.network]
  have hbits : HasHostBits s ↔ ¬ 2 ^ (128 - p) ∣ a.ip := by
    constructor
    · rintro ⟨addr', mask', a', p', hs', ha', hm', hd⟩
      rw [hs] at hs'
      simp only [cons.injEq, and_true] at hs'
      obtain ⟨rfl, rfl⟩ := hs'
      rw [ha, some.injEq] at ha'
      rw [hm, some.injEq] at hm'
      subst ha' hm'
      exact hd
    · intro hd
      exact ⟨addr, mask, a, p, hs, ha, hm, hd⟩
  rw [toNetwork_scopeId, hbits, hv]
  show SafeText ((if 2 ^ (128 - p) ∣ a.ip then a.scopeId else none).getD []) ↔ _
  by_cases hd : 2 ^ (128 - p) ∣ a.ip
  · simp [hd]
  · simp [hd, safeText_nil]

lemma safeText_cidr (h : validateCidr raw = .ok v) :
    SafeText v ↔ HasHostBits (strip raw) ∨ SafeText (zoneOf (splitAt '/' (strip raw)).1) := by
  obtain ⟨n, hn, -, rfl⟩ := validateCidr_ok_iff.1 h
  have hp : SafeText ('/' :: dec n.prefixlen) := safeText_cons.2 ⟨by decide, safeText_dec _⟩
  unfold Network.toStr
  rw [safeText_append, safeText_toStr, safeText_network hn]
  simp [hp]

/-! ## URLs -/

lemma del_mem_host {parts : SplitResult} {host : Str} {port : Option Nat}
    (h : AcceptedUrl U raw parts host port) :
    '\x7f' ∈ bracketHost host ++ portSuffix port ↔ '\x7f' ∈ hostZone (parts.hostname U) := by
  have hport : '\x7f' ∉ portSuffix port := fun hm => absurd (mem_portSuffix hm) (by decide)
  have hbr : '\x7f' ∈ bracketHost host ↔ '\x7f' ∈ host := by
    unfold bracketHost
    split
    · simp
    · rfl
  have hhost : '\x7f' ∈ host ↔ '\x7f' ∈ hostZone (parts.hostname U) := by
    unfold hostZone
    rcases validateHost_forms h.host_ok with ⟨a, ha, rfl⟩ | ⟨hn, hb, -⟩ | ⟨-, b, -, -, hlf⟩
    · rw [ha]
      simp only [ipAddress_zone ha]
      constructor
      · intro hm
        rcases toStr_letters hm with hc | hc | hc
        · exact absurd hc (by decide)
        · cases hc
        · exact hc
      intro hm
      rw [toStr_eq]
      cases hz : a.scopeId with
      | none =>
        rw [hz] at hm
        cases hm
      | some z =>
        rw [hz] at hm
        exact mem_append_right _ (mem_cons_of_mem _ hm)
    · rw [hn]
      simp [hostnameBody_not_mem hb (c := '\x7f') (by decide) (by decide)]
    · exact absurd hlf h.not_lineFeedName
  simp [hport, hbr, hhost]

/-- A URL is refused for whitespace and for control characters below 32, not for a delete
character. -/
lemma safeText_url (h : validateUrl U raw = .ok v) : SafeText v ↔ CleanInput U .url raw := by
  obtain ⟨parts, host, port, hacc, rfl⟩ := validateUrl_ok_iff.1 h
  have hdel : SafeText (storedUrl parts host port) ↔ '\x7f' ∉ storedUrl parts host port := by
    constructor
    · intro hs hm
      exact absurd (hs _ hm).2 (by decide)
    intro hd c hc
    obtain ⟨h1, h2⟩ := hacc.stored_letters hc
    refine ⟨h1, ?_⟩
    have hne : c.toNat ≠ 127 := by
      intro he
      apply hd
      rwa [show c = '\x7f' from Char.toNat_inj.1 he] at hc
    simp only [isControl, Bool.or_eq_false_iff, decide_eq_false_iff_not, beq_eq_false_iff_ne]
    omega
  have hscheme : '\x7f' ∉ parts.scheme := by
    rcases hacc.scheme with hs | hs <;> rw [hs] <;> decide
  have hquery : '\x7f' ∈ (if parts.query = [] then [] else '?' :: parts.query) ↔ '\x7f' ∈ parts.query := by
    split
    · next he => rw [he]
    · simp
  have hmem : '\x7f' ∈ storedUrl parts host port ↔
      '\x7f' ∈ hostZone (parts.hostname U) ∨ '\x7f' ∈ parts.path ∨ '\x7f' ∈ parts.query := by
    unfold storedUrl composeUrl
    rw [mem_append, mem_append, mem_append, mem_append, del_mem_host hacc, hquery]
    have hsep : '\x7f' ∉ "://".toList := by decide
    tauto
  show _ ↔ ∀ parts', urlsplit (strip raw) = some parts' → _
  rw [hdel, hmem, hacc.split]
  simp

/-! ## All kinds -/

lemma head_eq_dash_iff {v : Str} : startsWith ['-'] v = false ↔ v.head? ≠ some '-' := by
  cases v with
  | nil => simp [startsWith]
  | cons c v =>
    simp only [startsWith, isPrefixOf, Bool.and_true, beq_eq_false_iff_ne, head?_cons, ne_eq, some.injEq]
    exact ⟨fun h e => h e.symm, fun h e => h e.symm⟩

lemma validator_ne_nil (h : validator U kind raw = .ok v) : v ≠ [] := by
  have hname : validateHostname U raw = .ok v → v ≠ [] := by
    intro hv
    rcases validateHostname_ok hv with ⟨hb, -⟩ | ⟨b, rfl, -⟩
    · exact hostnameBody_ne_nil hb
    · simp
  cases kind with
  | domain | hostname => exact hname h
  | ip =>
    obtain ⟨a, -, rfl⟩ := validateIp_ok_iff.1 h
    rw [toStr_eq]
    simp [addressBody_ne_nil]
  | cidr =>
    obtain ⟨n, -, -, rfl⟩ := validateCidr_ok_iff.1 h
    simp [Network.toStr]
  | hostPort =>
    obtain ⟨r, -, rfl⟩ := hostPort_ok_iff.1 h
    simp [formatHostPort]
  | url =>
    obtain ⟨parts, host, port, -, rfl⟩ := validateUrl_ok_iff.1 h
    simp [storedUrl, composeUrl]

/-- **Which accepted inputs are stored as safe texts.** -/
theorem safeValue_iff (U : Unicode) (kind : TargetKind) (raw : Str) (t : Target U)
    (h : Target.make U kind raw = .ok t) : SafeValue t.value ↔ CleanInput U kind raw := by
  obtain ⟨rfl, hv⟩ := Target.make_ok_iff.1 h
  obtain ⟨hval, hdash⟩ := validateTarget_ok_iff.1 hv
  have hsafe : SafeValue t.value ↔ SafeText t.value := by
    unfold SafeValue
    have h1 := validator_ne_nil hval
    have h2 := head_eq_dash_iff.1 hdash
    exact ⟨fun hs => hs.2.2, fun hs => ⟨h1, h2, hs⟩⟩
  rw [hsafe]
  cases hk : t.kind with
  | domain | hostname =>
    rw [hk] at hval
    exact safeText_hostname hval
  | ip =>
    rw [hk] at hval
    exact safeText_ip hval
  | cidr =>
    rw [hk] at hval
    exact safeText_cidr hval
  | url =>
    rw [hk] at hval
    exact safeText_url hval
  | hostPort =>
    rw [hk] at hval
    obtain ⟨r, hr, he⟩ := hostPort_ok_iff.1 hval
    rw [he, safeText_formatHostPort]
    exact safeText_host (splitHostPort_ok hr).1

theorem safeValue_iff_ipv4 : ∃ t, Target.make asciiUnicode .ip "8.8.8.8".toList = .ok t ∧
      (SafeValue t.value ↔ CleanInput asciiUnicode .ip "8.8.8.8".toList) := by
  obtain ⟨t, ht, -⟩ := @Target.make_of_validate asciiUnicode .ip
    "8.8.8.8".toList "8.8.8.8".toList (by decide)
  exact ⟨t, ht, safeValue_iff _ _ _ t ht⟩

/-- A name with a line feed before its final dot is stored with the line feed. -/
theorem safeValue_lineFeed : ∃ t, Target.make asciiUnicode .hostname "example.com\n.".toList = .ok t ∧
      t.value = "example.com\n".toList ∧ ¬ SafeValue t.value := by
  obtain ⟨t, ht, -, hv⟩ := @Target.make_of_validate asciiUnicode .hostname
    "example.com\n.".toList "example.com\n".toList (by decide)
  refine ⟨t, ht, hv, ?_⟩
  rw [hv]
  decide

end AsmSensors
