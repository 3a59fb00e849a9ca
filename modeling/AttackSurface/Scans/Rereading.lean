import AttackSurface.Scans.Creation
import AttackSurface.Scans.Override
import AttackSurface.Sensors.Endpoints

/-!
# Reading the limit of a scan back (`parse_target`, `_override`)

A line of "limit to specific targets" is parsed once, and the text of the target is stored;
every stage reads that text again.  `ReadBack` says that the second reading finds the host of the
target, and the port that the target names.

The two readers try the forms in different orders: `parse_target` tries an address before
`host:port`, `_override` tries `host:port` first.  So an address whose last group can be a port
is read as a shorter address and a port:

    ReadBack  ↔  an address does not read as host:port, a URL does not name port 0  (readBack_iff)
-/

namespace App.Scans

open PyText PyNet AsmSensors List Option

variable {U : Unicode} (t : Target U)

/-- The port that a target names: that of a `host:port`, that of a URL or of its scheme. -/
def namedPort : Option Nat :=
  match t.kind with
  | .hostPort => (splitHostPort U t.value).toOption.map Prod.snd
  | .url => (urlsplit t.value).bind fun u => u.port.map fun p => p.getD (defaultPort u.scheme)
  | _ => none

/-- A scan limited to the target is limited to its host, and to the port that it names. -/
def ReadBack : Prop := ∃ ov host, override U [t.value] = some ov ∧ t.host = .ok host ∧
    (∀ x, x ∈ ov.hosts ↔ x = host) ∧ ∀ x p, (x, p) ∈ ov.ports ↔ x = host ∧ namedPort t = some p

/-! ## The reading of one entry -/

lemma overrideEntry_isSome : ∃ e, overrideEntry U t.value = some e := by
  unfold overrideEntry
  by_cases hk : t.kind = .url
  · obtain ⟨u, port, hu, -, hne, hport⟩ := url_target t hk
    have hurl : ∃ p, urlPort u = some p := by
      unfold urlPort
      rw [hport]
      cases port with
      | none | some p => exact ⟨_, rfl⟩
    obtain ⟨p, hp⟩ := hurl
    rw [if_pos ((contains_scheme_iff t).2 hk), hu]
    simp only [if_neg hne, hp]
    exact ⟨_, rfl⟩
  · rw [if_neg (mt (contains_scheme_iff t).1 hk)]
    cases splitHostPort U t.value with
    | error e | ok r => exact ⟨_, rfl⟩

/-- **The target is read back** when its reading is its host and the port that it names. -/
theorem readBack_iff_reading : ReadBack t ↔ t.host = .ok (reading t).1 ∧ (reading t).2 = namedPort t := by
  obtain ⟨e, he⟩ := overrideEntry_isSome t
  obtain ⟨hhosts, hports⟩ := overrideEntry_eq he
  have hov : override U [t.value] = some e := by
    simp [override, he]
  have hmem : ∀ x, x ∈ e.hosts ↔ x = (reading t).1 := by
    intro x
    rw [hhosts, mem_singleton]
  have hpair : ∀ x p, (x, p) ∈ e.ports ↔ x = (reading t).1 ∧ (reading t).2 = some p := by
    intro x p
    rw [hports, mem_toList, map_eq_some_iff]
    constructor
    · rintro ⟨q, hq, heq⟩
      simp only [Prod.mk.injEq] at heq
      exact ⟨heq.1.symm, heq.2 ▸ hq⟩
    · rintro ⟨rfl, hp⟩
      exact ⟨p, hp, rfl⟩
  constructor
  · rintro ⟨ov, host, hov', hhost, hh, hp⟩
    obtain rfl : e = ov := some_inj.1 (hov.symm.trans hov')
    obtain rfl : (reading t).1 = host := (hh _).1 ((hmem _).2 rfl)
    refine ⟨hhost, ext fun p => ?_⟩
    have h1 := hpair (reading t).1 p
    have h2 := hp (reading t).1 p
    simp only [true_and] at h1 h2
    exact h1.symm.trans h2
  · rintro ⟨hhost, hport⟩
    refine ⟨e, (reading t).1, hov, hhost, hmem, fun x p => ?_⟩
    rw [hpair, hport]

/-! ## Each kind of target -/

variable {t : Target U}

lemma readBack_url (hk : t.kind = .url) :
    ReadBack t ↔ ∀ u, urlsplit t.value = some u → u.port ≠ some (some 0) := by
  obtain ⟨u, port, hu, hhost, hne, hport⟩ := url_target t hk
  have hov : overrideHost t = u.hostname U := by
    unfold overrideHost
    rw [hhost]
  have hread : reading t = (u.hostname U, urlPort u) := by
    rw [reading, if_pos hk, hu, hov]
    rfl
  have hnamed : namedPort t = some (port.getD (defaultPort u.scheme)) := by
    simp [namedPort, hk, hu, hport]
  rw [readBack_iff_reading, hread, hnamed, hhost, hu]
  have hdefault : defaultPort u.scheme ≠ 0 := by
    unfold defaultPort
    split <;> decide
  simp only [true_and, some.injEq, forall_eq', hport]
  cases port with
  | none =>
    have hurl : urlPort u = some (defaultPort u.scheme) := by
      simp only [urlPort, hport]
      rfl
    simp [hurl]
  | some p =>
    have hurl : urlPort u = some (if p = 0 then defaultPort u.scheme else p) := by
      simp only [urlPort, hport]
      rfl
    by_cases hp : p = 0
    · simp [hurl, hp, hdefault]
    · simp [hurl, hp]

/-- A text that is not `host:port` is read as it stands. -/
lemma readBack_of_error (hk : t.kind ≠ .url) (hk' : t.kind ≠ .hostPort) {e : TargetError}
    (h : splitHostPort U t.value = .error e) : ReadBack t := by
  have hread : reading t = (t.value, none) := by
    simp only [reading, if_neg hk, h]
  rw [readBack_iff_reading, hread]
  unfold Target.host hostOf namedPort
  cases hkind : t.kind with
  | url => exact absurd hkind hk
  | hostPort => exact absurd hkind hk'
  | domain | hostname | ip | cidr => exact ⟨rfl, rfl⟩

lemma readBack_hostPort (hk : t.kind = .hostPort) {r : Str × Nat}
    (h : splitHostPort U t.value = .ok r) : ReadBack t := by
  have hread : reading t = (r.1, some r.2) := by
    simp [reading, hk, h]
  rw [readBack_iff_reading, hread]
  simp [Target.host, hostOf, namedPort, hk, h, Except.toOption]

/-- An address is read back unless it reads as `host:port`. -/
lemma readBack_ip (hk : t.kind = .ip) : ReadBack t ↔ ∀ r, splitHostPort U t.value ≠ .ok r := by
  constructor
  · intro h r hr
    rw [readBack_iff_reading] at h
    have hread : (reading t).2 = some r.2 := by
      simp [reading, hk, hr]
    rw [hread] at h
    have hnamed : namedPort t = none := by
      simp [namedPort, hk]
    rw [hnamed] at h
    cases h.2
  · intro h
    cases hs : splitHostPort U t.value with
    | ok r => exact absurd hs (h r)
    | error e => exact readBack_of_error (by simp [hk]) (by simp [hk]) hs

/-- The values of names are never `host:port`. -/
lemma splitHostPort_hostname {raw v : Str} (h : validateHostname U raw = .ok v) :
    ∃ e, splitHostPort U v = .error e := by
  -- the stored text is a name, with a line feed at most
  have hbody : ∃ b, strip v = b ∧ hostnameBody b = true := by
    rcases validateHostname_ok h with ⟨hb, -⟩ | ⟨b, rfl, hb, -⟩
    · exact ⟨v, strip_of_isPlain fun c hc => hostnameBody_plain hb hc, hb⟩
    · exact ⟨b, strip_body_lf hb, hb⟩
  obtain ⟨b, hstrip, hb⟩ := hbody
  cases hs : splitHostPort U v with
  | error e => exact ⟨e, rfl⟩
  | ok r =>
    exfalso
    have hplain : ∀ rest, strip v ≠ '[' :: rest := by
      intro rest hrest
      have hhead : b.head? = some '[' := by rw [← hstrip, hrest]; rfl
      exact (hostnameBody_head_ok hb hhead).2 rfl
    obtain ⟨q, hq, -⟩ := (splitHostPort_plain hplain).1 hs
    rw [hstrip, rpartition_eq_none_iff.2 (hostnameBody_not_mem hb (by decide) (by decide))] at hq
    cases hq

variable {a : Address}

lemma toStr_head_ne_bracket {c : Char} (h : a.toStr.head? = some c) : c ≠ '[' := by
  rintro rfl
  exact absurd (toStr_head h) (by decide)

lemma toStr_ne_nil (a : Address) : a.toStr ≠ [] := by
  rw [toStr_eq]
  simp [addressBody_ne_nil]

/-- The values of networks are never `host:port`: what follows the last colon holds the slash. -/
lemma splitHostPort_network (n : Network) : ∃ e, splitHostPort U n.toStr = .error e := by
  cases hs : splitHostPort U n.toStr with
  | error e => exact ⟨e, rfl⟩
  | ok r =>
    exfalso
    have hstrip := strip_network_toStr n
    have hplain : ∀ rest, strip n.toStr ≠ '[' :: rest := by
      intro rest hrest
      rw [hstrip] at hrest
      have hhead : n.address.toStr.head? = some '[' := by
        have h := congrArg head? hrest
        rwa [Network.toStr, head?_append_of_ne_nil _ (toStr_ne_nil _)] at h
      exact toStr_head_ne_bracket hhead rfl
    obtain ⟨⟨host, port⟩, hq, -, hport⟩ := (splitHostPort_plain hplain).1 hs
    rw [hstrip] at hq
    obtain ⟨heq, -⟩ := rpartition_eq_some_iff.1 hq
    have hslash : '/' ∈ port := by
      rw [Network.toStr, append_eq_append_iff] at heq
      rcases heq with ⟨t, -, ht⟩ | ⟨t, -, ht⟩
      · -- the colon would be behind the slash
        exfalso
        have hcolon : ':' ∈ '/' :: dec n.prefixlen := by
          rw [ht]
          simp
        rcases mem_cons.1 hcolon with h | h
        · cases h
        · exact not_mem_dec (by decide) h
      · cases t with
        | nil => cases ht
        | cons c t =>
          rw [cons_append, cons.injEq] at ht
          rw [ht.2]
          simp
    rcases validatePort_letters hport hslash with h | h
    · exact absurd h (by decide)
    · cases h

/-! ## Lines that `parse_target` accepts -/

lemma ipAddress_append_port {h w port : Str} (ha : ipAddress h = some a) (hz : zoneOf h ≠ [])
    (hw : ∀ c ∈ w, isSpace c = true) (hport : ∀ c ∈ port, c.isDigit = true ∨ c = '\n') :
    ∃ a', ipAddress (h ++ w ++ ':' :: port) = some a' := by
  unfold ipAddress at ha ⊢
  rcases or_eq_some_iff.1 ha with ha | ⟨-, ha⟩
  · exact absurd (ipv4Address_zone ha) hz
  obtain ⟨hslash, hv, addr, hscope, hip⟩ := ipv6Address_eq_some_iff.1 ha
  obtain ⟨x, hx, hpct⟩ := zoneOf_suffix hz
  have hpart : partition '%' h = some (x, zoneOf h) := partition_eq_some_iff.2 ⟨hx, hpct⟩
  unfold splitScopeId at hscope
  rw [hpart] at hscope
  simp only at hscope
  split_ifs at hscope with hcond
  rw [not_or] at hcond
  simp only [some.injEq, Prod.mk.injEq] at hscope
  -- what is appended belongs to the scope id
  set zone := zoneOf h ++ w ++ ':' :: port with hzone
  have hnot : ∀ c, c ∈ w ++ ':' :: port → c ≠ '%' ∧ c ≠ '/' := by
    intro c hc
    rw [mem_append, mem_cons] at hc
    rcases hc with hc | rfl | hc
    · have := hw c hc
      constructor <;> rintro rfl <;> exact absurd this (by decide)
    · decide
    rcases hport c hc with h | rfl
    · constructor <;> rintro rfl <;> exact absurd h (by decide)
    · decide
  have hzpct : '%' ∉ zone := by
    intro hm
    rw [hzone, append_assoc, mem_append] at hm
    rcases hm with hm | hm
    · exact hcond.2 hm
    · exact (hnot _ hm).1 rfl
  have hzslash : '/' ∉ zone := by
    intro hm
    rw [hzone, append_assoc, mem_append] at hm
    rcases hm with hm | hm
    · exact hslash (by rw [hx]; simp [hm])
    · exact (hnot _ hm).2 rfl
  have hne : zone ≠ [] := by
    rw [hzone]
    simp
  have htext : h ++ w ++ ':' :: port = x ++ '%' :: zone := by
    rw [hzone]
    conv_lhs => rw [hx]
    simp
  have hlt : a.ip < 2 ^ Version.v6.bits := hv ▸ a.ip_lt
  have hok : ∀ s ∈ some zone, Version.v6 = .v6 ∧ ScopeIdOk s := by
    intro s hs
    cases hs
    exact ⟨rfl, hne, hzpct, hzslash⟩
  have h6 : ipv6Address (h ++ w ++ ':' :: port) = some ⟨.v6, a.ip, some zone, hlt, hok⟩ := by
    rw [ipv6Address_eq_some_iff]
    refine ⟨?_, rfl, x, ?_, ?_⟩
    · rw [htext, mem_append, mem_cons]
      rintro (hm | hm | hm)
      · exact hslash (by rw [hx]; simp [hm])
      · cases hm
      · exact hzslash hm
    · unfold splitScopeId
      rw [partition_eq_some_iff.2 ⟨htext, hpct⟩]
      simp [hne, hzpct]
    · rw [hscope.1]
      exact hip
  rw [h6]
  cases ipv4Address (h ++ w ++ ':' :: port) with
  | none => exact ⟨_, rfl⟩
  | some b => exact ⟨b, rfl⟩

lemma strip_head {s : Str} {c : Char} (h : (strip s).head? = some c) : isSpace c = false := by
  obtain ⟨w, hw, -⟩ := rstrip_append isSpace (lstrip isSpace s)
  refine lstrip_head (s := s) ?_
  rw [hw, head?_append]
  exact or_eq_some_iff.2 (.inl h)

lemma zoneOf_strip_within (s : Str) : zoneOf (strip s) <:+: s := by
  by_cases hz : zoneOf (strip s) = []
  · rw [hz]
    exact nil_infix
  obtain ⟨x, hx, -⟩ := zoneOf_suffix hz
  have hstrip : strip s <:+: s :=
    (List.rdropWhile_prefix isSpace _).isInfix.trans (dropWhile_suffix isSpace).isInfix
  refine IsInfix.trans ?_ hstrip
  exact ⟨x ++ ['%'], [], by rw [append_nil, append_assoc, singleton_append]; exact hx.symm⟩

lemma ipAddress_of_make {value : Str} (h : (Target.make U .ip value).toOption = none) :
    ipAddress (strip value) = none := by
  cases ha : ipAddress (strip value) with
  | none => rfl
  | some a =>
    exfalso
    have hdash : startsWith ['-'] a.toStr = false := by
      rw [head_eq_dash_iff]
      intro hhead
      exact absurd (toStr_head hhead) (by decide)
    have hval : validateTarget U .ip value = .ok a.toStr :=
      validateTarget_ok_iff.2 ⟨validateIp_ok_iff.2 ⟨a, ha, rfl⟩, hdash⟩
    obtain ⟨t, ht, -⟩ := Target.make_of_validate hval
    rw [ht] at h
    cases h

/-- A host with `]:` in its scope id comes from a line that is an address as a whole. -/
lemma zone_of_hostPort {value : Str} {r : Str × Nat} (hok : splitHostPort U value = .ok r)
    (hnone : ipAddress (strip value) = none)
    (ha : ipAddress (strip (hostText value)) = some a) : ¬ "]:".toList <:+: zoneOf (strip (hostText value)) := by
  intro hin
  by_cases hb : ∃ rest, strip value = '[' :: rest
  · -- in brackets the host ends before the first `]:`
    obtain ⟨rest, hrest⟩ := hb
    obtain ⟨-, hport⟩ := (splitHostPort_bracket hrest).1 hok
    rw [hostText_bracket hrest] at hin
    cases hp : partitionStr "]:".toList rest with
    | none =>
      rw [hp] at hport
      simp [validatePort, portDigits, isDecimal] at hport
    | some q =>
      rw [hp] at hin
      exact partitionStr_first (by decide) hp (hin.trans (zoneOf_strip_within _))
  push Not at hb
  obtain ⟨q, hq, -, hport⟩ := (splitHostPort_plain hb).1 hok
  rw [hostText_plain hb, hq, Option.getD_some] at hin ha
  obtain ⟨hval, -⟩ := rpartition_eq_some_iff.1 hq
  have hz : zoneOf (strip q.1) ≠ [] := by
    intro hz
    rw [hz] at hin
    exact absurd hin (by decide)
  -- the host stands at the start of a stripped text
  have hhead : ∀ c, q.1.head? = some c → isSpace c = false := by
    intro c hc
    refine strip_head (s := value) ?_
    rw [hval, List.head?_append, hc]
    rfl
  obtain ⟨w, hw, hblank⟩ := rstrip_append isSpace q.1
  have hstrip : strip q.1 = rstrip isSpace q.1 := by
    rw [strip, lstrip_eq_self hhead]
  rw [← hstrip] at hw
  obtain ⟨a', ha'⟩ := ipAddress_append_port ha hz hblank fun c hc => validatePort_letters hport hc
  rw [← hw, ← hval, hnone] at ha'
  cases ha'

/-- A `host:port` target comes from a line that is no address. -/
lemma parseTarget_hostPort_line {raw : Str} (h : parseTarget U raw = some t)
    (hk : t.kind = .hostPort) : ∃ value r, ipAddress (strip value) = none ∧
      splitHostPort U value = .ok r ∧ t.value = formatHostPort r.1 r.2 := by
  unfold parseTarget at h
  set value := U.lower (strip raw)
  have hmade : ∀ {kind : TargetKind}, (Target.make U kind value).toOption = some t → t.kind = kind := by
    intro kind hmake
    cases hm : Target.make U kind value with
    | error e => simp [hm, Except.toOption] at hmake
    | ok t' =>
      simp only [hm, Except.toOption, some_inj] at hmake
      exact hmake ▸ (Target.make_ok_iff.1 hm).1
  simp only at h
  split at h
  · cases h
  split at h
  · have := hmade h
    rw [hk] at this
    cases this
  rw [findSome?_cons] at h
  cases hip : (Target.make U .ip value).toOption with
  | some t' =>
    simp only [hip, some_inj] at h
    subst h
    have := hmade hip
    rw [hk] at this
    cases this
  | none =>
    simp only [hip] at h
    rw [findSome?_cons] at h
    cases hhp : (Target.make U .hostPort value).toOption with
    | some t' =>
      simp only [hhp, some_inj] at h
      subst h
      cases hm : Target.make U .hostPort value with
      | error e => simp [hm, Except.toOption] at hhp
      | ok t'' =>
        simp only [hm, Except.toOption, some_inj] at hhp
        subst hhp
        obtain ⟨-, hval⟩ := Target.make_ok_iff.1 hm
        obtain ⟨r, hr, hv⟩ := hostPort_ok_iff.1 (validateTarget_ok_iff.1 hval).1
        exact ⟨value, r, ipAddress_of_make hip, hr, hv⟩
    | none =>
      -- networks and names are of other kinds
      exfalso
      simp only [hhp] at h
      obtain ⟨kind, hmem, hmake⟩ := exists_of_findSome?_eq_some h
      have hkind := hmade hmake
      rw [hk] at hkind
      subst hkind
      simp at hmem

/-- **A `host:port` line is read back**: a host that could not be is a part of a scope id, and the
line was taken for an address. -/
theorem parseTarget_hostPort {raw : Str} (h : parseTarget U raw = some t)
    (hk : t.kind = .hostPort) : ∃ r, splitHostPort U t.value = .ok r := by
  obtain ⟨value, r, hnone, hok, hvalue⟩ := parseTarget_hostPort_line h hk
  rw [hvalue]
  obtain ⟨hstable, -⟩ := splitHostPort_format hok
  obtain ⟨hhost, h1, h2⟩ := splitHostPort_ok hok
  rcases validateHost_forms hhost with ⟨a, ha, -⟩ | ⟨hn, -, hlf⟩ | ⟨-, b, hh, hb, -⟩
  · refine ⟨r, hstable ?_⟩
    unfold HostStable
    rw [ha]
    exact zone_of_hostPort hok hnone ha
  · refine ⟨r, hstable ?_⟩
    unfold HostStable
    rw [hn]
    exact hlf
  -- the line feed is stripped when the name is read again
  refine ⟨(b, r.2), ?_⟩
  rw [hh]
  refine (splitHostPort_format_plain ?_ (by simp) ?_ h1 h2).2 ⟨validateHost_lf U hb, rfl⟩
  · simp [hostnameBody_not_mem hb (c := ':') (by decide) (by decide)]
  intro c hc
  rw [head?_append_of_ne_nil _ (hostnameBody_ne_nil hb)] at hc
  exact hostnameBody_head_ok hb hc

/-- **Reading a line back.**  For every line that `parse_target` accepts, a scan limited to the
stored text is limited to the host of the target, and to the port that it names, exactly when an
address does not read as `host:port` and a URL does not name port 0. -/
theorem readBack_iff {raw : Str} {t : Target U} (h : parseTarget U raw = some t) :
    ReadBack t ↔ (t.kind = .ip → ∀ r, splitHostPort U t.value ≠ .ok r) ∧
      (t.kind = .url → ∀ u, urlsplit t.value = some u → u.port ≠ some (some 0)) := by
  cases hk : t.kind with
  | ip => simpa using readBack_ip hk
  | url => simpa using readBack_url hk
  | hostPort =>
    obtain ⟨r, hr⟩ := parseTarget_hostPort h hk
    simpa using readBack_hostPort hk hr
  | cidr =>
    obtain ⟨raw', hval⟩ := t.accepted
    rw [hk] at hval
    obtain ⟨n, -, -, hn⟩ := validateCidr_ok_iff.1 (validateTarget_ok_iff.1 hval).1
    obtain ⟨e, he⟩ := splitHostPort_network (U := U) n
    rw [← hn] at he
    simpa using readBack_of_error (by simp [hk]) (by simp [hk]) he
  | hostname | domain =>
    obtain ⟨raw', hval⟩ := t.accepted
    rw [hk] at hval
    obtain ⟨e, he⟩ := splitHostPort_hostname (validateTarget_ok_iff.1 hval).1
    simpa using readBack_of_error (by simp [hk]) (by simp [hk]) he

/-- An address whose last group is no port is read back. -/
theorem readBack_ipv6 : ∃ t, parseTarget asciiUnicode "2001:db8::1".toList = some t ∧ t.kind = .ip ∧
    ReadBack t := by
  have hparse : (parseTarget asciiUnicode "2001:db8::1".toList).map (fun t => (t.kind, t.value)) =
      some (.ip, "2001:db8::1".toList) := by decide +kernel
  obtain ⟨t, ht, heq⟩ := map_eq_some_iff.1 hparse
  rw [Prod.mk.injEq] at heq
  refine ⟨t, ht, heq.1, (readBack_iff ht).2 ⟨fun _ r hr => ?_, fun hk => ?_⟩⟩
  · have herror : (splitHostPort asciiUnicode "2001:db8::1".toList).toOption = none := by decide +kernel
    rw [heq.2] at hr
    rw [hr] at herror
    cases herror
  · rw [heq.1] at hk
    cases hk

/-- `2001:db8::1:8080` is accepted as an address and read as port 8080 of `2001:db8::1`. -/
theorem address_read_as_port : ∃ t, parseTarget asciiUnicode "2001:db8::1:8080".toList = some t ∧ t.kind = .ip ∧
      t.host = .ok "2001:db8::1:8080".toList ∧
      (override asciiUnicode [t.value]).map (fun ov => (ov.hosts, ov.ports)) =
        some (["2001:db8::1".toList], [("2001:db8::1".toList, 8080)]) ∧ ¬ ReadBack t := by
  have hparse : (parseTarget asciiUnicode "2001:db8::1:8080".toList).map (fun t => (t.kind, t.value)) =
      some (.ip, "2001:db8::1:8080".toList) := by decide +kernel
  obtain ⟨t, ht, heq⟩ := map_eq_some_iff.1 hparse
  rw [Prod.mk.injEq] at heq
  have hhost : t.host = .ok "2001:db8::1:8080".toList := by
    rw [Target.host, heq.1, heq.2]
    rfl
  have hread : (override asciiUnicode [t.value]).map (fun ov => (ov.hosts, ov.ports)) =
      some (["2001:db8::1".toList], [("2001:db8::1".toList, 8080)]) := by
    rw [heq.2]
    decide +kernel
  refine ⟨t, ht, heq.1, hhost, hread, ?_⟩
  rintro ⟨ov, host, hov, hhost', hh, -⟩
  rw [hov, map_some, some_inj, Prod.mk.injEq] at hread
  rw [hhost, Except.ok.injEq] at hhost'
  have hmem : "2001:db8::1".toList ∈ ov.hosts := by
    rw [hread.1]
    exact mem_cons_self
  have hsame := (hh _).1 hmem
  rw [← hhost'] at hsame
  exact absurd hsame (by decide)

end App.Scans
