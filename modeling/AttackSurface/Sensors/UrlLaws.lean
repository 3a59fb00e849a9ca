import AttackSurface.Sensors.HostLaws

/-!
# Accepted URLs

`validate_url` rebuilds a URL from its parts.  The host it puts there is one of two
forms (`AcceptedUrl.host_forms`): an IPv6 address whose scope id was in the network
location, or a plain name or IPv4 address.  Either way the rebuilt URL splits into
the same parts and is accepted unchanged:

    storedUrl parts host port is accepted as itself, with the same host   (AcceptedUrl.again)
-/

namespace AsmSensors

open PyText PyNet List Option

def portSuffix : Option Nat → Str
  | some p => ':' :: dec p
  | none => []

/-- What `validate_url` checks, in its order. -/
structure AcceptedUrl (U : Unicode) (raw : Str) (parts : SplitResult) (host : Str)
    (port : Option Nat) : Prop where
  split : urlsplit (strip raw) = some parts
  scheme : parts.scheme = "http".toList ∨ parts.scheme = "https".toList
  credentials : parts.hasCredentials = false
  host_ok : validateHost U (parts.hostname U) = .ok host
  clean : ∀ c ∈ strip raw, isSpace c = false ∧ 32 ≤ c.toNat
  port_ok : parts.port = some port

def storedUrl (parts : SplitResult) (host : Str) (port : Option Nat) : Str :=
  composeUrl parts.scheme (bracketHost host ++ portSuffix port) parts.path parts.query

variable {U : Unicode}

lemma validateUrl_ok_iff {raw v : Str} : validateUrl U raw = .ok v ↔
      ∃ parts host port, AcceptedUrl U raw parts host port ∧ v = storedUrl parts host port := by
  unfold validateUrl storedUrl
  simp only []
  constructor
  · intro h
    split at h
    · cases h
    next parts hsplit =>
    split at h
    · cases h
    next hscheme =>
    split at h
    · cases h
    next hcred =>
    split at h
    · cases h
    next host hhost =>
    split at h
    · cases h
    next hclean =>
    split at h
    · cases h
    next port hport =>
    simp only [Except.ok.injEq] at h
    refine ⟨parts, host, port, ⟨hsplit, ?_, by simpa using hcred, hhost, ?_, hport⟩, ?_⟩
    · tauto
    · intro c hc
      simp only [Bool.or_eq_true, List.any_eq_true, not_or, not_exists, not_and,
        Bool.not_eq_true, decide_eq_true_eq] at hclean
      exact ⟨hclean.1 c hc, by have := hclean.2 c hc; omega⟩
    · rw [← h]
      cases port with
      | none | some p => simp [portSuffix]
  · rintro ⟨parts, host, port, hacc, rfl⟩
    have hclean : ((strip raw).any isSpace || (strip raw).any fun c => decide (c.toNat < 32)) = false := by
      simp only [Bool.or_eq_false_iff, List.any_eq_false, Bool.not_eq_true,
        decide_eq_true_eq]
      exact ⟨fun c hc => (hacc.clean c hc).1, fun c hc => by have := (hacc.clean c hc).2; omega⟩
    rw [hacc.split]
    simp only [hacc.credentials, hacc.host_ok, hclean, hacc.port_ok]
    rw [if_neg (by have := hacc.scheme; tauto)]
    cases port with
    | none | some p => simp [portSuffix]

/-! ## The host in the network location -/

variable {c : Char}

lemma mem_hostinfo {netloc : Str} (h : c ∈ hostinfo netloc) : c ∈ netloc := by
  unfold hostinfo at h
  split at h
  · next a b hp =>
    rw [(rpartition_eq_some_iff.1 hp).1]
    simp [h]
  · exact h

lemma at_not_mem_hostinfo (netloc : Str) : '@' ∉ hostinfo netloc := by
  unfold hostinfo
  split
  · next a b hp => exact (rpartition_eq_some_iff.1 hp).2
  · next hp => exact rpartition_eq_none_iff.1 hp

/-- The host text of a network location: bracketed and without `]`, or without `:`. -/
lemma hostPort_host (netloc : Str) : (∀ c ∈ (hostPort netloc).1, c ∈ hostinfo netloc) ∧
      (']' ∉ (hostPort netloc).1 ∨ ':' ∉ (hostPort netloc).1) := by
  unfold hostPort
  split
  · next pre bracketed hp =>
    rcases hs : splitAt ']' bracketed with ⟨host, port⟩
    simp only []
    refine ⟨fun c hc => ?_, .inl (splitAt_eq hs).1⟩
    rw [(partition_eq_some_iff.1 hp).1]
    simp [mem_splitAt hs (.inl hc)]
  · rcases hs : splitAt ':' (hostinfo netloc) with ⟨host, port⟩
    exact ⟨fun c hc => mem_splitAt hs (.inl hc), .inr (splitAt_eq hs).1⟩

lemma mem_zoneOf_strip {s : Str} (h : c ∈ zoneOf (strip s)) : c ∈ zoneOf s := by
  obtain ⟨x, hx, hnx⟩ := zoneOf_suffix (s := strip s) (by intro he; rw [he] at h; cases h)
  obtain ⟨t, ht, -⟩ := rstrip_append isSpace (lstrip isSpace s)
  have hpre : s = s.takeWhile isSpace ++ lstrip isSpace s := (takeWhile_append_dropWhile).symm
  have hsp : '%' ∉ s.takeWhile isSpace := by
    intro hm
    exact absurd (mem_takeWhile_imp hm) (by decide)
  have hs : s = (s.takeWhile isSpace ++ x) ++ '%' :: (zoneOf (strip s) ++ t) := by
    conv => lhs; rw [hpre, ht, show rstrip isSpace (lstrip isSpace s) = strip s from rfl, hx]
    simp
  rw [hs, zoneOf_append (by simp [hsp, hnx])]
  exact mem_append_left _ h

lemma mem_lower_of_not_alpha {s : Str} (hc : isAscii c = true)
    (hl : c.isLower = false) (h : c ∉ s) : c ∉ U.lower s :=
  fun hm => h (U.lower_mem s c hm hc hl)

lemma zoneOf_lowerHost (U : Unicode) (h : Str) : zoneOf (lowerHost U h) = zoneOf h := by
  unfold lowerHost
  split
  · next x z hp =>
    obtain ⟨rfl, hx⟩ := partition_eq_some_iff.1 hp
    rw [zoneOf_append hx, zoneOf_append (mem_lower_of_not_alpha (by decide) (by decide) hx)]
  · next hp =>
    have hx := partition_eq_none_iff.1 hp
    rw [zoneOf_of_not_mem hx, zoneOf_of_not_mem (mem_lower_of_not_alpha (by decide) (by decide) hx)]

lemma mem_lowerHost {h : Str} (hc : isAscii c = true)
    (hl : c.isLower = false) (hm : c ∈ lowerHost U h) : c ∈ h := by
  unfold lowerHost at hm
  split at hm
  · next x z hp =>
    obtain ⟨rfl, -⟩ := partition_eq_some_iff.1 hp
    rcases mem_append.1 hm with hm | hm
    · exact mem_append_left _ (U.lower_mem x c hm hc hl)
    · exact mem_append_right _ hm
  · exact U.lower_mem h c hm hc hl

lemma mem_hostname {r : SplitResult} (hc : isAscii c = true)
    (hl : c.isLower = false) (hm : c ∈ r.hostname U) : c ∈ (hostPort r.netloc).1 := by
  unfold SplitResult.hostname at hm
  simp only [] at hm
  split at hm
  · cases hm
  · exact mem_lowerHost hc hl hm

lemma zoneOf_hostname (U : Unicode) (r : SplitResult) :
    zoneOf (r.hostname U) = zoneOf (hostPort r.netloc).1 := by
  unfold SplitResult.hostname
  simp only []
  split
  · next he => rw [he]
  · exact zoneOf_lowerHost U _

lemma mem_zoneOf {s : Str} (h : c ∈ zoneOf s) : c ∈ s := by
  unfold zoneOf at h
  exact mem_splitAt (a := (splitAt '%' s).1) rfl (.inr h)

/-! ## The host that is stored -/

lemma LineFeedName.mem {raw : Str} (h : LineFeedName U raw) : '\n' ∈ raw := by
  obtain ⟨r, he, hl⟩ := h
  have hr := mem_of_getLast? hl
  have hlabel : '\n' ∈ lastLabel (normalName U raw) := by
    unfold encodedLabel at he
    split at he
    · simp only [some.injEq] at he
      rw [he]
      exact hr
    · exact U.toASCII_lf _ _ he hr
  have hname : '\n' ∈ normalName U raw := (rtakeWhile_suffix _ _).subset hlabel
  exact mem_strip (U.lower_mem _ _ (mem_rstrip hname) (by decide) (by decide))

lemma validateHost_nil (U : Unicode) (h : Str) : validateHost U [] ≠ .ok h := by
  have hl : U.lower [] = [] := U.lower_ascii [] (by simp)
  have hn : validateHostname U [] = .error (.invalidHostname []) := by
    have hnorm : normalName U [] = [] := by
      show rstrip (· == '.') (U.lower []) = []
      rw [hl]
      rfl
    unfold validateHostname
    simp only [hnorm]
    rfl
  have he : validateHost U [] = validateHostname U [] := rfl
  rw [he, hn]
  simp

section Accepted

variable {U : Unicode} {raw : Str} {parts : SplitResult} {host : Str} {port : Option Nat}

section

variable (h : AcceptedUrl U raw parts host port)

include h

lemma AcceptedUrl.netloc_ne_nil : parts.netloc ≠ [] := by
  intro hn
  have hh : parts.hostname U = [] := by
    unfold SplitResult.hostname
    rw [hn]
    rfl
  have := h.host_ok
  rw [hh] at this
  exact validateHost_nil U host this

lemma AcceptedUrl.shape : UrlShape (strip raw) parts := urlsplit_shape h.split h.netloc_ne_nil

lemma AcceptedUrl.not_lineFeedName : ¬ LineFeedName U (parts.hostname U) := by
  intro hlf
  have hm := mem_hostname (by decide) (by decide) hlf.mem
  have hraw := h.shape.netloc_mem _ (mem_hostinfo ((hostPort_host parts.netloc).1 _ hm))
  exact absurd (h.clean _ hraw).1 (by decide)

/-- **The host of an accepted URL**: an IPv6 address whose scope id comes from the network
location, or a text of plain letters and dots. -/
theorem AcceptedUrl.host_forms : (∃ a : Address, a.version = .v6 ∧ host = a.toStr ∧
      ∀ c ∈ a.scopeId.getD [], c ∈ hostinfo parts.netloc ∧ c ≠ ']') ∨
    (host ≠ [] ∧ ∀ c ∈ host, isLabelChar c = true ∨ c = '.') := by
  obtain ⟨hmem, hbr⟩ := hostPort_host parts.netloc
  rcases validateHost_forms h.host_ok with ⟨a, ha, rfl⟩ | ⟨-, hb, -⟩ | ⟨-, b, -, -, hlf⟩
  · cases hv : a.version with
    | v4 =>
      refine .inr ⟨?_, ?_⟩
      · rw [toStr_eq]
        simp [addressBody_ne_nil]
      intro c hc
      unfold Address.toStr at hc
      rw [hv] at hc
      rcases ipv4ToString_letters hc with hc | hc
      · exact .inl (by simp [isLabelChar, hc])
      · exact .inr hc
    | v6 =>
      refine .inl ⟨a, hv, rfl, fun c hc => ?_⟩
      rw [← ipAddress_zone ha] at hc
      have hc0 : c ∈ (hostPort parts.netloc).1 := by
        have hz := mem_zoneOf_strip hc
        rw [zoneOf_hostname] at hz
        exact mem_zoneOf hz
      refine ⟨hmem c hc0, ?_⟩
      rintro rfl
      rcases hbr with hbr | hbr
      · exact hbr hc0
      -- without `:` in the network location there is none in the address
      have hcol : ':' ∉ strip (parts.hostname U) :=
        fun hm => hbr (mem_hostname (by decide) (by decide) (mem_strip hm))
      have hs := ipAddress_of_not_colon hcol ha
      exact hcol (hs ▸ colon_mem_toStr hv)
  · exact .inr ⟨hostnameBody_ne_nil hb, fun c hc => hostnameBody_letters hb hc⟩
  · exact absurd hlf h.not_lineFeedName

lemma AcceptedUrl.host_again : validateHost U host = .ok host := by
  rcases validateHost_forms h.host_ok with ⟨a, ha, rfl⟩ | ⟨-, hb, -⟩ | ⟨-, b, -, -, hlf⟩
  · exact validateHost_of_address (by rw [strip_toStr ha, ipAddress_toStr])
  · exact validateHost_of_body U hb
  · exact absurd hlf h.not_lineFeedName

end

end Accepted

/-! ## Splitting the stored URL -/

def isNetlocChar (c : Char) : Bool :=
  isLabelChar c || c == '.' || c == ':' || c == '%' || c == '[' || c == ']'

def portText : Option Nat → Str
  | some p => dec p
  | none => []

lemma isNetlocChar_of_isAddressChar (h : isAddressChar c = true) : isNetlocChar c = true := by
  simp only [isAddressChar, Bool.or_eq_true, beq_iff_eq] at h
  rcases h with (h | rfl) | rfl
  · have hl : isLabelChar c = true := by
      simp only [isLowerHex, Bool.or_eq_true, Bool.and_eq_true, decide_eq_true_eq] at h
      simp only [isLabelChar, Bool.or_eq_true]
      rcases h with h | h
      · exact .inl (.inl (.inr h))
      refine .inl (.inl (.inl ?_))
      simp only [Char.isLower, Bool.and_eq_true, decide_eq_true_eq]
      exact ⟨h.1, UInt32.le_trans h.2 (by decide)⟩
    simp [isNetlocChar, hl]
  · decide
  · decide

lemma isPlain_of_isNetlocChar (h : isNetlocChar c = true) : isPlain c = true := by
  simp only [isNetlocChar, Bool.or_eq_true, beq_iff_eq] at h
  rcases h with ((((h | rfl) | rfl) | rfl) | rfl) | rfl
  · exact isPlain_of_isLabelChar h
  all_goals decide

lemma mem_portSuffix {port : Option Nat} (h : c ∈ portSuffix port) : c = ':' ∨ c.isDigit = true := by
  cases port with
  | none => cases h
  | some p =>
    rcases mem_cons.1 h with h | h
    · exact .inl h
    · exact .inr (isDigit_of_mem_dec h)

/-- The network location `[host]:port`. -/
lemma hostPort_bracketed {host : Str} {port : Option Nat} (hc : ':' ∈ host) (hb : ']' ∉ host)
    (hat : '@' ∉ bracketHost host ++ portSuffix port) :
    hostPort (bracketHost host ++ portSuffix port) = (host, portText port) := by
  have hinfo : hostinfo (bracketHost host ++ portSuffix port) = bracketHost host ++ portSuffix port := by
    unfold hostinfo
    rw [rpartition_eq_none_iff.2 hat]
  have hN : bracketHost host ++ portSuffix port = [] ++ '[' :: (host ++ ']' :: portSuffix port) := by
    unfold bracketHost
    rw [if_pos hc]
    simp
  unfold hostPort
  rw [hinfo, hN, partition_eq_some_iff.2 ⟨rfl, by simp⟩]
  simp only [splitAt_append hb]
  cases port with
  | none => rfl
  | some p =>
    have := splitAt_append (c := ':') (a := []) (by simp) (dec p)
    simp only [nil_append] at this
    simp [portSuffix, portText, this]

/-- The network location `host:port`. -/
lemma hostPort_unbracketed {host : Str} {port : Option Nat} (hc : ':' ∉ host) (hb : '[' ∉ host)
    (hat : '@' ∉ bracketHost host ++ portSuffix port) :
    hostPort (bracketHost host ++ portSuffix port) = (host, portText port) := by
  have hinfo : hostinfo (bracketHost host ++ portSuffix port) = bracketHost host ++ portSuffix port := by
    unfold hostinfo
    rw [rpartition_eq_none_iff.2 hat]
  have hN : bracketHost host ++ portSuffix port = host ++ portSuffix port := by
    unfold bracketHost
    rw [if_neg hc]
  have hno : '[' ∉ host ++ portSuffix port := by
    intro hm
    rcases List.mem_append.1 hm with hm | hm
    · exact hb hm
    · exact absurd (mem_portSuffix hm) (by decide)
  unfold hostPort
  rw [hinfo, hN, partition_eq_none_iff.2 hno]
  simp only []
  cases port with
  | none => simp [portSuffix, portText, splitAt_of_not_mem hc]
  | some p => exact splitAt_append hc (dec p)

lemma checkBracketedHost_toStr {a : Address} (hv : a.version = .v6) : checkBracketedHost a.toStr = true := by
  unfold checkBracketedHost
  split
  · next rest hs =>
    have := toStr_head (a := a) (c := 'v') (by rw [hs]; rfl)
    exact absurd this (by decide)
  · rw [ipAddress_toStr]
    simp [hv]

lemma checkBrackets_bracketed {a : Address} (hv : a.version = .v6) (hb : ']' ∉ a.toStr)
    (port : Option Nat) : checkBrackets (bracketHost a.toStr ++ portSuffix port) = true := by
  have hN : bracketHost a.toStr ++ portSuffix port = '[' :: (a.toStr ++ ']' :: portSuffix port) := by
    unfold bracketHost
    rw [if_pos (colon_mem_toStr hv)]
    simp
  have hhost : bracketedHost ('[' :: (a.toStr ++ ']' :: portSuffix port)) = a.toStr := by
    unfold bracketedHost
    have h1 : partition '[' ('[' :: (a.toStr ++ ']' :: portSuffix port)) =
        some ([], a.toStr ++ ']' :: portSuffix port) := partition_eq_some_iff.2 ⟨rfl, by simp⟩
    have h2 : partition ']' (a.toStr ++ ']' :: portSuffix port) = some (a.toStr, portSuffix port) :=
      partition_eq_some_iff.2 ⟨rfl, hb⟩
    simp [h1, h2]
  unfold checkBrackets
  rw [hN, if_pos (by simp), hhost, checkBracketedHost_toStr hv]
  simp

section Stored

variable {U : Unicode} {raw : Str} {parts : SplitResult} {host : Str} {port : Option Nat}

section

variable (h : AcceptedUrl U raw parts host port)

include h

lemma AcceptedUrl.netloc_letters {c : Char} (hc : c ∈ bracketHost host ++ portSuffix port) :
    isNetlocChar c = true ∨ c ∈ hostinfo parts.netloc := by
  have hhost : ∀ d ∈ host, isNetlocChar d = true ∨ d ∈ hostinfo parts.netloc := by
    intro d hd
    rcases h.host_forms with ⟨a, -, rfl, hz⟩ | ⟨-, hl⟩
    · rcases toStr_letters hd with hd | rfl | hd
      · exact .inl (isNetlocChar_of_isAddressChar hd)
      · exact .inl (by decide)
      · exact .inr (hz d hd).1
    left
    rcases hl d hd with hd | rfl
    · simp [isNetlocChar, hd]
    · decide
  rcases mem_append.1 hc with hc | hc
  · unfold bracketHost at hc
    split at hc
    · simp only [cons_append, mem_cons, mem_append, not_mem_nil, or_false] at hc
      rcases hc with rfl | hc | rfl
      · exact .inl (by decide)
      · exact hhost c hc
      · exact .inl (by decide)
    · exact hhost c hc
  · left
    rcases mem_portSuffix hc with rfl | hd
    · decide
    · simp [isNetlocChar, isLabelChar, hd]

lemma AcceptedUrl.at_not_mem : '@' ∉ bracketHost host ++ portSuffix port := by
  intro hm
  rcases h.netloc_letters hm with hc | hc
  · exact absurd hc (by decide)
  · exact at_not_mem_hostinfo _ hc

lemma AcceptedUrl.hostPort_eq : hostPort (bracketHost host ++ portSuffix port) = (host, portText port) := by
  rcases h.host_forms with ⟨a, hv, rfl, hz⟩ | ⟨-, hl⟩
  · apply hostPort_bracketed (colon_mem_toStr hv) ?_ h.at_not_mem
    intro hm
    rcases toStr_letters hm with hc | hc | hc
    · exact absurd hc (by decide)
    · cases hc
    · exact (hz _ hc).2 rfl
  · apply hostPort_unbracketed ?_ ?_ h.at_not_mem
    all_goals
      intro hm
      exact absurd (hl _ hm) (by decide)

lemma AcceptedUrl.checkBrackets_eq : checkBrackets (bracketHost host ++ portSuffix port) = true := by
  rcases h.host_forms with ⟨a, hv, rfl, hz⟩ | ⟨-, hl⟩
  · apply checkBrackets_bracketed hv
    intro hm
    rcases toStr_letters hm with hc | hc | hc
    · exact absurd hc (by decide)
    · cases hc
    · exact (hz _ hc).2 rfl
  have hN : bracketHost host ++ portSuffix port = host ++ portSuffix port := by
    unfold bracketHost
    rw [if_neg fun hm => absurd (hl _ hm) (by decide)]
  have hno : ∀ c, (isLabelChar c || c == '.' || c == ':') = false → c ∉ host ++ portSuffix port := by
    intro c hc hm
    simp only [Bool.or_eq_false_iff, beq_eq_false_iff_ne] at hc
    rcases mem_append.1 hm with hm | hm
    · rcases hl c hm with hm | hm
      · rw [hc.1.1] at hm
        cases hm
      · exact hc.1.2 hm
    · rcases mem_portSuffix hm with hm | hm
      · exact hc.2 hm
      · simp [isLabelChar, hm] at hc
  unfold checkBrackets
  rw [hN, if_neg (hno '[' (by decide))]
  simpa using hno ']' (by decide)

lemma lowerHost_stored : lowerHost U host = host := by
  rcases h.host_forms with ⟨a, hv, rfl, hz⟩ | ⟨-, hl⟩
  · have hbody : ∀ c ∈ addressBody a, isAddressChar c = true := fun c hc => addressBody_letters hc
    have hpct : '%' ∉ addressBody a := fun hm => absurd (hbody _ hm) (by decide)
    have hlow : U.lower (addressBody a) = addressBody a :=
      lower_of_isPlain U fun c hc => isPlain_of_isAddressChar (hbody c hc)
    rw [toStr_eq]
    unfold lowerHost
    cases hsc : a.scopeId with
    | none =>
      simp only [zoneSuffix, append_nil]
      rw [partition_eq_none_iff.2 hpct, hlow]
    | some z =>
      rw [zoneSuffix, partition_eq_some_iff.2 ⟨rfl, hpct⟩]
      simp [hlow]
  · have hpct : '%' ∉ host := fun hm => absurd (hl _ hm) (by decide)
    unfold lowerHost
    rw [partition_eq_none_iff.2 hpct]
    apply lower_of_isPlain
    intro c hc
    rcases hl c hc with hc | rfl
    · exact isPlain_of_isLabelChar hc
    · decide

lemma AcceptedUrl.host_ne_nil : host ≠ [] := by
  rcases h.host_forms with ⟨a, -, rfl, -⟩ | ⟨hne, -⟩
  · rw [toStr_eq]
    simp [addressBody_ne_nil]
  · exact hne

lemma AcceptedUrl.port_le : ∀ p ∈ port, p ≤ 65535 := by
  intro p hp
  have hport := h.port_ok
  unfold SplitResult.port at hport
  simp only [] at hport
  split at hport
  · simp only [some.injEq] at hport
    rw [← hport] at hp
    cases hp
  split at hport
  · next hd =>
    simp only [some.injEq] at hport
    rw [← hport, mem_some_iff] at hp
    simp only [Bool.and_eq_true, decide_eq_true_eq] at hd
    omega
  · cases hport

lemma AcceptedUrl.stored_letters {c : Char}
    (hc : c ∈ storedUrl parts host port) : isSpace c = false ∧ 32 ≤ c.toNat := by
  have hplain : ∀ d, isPlain d = true → isSpace d = false ∧ 32 ≤ d.toNat := by
    intro d hd
    have := isPlain_iff.1 hd
    exact ⟨isPlain_not_isSpace hd, by omega⟩
  have hscheme : ∀ d ∈ parts.scheme ++ "://".toList, isPlain d = true := by
    rw [← List.all_eq_true]
    rcases h.scheme with hs | hs <;> rw [hs] <;> decide
  unfold storedUrl composeUrl at hc
  simp only [mem_append] at hc
  rcases hc with (((hc | hc) | hc) | hc) | hc
  · exact hplain c (hscheme c (mem_append_left _ hc))
  · exact hplain c (hscheme c (mem_append_right _ hc))
  · rcases h.netloc_letters (mem_append.2 hc) with hc | hc
    · exact hplain c (isPlain_of_isNetlocChar hc)
    · exact h.clean c (h.shape.netloc_mem c (mem_hostinfo hc))
  · exact h.clean c (h.shape.path_mem c hc)
  split at hc
  · cases hc
  rcases mem_cons.1 hc with rfl | hc
  · decide
  · exact h.clean c (h.shape.query_mem c hc)

/-- **The stored URL splits into the parts it was made of.** -/
theorem AcceptedUrl.urlsplit_stored : urlsplit (storedUrl parts host port) =
      some ⟨parts.scheme, bracketHost host ++ portSuffix port, parts.path, parts.query, []⟩ := by
  have hsh := h.shape
  apply urlsplit_compose h.scheme ?_ ?_ h.checkBrackets_eq ?_ hsh.path_head hsh.path_query
    hsh.path_fragment hsh.query_fragment
  · intro c hc
    have hsp := (h.stored_letters hc).1
    by_contra hu
    rw [Bool.not_eq_false] at hu
    simp only [isUnsafeUrlByte, Bool.or_eq_true, beq_iff_eq] at hu
    rcases hu with (rfl | rfl) | rfl <;> exact absurd hsp (by decide)
  · intro c hc
    rcases h.netloc_letters hc with hc | hc
    · by_contra hd
      simp only [isNetlocDelim, Bool.not_eq_false, Bool.or_eq_true, beq_iff_eq] at hd
      rcases hd with (rfl | rfl) | rfl <;> exact absurd hc (by decide)
    · exact hsh.netloc_delim c (mem_hostinfo hc)
  · unfold checkNetloc
    rw [List.all_eq_true]
    intro c hc
    rcases h.netloc_letters hc with hc | hc
    · have hb := (isPlain_iff.1 (isPlain_of_isNetlocChar hc)).2.1
      simp only [decide_eq_true_eq]
      intro hm
      have hall : ∀ n ∈ nfkcDelims, 126 < n := by decide
      have := hall _ hm
      omega
    · exact List.all_eq_true.1 hsh.netloc_nfkc c (mem_hostinfo hc)

/-- **A stored URL is accepted unchanged, with the same host.** -/
theorem AcceptedUrl.again : ∃ parts', AcceptedUrl U (storedUrl parts host port) parts' host port ∧
      storedUrl parts' host port = storedUrl parts host port ∧ parts'.hostname U = host := by
  have hstrip : strip (storedUrl parts host port) = storedUrl parts host port :=
    strip_of_not_isSpace fun c hc => (h.stored_letters hc).1
  have hname : SplitResult.hostname U
      ⟨parts.scheme, bracketHost host ++ portSuffix port, parts.path, parts.query, []⟩ = host := by
    unfold SplitResult.hostname
    simp only [h.hostPort_eq]
    rw [if_neg h.host_ne_nil, lowerHost_stored h]
  refine ⟨⟨parts.scheme, bracketHost host ++ portSuffix port, parts.path, parts.query, []⟩,
    ⟨?_, h.scheme, ?_, ?_, ?_, ?_⟩, rfl, hname⟩
  · rw [hstrip, h.urlsplit_stored]
  · unfold SplitResult.hasCredentials
    rw [rpartition_eq_none_iff.2 h.at_not_mem]
  · rw [hname]
    exact h.host_again
  · rw [hstrip]
    exact fun c hc => h.stored_letters hc
  unfold SplitResult.port
  simp only [h.hostPort_eq]
  cases hp : port with
  | none => rfl
  | some p =>
    have hle := h.port_le p hp
    simp [portText, hle]

end

end Stored

end AsmSensors
