import AttackSurface.Sensors.TargetLaws

/-!
# The host a target was made for

The builder makes targets from texts it has in hand: a stored URL, a name and a port.
A target is stored in normal form, so its host need not be the text it was made from;
it is that text after the validators (`SameHost`):

    Target(url) is accepted → its host is a normal form of urlsplit(url).hostname     (url_sameHost)
    Target(format_host_port(x, p)) is accepted → its host is a normal form of x  (hostPort_sameHost)

For URLs the point is that `urlsplit` sees the text before `strip` does: blanks after
the host stay in its `hostname`.
-/

namespace AsmSensors

open PyText PyNet List Bool

/-- One of the host validators accepts `a` as `b`, or `a` is the address `b` in brackets. -/
def HostForm (U : Unicode) (a b : Str) : Prop := validateIp a = .ok b ∨ validateHostname U a = .ok b ∨
    ∃ y, strip a = '[' :: (y ++ [']']) ∧ validateIp y = .ok b

/-- `h` is `x`, or `x` after one or more of the host validators. -/
def SameHost (U : Unicode) (x h : Str) : Prop := Relation.ReflTransGen (HostForm U) x h

variable {U : Unicode} {w : Str} {s : Str} {t : Target U}

lemma HostForm.of_validateHost {x h : Str} (hok : validateHost U x = .ok h) : HostForm U x h := by
  rcases validateHost_ok hok with ⟨a, ha, rfl⟩ | ⟨-, hv⟩
  · exact .inl (validateIp_ok_iff.2 ⟨a, ha, rfl⟩)
  · exact .inr (.inl hv)

lemma HostForm.sameHost {x h : Str} (hf : HostForm U x h) : SameHost U x h := Relation.ReflTransGen.single hf

/-! ## Blanks at the end -/

lemma strip_append_blank (s : Str) (hw : ∀ c ∈ w, isSpace c = true) : strip (s ++ w) = strip s := by
  unfold strip lstrip
  rw [dropWhile_append]
  split
  · next he =>
    rw [List.isEmpty_iff] at he
    rw [he, dropWhile_eq_nil_iff.2 hw]
  · exact rstrip_append_of_all _ hw

/-- `validate_hostname` looks at the normal name only. -/
lemma validateHostname_congr {a b v : Str} (hn : normalName U a = normalName U b)
    (hok : validateHostname U a = .ok v) : validateHostname U b = .ok v := by
  unfold validateHostname at hok ⊢
  simp only [hn] at hok ⊢
  split at hok
  · cases hok
  next hstar =>
  split at hok
  · cases hok
  split at hok
  · next hre =>
    rw [if_neg hstar, if_pos hre]
    exact hok
  · cases hok

lemma validateHost_congr {a b h : Str} (hs : strip a = strip b)
    (hok : validateHost U a = .ok h) : validateHost U b = .ok h := by
  rcases validateHost_ok hok with ⟨x, hx, rfl⟩ | ⟨hn, hv⟩
  · exact validateHost_of_address (by rw [← hs, hx])
  have hip : validateIp b = .error (.invalidIp b) := validateIp_error_iff.2 (by rw [← hs, hn])
  unfold validateHost
  rw [hip]
  exact validateHostname_congr (by unfold normalName; rw [hs]) hv

lemma splitAt_append_blank {c : Char} (s : Str) (hc : c ∉ w) :
    splitAt c (s ++ w) = if c ∈ s then ((splitAt c s).1, (splitAt c s).2 ++ w) else (s ++ w, []) := by
  split
  · next hm =>
    rcases hs : splitAt c s with ⟨a, b⟩
    obtain ⟨ha, ⟨rfl, rfl⟩ | rfl⟩ := splitAt_eq hs
    · exact absurd hm ha
    · rw [append_assoc, cons_append, splitAt_append ha]
  · next hm => exact splitAt_of_not_mem (by simp [hm, hc])

lemma hostinfo_append_blank (n : Str) (hw : '@' ∉ w) : hostinfo (n ++ w) = hostinfo n ++ w := by
  unfold hostinfo
  cases hp : rpartition '@' n with
  | none => rw [rpartition_eq_none_iff.2 (by simp [rpartition_eq_none_iff.1 hp, hw])]
  | some r =>
    obtain ⟨a, b⟩ := r
    obtain ⟨rfl, hb⟩ := rpartition_eq_some_iff.1 hp
    have hcut : rpartition '@' ((a ++ '@' :: b) ++ w) = some (a, b ++ w) :=
      rpartition_eq_some_iff.2 ⟨by simp, by simp [hb, hw]⟩
    rw [hcut]

lemma hostPort_append_blank (n : Str) (hw : ∀ c ∈ w, isSpace c = true) :
    (hostPort (n ++ w)).1 = (hostPort n).1 ∨ (hostPort (n ++ w)).1 = (hostPort n).1 ++ w := by
  have hnot : ∀ c, isSpace c = false → c ∉ w := by
    intro c hc hm
    rw [hw c hm] at hc
    cases hc
  unfold hostPort
  rw [hostinfo_append_blank n (hnot '@' (by decide))]
  cases hp : partition '[' (hostinfo n) with
  | none =>
    rw [partition_eq_none_iff.2 (by simp [partition_eq_none_iff.1 hp, hnot '[' (by decide)])]
    simp only []
    rw [splitAt_append_blank _ (hnot ':' (by decide))]
    split
    · exact .inl rfl
    · next hm => exact .inr (by rw [splitAt_of_not_mem hm])
  | some r =>
    obtain ⟨a, b⟩ := r
    obtain ⟨he, ha⟩ := partition_eq_some_iff.1 hp
    have hcut : partition '[' (hostinfo n ++ w) = some (a, b ++ w) :=
      partition_eq_some_iff.2 ⟨by rw [he]; simp, ha⟩
    rw [hcut]
    simp only []
    rw [splitAt_append_blank _ (hnot ']' (by decide))]
    split
    · exact .inl rfl
    · next hm => exact .inr (by rw [splitAt_of_not_mem hm])

lemma lowerHost_append_blank (U : Unicode) (h : Str) (hw : ∀ c ∈ w, isSpace c = true) :
    lowerHost U (h ++ w) = lowerHost U h ++ w := by
  have hpct : '%' ∉ w := by
    intro hm
    exact absurd (hw _ hm) (by decide)
  unfold lowerHost
  cases hp : partition '%' h with
  | none =>
    rw [partition_eq_none_iff.2 (by simp [partition_eq_none_iff.1 hp, hpct])]
    exact U.lower_blank h w hw
  | some r =>
    obtain ⟨a, b⟩ := r
    obtain ⟨rfl, ha⟩ := partition_eq_some_iff.1 hp
    have hcut : partition '%' ((a ++ '%' :: b) ++ w) = some (a, b ++ w) :=
      partition_eq_some_iff.2 ⟨by simp, ha⟩
    rw [hcut]
    simp

/-! ## URLs -/

/-- The text that `urlsplit` cuts into parts. -/
def urlText (url : Str) : Str := (lstrip isC0OrSpace url).filter (!isUnsafeUrlByte ·)

lemma urlsplit_netloc {url : Str} {r : SplitResult} (h : urlsplit url = some r) :
    r.scheme = (splitScheme (urlText url)).1 ∧ r.netloc = (splitNetloc (splitScheme (urlText url)).2).1 := by
  unfold urlsplit at h
  simp only [] at h
  split_ifs at h
  simp only [Option.some.injEq] at h
  rw [← h]
  exact ⟨rfl, rfl⟩

lemma splitScheme_append_blank (s : Str) (hw : ':' ∉ w) :
    splitScheme (s ++ w) = ((splitScheme s).1, (splitScheme s).2 ++ w) := by
  unfold splitScheme
  cases hp : partition ':' s with
  | none => rw [partition_eq_none_iff.2 (by simp [partition_eq_none_iff.1 hp, hw])]
  | some r =>
    obtain ⟨a, b⟩ := r
    obtain ⟨rfl, ha⟩ := partition_eq_some_iff.1 hp
    have hcut : partition ':' ((a ++ ':' :: b) ++ w) = some (a, b ++ w) :=
      partition_eq_some_iff.2 ⟨by simp, ha⟩
    rw [hcut]
    simp only []
    split <;> rfl

lemma splitNetloc_append_blank {s w : Str} (hne : (splitNetloc s).1 ≠ [])
    (hw : ∀ c ∈ w, isNetlocDelim c = false) :
    (splitNetloc (s ++ w)).1 = (splitNetloc s).1 ∨ (splitNetloc (s ++ w)).1 = (splitNetloc s).1 ++ w := by
  unfold splitNetloc at hne
  split at hne
  · next rest =>
    show (rest ++ w).takeWhile _ = rest.takeWhile _ ∨ (rest ++ w).takeWhile _ = rest.takeWhile _ ++ w
    rw [takeWhile_append]
    split
    · next hall =>
      have hrest : rest.takeWhile (!isNetlocDelim ·) = rest := (List.takeWhile_prefix _).eq_of_length hall
      have hblank : w.takeWhile (!isNetlocDelim ·) = w := by
        rw [takeWhile_eq_self_iff]
        intro c hc
        rw [hw c hc]
        rfl
      exact .inr (by rw [hrest, hblank])
    · exact .inl rfl
  · exact absurd rfl hne

lemma splitNetloc_of_blank {c : Char} (hc : isSpace c = true) (hgt : 32 < c.toNat) :
    (splitNetloc (splitScheme (c :: s)).2).1 = [] := by
  have hsp := hc
  simp only [isSpace, or_eq_true, and_eq_true, decide_eq_true_eq, beq_iff_eq] at hsp
  have halpha : c.isAlpha = false := by
    simp only [Char.isAlpha, Char.isUpper, Char.isLower, or_eq_false_iff,
      and_eq_false_iff, decide_eq_false_iff_not, UInt32.le_iff_toNat_le]
    have h1 : c.val.toNat = c.toNat := rfl
    simp only [h1]
    constructor <;> simp <;> omega
  have hslash : c ≠ '/' := by
    rintro rfl
    exact absurd hc (by decide)
  have hkeep : (splitScheme (c :: s)).2 = c :: s := by
    unfold splitScheme
    split
    · next pre rest hp =>
      obtain ⟨he, -⟩ := partition_eq_some_iff.1 hp
      cases pre with
      | nil =>
        simp only [nil_append, cons.injEq] at he
        rw [if_neg (by simp)]
      | cons d pre =>
        simp only [cons_append, cons.injEq] at he
        rw [if_neg (by simp [← he.1, halpha])]
    · rfl
  rw [hkeep]
  unfold splitNetloc
  split
  · next rest he =>
    simp only [cons.injEq] at he
    exact absurd he.1 hslash
  · rfl

lemma urlText_clean {v w : Str} (hv : ∀ c ∈ v, isSpace c = false ∧ 32 ≤ c.toNat) (hne : v ≠ []) :
    urlText (v ++ w) = v ++ w.filter (!isUnsafeUrlByte ·) := by
  have hgt : ∀ c ∈ v, 32 < c.toNat := by
    intro c hc
    obtain ⟨h1, h2⟩ := hv c hc
    have hsp : c.toNat ≠ 32 := by
      intro he
      simp [isSpace, he] at h1
    omega
  have hlead : lstrip isC0OrSpace (v ++ w) = v ++ w := by
    apply lstrip_eq_self
    intro c hc
    rw [head?_append_of_ne_nil _ hne] at hc
    have := hgt c (mem_of_mem_head? hc)
    simp [isC0OrSpace]
    omega
  have hkeep : v.filter (!isUnsafeUrlByte ·) = v := by
    rw [filter_eq_self]
    intro c hc
    have h32 := hgt c hc
    have hu : isUnsafeUrlByte c = false := by
      simp only [isUnsafeUrlByte, or_eq_false_iff, beq_eq_false_iff_ne]
      refine ⟨⟨?_, ?_⟩, ?_⟩ <;> rintro rfl <;> exact absurd h32 (by decide)
    rw [hu]
    rfl
  unfold urlText
  rw [hlead, filter_append, hkeep]

/-- `urlsplit` before and after `strip`: the network location may keep blanks at its end. -/
lemma urlsplit_strip {u parts : SplitResult} (hu : urlsplit s = some u)
    (hp : urlsplit (strip s) = some parts) (hun : u.netloc ≠ []) (hpn : parts.netloc ≠ [])
    (hclean : ∀ c ∈ strip s, isSpace c = false ∧ 32 ≤ c.toNat) :
    ∃ w, (∀ c ∈ w, isSpace c = true) ∧ u.netloc = parts.netloc ++ w := by
  obtain ⟨w, hw, hblank⟩ := rstrip_append isSpace (lstrip isSpace s)
  have hpre : s = s.takeWhile isSpace ++ (strip s ++ w) := by
    conv => lhs; rw [← takeWhile_append_dropWhile (p := isSpace) (l := s)]
    rw [show s.dropWhile isSpace = strip s ++ w from hw]
  have hne : strip s ≠ [] := by
    intro he
    rw [he] at hp
    have hnil : urlsplit [] = some ⟨[], [], [], [], []⟩ := by decide
    rw [hnil, Option.some.injEq] at hp
    exact hpn (by rw [← hp])
  -- blanks outside ASCII before the URL hide its scheme
  have hlead : urlText s = urlText (strip s ++ w) := by
    unfold urlText
    conv => lhs; rw [hpre]
    unfold lstrip
    rw [dropWhile_append]
    split
    · rfl
    next hrest =>
    exfalso
    rw [List.isEmpty_iff] at hrest
    obtain ⟨c, rest, hcr⟩ := exists_cons_of_ne_nil hrest
    have hc : isSpace c = true := by
      have hm : c ∈ (s.takeWhile isSpace).dropWhile isC0OrSpace := by rw [hcr]; simp
      exact mem_takeWhile_imp ((dropWhile_suffix _).subset hm)
    have hgt : 32 < c.toNat := by
      have hh := lstrip_head (p := isC0OrSpace) (s := s.takeWhile isSpace) (c := c)
        (by unfold lstrip; rw [hcr]; rfl)
      simp [isC0OrSpace] at hh
      omega
    have hun' : isUnsafeUrlByte c = false := by
      simp only [isUnsafeUrlByte, or_eq_false_iff, beq_eq_false_iff_ne]
      refine ⟨⟨?_, ?_⟩, ?_⟩ <;> rintro rfl <;> exact absurd hgt (by decide)
    apply hun
    rw [(urlsplit_netloc hu).2]
    have htext : urlText s = c :: (rest ++ (strip s ++ w)).filter (!isUnsafeUrlByte ·) := by
      unfold urlText lstrip
      conv => lhs; rw [hpre]
      rw [dropWhile_append, hcr]
      simp [hun']
    rw [htext]
    exact splitNetloc_of_blank hc hgt
  have hblank' : ∀ c ∈ w.filter (!isUnsafeUrlByte ·), isSpace c = true :=
    fun c hc => hblank c (mem_of_mem_filter hc)
  have hcolon : ':' ∉ w.filter (!isUnsafeUrlByte ·) := by
    intro hm
    exact absurd (hblank' _ hm) (by decide)
  have hdelim : ∀ c ∈ w.filter (!isUnsafeUrlByte ·), isNetlocDelim c = false := by
    intro c hc
    have hsp := hblank' c hc
    simp only [isNetlocDelim, or_eq_false_iff, beq_eq_false_iff_ne]
    refine ⟨⟨?_, ?_⟩, ?_⟩ <;> rintro rfl <;> exact absurd hsp (by decide)
  have hpt : urlText (strip s) = strip s := by
    have := urlText_clean (w := []) hclean hne
    simpa using this
  have hpnet := (urlsplit_netloc hp).2
  rw [hpt] at hpnet
  have hunet := (urlsplit_netloc hu).2
  rw [hlead, urlText_clean hclean hne, splitScheme_append_blank _ hcolon] at hunet
  rcases splitNetloc_append_blank (hpnet ▸ hpn) hdelim with he | he
  · exact ⟨[], by simp, by rw [hunet, he, hpnet, append_nil]⟩
  · exact ⟨_, hblank', by rw [hunet, he, hpnet]⟩

/-- **The host of an accepted URL is a normal form of the `hostname` that `urlsplit` gives.** -/
theorem url_sameHost {u : SplitResult}
    (hmake : Target.make U .url s = .ok t) (hu : urlsplit s = some u) (hne : u.hostname U ≠ []) :
    ∃ h, t.host = .ok h ∧ SameHost U (u.hostname U) h := by
  obtain ⟨hkind, hval⟩ := Target.make_ok_iff.1 hmake
  have hv : validateUrl U s = .ok t.value := (validateTarget_ok_iff.1 hval).1
  obtain ⟨parts, host, port, hacc, hstored⟩ := validateUrl_ok_iff.1 hv
  have hhost : t.host = .ok host := by
    obtain ⟨parts', hacc', he, hname⟩ := hacc.again
    unfold Target.host hostOf
    rw [hkind, hstored]
    have hsplit := hacc'.split
    rw [strip_of_not_isSpace fun c hc => (hacc.stored_letters hc).1] at hsplit
    simp [hsplit, hname]
  have hun : u.netloc ≠ [] := by
    intro he
    apply hne
    unfold SplitResult.hostname
    rw [he]
    rfl
  obtain ⟨w, hw, hnet⟩ := urlsplit_strip hu hacc.split hun hacc.netloc_ne_nil hacc.clean
  have hform : ∃ w', (∀ c ∈ w', isSpace c = true) ∧ u.hostname U = parts.hostname U ++ w' := by
    have hparts : (hostPort parts.netloc).1 ≠ [] := by
      intro he
      have hh := hacc.host_ok
      unfold SplitResult.hostname at hh
      simp only [he, if_true] at hh
      exact validateHost_nil U host hh
    unfold SplitResult.hostname
    rw [hnet]
    simp only [if_neg hparts]
    rcases hostPort_append_blank parts.netloc hw with he | he
    · exact ⟨[], by simp, by rw [he, if_neg hparts, append_nil]⟩
    · exact ⟨w, hw, by rw [he, if_neg (by simp [hparts]), lowerHost_append_blank U _ hw]⟩
  obtain ⟨w', hw', he⟩ := hform
  refine ⟨host, hhost, ?_⟩
  rw [he]
  exact (HostForm.of_validateHost (validateHost_congr (strip_append_blank _ hw').symm hacc.host_ok)).sameHost

/-! ## Addresses, names, host and port -/

lemma ip_sameHost (hmake : Target.make U .ip s = .ok t) : ∃ h, t.host = .ok h ∧ SameHost U s h := by
  obtain ⟨hkind, hval⟩ := Target.make_ok_iff.1 hmake
  have hv : validateIp s = .ok t.value := (validateTarget_ok_iff.1 hval).1
  exact ⟨t.value, by unfold Target.host hostOf; rw [hkind], HostForm.sameHost (.inl hv)⟩

lemma hostname_sameHost (hmake : Target.make U .hostname s = .ok t) : ∃ h, t.host = .ok h ∧ SameHost U s h := by
  obtain ⟨hkind, hval⟩ := Target.make_ok_iff.1 hmake
  have hv : validateHostname U s = .ok t.value := (validateTarget_ok_iff.1 hval).1
  exact ⟨t.value, by unfold Target.host hostOf; rw [hkind], HostForm.sameHost (.inr (.inl hv))⟩

lemma strip_lstrip (s : Str) : strip (lstrip isSpace s) = strip s := by
  unfold strip
  rw [lstrip_eq_self fun c hc => lstrip_head hc]

lemma lstrip_append_stop {p : Char → Bool} (s : Str) {c : Char} {t : Str} (hc : p c = false) :
    lstrip p (s ++ c :: t) = lstrip p s ++ c :: t := by
  unfold lstrip
  rw [dropWhile_append]
  split
  · next he =>
    rw [List.isEmpty_iff] at he
    simp [he, hc]
  · rfl

lemma not_bracket_of_not_colon (h : ':' ∉ s) : ¬ "]:".toList <:+: s :=
  fun hin => h (hin.subset (by simp))

lemma hostText_format {x : Str} {p : Nat} {r : Str × Nat} (hok : splitHostPort U (formatHostPort x p) = .ok r) :
    ¬ "]:".toList <:+: hostText (formatHostPort x p) ∧ HostForm U x r.1 := by
  by_cases hc : ':' ∈ x
  · have hno : ¬ "]:".toList <:+: x := fun hin => splitHostPort_format_cut hc hin r hok
    have hstrip := strip_format_bracket (p := p) hc
    rw [hostText_bracket hstrip, partitionStr_format hno]
    rw [splitHostPort_bracket hstrip, partitionStr_format hno] at hok
    exact ⟨hno, .inl hok.1⟩
  have hraw : formatHostPort x p = x ++ ':' :: dec p := by
    unfold formatHostPort bracketHost
    rw [if_neg hc]
  have hcy : ':' ∉ lstrip isSpace x := fun hm => hc (mem_lstrip hm)
  have hstrip : strip (formatHostPort x p) = lstrip isSpace x ++ ':' :: dec p := by
    rw [hraw]
    unfold strip
    rw [lstrip_append_stop x (by decide)]
    apply rstrip_eq_self
    intro c hl
    rw [show lstrip isSpace x ++ ':' :: dec p = (lstrip isSpace x ++ [':']) ++ dec p by simp,
      List.getLast?_append_of_ne_nil _ (dec_ne_nil p)] at hl
    exact not_isSpace_of_isDigit (isDigit_of_mem_dec (List.mem_of_getLast? hl))
  by_cases hb : ∃ rest, strip (formatHostPort x p) = '[' :: rest
  · -- an IPv4 address that was bracketed already
    obtain ⟨rest, hb⟩ := hb
    obtain ⟨hip, hport⟩ := (splitHostPort_bracket hb).1 hok
    cases hq : partitionStr "]:".toList rest with
    | none =>
      rw [hq] at hport
      have hnil : validatePort [] = .error (.invalidPort []) := rfl
      rw [show (none.getD (rest, ([] : Str))).2 = [] from rfl, hnil] at hport
      cases hport
    | some q =>
      obtain ⟨y, d⟩ := q
      rw [hq] at hip hport
      have hd : ':' ∉ d := by
        intro hm
        exact absurd (validatePort_letters hport hm) (by decide)
      have hrest : strip (formatHostPort x p) = ('[' :: (y ++ [']'])) ++ ':' :: d := by
        rw [hb, partitionStr_spec hq]
        simp
      have e1 := rpartition_eq_some_iff.2 ⟨hrest, hd⟩
      have e2 := rpartition_eq_some_iff.2 ⟨hstrip, not_mem_dec (by decide)⟩
      rw [e2, Option.some.injEq, Prod.mk.injEq] at e1
      have hy : ':' ∉ y := by
        intro hm
        rw [e1.1] at hcy
        exact hcy (by simp [hm])
      rw [hostText_bracket hb, hq]
      refine ⟨not_bracket_of_not_colon hy, .inr (.inr ⟨y, ?_, hip⟩)⟩
      unfold strip
      rw [e1.1]
      apply rstrip_eq_self
      intro c hl
      rw [show '[' :: (y ++ [']']) = ('[' :: y) ++ [']'] by simp, List.getLast?_concat,
        Option.some.injEq] at hl
      rw [← hl]
      decide
  · push Not at hb
    obtain ⟨q, hq, hhost, -⟩ := (splitHostPort_plain hb).1 hok
    have hcut : rpartition ':' (strip (formatHostPort x p)) = some (lstrip isSpace x, dec p) := by
      rw [hstrip]
      exact rpartition_eq_some_iff.2 ⟨rfl, not_mem_dec (by decide)⟩
    rw [hcut, Option.some.injEq] at hq
    rw [hostText_plain hb, hcut]
    refine ⟨not_bracket_of_not_colon hcy, HostForm.of_validateHost ?_⟩
    exact validateHost_congr (strip_lstrip x) (by rw [← hq] at hhost; exact hhost)

/-- The host of a stored `host:port` text. -/
lemma hostOf_format {raw : Str} {r : Str × Nat} (hok : splitHostPort U raw = .ok r)
    (hno : ¬ "]:".toList <:+: hostText raw) :
    ∃ h, hostOf U .hostPort (formatHostPort r.1 r.2) = .ok h ∧ SameHost U r.1 h := by
  have hstable : HostStable U (hostText raw) →
      ∃ h, hostOf U .hostPort (formatHostPort r.1 r.2) = .ok h ∧ SameHost U r.1 h := by
    intro hst
    refine ⟨r.1, ?_, Relation.ReflTransGen.refl⟩
    simp [hostOf, (splitHostPort_format hok).1 hst]
  obtain ⟨hhost, h1, h2⟩ := splitHostPort_ok hok
  rcases validateHost_forms hhost with ⟨a, ha, -⟩ | ⟨hn, -, hlf⟩ | ⟨hn, b, hh, hb, -⟩
  · apply hstable
    unfold HostStable
    rw [ha]
    intro hin
    refine hno (hin.trans ?_)
    have hzone : zoneOf (strip (hostText raw)) <:+: strip (hostText raw) := by
      by_cases hz : zoneOf (strip (hostText raw)) = []
      · rw [hz]
        exact List.nil_infix
      · obtain ⟨y, hy, -⟩ := zoneOf_suffix hz
        exact ⟨y ++ ['%'], [], by rw [List.append_assoc, List.append_assoc]; simpa using hy.symm⟩
    exact hzone.trans ((List.rdropWhile_prefix _ _).isInfix.trans (List.dropWhile_suffix _).isInfix)
  · apply hstable
    unfold HostStable
    rw [hn]
    exact hlf
  · -- the line feed goes when the text is split again
    have hc : ':' ∉ r.1 := by
      rw [hh]
      simp [hostnameBody_not_mem hb (c := ':') (by decide) (by decide)]
    have hhead : ∀ c, r.1.head? = some c → isSpace c = false ∧ c ≠ '[' := by
      intro c hc
      rw [hh, head?_append_of_ne_nil _ (hostnameBody_ne_nil hb)] at hc
      exact hostnameBody_head_ok hb hc
    have hsplit : splitHostPort U (formatHostPort r.1 r.2) = .ok (b, r.2) := by
      rw [splitHostPort_format_plain hc (by rw [hh]; simp) hhead h1 h2, hh]
      exact ⟨validateHost_lf U hb, rfl⟩
    refine ⟨b, ?_, HostForm.sameHost (.inr (.inl (by rw [hh]; exact validateHostname_lf U hb)))⟩
    simp [hostOf, hsplit]

/-- **The host of an accepted `host:port` is a normal form of the host that was joined.** -/
theorem hostPort_sameHost {x : Str} {p : Nat} (hmake : Target.make U .hostPort (formatHostPort x p) = .ok t) :
    ∃ h, t.host = .ok h ∧ SameHost U x h := by
  obtain ⟨hkind, hval⟩ := Target.make_ok_iff.1 hmake
  obtain ⟨r, hok, hv⟩ := hostPort_ok_iff.1 (validateTarget_ok_iff.1 hval).1
  obtain ⟨hno, hform⟩ := hostText_format hok
  obtain ⟨h, hh, hsame⟩ := hostOf_format hok hno
  exact ⟨h, by unfold Target.host; rw [hkind, hv, hh], Relation.ReflTransGen.head hform hsame⟩

end AsmSensors
