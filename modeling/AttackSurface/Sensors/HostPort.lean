import AttackSurface.Sensors.HostLaws

/-!
# `host:port` texts

`split_host_port` and `format_host_port`.  Joining what was split and splitting again
gives the same pair exactly for a `HostStable` host (`splitHostPort_format`): a name loses
the line feed of a `LineFeedName`, and an IPv6 scope id that holds `]:` is cut there.
-/

namespace AsmSensors

open PyText PyNet

/-- The host part of a `host:port` text. -/
def hostText (raw : Str) : Str :=
  match strip raw with
  | '[' :: rest => ((partitionStr "]:".toList rest).getD (rest, [])).1
  | v => ((rpartition ':' v).getD (v, [])).1

/-- A host that is read back from `host:port`. -/
def HostStable (U : Unicode) (text : Str) : Prop :=
  match ipAddress (strip text) with
  | some _ => ¬ "]:".toList <:+: zoneOf (strip text)
  | none => ¬ LineFeedName U text

/-! ## Splitting -/

lemma hostText_bracket {raw rest : Str} (h : strip raw = '[' :: rest) :
    hostText raw = ((partitionStr "]:".toList rest).getD (rest, [])).1 := by
  unfold hostText
  rw [h]
  rfl

variable {raw : Str} {U : Unicode} {r : Str × Nat} {h : Str} {p : Nat}

lemma hostText_plain (h : ∀ rest, strip raw ≠ '[' :: rest) :
    hostText raw = ((rpartition ':' (strip raw)).getD (strip raw, [])).1 := by
  unfold hostText
  split
  · next rest hs => exact absurd hs (h rest)
  · rfl

lemma splitHostPort_bracket {raw rest : Str} (hs : strip raw = '[' :: rest) :
    splitHostPort U raw = .ok r ↔ validateIp ((partitionStr "]:".toList rest).getD (rest, [])).1 = .ok r.1 ∧
      validatePort ((partitionStr "]:".toList rest).getD (rest, [])).2 = .ok r.2 := by
  obtain ⟨h, p⟩ := r
  unfold splitHostPort
  rw [hs]
  simp only []
  generalize (partitionStr "]:".toList rest).getD (rest, []) = q
  cases validateIp q.1 with
  | error e => simp
  | ok h' =>
    cases validatePort q.2 with
    | error e => simp
    | ok p' => simp

lemma splitHostPort_plain (hs : ∀ rest, strip raw ≠ '[' :: rest) :
    splitHostPort U raw = .ok r ↔ ∃ q, rpartition ':' (strip raw) = some q ∧
        validateHost U q.1 = .ok r.1 ∧ validatePort q.2 = .ok r.2 := by
  obtain ⟨h, p⟩ := r
  unfold splitHostPort
  split
  · next rest he => exact absurd he (hs rest)
  cases rpartition ':' (strip raw) with
  | none => simp
  | some q =>
    simp only [Option.some.injEq, exists_eq_left']
    cases validateHost U q.1 with
    | error e => simp
    | ok h' =>
      cases validatePort q.2 with
      | error e => simp
      | ok p' => simp

lemma splitHostPort_ok (hok : splitHostPort U raw = .ok r) :
    validateHost U (hostText raw) = .ok r.1 ∧ 1 ≤ r.2 ∧ r.2 ≤ 65535 := by
  by_cases hs : ∃ rest, strip raw = '[' :: rest
  · obtain ⟨rest, hs⟩ := hs
    obtain ⟨h1, h2⟩ := (splitHostPort_bracket hs).1 hok
    obtain ⟨a, ha, he⟩ := validateIp_ok_iff.1 h1
    rw [hostText_bracket hs, he]
    exact ⟨validateHost_of_address ha, validatePort_ok h2⟩
  · push Not at hs
    obtain ⟨q, hq, h1, h2⟩ := (splitHostPort_plain hs).1 hok
    rw [hostText_plain hs, hq]
    exact ⟨h1, validatePort_ok h2⟩

/-! ## Splitting what was joined -/

lemma strip_append_dec {s : Str} (hne : s ≠ []) (hs : ∀ c, s.head? = some c → isSpace c = false)
    (p : Nat) : strip (s ++ ':' :: dec p) = s ++ ':' :: dec p := by
  apply strip_eq_self
  · intro c hc
    rw [List.head?_append_of_ne_nil _ hne] at hc
    exact hs c hc
  intro c hc
  have hl : (s ++ ':' :: dec p).getLast? = (dec p).getLast? := by
    rw [show s ++ ':' :: dec p = (s ++ [':']) ++ dec p by simp,
      List.getLast?_append_of_ne_nil _ (dec_ne_nil p)]
  rw [hl] at hc
  exact not_isSpace_of_isDigit (isDigit_of_mem_dec (List.mem_of_getLast? hc))

/-- A host without `:` is split off where it was joined. -/
lemma splitHostPort_format_plain (hc : ':' ∉ h) (hne : h ≠ [])
    (hh : ∀ c, h.head? = some c → isSpace c = false ∧ c ≠ '[') (h1 : 1 ≤ p) (h2 : p ≤ 65535)
    {r : Str × Nat} :
    splitHostPort U (formatHostPort h p) = .ok r ↔ validateHost U h = .ok r.1 ∧ r.2 = p := by
  have hf : formatHostPort h p = h ++ ':' :: dec p := by
    unfold formatHostPort bracketHost
    rw [if_neg hc]
  have hstrip : strip (formatHostPort h p) = h ++ ':' :: dec p := by
    rw [hf]
    exact strip_append_dec hne (fun c hc => (hh c hc).1) p
  have hbr : ∀ rest, strip (formatHostPort h p) ≠ '[' :: rest := by
    intro rest he
    rw [hstrip] at he
    cases h with
    | nil => exact hne rfl
    | cons c h =>
      simp only [List.cons_append, List.cons.injEq] at he
      exact (hh c rfl).2 he.1
  have hcut : rpartition ':' (strip (formatHostPort h p)) = some (h, dec p) := by
    rw [hstrip]
    exact rpartition_eq_some_iff.2 ⟨rfl, not_mem_dec (by decide)⟩
  rw [splitHostPort_plain hbr, hcut]
  simp only [Option.some.injEq, exists_eq_left', validatePort_dec h1 h2, Except.ok.injEq]
  rw [eq_comm (a := p)]

lemma strip_format_bracket (hc : ':' ∈ h) : strip (formatHostPort h p) = '[' :: (h ++ ']' :: ':' :: dec p) := by
  have hs := strip_append_dec (s := '[' :: (h ++ [']'])) (by simp) (by rintro c ⟨⟩; decide) p
  simp only [List.cons_append, List.append_assoc, List.nil_append] at hs
  unfold formatHostPort bracketHost
  rw [if_pos hc]
  simpa using hs

/-- A bracketed host is split off where it was joined, unless it holds `]:` itself. -/
lemma partitionStr_format (hno : ¬ "]:".toList <:+: h) :
    partitionStr "]:".toList (h ++ ']' :: ':' :: dec p) = some (h, dec p) :=
  partitionStr_append (by decide) hno _

lemma splitHostPort_format_bracket (hc : ':' ∈ h)
    (h1 : 1 ≤ p) (h2 : p ≤ 65535) (hip : validateIp h = .ok h) (hno : ¬ "]:".toList <:+: h) :
    splitHostPort U (formatHostPort h p) = .ok (h, p) := by
  rw [splitHostPort_bracket (strip_format_bracket hc), partitionStr_format hno]
  exact ⟨hip, validatePort_dec h1 h2⟩

/-- With `]:` in it the text is cut there, and what follows is no port. -/
lemma splitHostPort_format_cut (hc : ':' ∈ h)
    (hin : "]:".toList <:+: h) (r : Str × Nat) : splitHostPort U (formatHostPort h p) ≠ .ok r := by
  intro hok
  obtain ⟨-, hport⟩ := (splitHostPort_bracket (strip_format_bracket hc)).1 hok
  have hsome : contains "]:".toList (h ++ ']' :: ':' :: dec p) = true := by
    rw [contains_iff (by decide)]
    exact hin.trans (List.prefix_append _ _).isInfix
  unfold contains at hsome
  obtain ⟨⟨x, y⟩, hq⟩ := Option.isSome_iff_exists.1 hsome
  rw [hq] at hport
  have hspec : h ++ ']' :: ':' :: dec p = x ++ ']' :: (':' :: y) := by
    rw [partitionStr_spec hq]
    simp
  -- the port holds no bracket, so the cut was made at the last one
  have hy : ']' ∉ ':' :: y := by
    intro hm
    rcases List.mem_cons.1 hm with hm | hm
    · cases hm
    · exact absurd (validatePort_letters hport hm) (by decide)
  have hd : ']' ∉ ':' :: dec p := by
    intro hm
    rcases List.mem_cons.1 hm with hm | hm
    · cases hm
    · exact absurd (isDigit_of_mem_dec hm) (by decide)
  have e1 := rpartition_eq_some_iff.2 ⟨hspec, hy⟩
  have e2 : rpartition ']' (h ++ ']' :: ':' :: dec p) = some (h, ':' :: dec p) :=
    rpartition_eq_some_iff.2 ⟨rfl, hd⟩
  rw [e2] at e1
  simp only [Option.some.injEq, Prod.mk.injEq] at e1
  exact partitionStr_first (by decide) hq (e1.1 ▸ hin)

lemma infix_append_of_not_mem {x y : Char} {a b : Str} (hx : x ∉ a) (h : [x, y] <:+: a ++ b) :
    [x, y] <:+: b := by
  induction a with
  | nil => exact h
  | cons c a ih =>
    rcases List.infix_cons_iff.1 h with hp | hin
    · obtain ⟨t, ht⟩ := hp
      simp only [List.cons_append, List.cons.injEq] at ht
      exact absurd (by simp [ht.1]) hx
    · exact ih (fun hm => hx (by simp [hm])) hin

/-- `]:` in a printed address is in its scope id. -/
lemma bracket_infix_toStr {a : Address} : "]:".toList <:+: a.toStr ↔ "]:".toList <:+: a.scopeId.getD [] := by
  have hbody : ']' ∉ addressBody a := by
    intro hm
    exact absurd (addressBody_letters hm) (by decide)
  rw [toStr_eq]
  constructor
  · intro h
    have h1 := infix_append_of_not_mem hbody h
    cases hz : a.scopeId with
    | none =>
      rw [hz] at h1
      exact h1
    | some z =>
      rw [hz] at h1
      exact infix_append_of_not_mem (a := ['%']) (by decide) h1
  · intro h
    cases hz : a.scopeId with
    | none =>
      rw [hz] at h
      exact h.trans ⟨addressBody a, [], by simp [zoneSuffix]⟩
    | some z =>
      rw [hz] at h
      exact h.trans ⟨addressBody a ++ ['%'], [], by simp [zoneSuffix]⟩

lemma hostnameBody_head_ok {b : Str} (hb : hostnameBody b = true) {c : Char}
    (hc : b.head? = some c) : isSpace c = false ∧ c ≠ '[' := by
  have hl := (hostnameBody_head hb hc).1
  refine ⟨isPlain_not_isSpace (isPlain_of_isLabelChar hl), ?_⟩
  rintro rfl
  exact absurd hl (by decide)

/-- **When `host:port` is read back**, and what else is read when it is not. -/
theorem splitHostPort_format (hok : splitHostPort U raw = .ok r) :
    (HostStable U (hostText raw) → splitHostPort U (formatHostPort r.1 r.2) = .ok r) ∧
      (¬ HostStable U (hostText raw) →
        ∀ q, splitHostPort U (formatHostPort r.1 r.2) = .ok q → q.2 = r.2 ∧ q.1 ++ ['\n'] = r.1) := by
  obtain ⟨h, p⟩ := r
  obtain ⟨hhost, h1, h2⟩ := splitHostPort_ok hok
  unfold HostStable
  rcases validateHost_forms hhost with ⟨a, ha, rfl⟩ | ⟨hn, hb, hlf⟩ | ⟨hn, b, hh, hb, hlf⟩
  · -- an address
    rw [ha, ipAddress_zone ha, ← bracket_infix_toStr]
    by_cases hc : ':' ∈ a.toStr
    · exact ⟨splitHostPort_format_bracket hc h1 h2 (validateIp_toStr ha),
        fun hin q hq => absurd hq (splitHostPort_format_cut hc (not_not.1 hin) q)⟩
    have hne : a.toStr ≠ [] := by
      rw [toStr_eq]
      simp [addressBody_ne_nil]
    have hhead : ∀ c, a.toStr.head? = some c → isSpace c = false ∧ c ≠ '[' := by
      intro c hc
      have hch := toStr_head hc
      refine ⟨isPlain_not_isSpace (isPlain_of_isAddressChar hch), ?_⟩
      rintro rfl
      exact absurd hch (by decide)
    constructor
    · intro _
      rw [splitHostPort_format_plain hc hne hhead h1 h2]
      exact ⟨validateHost_of_address (by rw [strip_toStr ha, ipAddress_toStr]), rfl⟩
    intro hin
    -- an IPv4 address has no scope id
    rw [not_not, bracket_infix_toStr] at hin
    have hv : a.version = .v4 := by
      cases hv : a.version with
      | v4 => rfl
      | v6 => exact absurd (colon_mem_toStr hv) hc
    rw [Address.scopeId_v4 hv] at hin
    exact absurd hin (by decide)
  · -- a name
    rw [hn]
    have hc : ':' ∉ h := hostnameBody_not_mem hb (by decide) (by decide)
    refine ⟨fun _ => ?_, fun hl => absurd hlf hl⟩
    rw [splitHostPort_format_plain hc (hostnameBody_ne_nil hb) (fun c hc => hostnameBody_head_ok hb hc)
      h1 h2]
    exact ⟨validateHost_of_body U hb, rfl⟩
  · -- a name and a line feed
    rw [hn]
    simp only at hh
    subst hh
    have hc : ':' ∉ b ++ ['\n'] := by
      simp [hostnameBody_not_mem hb (c := ':') (by decide) (by decide)]
    refine ⟨fun hl => absurd hlf hl, fun _ q hq => ?_⟩
    rw [splitHostPort_format_plain hc (by simp) ?_ h1 h2, validateHost_lf U hb] at hq
    · simp only [Except.ok.injEq] at hq
      exact ⟨hq.2, by rw [hq.1]⟩
    intro c hc
    rw [List.head?_append_of_ne_nil _ (hostnameBody_ne_nil hb)] at hc
    exact hostnameBody_head_ok hb hc

end AsmSensors
