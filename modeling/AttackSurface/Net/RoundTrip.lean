import AttackSurface.Net.Text

/-!
# Printed addresses and networks read back

    ipAddress a.toStr = some a          (ipAddress_toStr)
    ipNetwork n.toStr = some n          (ipNetwork_toStr)

For IPv6 the compressed form has to be read back: the run of zero groups that
`longestZeros` picks is a run (`longestZeros_run`), and the groups around one `::`
determine the number (`ipv6FromParts_skip`).  The last part says which letters an
accepted text is made of.
-/

namespace PyNet

open PyText PrefixNet List Option

/-! ## IPv4 -/

lemma parseOctet_dec : ∀ n, n < 256 → parseOctet (dec n) = some n := by
  decide +kernel

variable {n : Nat} {c : Char} {A B : List Str} {s : Str} {a : Address}

lemma not_mem_dec (hc : c.isDigit = false) : c ∉ dec n := by
  intro h
  rw [isDigit_of_mem_dec h] at hc
  cases hc

lemma ipv4FromString_toString (hn : n < 2 ^ 32) : ipv4FromString (ipv4ToString n) = some n := by
  have hval := ofDigitsBE_digitsBE (b := 256) (k := 4) (by decide) (show n < 256 ^ 4 by omega)
  have hlt : ∀ d ∈ digitsBE 256 4 n, d < 256 := fun d hd => lt_of_mem_digitsBE (by decide) hd
  unfold ipv4FromString ipv4ToString
  rw [splitOn_intercalate]
  · simp only [digitsBE, nil_append, cons_append, map_cons, map_nil] at hval hlt ⊢
    simp only [mem_cons, not_mem_nil, or_false, forall_eq_or_imp, forall_eq] at hlt
    obtain ⟨h1, h2, h3, h4⟩ := hlt
    rw [parseOctet_dec _ h1, parseOctet_dec _ h2, parseOctet_dec _ h3, parseOctet_dec _ h4]
    simp [hval]
  · intro l hl
    obtain ⟨d, -, rfl⟩ := List.mem_map.1 hl
    exact not_mem_dec (by decide)
  · intro h
    have := congrArg length h
    simp at this

/-! ## IPv6: the groups -/

lemma parseHextet_hex (h : n < 65536) : parseHextet (hex n) = some n := by
  have h1 : (hex n).all isHexDigit = true := by
    rw [List.all_eq_true]
    exact fun _ hc => isHexDigit_of_isLowerHex (isLowerHex_of_mem_hex hc)
  simp [parseHextet, h1, length_hex_le h]

variable {ds : List Nat}

lemma hextetsVal_map_hex (h : ∀ d ∈ ds, d < 65536) (acc : Nat) :
    hextetsVal acc (ds.map hex) = some (ofDigitsBE 65536 acc ds) := by
  induction ds generalizing acc with
  | nil => rfl
  | cons d ds ih =>
    rw [map_cons, hextetsVal, parseHextet_hex (h d (by simp))]
    exact ih (fun e he => h e (by simp [he])) _

lemma emptyFrom_append (i : Nat) (ps qs : List Str) :
    emptyFrom i (ps ++ qs) = emptyFrom i ps ++ emptyFrom (i + ps.length) qs := by
  induction ps generalizing i with
  | nil => simp [emptyFrom]
  | cons p ps ih =>
    have hi : i + 1 + ps.length = i + (p :: ps).length := by
      rw [length_cons]
      omega
    simp only [cons_append, emptyFrom, ih, hi]
    split <;> rfl

lemma emptyFrom_of_ne_nil {ps : List Str} (h : ∀ p ∈ ps, p ≠ []) (i : Nat) : emptyFrom i ps = [] := by
  induction ps generalizing i with
  | nil => rfl
  | cons p ps ih =>
    rw [emptyFrom, if_neg (h p (by simp))]
    exact ih (fun q hq => h q (by simp [hq])) _

/-- The text around one `::`; an empty side is written as an extra empty group. -/
def aroundSkip (A B : List Str) : List Str :=
  (if A = [] then [[]] else []) ++ A ++ [[]] ++ B ++ (if B = [] then [[]] else [])

lemma aroundSkip_interior (A B : List Str) : (aroundSkip A B).tail.dropLast = A.tail ++ [[]] ++ B.dropLast := by
  unfold aroundSkip
  have hdrop : ∀ (X : List Str) (b : Str), ([] :: (X ++ [b])).dropLast = [] :: X := by
    intro X b
    rw [← cons_append, dropLast_concat]
  rcases eq_nil_or_concat B with rfl | ⟨B', b, rfl⟩
  · cases A with
    | nil => rfl
    | cons a A => simp
  · cases A with
    | nil | cons a A => simp [hdrop]

lemma skipIndices_aroundSkip (hA : ∀ p ∈ A, p ≠ []) (hB : ∀ p ∈ B, p ≠ []) :
    skipIndices (aroundSkip A B) = [1 + A.tail.length] := by
  unfold skipIndices
  rw [aroundSkip_interior, emptyFrom_append, emptyFrom_append,
    emptyFrom_of_ne_nil (fun p hp => hA p (mem_of_mem_tail hp)),
    emptyFrom_of_ne_nil (fun p hp => hB p (dropLast_subset _ hp))]
  rfl

lemma length_aroundSkip (A B : List Str) : (aroundSkip A B).length = max 1 A.length + 1 + max 1 B.length := by
  unfold aroundSkip
  cases A with
  | nil => cases B with
    | nil => rfl
    | cons b B => simp; omega
  | cons a A => cases B with
    | nil => simp
    | cons b B => simp; omega

lemma head_aroundSkip (hA : ∀ p ∈ A, p ≠ []) : (aroundSkip A B).head? = some [] ↔ A = [] := by
  unfold aroundSkip
  cases A with
  | nil => simp
  | cons a A =>
    have := hA a (by simp)
    simp [this]

lemma last_aroundSkip (hB : ∀ p ∈ B, p ≠ []) : (aroundSkip A B).getLast? = some [] ↔ B = [] := by
  unfold aroundSkip
  rcases eq_nil_or_concat B with rfl | ⟨B', b, rfl⟩
  · simp
  have := hB b (by simp)
  simp only [concat_eq_append, append_eq_nil_iff, cons_ne_self, and_false, if_false, append_nil, iff_false]
  rw [← append_assoc, getLast?_concat]
  simpa using this

lemma skipSides_aroundSkip (hA : ∀ p ∈ A, p ≠ []) (hB : ∀ p ∈ B, p ≠ []) :
    skipSides (aroundSkip A B) (1 + A.tail.length) = some (A.length, B.length) := by
  unfold skipSides
  simp only [head_aroundSkip hA, last_aroundSkip hB, length_aroundSkip]
  cases A with
  | nil => cases B with
    | nil => simp
    | cons b B => simp; omega
  | cons a A => cases B with
    | nil =>
      have h : 1 + A.length = A.length + 1 := by omega
      simp [h]
    | cons b B => simp; omega

lemma take_aroundSkip (A B : List Str) : (aroundSkip A B).take A.length = A := by
  unfold aroundSkip
  cases A with
  | nil => rfl
  | cons a A => simp

lemma drop_aroundSkip (A B : List Str) : (aroundSkip A B).drop ((aroundSkip A B).length - B.length) = B := by
  cases B with
  | nil => simp
  | cons b B =>
    have h : aroundSkip A (b :: B) = ((if A = [] then [[]] else []) ++ A ++ [[]]) ++ (b :: B) := by
      simp [aroundSkip]
    rw [h, length_append, Nat.add_sub_cancel, drop_left]

/-- **The groups around one `::` determine the number.** -/
theorem ipv6FromParts_skip (hA : ∀ p ∈ A, p ≠ []) (hB : ∀ p ∈ B, p ≠ []) (hlen : A.length + B.length ≤ 6) :
    ipv6FromParts (aroundSkip A B) =
      (hextetsVal 0 A).bind fun n => hextetsVal (n * 65536 ^ (8 - (A.length + B.length))) B := by
  have h9 : ¬ 9 < (aroundSkip A B).length := by
    rw [length_aroundSkip]
    omega
  unfold ipv6FromParts
  rw [if_neg h9, skipIndices_aroundSkip hA hB]
  simp only []
  rw [skipSides_aroundSkip hA hB]
  simp only []
  rw [if_neg (by omega), take_aroundSkip, drop_aroundSkip]
  cases hextetsVal 0 A with
  | none => rfl
  | some n => rfl

/-! ## IPv6: the compressed run -/

/-- `r` is a run of zero groups of `l`. -/
def ZeroRun (l : List Str) (r : Nat × Nat) : Prop :=
  ∃ A B, l = A ++ List.replicate r.2 ['0'] ++ B ∧ A.length = r.1

/-- `r` is a run of zero groups at the end of `l`. -/
def ZeroTail (l : List Str) (r : Nat × Nat) : Prop :=
  r.2 = 0 ∨ ∃ A, l = A ++ List.replicate r.2 ['0'] ∧ A.length = r.1

variable {l : List Str} {r : Nat × Nat} {ls : List Str} {v : Version} {parse : Str → Option Address}

lemma ZeroRun.append (h : ZeroRun l r) (m : List Str) : ZeroRun (l ++ m) r := by
  obtain ⟨A, B, rfl, hA⟩ := h
  exact ⟨A, B ++ m, by simp, hA⟩

lemma ZeroTail.push (h : ZeroTail l r) :
    ZeroTail (l ++ [['0']]) (if r.2 = 0 then (l.length, 1) else (r.1, r.2 + 1)) := by
  split
  · exact .inr ⟨l, rfl, rfl⟩
  next h0 =>
  obtain ⟨A, rfl, hA⟩ := h.resolve_left h0
  exact .inr ⟨A, by rw [append_assoc, ← replicate_succ'], hA⟩

lemma ZeroTail.run (h : ZeroTail l r) (h0 : 0 < r.2) : ZeroRun l r := by
  obtain ⟨A, rfl, hA⟩ := h.resolve_left (by omega)
  exact ⟨A, [], by simp, hA⟩

/-- The loop keeps: `best` is a run of what was read, `cur` is a run at its end. -/
lemma longestZeros_run (hs pre : List Str) (cur best : Nat × Nat) (hc : ZeroTail pre cur)
    (hb : ZeroRun pre best) : ZeroRun (pre ++ hs) (longestZeros hs pre.length cur best) := by
  induction hs generalizing pre cur best with
  | nil => simpa [longestZeros] using hb
  | cons h hs ih =>
    have hlen : pre.length + 1 = (pre ++ [h]).length := by simp
    have happ : pre ++ h :: hs = (pre ++ [h]) ++ hs := by simp
    rw [longestZeros, hlen, happ]
    split
    · next h0 =>
      subst h0
      have hp := hc.push
      generalize (if cur.2 = 0 then (pre.length, 1) else (cur.1, cur.2 + 1)) = cur' at hp ⊢
      apply ih _ _ _ hp
      split
      · next hlt => exact hp.run (by omega)
      · exact hb.append _
    · exact ih _ _ _ (.inl rfl) (hb.append _)

lemma compressHextets_cases (hs : List Str) : compressHextets hs = hs ∨
      ∃ A B l, 2 ≤ l ∧ hs = A ++ List.replicate l ['0'] ++ B ∧ compressHextets hs = aroundSkip A B := by
  have hrun := longestZeros_run hs [] (0, 0) (0, 0) (.inl rfl) ⟨[], [], rfl, rfl⟩
  unfold compressHextets
  simp only [nil_append, length_nil] at hrun ⊢
  generalize longestZeros hs 0 (0, 0) (0, 0) = r at hrun ⊢
  obtain ⟨A, B, hs_eq, hA⟩ := hrun
  split
  · next hr =>
    refine .inr ⟨A, B, r.2, hr, hs_eq, ?_⟩
    have h1 : hs.take r.1 = A := by simp [hs_eq, ← hA]
    have h2 : hs.drop (r.1 + r.2) = B := by
      rw [hs_eq, ← hA]
      have : A.length + r.2 = (A ++ replicate r.2 ['0']).length := by simp
      rw [this, drop_left]
    have h3 : r.1 + r.2 = hs.length ↔ B = [] := by
      rw [hs_eq, ← hA, ← length_eq_zero_iff]
      simp only [length_append, length_replicate]
      omega
    have h4 : r.1 = 0 ↔ A = [] := by rw [← hA, length_eq_zero_iff]
    simp [h1, h2, h3, h4, aroundSkip]
  · exact .inl rfl

/-! ## IPv6: the whole text -/

/-- A group as printed: lower-case digits, or nothing inside `::`. -/
def GroupText (p : Str) : Prop := ∀ c ∈ p, isLowerHex c = true

lemma groupText_hex (n : Nat) : GroupText (hex n) := fun _ hc => isLowerHex_of_mem_hex hc

lemma GroupText.not_mem {p : Str} (h : GroupText p) (hc : isLowerHex c = false) : c ∉ p := by
  intro hm
  rw [h c hm] at hc
  cases hc

lemma groupText_compress {p : Str} (hp : p ∈ compressHextets (ds.map hex)) : GroupText p := by
  have hnil : GroupText [] := fun c hc => by cases hc
  have h : ∀ p ∈ ds.map hex, GroupText p := forall_mem_map.2 fun d _ => groupText_hex d
  rcases compressHextets_cases (ds.map hex) with he | ⟨A, B, l, -, hs, he⟩
  · exact h p (he ▸ hp)
  rw [hs] at h
  rw [he] at hp
  unfold aroundSkip at hp
  simp only [mem_append, mem_singleton] at hp
  rcases hp with (((hp | hp) | hp) | hp) | hp
  · split at hp
    · exact mem_singleton.1 hp ▸ hnil
    · cases hp
  · exact h p (by simp [hp])
  · exact hp ▸ hnil
  · exact h p (by simp [hp])
  split at hp
  · exact mem_singleton.1 hp ▸ hnil
  · cases hp

lemma map_hex_split {l : Nat} (h : ds.map hex = A ++ List.replicate l ['0'] ++ B) :
    ∃ a b, ds = a ++ List.replicate l 0 ++ b ∧ A = a.map hex ∧ B = b.map hex := by
  obtain ⟨az, b, rfl, haz, hb⟩ := map_eq_append_iff.1 h
  obtain ⟨a, z, rfl, ha, hz⟩ := map_eq_append_iff.1 haz
  refine ⟨a, b, ?_, ha.symm, hb.symm⟩
  have hz0 : z = replicate l 0 := by
    apply eq_replicate_iff.2
    refine ⟨by simpa using congrArg length hz, fun d hd => ?_⟩
    have hm : hex d ∈ replicate l ['0'] := hz ▸ List.mem_map_of_mem hd
    exact hex_injective (eq_of_mem_replicate hm)
  rw [hz0]

lemma ipv6FromParts_compress (hn : n < 2 ^ 128) :
    ipv6FromParts (compressHextets ((digitsBE 65536 8 n).map hex)) = some n := by
  have hval := ofDigitsBE_digitsBE (b := 65536) (k := 8) (by decide) (show n < 65536 ^ 8 by omega)
  have hlt : ∀ d ∈ digitsBE 65536 8 n, d < 65536 := fun d hd => lt_of_mem_digitsBE (by decide) hd
  have hne : ∀ p ∈ (digitsBE 65536 8 n).map hex, p ≠ [] := by
    intro p hp
    obtain ⟨d, -, rfl⟩ := List.mem_map.1 hp
    exact hex_ne_nil d
  have hlen : ((digitsBE 65536 8 n).map hex).length = 8 := by simp
  rcases compressHextets_cases ((digitsBE 65536 8 n).map hex) with he | ⟨A, B, l, hl, hs, he⟩
  · rw [he]
    unfold ipv6FromParts skipIndices
    rw [emptyFrom_of_ne_nil fun p hp => hne p (mem_of_mem_tail (dropLast_subset _ hp))]
    rw [if_neg (by omega)]
    simp only []
    rw [if_neg (by omega), if_neg, hextetsVal_map_hex hlt, hval]
    rintro (h | h)
    · exact hne _ (mem_of_mem_head? h) rfl
    · exact hne _ (mem_of_getLast? h) rfl
  rw [he]
  obtain ⟨a, b, hd, rfl, rfl⟩ := map_hex_split hs
  rw [hd] at hval hlt
  have h8 : a.length + l + b.length = 8 := by
    rw [hs] at hlen
    simp only [length_append, length_map, length_replicate] at hlen
    exact hlen
  have ha : ∀ d ∈ a, d < 65536 := fun d h => hlt d (by simp [h])
  have hb : ∀ d ∈ b, d < 65536 := fun d h => hlt d (by simp [h])
  rw [ipv6FromParts_skip (fun p hp => hne p (by rw [hs]; simp [hp]))
    (fun p hp => hne p (by rw [hs]; simp [hp])) (by simp; omega), hextetsVal_map_hex ha]
  simp only [bind_some, length_map]
  rw [hextetsVal_map_hex hb]
  rw [ofDigitsBE_append, ofDigitsBE_append, ofDigitsBE_zeros] at hval
  rw [show 8 - (a.length + b.length) = l by omega, hval]

lemma length_compressHextets : 3 ≤ (compressHextets ((digitsBE 65536 8 n).map hex)).length := by
  rcases compressHextets_cases ((digitsBE 65536 8 n).map hex) with he | ⟨A, B, l, hl, hs, he⟩
  · rw [he]
    simp
  · rw [he, length_aroundSkip]
    omega

/-- **IPv6 text reads back.** -/
theorem ipv6FromString_toString (hn : n < 2 ^ 128) : ipv6FromString (ipv6ToString n) = some n := by
  have hg : ∀ p ∈ compressHextets ((digitsBE 65536 8 n).map hex), GroupText p := fun p => groupText_compress
  have hlen := length_compressHextets (n := n)
  have hparts := ipv6FromParts_compress hn
  unfold ipv6FromString ipv6ToString
  generalize compressHextets ((digitsBE 65536 8 n).map hex) = ps at hg hlen hparts ⊢
  have hsplit : ([':'].intercalate ps).splitOn ':' = ps := by
    apply splitOn_intercalate
    · exact fun p hp => (hg p hp).not_mem (by decide)
    · intro h
      simp [h] at hlen
  have htail : expandV4Tail ps = some ps := by
    unfold expandV4Tail
    cases hl : ps.getLast? with
    | none =>
      rw [getLast?_eq_none_iff] at hl
      simp [hl] at hlen
    | some l => exact if_neg ((hg l (mem_of_getLast? hl)).not_mem (by decide))
  simp only [hsplit]
  rw [if_neg (by omega), htail]
  exact hparts

/-! ## The letters of a text -/

lemma mem_intercalate {x c : Char} (h : c ∈ [x].intercalate ls) : c = x ∨ ∃ l ∈ ls, c ∈ l := by
  induction ls with
  | nil => simp at h
  | cons l ls ih =>
    cases ls with
    | nil => exact .inr ⟨l, by simp, by simpa using h⟩
    | cons m ls =>
      rw [intercalate_cons_cons] at h
      simp only [mem_append, mem_singleton] at h
      rcases h with (h | h) | h
      · exact .inr ⟨l, by simp, h⟩
      · exact .inl h
      rcases ih h with h | ⟨k, hk, hc⟩
      · exact .inl h
      · exact .inr ⟨k, by simp [hk], hc⟩

lemma mem_intercalate_of_mem {x c : Char} {l : Str} (hl : l ∈ ls) (hc : c ∈ l) : c ∈ [x].intercalate ls := by
  induction ls with
  | nil => cases hl
  | cons m ls ih =>
    cases ls with
    | nil =>
      obtain rfl := mem_singleton.1 hl
      simpa using hc
    | cons k ls =>
      rw [intercalate_cons_cons, mem_append, mem_append]
      rcases mem_cons.1 hl with rfl | hl
      · exact .inl (.inl hc)
      · exact .inr (ih hl)

lemma mem_splitOn {x c : Char} (h : c ∈ s) : c = x ∨ ∃ l ∈ s.splitOn x, c ∈ l := by
  have hjoin : [x].intercalate (s.splitOn x) = s := intercalate_splitOn x
  rw [← hjoin] at h
  exact mem_intercalate h

lemma ipv4ToString_letters (h : c ∈ ipv4ToString n) : c.isDigit = true ∨ c = '.' := by
  rcases mem_intercalate h with h | ⟨l, hl, hc⟩
  · exact .inr h
  · obtain ⟨d, -, rfl⟩ := List.mem_map.1 hl
    exact .inl (isDigit_of_mem_dec hc)

lemma ipv6ToString_letters (h : c ∈ ipv6ToString n) : isLowerHex c = true ∨ c = ':' := by
  rcases mem_intercalate h with h | ⟨l, hl, hc⟩
  · exact .inr h
  · exact .inl (groupText_compress hl c hc)

lemma parseOctet_letters (h : parseOctet s = some n) (hc : c ∈ s) : c.isDigit = true := by
  unfold parseOctet at h
  split_ifs at h with h1
  simp only [isDecimal, Bool.not_eq_true', Bool.and_eq_false_iff, not_or, Bool.not_eq_false] at h1
  exact List.all_eq_true.1 h1.2 c hc

lemma parseOctet_canonical (h : parseOctet s = some n) : s = dec n := by
  have hd : ∀ c ∈ s, c.isDigit = true := fun c hc => parseOctet_letters h hc
  unfold parseOctet at h
  split_ifs at h with h1 h2 h3 h4
  simp only [isDecimal, Bool.not_eq_true', Bool.and_eq_false_iff, not_or, Bool.not_eq_false,
    decide_eq_true_eq] at h1
  simp only [some.injEq] at h
  rw [← h]
  symm
  apply dec_decVal hd h1.1
  by_cases hz : s = ['0']
  · exact .inl (by rw [hz]; rfl)
  · exact .inr fun h0 => h3 ⟨hz, h0⟩

/-- **An accepted IPv4 text is the one that is printed.** -/
theorem ipv4FromString_canonical (h : ipv4FromString s = some n) : s = ipv4ToString n := by
  have hlt := ipv4FromString_lt h
  unfold ipv4FromString at h
  split at h
  · next a b c d hs =>
    split at h
    · next w x y z ha hb hc hd =>
      simp only [some.injEq] at h
      have h1 := parseOctet_lt ha
      have h2 := parseOctet_lt hb
      have h3 := parseOctet_lt hc
      have h4 := parseOctet_lt hd
      have hn : n = ((w * 256 + x) * 256 + y) * 256 + z := by
        rw [← h]
        show (((0 * 256 + w) * 256 + x) * 256 + y) * 256 + z = _
        omega
      have hdig : digitsBE 256 4 n = [w, x, y, z] := by
        show [n / 256 / 256 / 256 % 256, n / 256 / 256 % 256, n / 256 % 256, n % 256] = _
        rw [hn]
        simp only [cons.injEq, and_true]
        refine ⟨?_, ?_, ?_, ?_⟩ <;> omega
      have hjoin : ['.'].intercalate (s.splitOn '.') = s := intercalate_splitOn '.'
      unfold ipv4ToString
      rw [hdig, ← hjoin, hs]
      simp only [map_cons, map_nil]
      rw [← parseOctet_canonical ha, ← parseOctet_canonical hb, ← parseOctet_canonical hc,
        ← parseOctet_canonical hd]
    · cases h
  · cases h

lemma ipv4FromString_letters (h : ipv4FromString s = some n) (hc : c ∈ s) : c.isDigit = true ∨ c = '.' :=
  ipv4ToString_letters (ipv4FromString_canonical h ▸ hc)

lemma mem_intercalate_sep {x : Char} (h : 2 ≤ ls.length) : x ∈ [x].intercalate ls := by
  match ls, h with
  | l :: m :: ls, _ =>
    rw [intercalate_cons_cons]
    simp

lemma colon_mem_ipv6ToString (n : Nat) : ':' ∈ ipv6ToString n := by
  apply mem_intercalate_sep
  have := length_compressHextets (n := n)
  omega

/-! ## Addresses -/

lemma ipv4Address_eq_some_iff : ipv4Address s = some a ↔
      '/' ∉ s ∧ a.version = .v4 ∧ a.scopeId = none ∧ ipv4FromString s = some a.ip := by
  unfold ipv4Address
  constructor
  · intro h
    split_ifs at h with hs
    split at h
    · next n hn =>
      cases h
      exact ⟨hs, rfl, rfl, hn⟩
    · cases h
  rintro ⟨hs, hv, hz, hn⟩
  rw [if_neg hs]
  obtain ⟨v, ip, z, h1, h2⟩ := a
  split
  · next m hm =>
    cases hm.symm.trans hn
    cases hv
    cases hz
    rfl
  · next hm => cases hm.symm.trans hn

lemma ipv6Address_eq_some_iff : ipv6Address s = some a ↔ '/' ∉ s ∧ a.version = .v6 ∧
        ∃ addr, splitScopeId s = some (addr, a.scopeId) ∧ ipv6FromString addr = some a.ip := by
  unfold ipv6Address
  constructor
  · intro h
    split_ifs at h with hs
    split at h
    · cases h
    next addr scope hsc =>
    split at h
    · next n hn =>
      cases h
      exact ⟨hs, rfl, addr, hsc, hn⟩
    · cases h
  rintro ⟨hs, hv, addr, hsc, hn⟩
  rw [dif_neg hs]
  obtain ⟨v, ip, z, h1, h2⟩ := a
  split
  · next h0 => cases h0.symm.trans hsc
  next hsc' =>
  cases hsc'.symm.trans hsc
  split
  · next hm =>
    cases hm.symm.trans hn
    cases hv
    rfl
  · next hm => cases hm.symm.trans hn

lemma ipv4Address_version (h : ipv4Address s = some a) : a.version = .v4 := (ipv4Address_eq_some_iff.1 h).2.1

lemma ipv6Address_version (h : ipv6Address s = some a) : a.version = .v6 := (ipv6Address_eq_some_iff.1 h).2.1

lemma ipv4Address_of_colon (h : ':' ∈ s) : ipv4Address s = none := by
  cases hs : ipv4Address s with
  | none => rfl
  | some a =>
    obtain ⟨-, -, -, hn⟩ := ipv4Address_eq_some_iff.1 hs
    exact absurd (ipv4FromString_letters hn h) (by decide)

lemma Address.scopeId_v4 (h : a.version = .v4) : a.scopeId = none := by
  cases hz : a.scopeId with
  | none => rfl
  | some z => cases h.symm.trans (a.scope_ok z hz).1

lemma slash_not_mem_toStr (a : Address) : '/' ∉ a.toStr := by
  intro h
  unfold Address.toStr at h
  cases hv : a.version with
  | v4 =>
    rw [hv] at h
    exact absurd (ipv4ToString_letters h) (by decide)
  | v6 =>
    rw [hv] at h
    have h6 : '/' ∉ ipv6ToString a.ip := by
      intro hm
      exact absurd (ipv6ToString_letters hm) (by decide)
    cases hz : a.scopeId with
    | none =>
      rw [hz] at h
      exact h6 h
    | some z =>
      rw [hz] at h
      simp only [mem_append, mem_cons] at h
      rcases h with h | h | h
      · exact h6 h
      · cases h
      · exact (a.scope_ok z hz).2.2.2 h

lemma splitScopeId_toStr (hv : a.version = .v6) :
    splitScopeId a.toStr = some (ipv6ToString a.ip, a.scopeId) := by
  have h6 : '%' ∉ ipv6ToString a.ip := by
    intro hm
    exact absurd (ipv6ToString_letters hm) (by decide)
  unfold splitScopeId Address.toStr
  rw [hv]
  cases hz : a.scopeId with
  | none =>
    simp only []
    rw [partition_eq_none_iff.2 h6]
  | some z =>
    obtain ⟨-, hne, hpct, -⟩ := a.scope_ok z hz
    simp only []
    rw [partition_eq_some_iff.2 ⟨rfl, h6⟩]
    simp [hne, hpct]

lemma colon_mem_toStr (hv : a.version = .v6) : ':' ∈ a.toStr := by
  unfold Address.toStr
  rw [hv]
  cases a.scopeId with
  | none => exact colon_mem_ipv6ToString a.ip
  | some z => exact mem_append_left _ (colon_mem_ipv6ToString a.ip)

lemma ipv4Address_toStr (hv : a.version = .v4) : ipv4Address a.toStr = some a := by
  apply ipv4Address_eq_some_iff.2
  refine ⟨slash_not_mem_toStr a, hv, Address.scopeId_v4 hv, ?_⟩
  have hlt := a.ip_lt
  rw [hv] at hlt
  unfold Address.toStr
  rw [hv]
  exact ipv4FromString_toString hlt

lemma ipv6Address_toStr (hv : a.version = .v6) : ipv6Address a.toStr = some a := by
  apply ipv6Address_eq_some_iff.2
  have hlt := a.ip_lt
  rw [hv] at hlt
  exact ⟨slash_not_mem_toStr a, hv, _, splitScopeId_toStr hv, ipv6FromString_toString hlt⟩

/-- **A printed address reads back.** -/
@[simp] theorem ipAddress_toStr (a : Address) : ipAddress a.toStr = some a := by
  unfold ipAddress
  cases hv : a.version with
  | v4 => rw [ipv4Address_toStr hv, some_or]
  | v6 => rw [ipv4Address_of_colon (colon_mem_toStr hv), ipv6Address_toStr hv, none_or]

/-! ## Networks -/

lemma Address.toNetwork_of_aligned {p : Nat} (h : p ≤ a.version.bits)
    (ha : Aligned a.version.bits a.ip p) : a.toNetwork p h = ⟨a, p, ha⟩ := by
  unfold Address.toNetwork
  rw [dif_pos ha.2.2]

lemma prefixFromPrefixString_dec {p : Nat} (h : p ≤ v.bits) : prefixFromPrefixString v (dec p) = some p := by
  simp [prefixFromPrefixString, h]

lemma makeNetmask_dec {p : Nat} (h : p ≤ v.bits) : makeNetmask v (dec p) = some p := by
  unfold makeNetmask
  cases v with
  | v4 => simp [prefixFromPrefixString_dec h]
  | v6 => simp [prefixFromPrefixString_dec h]

lemma networkOf_toStr {n : Network} (hp : parse n.address.toStr = some n.address) :
    networkOf n.address.version parse n.toStr = some n := by
  have hsplit : n.toStr.splitOn '/' = [n.address.toStr, dec n.prefixlen] := by
    unfold Network.toStr
    rw [splitOn_append_cons_self_of_not_mem (slash_not_mem_toStr _),
      splitOn_eq_singleton (not_mem_dec (by decide))]
  have hle := n.aligned.2.1
  unfold networkOf
  rw [hsplit]
  simp only [hp]
  rw [dif_pos trivial]
  split
  · next p hm =>
    cases hm.symm.trans (makeNetmask_dec hle)
    rw [Address.toNetwork_of_aligned _ n.aligned]
  · next hm => cases hm.symm.trans (makeNetmask_dec hle)

lemma networkOf_eq_none
    (h : ∀ addr ∈ (s.splitOn '/').head?, parse addr = none) : networkOf v parse s = none := by
  unfold networkOf
  split
  · next addr hs =>
    rw [h addr (by rw [hs]; rfl)]
    rfl
  · next addr mask hs => rw [h addr (by rw [hs]; rfl)]
  · rfl

/-- **A printed network reads back.** -/
@[simp] theorem ipNetwork_toStr (n : Network) : ipNetwork n.toStr = some n := by
  unfold ipNetwork
  cases hv : n.address.version with
  | v4 => rw [← hv, networkOf_toStr (ipv4Address_toStr hv), some_or]
  | v6 =>
    rw [networkOf_eq_none, none_or, ← hv, networkOf_toStr (ipv6Address_toStr hv)]
    intro addr ha
    have hsplit : n.toStr.splitOn '/' = n.address.toStr :: (dec n.prefixlen).splitOn '/' := by
      unfold Network.toStr
      rw [splitOn_append_cons_self_of_not_mem (slash_not_mem_toStr _)]
    rw [hsplit] at ha
    simp only [head?_cons, mem_def, some.injEq] at ha
    rw [← ha]
    exact ipv4Address_of_colon (colon_mem_toStr hv)

/-- `ip_network` of a printed address is its one-address network. -/
lemma ipNetwork_of_ipAddress (h : ipAddress s = some a) : ipNetwork s = some a.network := by
  unfold ipAddress at h
  rw [or_eq_some_iff] at h
  have hsl : '/' ∉ s := by
    rcases h with h | ⟨-, h⟩
    · exact (ipv4Address_eq_some_iff.1 h).1
    · exact (ipv6Address_eq_some_iff.1 h).1
  have hsplit : s.splitOn '/' = [s] := splitOn_eq_singleton hsl
  unfold ipNetwork networkOf
  rw [hsplit]
  simp only []
  rcases h with h | ⟨h4, h⟩
  · rw [h]
    rfl
  · rw [h4, h]
    rfl

end PyNet
