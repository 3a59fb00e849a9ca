import AttackSurface.Text.Str

/-!
# Case mapping and IDNA

`str.lower`, the `idna` codec and the decimal digits.  They need Unicode tables for
characters outside ASCII, so these functions are parameters (`Unicode`) with the
facts the code relies on: ASCII text is lower-cased as usual, lower-casing makes up
no ASCII character but letters (it maps the Kelvin sign to `k`) and keeps blanks at
the end, and encoding a label makes up no line feed.  What the codec does around the tables (splitting at the four dots,
the ASCII fast path, the label lengths) is written out.
-/

namespace PyText

open List Option

/-- The table-driven functions of the standard library. -/
structure Unicode where
  /-- `str.lower` -/
  lower : Str → Str
  /-- `encodings.idna.ToASCII` of a label with a letter outside ASCII (`none`: `UnicodeError`) -/
  toASCII : Str → Option Str
  /-- `unicodedata.decimal`: the digits that `\d` matches and `int` reads -/
  decimal : Char → Option Nat
  lower_ascii : ∀ s : Str, (∀ c ∈ s, isAscii c = true) → lower s = s.map Char.toLower
  lower_mem : ∀ (s : Str) (c : Char), c ∈ lower s → isAscii c = true → c.isLower = false → c ∈ s
  lower_blank : ∀ s w : Str, (∀ c ∈ w, isSpace c = true) → lower (s ++ w) = lower s ++ w
  decimal_ascii : ∀ c : Char, isAscii c = true → decimal c = if c.isDigit then some (c.toNat - 48) else none
  toASCII_lf : ∀ l r : Str, toASCII l = some r → '\n' ∈ r → '\n' ∈ l

/-- Case mapping of ASCII only, and no internationalized labels: agrees with the standard
library on ASCII text. -/
def asciiUnicode : Unicode where
  lower := List.map Char.toLower
  toASCII := fun _ => none
  decimal := fun c => if c.isDigit then some (c.toNat - 48) else none
  lower_ascii := fun _ _ => rfl
  lower_mem := by
    intro s c h _ hl
    obtain ⟨d, hd, rfl⟩ := List.mem_map.1 h
    unfold Char.toLower at hl ⊢
    split at hl
    · next hu =>
      exfalso
      have h1 : 65 ≤ d.toNat := hu.1
      have h2 : d.toNat ≤ 90 := hu.2
      simp only [Char.isLower, Bool.and_eq_false_iff, decide_eq_false_iff_not] at hl
      simp [UInt32.le_iff_toNat_le] at hl
      omega
    · next hu => rwa [dif_neg hu]
  lower_blank := by
    intro s w hw
    rw [List.map_append, List.append_cancel_left_eq]
    refine (List.map_congr_left fun c hc => ?_).trans (List.map_id w)
    have hsp := hw c hc
    simp only [isSpace, Bool.or_eq_true, Bool.and_eq_true, decide_eq_true_eq, beq_iff_eq] at hsp
    have hup : ¬ (65 ≤ c.toNat ∧ c.toNat ≤ 90) := by omega
    rw [Char.toLower, dif_neg fun h => hup ⟨h.1, h.2⟩]
    rfl
  decimal_ascii := fun _ _ => rfl
  toASCII_lf := by
    intro l r h
    cases h

def idnaDots : List Char := ['.', '\u3002', '\uff0e', '\uff61']

variable (U : Unicode)

/-- `ToASCII` of any label. -/
def idnaLabel (l : Str) : Option Str :=
  if l.all isAscii then (if 0 < l.length ∧ l.length < 64 then some l else none) else U.toASCII l

def idnaLabels (U : Unicode) : List Str → Option (List Str)
  | [] => some []
  | l :: ls =>
    match idnaLabel U l, idnaLabels U ls with
    | some r, some rs => some (r :: rs)
    | _, _ => none

/-- `s.encode("idna")`. -/
def idnaEncode (s : Str) : Option Str :=
  if s = [] then some []
  else if s.all isAscii then
    let labels := s.splitOn '.'
    if labels.dropLast.all (fun l => decide (0 < l.length ∧ l.length < 64)) &&
        labels.getLast?.all (fun l => decide (l.length < 64)) then some s
    else none
  else
    let labels := s.splitOnP (· ∈ idnaDots)
    if labels.getLast? = some [] then
      (idnaLabels U labels.dropLast).map fun ls => ['.'].intercalate ls ++ ['.']
    else (idnaLabels U labels).map fun ls => ['.'].intercalate ls

/-! ## The last letter of an encoded name -/

def encodedLabel (l : Str) : Option Str :=
  if l.all isAscii then some l else U.toASCII l

def lastLabel (s : Str) : Str := s.rtakeWhile (· ∉ idnaDots)

variable {U : Unicode}

lemma encodedLabel_of_idnaLabel {l r : Str} (h : idnaLabel U l = some r) : encodedLabel U l = some r := by
  unfold idnaLabel at h
  unfold encodedLabel
  split_ifs at h ⊢
  · exact h
  · exact h

lemma idnaLabels_getLast {ls rs : List Str} (h : idnaLabels U ls = some rs)
    {l : Str} (hl : ls.getLast? = some l) : ∃ r, rs.getLast? = some r ∧ idnaLabel U l = some r := by
  induction ls generalizing rs with
  | nil => cases hl
  | cons m ls ih =>
    simp only [idnaLabels] at h
    split at h
    · next r0 rs0 h0 hs0 =>
      simp only [some.injEq] at h
      subst h
      cases ls with
      | nil =>
        simp only [idnaLabels, some.injEq] at hs0
        simp only [getLast?_singleton, some.injEq] at hl
        subst hl hs0
        exact ⟨r0, rfl, h0⟩
      | cons k ls =>
        rw [getLast?_cons_cons] at hl
        obtain ⟨r, h1, h2⟩ := ih hs0 hl
        refine ⟨r, ?_, h2⟩
        rw [getLast?_cons, h1]
        rfl
    · cases h

/-- The last letter of a join is the last letter of the last part, or the separator. -/
lemma getLast_intercalate {x c : Char} (hx : c ≠ x) {ls : List Str} {l : Str} (hl : ls.getLast? = some l) :
    ([x].intercalate ls).getLast? = some c ↔ l.getLast? = some c := by
  induction ls with
  | nil => cases hl
  | cons m ls ih =>
    cases ls with
    | nil =>
      simp only [getLast?_singleton, some.injEq] at hl
      subst hl
      simp
    | cons k ls =>
      rw [getLast?_cons_cons] at hl
      rw [intercalate_cons_cons, getLast?_append, ← ih hl]
      cases hr : ([x].intercalate (k :: ls)).getLast? with
      | some d => simp
      | none =>
        have hx' : x ≠ c := fun e => hx e.symm
        simp [hx']

lemma splitOnP_getLast (p : Char → Bool) (s : Str) : (s.splitOnP p).getLast? = some (s.rtakeWhile (!p ·)) := by
  have hs := rdropWhile_append_rtakeWhile (p := (!p ·)) (l := s)
  have htail : ∀ c ∈ s.rtakeWhile (!p ·), p c = false := by
    intro c hc
    simpa using mem_rtakeWhile_imp hc
  rcases eq_nil_or_concat (s.rdropWhile (!p ·)) with hd | ⟨pre, sep, hd⟩
  · rw [hd, nil_append] at hs
    rw [hs] at htail
    rw [splitOnP_eq_singleton htail, hs]
    rfl
  have hsep : p sep = true := by
    have hne : s.rdropWhile (!p ·) ≠ [] := by simp [hd]
    have := rdropWhile_last_not (!p ·) s hne
    simpa [hd] using this
  have hsplit : s = pre ++ sep :: s.rtakeWhile (!p ·) := by
    rw [hd] at hs
    simpa using hs.symm
  calc (s.splitOnP p).getLast?
      = ((pre ++ sep :: s.rtakeWhile (!p ·)).splitOnP p).getLast? := by rw [← hsplit]
    _ = (pre.splitOnP p ++ (s.rtakeWhile (!p ·)).splitOnP p).getLast? := by
      rw [splitOnP_append_cons _ _ hsep]
    _ = some (s.rtakeWhile (!p ·)) := by
      rw [splitOnP_eq_singleton htail, getLast?_concat]

lemma getLast_rtakeWhile {q : Char → Bool} {s : Str} {c : Char} (hc : q c = true) :
    (s.rtakeWhile q).getLast? = some c ↔ s.getLast? = some c := by
  rcases eq_nil_or_concat s with rfl | ⟨t, d, rfl⟩
  · simp
  rw [concat_eq_append, rtakeWhile_concat, getLast?_concat]
  split
  · rw [getLast?_concat]
  next hd =>
  simp only [getLast?_nil, reduceCtorEq, some.injEq, false_iff]
  rintro rfl
  exact hd hc

/-- **When an encoded name ends in a line feed**: when its encoded last label does. -/
theorem idnaEncode_getLast_lf {s v : Str} (hs : s.all isAscii = false) (h : idnaEncode U s = some v) :
    v.getLast? = some '\n' ↔ ∃ r, encodedLabel U (lastLabel s) = some r ∧ r.getLast? = some '\n' := by
  have hne : s ≠ [] := by
    rintro rfl
    simp at hs
  have hlast := splitOnP_getLast (· ∈ idnaDots) s
  have hll : s.rtakeWhile (fun c => !decide (c ∈ idnaDots)) = lastLabel s := by
    unfold lastLabel
    congr 1
    funext c
    simp
  rw [hll] at hlast
  unfold idnaEncode at h
  rw [if_neg hne, if_neg (by simp [hs])] at h
  simp only [] at h
  split at h
  · next he =>
    -- a trailing dot is written back
    rw [hlast, some.injEq] at he
    obtain ⟨ls, -, rfl⟩ := map_eq_some_iff.1 h
    rw [getLast?_concat, he]
    simp [encodedLabel]
  · obtain ⟨ls, hl, rfl⟩ := map_eq_some_iff.1 h
    obtain ⟨r, h1, h2⟩ := idnaLabels_getLast hl hlast
    rw [getLast_intercalate (by decide) h1, encodedLabel_of_idnaLabel h2]
    simp

end PyText
