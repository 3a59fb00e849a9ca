import AttackSurface.Findings.Service

/-!
# Telling findings apart by their fingerprint (`fingerprint`)

The fingerprint is the digest of five texts with a bar between each two.  The ids are
`str(uuid)` and a source has no bar, so the first three texts can be read back
(`append_bar_eq_iff_of_plain`).  The rule id and the location come from a scanner and may have bars: what
one finding has at the end of its rule id another may have at the start of its location.
-/

namespace App.Findings

open PyText List

/-- The second rule id goes on after a bar with a text that the first location starts with. -/
def Shifted (rule location rule' location' : Str) : Prop :=
  ∃ moved, rule' = rule ++ '|' :: moved ∧ location = moved ++ '|' :: location'

/-- Two texts cut at a bar are the same pieces, or one piece reaches over into the other. -/
lemma append_bar_eq_iff {a b x y : Str} :
    a ++ '|' :: x = b ++ '|' :: y ↔ a = b ∧ x = y ∨ Shifted a x b y ∨ Shifted b y a x := by
  rw [append_eq_append_iff]
  constructor
  · rintro (⟨m, rfl, hm⟩ | ⟨m, rfl, hm⟩)
    · cases m with
      | nil => exact .inl ⟨by simp, by simpa using hm⟩
      | cons c m =>
        obtain ⟨rfl, rfl⟩ := cons.inj hm
        exact .inr (.inl ⟨m, rfl, rfl⟩)
    cases m with
    | nil => exact .inl ⟨by simp, by simpa using hm.symm⟩
    | cons c m =>
      obtain ⟨rfl, rfl⟩ := cons.inj hm
      exact .inr (.inr ⟨m, rfl, rfl⟩)
  · rintro (⟨rfl, rfl⟩ | ⟨m, rfl, rfl⟩ | ⟨m, rfl, rfl⟩)
    · exact .inl ⟨[], by simp, by simp⟩
    · exact .inl ⟨'|' :: m, rfl, rfl⟩
    · exact .inr ⟨'|' :: m, rfl, rfl⟩

lemma Shifted.rule_ne {a x b y : Str} (h : Shifted a x b y) : a ≠ b := by
  obtain ⟨m, rfl, -⟩ := h
  intro heq
  have hlen := congrArg length heq
  simp at hlen

/-- A text without a bar is read back. -/
lemma append_bar_eq_iff_of_plain {a b x y : Str} (ha : '|' ∉ a) (hb : '|' ∉ b) :
    a ++ '|' :: x = b ++ '|' :: y ↔ a = b ∧ x = y := by
  rw [append_bar_eq_iff, or_iff_left]
  rintro (⟨m, rfl, -⟩ | ⟨m, rfl, -⟩)
  · exact hb (by simp)
  · exact ha (by simp)

/-- A finding as its fingerprint sees it; tenants and assets have ids. -/
structure Named where
  tenant : Nat
  asset : Nat
  source : Str
  rule : Str
  location : Option Str

section

variable (U : Unicode) (sha256 : Str → Str) (uuid : Nat → Str)

def Named.fingerprint (f : Named) : Str :=
  App.Findings.fingerprint U ⟨sha256, uuid f.tenant, uuid⟩ f.asset f.source f.rule f.location

def Named.Same (f g : Named) : Prop :=
  f.tenant = g.tenant ∧ f.asset = g.asset ∧ f.source = g.source ∧ f.rule = g.rule ∧
    normLocation U f.location = normLocation U g.location

/-- Two findings of one source on one asset, with a piece between two bars that belongs to the
rule id of the one and to the location of the other. -/
def Named.Ambiguous (f g : Named) : Prop := f.tenant = g.tenant ∧ f.asset = g.asset ∧ f.source = g.source ∧
    (Shifted f.rule (normLocation U f.location) g.rule (normLocation U g.location) ∨
      Shifted g.rule (normLocation U g.location) f.rule (normLocation U f.location))

/-- **Fingerprints.**  Two findings with one fingerprint are the same in all five respects,
unless a piece of the one's rule id stands in the location of the other. -/
theorem fingerprint_tells_apart_iff (hsha : Function.Injective sha256)
    (huuid : Function.Injective uuid) (hplain : ∀ i, '|' ∉ uuid i) {f g : Named}
    (hf : '|' ∉ f.source) (hg : '|' ∉ g.source) :
    (f.fingerprint U sha256 uuid = g.fingerprint U sha256 uuid → f.Same U g) ↔ ¬f.Ambiguous U g := by
  have hjoined : f.fingerprint U sha256 uuid = g.fingerprint U sha256 uuid ↔
      f.tenant = g.tenant ∧ f.asset = g.asset ∧ f.source = g.source ∧
        f.rule ++ '|' :: normLocation U f.location = g.rule ++ '|' :: normLocation U g.location := by
    rw [Named.fingerprint, Named.fingerprint, fingerprint, fingerprint, hsha.eq_iff]
    simp only [intercalate, List.intersperse, flatten_cons, flatten_nil, append_nil, singleton_append]
    rw [append_bar_eq_iff_of_plain (hplain _) (hplain _), append_bar_eq_iff_of_plain (hplain _) (hplain _),
      append_bar_eq_iff_of_plain hf hg, huuid.eq_iff, huuid.eq_iff]
  rw [hjoined, append_bar_eq_iff]
  constructor
  · rintro h ⟨ht, ha, hs, hshift⟩
    obtain ⟨-, -, -, hrule, -⟩ := h ⟨ht, ha, hs, .inr hshift⟩
    rcases hshift with hshift | hshift
    · exact hshift.rule_ne hrule
    · exact hshift.rule_ne hrule.symm
  · rintro h ⟨ht, ha, hs, ⟨hrule, hloc⟩ | hshift⟩
    · exact ⟨ht, ha, hs, hrule, hloc⟩
    · exact absurd ⟨ht, ha, hs, hshift⟩ h

end

/-! ## A rule id with a bar -/

/-- A template's rule id with the name of a matcher, reported without a location. -/
def barInRule : Named := ⟨1, 2, "nuclei".toList, "panel:a|b".toList, none⟩

def barInLocation : Named := ⟨1, 2, "nuclei".toList, "panel:a".toList, some "B|".toList⟩

def plainId (i : Nat) : Str := List.replicate i 'i'

theorem fingerprint_ambiguous :
    barInRule.fingerprint asciiUnicode id plainId = barInLocation.fingerprint asciiUnicode id plainId ∧
      barInRule.rule ≠ barInLocation.rule := by decide +kernel

theorem fingerprint_tells_apart_iff_bar :
    ¬(barInRule.fingerprint asciiUnicode id plainId = barInLocation.fingerprint asciiUnicode id plainId →
      barInRule.Same asciiUnicode barInLocation) := by
  rw [fingerprint_tells_apart_iff asciiUnicode id plainId Function.injective_id
    (fun i j h => List.replicate_left_injective 'i' h)
    (fun i h => absurd (eq_of_mem_replicate h) (by decide)) (by decide) (by decide), not_not]
  exact ⟨rfl, rfl, rfl, .inr ⟨"b".toList, by decide, by decide +kernel⟩⟩

end App.Findings
