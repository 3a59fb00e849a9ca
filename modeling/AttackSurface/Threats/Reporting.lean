import AttackSurface.Threats.Idempotence

/-!
# Which assets `match` reports

A name is looked up in the first product of the advisory that lists it.  Where several products
share a name, the ranges of the later ones are not seen (`reported_iff`).
-/

namespace App.Threats

open PyText List

variable {T : Texts} {content : AdvisoryContent T} {a : Nat}

def Affects (p : AffectedProduct T) (version : Option Str) : Prop :=
  p.versions = [] ∨ ∃ text v, bound version = some text ∧ Version.parse T text = some v ∧
    ∃ r ∈ p.versions, inRange T v r = true

lemma judge_affected_iff (p : AffectedProduct T) (version : Option Str) :
    (judge T p version).1 = .potentiallyAffected ↔ Affects p version := by
  unfold judge Affects
  split
  · next hall => simp [hall]
  next hall =>
  rw [or_iff_right hall]
  cases bound version with
  | none => simp
  | some text =>
    dsimp only
    cases hparse : Version.parse T text with
    | none => simp [hparse]
    | some v =>
      dsimp only
      cases hfind : p.versions.find? (inRange T v) with
      | none =>
        simp only [reduceCtorEq, Option.some.injEq, false_iff, not_exists, not_and]
        rintro _ w rfl hw r hr
        rw [hparse, Option.some_inj] at hw
        rw [← hw]
        exact find?_eq_none.1 hfind r hr
      | some r => exact iff_of_true rfl ⟨text, v, rfl, hparse, r, mem_of_find?_eq_some hfind, find?_some hfind⟩

def Flagged (out : List AssetVerdict) (a : Nat) : Prop := ∃ v ∈ out, v.assetId = a ∧ v.status = .potentiallyAffected

lemma add_affected_iff (v : AssetVerdict) (s : MatchStatus) (ev : EvidenceItem) :
    (v.add s ev).assetId = v.assetId ∧
      ((v.add s ev).status = .potentiallyAffected ↔ v.status = .potentiallyAffected ∨ s = .potentiallyAffected) := by
  have hrank : ∀ m : MatchStatus, m.rank ≤ 3 ∧ (m.rank = 3 ↔ m = .potentiallyAffected) := by
    intro m
    cases m <;> simp [MatchStatus.rank]
  have hv := hrank v.status
  have hs := hrank s
  unfold AssetVerdict.add
  split_ifs with hlt
  · refine ⟨rfl, ?_⟩
    rw [or_iff_right]
    rw [← hv.2]
    omega
  all_goals
    refine ⟨rfl, ?_⟩
    rw [← hv.2, ← hs.2]
    omega

/-- One observation more reports its asset if the first product of its name affects it. -/
lemma reported_addObservation (out : List AssetVerdict) (o : ProductObservation) :
    Flagged (addObservation T content out o) a ↔ Flagged out a ∨
      o.assetId = a ∧ ∃ p ∈ productNamed T content (normName T o.name), Affects p o.version := by
  unfold addObservation
  cases productNamed T content (normName T o.name) with
  | none => simp
  | some product =>
    dsimp only
    have hverdict : (evidenceOf T product o).verdict = .potentiallyAffected ↔ Affects product o.version :=
      judge_affected_iff product o.version
    generalize evidenceOf T product o = ev at hverdict
    simp only [Option.mem_def, Option.some.injEq, exists_eq_left', ← hverdict]
    split
    · next hany =>
      obtain ⟨w, hw, hid⟩ := any_eq_true.1 hany
      constructor
      · rintro ⟨_, hmem, ha, hstatus⟩
        obtain ⟨v, hv, rfl⟩ := mem_map.1 hmem
        by_cases hv' : v.assetId = o.assetId
        · have hadd := add_affected_iff v ev.verdict ev
          rw [if_pos hv'] at ha hstatus
          rw [hadd.1] at ha
          rcases hadd.2.1 hstatus with hold | hnew
          · exact .inl ⟨v, hv, ha, hold⟩
          · exact .inr ⟨hv'.symm.trans ha, hnew⟩
        · rw [if_neg hv'] at ha hstatus
          exact .inl ⟨v, hv, ha, hstatus⟩
      rintro (⟨v, hv, ha, hstatus⟩ | ⟨ha, hnew⟩)
      · refine ⟨_, mem_map_of_mem hv, ?_⟩
        split
        · have hadd := add_affected_iff v ev.verdict ev
          exact ⟨hadd.1.trans ha, hadd.2.2 (.inl hstatus)⟩
        · exact ⟨ha, hstatus⟩
      have hadd := add_affected_iff w ev.verdict ev
      have hid := of_decide_eq_true hid
      refine ⟨_, mem_map_of_mem hw, ?_⟩
      rw [if_pos hid]
      exact ⟨hadd.1.trans (hid.trans ha), hadd.2.2 (.inr hnew)⟩
    · simp [Flagged, or_and_right, exists_or]

lemma reported_iff_first (observations : List ProductObservation) : Flagged (verdicts T content observations) a ↔
    ∃ o ∈ observations, o.assetId = a ∧ ∃ p ∈ productNamed T content (normName T o.name), Affects p o.version := by
  have run : ∀ (os : List ProductObservation) (out : List AssetVerdict),
      Flagged (os.foldl (addObservation T content) out) a ↔ Flagged out a ∨ ∃ o ∈ os, o.assetId = a ∧
        ∃ p ∈ productNamed T content (normName T o.name), Affects p o.version := by
    intro os
    induction os with
    | nil => simp
    | cons o os ih =>
      intro out
      rw [foldl_cons, ih, reported_addObservation, or_assoc]
      simp
  rw [verdicts, run]
  simp [Flagged]

/-- **Flagged assets.**  `match` reports exactly the assets with an observation that some product of its
name affects, if and only if each of them has an observation that the first product of its name
affects. -/
theorem reported_iff (T : Texts) (content : AdvisoryContent T) (observations : List ProductObservation) :
    (∀ a, Flagged (verdicts T content observations) a ↔ ∃ o ∈ observations, o.assetId = a ∧
      ∃ p ∈ content.affected, normName T o.name ∈ p.matchNames ∧ Affects p o.version) ↔
    ∀ o ∈ observations, ∀ p ∈ content.affected, normName T o.name ∈ p.matchNames → Affects p o.version →
      ∃ o' ∈ observations, o'.assetId = o.assetId ∧
        ∃ first ∈ productNamed T content (normName T o'.name), Affects first o'.version := by
  simp only [reported_iff_first]
  constructor
  · intro h o ho p hp hname haffects
    exact (h o.assetId).2 ⟨o, ho, rfl, p, hp, hname, haffects⟩
  intro h a
  constructor
  · rintro ⟨o, ho, ha, p, hp, haffects⟩
    exact ⟨o, ho, ha, p, mem_of_find?_eq_some hp, by simpa using find?_some hp, haffects⟩
  · rintro ⟨o, ho, rfl, p, hp, hname, haffects⟩
    exact h o ho p hp hname haffects

def twoLines : AdvisoryContent asciiTexts where
  affected :=
    [ { product := "panel 1".toList, matchNames := ["panel".toList],
        versions := [{ fixed := some "1.4".toList, parseable := by decide +kernel }] },
      { product := "panel 2".toList, matchNames := ["panel".toList],
        versions := [{ introduced := some "2.0".toList, parseable := by decide +kernel }] } ]

/-- Version 2.1 lies in the range of the second entry, but only the first one is looked at. -/
theorem second_line_missed :
    (verdicts asciiTexts twoLines [⟨1, "Panel".toList, some "2.1".toList, .technology, none, false⟩]).map
        AssetVerdict.status = [.notAffectedVersion] ∧
      ∃ p ∈ twoLines.affected, normName asciiTexts "Panel".toList ∈ p.matchNames ∧ Affects p (some "2.1".toList) := by
  refine ⟨by decide +kernel, twoLines.affected.get ⟨1, by decide⟩, get_mem _ _, by decide +kernel, ?_⟩
  exact (judge_affected_iff _ _).1 (by decide +kernel)

end App.Threats
