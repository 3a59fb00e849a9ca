import AttackSurface.Threats.Evaluation
import AttackSurface.Order.Least

/-!
# A second evaluation changes nothing

`evaluateOrg` reads the inventory, the findings and the check runs, none of which it writes, so
a second call reads the same.  What it writes to a match is stable (`refresh_refresh`,
`retire_retire`: only the time of the evaluation changes), and so is the choice of assets where
there are too many: the ones chosen first now have a match and come first again
(`chosen_again`).

A gap in what was read leaves the matches of the advisory alone that were not chosen, so that
none of them is retired (`evaluate_gap`).
-/

namespace App.Threats

open PyText AsmSensors App.Scans App.Scope App.Findings List

/-! ## The choice of assets -/

section Rank

variable (existing : List Nat)

lemma rankLe_iff {a b : Nat} : rankLe existing a b = true ↔
      (a ∈ existing ∧ b ∉ existing) ∨ ((a ∈ existing ↔ b ∈ existing) ∧ a ≤ b) := by
  by_cases ha : a ∈ existing <;> by_cases hb : b ∈ existing <;> simp [rankLe, ha, hb]

instance : Std.Total fun a b => rankLe existing a b = true := by
  constructor
  intro a b
  rw [rankLe_iff, rankLe_iff]
  by_cases ha : a ∈ existing <;> by_cases hb : b ∈ existing <;> simp [ha, hb] <;> omega

instance : IsTrans Nat fun a b => rankLe existing a b = true := by
  constructor
  intro a b c hab hbc
  rw [rankLe_iff] at hab hbc ⊢
  by_cases ha : a ∈ existing <;> by_cases hb : b ∈ existing <;> by_cases hc : c ∈ existing <;>
    simp [ha, hb, hc] at hab hbc ⊢ <;> omega

instance : Std.Antisymm fun a b => rankLe existing a b = true := by
  constructor
  intro a b hab hba
  rw [rankLe_iff] at hab hba
  by_cases ha : a ∈ existing <;> by_cases hb : b ∈ existing <;> simp [ha, hb] at hab hba <;> omega

end Rank

section Chosen

variable {T : Texts} {R : Reading T} {content : AdvisoryContent T}

lemma chosen_congr {existing existing' : List Nat} (h : ∀ a, a ∈ existing' ↔ a ∈ existing) :
    R.chosen content existing' = R.chosen content existing := by
  have hrank : rankLe existing' = rankLe existing := by
    funext a b
    simp [rankLe, h]
  rw [Reading.chosen, Reading.chosen, hrank]

lemma chosen_split (existing : List Nat) (h : maxMatchesPerAdvisory < (R.assetIds content).length) :
    ∃ rest, (R.assetIds content).Perm (R.chosen content existing ++ rest) ∧
      (R.chosen content existing).length = maxMatchesPerAdvisory ∧
      ∀ a ∈ R.chosen content existing, ∀ b ∈ rest, rankLe existing a b = true := by
  let sorted := (R.assetIds content).insertionSort fun a b => rankLe existing a b
  have hchosen : R.chosen content existing = sorted.take maxMatchesPerAdvisory := by
    rw [Reading.chosen, if_pos h]
  refine ⟨sorted.drop maxMatchesPerAdvisory, ?_, ?_, ?_⟩
  · rw [hchosen, take_append_drop]
    exact (perm_insertionSort _ _).symm
  · rw [hchosen, length_take, length_insertionSort]
    omega
  · rw [hchosen]
    exact LeastOf.rel_of_take_drop _ _ _

lemma chosen_again {existing existing' : List Nat}
    (hex : ∀ a, a ∈ existing' ↔ a ∈ existing ∨ a ∈ R.chosen content existing) {a : Nat} :
    a ∈ R.chosen content existing' ↔ a ∈ R.chosen content existing := by
  by_cases hmany : maxMatchesPerAdvisory < (R.assetIds content).length
  · obtain ⟨rest, hperm, hlen, hrank⟩ := chosen_split existing hmany
    have hnodup : (R.chosen content existing ++ rest).Nodup := hperm.nodup_iff.1 (nodup_dedup _)
    -- the chosen ones come before the rest in the new order as well
    have hrank' : ∀ c ∈ R.chosen content existing, ∀ d ∈ rest, rankLe existing' c d = true := by
      intro c hc d hd
      have hdc : d ∉ R.chosen content existing :=
        fun hmem => (nodup_append.1 hnodup).2.2 d hmem d hd rfl
      have hold := (rankLe_iff existing).1 (hrank c hc d hd)
      have hc' : c ∈ existing' := (hex c).2 (.inr hc)
      have hd' : d ∈ existing' ↔ d ∈ existing := by rw [hex d]; tauto
      refine (rankLe_iff existing').2 ?_
      by_cases hde : d ∈ existing
      · have hle : c ≤ d := by
          rcases hold with hcase | hcase
          · exact absurd hde hcase.2
          · exact hcase.2
        exact .inr ⟨iff_of_true hc' (hd'.2 hde), hle⟩
      · exact .inl ⟨hc', fun hmem => hde (hd'.1 hmem)⟩
    have htake := LeastOf.take_insertionSort (fun a b => rankLe existing' a b = true) hperm hrank'
    rw [hlen] at htake
    have hnew : R.chosen content existing' =
        (R.chosen content existing).insertionSort fun a b => rankLe existing' a b := by
      rw [Reading.chosen, if_pos hmany]
      exact htake
    rw [hnew, mem_insertionSort]
  · rw [Reading.chosen, if_neg hmany, Reading.chosen, if_neg hmany]

end Chosen

/-! ## Writing a match twice -/

def Match.untimed (m : Match) : Match := { m with lastEvaluatedAt := 0 }

def Match.at (m : Match) (t : Int) : Match := { m with lastEvaluatedAt := t }

section Rows

variable {T : Texts} {R : Reading T} {adv : Advisory} {content : AdvisoryContent T} {m : Match}

/-- An outcome that was dropped is not dropped again, and one that was kept is kept. -/
lemma checkedAfter_refresh (now : Int) :
    R.checkedAfter adv content (R.refresh adv content now m) = R.checkedAfter adv content m := by
  have hfields : (R.refresh adv content now m).checked = R.checkedAfter adv content m := rfl
  have houtcome : (R.refresh adv content now m).checkOutcome = (R.checkedAfter adv content m).outcome := rfl
  have hrun : (R.refresh adv content now m).lastCheckRunId = m.lastCheckRunId := rfl
  rw [Reading.checkedAfter, hfields, houtcome, hrun]
  cases h : R.outdated adv content m.checkOutcome m.lastCheckRunId with
  | true =>
    have hnone : (R.checkedAfter adv content m).outcome = .none := by rw [Reading.checkedAfter, if_pos h]
    rw [hnone, if_neg]
    simp [Reading.outdated]
  | false =>
    have hkept : R.checkedAfter adv content m = m.checked := by
      rw [Reading.checkedAfter, if_neg (by rw [h]; decide)]
    rw [hkept]
    exact if_neg (by rw [show m.checked.outcome = m.checkOutcome from rfl, h]; decide)

lemma refresh_refresh (now now' : Int) :
    R.refresh adv content now' (R.refresh adv content now m) = (R.refresh adv content now m).at now' := by
  rw [Reading.refresh, checkedAfter_refresh]
  rfl

lemma retire_retire (now now' : Int) : retire now' (retire now m) = (retire now m).at now' := rfl

def Reading.concerns (R : Reading T) (adv : Advisory) (m : Match) : Prop :=
  m.organizationId = R.org ∧ m.advisoryId = adv.id

/-- Brought up to date: another evaluation with the same choice only sets the time. -/
structure Settled (R : Reading T) (adv : Advisory) (content : AdvisoryContent T) (chosen : List Nat) (m : Match) :
    Prop where
  refreshed : R.concerns adv m → m.assetId ∈ chosen → ∀ t, R.refresh adv content t m = m.at t
  retired : R.concerns adv m → m.assetId ∉ chosen → R.gap content = none → ∀ t, retire t m = m.at t

lemma Settled.at {chosen : List Nat} (h : Settled R adv content chosen m) (s : Int) :
    Settled R adv content chosen (m.at s) where
  refreshed := fun hc hmem t => h.refreshed hc hmem t
  retired := fun hc hmem hgap t => h.retired hc hmem hgap t

lemma Settled.congr {chosen chosen' : List Nat} (h : Settled R adv content chosen m)
    (hmem : ∀ a, a ∈ chosen' ↔ a ∈ chosen) : Settled R adv content chosen' m where
  refreshed := fun hc ha => h.refreshed hc ((hmem _).1 ha)
  retired := fun hc ha => h.retired hc fun h' => ha ((hmem _).2 h')

lemma Settled.touch {chosen : List Nat} (h : Settled R adv content chosen m) (now : Int) :
    R.touch adv content now chosen m = m ∨ R.touch adv content now chosen m = m.at now := by
  unfold Reading.touch
  split
  · next hc =>
    split
    · next hmem => exact .inr (h.refreshed hc hmem now)
    next hmem =>
    split
    · exact .inl rfl
    next hgap =>
    refine .inr (h.retired hc hmem ?_ now)
    simpa using hgap
  · exact .inl rfl

lemma touch_names (R : Reading T) (adv : Advisory) (content : AdvisoryContent T) (now : Int) (chosen : List Nat)
    (m : Match) :
    (R.touch adv content now chosen m).organizationId = m.organizationId ∧
      (R.touch adv content now chosen m).advisoryId = m.advisoryId ∧
      (R.touch adv content now chosen m).assetId = m.assetId := by
  unfold Reading.touch
  split
  · split
    · exact ⟨rfl, rfl, rfl⟩
    · split <;> exact ⟨rfl, rfl, rfl⟩
  · exact ⟨rfl, rfl, rfl⟩

lemma settled_touch (now : Int) (chosen : List Nat) :
    Settled R adv content chosen (R.touch adv content now chosen m) := by
  by_cases hc : m.organizationId = R.org ∧ m.advisoryId = adv.id
  · by_cases hmem : m.assetId ∈ chosen
    · rw [Reading.touch, if_pos hc, if_pos hmem]
      exact ⟨fun _ _ t => refresh_refresh now t, fun _ hout => absurd hmem hout⟩
    cases hgap : R.gap content with
    | some g =>
      rw [Reading.touch, if_pos hc, if_neg hmem, if_pos (by rw [hgap]; rfl)]
      exact ⟨fun _ hin => absurd hin hmem, fun _ _ hnone => by rw [hgap] at hnone; cases hnone⟩
    | none =>
      rw [Reading.touch, if_pos hc, if_neg hmem, if_neg (by rw [hgap]; decide)]
      exact ⟨fun _ hin => absurd hin hmem, fun _ _ _ t => retire_retire now t⟩
  · rw [Reading.touch, if_neg hc]
    exact ⟨fun hin => absurd hin hc, fun hin => absurd hin hc⟩

lemma touch_of_ne {adv' : Advisory} {content' : AdvisoryContent T} (h : m.advisoryId ≠ adv'.id) (now : Int)
    (chosen : List Nat) : R.touch adv' content' now chosen m = m := by
  rw [Reading.touch, if_neg fun hc => h hc.2]

end Rows

/-! ## One round -/

section Rounds

variable {T : Texts} {R : Reading T} {now : Int} {st : Progress}

variable {adv : Advisory} {m : Match}

lemma mem_created {content : AdvisoryContent T} {existing chosen : List Nat}
    (h : m ∈ R.created adv content now existing chosen) :
    ∃ a ∈ chosen, a ∉ existing ∧ m = R.refresh adv content now (R.blank adv now a) := by
  obtain ⟨a, ha, rfl⟩ := List.mem_map.1 h
  obtain ⟨hmem, hnew⟩ := mem_filter.1 ha
  exact ⟨a, hmem, of_decide_eq_true hnew, rfl⟩

variable {entry : Advisory × AdvisoryContent T}

lemma mem_round (h : m ∈ (evaluateAdvisory R now st entry).rows) :
    (∃ m₀ ∈ st.rows, m = R.touch entry.1 entry.2 now (R.chosen entry.2 (R.existing entry.1 st.rows)) m₀) ∨
    ∃ a ∈ R.chosen entry.2 (R.existing entry.1 st.rows), a ∉ R.existing entry.1 st.rows ∧
      m = R.refresh entry.1 entry.2 now (R.blank entry.1 now a) := by
  rcases mem_append.1 h with h | h
  · obtain ⟨m₀, hm₀, rfl⟩ := List.mem_map.1 h
    exact .inl ⟨m₀, hm₀, rfl⟩
  · exact .inr (mem_created h)

lemma mem_existing {rows : List Match} {a : Nat} :
    a ∈ R.existing adv rows ↔ ∃ m ∈ rows, R.concerns adv m ∧ m.assetId = a := by
  rw [Reading.existing, List.mem_map]
  unfold Reading.concerns
  constructor
  · rintro ⟨m, hm, ha⟩
    obtain ⟨hmem, hc⟩ := mem_filter.1 hm
    exact ⟨m, hmem, of_decide_eq_true hc, ha⟩
  · rintro ⟨m, hm, hc, ha⟩
    exact ⟨m, mem_filter.2 ⟨hm, decide_eq_true hc⟩, ha⟩

lemma concerns_touch {adv adv' : Advisory} {content' : AdvisoryContent T} {chosen : List Nat} :
    R.concerns adv (R.touch adv' content' now chosen m) ↔ R.concerns adv m := by
  obtain ⟨horg, hadv, -⟩ := touch_names R adv' content' now chosen m
  rw [Reading.concerns, Reading.concerns, horg, hadv]

lemma existing_round {a : Nat} :
    a ∈ R.existing adv (evaluateAdvisory R now st entry).rows ↔ a ∈ R.existing adv st.rows ∨
        (entry.1.id = adv.id ∧ a ∈ R.chosen entry.2 (R.existing entry.1 st.rows)) := by
  -- a row of the asset before the round is one after it
  have keeps : ∀ m ∈ st.rows, R.concerns adv m →
      ∃ m' ∈ (evaluateAdvisory R now st entry).rows, R.concerns adv m' ∧ m'.assetId = m.assetId := by
    intro m hm hc
    exact ⟨_, mem_append_left _ (List.mem_map_of_mem hm), concerns_touch.2 hc,
      (touch_names R entry.1 entry.2 now _ m).2.2⟩
  rw [mem_existing, mem_existing]
  constructor
  · rintro ⟨m, hm, hc, rfl⟩
    rcases mem_round hm with ⟨m₀, hm₀, rfl⟩ | ⟨a, ha, -, rfl⟩
    · exact .inl ⟨m₀, hm₀, concerns_touch.1 hc, (touch_names R entry.1 entry.2 now _ m₀).2.2.symm⟩
    · exact .inr ⟨hc.2, ha⟩
  rintro (⟨m, hm, hc, rfl⟩ | ⟨hid, ha⟩)
  · exact keeps m hm hc
  by_cases hold : a ∈ R.existing entry.1 st.rows
  · obtain ⟨m, hm, hc, rfl⟩ := mem_existing.1 hold
    exact keeps m hm ⟨hc.1, hc.2.trans hid⟩
  · refine ⟨R.refresh entry.1 entry.2 now (R.blank entry.1 now a), mem_append_right _ ?_, ⟨rfl, hid⟩, rfl⟩
    exact List.mem_map.2 ⟨a, mem_filter.2 ⟨ha, decide_eq_true hold⟩, rfl⟩

lemma settled_round_of_ne {content : AdvisoryContent T} {chosen : List Nat} (hne : entry.1.id ≠ adv.id)
    (h : ∀ m ∈ st.rows, Settled R adv content chosen m) :
    ∀ m ∈ (evaluateAdvisory R now st entry).rows, Settled R adv content chosen m := by
  intro m hm
  rcases mem_round hm with ⟨m₀, hm₀, rfl⟩ | ⟨a, -, -, rfl⟩
  · by_cases hadv : m₀.advisoryId = adv.id
    · rw [touch_of_ne fun he => hne (he.symm.trans hadv)]
      exact h m₀ hm₀
    · exact ⟨fun hc => absurd (concerns_touch.1 hc).2 hadv, fun hc => absurd (concerns_touch.1 hc).2 hadv⟩
  · exact ⟨fun hc => absurd hc.2 hne, fun hc => absurd hc.2 hne⟩

lemma settled_round : ∀ m ∈ (evaluateAdvisory R now st entry).rows,
      Settled R entry.1 entry.2 (R.chosen entry.2 (R.existing entry.1 st.rows)) m := by
  intro m hm
  rcases mem_round hm with ⟨m₀, hm₀, rfl⟩ | ⟨a, ha, -, rfl⟩
  · exact settled_touch now _
  · exact ⟨fun _ _ t => refresh_refresh now t, fun _ hout => absurd ha hout⟩

end Rounds

/-! ## The first evaluation -/

section First

variable {T : Texts} {R : Reading T} {now : Int}

lemma fold_of_ne (now : Int) {adv : Advisory} {content : AdvisoryContent T} {chosen : List Nat}
    (l : List (Advisory × AdvisoryContent T)) (hne : ∀ e ∈ l, e.1.id ≠ adv.id) (st : Progress)
    (h : ∀ m ∈ st.rows, Settled R adv content chosen m) :
    (∀ m ∈ (l.foldl (evaluateAdvisory R now) st).rows, Settled R adv content chosen m) ∧
      ∀ a, a ∈ R.existing adv (l.foldl (evaluateAdvisory R now) st).rows ↔ a ∈ R.existing adv st.rows := by
  induction l generalizing st with
  | nil => exact ⟨h, fun a => Iff.rfl⟩
  | cons e l ih =>
    have he : e.1.id ≠ adv.id := hne e mem_cons_self
    obtain ⟨hsettled, hexisting⟩ := ih (fun e' he' => hne e' (mem_cons_of_mem _ he'))
      (evaluateAdvisory R now st e) (settled_round_of_ne he h)
    refine ⟨hsettled, fun a => (hexisting a).trans ?_⟩
    rw [existing_round]
    exact ⟨fun h => h.resolve_right fun hr => he hr.1, .inl⟩

/-- After the loop the rows of each advisory are settled, and its chosen assets have one. -/
lemma fold_settled (now : Int) (l : List (Advisory × AdvisoryContent T)) (hids : (l.map fun e => e.1.id).Nodup)
    (st : Progress) : ∀ e ∈ l, (∀ m ∈ (l.foldl (evaluateAdvisory R now) st).rows,
        Settled R e.1 e.2 (R.chosen e.2 (R.existing e.1 st.rows)) m) ∧
      ∀ a, a ∈ R.existing e.1 (l.foldl (evaluateAdvisory R now) st).rows ↔
        a ∈ R.existing e.1 st.rows ∨ a ∈ R.chosen e.2 (R.existing e.1 st.rows) := by
  induction l generalizing st with
  | nil => exact fun e he => by cases he
  | cons x l ih =>
    rw [map_cons, nodup_cons] at hids
    intro e he
    rw [foldl_cons]
    rcases mem_cons.1 he with rfl | he
    · -- its own round comes first
      have hne : ∀ e' ∈ l, e'.1.id ≠ e.1.id := fun e' he' heq => hids.1 (List.mem_map.2 ⟨e', he', heq⟩)
      obtain ⟨hsettled, hexisting⟩ := fold_of_ne now l hne (evaluateAdvisory R now st e) settled_round
      refine ⟨hsettled, fun a => (hexisting a).trans ?_⟩
      rw [existing_round]
      exact or_congr_right (and_iff_right rfl)
    have hne : x.1.id ≠ e.1.id := fun heq => hids.1 (List.mem_map.2 ⟨e, he, heq.symm⟩)
    have hsame : ∀ a, a ∈ R.existing e.1 (evaluateAdvisory R now st x).rows ↔ a ∈ R.existing e.1 st.rows := by
      intro a
      rw [existing_round]
      exact ⟨fun h => h.resolve_right fun hr => hne hr.1, .inl⟩
    obtain ⟨hsettled, hexisting⟩ := ih hids.2 (evaluateAdvisory R now st x) e he
    rw [chosen_congr hsame] at hsettled hexisting
    exact ⟨hsettled, fun a => (hexisting a).trans (or_congr_left (hsame a))⟩

end First

/-! ## The second evaluation -/

section Second

variable {T : Texts} {R : Reading T} {now : Int}

lemma existing_untimed (R : Reading T) (adv : Advisory) (rows : List Match) :
    R.existing adv (rows.map Match.untimed) = R.existing adv rows := by
  rw [Reading.existing, List.filter_map, List.map_map]
  rfl

/-- Rows that differ in the time of the evaluation only, settled for each advisory. -/
structure Steady (R : Reading T) (l : List (Advisory × AdvisoryContent T)) (rows : List Match) (st : Progress) :
    Prop where
  untimed : st.rows.map Match.untimed = rows.map Match.untimed
  settled : ∀ e ∈ l, ∀ m ∈ st.rows, Settled R e.1 e.2 (R.chosen e.2 (R.existing e.1 rows)) m
  newMatches : st.newMatches = 0
  events : st.events = []

variable {l : List (Advisory × AdvisoryContent T)} {rows : List Match}

lemma Steady.existing {st : Progress}
    (h : Steady R l rows st) (adv : Advisory) : R.existing adv st.rows = R.existing adv rows := by
  rw [← existing_untimed, h.untimed, existing_untimed]

lemma Steady.round {st : Progress} (h : Steady R l rows st) {e : Advisory × AdvisoryContent T} (he : e ∈ l)
    (hfull : ∀ a ∈ R.chosen e.2 (R.existing e.1 rows), a ∈ R.existing e.1 rows) :
    Steady R l rows (evaluateAdvisory R now st e) := by
  have hcreated : R.created e.1 e.2 now (R.existing e.1 rows) (R.chosen e.2 (R.existing e.1 rows)) = [] := by
    rw [Reading.created, filter_eq_nil_iff.2, map_nil]
    intro a ha hnew
    exact of_decide_eq_true hnew (hfull a ha)
  have htouch : ∀ m ∈ st.rows, R.touch e.1 e.2 now (R.chosen e.2 (R.existing e.1 rows)) m = m ∨
        R.touch e.1 e.2 now (R.chosen e.2 (R.existing e.1 rows)) m = m.at now :=
    fun m hm => (h.settled e he m hm).touch now
  have hrows : (evaluateAdvisory R now st e).rows =
      st.rows.map (R.touch e.1 e.2 now (R.chosen e.2 (R.existing e.1 rows))) := by
    simp [evaluateAdvisory, h.existing, hcreated]
  refine ⟨?_, ?_, ?_, ?_⟩
  · rw [hrows, List.map_map, ← h.untimed]
    refine map_congr_left fun m hm => ?_
    rw [Function.comp_apply]
    rcases htouch m hm with hsame | hsame
    · rw [hsame]
    · rw [hsame]
      rfl
  · intro e' he' m hm
    rw [hrows] at hm
    obtain ⟨m₀, hm₀, rfl⟩ := List.mem_map.1 hm
    rcases htouch m₀ hm₀ with hsame | hsame
    · rw [hsame]
      exact h.settled e' he' m₀ hm₀
    · rw [hsame]
      exact (h.settled e' he' m₀ hm₀).at now
  · simp only [evaluateAdvisory, h.existing, hcreated, h.newMatches]
    rfl
  · simp only [evaluateAdvisory, h.existing, hcreated, h.events]
    rfl

lemma Steady.fold (l' : List (Advisory × AdvisoryContent T)) (hsub : ∀ e ∈ l', e ∈ l)
    (hfull : ∀ e ∈ l, ∀ a ∈ R.chosen e.2 (R.existing e.1 rows), a ∈ R.existing e.1 rows) (st : Progress)
    (h : Steady R l rows st) : Steady R l rows (l'.foldl (evaluateAdvisory R now) st) := by
  induction l' generalizing st with
  | nil => exact h
  | cons e l' ih =>
    have he : e ∈ l := hsub e mem_cons_self
    exact ih (fun e' he' => hsub e' (mem_cons_of_mem _ he')) _ (h.round he (hfull e he))

end Second

/-! ## Gaps -/

section Gaps

variable {T : Texts} {R : Reading T} {now : Int}

lemma standing_status (content : AdvisoryContent T) (a : Nat) :
    (R.standing content a).status ≠ .noLongerObserved := by
  unfold Reading.standing
  split
  · next v hv => exact verdicts_status content R.observations v (mem_of_find?_eq_some hv)
  · split <;> simp

lemma gap_round {rows : List Match} {st : Progress} {e x : Advisory × AdvisoryContent T}
    (hgap : R.gap e.2 ≠ none) (hid : x.1.id = e.1.id → x = e)
    (h : ∀ m ∈ st.rows, m.advisoryId = e.1.id → m.matchStatus = .noLongerObserved → m ∈ rows) :
    ∀ m ∈ (evaluateAdvisory R now st x).rows, m.advisoryId = e.1.id →
      m.matchStatus = .noLongerObserved → m ∈ rows := by
  intro m hm hadv hstatus
  rcases mem_round hm with ⟨m₀, hm₀, rfl⟩ | ⟨a, -, -, rfl⟩
  · rw [(touch_names R x.1 x.2 now _ m₀).2.1] at hadv
    by_cases hc : m₀.organizationId = R.org ∧ m₀.advisoryId = x.1.id
    · obtain rfl := hid (hc.2.symm.trans hadv)
      by_cases hmem : m₀.assetId ∈ R.chosen x.2 (R.existing x.1 st.rows)
      · rw [Reading.touch, if_pos hc, if_pos hmem] at hstatus
        exact absurd hstatus (standing_status x.2 m₀.assetId)
      · rw [Reading.touch, if_pos hc, if_neg hmem, if_pos (Option.isSome_iff_ne_none.2 hgap)] at hstatus ⊢
        exact h m₀ hm₀ hadv hstatus
    · rw [Reading.touch, if_neg hc] at hstatus ⊢
      exact h m₀ hm₀ hadv hstatus
  · exact absurd hstatus (standing_status x.2 a)

lemma gap_fold {rows : List Match} {e : Advisory × AdvisoryContent T} (hgap : R.gap e.2 ≠ none)
    (l : List (Advisory × AdvisoryContent T)) (hids : ∀ x ∈ l, x.1.id = e.1.id → x = e) (st : Progress)
    (h : ∀ m ∈ st.rows, m.advisoryId = e.1.id → m.matchStatus = .noLongerObserved → m ∈ rows) :
    ∀ m ∈ (l.foldl (evaluateAdvisory R now) st).rows, m.advisoryId = e.1.id →
      m.matchStatus = .noLongerObserved → m ∈ rows := by
  induction l generalizing st with
  | nil => exact h
  | cons x l ih =>
    exact ih (fun y hy => hids y (mem_cons_of_mem _ hy)) _
      (gap_round hgap (hids x mem_cons_self) h)

end Gaps

section Bounds

variable {T : Texts} (W : World T) (org : Nat) (advisories : Advisories T) (db : Db)

/-- A bound that affects the advisory was hit: there are as many product observations or related
findings as a call reads, or more assets than it follows. -/
def BoundHit (content : AdvisoryContent T) : Prop := maxObservations ≤
      (technologies W org (advisories.list.flatMap fun e => namesOf e.2)).length +
      (services W org (advisories.list.flatMap fun e => namesOf e.2)).length +
      (webServers W org (advisories.list.flatMap fun e => namesOf e.2)).length ∨
    maxObservations ≤ (relatedFindings W org (advisories.list.flatMap fun e => e.2.cves)
      (advisories.list.flatMap fun e => templatesFor W.checks e.2)).length ∨
    maxMatchesPerAdvisory < ((reading W org advisories db).assetIds content).length

lemma length_limited (source : ObservationSource) (rows : List ProductObservation) :
    (limited W source rows).length = min maxObservations rows.length := by
  rw [limited, length_take, (W.observed_perm source rows).length_eq]

variable {W org advisories db} in
lemma BoundHit.gap {content : AdvisoryContent T} (h : BoundHit W org advisories db content) :
    (reading W org advisories db).gap content ≠ none := by
  rcases h with hobs | hfind | hassets
  · have hcut : (reading W org advisories db).observationsCut = true := by
      refine decide_eq_true ?_
      rw [length_append, length_append, length_limited, length_limited, length_limited]
      omega
    rw [Reading.gap, Reading.sharedGap, if_pos hcut]
    simp
  · have hcut : (reading W org advisories db).findingsCut = true := by
      refine decide_eq_true ?_
      rw [length_take, (W.related_perm _).length_eq]
      omega
    rw [Reading.gap, Reading.sharedGap, if_pos hcut]
    split <;> simp
  · rw [Reading.gap, if_pos hassets]
    cases (reading W org advisories db).sharedGap <;> simp

end Bounds

/-! ## Evaluating -/

section Evaluate

variable {T : Texts} {W : World T} {org : Nat} {advisories : Advisories T} {now : Int} {db : Db} {r : Evaluated}

lemma evaluateOrg_eq (h : evaluateOrg W org advisories now db = some r) :
    r.db.rows = (advisories.list.foldl (evaluateAdvisory (reading W org advisories db) now)
      { rows := db.rows }).rows ∧ r.db.runs = db.runs := by
  unfold evaluateOrg at h
  dsimp only at h
  split at h
  · cases h
    exact ⟨rfl, rfl⟩
  · cases h

lemma reading_congr {db' : Db} (h : db'.runs = db.runs) :
    reading W org advisories db' = reading W org advisories db := by
  simp [reading, h]

lemma evaluateOrg_steady (h : evaluateOrg W org advisories now db = some r) (now' : Int) :
    Steady (reading W org advisories db) advisories.list r.db.rows
      (advisories.list.foldl (evaluateAdvisory (reading W org advisories db) now') { rows := r.db.rows }) := by
  obtain ⟨hrows, -⟩ := evaluateOrg_eq h
  have hfirst := fold_settled (R := reading W org advisories db) now advisories.list advisories.ids
    { rows := db.rows }
  rw [← hrows] at hfirst
  refine Steady.fold advisories.list (fun e he => he) ?_ _ ⟨rfl, ?_, rfl, rfl⟩
  · intro e he a ha
    exact ((hfirst e he).2 a).2 (.inr ((chosen_again (hfirst e he).2).1 ha))
  · intro e he m hm
    exact ((hfirst e he).1 m hm).congr fun a => chosen_again (hfirst e he).2

lemma untimed_keys (rows : List Match) : (rows.map Match.untimed).map Match.key = rows.map Match.key := by
  rw [List.map_map]
  rfl

/-- A second evaluation creates no match, emits no event and changes times only; and an
evaluation that hit a bound retires no match of an advisory which the bound affects. -/
theorem evaluate_idempotent (W : World T) (org : Nat) (advisories : Advisories T) (now now' : Int) (db : Db)
    (r : Evaluated) (h : evaluateOrg W org advisories now db = some r) :
    (∃ r', evaluateOrg W org advisories now' r.db = some r' ∧
      r'.db.rows.map Match.untimed = r.db.rows.map Match.untimed ∧ r'.db.runs = r.db.runs ∧
      r'.newMatches = 0 ∧ r'.events = []) ∧
    ∀ e ∈ advisories.list, BoundHit W org advisories db e.2 →
      ∀ m ∈ r.db.rows, m.advisoryId = e.1.id → m.matchStatus = .noLongerObserved → m ∈ db.rows := by
  obtain ⟨hrows, hruns⟩ := evaluateOrg_eq h
  constructor
  · have hsteady := evaluateOrg_steady h now'
    rw [← reading_congr hruns] at hsteady
    have hkeys : ((advisories.list.foldl (evaluateAdvisory (reading W org advisories r.db) now')
        { rows := r.db.rows }).rows.map Match.key).Nodup := by
      rw [← untimed_keys, hsteady.untimed, untimed_keys]
      exact r.db.keys
    exact ⟨_, dif_pos hkeys, hsteady.untimed, rfl, hsteady.newMatches, hsteady.events⟩
  · intro e he hbound m hm
    rw [hrows] at hm
    refine gap_fold hbound.gap advisories.list ?_ _ (fun m hm _ _ => hm) m hm
    intro x hx hid
    exact inj_on_of_nodup_map advisories.ids hx he hid

def asciiTexts : Texts := { asciiUnicode with isDigit := Char.isDigit, repr := fun s => '\'' :: s ++ ['\''] }

def serverWorld : World asciiTexts where
  assets :=
    [ { id := 1, organizationId := 7, assetType := .httpEndpoint, normalizedValue := "https://a.example.org/".toList,
        webserver := some "nginx/1.18.0 (Ubuntu)".toList },
      { id := 2, organizationId := 7, assetType := .subdomain, normalizedValue := "b.example.org".toList } ]
  findings :=
    [ { id := 5, organizationId := 7, assetId := 2, fingerprint := [], source := "nuclei".toList,
        sourceFindingId := "CVE-2021-23017".toList, cve := ["CVE-2021-23017".toList] } ]

def nginxVersions : VersionRange asciiTexts where
  introduced := some "0.6.18".toList
  fixed := some "1.20.1".toList
  parseable := by decide +kernel

def nginxAdvisory : Advisories asciiTexts where
  list :=
    [ ( { id := 3, publishedVersion := some 2 },
        { cves := ["CVE-2021-23017".toList]
          affected := [{ product := "nginx".toList, matchNames := ["nginx".toList], versions := [nginxVersions] }] } ) ]
  ids := by decide

theorem evaluate_idempotent_nginx :
    ∃ r, evaluateOrg serverWorld 7 nginxAdvisory 100 ⟨[], [], by decide, by decide⟩ = some r ∧
      r.db.rows.map (fun m => (m.assetId, m.assessment)) = [(1, .potentiallyAffected), (2, .confirmed)] ∧
      r.newMatches = 2 ∧
      ∃ r', evaluateOrg serverWorld 7 nginxAdvisory 200 r.db = some r' ∧ r'.newMatches = 0 ∧
        r'.db.rows.map Match.untimed = r.db.rows.map Match.untimed := by
  have hrun : (evaluateOrg serverWorld 7 nginxAdvisory 100 ⟨[], [], by decide, by decide⟩).map
      (fun r => (r.db.rows.map (fun m => (m.assetId, m.assessment)), r.newMatches)) =
        some ([(1, .potentiallyAffected), (2, .confirmed)], 2) := by decide +kernel
  obtain ⟨r, hr, hshape⟩ := Option.map_eq_some_iff.1 hrun
  rw [Prod.mk.injEq] at hshape
  obtain ⟨⟨r', hr', hrows, -, hnew, -⟩, -⟩ := evaluate_idempotent serverWorld 7 nginxAdvisory 100 200 _ r hr
  exact ⟨r, hr, hshape.1, hshape.2, r', hr', hnew, hrows⟩

end Evaluate

end App.Threats
