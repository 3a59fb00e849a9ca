import AttackSurface.Assets.Reach
import AttackSurface.Assets.Sightings

/-!
# Counting misses

How often applying coverage counts a miss for a row, and what it closes by counting.

    missed count after  =  missed count before + the misses of the steps   (steps_missedOf)
    a row is closed by counting only at its threshold                      (steps_atThreshold)
    the misses of one `ingest`  ≤  the ways coverage gets to the row       (ingest_counts)
    missed count  ≤  results that covered the row since it was seen        (missedOf_le_coveredSince)

The last line needs that each result gets to the row in one way only.  The source counts a
miss per way: an endpoint behind two covered names is missed twice by one result.
-/

namespace App.Assets

open PyText AsmSensors App.Scans App.Scope App.Findings Machines List Option

variable {J : Type} {T : Tables J} {ctx : IngestContext} {seen : List Nat}
  {st st' : Ingestor J} {e : Event} {es : List Event}

def Rows.missedOf (rows : Rows J) : Item → Option Nat
  | .asset id => rows.assets[id]?.map AssetRow.missedCount
  | .relation id => rows.relations[id]?.map RelationRow.missedCount
  | .finding id => rows.findings[id]?.map Finding.missedCount

def Rows.thresholdOf (ctx : IngestContext) (rows : Rows J) : Item → Nat
  | .asset id => (rows.assets[id]?.map fun a => assetThreshold ctx a.assetType).getD 0
  | .relation _ => relationThreshold ctx
  | .finding _ => findingThreshold ctx

lemma count_findings {x : Item} (hx : ∀ i, x ≠ .finding i) (ids : List Nat) : (ids.map Item.finding).count x = 0 := by
  simpa [count_eq_zero] using fun i _ h => hx i h.symm

lemma Event.onAsset_missedCount (now : Int) (e : Event) (i : Nat) (a : AssetRow J) :
    (e.onAsset now i a).missedCount = a.missedCount + e.misses.count (.asset i) := by
  cases e with
  | findings ids resolved =>
    rw [Event.misses, count_findings (x := .asset i) (by simp)]
    rfl
  | _ =>
    simp only [Event.onAsset, Event.misses, count_singleton, count_nil, beq_iff_eq,
      Item.asset.injEq, reduceCtorEq, ↓reduceIte, Nat.add_zero]
    try split <;> rfl

lemma Event.onRelation_missedCount (e : Event) (i : Nat) (r : RelationRow J) :
    (e.onRelation i r).missedCount = r.missedCount + e.misses.count (.relation i) := by
  cases e with
  | findings ids resolved =>
    rw [Event.misses, count_findings (x := .relation i) (by simp)]
    rfl
  | _ =>
    simp only [Event.onRelation, Event.misses, count_singleton, count_nil, beq_iff_eq,
      Item.relation.injEq, reduceCtorEq, ↓reduceIte, Nat.add_zero]
    try split <;> rfl

lemma withAsset_missedCount (now : Int) (id : Nat) (f : Finding) :
    (withAsset now id f).missedCount = f.missedCount := by
  unfold withAsset
  split <;> rfl

lemma missFinding_missedCount (threshold : Nat) (now : Int) (f : Finding) :
    (missFinding threshold now f).missedCount = f.missedCount + 1 := by
  unfold missFinding
  simp only
  split <;> rfl

lemma Touch.onFinding_missedCount (h : Touch T ctx seen st e st') (i : Nat) (f : Finding) :
    (e.onFinding ctx i f).missedCount = f.missedCount + e.misses.count (.finding i) := by
  cases h with
  | @findings cov =>
    set ids := missedIds st.rows.findings (st.coveredAssets T ctx cov) ctx.source cov seen with hids
    have hnodup : ids.Nodup := nodup_range.filter _
    have hcount : (ids.map Item.finding).count (.finding i) = ids.count i :=
      count_map_of_injective ids Item.finding (fun a b hab => by cases hab; rfl) i
    rw [Event.misses, hcount, Event.onFinding]
    split
    · next hi =>
      rw [count_eq_one_of_mem hnodup hi]
      exact missFinding_missedCount _ _ f
    · next hi => rw [count_eq_zero_of_not_mem hi, Nat.add_zero]
  | expired | left | orphaned => simp [Event.onFinding, Event.misses, withAsset_missedCount]
  | scanned => rfl
  | missed | relationMissed | relationExpired => simp [Event.onFinding, Event.misses]
  | disowned => rfl

lemma Touch.missedOf (h : Touch T ctx seen st e st') (x : Item) :
    st'.rows.missedOf x = (st.rows.missedOf x).map (· + e.misses.count x) := by
  cases x with
  | asset i =>
    rw [Rows.missedOf, Rows.missedOf, h.asset, Option.map_map, Option.map_map]
    exact congrArg (Option.map · _) (funext fun a => e.onAsset_missedCount ctx.now i a)
  | relation i =>
    rw [Rows.missedOf, Rows.missedOf, h.relation, Option.map_map, Option.map_map]
    exact congrArg (Option.map · _) (funext fun r => e.onRelation_missedCount i r)
  | finding i =>
    rw [Rows.missedOf, Rows.missedOf, h.finding, Option.map_map, Option.map_map]
    exact congrArg (Option.map · _) (funext fun f => h.onFinding_missedCount i f)

lemma steps_missedOf (h : Steps (Touch T ctx seen) st es st') (x : Item) :
    st'.rows.missedOf x = (st.rows.missedOf x).map (· + (es.flatMap Event.misses).count x) := by
  refine h.invariant (fun es t => t.rows.missedOf x =
    (st.rows.missedOf x).map (· + (es.flatMap Event.misses).count x)) (by simp) ?_
  intro es t e u ih hstep
  rw [hstep.missedOf, ih, Option.map_map, flatMap_append, count_append]
  congr 1
  funext n
  simp [Nat.add_assoc]

/-! ## What counting closes -/

def Rows.AtThreshold (ctx : IngestContext) (rows : Rows J) (x : Item) : Prop :=
  ∃ n, rows.missedOf x = some n ∧ rows.thresholdOf ctx x ≤ n

lemma Touch.thresholdOf (h : Touch T ctx seen st e st') (x : Item) :
    st'.rows.thresholdOf ctx x = st.rows.thresholdOf ctx x := by
  cases x with
  | asset i =>
    rw [Rows.thresholdOf, Rows.thresholdOf, h.asset, Option.map_map]
    refine congrArg (Option.getD · 0) (congrArg (Option.map · _) (funext fun a => ?_))
    simp [(e.onAsset_onward ctx.now i a).type]
  | relation i => rfl
  | finding i => rfl

variable {x : Item}

lemma Touch.atThreshold (h : Touch T ctx seen st e st') (hx : st.rows.AtThreshold ctx x) :
    st'.rows.AtThreshold ctx x := by
  obtain ⟨n, hn, hle⟩ := hx
  refine ⟨n + e.misses.count x, by rw [h.missedOf, hn, map_some], ?_⟩
  rw [h.thresholdOf]
  exact hle.trans (Nat.le_add_right _ _)

lemma Touch.closing_atThreshold (h : Touch T ctx seen st e st') (hx : x ∈ e.closings) :
    st'.rows.AtThreshold ctx x := by
  -- the row before the step, one miss away from its threshold
  have key : ∃ n, st.rows.missedOf x = some n ∧ st.rows.thresholdOf ctx x ≤ n + 1 ∧ 0 < e.misses.count x := by
    cases h with
    | @expired id a row _ _ reached =>
      obtain rfl : x = .asset id := by simpa [Event.closings] using hx
      exact ⟨a.missedCount, by simp [Rows.missedOf, row], by simpa [Rows.thresholdOf, row] using reached,
        by simp [Event.misses]⟩
    | @relationExpired r rel row reached =>
      obtain rfl : x = .relation r := by simpa [Event.closings] using hx
      exact ⟨rel.missedCount, by simp [Rows.missedOf, row], reached, by simp [Event.misses]⟩
    | findings cov =>
      obtain ⟨i, hi, rfl⟩ := List.mem_map.1 hx
      rw [resolveUnobserved, mem_filter, Option.any_eq_true] at hi
      obtain ⟨hmiss, f, hf, hreached⟩ := hi
      exact ⟨f.missedCount, by simp [Rows.missedOf, hf], of_decide_eq_true hreached,
        count_pos_iff.2 (List.mem_map_of_mem hmiss)⟩
    | _ => simp [Event.closings] at hx
  obtain ⟨n, hn, hle, hpos⟩ := key
  refine ⟨n + e.misses.count x, by rw [h.missedOf, hn, map_some], ?_⟩
  rw [h.thresholdOf]
  omega

lemma steps_atThreshold (h : Steps (Touch T ctx seen) st es st') (hnone : st.closings = []) :
    ∀ x ∈ st'.closings, st'.rows.AtThreshold ctx x := by
  refine h.preserves (fun t => ∀ x ∈ t.closings, t.rows.AtThreshold ctx x) ?_ (by simp [hnone])
  intro t e u ih hstep x hx
  rw [hstep.closings, mem_append] at hx
  rcases hx with hx | hx
  · exact hstep.closing_atThreshold hx
  · exact hstep.atThreshold (ih x hx)

/-! ## One ingest -/

def Ingestor.absent (seen : List Nat) (st : Ingestor J) : Item → Bool
  | .asset id => st.rows.assets[id]?.any fun a => decide (a.status = .active ∧ a.key ∉ st.observed)
  | .relation id => st.rows.relations[id]?.any fun r => r.active && decide (r.key ∉ st.observedRels)
  | .finding id => st.rows.findings[id]?.any fun f => f.status.isOpen && decide (id ∉ seen)

/-- The run observed the row, and not as something historical.  A finding that was seen is
seen, whatever the source. -/
def Ingestor.sees (ctx : IngestContext) (seen : List Nat) (st : Ingestor J) : Item → Bool
  | .asset id => !ctx.historical && st.rows.assets[id]?.any fun a => decide (a.key ∈ st.observed)
  | .relation id =>
    !ctx.historical && st.rows.relations[id]?.any fun r => decide (r.key ∈ st.observedRels)
  | .finding id => decide (id ∈ seen)

lemma Touch.absent (h : Touch T ctx seen st e st') {id : Nat} (hx : .asset id ∈ e.misses) :
    st.absent seen (.asset id) = true := by
  cases h with
  | @missed i a row unobserved active | @expired i a row unobserved active =>
    obtain rfl : id = i := by simpa [Event.misses] using hx
    simp [Ingestor.absent, row, unobserved, active]
  | _ => simp [Event.misses] at hx

lemma Onward.absent (h : Onward st st') (hx : st'.absent seen x = true) : st.absent seen x = true := by
  cases x with
  | asset id =>
    simp only [Ingestor.absent, Option.any_eq_true, decide_eq_true_eq] at hx ⊢
    obtain ⟨a', ha', hactive, hkey⟩ := hx
    obtain ⟨a, ha, haa⟩ := h.asset_before ha'
    exact ⟨a, ha, haa.active hactive, by rwa [← haa.key, ← h.observed]⟩
  | relation id =>
    simp only [Ingestor.absent, Option.any_eq_true, Bool.and_eq_true, decide_eq_true_eq] at hx ⊢
    obtain ⟨r', hr', hactive, hkey⟩ := hx
    obtain ⟨r, hr, hrr⟩ := h.relation_before hr'
    exact ⟨r, hr, hrr.active hactive, by rwa [← hrr.key, ← h.observedRels]⟩
  | finding id =>
    simp only [Ingestor.absent, Option.any_eq_true, Bool.and_eq_true, decide_eq_true_eq] at hx ⊢
    obtain ⟨f', hf', hopen, hseen⟩ := hx
    obtain ⟨f, hf, hff⟩ := h.finding_before hf'
    exact ⟨f, hf, hff.isOpen hopen ▸ hopen, hseen⟩

lemma steps_absent (h : Steps (Touch T ctx seen) st es st') {id : Nat}
    (hx : .asset id ∈ es.flatMap Event.misses) : st.absent seen (.asset id) = true := by
  induction h with
  | nil => simp at hx
  | snoc hes hstep ih =>
    rw [flatMap_append, mem_append, flatMap_singleton] at hx
    rcases hx with hx | hx
    · exact ih hx
    · exact (Onward.of_steps hes).absent (hstep.absent hx)

/-- Relations and findings are looked for among those that are live and were not observed. -/
lemma reach_absent {cov : Coverage} (hx : x ∈ st.reach T ctx seen cov)
    (hasset : ∀ id, x ≠ .asset id) : st.absent seen x = true := by
  cases cov with
  | liveness cov =>
    obtain ⟨id, _, rfl⟩ := List.mem_map.1 hx
    exact absurd rfl (hasset id)
  | relation cov =>
    obtain ⟨r, hr, hx⟩ := mem_flatMap.1 hx
    rw [Ingestor.coveredRelations, mem_filter, beq_iff_eq, Rows.coveredFrom, mem_idsWhere] at hr
    obtain ⟨⟨rel, hrel, hp⟩, hmiss⟩ := hr
    have hkey : rel.key ∉ st.observedRels := by
      intro hmem
      simp [Ingestor.missesRelation, hrel, hmem] at hmiss
    have hitem : x = .relation r := by
      rw [Rows.pathsOf, hrel] at hx
      simp only at hx
      split at hx
      · rcases mem_pair.1 hx with rfl | rfl
        · rfl
        · exact absurd rfl (hasset _)
      · exact mem_singleton.1 hx
    simp only [Bool.and_eq_true] at hp
    rw [hitem, Ingestor.absent, hrel, any_some, hp.1.2, decide_eq_true hkey]
    rfl
  | finding cov =>
    obtain ⟨i, hi, rfl⟩ := List.mem_map.1 hx
    rw [missedIds, mem_filter, Option.any_eq_true] at hi
    obtain ⟨_, f, hf, hun⟩ := hi
    simp only [unobserved, Bool.and_eq_true, Bool.not_eq_true', decide_eq_false_iff_not] at hun
    rw [Ingestor.absent, hf, any_some, hun.1.1.2, decide_eq_true hun.1.2]
    rfl

/-- The rows that the coverage of a result finds live and not observed by it, once for each way
in which it gets to them. -/
def covered (T : Tables J) (ctx : IngestContext) (rows : Rows J) (result : SensorResult J) : List Item :=
  let (st, seen) := observe T ctx rows result
  (result.coverage.flatMap (st.reach T ctx seen)).filter (st.absent seen)

lemma coverage_counts {coverage : List Coverage} (hs : st.Settled)
    (hrun : coverage.foldlM (Ingestor.applyCoverage T ctx seen) st = some st') (x : Item) :
    ∃ k, k ≤ ((coverage.flatMap (st.reach T ctx seen)).filter (st.absent seen)).count x ∧
      st'.rows.missedOf x = (st.rows.missedOf x).map (· + k) := by
  obtain ⟨es, hes, hle⟩ := (coverage_passes hs hrun).steps
  refine ⟨_, ?_, steps_missedOf hes x⟩
  by_cases hx : x ∈ es.flatMap Event.misses
  · have habsent : st.absent seen x = true := by
      by_cases hasset : ∃ id, x = .asset id
      · obtain ⟨id, rfl⟩ := hasset
        exact steps_absent hes hx
      · obtain ⟨cov, _, hcov⟩ := mem_flatMap.1 (hle.subset hx)
        exact reach_absent hcov fun id hid => hasset ⟨id, hid⟩
    rw [count_filter habsent]
    exact hle.count_le x
  · rw [count_eq_zero_of_not_mem hx]
    exact Nat.zero_le _

variable {rows : Rows J} {result : SensorResult J}

lemma Sighted.settled (h : Sighted ctx rows seen st) : st.Settled :=
  ⟨fun id hid => by simp [h.deactivated] at hid, fun id hid => by simp [h.deactivated] at hid⟩

/-- **One ingest.**  The missed count of a row is raised from what observing left by at most the
number of ways in which coverage gets to it. -/
theorem ingest_counts (hv : rows.Valid) (hrun : ingest T ctx rows result = some st) (x : Item) :
    ∃ k, k ≤ (covered T ctx rows result).count x ∧
      st.rows.missedOf x = ((observe T ctx rows result).1.rows.missedOf x).map (· + k) :=
  coverage_counts (observe_sighted hv result).settled hrun x

lemma ingest_steps (hv : rows.Valid) (hrun : ingest T ctx rows result = some st) :
    ∃ es, Steps (Touch T ctx (observe T ctx rows result).2) (observe T ctx rows result).1 es st := by
  obtain ⟨es, hes, _⟩ := (coverage_passes (observe_sighted hv result).settled hrun).steps
  exact ⟨es, hes⟩

lemma ingest_atThreshold (hv : rows.Valid) (hrun : ingest T ctx rows result = some st) :
    ∀ x ∈ st.closings, st.rows.AtThreshold ctx x := by
  obtain ⟨es, hes⟩ := ingest_steps hv hrun
  exact steps_atThreshold hes (observe_sighted hv result).closings

/-- A row has no misses after observing, or it was there before with the same misses and was not
seen. -/
lemma Sighted.missedOf (h : Sighted ctx rows seen st) {n : Nat} (hn : st.rows.missedOf x = some n) :
    n = 0 ∨ rows.missedOf x = some n ∧ st.sees ctx seen x = false := by
  cases x with
  | asset i =>
    obtain ⟨a', ha', rfl⟩ := map_eq_some_iff.1 hn
    cases hrow : rows.assets[i]? with
    | none => exact .inl (h.asset_new i a' hrow ha').2
    | some a =>
      obtain ⟨b, hb, hs⟩ := h.asset_old i a hrow
      obtain rfl : a' = b := some_inj.1 (ha'.symm.trans hb)
      by_cases hkept : ctx.historical = true ∨ a.key ∉ st.observed
      · refine .inr ⟨by rw [Rows.missedOf, hrow, map_some, (hs.kept hkept).missedCount], ?_⟩
        rw [Ingestor.sees, ha', any_some, hs.key]
        rcases hkept with hhist | hkey
        · rw [hhist]
          rfl
        · rw [decide_eq_false hkey, Bool.and_false]
      · rw [not_or, Bool.not_eq_true, not_not] at hkept
        exact .inl (hs.live hkept.1 hkept.2).2
  | relation i =>
    obtain ⟨r', hr', rfl⟩ := map_eq_some_iff.1 hn
    cases hrow : rows.relations[i]? with
    | none => exact .inl (h.relation_new i r' hrow hr').2.1
    | some r =>
      obtain ⟨b, hb, hs⟩ := h.relation_old i r hrow
      obtain rfl : r' = b := some_inj.1 (hr'.symm.trans hb)
      by_cases hkept : ctx.historical = true ∨ r.key ∉ st.observedRels
      · refine .inr ⟨by rw [Rows.missedOf, hrow, map_some, hs.kept hkept], ?_⟩
        rw [Ingestor.sees, hr', any_some, hs.key]
        rcases hkept with hhist | hkey
        · rw [hhist]
          rfl
        · rw [decide_eq_false hkey, Bool.and_false]
      · rw [not_or, Bool.not_eq_true, not_not] at hkept
        exact .inl (hs.live hkept.1 hkept.2)
  | finding i =>
    obtain ⟨f', hf', rfl⟩ := map_eq_some_iff.1 hn
    cases hrow : rows.findings[i]? with
    | none => exact .inl (h.finding_new i f' hrow hf').1
    | some f =>
      obtain ⟨b, hb, hs⟩ := h.finding_old i f hrow
      obtain rfl : f' = b := some_inj.1 (hf'.symm.trans hb)
      by_cases hseen : i ∈ seen
      · exact .inl (hs.live hseen)
      · exact .inr ⟨by rw [Rows.missedOf, hrow, map_some, hs.kept hseen],
          decide_eq_false hseen⟩

/-! ## Valid rows stay valid -/

lemma Onward.valid (h : Onward st st') (hv : st.rows.Valid) : st'.rows.Valid := by
  have hrelations : st'.rows.relations.map RelationRow.key = st.rows.relations.map RelationRow.key := by
    refine ext_getElem? fun i => ?_
    obtain ⟨f, hf, hrow⟩ := h.relation i
    rw [getElem?_map, getElem?_map, hrow, Option.map_map]
    exact congrArg (Option.map · _) (funext fun r => (hf r).key)
  refine ⟨h.assetKeys ▸ hv.asset_keys, hrelations ▸ hv.relation_keys, ?_⟩
  intro r' hr'
  obtain ⟨i, hi⟩ := mem_iff_getElem?.1 hr'
  obtain ⟨r, hr, hrr⟩ := h.relation_before hi
  rw [hrr.source, hrr.target, h.assets_length]
  exact hv.relation_ends r (mem_of_getElem? hr)

lemma ingest_valid (hv : rows.Valid) (hrun : ingest T ctx rows result = some st) : st.rows.Valid := by
  obtain ⟨es, hes⟩ := ingest_steps hv hrun
  exact (Onward.of_steps hes).valid (observe_sighted hv result).valid

/-! ## Histories -/

/-- A result that was ingested: what `ingest` was given and what it left. -/
structure Applied (T : Tables J) where
  before : Rows J
  ctx : IngestContext
  result : SensorResult J
  after : Ingestor J
  run : ingest T ctx before result = some after

namespace Applied

def covered (a : Applied T) : List Item := App.Assets.covered T a.ctx a.before a.result

def sees (a : Applied T) (x : Item) : Bool :=
  let (st, seen) := observe T a.ctx a.before a.result
  st.sees a.ctx seen x

/-- One more result in the count of those that covered the row without observing it: an
observation starts anew, and so does the result that created the row. -/
def tally (x : Item) (n : Nat) (a : Applied T) : Nat :=
  if a.sees x then 0
  else (if (a.before.missedOf x).isSome then n else 0) + if x ∈ a.covered then 1 else 0

def Step (rows : Rows J) (a : Applied T) (rows' : Rows J) : Prop := a.before = rows ∧ a.after.rows = rows'

end Applied

/-- How many results covered the row without observing it since it was last observed live, or
created. -/
def coveredSince (x : Item) (history : List (Applied T)) : Nat := history.foldl (Applied.tally x) 0

lemma absent_of_sees (h : st.sees ctx seen x = true) : st.absent seen x = false := by
  cases x with
  | asset i =>
    simp only [Ingestor.sees, Bool.and_eq_true, Option.any_eq_true, decide_eq_true_eq] at h
    obtain ⟨_, a, ha, hkey⟩ := h
    simp [Ingestor.absent, ha, hkey]
  | relation i =>
    simp only [Ingestor.sees, Bool.and_eq_true, Option.any_eq_true, decide_eq_true_eq] at h
    obtain ⟨_, r, hr, hkey⟩ := h
    simp [Ingestor.absent, hr, hkey]
  | finding i =>
    have hseen : i ∈ seen := of_decide_eq_true h
    cases hf : st.rows.findings[i]? <;> simp [Ingestor.absent, hf, hseen]

lemma Applied.not_covered_of_sees (a : Applied T) (h : a.sees x = true) : x ∉ a.covered := by
  intro hmem
  have habsent := (mem_filter.1 hmem).2
  rw [absent_of_sees h] at habsent
  cases habsent

/-- **One result.**  If the coverage gets to the row in one way only, a bound on its misses by a
count of results stays one. -/
theorem Applied.missedOf_le (a : Applied T) (hv : a.before.Valid)
    (hone : a.covered.count x ≤ 1) {m : Nat} (hm : ∀ n, a.before.missedOf x = some n → n ≤ m)
    {n : Nat} (hn : a.after.rows.missedOf x = some n) : n ≤ a.tally x m := by
  obtain ⟨k, hk, hafter⟩ := ingest_counts hv a.run x
  rw [hafter, map_eq_some_iff] at hn
  obtain ⟨n₀, hn₀, rfl⟩ := hn
  have hold := (observe_sighted hv a.result).missedOf hn₀
  have hk' : k ≤ if x ∈ a.covered then 1 else 0 := by
    split
    · exact hk.trans hone
    · next hx => exact hk.trans (count_eq_zero_of_not_mem hx).le
  unfold Applied.tally
  by_cases hsees : a.sees x = true
  · rw [if_neg (a.not_covered_of_sees hsees)] at hk'
    rw [if_pos hsees]
    rcases hold with hzero | ⟨_, hfalse⟩
    · omega
    · exact absurd (hsees.symm.trans hfalse) (by simp)
  rw [if_neg hsees]
  rcases hold with hzero | ⟨hrow, _⟩
  · omega
  rw [hrow, if_pos isSome_some]
  have := hm n₀ hrow
  omega

/-- **Every history.**  No row has more misses than results have covered it since. -/
theorem missedOf_le_coveredSince {start rows : Rows J} {history : List (Applied T)}
    (hv : start.Valid) (hstart : ∀ n, start.missedOf x = some n → n = 0)
    (h : Steps Applied.Step start history rows) (hone : ∀ a ∈ history, a.covered.count x ≤ 1) :
    rows.Valid ∧ ∀ n, rows.missedOf x = some n → n ≤ coveredSince x history := by
  induction h with
  | nil => exact ⟨hv, fun n hn => (hstart n hn).le⟩
  | @snoc history before rows a _ hstep ih =>
    obtain ⟨hvalid, hle⟩ := ih fun b hb => hone b (mem_append_left _ hb)
    obtain ⟨rfl, rfl⟩ := hstep
    refine ⟨ingest_valid hvalid a.run, fun n hn => ?_⟩
    rw [coveredSince, foldl_append]
    exact a.missedOf_le hvalid (hone a (by simp)) hle hn

/-- **Closing by counting.**  When the coverage of each result gets to the row in one way only, a
row that is closed because of its misses was covered without being observed by as many results as
its threshold says, since it was last observed live or created; and no result raises its count
by more than one. -/
theorem closed_after_threshold_results {start rows : Rows J} {history : List (Applied T)} {x : Item}
    (hv : start.Valid) (hstart : ∀ n, start.missedOf x = some n → n = 0)
    (h : Steps Applied.Step start history rows) (a : Applied T) (ha : a.before = rows)
    (hone : ∀ b ∈ history ++ [a], b.covered.count x ≤ 1) :
    (x ∈ a.after.closings → a.after.rows.thresholdOf a.ctx x ≤ coveredSince x (history ++ [a])) ∧
      ∀ n n', a.before.missedOf x = some n → a.after.rows.missedOf x = some n' → n' ≤ n + 1 := by
  subst ha
  have hvalid : a.before.Valid :=
    (missedOf_le_coveredSince hv hstart h fun b hb => hone b (mem_append_left _ hb)).1
  constructor
  · intro hx
    obtain ⟨n, hn, hle⟩ := ingest_atThreshold hvalid a.run x hx
    exact hle.trans ((missedOf_le_coveredSince hv hstart (h.snoc ⟨rfl, rfl⟩) hone).2 n hn)
  intro n n' hn hn'
  have hle := a.missedOf_le hvalid (hone a (by simp)) (m := n)
    (fun m hm => (some_inj.1 (hm.symm.trans hn)).le) hn'
  unfold Applied.tally at hle
  rw [hn] at hle
  split at hle
  · omega
  · simp only [isSome_some, if_true] at hle
    split at hle <;> omega

/-- The organization of the examples: two names that serve one endpoint; a row is closed with its
second miss. -/
def servedTwice : Rows Unit where
  assets := [
    { assetType := .subdomain, normalizedValue := "a.example.com".toList },
    { assetType := .subdomain, normalizedValue := "b.example.com".toList },
    { assetType := .httpEndpoint, normalizedValue := "https://a.example.com".toList }]
  relations := [
    { sourceAssetId := 0, targetAssetId := 2, relationType := .serves },
    { sourceAssetId := 1, targetAssetId := 2, relationType := .serves }]

def secondMiss : IngestContext where
  checker := { rules := [], allowNonPublic := false, nets := [], nets_eq := netsOf_nil }
  rules := [("default".toList, 2)]
  source := "httpx".toList

def nothingServed (hosts : List Str) : SensorResult Unit where
  adapter := "httpx".toList
  coverage := [.relation
    { parentType := .hostname, parents := hosts, relation := .serves, childType := .httpEndpoint }]

lemma servedTwice_valid : servedTwice.Valid := ⟨by decide, by decide, by decide⟩

def applied (ctx : IngestContext) (rows : Rows Unit) (result : SensorResult Unit)
    (h : (ingest plainTables ctx rows result).isSome = true) : Applied plainTables where
  before := rows
  ctx := ctx
  result := result
  after := (ingest plainTables ctx rows result).get h
  run := (Option.some_get h).symm

def bothHosts : Applied plainTables :=
  applied secondMiss servedTwice (nothingServed ["a.example.com".toList, "b.example.com".toList])
    (by decide +kernel)

/-- One result closes the endpoint, although two misses are asked for. -/
theorem one_result_closes : ∃ a : Applied plainTables, a.before.Valid ∧
    (∀ n, a.before.missedOf (.asset 2) = some n → n = 0) ∧ .asset 2 ∈ a.after.closings ∧
    coveredSince (.asset 2) [a] = 1 ∧ a.after.rows.thresholdOf a.ctx (.asset 2) = 2 :=
  ⟨bothHosts, servedTwice_valid, by decide, by decide +kernel, by decide +kernel, by decide +kernel⟩

def firstRun : Applied plainTables :=
  applied secondMiss servedTwice (nothingServed ["a.example.com".toList]) (by decide +kernel)

def secondRun : Applied plainTables :=
  applied secondMiss firstRun.after.rows (nothingServed ["a.example.com".toList]) (by decide +kernel)

theorem second_run_closes : .asset 2 ∈ secondRun.after.closings ∧
    secondRun.after.rows.thresholdOf secondRun.ctx (.asset 2) ≤
      coveredSince (.asset 2) [firstRun, secondRun] := by
  have hclosed : .asset 2 ∈ secondRun.after.closings := by decide +kernel
  have hsteps : Steps Applied.Step servedTwice [firstRun] firstRun.after.rows := .single ⟨rfl, rfl⟩
  exact ⟨hclosed, (closed_after_threshold_results (x := .asset 2) servedTwice_valid (by decide) hsteps
    secondRun rfl (by decide +kernel)).1 hclosed⟩

end App.Assets
