import AttackSurface.Findings.Resolution
import AttackSurface.Scans.Lifecycle

/-!
# Verified findings (`complete_stage`, ADR-020)

A stage's result is ingested, and after one that is not historical the built-in rules
run and are ingested too.  Each observation of a finding is merged into one row
(`Merge`), and that row is verified as soon as one of its merges is:

    unverified = false  ↔  a merge of a live source without the tag `unverified`
                                                                   (Flags, flags_of_steps)

The rules are a parameter (`evaluate`): any function of the state of the first ingest.
-/

namespace App.Findings

open PyText AsmSensors App.Scans App.Scope App.Assets Machines List Option Bool

variable {J : Type} {T : Tables J} {ctx : IngestContext} {rows : Rows J} {result : SensorResult J}

/-! ## What is merged -/

/-- An observation that was merged into a finding. -/
structure Merge where
  finding : Nat
  obs : FindingObservation
  historical : Bool

def Merge.verifies (m : Merge) : Bool := !(m.historical || m.obs.tags.contains "unverified".toList)

def related (T : Tables J) (ctx : IngestContext) (rows : Rows J) (result : SensorResult J) : Ingestor J :=
  let g := gather T ctx result.observations
  let (st, links) := relate T ctx (applyAssets T ctx rows g) g
  (st.pairs links).foldl (Ingestor.upsertRelation ctx) st

/-- The findings that the rounds of the loop over the observed findings saw, with what they saw. -/
def mergesFrom (T : Tables J) (ctx : IngestContext) : Ingestor J → List (AKey × FindingObservation) → List Merge
  | _, [] => []
  | st, f :: fs =>
    let (st', seen) := observeFinding T ctx (st, []) f
    seen.map (fun i => { finding := i, obs := f.2, historical := ctx.historical }) ++ mergesFrom T ctx st' fs

def Change.merges : Change T → List Merge
  | .ingested a =>
    mergesFrom T a.ctx (related T a.ctx a.before a.result) (gather T a.ctx a.result.observations).findings
  | _ => []

/-! ## Stages -/

/-- What `complete_stage` gives to both ingests. -/
structure StageContext where
  checker : ScopeChecker
  now : Int := 0
  rules : InactivityRules := []

/-- `rules.SOURCE`. -/
def rulesSource : Str := "asm-rules".toList

def StageContext.ofResult (c : StageContext) (result : SensorResult J) : IngestContext where
  checker := c.checker
  now := c.now
  rules := c.rules
  source := result.adapter
  historical := result.historical

def StageContext.ofRules (c : StageContext) : IngestContext where
  checker := c.checker
  now := c.now
  rules := c.rules
  source := rulesSource

def runIngest (T : Tables J) (ctx : IngestContext) (rows : Rows J) (result : SensorResult J) :
    Option (Applied T) :=
  match h : ingest T ctx rows result with
  | none => none
  | some st => some ⟨rows, ctx, result, st, h⟩

/-- `complete_stage`: the ingests that it makes, in order; `none` is an exception. -/
def completeStage (T : Tables J) (c : StageContext) (evaluate : Ingestor J → SensorResult J)
    (rows : Rows J) (result : SensorResult J) : Option (List (Applied T)) :=
  match ingestedResult result with
  | none => some []
  | some result => do
    let first ← runIngest T (c.ofResult result) rows result
    if result.historical then
      return [first]
    else
      let found := evaluate first.after
      if found.coverage.isEmpty then
        return [first]
      else
        let second ← runIngest T c.ofRules first.after.rows found
        return [first, second]

def engineNames : List Str :=
  ["subfinder", "amass", "crtsh", "dnsx", "asnlookup", "shodan", "naabu", "httpx", "nuclei",
    "spiderfoot", "bbot", "zap_spider", "zap_active", "screenshot"].map String.toList

/-- A stage whose result was applied.  A stage that runs has a registered engine, and its result
is refused unless it names that engine. -/
structure CompletedStage (T : Tables J) where
  context : StageContext
  evaluate : Ingestor J → SensorResult J
  before : Rows J
  result : SensorResult J
  engine : result.adapter ∈ engineNames
  ingests : List (Applied T)
  run : completeStage T context evaluate before result = some ingests

/-- What happens to the findings, stage by stage. -/
inductive StageEvent (T : Tables J)
  | completed (s : CompletedStage T)
  | updated (before : Rows J) (i : Nat) (u : FindingUpdate) (canAcceptRisk : Bool) (now : Int)
      (findings : List Finding)
      (run : updateFinding T.unicode before.findings i u canAcceptRisk now = .ok findings)

def StageEvent.changes : StageEvent T → List (Change T)
  | .completed s => s.ingests.map .ingested
  | .updated before i u canAcceptRisk now findings run =>
    [.updated before i u canAcceptRisk now findings run]

def StageEvent.before : StageEvent T → Rows J
  | .completed s => s.before
  | .updated before .. => before

def StageEvent.after (e : StageEvent T) : Rows J := (e.changes.getLast?.map Change.after).getD e.before

def StageEvent.Step (rows : Rows J) (e : StageEvent T) (rows' : Rows J) : Prop :=
  e.before = rows ∧ e.after = rows'

def StageEvent.merges (e : StageEvent T) : List Merge := e.changes.flatMap Change.merges

/-! ## Flags and merges -/

/-- A row is verified exactly if one of its merges verifies it. -/
structure Flags (fs : List Finding) (ms : List Merge) : Prop where
  known : ∀ m ∈ ms, m.finding < fs.length
  verified : ∀ (i : Nat) (f : Finding), fs[i]? = some f →
    (f.unverified = false ↔ ∃ m ∈ ms, m.finding = i ∧ m.verifies = true)

variable {ms : List Merge}

lemma Flags.column {fs fs' : List Finding} (h : Flags fs ms)
    (hcol : fs'.map Finding.unverified = fs.map Finding.unverified) : Flags fs' ms := by
  have hlen : fs'.length = fs.length := by simpa using congrArg length hcol
  refine ⟨fun m hm => hlen ▸ h.known m hm, fun i f' hf' => ?_⟩
  have hi := congrArg (·[i]?) hcol
  simp only [getElem?_map, hf', map_some] at hi
  obtain ⟨f, hf, hflag⟩ := map_eq_some_iff.1 hi.symm
  rw [← hflag]
  exact h.verified i f hf

lemma seenAgain_unverified (obs : FindingObservation) (now : Int) (unverified : Bool) (f : Finding) :
    (seenAgain obs now unverified f).unverified = (f.unverified && unverified) := by
  unfold seenAgain
  simp only
  split <;> rfl

lemma Flags.upsert {fs fs' : List Finding} (h : Flags fs ms) {U : PyText.Unicode}
    {ids : Identity} {assetId : Nat} {m : Merge} {source : Str} {now : Int}
    (hup : upsertObservation U ids fs assetId m.obs source now (!m.verifies) = (fs', m.finding)) :
    Flags fs' (ms ++ [m]) := by
  unfold upsertObservation at hup
  simp only at hup
  split at hup
  · next j hj =>
    obtain ⟨hfs, rfl⟩ := Prod.mk.inj hup
    subst hfs
    have hlt : m.finding < fs.length := (findIdx?_eq_some_iff_getElem.1 hj).1
    refine ⟨?_, ?_⟩
    · intro m' hm'
      rw [length_modify]
      rcases mem_append.1 hm' with hm' | hm'
      · exact h.known m' hm'
      · rwa [mem_singleton.1 hm']
    intro i f' hf'
    obtain ⟨f, hf, rfl⟩ := exists_of_modify hf'
    have hold := h.verified i f hf
    by_cases hij : m.finding = i
    · -- merged: verified before, or by this one
      simp only [if_pos hij, seenAgain_unverified, and_eq_false_iff, not_eq_false',
        hold, mem_append, mem_singleton]
      constructor
      · rintro (⟨m', hm', hi, hv⟩ | hv)
        · exact ⟨m', .inl hm', hi, hv⟩
        · exact ⟨m, .inr rfl, hij, hv⟩
      rintro ⟨m', hm' | rfl, hi, hv⟩
      · exact .inl ⟨m', hm', hi, hv⟩
      · exact .inr hv
    · simp only [if_neg hij, hold, mem_append, mem_singleton]
      constructor
      · rintro ⟨m', hm', hi, hv⟩
        exact ⟨m', .inl hm', hi, hv⟩
      rintro ⟨m', hm' | rfl, hi, hv⟩
      · exact ⟨m', hm', hi, hv⟩
      · exact absurd hi hij
  · obtain ⟨hfs, hlen⟩ := Prod.mk.inj hup
    subst hfs
    refine ⟨?_, ?_⟩
    · intro m' hm'
      rw [length_append, length_singleton]
      rcases mem_append.1 hm' with hm' | hm'
      · exact (h.known m' hm').trans (Nat.lt_succ_self _)
      · rw [mem_singleton.1 hm', ← hlen]
        exact Nat.lt_succ_self _
    intro i f hf
    rcases getElem?_concat_cases hf with hold | ⟨hi, rfl⟩
    · have hlt : i < fs.length := (List.getElem?_eq_some_iff.1 hold).1
      rw [h.verified i f hold]
      simp only [mem_append, mem_singleton]
      constructor
      · rintro ⟨m', hm', hi, hv⟩
        exact ⟨m', .inl hm', hi, hv⟩
      rintro ⟨m', hm' | rfl, hi, hv⟩
      · exact ⟨m', hm', hi, hv⟩
      · omega
    · simp only [newFinding, not_eq_false', mem_append, mem_singleton]
      constructor
      · exact fun hv => ⟨m, .inr rfl, by omega, hv⟩
      rintro ⟨m', hm' | rfl, hi', hv⟩
      · have := h.known m' hm'
        omega
      · exact hv

lemma observeFinding_fst (st : Ingestor J) (seen : List Nat) (f : AKey × FindingObservation) :
    (observeFinding T ctx (st, seen) f).1 = (observeFinding T ctx (st, []) f).1 := by
  unfold observeFinding
  simp only
  split
  · rfl
  · split <;> rfl

lemma foldl_observeFinding (st : Ingestor J) (seen : List Nat) (f : AKey × FindingObservation)
    (fs : List (AKey × FindingObservation)) :
    ((f :: fs).foldl (observeFinding T ctx) (st, seen)).1 =
      (fs.foldl (observeFinding T ctx) ((observeFinding T ctx (st, []) f).1, [])).1 := by
  have hseen : ∀ (fs : List (AKey × FindingObservation)) (st : Ingestor J) (seen : List Nat),
      (fs.foldl (observeFinding T ctx) (st, seen)).1 = (fs.foldl (observeFinding T ctx) (st, [])).1 := by
    intro fs
    induction fs with
    | nil => exact fun _ _ => rfl
    | cons g fs ih =>
      intro st seen
      rw [foldl_cons, foldl_cons, ← Prod.mk.eta (p := observeFinding T ctx (st, seen) g),
        ← Prod.mk.eta (p := observeFinding T ctx (st, []) g), ih, observeFinding_fst,
        ← ih (observeFinding T ctx (st, []) g).1 (observeFinding T ctx (st, []) g).2]
  rw [foldl_cons, ← Prod.mk.eta (p := observeFinding T ctx (st, seen) f), hseen, observeFinding_fst]

lemma Flags.round {st : Ingestor J} (h : Flags st.rows.findings ms) (f : AKey × FindingObservation) :
    Flags (observeFinding T ctx (st, []) f).1.rows.findings
      (ms ++ (observeFinding T ctx (st, []) f).2.map
        fun i => { finding := i, obs := f.2, historical := ctx.historical }) := by
  unfold observeFinding
  simp only
  split
  · simpa using h
  next id _ =>
  split
  · simpa using h
  have hflag : ∀ i, (!Merge.verifies { finding := i, obs := f.2, historical := ctx.historical }) =
      (ctx.historical || f.2.tags.contains "unverified".toList) := fun i => not_not _
  have hup : ∀ fs' i, upsertObservation T.unicode T.ids st.rows.findings id f.2 ctx.source ctx.now
      (ctx.historical || f.2.tags.contains "unverified".toList) = (fs', i) →
      Flags fs' (ms ++ [{ finding := i, obs := f.2, historical := ctx.historical }]) := by
    intro fs' i hup
    rw [← hflag i] at hup
    exact h.upsert hup
  exact hup _ _ rfl

lemma Flags.merges {st : Ingestor J} (h : Flags st.rows.findings ms) (fs : List (AKey × FindingObservation)) :
    Flags (fs.foldl (observeFinding T ctx) (st, [])).1.rows.findings (ms ++ mergesFrom T ctx st fs) := by
  induction fs generalizing st ms with
  | nil => simpa [mergesFrom] using h
  | cons f fs ih =>
    rw [foldl_observeFinding, mergesFrom, ← append_assoc]
    exact ih (h.round f)

/-! ## One change -/

lemma related_findings (hv : rows.Valid) (result : SensorResult J) :
    (related T ctx rows result).rows.findings = rows.findings := by
  have h : Sighted ctx rows [] (related T ctx rows result) :=
    upsertRelations_sighted (relate_sighted (applyAssets_sighted hv _) _) _
  refine ext_getElem? fun i => ?_
  cases hf : rows.findings[i]? with
  | some f =>
    obtain ⟨f', hf', hs⟩ := h.finding_old i f hf
    rw [hf', hs.kept (by simp)]
  | none =>
    cases hf' : (related T ctx rows result).rows.findings[i]? with
    | none => rfl
    | some f' => exact absurd (h.finding_new i f' hf hf').2 (by simp)

lemma Event.onFinding_unverified (ctx : IngestContext) (e : Assets.Event) (i : Nat) (f : Finding) :
    (e.onFinding ctx i f).unverified = f.unverified := by
  cases e <;> simp only [Assets.Event.onFinding, withAsset, missFinding] <;> (repeat' split) <;> rfl

/-- Coverage leaves the column `unverified`. -/
lemma steps_unverified {seen : List Nat} {st st' : Ingestor J} {es : List Assets.Event}
    (h : Steps (Touch T ctx seen) st es st') :
    st'.rows.findings.map Finding.unverified = st.rows.findings.map Finding.unverified := by
  refine h.preserves (fun t => t.rows.findings.map Finding.unverified =
    st.rows.findings.map Finding.unverified) ?_ rfl
  intro t e u ht hstep
  rw [← ht]
  refine ext_getElem? fun i => ?_
  rw [getElem?_map, getElem?_map, hstep.finding, Option.map_map]
  exact congrArg (Option.map · _) (funext fun f => Event.onFinding_unverified ctx e i f)

lemma Change.flags {c : Change T} (hv : c.before.Valid)
    (h : Flags c.before.findings ms) : Flags c.after.findings (ms ++ c.merges) := by
  cases c with
  | ingested a =>
    have hsight : Sighted a.ctx a.before (observe T a.ctx a.before a.result).2
        (observe T a.ctx a.before a.result).1 := observe_sighted hv a.result
    obtain ⟨es, hes, _⟩ := (coverage_passes hsight.settled a.run).steps
    have hv' : a.before.Valid := hv
    have hstart : Flags (related T a.ctx a.before a.result).rows.findings ms := by
      rw [related_findings hv']
      exact h
    have hfirst : Flags (observe T a.ctx a.before a.result).1.rows.findings
        (ms ++ (Change.ingested a).merges) := hstart.merges _
    exact hfirst.column (steps_unverified hes)
  | updated before i u canAcceptRisk now findings run =>
    simp only [Change.merges, append_nil]
    obtain ⟨f, f', hf, rfl, _, hflag, _⟩ := updateFinding_ok run
    refine h.column ?_
    show (before.findings.set i f').map Finding.unverified = before.findings.map Finding.unverified
    refine ext_getElem? fun j => ?_
    rw [getElem?_map, getElem?_map]
    by_cases hij : i = j
    · subst hij
      have hlt : i < before.findings.length := (List.getElem?_eq_some_iff.1 hf).1
      rw [getElem?_set_self hlt, hf, map_some, map_some, hflag]
    · rw [getElem?_set_ne hij]
  | acceptanceChecked before now =>
    simp only [Change.merges, append_nil]
    refine h.column ?_
    show (expireRiskAcceptance now before.findings).map Finding.unverified =
      before.findings.map Finding.unverified
    rw [expireRiskAcceptance, List.map_map]
    refine map_congr_left fun f _ => ?_
    simp only [Function.comp_apply]
    split <;> rfl

/-! ## Histories of stages -/

lemma runIngest_some {a : Applied T} (h : runIngest T ctx rows result = some a) :
    a.before = rows ∧ a.ctx = ctx ∧ a.result = result := by
  unfold runIngest at h
  split at h
  · cases h
  · cases h
    exact ⟨rfl, rfl, rfl⟩

/-- The ingests of a stage: none, that of the result, or also that of the rules after a result
that is not historical. -/
lemma completeStage_cases {c : StageContext} {evaluate : Ingestor J → SensorResult J}
    {ingests : List (Applied T)} (h : completeStage T c evaluate rows result = some ingests) :
    ingests = [] ∨ ∃ first : Applied T, first.before = rows ∧
      first.ctx = c.ofResult result ∧ (ingests = [first] ∨
        result.historical = false ∧ ∃ second : Applied T, second.before = first.after.rows ∧
          second.ctx = c.ofRules ∧ ingests = [first, second]) := by
  unfold completeStage at h
  cases hres : ingestedResult result with
  | none =>
    rw [hres] at h
    cases h
    exact .inl rfl
  | some res =>
    -- dropping coverage leaves the adapter and the flag
    have hsame : c.ofResult res = c.ofResult result ∧ res.historical = result.historical := by
      unfold ingestedResult at hres
      split_ifs at hres <;> cases hres <;> exact ⟨rfl, rfl⟩
    rw [hres] at h
    simp only [bind_eq_bind, bind_eq_some_iff] at h
    obtain ⟨first, hfirst, h⟩ := h
    obtain ⟨hbefore, hctx, _⟩ := runIngest_some hfirst
    refine .inr ⟨first, hbefore, hctx.trans hsame.1, ?_⟩
    split at h
    · cases h
      exact .inl rfl
    next hhist =>
    split at h
    · cases h
      exact .inl rfl
    obtain ⟨second, hsecond, h⟩ := bind_eq_some_iff.1 h
    cases h
    obtain ⟨hbefore', hctx', _⟩ := runIngest_some hsecond
    rw [not_eq_true, hsame.2] at hhist
    exact .inr ⟨hhist, second, hbefore', hctx', rfl⟩

lemma StageEvent.steps (e : StageEvent T) : Steps Change.Step e.before e.changes e.after := by
  cases e with
  | updated => exact .single ⟨rfl, rfl⟩
  | completed s =>
    rcases completeStage_cases s.run with hnil | ⟨first, hbefore, _, hone | ⟨_, second, hbefore', _, htwo⟩⟩
    · simp only [StageEvent.after, StageEvent.changes, hnil]
      exact .nil
    · simp only [StageEvent.after, StageEvent.changes, hone]
      exact .single ⟨hbefore, rfl⟩
    · simp only [StageEvent.after, StageEvent.changes, htwo]
      exact .cons (t := first.after.rows) ⟨hbefore, rfl⟩ (.single ⟨hbefore', rfl⟩)

variable {start : Rows J} {history : List (StageEvent T)}

lemma changes_of_stages (h : Steps StageEvent.Step start history rows) :
    Steps Change.Step start (history.flatMap StageEvent.changes) rows := by
  induction h with
  | nil => exact .nil
  | @snoc history mid rows e _ hstep ih =>
    obtain ⟨rfl, rfl⟩ := hstep
    rw [flatMap_append, flatMap_singleton]
    exact ih.trans e.steps

lemma flags_of_steps {changes : List (Change T)} (hv : start.Valid)
    (hnone : start.findings = []) (h : Steps Change.Step start changes rows) :
    rows.Valid ∧ Flags rows.findings (changes.flatMap Change.merges) := by
  induction h with
  | nil => exact ⟨hv, by simp [hnone], by simp [hnone]⟩
  | snoc _ hstep ih =>
    obtain ⟨rfl, rfl⟩ := hstep
    rw [flatMap_append, flatMap_singleton]
    exact ⟨Change.valid ih.1, Change.flags ih.1 ih.2⟩

lemma flags_of_stages (hv : start.Valid)
    (hnone : start.findings = []) (h : Steps StageEvent.Step start history rows) :
    rows.Valid ∧ Flags rows.findings (history.flatMap StageEvent.merges) := by
  have hflags := flags_of_steps hv hnone (changes_of_stages h)
  rwa [flatMap_assoc] at hflags

/-! ## Where a finding comes from -/

lemma seenAgain_source (obs : FindingObservation) (now : Int) (unverified : Bool) (f : Finding) :
    (seenAgain obs now unverified f).source = f.source := by
  unfold seenAgain
  simp only
  split <;> rfl

lemma upsertObservation_source {fs fs' old : List Finding} {U : PyText.Unicode} {ids : Identity}
    {assetId i : Nat} {obs : FindingObservation} {source : Str} {now : Int} {unverified : Bool}
    (hup : upsertObservation U ids fs assetId obs source now unverified = (fs', i))
    (h : ∀ (j : Nat) (f : Finding), old[j]? = none → fs[j]? = some f → f.source = source) :
    ∀ (j : Nat) (f : Finding), old[j]? = none → fs'[j]? = some f → f.source = source := by
  intro j f' hnone hf'
  unfold upsertObservation at hup
  simp only at hup
  split at hup
  · cases hup
    obtain ⟨f, hf, rfl⟩ := exists_of_modify hf'
    split
    · rw [seenAgain_source]
      exact h j f hnone hf
    · exact h j f hnone hf
  · cases hup
    rcases getElem?_concat_cases hf' with hold | ⟨_, rfl⟩
    · exact h j f' hnone hold
    · rfl

lemma new_finding_source (a : Applied T) (hv : a.before.Valid) {i : Nat} {f : Finding}
    (hnone : a.before.findings[i]? = none) (hf : a.after.rows.findings[i]? = some f) :
    f.source = a.ctx.source := by
  have hsight : Sighted a.ctx a.before (observe T a.ctx a.before a.result).2
      (observe T a.ctx a.before a.result).1 := observe_sighted hv a.result
  obtain ⟨es, hes, _⟩ := (coverage_passes hsight.settled a.run).steps
  obtain ⟨f₀, hf₀, hon⟩ := (Onward.of_steps hes).finding_before hf
  rw [hon.source]
  have hfold : ∀ (j : Nat) (g : Finding), a.before.findings[j]? = none →
      (observe T a.ctx a.before a.result).1.rows.findings[j]? = some g → g.source = a.ctx.source := by
    refine foldlRecOn (motive := fun acc : Ingestor J × List Nat => ∀ (j : Nat) (g : Finding),
      a.before.findings[j]? = none → acc.1.rows.findings[j]? = some g → g.source = a.ctx.source) _ _ ?_ ?_
    · intro j g hj hg
      have hsame : (related T a.ctx a.before a.result).rows.findings[j]? = some g := hg
      rw [related_findings hv, hj] at hsame
      cases hsame
    intro acc hacc obs _
    unfold observeFinding
    simp only
    split
    · exact hacc
    split
    · exact hacc
    · exact upsertObservation_source rfl hacc
  exact hfold i f₀ hnone hf₀

lemma rulesSource_not_engine : rulesSource ∉ engineNames := by decide

/-- A historical result is the only thing its stage ingests, under the name of an engine. -/
lemma historical_source (s : CompletedStage T) (hv : s.before.Valid) (hh : s.result.historical = true)
    {i : Nat} {f : Finding} (hnone : s.before.findings[i]? = none)
    (hf : (StageEvent.completed s).after.findings[i]? = some f) : f.source ≠ rulesSource := by
  rcases completeStage_cases s.run with hnil | ⟨first, hbefore, hctx, hone | ⟨hlive, _⟩⟩
  · simp only [StageEvent.after, StageEvent.changes, hnil] at hf
    exact absurd (hnone.symm.trans hf) (by simp)
  · simp only [StageEvent.after, StageEvent.changes, hone] at hf
    have hsrc := new_finding_source first (hbefore ▸ hv) (hbefore ▸ hnone) hf
    rw [hsrc, hctx]
    intro heq
    have hadapter : s.result.adapter = rulesSource := heq
    exact rulesSource_not_engine (hadapter ▸ s.engine)
  · rw [hh] at hlive
    cases hlive

/-- **Verified findings.**  Over any history of stages and updates: a finding is verified exactly
if one of the observations merged into it came from a live source and was not tagged
`unverified`; it stays verified in every continuation; and a historical result creates no finding
of the built-in rules. -/
theorem verified_iff_live_merge {start : Rows J} {history : List (StageEvent T)} (hv : start.Valid)
    (hnone : start.findings = []) (h : Steps StageEvent.Step start history rows) :
    (∀ (i : Nat) (f : Finding), rows.findings[i]? = some f →
      (f.unverified = false ↔ ∃ m ∈ history.flatMap StageEvent.merges, m.finding = i ∧
        m.historical = false ∧ "unverified".toList ∉ m.obs.tags)) ∧
    (∀ (later : List (StageEvent T)) (rows' : Rows J), Steps StageEvent.Step rows later rows' → ∀ (i : Nat) (f f' : Finding),
      rows.findings[i]? = some f → rows'.findings[i]? = some f' →
      f.unverified = false → f'.unverified = false) ∧
    ∀ s : CompletedStage T, s.before = rows → s.result.historical = true → ∀ (i : Nat) (f : Finding),
      rows.findings[i]? = none → (StageEvent.completed s).after.findings[i]? = some f →
      f.source ≠ rulesSource := by
  obtain ⟨hvalid, hflags⟩ := flags_of_stages hv hnone h
  refine ⟨?_, ?_, ?_⟩
  · intro i f hf
    rw [hflags.verified i f hf]
    simp [Merge.verifies]
  · intro later rows' hlater i f f' hf hf' hver
    have hflags' := (flags_of_stages hv hnone (h.trans hlater)).2
    obtain ⟨m, hm, hi, hverifies⟩ := (hflags.verified i f hf).1 hver
    refine (hflags'.verified i f' hf').2 ⟨m, ?_, hi, hverifies⟩
    rw [flatMap_append]
    exact mem_append_left _ hm
  · intro s hs hh i f hold hnew
    subst hs
    exact historical_source s hvalid hh hold hnew

/-! ## A tested endpoint -/

lemma netsOf_example : netsOf [{ id := none, entryType := .domain, value := "example.com".toList }] = some [] := rfl

def exampleScope : StageContext where
  checker :=
    { rules := [{ id := none, entryType := .domain, value := "example.com".toList }]
      allowNonPublic := false, nets := [], nets_eq := netsOf_example }

def oneEndpoint : Rows Unit where
  assets := [{ assetType := .httpEndpoint, normalizedValue := "https://a.example.com".toList }]

def somethingFound : SensorResult Unit where
  adapter := "nuclei".toList
  observations := [.finding
    { asset := ⟨.httpEndpoint, "https://a.example.com".toList⟩, ruleId := "rule".toList, title := [] }]

def noRules : Ingestor Unit → SensorResult Unit := fun _ => { adapter := rulesSource }

lemma somethingFound_ingested :
    (completeStage plainTables exampleScope noRules oneEndpoint somethingFound).isSome = true := by
  decide +kernel

def testedStage : CompletedStage plainTables where
  context := exampleScope
  evaluate := noRules
  before := oneEndpoint
  result := somethingFound
  engine := by decide
  ingests := (completeStage plainTables exampleScope noRules oneEndpoint somethingFound).get
    somethingFound_ingested
  run := (Option.some_get _).symm

theorem tested_finding_verified :
    ((StageEvent.completed testedStage).after.findings[0]?.any fun f => !f.unverified) = true ∧
    ∃ m ∈ [StageEvent.completed testedStage].flatMap StageEvent.merges, m.finding = 0 ∧
      m.historical = false ∧ "unverified".toList ∉ m.obs.tags := by
  have hver : ((StageEvent.completed testedStage).after.findings[0]?.any fun f => !f.unverified) = true := by
    decide +kernel
  refine ⟨hver, ?_⟩
  obtain ⟨f, hf, hflag⟩ := (Option.any_eq_true _ _).1 hver
  have hsteps : Steps StageEvent.Step oneEndpoint [StageEvent.completed testedStage]
      (StageEvent.completed testedStage).after := .single ⟨rfl, rfl⟩
  exact ((verified_iff_live_merge ⟨by decide, by decide, by decide⟩ rfl hsteps).1 0 f hf).1 (by simpa using hflag)

end App.Findings
