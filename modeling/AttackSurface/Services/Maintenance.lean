import AttackSurface.Assets.Retiring
import AttackSurface.Findings.Verified
import AttackSurface.Scope.Inventory

/-!
# Ageing out (`app/services/maintenance.py`) and what is closed with an asset

An asset is closed by ingestion, where `_deactivate` resolves its findings and goes on to what
it owns, or by `age_out_assets`, which writes the row and nothing else.  Over any history of
stages, analysts' updates, maintenance and changes of the scope:

    an asset that ages out has no open finding  →  every asset that is closed is retired
                                                                (retired_unless_aged_open)

What an aged asset owns needs no cascade: a child is at least as young, or ages out by itself,
since none of the owned types is declared in a scope (`Sourced`).  Its findings do: they stay
open, and no coverage gets to them any more.
-/

namespace App.Services

open PyText AsmSensors App.Scans App.Scope App.Assets App.Findings Machines List Option

variable {J : Type} {T : Tables J}

/-- `NO_AGE_OUT`. -/
def noAgeOut : List AssetType := [.rootDomain, .technology, .asn, .cidr]

variable (now days : Int)

/-- `now - timedelta(days)`. -/
def ageLimit : Int := now - days * 86400

/-- The query of `age_out_assets`; a missing source is not different from `scope`. -/
def agesOut (a : AssetRow J) : Bool :=
  decide (a.status = .active ∧ a.lastSeen < ageLimit now days ∧ a.assetType ∉ noAgeOut) &&
    a.source.any fun s => decide (s ≠ scopeSource)

/-- `age_out_assets`. -/
def ageOutAssets (rows : Rows J) : Rows J :=
  { rows with assets := rows.assets.map fun a => if agesOut now days a then a.closed now else a }

/-! ## Histories -/

/-- What happens to the rows of an organization. -/
inductive Upkeep (T : Tables J)
  | staged (e : StageEvent T)
  | acceptanceChecked (before : Rows J) (now : Int)
  | agedOut (before : Rows J) (now days : Int)
  | scopeSynced (before : Rows J) (checker : ScopeChecker) (now : Int) (after : Rows J)
      (run : syncScopeAssets T checker now before = some after)
  | rescoped (before : Rows J) (checker : ScopeChecker) (after : Rows J)
      (run : rescopeAssets T checker before = some after)

namespace Upkeep

def before : Upkeep T → Rows J
  | .staged e => e.before
  | .acceptanceChecked before _ | .agedOut before .. | .scopeSynced before .. | .rescoped before .. => before

def after : Upkeep T → Rows J
  | .staged e => e.after
  | .acceptanceChecked before now => (Change.acceptanceChecked (T := T) before now).after
  | .agedOut before now days => ageOutAssets now days before
  | .scopeSynced _ _ _ after _ | .rescoped _ _ after _ => after

def Step (rows : Rows J) (u : Upkeep T) (rows' : Rows J) : Prop := u.before = rows ∧ u.after = rows'

def Retires : Upkeep T → Prop
  | .staged (.completed s) => ∀ a ∈ s.ingests, a.Retires
  | .agedOut before now days => ∀ id, before.Closes (ageOutAssets now days before) id →
      before.Retired (ageOutAssets now days before) (fun c => ageLimit now days ≤ c.lastSeen) id
  | u => ∀ id, ¬u.before.Closes u.after id

def Clean : Upkeep T → Prop
  | .agedOut before now days => ∀ (id : Nat) (a : AssetRow J), before.assets[id]? = some a →
      agesOut now days a = true → ∀ f ∈ before.findings, f.assetId = id → f.status.isOpen = false
  | _ => True

end Upkeep

/-! ## Where the assets come from -/

lemma ingest_sourced {ctx : IngestContext} {rows : Rows J} {result : SensorResult J} {st : Ingestor J}
    (hv : rows.Valid) (hsource : ctx.source ≠ scopeSource) (hrun : ingest T ctx rows result = some st)
    (hs : Sourced rows) : Sourced st.rows := by
  have hsight : Sighted ctx rows (observe T ctx rows result).2 (observe T ctx rows result).1 :=
    observe_sighted hv result
  obtain ⟨es, hes⟩ := ingest_steps hv hrun
  intro a' ha' hlive
  obtain ⟨i, hi⟩ := mem_iff_getElem?.1 ha'
  obtain ⟨b, hb, hba⟩ := (Onward.of_steps hes).asset_before hi
  rw [hba.source]
  rcases hsight.asset_source i b hb with ⟨a, ha, hab⟩ | hnew
  · obtain ⟨b', hb', hsighted⟩ := hsight.asset_old i a ha
    rw [hb, some_inj] at hb'
    subst hb'
    have htype : a'.assetType = a.assetType := hba.type.trans (congrArg Prod.fst hsighted.key)
    rw [hab]
    exact hs a (mem_of_getElem? ha) (htype ▸ hlive)
  · exact ⟨ctx.source, hnew, hsource⟩

lemma engine_not_scope {engine : Str} (h : engine ∈ engineNames) : engine ≠ scopeSource := by
  rintro rfl
  exact absurd h (by decide)

/-- No sensor is called `scope`. -/
lemma ingests_source (s : CompletedStage T) {a : Applied T} (ha : a ∈ s.ingests) :
    a.ctx.source ≠ scopeSource := by
  rcases completeStage_cases s.run with hnil | ⟨first, _, hctx, hone | ⟨_, second, _, hctx', htwo⟩⟩
  · rw [hnil] at ha
    cases ha
  · rw [hone, mem_singleton] at ha
    rw [ha, hctx]
    exact engine_not_scope s.engine
  rw [htwo, mem_cons, mem_singleton] at ha
  rcases ha with rfl | rfl
  · rw [hctx]
    exact engine_not_scope s.engine
  rw [hctx']
  show rulesSource ≠ scopeSource
  decide

/-- The rows before each of the changes are valid, and sourced as those before all of them. -/
lemma changes_kept {rows rows' : Rows J} {changes : List (Change T)} (h : Steps Change.Step rows changes rows')
    (hsource : ∀ a, .ingested a ∈ changes → a.ctx.source ≠ scopeSource) (hv : rows.Valid)
    (hs : Sourced rows) : (rows'.Valid ∧ Sourced rows') ∧ ∀ c ∈ changes, c.before.Valid := by
  induction h with
  | nil => exact ⟨⟨hv, hs⟩, by simp⟩
  | @snoc changes mid rows' c _ hstep ih =>
    obtain ⟨rfl, rfl⟩ := hstep
    obtain ⟨⟨hvalid, hsourced⟩, hbefore⟩ := ih fun a ha => hsource a (mem_append_left _ ha)
    refine ⟨⟨Change.valid hvalid, ?_⟩, ?_⟩
    · cases c with
      | ingested a => exact ingest_sourced hvalid (hsource a (by simp)) a.run hsourced
      | updated | acceptanceChecked => exact hsourced
    intro c' hc'
    rcases mem_append.1 hc' with hc' | hc'
    · exact hbefore c' hc'
    · rw [mem_singleton.1 hc']
      exact hvalid

lemma stage_kept (e : StageEvent T) (hv : e.before.Valid) (hs : Sourced e.before) :
    (e.after.Valid ∧ Sourced e.after) ∧ ∀ c ∈ e.changes, c.before.Valid := by
  refine changes_kept e.steps ?_ hv hs
  intro a ha
  cases e with
  | completed s =>
    simp only [StageEvent.changes, List.mem_map, Change.ingested.injEq, exists_eq_right] at ha
    exact ingests_source s ha
  | updated => simp [StageEvent.changes] at ha

/-! ## Ageing out -/

section Ageing

variable {rows : Rows J} {now days : Int}

lemma ageOutAssets_asset (i : Nat) : (ageOutAssets now days rows).assets[i]? =
    rows.assets[i]?.map fun a => if agesOut now days a then a.closed now else a :=
  getElem?_map

lemma ageOutAssets_kept (hv : rows.Valid) (hs : Sourced rows) :
    (ageOutAssets now days rows).Valid ∧ Sourced (ageOutAssets now days rows) := by
  have hkeys : (ageOutAssets now days rows).assets.map AssetRow.key = rows.assets.map AssetRow.key := by
    simp only [ageOutAssets, List.map_map]
    refine map_congr_left fun a _ => ?_
    simp only [Function.comp_apply]
    split <;> rfl
  refine ⟨⟨hkeys ▸ hv.asset_keys, hv.relation_keys, fun r hr => ?_⟩, ?_⟩
  · simpa [ageOutAssets] using hv.relation_ends r hr
  intro a' ha' hlive
  obtain ⟨a, ha, rfl⟩ := List.mem_map.1 ha'
  have hrow : (if agesOut now days a then a.closed now else a).assetType = a.assetType ∧
      (if agesOut now days a then a.closed now else a).source = a.source := by
    split <;> exact ⟨rfl, rfl⟩
  rw [hrow.2]
  exact hs a ha (hrow.1 ▸ hlive)

lemma owned_ages {p c : AssetType} {r : RelationType} (h : (r, c) ∈ ownedChildren p) :
    c ∈ livenessTypes ∧ c ∉ noAgeOut := by
  have hall : ∀ k ∈ ownedChildren p, k.2 ∈ livenessTypes ∧ k.2 ∉ noAgeOut := by
    cases p <;> decide
  exact hall _ h

lemma ageOutAssets_retires (hs : Sourced rows)
    (hclean : (Upkeep.agedOut (T := T) rows now days).Clean) {id : Nat}
    (hcloses : rows.Closes (ageOutAssets now days rows) id) :
    rows.Retired (ageOutAssets now days rows) (fun c => ageLimit now days ≤ c.lastSeen) id := by
  obtain ⟨a, a', ha, hactive, ha', hinactive⟩ := hcloses
  have hold : agesOut now days a = true := by
    rw [ageOutAssets_asset, ha, map_some, some_inj] at ha'
    by_contra hno
    rw [if_neg hno] at ha'
    rw [← ha', hactive] at hinactive
    cases hinactive
  refine ⟨fun f hf hasset => hclean id a ha hold f hf hasset, ?_⟩
  intro r rel c howns hsrc hlive hcactive
  by_cases hyoung : ageLimit now days ≤ c.lastSeen
  · exact .inr (.inl hyoung)
  -- the child is as old, and ages out by itself
  obtain ⟨p, _, hkind⟩ := howns.owner
  obtain ⟨htype, hages⟩ := owned_ages hkind
  obtain ⟨s, hsource, hne⟩ := hs c (mem_of_getElem? howns.child) htype
  have hcold : agesOut now days c = true := by
    simp only [agesOut, hsource, any_some, Bool.and_eq_true, decide_eq_true_eq]
    exact ⟨⟨hcactive, not_le.1 hyoung, hages⟩, hne⟩
  refine .inl ⟨c.closed now, ?_, rfl⟩
  rw [ageOutAssets_asset, howns.child, map_some, if_pos hcold]

end Ageing

/-! ## Every history -/

lemma scopeChange_closes {rows rows' : Rows J} (h : ScopeChange rows rows') (id : Nat) :
    ¬rows.Closes rows' id := by
  rintro ⟨a, a', ha, hactive, ha', hinactive⟩
  obtain ⟨b, hb, hab⟩ := h.asset_old id a ha
  rw [ha', some_inj] at hb
  rw [hb, hab.status, hactive] at hinactive
  cases hinactive

/-- **One event.** -/
theorem Upkeep.kept (u : Upkeep T) (hv : u.before.Valid) (hs : Sourced u.before) :
    (u.after.Valid ∧ Sourced u.after) ∧ (u.Clean → u.Retires) := by
  cases u with
  | staged e =>
    obtain ⟨hkept, hbefore⟩ := stage_kept e hv hs
    refine ⟨hkept, fun _ => ?_⟩
    cases e with
    | completed s => exact fun a ha => a.retires (hbefore (.ingested a) (List.mem_map_of_mem ha))
    | updated before i u canAcceptRisk now findings run =>
      exact fun id hcloses => Rows.Closes.irrefl before id hcloses
  | acceptanceChecked before now =>
    exact ⟨⟨⟨hv.asset_keys, hv.relation_keys, hv.relation_ends⟩, hs⟩,
      fun _ id hcloses => Rows.Closes.irrefl before id hcloses⟩
  | agedOut before now days =>
    exact ⟨ageOutAssets_kept hv hs, fun hclean id hcloses => ageOutAssets_retires hs hclean hcloses⟩
  | scopeSynced before checker now after run =>
    have hchange := syncScopeAssets_change run
    exact ⟨⟨hchange.valid hv, hchange.sourced hs⟩, fun _ => scopeChange_closes hchange⟩
  | rescoped before checker after run =>
    have hchange := rescopeAssets_change run
    exact ⟨⟨hchange.valid hv, hchange.sourced hs⟩, fun _ => scopeChange_closes hchange⟩

/-- **Retiring.**  In a history in which no asset ages out with an open finding, every asset that
is closed is retired right then. -/
theorem retired_unless_aged_open {start rows : Rows J} {history : List (Upkeep T)} (hv : start.Valid)
    (hs : Sourced start) (h : Steps Upkeep.Step start history rows)
    (hclean : ∀ u ∈ history, u.Clean) : ∀ u ∈ history, u.Retires := by
  have hinv : (rows.Valid ∧ Sourced rows) ∧ ∀ u ∈ history, u.Clean → u.Retires := by
    clear hclean
    induction h with
    | nil => exact ⟨⟨hv, hs⟩, by simp⟩
    | @snoc history mid rows u _ hstep ih =>
      obtain ⟨rfl, rfl⟩ := hstep
      obtain ⟨hkept, hretires⟩ := u.kept ih.1.1 ih.1.2
      refine ⟨hkept, fun u' hu' => ?_⟩
      rcases mem_append.1 hu' with hu' | hu'
      · exact ih.2 u' hu'
      · rw [mem_singleton.1 hu']
        exact hretires
  exact fun u hu => hinv.2 u hu (hclean u hu)

/-- **The inventory stays well formed.**  After every history the keys are unique, the ends of relationships
exist, and no asset of an owned type comes from the scope. -/
theorem inventory_valid {start rows : Rows J} {history : List (Upkeep T)} (hv : start.Valid) (hs : Sourced start)
    (h : Steps Upkeep.Step start history rows) : rows.Valid ∧ Sourced rows := by
  refine h.preserves (fun rows => rows.Valid ∧ Sourced rows) ?_ ⟨hv, hs⟩
  rintro _ u _ ⟨hvalid, hsourced⟩ ⟨rfl, rfl⟩
  exact (u.kept hvalid hsourced).1

/-! ## A finding that outlives its asset -/

def endpointSeen : Observation Unit :=
  .asset { type := .httpEndpoint, value := "https://a.example.com".toList }

def findingSeen : Observation Unit :=
  .finding { asset := ⟨.httpEndpoint, "https://a.example.com".toList⟩, ruleId := "rule".toList, title := [] }

lemma nuclei_registered : "nuclei".toList ∈ engineNames := by decide

def discovered (observations : List (Observation Unit)) (h : (completeStage plainTables exampleScope noRules {}
      { adapter := "nuclei".toList, observations := observations }).isSome = true) :
    StageEvent plainTables := .completed
  { context := exampleScope
    evaluate := noRules
    before := {}
    result := { adapter := "nuclei".toList, observations := observations }
    engine := nuclei_registered
    ingests := (completeStage plainTables exampleScope noRules {}
      { adapter := "nuclei".toList, observations := observations }).get h
    run := (Option.some_get _).symm }

def endpointOnly : StageEvent plainTables := discovered [endpointSeen] (by decide +kernel)

def endpointWithFinding : StageEvent plainTables := discovered [endpointSeen, findingSeen] (by decide +kernel)

def monthAfter (e : StageEvent plainTables) : Upkeep plainTables := .agedOut e.after (31 * 86400) 30

lemma closes_of_any {rows rows' : Rows J} {id : Nat}
    (h : (rows.assets[id]?.any fun a => decide (a.status = .active)) = true)
    (h' : (rows'.assets[id]?.any fun a => decide (a.status = .inactive)) = true) : rows.Closes rows' id := by
  obtain ⟨a, ha, hactive⟩ := (Option.any_eq_true _ _).1 h
  obtain ⟨a', ha', hinactive⟩ := (Option.any_eq_true _ _).1 h'
  exact ⟨a, a', ha, of_decide_eq_true hactive, ha', of_decide_eq_true hinactive⟩

lemma empty_valid : ({} : Rows Unit).Valid := ⟨by decide, by decide, by decide⟩

theorem endpoint_retired : (monthAfter endpointOnly).before.Closes (monthAfter endpointOnly).after 0 ∧
    (monthAfter endpointOnly).Retires := by
  refine ⟨closes_of_any (by decide +kernel) (by decide +kernel), ?_⟩
  have hsteps : Steps Upkeep.Step {} [.staged endpointOnly, monthAfter endpointOnly]
      (monthAfter endpointOnly).after := .cons ⟨rfl, rfl⟩ (.single ⟨rfl, rfl⟩)
  refine retired_unless_aged_open empty_valid (fun a ha => by cases ha) hsteps ?_ _ (by simp)
  intro u hu
  rw [mem_cons, mem_singleton] at hu
  rcases hu with rfl | rfl
  · trivial
  have hnone : endpointOnly.after.findings = [] := by decide +kernel
  intro id a _ _ f hf
  rw [hnone] at hf
  cases hf

theorem inventory_valid_month : (monthAfter endpointOnly).after.Valid ∧ Sourced (monthAfter endpointOnly).after := by
  have hsteps : Steps Upkeep.Step {} [.staged endpointOnly, monthAfter endpointOnly]
      (monthAfter endpointOnly).after := .cons ⟨rfl, rfl⟩ (.single ⟨rfl, rfl⟩)
  exact inventory_valid empty_valid (fun a ha => by cases ha) hsteps

/-- The endpoint is closed for its age, and its finding stays `NEW`. -/
theorem aged_out_finding_stays_open :
    Steps Upkeep.Step {} [.staged endpointWithFinding, monthAfter endpointWithFinding]
      (monthAfter endpointWithFinding).after ∧
    ¬(monthAfter endpointWithFinding).Retires := by
  refine ⟨.cons ⟨rfl, rfl⟩ (.single ⟨rfl, rfl⟩), fun hretires => ?_⟩
  have hcloses : endpointWithFinding.after.Closes (monthAfter endpointWithFinding).after 0 :=
    closes_of_any (by decide +kernel) (by decide +kernel)
  have hopen : ((monthAfter endpointWithFinding).after.findings.any fun f =>
      decide (f.assetId = 0) && f.status.isOpen) = true := by decide +kernel
  obtain ⟨f, hf, hstatus⟩ := List.any_eq_true.1 hopen
  rw [Bool.and_eq_true, decide_eq_true_eq] at hstatus
  have := (hretires 0 hcloses).resolved f hf hstatus.1
  rw [hstatus.2] at this
  cases this

end App.Services
