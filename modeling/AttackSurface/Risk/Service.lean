import AttackSurface.Risk.Engine
import AttackSurface.Store.Keyed
import AttackSurface.Store.Table

/-!
# Recomputing an organization's risk (`app/risk/service.py`, `risk_changed`)

`recompute` scores the findings, then the assets in an order that puts leaves first, so that a
parent finds the scores of its children in `computed`:

    well-typed rollup edges  →  child.riskScore ≤ parent.riskScore       (recompute_rollup)

A score depends on the columns that recomputing leaves alone, so a second recomputation finds
every score as it is (`recompute_again`).
-/

namespace App.Risk

open PyText PyDict AsmSensors App.Scans App.Findings List Option

/-! ## Rows -/

structure Relationship where
  sourceAssetId : Nat
  targetAssetId : Nat
  relationType : RelationType
  active : Bool := true
deriving DecidableEq

/-- The rows of one organization. -/
structure Organization where
  assets : List Asset
  findings : List Finding
  relationships : List Relationship
  ids : (assets.map Asset.id).Nodup

/-- `ROLLUP`: a parent inherits the score of its riskiest child. -/
def rollup : List RelationType := [.serves, .hasPort, .runsService, .resolvesTo]

/-- `ORDER.index` of a type, `-1` for the types that are not listed. -/
def orderOf : AssetType → Int
  | .service => 0
  | .port => 1
  | .httpEndpoint => 2
  | .ipAddress => 3
  | .subdomain => 4
  | .domain => 5
  | .rootDomain => 6
  | _ => -1

def Asset.withRisk (a : Asset) (r : RiskResult) (openFindings : Nat) : Asset :=
  { a with
    riskScore := r.score
    riskLevel := r.level
    riskFactors := r.factors
    openFindings := openFindings }

def Finding.withRisk (f : Finding) (r : RiskResult) : Finding :=
  { f with
    riskScore := r.score
    riskLevel := r.level
    riskFactors := r.factors }

/-! ## Events -/

/-- The options of a call. -/
structure Call where
  scanId : Option Nat := none
  emitEvents : Bool := true
  baseline : Bool := false

inductive EventType
  | riskIncreased
  | riskDecreased
deriving DecidableEq, Repr

structure RiskEvent where
  assetId : Nat
  assetType : AssetType
  assetValue : Str
  scanId : Option Nat
  eventType : EventType
  severity : Severity
  title : Str
  summary : Option Str
  previousState : Int × RiskLevel
  newState : Int × RiskLevel
  occurredAt : Int
  isBaseline : Bool
deriving DecidableEq

def RiskLevel.index : RiskLevel → Nat
  | .info => 0
  | .low => 1
  | .medium => 2
  | .high => 3
  | .critical => 4

def topLabels (factors : List Factor) : Option Str :=
  let top := (factors.insertionSort fun x y => |y.points| ≤ |x.points|).take 3
  if top = [] then none else some (", ".toList.intercalate (top.map Factor.label))

/-- `detector.risk_changed`, with the columns that the caller adds. -/
def riskChanged (call : Call) (now : Int) (a : Asset) (r : RiskResult) : Option RiskEvent :=
  let event (kind : EventType) (severity : Severity) (verb : Str) (summary : Option Str) : RiskEvent :=
    { assetId := a.id
      assetType := a.assetType
      assetValue := a.value
      scanId := call.scanId
      eventType := kind
      severity := severity
      title := "Risk score ".toList ++ verb ++ " for ".toList ++ a.value ++ ": ".toList ++
        PyJson.intText a.riskScore ++ " → ".toList ++ PyJson.intText r.score
      summary := summary
      previousState := (a.riskScore, a.riskLevel)
      newState := (r.score, r.level)
      occurredAt := now
      isBaseline := call.baseline }
  if 10 ≤ r.score - a.riskScore ∨ a.riskLevel.index < r.level.index then
    some (event .riskIncreased (if r.level = .high ∨ r.level = .critical then .high else .medium)
      "increased".toList (topLabels r.factors))
  else if r.level.index < a.riskLevel.index then
    some (event .riskDecreased .info "decreased".toList none)
  else none

def Asset.changedBy (a : Asset) (r : RiskResult) : Bool :=
  decide (r.score ≠ a.riskScore ∨ r.level ≠ a.riskLevel)

def silentTypes : List AssetType := [.technology, .certificate, .asn, .cidr]

def eventOf (call : Call) (now : Int) (a : Asset) (r : RiskResult) : Option RiskEvent :=
  if a.changedBy r = true ∧ call.emitEvents = true ∧ a.status = .active ∧ a.assetType ∉ silentTypes then
    riskChanged call now a r
  else none

/-! ## Recomputing -/

section Recompute

variable (U : Unicode) (cfg : RiskConfig) (now : Int) (o : Organization) (id : Nat)

def Organization.asset? : Option Asset := o.assets.find? fun a => decide (a.id = id)

def rescore (f : Finding) : Finding :=
  match o.asset? f.assetId with
  | none => f
  | some a => f.withRisk (scoreFinding U f a cfg now)

/-- The score that a finding adds to `by_asset`; unverified reports add none. -/
def countedScore (f : Finding) (a : Asset) : Option Int :=
  if f.status.isOpen = true ∧ a.status = .active ∧ f.unverified = false then
    some (scoreFinding U f a cfg now).score
  else none

/-- `by_asset[id]`; its length is `counts[id]`. -/
def findingScores : List Int := o.findings.filterMap fun f =>
    if f.assetId = id then (o.asset? f.assetId).bind (countedScore U cfg now f) else none

/-- `children[id]`. -/
def Organization.children : List Nat := (o.relationships.filter fun rel =>
    rel.active && decide (rel.relationType ∈ rollup) && decide (rel.sourceAssetId = id)).map
      Relationship.targetAssetId

variable (computed : List (Nat × RiskResult)) (a : Asset)

/-- `computed` holds the children whose rounds are over. -/
def childScores : List (Int × Str) :=
  (o.children a.id).filterMap fun c =>
    (computed.lookup c).bind fun r => (o.asset? c).map fun child => (r.score, child.value)

def newRisk : RiskResult :=
  if a.status ≠ .active then ⟨0, .info, []⟩
  else scoreAsset U a (findingScores U cfg now o a.id) (childScores o computed a) cfg now

def Organization.ordered : List Asset :=
  o.assets.insertionSort fun a b => orderOf a.assetType ≤ orderOf b.assetType

/-- `computed` after the loop. -/
def results : List (Nat × RiskResult) := table Asset.id (newRisk U cfg now o) o.ordered

def update : Asset :=
  match (results U cfg now o).lookup a.id with
  | none => a
  | some r => a.withRisk r (findingScores U cfg now o a.id).length

lemma update_id : (update U cfg now o a).id = a.id := by
  unfold update
  split <;> rfl

structure Outcome where
  organization : Organization
  events : List RiskEvent
  changed : Nat

/-- `recompute_organization`. -/
def recompute (call : Call) : Outcome where
  organization :=
    { assets := o.assets.map (update U cfg now o)
      findings := o.findings.map (rescore U cfg now o)
      relationships := o.relationships
      ids := by
        rw [List.map_map]
        exact (List.map_congr_left fun a _ => update_id U cfg now o a) ▸ o.ids }
  events := o.ordered.filterMap fun a =>
    ((results U cfg now o).lookup a.id).bind (eventOf call now a)
  changed := o.ordered.countP fun a => ((results U cfg now o).lookup a.id).any a.changedBy

end Recompute

/-- The rollup edges that discovery draws: host or address serves endpoint, address has port,
port runs service, host resolves to address. -/
def wellTyped : RelationType → AssetType → AssetType → Bool
  | .serves, .rootDomain, .httpEndpoint => true
  | .serves, .domain, .httpEndpoint => true
  | .serves, .subdomain, .httpEndpoint => true
  | .serves, .ipAddress, .httpEndpoint => true
  | .hasPort, .ipAddress, .port => true
  | .runsService, .port, .service => true
  | .resolvesTo, .rootDomain, .ipAddress => true
  | .resolvesTo, .domain, .ipAddress => true
  | .resolvesTo, .subdomain, .ipAddress => true
  | _, _, _ => false

def Organization.WellTyped (o : Organization) : Prop :=
  ∀ rel ∈ o.relationships, rel.active = true → rel.relationType ∈ rollup →
    ∀ p ∈ o.assets, ∀ c ∈ o.assets, p.id = rel.sourceAssetId → c.id = rel.targetAssetId →
      wellTyped rel.relationType p.assetType c.assetType = true

instance (o : Organization) : Decidable o.WellTyped := by
  unfold Organization.WellTyped
  infer_instance

/-! ## One round -/

section Rounds

variable {U : Unicode} {cfg : RiskConfig} {now : Int} {o : Organization}

variable {a : Asset}

lemma mem_ordered : a ∈ o.ordered ↔ a ∈ o.assets := mem_insertionSort _

lemma ordered_ids : (o.ordered.map Asset.id).Nodup :=
  ((perm_insertionSort _ o.assets).map Asset.id).nodup_iff.2 o.ids

lemma ordered_sorted : o.ordered.Pairwise fun a b => orderOf a.assetType ≤ orderOf b.assetType :=
  pairwise_insertionSort _ _

lemma asset?_eq (ha : a ∈ o.assets) : o.asset? a.id = some a := find?_key o.ids ha

/-- The round of an asset comes after those of the assets of smaller order, with their results. -/
lemma results_round (U : Unicode) (cfg : RiskConfig) (now : Int) (ha : a ∈ o.assets) :
    ∃ computed, (results U cfg now o).lookup a.id = some (newRisk U cfg now o computed a) ∧
      ∀ c ∈ o.assets, orderOf c.assetType < orderOf a.assetType →
        computed.lookup c.id = (results U cfg now o).lookup c.id := by
  obtain ⟨pre, post, hsplit⟩ := append_of_mem (mem_ordered.2 ha)
  have hids : ((pre ++ a :: post).map Asset.id).Nodup := hsplit ▸ ordered_ids
  have hsorted := hsplit ▸ ordered_sorted (o := o)
  refine ⟨table Asset.id (newRisk U cfg now o) pre, ?_, ?_⟩
  · rw [results, hsplit]
    refine lookup_table_mid Asset.id (newRisk U cfg now o) ?_
    rw [map_append, map_cons] at hids
    intro hmem
    exact (nodup_append.1 hids).2.2 _ hmem _ (by simp) rfl
  intro c hc hlt
  have hcmem : c ∈ pre ++ a :: post := hsplit ▸ mem_ordered.2 hc
  rw [results, hsplit]
  refine lookup_table_earlier Asset.id (newRisk U cfg now o) (List.mem_map.2 ⟨c, ?_, rfl⟩)
  rcases mem_append.1 hcmem with hpre | htail
  · exact hpre
  -- `c` cannot follow an asset of greater order
  exfalso
  rcases mem_cons.1 htail with rfl | hpost
  · omega
  · have hle := rel_of_pairwise_cons (pairwise_append.1 hsorted).2.1 hpost
    omega

lemma newRisk_range (computed : List (Nat × RiskResult)) (a : Asset) :
    0 ≤ (newRisk U cfg now o computed a).score ∧ (newRisk U cfg now o computed a).score ≤ 100 := by
  unfold newRisk
  split
  · exact ⟨le_refl _, by decide⟩
  · exact scoreAsset_range _ _ _ _ _ _

lemma mem_childScores {computed : List (Nat × RiskResult)} {p c : Asset} {rel : Relationship}
    {r : RiskResult} (hrel : rel ∈ o.relationships) (hactive : rel.active = true)
    (hroll : rel.relationType ∈ rollup) (hp : p.id = rel.sourceAssetId) (hc : c ∈ o.assets)
    (hcid : c.id = rel.targetAssetId) (hr : computed.lookup c.id = some r) :
    (r.score, c.value) ∈ childScores o computed p := by
  refine mem_filterMap.2 ⟨c.id, ?_, ?_⟩
  · refine List.mem_map.2 ⟨rel, mem_filter.2 ⟨hrel, ?_⟩, hcid.symm⟩
    simp [hactive, hroll, hp]
  · rw [hr, asset?_eq hc]
    rfl

lemma update_of_lookup {r : RiskResult} (h : (results U cfg now o).lookup a.id = some r) :
    update U cfg now o a = a.withRisk r (findingScores U cfg now o a.id).length := by
  rw [update, h]

lemma orderOf_lt {t : RelationType} {p c : AssetType} (h : wellTyped t p c = true) : orderOf c < orderOf p := by
  unfold wellTyped at h
  split at h <;> first | decide | cases h

end Rounds

/-! ## A second recomputation -/

section Again

variable {U : Unicode} {cfg : RiskConfig} {now : Int} {o : Organization}

/-- Two organizations that differ in their risk columns only. -/
structure SameBut (o o' : Organization) (g : Asset → Asset) (h : Finding → Finding) : Prop where
  assets : o'.assets = o.assets.map g
  findings : o'.findings = o.findings.map h
  relationships : o'.relationships = o.relationships
  asset : ∀ a, ∃ r n, g a = a.withRisk r n
  finding : ∀ f, ∃ r, h f = f.withRisk r

section Columns

variable {o' : Organization} {g : Asset → Asset} {h : Finding → Finding} (hs : SameBut o o' g h)

include hs

variable (a : Asset)

lemma SameBut.id : (g a).id = a.id := by
  obtain ⟨r, n, he⟩ := hs.asset a
  rw [he]
  rfl

lemma SameBut.assetType : (g a).assetType = a.assetType := by
  obtain ⟨r, n, he⟩ := hs.asset a
  rw [he]
  rfl

lemma SameBut.status : (g a).status = a.status := by
  obtain ⟨r, n, he⟩ := hs.asset a
  rw [he]
  rfl

lemma SameBut.value : (g a).value = a.value := by
  obtain ⟨r, n, he⟩ := hs.asset a
  rw [he]
  rfl

variable (f : Finding)

lemma SameBut.assetId : (h f).assetId = f.assetId := by
  obtain ⟨r, he⟩ := hs.finding f
  rw [he]
  rfl

lemma SameBut.scoreFinding (a : Asset) :
    scoreFinding U (h f) (g a) cfg now = App.Risk.scoreFinding U f a cfg now := by
  obtain ⟨r, he⟩ := hs.finding f
  obtain ⟨r', n, ha⟩ := hs.asset a
  rw [he, ha]
  rfl

lemma SameBut.scoreAsset (fs : List Int) (cs : List (Int × Str)) :
    scoreAsset U (g a) fs cs cfg now = App.Risk.scoreAsset U a fs cs cfg now := by
  obtain ⟨r, n, he⟩ := hs.asset a
  rw [he]
  rfl

lemma SameBut.countedScore (a : Asset) :
    countedScore U cfg now (h f) (g a) = App.Risk.countedScore U cfg now f a := by
  have hcols : (h f).status = f.status ∧ (h f).unverified = f.unverified := by
    obtain ⟨r, he⟩ := hs.finding f
    rw [he]
    exact ⟨rfl, rfl⟩
  rw [App.Risk.countedScore, App.Risk.countedScore, hs.scoreFinding, hs.status, hcols.1, hcols.2]

lemma SameBut.asset? (id : Nat) : o'.asset? id = (o.asset? id).map g := by
  rw [Organization.asset?, hs.assets, find?_map, Organization.asset?]
  congr 2
  funext a
  simp [hs.id]

lemma SameBut.findingScores (id : Nat) :
    findingScores U cfg now o' id = App.Risk.findingScores U cfg now o id := by
  rw [App.Risk.findingScores, App.Risk.findingScores, hs.findings, filterMap_map]
  congr 1
  funext f
  rw [Function.comp_apply, hs.assetId, hs.asset?]
  split
  · cases o.asset? f.assetId with
    | none => rfl
    | some a => exact hs.countedScore f a
  · rfl

variable (computed : List (Nat × RiskResult))

lemma SameBut.childScores (a : Asset) : childScores o' computed (g a) = App.Risk.childScores o computed a := by
  rw [App.Risk.childScores, App.Risk.childScores, Organization.children, hs.relationships, hs.id]
  congr 1
  funext c
  cases computed.lookup c with
  | none => rfl
  | some r =>
    rw [bind_some, bind_some, hs.asset?, Option.map_map]
    congr 1
    funext child
    rw [Function.comp_apply, hs.value]

lemma SameBut.newRisk (a : Asset) :
    newRisk U cfg now o' computed (g a) = App.Risk.newRisk U cfg now o computed a := by
  rw [App.Risk.newRisk, App.Risk.newRisk, hs.status, hs.scoreAsset, hs.childScores, hs.findingScores, hs.id]

lemma SameBut.ordered : o'.ordered = o.ordered.map g := by
  rw [Organization.ordered, hs.assets, Organization.ordered]
  refine (map_insertionSort _ _ g o.assets fun a _ b _ => ?_).symm
  rw [hs.assetType, hs.assetType]

lemma SameBut.results : results U cfg now o' = App.Risk.results U cfg now o := by
  rw [App.Risk.results, hs.ordered]
  exact table_map Asset.id _ hs.id hs.newRisk _

end Columns

lemma recompute_sameBut (call : Call) :
    SameBut o (recompute U cfg now o call).organization (update U cfg now o) (rescore U cfg now o) where
  assets := rfl
  findings := rfl
  relationships := rfl
  asset := by
    intro a
    unfold update
    split
    · exact ⟨⟨a.riskScore, a.riskLevel, a.riskFactors⟩, a.openFindings, rfl⟩
    · exact ⟨_, _, rfl⟩
  finding := by
    intro f
    unfold rescore
    split
    · exact ⟨⟨f.riskScore, f.riskLevel, f.riskFactors⟩, rfl⟩
    · exact ⟨_, rfl⟩

lemma update_again {a : Asset} (ha : a ∈ o.assets) (call : Call) :
    update U cfg now (recompute U cfg now o call).organization (update U cfg now o a) =
      update U cfg now o a := by
  have hs : SameBut o (recompute U cfg now o call).organization _ _ := recompute_sameBut call
  obtain ⟨computed, hround, -⟩ := results_round U cfg now ha
  have hagain : (results U cfg now (recompute U cfg now o call).organization).lookup
      (update U cfg now o a).id = some (newRisk U cfg now o computed a) := by
    rw [hs.results, update_id]
    exact hround
  rw [update_of_lookup hagain, hs.findingScores, update_id, update_of_lookup hround]
  rfl

lemma rescore_again (f : Finding) (call : Call) :
    rescore U cfg now (recompute U cfg now o call).organization (rescore U cfg now o f) =
      rescore U cfg now o f := by
  have hs : SameBut o (recompute U cfg now o call).organization _ _ := recompute_sameBut call
  rw [rescore, hs.assetId, hs.asset?]
  cases hf : o.asset? f.assetId with
  | none => rfl
  | some a =>
    rw [map_some]
    dsimp only
    rw [hs.scoreFinding, rescore, hf]
    rfl

lemma changedBy_again {a : Asset} (call : Call) {r : RiskResult}
    (hr : (results U cfg now (recompute U cfg now o call).organization).lookup
      (update U cfg now o a).id = some r) : (update U cfg now o a).changedBy r = false := by
  have hs : SameBut o (recompute U cfg now o call).organization _ _ := recompute_sameBut call
  rw [hs.results, update_id] at hr
  rw [update_of_lookup hr]
  simp [Asset.changedBy, Asset.withRisk]

lemma ordered_again {b : Asset} {call : Call} (hb : b ∈ (recompute U cfg now o call).organization.ordered) :
    ∀ r ∈ (results U cfg now (recompute U cfg now o call).organization).lookup b.id, b.changedBy r = false := by
  have hmem : b ∈ o.assets.map (update U cfg now o) := mem_ordered.1 hb
  obtain ⟨a, -, rfl⟩ := List.mem_map.1 hmem
  exact fun r hr => changedBy_again call hr

variable (call call' : Call)

lemma recompute_again : (recompute U cfg now (recompute U cfg now o call).organization call').organization =
      (recompute U cfg now o call).organization := by
  have hassets : ((o.assets.map (update U cfg now o)).map
      (update U cfg now (recompute U cfg now o call).organization)) = o.assets.map (update U cfg now o) := by
    rw [List.map_map]
    exact map_congr_left fun a ha => update_again ha call
  have hfindings : ((o.findings.map (rescore U cfg now o)).map
      (rescore U cfg now (recompute U cfg now o call).organization)) =
        o.findings.map (rescore U cfg now o) := by
    rw [List.map_map]
    exact map_congr_left fun f _ => rescore_again f call
  simp only [recompute] at hassets hfindings ⊢
  simp only [Organization.mk.injEq]
  exact ⟨hassets, hfindings, trivial⟩

lemma recompute_again_events :
    (recompute U cfg now (recompute U cfg now o call).organization call').events = [] := by
  refine filterMap_eq_nil_iff.2 fun b hb => bind_eq_none_iff.2 fun r hr => if_neg ?_
  rw [ordered_again hb r hr]
  exact fun hcond => absurd hcond.1 (by decide)

lemma recompute_again_changed :
    (recompute U cfg now (recompute U cfg now o call).organization call').changed = 0 := by
  refine countP_eq_zero.2 fun b hb => ?_
  rw [Bool.not_eq_true, Option.any_eq_false]
  exact ordered_again hb

end Again

/-! ## Unverified findings -/

section Unverified

variable {U : Unicode} {cfg : RiskConfig} {now : Int} {o : Organization}

/-- Only verified findings reach `by_asset`. -/
lemma findingScores_verified (id : Nat) : findingScores U cfg now o id =
      findingScores U cfg now { o with findings := o.findings.filter fun f => !f.unverified } id := by
  rw [findingScores, findingScores, filterMap_filter]
  refine filterMap_congr fun f _ => ?_
  cases hu : f.unverified with
  | false => rfl
  | true =>
    have hnone : ∀ a, countedScore U cfg now f a = none := by
      intro a
      rw [countedScore, if_neg]
      exact fun hcond => by simp [hu] at hcond
    split
    · cases o.asset? f.assetId with
      | none => simp
      | some a => simp [hnone]
    · simp

variable {findings : List Finding}

section

variable (h : findings.filter (fun f => !f.unverified) = o.findings.filter fun f => !f.unverified)

include h

lemma findingScores_congr
    (id : Nat) :
    findingScores U cfg now { o with findings := findings } id = findingScores U cfg now o id := by
  rw [findingScores_verified (o := { o with findings := findings })]
  simp only [h]
  exact (findingScores_verified id).symm

lemma recompute_unverified
    (call : Call) :
    (recompute U cfg now { o with findings := findings } call).organization.assets =
      (recompute U cfg now o call).organization.assets := by
  have hrisk : newRisk U cfg now { o with findings := findings } = newRisk U cfg now o := by
    funext computed a
    rw [newRisk, findingScores_congr h]
    rfl
  have hresults : results U cfg now { o with findings := findings } = results U cfg now o := by
    rw [results, hrisk]
    rfl
  refine map_congr_left fun a _ => ?_
  rw [update, hresults, findingScores_congr h]
  rfl

end

end Unverified

/-! ## What holds after recomputing -/

section After

variable {U : Unicode} {cfg : RiskConfig} {now : Int} {o : Organization} {call : Call}

lemma recompute_asset {a' : Asset} (h : a' ∈ (recompute U cfg now o call).organization.assets) :
    ∃ a ∈ o.assets, ∃ computed n, a' = a.withRisk (newRisk U cfg now o computed a) n := by
  obtain ⟨a, ha, rfl⟩ := List.mem_map.1 h
  obtain ⟨computed, hround, -⟩ := results_round U cfg now ha
  exact ⟨a, ha, computed, _, update_of_lookup hround⟩

lemma recompute_range {a : Asset} (h : a ∈ (recompute U cfg now o call).organization.assets) :
    0 ≤ a.riskScore ∧ a.riskScore ≤ 100 := by
  obtain ⟨a, -, computed, n, rfl⟩ := recompute_asset h
  exact newRisk_range computed a

lemma recompute_inactive {a : Asset} (h : a ∈ (recompute U cfg now o call).organization.assets)
    (hstatus : a.status = .inactive) : a.riskScore = 0 := by
  obtain ⟨a, -, computed, n, rfl⟩ := recompute_asset h
  have hne : a.status ≠ .active := by
    intro hactive
    have hboth : AssetStatus.active = .inactive := hactive.symm.trans hstatus
    cases hboth
  show (newRisk U cfg now o computed a).score = 0
  rw [newRisk, if_pos hne]

lemma recompute_finding_range {f : Finding} (h : f ∈ (recompute U cfg now o call).organization.findings)
    (hasset : ∃ a ∈ o.assets, a.id = f.assetId) : 0 ≤ f.riskScore ∧ f.riskScore ≤ 100 := by
  obtain ⟨f, -, rfl⟩ := List.mem_map.1 h
  have hs : SameBut o (recompute U cfg now o call).organization _ _ := recompute_sameBut call
  obtain ⟨a, ha, hid⟩ := hasset
  rw [hs.assetId] at hid
  have hfind : o.asset? f.assetId = some a := hid ▸ asset?_eq ha
  rw [rescore, hfind]
  exact scoreFinding_range U f a cfg now

lemma recompute_rollup (hedges : o.WellTyped) {rel : Relationship} (hrel : rel ∈ o.relationships)
    (hactive : rel.active = true) (hroll : rel.relationType ∈ rollup) {p c : Asset}
    (hp : p ∈ o.assets) (hc : c ∈ o.assets) (hpid : p.id = rel.sourceAssetId)
    (hcid : c.id = rel.targetAssetId) (hstatus : p.status = .active) :
    (update U cfg now o c).riskScore ≤ (update U cfg now o p).riskScore := by
  have hlt : orderOf c.assetType < orderOf p.assetType :=
    orderOf_lt (hedges rel hrel hactive hroll p hp c hc hpid hcid)
  obtain ⟨before, hchild, -⟩ := results_round U cfg now hc
  obtain ⟨computed, hparent, hearlier⟩ := results_round U cfg now hp
  rw [update_of_lookup hchild, update_of_lookup hparent]
  show (newRisk U cfg now o before c).score ≤ (newRisk U cfg now o computed p).score
  have hcomputed : computed.lookup c.id = some (newRisk U cfg now o before c) :=
    (hearlier c hc hlt).trans hchild
  have hmem := mem_childScores hrel hactive hroll hpid hc hcid hcomputed
  rw [newRisk.eq_def U cfg now o computed p, if_neg (not_not.2 hstatus)]
  exact child_le_scoreAsset U p _ cfg now hmem (newRisk_range before c).2

/-- Scores in range, parents at least as risky as their children, nothing from inactive assets or
unverified reports, and a second recomputation at the same time that changes nothing. -/
theorem recompute_sound (U : Unicode) (cfg : RiskConfig) (now : Int) (call again : Call) (o : Organization)
    (hedges : o.WellTyped) (r : Outcome) (hr : recompute U cfg now o call = r) :
    (∀ a ∈ r.organization.assets, 0 ≤ a.riskScore ∧ a.riskScore ≤ 100) ∧
    (∀ f ∈ r.organization.findings, (∃ a ∈ o.assets, a.id = f.assetId) →
      0 ≤ f.riskScore ∧ f.riskScore ≤ 100) ∧
    (∀ rel ∈ r.organization.relationships, rel.active = true → rel.relationType ∈ rollup →
      ∀ p ∈ r.organization.assets, ∀ c ∈ r.organization.assets,
        p.id = rel.sourceAssetId → c.id = rel.targetAssetId → p.status = .active → c.status = .active →
          c.riskScore ≤ p.riskScore) ∧
    (∀ a ∈ r.organization.assets, a.status = .inactive → a.riskScore = 0) ∧
    (∀ findings : List Finding,
      findings.filter (fun f => !f.unverified) = o.findings.filter (fun f => !f.unverified) →
        (recompute U cfg now { o with findings := findings } call).organization.assets =
          r.organization.assets) ∧
    (recompute U cfg now r.organization again).organization = r.organization ∧
    (recompute U cfg now r.organization again).events = [] ∧
    (recompute U cfg now r.organization again).changed = 0 := by
  subst hr
  refine ⟨fun a ha => recompute_range ha, fun f hf hasset => recompute_finding_range hf hasset, ?_,
    fun a ha hstatus => recompute_inactive ha hstatus, fun findings h => recompute_unverified h call,
    recompute_again call again, recompute_again_events call again, recompute_again_changed call again⟩
  intro rel hrel hactive hroll p' hp' c' hc' hpid hcid hstatus _
  have hs : SameBut o (recompute U cfg now o call).organization _ _ := recompute_sameBut call
  obtain ⟨p, hp, rfl⟩ := List.mem_map.1 hp'
  obtain ⟨c, hc, rfl⟩ := List.mem_map.1 hc'
  rw [hs.id] at hpid hcid
  rw [hs.status] at hstatus
  exact recompute_rollup hedges hrel hactive hroll hp hc hpid hcid hstatus

/-- A host, its address and an exposed service on it, with a report that was not verified. -/
def exposedHost : Organization where
  assets :=
    [ { id := 1, assetType := .subdomain, value := "db.example.org".toList,
        normalizedValue := "db.example.org".toList, firstSeen := 0 },
      { id := 2, assetType := .ipAddress, value := "192.0.2.7".toList,
        normalizedValue := "192.0.2.7".toList, firstSeen := 0 },
      { id := 3, assetType := .port, value := "192.0.2.7:6379".toList,
        normalizedValue := "192.0.2.7:6379/tcp".toList, firstSeen := 0 } ]
  findings := [{ id := 1, assetId := 3, severity := .critical, unverified := true, firstSeen := 0 }]
  relationships := [⟨1, 2, .resolvesTo, true⟩, ⟨2, 3, .hasPort, true⟩]
  ids := by decide

theorem recompute_sound_exposedHost : exposedHost.WellTyped ∧
      (recompute asciiUnicode {} 0 exposedHost {}).organization.assets.map Asset.riskScore = [43, 43, 43] ∧
      (recompute asciiUnicode {} 0 (recompute asciiUnicode {} 0 exposedHost {}).organization {}).events = [] := by
  have hedges : exposedHost.WellTyped := by decide +kernel
  exact ⟨hedges, by decide +kernel,
    (recompute_sound asciiUnicode {} 0 {} {} exposedHost hedges _ rfl).2.2.2.2.2.2.1⟩

end After

end App.Risk
