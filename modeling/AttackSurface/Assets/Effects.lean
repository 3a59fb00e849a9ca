import AttackSurface.Assets.Coverage
import AttackSurface.Run.Steps

/-!
# What applying coverage can do to the rows

The loops and the cascade of the second half of `ingest` are sequences of a few kinds of
step (`Touch`), each labelled with what it does (`Event`).  A row after the steps is the
row before with its own events applied (`Touch.asset`, `Touch.relation`,
`Touch.finding`); everything later modules say about coverage is read off the events.

    applying coverage is steps, and they count no more misses than the coverage reaches
                                                                   (coverage_passes)
-/

namespace App.Assets

open AsmSensors App.Scans App.Findings Machines List Option Function

variable {J : Type}

/-! ## Events -/

inductive Event
  | scanned (id : Nat)
  /-- an asset missed below the threshold -/
  | missed (id : Nat)
  /-- an asset missed at the threshold, and closed -/
  | expired (id : Nat)
  | relationMissed (r : Nat)
  | relationExpired (r : Nat)
  /-- the last name that pointed to address `id` was closed with relation `r` -/
  | left (r id : Nat)
  /-- the source of `r` was closed, and the target stays -/
  | disowned (r : Nat)
  /-- the source of `r` was closed, and its target `id` with it -/
  | orphaned (r id : Nat)
  | findings (missed resolved : List Nat)
deriving DecidableEq

def Event.misses : Event → List Item
  | .missed id | .expired id => [.asset id]
  | .relationMissed r | .relationExpired r => [.relation r]
  | .findings ids _ => ids.map .finding
  | _ => []

def Event.closings : Event → List Item
  | .expired id => [.asset id]
  | .relationExpired r => [.relation r]
  | .findings _ resolved => resolved.map .finding
  | _ => []

def Event.closes : Event → List Nat
  | .expired id | .left _ id | .orphaned _ id => [id]
  | _ => []

def Event.onAsset (now : Int) (e : Event) (i : Nat) (a : AssetRow J) : AssetRow J :=
  match e with
  | .scanned id => if id = i then a.scanned now else a
  | .missed id => if id = i then a.missedOnce else a
  | .expired id => if id = i then a.missedOnce.closed now else a
  | .left _ id | .orphaned _ id => if id = i then a.closed now else a
  | _ => a

def Event.onRelation (e : Event) (i : Nat) (r : RelationRow J) : RelationRow J :=
  match e with
  | .relationMissed id => if id = i then r.missedOnce else r
  | .relationExpired id => if id = i then r.missedOnce.closed else r
  | .disowned id | .orphaned id _ => if id = i then r.closed else r
  | _ => r

variable (ctx : IngestContext)

def findingThreshold : Nat := inactivityThreshold ctx.rules "finding".toList

def relationThreshold : Nat := inactivityThreshold ctx.rules "relation".toList

def assetThreshold (t : AssetType) : Nat :=
  inactivityThreshold ctx.rules (thresholdKey t)

def withAsset (now : Int) (id : Nat) (f : Finding) : Finding :=
  if f.assetId = id ∧ f.status.isOpen = true then
    { f with status := .remediated, resolvedAt := some now }
  else f

def Event.onFinding (e : Event) (i : Nat) (f : Finding) : Finding :=
  match e with
  | .findings ids _ => if i ∈ ids then missFinding (findingThreshold ctx) ctx.now f else f
  | .expired id | .left _ id | .orphaned _ id => withAsset ctx.now id f
  | _ => f

/-! ## Steps -/

/-- The source of relation `r` owns its target `c` by it. -/
structure Rows.Owns (rows : Rows J) (r : Nat) (rel : RelationRow J) (c : AssetRow J) : Prop where
  relation : rows.relations[r]? = some rel
  child : rows.assets[rel.targetAssetId]? = some c
  owner : ∃ p, rows.assets[rel.sourceAssetId]? = some p ∧
    (rel.relationType, c.assetType) ∈ ownedChildren p.assetType

section Touch

variable (T : Tables J) (ctx : IngestContext) (seen : List Nat)

inductive Touch : Ingestor J → Event → Ingestor J → Prop
  | scanned {st : Ingestor J} {id : Nat} :
      Touch st (.scanned id) (st.setAsset id (AssetRow.scanned ctx.now))
  | missed {st : Ingestor J} {id : Nat} {a : AssetRow J} (row : st.rows.assets[id]? = some a)
      (unobserved : a.key ∉ st.observed) (active : a.status = .active)
      (below : a.missedCount + 1 < assetThreshold ctx a.assetType) :
      Touch st (.missed id) (st.setAsset id AssetRow.missedOnce)
  | expired {st : Ingestor J} {id : Nat} {a : AssetRow J} (row : st.rows.assets[id]? = some a)
      (unobserved : a.key ∉ st.observed) (active : a.status = .active)
      (reached : assetThreshold ctx a.assetType ≤ a.missedCount + 1) :
      Touch st (.expired id)
        ({ st.setAsset id AssetRow.missedOnce with
            closings := .asset id :: st.closings }.closeAsset ctx.now id)
  | relationMissed {st : Ingestor J} {r : Nat} {rel : RelationRow J}
      (row : st.rows.relations[r]? = some rel)
      (below : rel.missedCount + 1 < relationThreshold ctx) :
      Touch st (.relationMissed r) (st.setRelation r RelationRow.missedOnce)
  | relationExpired {st : Ingestor J} {r : Nat} {rel : RelationRow J}
      (row : st.rows.relations[r]? = some rel)
      (reached : relationThreshold ctx ≤ rel.missedCount + 1) :
      Touch st (.relationExpired r)
        { (st.setRelation r RelationRow.missedOnce).closeRelation r with
            closings := .relation r :: st.closings }
  | left {st : Ingestor J} {r : Nat} {rel : RelationRow J} {c : AssetRow J}
      (row : st.rows.relations[r]? = some rel) (closed : .relation r ∈ st.closings)
      (child : st.rows.assets[rel.targetAssetId]? = some c)
      (unobserved : c.key ∉ st.observed) (active : c.status = .active) :
      Touch st (.left r rel.targetAssetId) (st.closeAsset ctx.now rel.targetAssetId)
  | disowned {st : Ingestor J} {r : Nat} {rel : RelationRow J} {c : AssetRow J}
      (owns : st.rows.Owns r rel c) (live : rel.active = true)
      (closed : rel.sourceAssetId ∈ st.deactivated)
      (stays : c.key ∈ st.observed ∨ c.status = .inactive ∨ (c.assetType = .httpEndpoint ∧
        (st.closeRelation r).rows.hasOtherPresence rel.targetAssetId rel.sourceAssetId = true)) :
      Touch st (.disowned r) (st.closeRelation r)
  | orphaned {st : Ingestor J} {r : Nat} {rel : RelationRow J} {c : AssetRow J}
      (owns : st.rows.Owns r rel c) (live : rel.active = true)
      (closed : rel.sourceAssetId ∈ st.deactivated)
      (unobserved : c.key ∉ st.observed) (active : c.status = .active)
      (alone : c.assetType = .httpEndpoint →
        (st.closeRelation r).rows.hasOtherPresence rel.targetAssetId rel.sourceAssetId = false) :
      Touch st (.orphaned r rel.targetAssetId)
        ((st.closeRelation r).closeAsset ctx.now rel.targetAssetId)
  | findings {st : Ingestor J} (cov : FindingCoverage) :
      Touch st
        (.findings
          (missedIds st.rows.findings (st.coveredAssets T ctx cov) ctx.source cov seen)
          (resolveUnobserved st.rows.findings (st.coveredAssets T ctx cov) ctx.source cov seen
            (findingThreshold ctx) ctx.now).2)
        (st.applyFindingCoverage T ctx seen cov)

end Touch

variable {T : Tables J} {ctx : IngestContext} {seen : List Nat} {st st' : Ingestor J} {e : Event}

/-! ## The rows after a step -/

section Fields

variable (st : Ingestor J) (id : Nat) (f : AssetRow J → AssetRow J)
  (g : RelationRow J → RelationRow J) (now : Int)

@[simp] lemma setAsset_assets : (st.setAsset id f).rows.assets = st.rows.assets.modify id f := rfl
@[simp] lemma setRelation_assets : (st.setRelation id g).rows.assets = st.rows.assets := rfl

@[simp] lemma setRelation_relations :
    (st.setRelation id g).rows.relations = st.rows.relations.modify id g := rfl

@[simp] lemma closeAsset_assets :
    (st.closeAsset now id).rows.assets = st.rows.assets.modify id (AssetRow.closed now) := rfl

@[simp] lemma closeAsset_findings : (st.closeAsset now id).rows.findings =
    st.rows.findings.map (withAsset now id) := rfl

@[simp] lemma closeAsset_deactivated : (st.closeAsset now id).deactivated = id :: st.deactivated := rfl

@[simp] lemma closeRelation_eq : st.closeRelation id = st.setRelation id RelationRow.closed := rfl

end Fields

variable {α : Type}

lemma getElem?_modify_map (l : List α) (f : α → α) (i j : Nat) :
    (l.modify i f)[j]? = l[j]?.map fun a => if i = j then f a else a := by
  rw [getElem?_modify]
  rfl

lemma exists_of_modify {l : List α} {f : α → α} {i j : Nat} {y : α} (h : (l.modify i f)[j]? = some y) :
    ∃ x, l[j]? = some x ∧ (if i = j then f x else x) = y := by
  rwa [getElem?_modify_map, map_eq_some_iff] at h

lemma getElem?_modify_twice (l : List α) (f g : α → α) (i j : Nat) :
    ((l.modify i f).modify i g)[j]? = l[j]?.map fun a => if i = j then g (f a) else a := by
  rw [modify_modify_eq, getElem?_modify_map]
  rfl

lemma map_modify_same {α β : Type} (g : α → β) (f : α → α) (hf : ∀ a, g (f a) = g a) (l : List α)
    (i : Nat) : (l.modify i f).map g = l.map g := by
  refine ext_getElem? fun j => ?_
  rw [getElem?_map, getElem?_map, getElem?_modify_map, Option.map_map]
  congr 1
  funext a
  simp only [comp_apply]
  split
  · exact hf a
  · rfl

lemma map_self (o : Option α) : o.map (fun a => a) = o := by
  cases o <;> rfl

section

variable (h : Touch T ctx seen st e st')

include h

lemma Touch.asset (i : Nat) : st'.rows.assets[i]? = st.rows.assets[i]?.map (e.onAsset ctx.now i) := by
  cases h with
  | scanned | missed | left | orphaned => exact getElem?_modify_map _ _ _ _
  | expired => exact getElem?_modify_twice _ _ _ _ _
  | relationMissed | relationExpired | disowned | findings => exact (map_self _).symm

lemma Touch.relation (i : Nat) : st'.rows.relations[i]? = st.rows.relations[i]?.map (e.onRelation i) := by
  cases h with
  | relationMissed | disowned | orphaned => exact getElem?_modify_map _ _ _ _
  | relationExpired => exact getElem?_modify_twice _ _ _ _ _
  | scanned | missed | expired | left | findings => exact (map_self _).symm

lemma Touch.finding (i : Nat) : st'.rows.findings[i]? = st.rows.findings[i]?.map (e.onFinding ctx i) := by
  cases h with
  | expired | left | orphaned => exact getElem?_map
  | findings cov => exact getElem?_mapIdx
  | scanned | missed | relationMissed | relationExpired | disowned => exact (map_self _).symm

lemma Touch.observed : st'.observed = st.observed := by
  cases h <;> rfl

lemma Touch.observedRels : st'.observedRels = st.observedRels := by
  cases h <;> rfl

lemma Touch.deactivated : st'.deactivated = e.closes ++ st.deactivated := by
  cases h <;> rfl

lemma Touch.closings : st'.closings = e.closings ++ st.closings := by
  cases h <;> rfl

end

/-! ## What no step takes back -/

/-- What coverage can make of an asset: its misses grow, and a closed one stays closed. -/
structure AssetOnward (a a' : AssetRow J) : Prop where
  key : a'.key = a.key
  scopeStatus : a'.scopeStatus = a.scopeStatus
  metadata : a'.metadata = a.metadata
  lastSeen : a'.lastSeen = a.lastSeen
  source : a'.source = a.source
  missedCount : a.missedCount ≤ a'.missedCount
  closed : a.status = .inactive → a'.status = .inactive

structure RelationOnward (r r' : RelationRow J) : Prop where
  key : r'.key = r.key
  lastSeen : r'.lastSeen = r.lastSeen
  missedCount : r.missedCount ≤ r'.missedCount
  closed : r.active = false → r'.active = false

/-- A finding is closed, misses are counted; what it is about stays. -/
structure FindingOnward (f f' : Finding) : Prop where
  assetId : f'.assetId = f.assetId
  source : f'.source = f.source
  filter : ∀ cov, matchesFilter f' cov = matchesFilter f cov
  missedCount : f.missedCount ≤ f'.missedCount
  isOpen : f'.status.isOpen = true → f'.status = f.status

lemma AssetOnward.refl (a : AssetRow J) : AssetOnward a a := ⟨rfl, rfl, rfl, rfl, rfl, le_rfl, id⟩

lemma RelationOnward.refl (r : RelationRow J) : RelationOnward r r := ⟨rfl, rfl, le_rfl, id⟩

lemma FindingOnward.refl (f : Finding) : FindingOnward f f := ⟨rfl, rfl, fun _ => rfl, le_rfl, fun _ => rfl⟩

lemma FindingOnward.trans {a b c : Finding} (h₁ : FindingOnward a b) (h₂ : FindingOnward b c) :
    FindingOnward a c :=
  ⟨h₂.assetId.trans h₁.assetId, h₂.source.trans h₁.source, fun cov => (h₂.filter cov).trans (h₁.filter cov),
    h₁.missedCount.trans h₂.missedCount, fun h => by
      have hbc := h₂.isOpen h
      exact hbc.trans (h₁.isOpen (hbc ▸ h))⟩

lemma AssetOnward.trans {a b c : AssetRow J} (h₁ : AssetOnward a b) (h₂ : AssetOnward b c) : AssetOnward a c :=
  ⟨h₂.key.trans h₁.key, h₂.scopeStatus.trans h₁.scopeStatus, h₂.metadata.trans h₁.metadata,
    h₂.lastSeen.trans h₁.lastSeen, h₂.source.trans h₁.source, h₁.missedCount.trans h₂.missedCount,
    fun h => h₂.closed (h₁.closed h)⟩

lemma RelationOnward.trans {a b c : RelationRow J} (h₁ : RelationOnward a b)
    (h₂ : RelationOnward b c) : RelationOnward a c :=
  ⟨h₂.key.trans h₁.key, h₂.lastSeen.trans h₁.lastSeen, h₁.missedCount.trans h₂.missedCount,
    fun h => h₂.closed (h₁.closed h)⟩

lemma AssetOnward.type {a a' : AssetRow J} (h : AssetOnward a a') : a'.assetType = a.assetType :=
  congrArg Prod.fst h.key

lemma AssetOnward.active {a a' : AssetRow J} (h : AssetOnward a a') (ha : a'.status = .active) :
    a.status = .active := by
  cases hs : a.status with
  | active => rfl
  | inactive =>
    rw [h.closed hs] at ha
    cases ha

variable {r r' : RelationRow J}

section

variable (h : RelationOnward r r')

include h

lemma RelationOnward.source : r'.sourceAssetId = r.sourceAssetId := congrArg Prod.fst h.key

lemma RelationOnward.target : r'.targetAssetId = r.targetAssetId := congrArg (fun k => k.2.1) h.key

lemma RelationOnward.type : r'.relationType = r.relationType := congrArg (fun k => k.2.2) h.key

lemma RelationOnward.active (hr : r'.active = true) : r.active = true := by
  cases hs : r.active with
  | true => rfl
  | false =>
    rw [h.closed hs] at hr
    cases hr

end

lemma Event.onAsset_onward (now : Int) (e : Event) (i : Nat) (a : AssetRow J) :
    AssetOnward a (e.onAsset now i a) := by
  cases e <;> simp only [Event.onAsset] <;> (try split) <;>
    exact ⟨rfl, rfl, rfl, rfl, rfl, by simp [AssetRow.scanned, AssetRow.missedOnce, AssetRow.closed],
      by simp [AssetRow.scanned, AssetRow.missedOnce, AssetRow.closed]⟩

lemma Event.onRelation_onward (e : Event) (i : Nat) (r : RelationRow J) :
    RelationOnward r (e.onRelation i r) := by
  cases e <;> simp only [Event.onRelation] <;> (try split) <;>
    exact ⟨rfl, rfl, by simp [RelationRow.missedOnce, RelationRow.closed],
      by simp [RelationRow.missedOnce, RelationRow.closed]⟩

lemma Event.onFinding_onward (ctx : IngestContext) (e : Event) (i : Nat) (f : Finding) :
    FindingOnward f (e.onFinding ctx i f) := by
  cases e <;> simp only [Event.onFinding, withAsset, missFinding] <;> (repeat' split) <;>
    first
    | exact FindingOnward.refl f
    | exact ⟨rfl, rfl, fun _ => rfl, by simp, by simp [FindingStatus.isOpen]⟩

/-- Every row of `st` has become a row of `st'`, and the run observed nothing more. -/
structure Onward (st st' : Ingestor J) : Prop where
  asset : ∀ i : Nat, ∃ f : AssetRow J → AssetRow J, (∀ a, AssetOnward a (f a)) ∧
    st'.rows.assets[i]? = st.rows.assets[i]?.map f
  relation : ∀ i : Nat, ∃ f : RelationRow J → RelationRow J, (∀ r, RelationOnward r (f r)) ∧
    st'.rows.relations[i]? = st.rows.relations[i]?.map f
  finding : ∀ i : Nat, ∃ f : Finding → Finding, (∀ g, FindingOnward g (f g)) ∧
    st'.rows.findings[i]? = st.rows.findings[i]?.map f
  observed : st'.observed = st.observed
  observedRels : st'.observedRels = st.observedRels
  deactivated : st.deactivated ⊆ st'.deactivated

lemma Onward.refl (st : Ingestor J) : Onward st st :=
  ⟨fun _ => ⟨id, AssetOnward.refl, by simp⟩, fun _ => ⟨id, RelationOnward.refl, by simp⟩,
    fun _ => ⟨id, FindingOnward.refl, by simp⟩, rfl, rfl, Subset.refl _⟩

lemma Onward.trans {a b c : Ingestor J} (h₁ : Onward a b) (h₂ : Onward b c) : Onward a c := by
  refine ⟨fun i => ?_, fun i => ?_, fun i => ?_, h₂.observed.trans h₁.observed,
    h₂.observedRels.trans h₁.observedRels, Subset.trans h₁.deactivated h₂.deactivated⟩
  · obtain ⟨f, hf, hf'⟩ := h₁.asset i
    obtain ⟨g, hg, hg'⟩ := h₂.asset i
    exact ⟨g ∘ f, fun a => (hf a).trans (hg (f a)), by rw [hg', hf', Option.map_map]⟩
  · obtain ⟨f, hf, hf'⟩ := h₁.relation i
    obtain ⟨g, hg, hg'⟩ := h₂.relation i
    exact ⟨g ∘ f, fun a => (hf a).trans (hg (f a)), by rw [hg', hf', Option.map_map]⟩
  · obtain ⟨f, hf, hf'⟩ := h₁.finding i
    obtain ⟨g, hg, hg'⟩ := h₂.finding i
    exact ⟨g ∘ f, fun a => (hf a).trans (hg (f a)), by rw [hg', hf', Option.map_map]⟩

lemma Touch.onward (h : Touch T ctx seen st e st') : Onward st st' :=
  ⟨fun i => ⟨_, e.onAsset_onward ctx.now i, h.asset i⟩, fun i => ⟨_, e.onRelation_onward i, h.relation i⟩,
    fun i => ⟨_, e.onFinding_onward ctx i, h.finding i⟩, h.observed, h.observedRels, h.deactivated ▸ subset_append_right _ _⟩

lemma Onward.of_steps {es : List Event} (h : Steps (Touch T ctx seen) st es st') : Onward st st' := by
  induction h with
  | nil => exact Onward.refl _
  | snoc _ hstep ih => exact ih.trans hstep.onward

section Onward

variable (h : Onward st st') {i : Nat}
include h

lemma Onward.asset_after {a : AssetRow J} (ha : st.rows.assets[i]? = some a) :
    ∃ a', st'.rows.assets[i]? = some a' ∧ AssetOnward a a' := by
  obtain ⟨f, hf, hrow⟩ := h.asset i
  exact ⟨f a, by rw [hrow, ha]; rfl, hf a⟩

lemma Onward.asset_before {a' : AssetRow J} (ha : st'.rows.assets[i]? = some a') :
    ∃ a, st.rows.assets[i]? = some a ∧ AssetOnward a a' := by
  obtain ⟨f, hf, hrow⟩ := h.asset i
  rw [hrow, map_eq_some_iff] at ha
  obtain ⟨a, hrow', rfl⟩ := ha
  exact ⟨a, hrow', hf a⟩

lemma Onward.relation_after {r : RelationRow J} (hr : st.rows.relations[i]? = some r) :
    ∃ r', st'.rows.relations[i]? = some r' ∧ RelationOnward r r' := by
  obtain ⟨f, hf, hrow⟩ := h.relation i
  exact ⟨f r, by rw [hrow, hr]; rfl, hf r⟩

lemma Onward.relation_before {r' : RelationRow J} (hr : st'.rows.relations[i]? = some r') :
    ∃ r, st.rows.relations[i]? = some r ∧ RelationOnward r r' := by
  obtain ⟨f, hf, hrow⟩ := h.relation i
  rw [hrow, map_eq_some_iff] at hr
  obtain ⟨r, hrow', rfl⟩ := hr
  exact ⟨r, hrow', hf r⟩

lemma Onward.finding_before {f' : Finding} (hf : st'.rows.findings[i]? = some f') :
    ∃ f, st.rows.findings[i]? = some f ∧ FindingOnward f f' := by
  obtain ⟨g, hg, hrow⟩ := h.finding i
  rw [hrow, map_eq_some_iff] at hf
  obtain ⟨f, hrow', rfl⟩ := hf
  exact ⟨f, hrow', hg f⟩

lemma Onward.owns {rel : RelationRow J} {c : AssetRow J} (ho : st.rows.Owns i rel c) :
    ∃ rel' c', st'.rows.Owns i rel' c' ∧ RelationOnward rel rel' ∧ AssetOnward c c' := by
  obtain ⟨rel', hrel', hr⟩ := h.relation_after ho.relation
  obtain ⟨c', hc', hc⟩ := h.asset_after ho.child
  obtain ⟨p, hp, howns⟩ := ho.owner
  obtain ⟨p', hp', hpp⟩ := h.asset_after hp
  refine ⟨rel', c', ⟨hrel', ?_, p', ?_, ?_⟩, hr, hc⟩
  · rw [hr.target, hc']
  · rw [hr.source, hp']
  · rw [hr.type, hc.type, hpp.type]
    exact howns

end Onward

end App.Assets
