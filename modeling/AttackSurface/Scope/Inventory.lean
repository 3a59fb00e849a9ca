import AttackSurface.Assets.Sightings

/-!
# Scope entries in the inventory (`app/scope/service.py`)

The inclusion entries of an organization are rows of the asset table too.  `sync_scope_assets`
adds those that are missing, with the source `scope`, and evaluates the scope status of names
and addresses anew; a name that becomes or stops being a root domain changes its type.

A result of `none` is a violation of the unique key `(type, value)`; the transaction is then
rolled back.
-/

namespace App.Scope

open PyText AsmSensors App.Scans App.Assets List Option

variable {J : Type}

def scopeSource : Str := "scope".toList

def scopeAsset (t : AssetType) (value : Str) (now : Int) : AssetRow J where
  assetType := t
  normalizedValue := value
  firstSeen := now
  lastSeen := now
  source := some scopeSource
  sources := [scopeSource]
  confidence := 100

def confirmed (a : AssetRow J) : AssetRow J := { a with scopeStatus := .inScope }

/-- `_upsert_scope_asset`. -/
def upsertScopeAsset (t : AssetType) (value : Str) (now : Int) (rows : Rows J) : Rows J :=
  match rows.assetId (t, value) with
  | none => { rows with assets := rows.assets ++ [scopeAsset t value now] }
  | some id => { rows with assets := rows.assets.modify id confirmed }

def flushAssets (rows : Rows J) (assets : List (AssetRow J)) : Option (Rows J) :=
  if (assets.map AssetRow.key).Nodup then some { rows with assets := assets } else none

def declareRoot (value : Str) (rows : Rows J) : Option (Rows J) :=
  match rows.assets.findIdx? fun a =>
      decide (a.normalizedValue = value ∧ a.assetType ∈ hostnameAssetTypes) with
  | none => some rows
  | some id =>
    if rows.assets[id]?.any fun a => decide (a.assetType = .rootDomain) then some rows
    else flushAssets rows (rows.assets.modify id fun a => { a with assetType := .rootDomain })

def declareEntry (now : Int) (rows : Rows J) (e : ScopeRule) : Option (Rows J) :=
  match e.entryType with
  | .domain => (declareRoot e.value rows).map (upsertScopeAsset .rootDomain e.value now)
  | .ip => some (upsertScopeAsset .ipAddress e.value now rows)
  | .cidr => some (upsertScopeAsset .cidr e.value now rows)

variable (T : Tables J) (checker : ScopeChecker) (a : AssetRow J)

/-- One round of the loop of `rescope_assets`. -/
def rescope : AssetRow J :=
  if a.assetType = .ipAddress then
    let status := checker.ipStatus a.normalizedValue
    if status = .outOfScope ∧ a.scopeStatus = .derived ∧ checker.isExcludedIp a.normalizedValue = false then a
    else { a with scopeStatus := status }
  else if a.assetType ∈ hostnameAssetTypes then
    let status := checker.hostnameStatus a.normalizedValue
    let t :=
      if a.assetType = .rootDomain ∧ a.normalizedValue ∉ checker.rootDomains then
        if T.registrableDomain a.normalizedValue ≠ some a.normalizedValue then .subdomain else .domain
      else a.assetType
    { a with assetType := t, scopeStatus := status }
  else a

variable (rows : Rows J)

/-- `rescope_assets`. -/
def rescopeAssets : Option (Rows J) :=
  flushAssets rows (rows.assets.map (rescope T checker))

/-- `sync_scope_assets`. -/
def syncScopeAssets (now : Int) (rows : Rows J) : Option (Rows J) :=
  ((checker.rules.filter fun e => !e.isExclusion).foldlM (declareEntry now) rows).bind
    (rescopeAssets T checker)

/-! ## What the writes leave alone -/

def Sourced : Prop :=
  ∀ a ∈ rows.assets, a.assetType ∈ livenessTypes → ∃ s, a.source = some s ∧ s ≠ scopeSource

/-- What a change of the scope can make of an asset: names and addresses change their type and
scope status, nothing else does. -/
structure Rescoped (a a' : AssetRow J) : Prop where
  status : a'.status = a.status
  source : a'.source = a.source
  type : a'.assetType ∈ livenessTypes → a'.assetType = a.assetType

/-- A change of the scope keeps every row in its place, and what it adds is declared. -/
structure ScopeChange (rows rows' : Rows J) : Prop where
  valid : rows.Valid → rows'.Valid
  asset_old : ∀ (i : Nat) (a : AssetRow J), rows.assets[i]? = some a →
    ∃ a', rows'.assets[i]? = some a' ∧ Rescoped a a'
  asset_new : ∀ (i : Nat) (a' : AssetRow J), rows.assets[i]? = none →
    rows'.assets[i]? = some a' → a'.assetType ∉ livenessTypes

lemma Rescoped.refl : Rescoped a a := ⟨rfl, rfl, fun _ => rfl⟩

lemma Rescoped.trans {a b c : AssetRow J} (h₁ : Rescoped a b) (h₂ : Rescoped b c) : Rescoped a c :=
  ⟨h₂.status.trans h₁.status, h₂.source.trans h₁.source, fun h => by
    have hb := h₂.type h
    exact hb.trans (h₁.type (hb ▸ h))⟩

lemma ScopeChange.refl : ScopeChange rows rows :=
  ⟨id, fun _ a ha => ⟨a, ha, .refl a⟩, fun _ _ hnone ha => by rw [hnone] at ha; cases ha⟩

lemma ScopeChange.trans {a b c : Rows J} (h₁ : ScopeChange a b) (h₂ : ScopeChange b c) : ScopeChange a c := by
  refine ⟨fun hv => h₂.valid (h₁.valid hv), ?_, ?_⟩
  · intro i x hx
    obtain ⟨y, hy, hxy⟩ := h₁.asset_old i x hx
    obtain ⟨z, hz, hyz⟩ := h₂.asset_old i y hy
    exact ⟨z, hz, hxy.trans hyz⟩
  intro i z hnone hz
  cases hmid : b.assets[i]? with
  | none => exact h₂.asset_new i z hmid hz
  | some y =>
    obtain ⟨z', hz', hyz⟩ := h₂.asset_old i y hmid
    rw [hz, some_inj] at hz'
    subst hz'
    intro hlive
    exact h₁.asset_new i y hnone hmid (hyz.type hlive ▸ hlive)

variable {assets : List (AssetRow J)}

lemma ScopeChange.update {rows : Rows J}
    (hkeys : (rows.assets.map AssetRow.key).Nodup → (assets.map AssetRow.key).Nodup)
    (hrow : ∀ i : Nat, ∃ f : AssetRow J → AssetRow J,
      (∀ a, Rescoped a (f a)) ∧ assets[i]? = rows.assets[i]?.map f) :
    ScopeChange rows { rows with assets := assets } := by
  have hnone : ∀ i : Nat, assets[i]? = none ↔ rows.assets[i]? = none := by
    intro i
    obtain ⟨f, _, hi⟩ := hrow i
    rw [hi, map_eq_none_iff]
  have hlen : rows.assets.length ≤ assets.length :=
    List.getElem?_eq_none_iff.1 ((hnone _).1 (getElem?_eq_none le_rfl))
  refine ⟨fun hv => ⟨hkeys hv.asset_keys, hv.relation_keys, fun r hr => ?_⟩, ?_, ?_⟩
  · obtain ⟨hsrc, htgt⟩ := hv.relation_ends r hr
    exact ⟨hsrc.trans_le hlen, htgt.trans_le hlen⟩
  · intro i a ha
    obtain ⟨f, hf, hi⟩ := hrow i
    exact ⟨f a, by simp [hi, ha], hf a⟩
  · intro i a' hold ha'
    rw [(hnone i).2 hold] at ha'
    cases ha'

variable {rows rows' : Rows J}

lemma flushAssets_change (h : flushAssets rows assets = some rows')
    (hrow : ∀ i : Nat, ∃ f : AssetRow J → AssetRow J,
      (∀ a, Rescoped a (f a)) ∧ assets[i]? = rows.assets[i]?.map f) : ScopeChange rows rows' := by
  rw [flushAssets, ite_none_right_eq_some, some_inj] at h
  obtain ⟨hkeys, rfl⟩ := h
  exact .update (fun _ => hkeys) hrow

lemma upsertScopeAsset_change {t : AssetType} (ht : t ∉ livenessTypes) (value : Str) (now : Int)
    (rows : Rows J) : ScopeChange rows (upsertScopeAsset t value now rows) := by
  unfold upsertScopeAsset
  split
  · next hnone =>
    refine ⟨fun hv => ⟨?_, hv.relation_keys, fun r hr => ?_⟩, ?_, ?_⟩
    · exact nodup_map_concat hv.asset_keys fun _ _ ha => assetId_none hnone ha
    · obtain ⟨hsrc, htgt⟩ := hv.relation_ends r hr
      simp only [length_append, length_singleton]
      omega
    · intro i a ha
      refine ⟨a, ?_, .refl a⟩
      show (rows.assets ++ [_])[i]? = some a
      rw [getElem?_append_left (List.getElem?_eq_some_iff.1 ha).1, ha]
    · intro i a' hold ha'
      rcases getElem?_concat_cases ha' with ha | ⟨_, rfl⟩
      · rw [hold] at ha
        cases ha
      · exact ht
  · refine .update (fun hk => ?_) fun i => ⟨_, fun a => ?_, getElem?_modify_map _ _ _ _⟩
    · rwa [map_modify_same AssetRow.key confirmed fun _ => rfl]
    split
    · exact ⟨rfl, rfl, fun _ => rfl⟩
    · exact .refl a

lemma root_not_missed : AssetType.rootDomain ∉ livenessTypes := by decide

lemma declareRoot_change {value : Str} (h : declareRoot value rows = some rows') : ScopeChange rows rows' := by
  unfold declareRoot at h
  split at h
  · cases h
    exact .refl rows
  split at h
  · cases h
    exact .refl rows
  refine flushAssets_change h fun i => ⟨_, fun a => ?_, getElem?_modify_map _ _ _ _⟩
  split
  · exact ⟨rfl, rfl, fun hlive => absurd hlive root_not_missed⟩
  · exact .refl a

lemma declareEntry_change {now : Int} {e : ScopeRule}
    (h : declareEntry now rows e = some rows') : ScopeChange rows rows' := by
  unfold declareEntry at h
  split at h
  · obtain ⟨mid, hmid, rfl⟩ := map_eq_some_iff.1 h
    exact (declareRoot_change hmid).trans (upsertScopeAsset_change (by decide) _ _ _)
  all_goals
    cases h
    exact upsertScopeAsset_change (by decide) _ _ _

lemma rescope_rescoped : Rescoped a (rescope T checker a) := by
  unfold rescope
  split
  · simp only
    split
    · exact .refl a
    · exact ⟨rfl, rfl, fun _ => rfl⟩
  split
  · refine ⟨rfl, rfl, fun hlive => ?_⟩
    -- a new type is that of a name
    simp only at hlive ⊢
    split at hlive
    · split at hlive <;> exact absurd hlive (by decide)
    · next hsame => rw [if_neg hsame]
  · exact .refl a

lemma rescopeAssets_change {T : Tables J} {checker : ScopeChecker}
    (h : rescopeAssets T checker rows = some rows') : ScopeChange rows rows' :=
  flushAssets_change h fun _ => ⟨_, rescope_rescoped T checker, getElem?_map⟩

/-- **A change of the scope** keeps the rows and their sources, and adds no asset that is missed
with its relations. -/
theorem syncScopeAssets_change {T : Tables J} {checker : ScopeChecker} {now : Int}
    (h : syncScopeAssets T checker now rows = some rows') :
    ScopeChange rows rows' := by
  obtain ⟨mid, hmid, hrescope⟩ := bind_eq_some_iff.1 h
  refine ScopeChange.trans ?_ (rescopeAssets_change hrescope)
  clear h hrescope
  generalize checker.rules.filter (fun e => !e.isExclusion) = entries at hmid
  induction entries generalizing rows with
  | nil =>
    cases hmid
    exact .refl _
  | cons e es ih =>
    rw [foldlM_cons, bind_eq_bind, bind_eq_some_iff] at hmid
    obtain ⟨next, hnext, hmid⟩ := hmid
    exact (declareEntry_change hnext).trans (ih hmid)

lemma ScopeChange.sourced (h : ScopeChange rows rows') (hs : Sourced rows) : Sourced rows' := by
  intro a' ha' hlive
  obtain ⟨i, hi⟩ := mem_iff_getElem?.1 ha'
  cases hold : rows.assets[i]? with
  | none => exact absurd hlive (h.asset_new i a' hold hi)
  | some a =>
    obtain ⟨a₁, ha₁, hrow⟩ := h.asset_old i a hold
    rw [hi, some_inj] at ha₁
    subst ha₁
    obtain ⟨s, hsource, hne⟩ := hs a (mem_of_getElem? hold) (hrow.type hlive ▸ hlive)
    exact ⟨s, hrow.source.trans hsource, hne⟩

end App.Scope
