import AttackSurface.Assets.Effects

/-!
# What observing leaves of the rows

`Sighted ctx rows seen st`: how the rows of a run that is still observing stand to the
rows it started from.  An asset that was not observed, or only by a historical source,
has kept its liveness; one that a live source observed is active with no misses; new
rows have no misses.  A relationship that was observed is active, whatever the source; a
certificate that was not observed is closed when its endpoint presents a new one.

    observe_sighted : valid rows are `Sighted` after the first half of `ingest`
-/

namespace App.Assets

open PyText AsmSensors App.Scope App.Findings List Option

variable {J : Type} {T : Tables J} {ctx : IngestContext} {rows : Rows J} {st : Ingestor J}

/-- The constraints of the tables: keys are unique, and relations have two ends. -/
structure Rows.Valid (rows : Rows J) : Prop where
  asset_keys : (rows.assets.map AssetRow.key).Nodup
  relation_keys : (rows.relations.map RelationRow.key).Nodup
  relation_ends : ∀ r ∈ rows.relations,
    r.sourceAssetId < rows.assets.length ∧ r.targetAssetId < rows.assets.length

/-! ## Rows before and after -/

/-- The liveness of an asset is what it was. -/
structure AssetUnchanged (a a' : AssetRow J) : Prop where
  status : a'.status = a.status
  lastSeen : a'.lastSeen = a.lastSeen
  missedCount : a'.missedCount = a.missedCount
  inactiveSince : a'.inactiveSince = a.inactiveSince

lemma AssetUnchanged.refl (a : AssetRow J) : AssetUnchanged a a := ⟨rfl, rfl, rfl, rfl⟩

lemma AssetUnchanged.trans {a b c : AssetRow J} (h₁ : AssetUnchanged a b) (h₂ : AssetUnchanged b c) :
    AssetUnchanged a c :=
  ⟨h₂.status.trans h₁.status, h₂.lastSeen.trans h₁.lastSeen, h₂.missedCount.trans h₁.missedCount,
    h₂.inactiveSince.trans h₁.inactiveSince⟩

/-- What the run has made of an asset, given the keys it observed. -/
structure AssetSighted (ctx : IngestContext) (observed : List AKey) (a a' : AssetRow J) : Prop where
  key : a'.key = a.key
  kept : ctx.historical = true ∨ a.key ∉ observed → AssetUnchanged a a'
  live : ctx.historical = false → a.key ∈ observed → a'.status = .active ∧ a'.missedCount = 0

/-- Another certificate of the same endpoint is new among the observed relations. -/
def Replaced (rows : Rows J) (observedRels : List RelKey) (r : RelationRow J) : Prop :=
  r.relationType = .presentsCertificate ∧ ∃ k ∈ observedRels, k.1 = r.sourceAssetId ∧
    k.2.2 = .presentsCertificate ∧ rows.relationId k = none

structure RelationSighted (ctx : IngestContext) (rows : Rows J) (observedRels : List RelKey)
    (r r' : RelationRow J) : Prop where
  key : r'.key = r.key
  lastSeen : ctx.historical = true ∨ r.key ∉ observedRels → r'.lastSeen = r.lastSeen
  kept : ctx.historical = true ∨ r.key ∉ observedRels → r'.missedCount = r.missedCount
  live : ctx.historical = false → r.key ∈ observedRels → r'.missedCount = 0
  observed : r.key ∈ observedRels → r'.active = true
  unobserved : r.key ∉ observedRels → (r'.active = true ↔ r.active = true ∧ ¬ Replaced rows observedRels r)

/-- A finding that was seen has no misses, and is open if it was remediated. -/
structure FindingSighted (seen : Prop) (f f' : Finding) : Prop where
  assetId : f'.assetId = f.assetId
  kept : ¬ seen → f' = f
  live : seen → f'.missedCount = 0
  status : f'.status = f.status ∨ seen

/-- The rows of a run that is still observing. -/
structure Sighted (ctx : IngestContext) (rows : Rows J) (seen : List Nat) (st : Ingestor J) : Prop where
  valid : st.rows.Valid
  asset_old : ∀ (i : Nat) (a : AssetRow J), rows.assets[i]? = some a →
    ∃ a', st.rows.assets[i]? = some a' ∧ AssetSighted ctx st.observed a a'
  asset_new : ∀ (i : Nat) (a' : AssetRow J), rows.assets[i]? = none →
    st.rows.assets[i]? = some a' → a'.status = .active ∧ a'.missedCount = 0
  asset_source : ∀ (i : Nat) (a' : AssetRow J), st.rows.assets[i]? = some a' →
    (∃ a, rows.assets[i]? = some a ∧ a'.source = a.source) ∨ a'.source = some ctx.source
  relation_old : ∀ (i : Nat) (r : RelationRow J), rows.relations[i]? = some r →
    ∃ r', st.rows.relations[i]? = some r' ∧ RelationSighted ctx rows st.observedRels r r'
  relation_new : ∀ (i : Nat) (r' : RelationRow J), rows.relations[i]? = none →
    st.rows.relations[i]? = some r' →
    r'.active = true ∧ r'.missedCount = 0 ∧ r'.key ∈ st.observedRels
  finding_old : ∀ (i : Nat) (f : Finding), rows.findings[i]? = some f →
    ∃ f', st.rows.findings[i]? = some f' ∧ FindingSighted (i ∈ seen) f f'
  finding_new : ∀ (i : Nat) (f' : Finding), rows.findings[i]? = none →
    st.rows.findings[i]? = some f' → f'.missedCount = 0 ∧ i ∈ seen
  deactivated : st.deactivated = []
  closings : st.closings = []

lemma Sighted.start (hv : rows.Valid) : Sighted ctx rows [] ({ rows := rows } : Ingestor J) where
  valid := hv
  asset_old i a ha := ⟨a, ha, rfl, fun _ => AssetUnchanged.refl a, fun _ h => by simp at h⟩
  asset_new i a' hnone ha' := by simp [hnone] at ha'
  asset_source i a' ha' := .inl ⟨a', ha', rfl⟩
  relation_old i r hr :=
    ⟨r, hr, rfl, fun _ => rfl, fun _ => rfl, fun _ h => by simp at h, fun h => by simp at h,
      fun _ => by simp [Replaced]⟩
  relation_new i r' hnone hr' := by simp [hnone] at hr'
  finding_old i f hf := ⟨f, hf, rfl, fun _ => rfl, fun h => by simp at h, .inl rfl⟩
  finding_new i f' hnone hf' := by simp [hnone] at hf'
  deactivated := rfl
  closings := rfl

variable {seen : List Nat} {key : AKey} {id : Nat} {i : Nat}

lemma Sighted.load (h : Sighted ctx rows seen st) (keys : List AKey) :
    Sighted ctx rows seen (st.load keys) := { h with }

lemma Sighted.withStatus (h : Sighted ctx rows seen st) (status : Statuses) :
    Sighted ctx rows seen { st with status := status } := { h with }

/-! ## Keys -/

lemma assetId_some (h : rows.assetId key = some id) : ∃ a, rows.assets[id]? = some a ∧ a.key = key := by
  rw [Rows.assetId, findIdx?_eq_some_iff_getElem] at h
  obtain ⟨hlt, hkey, _⟩ := h
  exact ⟨rows.assets[id], getElem?_eq_getElem hlt, of_decide_eq_true hkey⟩

lemma assetId_none (h : rows.assetId key = none) {a : AssetRow J}
    (ha : rows.assets[i]? = some a) : a.key ≠ key := by
  rw [Rows.assetId, findIdx?_eq_none_iff] at h
  exact of_decide_eq_false (h a (mem_of_getElem? ha))

lemma relationId_some {key : RelKey} (h : rows.relationId key = some id) :
    ∃ r, rows.relations[id]? = some r ∧ r.key = key := by
  rw [Rows.relationId, findIdx?_eq_some_iff_getElem] at h
  obtain ⟨hlt, hkey, _⟩ := h
  exact ⟨rows.relations[id], getElem?_eq_getElem hlt, of_decide_eq_true hkey⟩

lemma relationId_none {key : RelKey} (h : rows.relationId key = none) {r : RelationRow J}
    (hr : rows.relations[i]? = some r) : r.key ≠ key := by
  rw [Rows.relationId, findIdx?_eq_none_iff] at h
  exact of_decide_eq_false (h r (mem_of_getElem? hr))

lemma row_inj {α β : Type} {l : List α} {g : α → β} (h : (l.map g).Nodup) {i j : Nat} {a b : α}
    (ha : l[i]? = some a) (hb : l[j]? = some b) (hab : g a = g b) : i = j := by
  have hi : (l.map g)[i]? = some (g a) := by rw [getElem?_map, ha, map_some]
  have hj : (l.map g)[j]? = some (g b) := by rw [getElem?_map, hb, map_some]
  have hlt : i < (l.map g).length := (List.getElem?_eq_some_iff.1 hi).1
  exact (getElem?_inj hlt h).1 (by rw [hi, hj, hab])

/-! ## Assets -/

/-- Observing another key leaves what was made of an asset. -/
lemma AssetSighted.other {observed : List AKey} {a a' : AssetRow J} (h : AssetSighted ctx observed a a')
    (hne : a.key ≠ key) (b : Bool) : AssetSighted ctx (if b then key :: observed else observed) a a' := by
  have hmem : a.key ∈ (if b then key :: observed else observed) ↔ a.key ∈ observed := by
    split <;> simp [hne]
  exact ⟨h.key, fun hk => h.kept (hk.imp_right fun hn hm => hn (hmem.2 hm)), fun hh hm => h.live hh (hmem.1 hm)⟩

section Update

variable (status : ScopeStatus) (attrs : Attributes J) (confidence : Nat) (a : AssetRow J)

lemma updateAsset_key (observed : Bool) : (updateAsset ctx status attrs confidence observed a).key = a.key := by
  cases hh : ctx.historical <;> cases observed <;> simp [updateAsset, sight, AssetRow.key, hh]

lemma updateAsset_source (observed : Bool) :
    (updateAsset ctx status attrs confidence observed a).source = a.source := by
  cases hh : ctx.historical <;> cases observed <;> simp [updateAsset, sight, hh]

lemma updateAsset_kept {observed : Bool} (h : ctx.historical = true ∨ observed = false) :
    AssetUnchanged a (updateAsset ctx status attrs confidence observed a) := by
  cases hh : ctx.historical <;> cases observed <;> simp [hh] at h <;>
    constructor <;> simp [updateAsset, sight, hh]

lemma updateAsset_live (h : ctx.historical = false) :
    (updateAsset ctx status attrs confidence true a).status = .active ∧
      (updateAsset ctx status attrs confidence true a).missedCount = 0 := by
  simp [updateAsset, sight, h]

end Update

lemma Sighted.setAsset (h : Sighted ctx rows seen st)
    (hid : st.rows.assetId key = some id) (status : ScopeStatus) (attrs : Attributes J)
    (confidence : Nat) (observed : Bool) :
    Sighted ctx rows seen
      { st.setAsset id (updateAsset ctx status attrs confidence observed) with
        observed := if observed then key :: st.observed else st.observed } := by
  obtain ⟨b, hb, hkey⟩ := assetId_some hid
  set f := updateAsset (J := J) ctx status attrs confidence observed with hf
  have hlen : (st.rows.assets.modify id f).length = st.rows.assets.length := length_modify ..
  refine { h with
    valid := ⟨?_, h.valid.relation_keys, ?_⟩, asset_old := ?_, asset_new := ?_, asset_source := ?_ }
  · show ((st.rows.assets.modify id f).map AssetRow.key).Nodup
    rw [map_modify_same _ _ fun a => updateAsset_key status attrs confidence a observed]
    exact h.valid.asset_keys
  · intro r hr
    show _ < (st.rows.assets.modify id f).length ∧ _ < (st.rows.assets.modify id f).length
    rw [hlen]
    exact h.valid.relation_ends r hr
  · intro i a ha
    obtain ⟨a', ha', hs⟩ := h.asset_old i a ha
    refine ⟨if id = i then f a' else a', ?_, ?_⟩
    · show (st.rows.assets.modify id f)[i]? = _
      rw [getElem?_modify_map, ha', map_some]
    by_cases hi : id = i
    · -- the row that is updated
      subst hi
      obtain rfl : a' = b := some.inj (ha'.symm.trans hb)
      rw [if_pos rfl]
      have hak : a.key = key := hs.key ▸ hkey
      refine ⟨(updateAsset_key ..).trans hs.key, ?_, ?_⟩
      · intro hkept
        cases observed with
        | true =>
          have hh : ctx.historical = true := by simpa [hak] using hkept
          exact (hs.kept (.inl hh)).trans (updateAsset_kept status attrs confidence a' (.inl hh))
        | false => exact (hs.kept hkept).trans (updateAsset_kept status attrs confidence a' (.inr rfl))
      intro hh hmem
      cases observed with
      | true => exact updateAsset_live status attrs confidence a' hh
      | false =>
        have hl := hs.live hh hmem
        have hu : AssetUnchanged a' (f a') := updateAsset_kept status attrs confidence a' (.inr rfl)
        exact ⟨hu.status.trans hl.1, hu.missedCount.trans hl.2⟩
    · -- another row has another key
      rw [if_neg hi]
      refine hs.other (fun heq => ?_) observed
      exact hi (row_inj h.valid.asset_keys hb ha' (by rw [hkey, hs.key, heq]))
  · intro i a' hnone ha'
    obtain ⟨a₀, ha₀, rfl⟩ := exists_of_modify ha'
    have hnew := h.asset_new i a₀ hnone ha₀
    split
    · by_cases hu : ctx.historical = true ∨ observed = false
      · have hkept : AssetUnchanged a₀ (f a₀) := updateAsset_kept status attrs confidence a₀ hu
        exact ⟨hkept.status.trans hnew.1, hkept.missedCount.trans hnew.2⟩
      rw [not_or, Bool.not_eq_true, Bool.not_eq_false] at hu
      rw [hf, hu.2]
      exact updateAsset_live status attrs confidence a₀ hu.1
    · exact hnew
  · intro i a' ha'
    obtain ⟨a₀, ha₀, rfl⟩ := exists_of_modify ha'
    have hsource : (if id = i then f a₀ else a₀).source = a₀.source := by
      split
      · exact updateAsset_source status attrs confidence a₀ observed
      · rfl
    rw [hsource]
    exact h.asset_source i a₀ ha₀

lemma getElem?_concat_cases {α : Type} {l : List α} {x y : α}
    (h : (l ++ [x])[i]? = some y) : l[i]? = some y ∨ i = l.length ∧ y = x := by
  rcases Nat.lt_trichotomy i l.length with hlt | heq | hgt
  · rw [getElem?_append_left hlt] at h
    exact .inl h
  · rw [getElem?_append_right heq.ge, heq, Nat.sub_self] at h
    exact .inr ⟨heq, (some.inj h).symm⟩
  · rw [getElem?_eq_none (by simp; omega)] at h
    cases h

lemma getElem?_concat_old {α : Type} {l : List α} {x y : α} (h : l[i]? = some y) : (l ++ [x])[i]? = some y := by
  rw [getElem?_append_left (List.getElem?_eq_some_iff.1 h).1, h]

lemma nodup_map_concat {α β : Type} {l : List α} {g : α → β} {x : α} (h : (l.map g).Nodup)
    (hx : ∀ (i : Nat) y, l[i]? = some y → g y ≠ g x) : ((l ++ [x]).map g).Nodup := by
  rw [map_append, map_singleton, ← concat_eq_append]
  refine h.concat fun hmem => ?_
  obtain ⟨y, hy, heq⟩ := List.mem_map.1 hmem
  obtain ⟨i, hi⟩ := mem_iff_getElem?.1 hy
  exact hx i y hi heq

lemma Sighted.addAsset (h : Sighted ctx rows seen st)
    (hid : st.rows.assetId key = none) (status : ScopeStatus) (attrs : Attributes J)
    (confidence : Nat) (observed : Bool) :
    Sighted ctx rows seen { st with
      rows := { st.rows with assets := st.rows.assets ++ [newAsset ctx key status attrs confidence] }
      loaded := key :: st.loaded
      observed := if observed then key :: st.observed else st.observed } := by
  refine { h with
    valid := ⟨?_, h.valid.relation_keys, ?_⟩, asset_old := ?_, asset_new := ?_, asset_source := ?_ }
  · exact nodup_map_concat h.valid.asset_keys fun i a ha => assetId_none hid ha
  · intro r hr
    have hlt := h.valid.relation_ends r hr
    simp only [length_append, length_singleton]
    omega
  · intro i a ha
    obtain ⟨a', ha', hs⟩ := h.asset_old i a ha
    exact ⟨a', getElem?_concat_old ha', hs.other (hs.key ▸ assetId_none hid ha') observed⟩
  · intro i a' hnone ha'
    rcases getElem?_concat_cases ha' with hold | ⟨_, rfl⟩
    · exact h.asset_new i a' hnone hold
    · exact ⟨rfl, rfl⟩
  · intro i a' ha'
    rcases getElem?_concat_cases ha' with hold | ⟨_, rfl⟩
    · exact h.asset_source i a' hold
    · exact .inr rfl

lemma Sighted.applyAsset (h : Sighted ctx rows seen st)
    (hkey : key ∈ st.loaded) (attrs : Attributes J) (confidence : Nat) (observed : Bool) :
    Sighted ctx rows seen (st.applyAsset T ctx key attrs confidence observed) := by
  unfold Ingestor.applyAsset
  split
  · exact h
  next status _ =>
  have hget : st.get key = st.rows.assetId key := if_pos hkey
  rw [hget]
  cases hid : st.rows.assetId key with
  | some id =>
    have := h.setAsset hid status (enrich T key.1 attrs) confidence observed
    cases observed <;> exact this
  | none =>
    have := h.addAsset hid status (enrich T key.1 attrs) confidence observed
    cases observed <;> exact this

lemma applyAsset_loaded {key k : AKey} {attrs : Attributes J} {confidence : Nat} {observed : Bool}
    (h : k ∈ st.loaded) : k ∈ (st.applyAsset T ctx key attrs confidence observed).loaded := by
  unfold Ingestor.applyAsset
  split
  · exact h
  · cases st.get key <;> cases observed <;> simp [Ingestor.setAsset, h]

lemma applyAssets_sighted (hv : rows.Valid) (g : Gathered J) :
    Sighted ctx rows [] (applyAssets T ctx rows g) := by
  unfold applyAssets
  set keys := g.allKeys T with hkeys
  set start := ({ rows := rows } : Ingestor J).load (keys ++ impliedKeys T.unicode keys)
  -- every key of the loop is loaded, and stays so
  refine (foldlRecOn (motive := fun st : Ingestor J => Sighted ctx rows [] st ∧ ∀ k ∈ keys, k ∈ st.loaded)
    _ _ ?_ ?_).1
  · exact ⟨((Sighted.start hv).load _).withStatus _, fun k hk => by simp [Ingestor.load, hk]⟩
  intro st hst key hkey
  have hmem : key ∈ keys := mem_insertionSort _ |>.1 hkey
  exact ⟨hst.1.applyAsset (hst.2 key hmem) _ _ _, fun k hk => applyAsset_loaded (hst.2 k hk)⟩

/-! ## Platform-made relations -/

lemma findHostname_sighted (h : Sighted ctx rows seen st) (value : Str) :
    Sighted ctx rows seen (st.findHostname T value).1 := by
  unfold Ingestor.findHostname
  split
  · exact h
  split
  · exact h.load _
  · exact h

variable {acc : Ingestor J × List (Link J)}

lemma structuralRelation_sighted (h : Sighted ctx rows seen acc.1) (key : AKey) :
    Sighted ctx rows seen (structuralRelation T ctx acc key).1 := by
  unfold structuralRelation
  simp only
  split
  · split
    · exact h
    next parent _ =>
    have hfind := findHostname_sighted (T := T) h parent
    cases hres : acc.1.findHostname T parent with
    | mk st' pkey =>
      rw [hres] at hfind
      cases pkey <;> exact hfind
  · exact h

lemma cloudRelation_sighted (h : Sighted ctx rows seen acc.1) (candidate : AKey × Str) :
    Sighted ctx rows seen (cloudRelation T ctx acc candidate).1 := by
  unfold cloudRelation
  simp only
  split
  · exact h
  split
  · refine ((h.withStatus _).load _).applyAsset ?_ _ _ _
    simp [Ingestor.load]
  · exact h

lemma relate_sighted (h : Sighted ctx rows seen st) (g : Gathered J) :
    Sighted ctx rows seen (relate T ctx st g).1 := by
  unfold relate
  simp only
  refine foldlRecOn (motive := fun acc : Ingestor J × List (Link J) => Sighted ctx rows seen acc.1) _ _ ?_
    fun acc hacc c _ => cloudRelation_sighted hacc c
  exact foldlRecOn (motive := fun acc : Ingestor J × List (Link J) => Sighted ctx rows seen acc.1) _ _ h
    fun acc hacc k _ => structuralRelation_sighted hacc k

/-! ## Relationships -/

lemma seeRelation_key (attrs : Attributes J) (r : RelationRow J) : (seeRelation ctx attrs r).key = r.key := by
  cases hh : ctx.historical <;> simp [seeRelation, RelationRow.key, hh]

lemma Replaced.cons_iff {k : RelKey} {observedRels : List RelKey} {r : RelationRow J} :
    Replaced rows (k :: observedRels) r ↔ Replaced rows observedRels r ∨
      (r.relationType = .presentsCertificate ∧ k.1 = r.sourceAssetId ∧
        k.2.2 = .presentsCertificate ∧ rows.relationId k = none) := by
  simp only [Replaced, mem_cons, exists_eq_or_imp]
  rw [and_or_left, or_comm]

section

variable (h : Sighted ctx rows seen st)

include h

lemma Sighted.relationId_none {key : RelKey}
    (hid : st.rows.relationId key = none) : rows.relationId key = none := by
  cases hold : rows.relationId key with
  | none => rfl
  | some id =>
    obtain ⟨r, hr, hkey⟩ := relationId_some hold
    obtain ⟨r', hr', hs⟩ := h.relation_old id r hr
    exact absurd (hs.key.trans hkey) (App.Assets.relationId_none hid hr')

/-- A known relation that is observed for the first time in this run is an old one. -/
lemma Sighted.relationId_ne_none {key : RelKey}
    (hid : st.rows.relationId key = some id) (hkey : key ∉ st.observedRels) :
    rows.relationId key ≠ none := by
  obtain ⟨r', hr', hkey'⟩ := relationId_some hid
  cases hold : rows.relations[id]? with
  | none => exact absurd (hkey' ▸ (h.relation_new id r' hold hr').2.2) hkey
  | some r =>
    obtain ⟨r'', hr'', hs⟩ := h.relation_old id r hold
    rw [hr'] at hr''
    cases hr''
    intro hnone
    exact App.Assets.relationId_none hnone hold (hs.key ▸ hkey')

lemma Sighted.seeRelation {key : RelKey}
    (hid : st.rows.relationId key = some id) (hnew : key ∉ st.observedRels) (attrs : Attributes J) :
    Sighted ctx rows seen
      { st.setRelation id (seeRelation ctx attrs) with observedRels := key :: st.observedRels } := by
  obtain ⟨b, hb, hkey⟩ := relationId_some hid
  have hold := h.relationId_ne_none hid hnew
  set f := App.Assets.seeRelation (J := J) ctx attrs with hf
  refine { h with valid := ⟨h.valid.asset_keys, ?_, ?_⟩, relation_old := ?_, relation_new := ?_ }
  · show ((st.rows.relations.modify id f).map RelationRow.key).Nodup
    rw [map_modify_same _ _ (seeRelation_key attrs)]
    exact h.valid.relation_keys
  · intro r hr
    obtain ⟨i, hi⟩ := mem_iff_getElem?.1 hr
    obtain ⟨r₀, hr₀, rfl⟩ := exists_of_modify hi
    have hends := h.valid.relation_ends r₀ (mem_of_getElem? hr₀)
    split
    · obtain ⟨hsource, hrest⟩ := Prod.mk.inj (seeRelation_key attrs r₀)
      rw [hsource, (Prod.mk.inj hrest).1]
      exact hends
    · exact hends
  · intro i r hr
    obtain ⟨r', hr', hs⟩ := h.relation_old i r hr
    refine ⟨if id = i then f r' else r', ?_, ?_⟩
    · show (st.rows.relations.modify id f)[i]? = _
      rw [getElem?_modify_map, hr', map_some]
    by_cases hi : id = i
    · subst hi
      obtain rfl : r' = b := some.inj (hr'.symm.trans hb)
      rw [if_pos rfl]
      have hrk : r.key = key := hs.key ▸ hkey
      have hmem : r.key ∈ key :: st.observedRels := by simp [hrk]
      refine ⟨(seeRelation_key attrs r').trans hs.key, ?_, ?_, ?_, ?_, fun hn => absurd hmem hn⟩
      · rintro (hh | hn)
        · rw [← hs.lastSeen (.inl hh)]
          simp [hf, App.Assets.seeRelation, hh]
        · exact absurd hmem hn
      · rintro (hh | hn)
        · rw [← hs.kept (.inl hh)]
          simp [hf, App.Assets.seeRelation, hh]
        · exact absurd hmem hn
      · intro hh _
        simp [hf, App.Assets.seeRelation, hh]
      · intro _
        cases hh : ctx.historical <;> simp [hf, App.Assets.seeRelation, hh]
    · rw [if_neg hi]
      have hrk : r.key ≠ key := by
        intro heq
        exact hi (row_inj h.valid.relation_keys hb hr' (by rw [hkey, hs.key, heq]))
      have hmem : r.key ∈ key :: st.observedRels ↔ r.key ∈ st.observedRels := by simp [hrk]
      refine ⟨hs.key, fun hk => hs.lastSeen (hk.imp_right fun hn hm => hn (hmem.2 hm)),
        fun hk => hs.kept (hk.imp_right fun hn hm => hn (hmem.2 hm)),
        fun hh hm => hs.live hh (hmem.1 hm), fun hm => hs.observed (hmem.1 hm), fun hn => ?_⟩
      rw [hs.unobserved fun hm => hn (hmem.2 hm), Replaced.cons_iff]
      simp [hold]
  · intro i r' hnone hr'
    obtain ⟨r₀, hr₀, rfl⟩ := exists_of_modify hr'
    have hnew' := h.relation_new i r₀ hnone hr₀
    split
    · next hi =>
      subst hi
      obtain rfl : r₀ = b := some.inj (hr₀.symm.trans hb)
      exact absurd (hkey ▸ hnew'.2.2) hnew
    · exact ⟨hnew'.1, hnew'.2.1, mem_cons_of_mem _ hnew'.2.2⟩

end

def besideNew (key : RelKey) (observedRels : List RelKey) (r : RelationRow J) : RelationRow J :=
  if key.2.2 = .presentsCertificate ∧ r.sourceAssetId = key.1 ∧
      r.relationType = .presentsCertificate ∧ r.key ∉ observedRels then
    { r with active := false }
  else r

lemma besideNew_key (key : RelKey) (observedRels : List RelKey) (r : RelationRow J) :
    (besideNew key observedRels r).key = r.key := by
  unfold besideNew
  split <;> rfl

lemma map_besideNew (p : Pair J) (observedRels : List RelKey) (relations : List (RelationRow J)) :
    (if p.relation = .presentsCertificate then replaceCertificates p.source observedRels relations
      else relations) = relations.map (besideNew p.key observedRels) := by
  split
  · next hcert =>
    refine map_congr_left fun r _ => ?_
    simp [besideNew, Pair.key, hcert]
  · next hcert =>
    refine (map_id'' (fun r => ?_) relations).symm
    simp [besideNew, Pair.key, hcert]

lemma Sighted.addRelation (h : Sighted ctx rows seen st) (row : RelationRow J)
    (hid : st.rows.relationId row.key = none) (hactive : row.active = true)
    (hmissed : row.missedCount = 0)
    (hends : row.sourceAssetId < st.rows.assets.length ∧ row.targetAssetId < st.rows.assets.length) :
    Sighted ctx rows seen { st with
      observedRels := row.key :: st.observedRels
      rows := { st.rows with relations :=
        (st.rows.relations ++ [row]).map (besideNew row.key (row.key :: st.observedRels)) } } := by
  set g := besideNew (J := J) row.key (row.key :: st.observedRels) with hg
  have hold := h.relationId_none hid
  refine { h with valid := ⟨h.valid.asset_keys, ?_, ?_⟩, relation_old := ?_, relation_new := ?_ }
  · show (((st.rows.relations ++ [row]).map g).map RelationRow.key).Nodup
    rw [List.map_map, show RelationRow.key ∘ g = RelationRow.key from funext (besideNew_key _ _)]
    exact nodup_map_concat h.valid.relation_keys fun i r hr => App.Assets.relationId_none hid hr
  · intro r hr
    obtain ⟨r₀, hr₀, rfl⟩ := List.mem_map.1 hr
    have hkey : (g r₀).key = r₀.key := besideNew_key _ _ r₀
    have hsource : (g r₀).sourceAssetId = r₀.sourceAssetId := congrArg Prod.fst hkey
    have htarget : (g r₀).targetAssetId = r₀.targetAssetId := congrArg (fun k => k.2.1) hkey
    rw [hsource, htarget]
    rcases mem_append.1 hr₀ with hmem | hmem
    · exact h.valid.relation_ends r₀ hmem
    · rw [mem_singleton.1 hmem]
      exact hends
  · intro i r hr
    obtain ⟨r', hr', hs⟩ := h.relation_old i r hr
    have hne : r.key ≠ row.key := hs.key ▸ App.Assets.relationId_none hid hr'
    have hmem : r.key ∈ row.key :: st.observedRels ↔ r.key ∈ st.observedRels := by simp [hne]
    have hsource : r'.sourceAssetId = r.sourceAssetId := congrArg Prod.fst hs.key
    have htype : r'.relationType = r.relationType := congrArg (fun k => k.2.2) hs.key
    refine ⟨g r', ?_, (besideNew_key _ _ r').trans hs.key, ?_, ?_, ?_, ?_, ?_⟩
    · show ((st.rows.relations ++ [row]).map g)[i]? = _
      rw [getElem?_map, getElem?_concat_old hr', map_some]
    · intro hk
      rw [← hs.lastSeen (hk.imp_right fun hn hm => hn (hmem.2 hm)), hg, besideNew]
      split <;> rfl
    · intro hk
      rw [← hs.kept (hk.imp_right fun hn hm => hn (hmem.2 hm)), hg, besideNew]
      split <;> rfl
    · intro hh hm
      rw [← hs.live hh (hmem.1 hm), hg, besideNew]
      split <;> rfl
    · intro hm
      rw [hg, besideNew, if_neg fun hc => hc.2.2.2 (hs.key ▸ hm)]
      exact hs.observed (hmem.1 hm)
    · intro hn
      have hun := hs.unobserved fun hm => hn (hmem.2 hm)
      rw [Replaced.cons_iff, hg, besideNew]
      split
      · next hc =>
        rw [hsource, htype] at hc
        simp [hc.2.2.1, hc.2.1, hc.1, hold]
      · next hc =>
        rw [hsource, htype, hs.key] at hc
        rw [hun, not_or, not_and]
        refine and_congr_right fun _ => (and_iff_left ?_).symm
        intro ht hcert
        exact hc ⟨hcert.2.1, hcert.1.symm, ht, hn⟩
  · intro i r' hnone hr'
    have hr'' : ((st.rows.relations ++ [row]).map g)[i]? = some r' := hr'
    rw [getElem?_map, map_eq_some_iff] at hr''
    obtain ⟨r₀, hr₀, rfl⟩ := hr''
    have hfact : r₀.active = true ∧ r₀.missedCount = 0 ∧ r₀.key ∈ row.key :: st.observedRels := by
      rcases getElem?_concat_cases hr₀ with hold' | ⟨_, rfl⟩
      · have := h.relation_new i r₀ hnone hold'
        exact ⟨this.1, this.2.1, mem_cons_of_mem _ this.2.2⟩
      · exact ⟨hactive, hmissed, mem_cons_self⟩
    have hsame : g r₀ = r₀ := by
      rw [hg, besideNew, if_neg fun hc => hc.2.2.2 hfact.2.2]
    rw [hsame]
    exact hfact

lemma Sighted.upsertRelation (h : Sighted ctx rows seen st) {p : Pair J}
    (hsource : p.source < st.rows.assets.length) (htarget : p.target < st.rows.assets.length) :
    Sighted ctx rows seen (st.upsertRelation ctx p) := by
  unfold Ingestor.upsertRelation
  split
  · exact h
  next hnew =>
  simp only
  cases hid : st.rows.relationId p.key with
  | some id => exact h.seeRelation hid hnew p.attributes
  | none =>
    rw [map_besideNew]
    exact h.addRelation (newRelation ctx p) hid rfl rfl ⟨hsource, htarget⟩

lemma get_lt (h : st.get key = some id) : id < st.rows.assets.length := by
  rw [Ingestor.get] at h
  split at h
  · obtain ⟨a, ha, _⟩ := assetId_some h
    exact (List.getElem?_eq_some_iff.1 ha).1
  · cases h

lemma pairs_lt {links : List (Link J)} {p : Pair J} (h : p ∈ st.pairs links) :
    p.source < st.rows.assets.length ∧ p.target < st.rows.assets.length := by
  rw [Ingestor.pairs, mem_filterMap] at h
  obtain ⟨l, _, hl⟩ := h
  split at hl
  · next s d hs hd =>
    rw [ite_none_left_eq_some, some.injEq] at hl
    obtain ⟨-, rfl⟩ := hl
    exact ⟨get_lt hs, get_lt hd⟩
  · cases hl

lemma upsertRelation_assets (p : Pair J) : (st.upsertRelation ctx p).rows.assets = st.rows.assets := by
  unfold Ingestor.upsertRelation
  split
  · rfl
  · simp only
    split <;> rfl

lemma upsertRelations_sighted (h : Sighted ctx rows seen st) (links : List (Link J)) :
    Sighted ctx rows seen ((st.pairs links).foldl (Ingestor.upsertRelation ctx) st) := by
  have hloop := foldlRecOn (motive := fun t : Ingestor J =>
      Sighted ctx rows seen t ∧ t.rows.assets = st.rows.assets)
    (st.pairs links) (Ingestor.upsertRelation ctx) ⟨h, rfl⟩ fun t ht p hp => by
      have hlt := pairs_lt hp
      rw [← ht.2] at hlt
      exact ⟨ht.1.upsertRelation hlt.1 hlt.2, (upsertRelation_assets p).trans ht.2⟩
  exact hloop.1

/-! ## Findings -/

lemma seenAgain_assetId (obs : FindingObservation) (now : Int) (unverified : Bool) (f : Finding) :
    (seenAgain obs now unverified f).assetId = f.assetId := by
  unfold seenAgain
  simp only
  split <;> rfl

lemma seenAgain_missedCount (obs : FindingObservation) (now : Int) (unverified : Bool) (f : Finding) :
    (seenAgain obs now unverified f).missedCount = 0 := by
  unfold seenAgain
  simp only
  split <;> rfl

lemma FindingSighted.of_iff {p q : Prop} {f f' : Finding} (h : FindingSighted p f f') (hpq : q ↔ p) :
    FindingSighted q f f' := propext hpq ▸ h

lemma Sighted.upsertObservation (h : Sighted ctx rows seen st) (assetId : Nat)
    (obs : FindingObservation) (source : Str) (now : Int) (unverified : Bool) {fs : List Finding}
    (hup : upsertObservation T.unicode T.ids st.rows.findings assetId obs source now
      unverified = (fs, i)) :
    Sighted ctx rows (i :: seen) (st.setFindings fs) := by
  unfold App.Findings.upsertObservation at hup
  simp only at hup
  split at hup
  · cases hup
    refine { h with
      valid := ⟨h.valid.asset_keys, h.valid.relation_keys, h.valid.relation_ends⟩
      finding_old := ?_, finding_new := ?_ }
    · intro j f hf
      obtain ⟨f', hf', hs⟩ := h.finding_old j f hf
      refine ⟨if i = j then seenAgain obs now unverified f' else f', ?_, ?_⟩
      · show (st.rows.findings.modify i _)[j]? = _
        rw [getElem?_modify_map, hf', map_some]
      split
      · next hij =>
        have hmem : j ∈ i :: seen := by simp [hij]
        exact ⟨(seenAgain_assetId ..).trans hs.assetId, fun hn => absurd hmem hn,
          fun _ => seenAgain_missedCount .., .inr hmem⟩
      · next hij => exact hs.of_iff (by simp [Ne.symm hij])
    · intro j f' hnone hf'
      obtain ⟨f₀, hf₀, rfl⟩ := exists_of_modify hf'
      have hnew := h.finding_new j f₀ hnone hf₀
      split
      · exact ⟨seenAgain_missedCount .., mem_cons_of_mem _ hnew.2⟩
      · exact ⟨hnew.1, mem_cons_of_mem _ hnew.2⟩
  · cases hup
    refine { h with
      valid := ⟨h.valid.asset_keys, h.valid.relation_keys, h.valid.relation_ends⟩
      finding_old := ?_, finding_new := ?_ }
    · intro j f hf
      obtain ⟨f', hf', hs⟩ := h.finding_old j f hf
      have hlt : j < st.rows.findings.length := (List.getElem?_eq_some_iff.1 hf').1
      exact ⟨f', getElem?_concat_old hf', hs.of_iff (by simp [hlt.ne])⟩
    · intro j f' hnone hf'
      rcases getElem?_concat_cases hf' with hold | ⟨hj, rfl⟩
      · have hnew := h.finding_new j f' hnone hold
        exact ⟨hnew.1, mem_cons_of_mem _ hnew.2⟩
      · exact ⟨rfl, by simp [hj]⟩

lemma observeFinding_sighted {acc : Ingestor J × List Nat} (h : Sighted ctx rows acc.2 acc.1)
    (f : AKey × FindingObservation) :
    Sighted ctx rows (observeFinding T ctx acc f).2 (observeFinding T ctx acc f).1 := by
  unfold observeFinding
  simp only
  split
  · exact h
  next id _ =>
  split
  · exact h
  · exact h.upsertObservation id f.2 ctx.source ctx.now _ rfl

/-- **Observing.** -/
theorem observe_sighted (hv : rows.Valid) (result : SensorResult J) :
    Sighted ctx rows (observe T ctx rows result).2 (observe T ctx rows result).1 := by
  unfold observe
  simp only
  refine foldlRecOn (motive := fun acc : Ingestor J × List Nat => Sighted ctx rows acc.2 acc.1) _ _ ?_
    fun acc hacc f _ => observeFinding_sighted hacc f
  exact upsertRelations_sighted (relate_sighted (applyAssets_sighted hv _) _) _

end App.Assets
