import AttackSurface.Assets.Counting

/-!
# What goes with an asset that is closed

A round of the loops over coverage makes at most one call of `_deactivate`.  For every asset
that a round closes, right after it:

    no finding of the asset is open; every active child behind an active relation is closed
    too, was observed, or is an endpoint that another host serves      (Round.retires)

An ingest is such rounds, one after the other (`ingest_rounds`), and before them it closes
nothing.
-/

namespace App.Assets

open PyNet AsmSensors App.Scans App.Scope App.Findings Machines List Option

variable {J : Type} {T : Tables J} {ctx : IngestContext} {seen : List Nat}
  {st st' t : Ingestor J} {e : Event} {id : Nat}

def Rows.Closes (before after : Rows J) (id : Nat) : Prop :=
  ∃ a a', before.assets[id]? = some a ∧ a.status = .active ∧
    after.assets[id]? = some a' ∧ a'.status = .inactive

/-- What is to hold of a closed asset; the `excused` children may stay. -/
structure Rows.Retired (before after : Rows J) (excused : AssetRow J → Prop) (id : Nat) : Prop where
  resolved : ∀ f ∈ after.findings, f.assetId = id → f.status.isOpen = false
  children : ∀ (r : Nat) (rel : RelationRow J) (c : AssetRow J), before.Owns r rel c →
    rel.sourceAssetId = id → rel.active = true → c.status = .active →
    (∃ c', after.assets[rel.targetAssetId]? = some c' ∧ c'.status = .inactive) ∨ excused c ∨
      (c.assetType = .httpEndpoint ∧ after.hasOtherPresence rel.targetAssetId id = true)

/-- Every asset that was closed on the way from `st` to `st'` is retired. -/
def Ingestor.Retires (st st' : Ingestor J) : Prop :=
  ∀ id, st.rows.Closes st'.rows id → st.rows.Retired st'.rows (fun c => c.key ∈ st.observed) id

lemma Rows.Closes.irrefl (rows : Rows J) (id : Nat) : ¬rows.Closes rows id := by
  rintro ⟨a, a', ha, hactive, ha', hclosed⟩
  rw [ha] at ha'
  cases ha'
  rw [hactive] at hclosed
  cases hclosed

lemma Ingestor.Retires.refl (st : Ingestor J) : st.Retires st :=
  fun id hcloses => absurd hcloses (Rows.Closes.irrefl st.rows id)

/-! ## The assets that were closed are in the run's list -/

lemma Event.onAsset_closes {now : Int} {i : Nat} {a : AssetRow J} (ha : a.status = .active)
    (h : (e.onAsset now i a).status = .inactive) : i ∈ e.closes := by
  have hkept : ∀ {P : Prop}, a.status = .inactive → P := by
    intro P hs
    rw [ha] at hs
    cases hs
  cases e with
  | scanned id | missed id =>
    simp only [Event.onAsset] at h
    split at h <;> exact hkept h
  | expired id | left r id | orphaned r id =>
    simp only [Event.onAsset] at h
    split at h
    · next heq => simp [Event.closes, heq]
    · exact hkept h
  | relationMissed r | relationExpired r | disowned r | findings ids resolved => exact hkept h

variable {es : List Event}

lemma steps_closes (h : Steps (Touch T ctx seen) st es st') {i : Nat}
    (hc : st.rows.Closes st'.rows i) : i ∈ st'.deactivated := by
  induction h with
  | nil => exact absurd hc (Rows.Closes.irrefl _ i)
  | @snoc es t u e hsteps hstep ih =>
    obtain ⟨a, a', ha, hactive, ha', hclosed⟩ := hc
    obtain ⟨b, hb, _⟩ := (Onward.of_steps hsteps).asset_after ha
    rw [hstep.deactivated, mem_append]
    cases hstatus : b.status with
    | inactive => exact .inr (ih ⟨a, b, ha, hactive, hb, hstatus⟩)
    | active =>
      rw [hstep.asset, hb, map_some, some_inj] at ha'
      exact .inl (Event.onAsset_closes hstatus (ha' ▸ hclosed))

/-! ## Their findings -/

def Ingestor.Resolved (st : Ingestor J) : Prop :=
  ∀ id ∈ st.deactivated, ∀ f ∈ st.rows.findings, f.assetId = id → f.status.isOpen = false

lemma withAsset_closed {now : Int} {f : Finding} (h : (withAsset now id f).assetId = id) :
    (withAsset now id f).status.isOpen = false := by
  unfold withAsset at h ⊢
  split
  · rfl
  next hno =>
  rw [if_neg hno] at h
  simpa [h] using hno

lemma Event.onFinding_closes {i j : Nat} {f : Finding} (h : i ∈ e.closes)
    (hf : (e.onFinding ctx j f).assetId = i) : (e.onFinding ctx j f).status.isOpen = false := by
  cases e with
  | expired id | left r id | orphaned r id =>
    rw [Event.closes, mem_singleton] at h
    subst h
    exact withAsset_closed hf
  | _ => simp [Event.closes] at h

lemma Touch.resolved (h : Touch T ctx seen st e st') (hr : st.Resolved) : st'.Resolved := by
  intro i hi f' hf' hasset
  obtain ⟨j, hj⟩ := mem_iff_getElem?.1 hf'
  rw [h.finding, map_eq_some_iff] at hj
  obtain ⟨f, hf, rfl⟩ := hj
  rw [h.deactivated, mem_append] at hi
  rcases hi with hi | hi
  · exact Event.onFinding_closes hi hasset
  have hon := e.onFinding_onward ctx j f
  have hold := hr i hi f (mem_of_getElem? hf) (hon.assetId ▸ hasset)
  by_contra hopen
  rw [Bool.not_eq_false] at hopen
  rw [← hon.isOpen hopen, hopen] at hold
  cases hold

lemma Ingestor.Resolved.steps (hr : st.Resolved) (h : Steps (Touch T ctx seen) st es st') : st'.Resolved :=
  h.preserves Ingestor.Resolved (fun _ _ _ hr h => h.resolved hr) hr

lemma Ingestor.Resolved.closeAsset (hr : st.Resolved) (now : Int) : (st.closeAsset now id).Resolved := by
  intro i hi f' hf' hasset
  obtain ⟨f, hf, rfl⟩ := List.mem_map.1 (closeAsset_findings st id now ▸ hf')
  rw [closeAsset_deactivated, mem_cons] at hi
  rcases hi with rfl | hi
  · exact withAsset_closed hasset
  unfold withAsset at hasset ⊢
  split
  · rfl
  next hno =>
  rw [if_neg hno] at hasset
  exact hr i hi f hf hasset

/-! ## Endpoints that other hosts serve -/

def Rows.Served (rows : Rows J) (c : Nat) : Prop :=
  ∃ (q : Nat) (rel : RelationRow J), rows.relations[q]? = some rel ∧ rel.targetAssetId = c ∧
    rel.active = true ∧ rel.relationType = .serves

lemma hasOtherPresence_iff {rows : Rows J} {c p : Nat} :
    rows.hasOtherPresence c p = true ↔ ∃ (q : Nat) (rel : RelationRow J),
      rows.relations[q]? = some rel ∧ rel.targetAssetId = c ∧ rel.active = true ∧
        rel.relationType = .serves ∧ rel.sourceAssetId ≠ p := by
  rw [Rows.hasOtherPresence, List.any_eq_true]
  constructor
  · rintro ⟨rel, hmem, h⟩
    obtain ⟨q, hq⟩ := mem_iff_getElem?.1 hmem
    simp only [Bool.and_eq_true, decide_eq_true_eq] at h
    exact ⟨q, rel, hq, h.1.1.1, h.1.1.2, h.2, h.1.2⟩
  rintro ⟨q, rel, hq, htarget, hactive, htype, hsource⟩
  refine ⟨rel, mem_of_getElem? hq, ?_⟩
  simp only [Bool.and_eq_true, decide_eq_true_eq]
  exact ⟨⟨⟨htarget, hactive⟩, hsource⟩, htype⟩

lemma served_of_presence {rows : Rows J} {c p : Nat} (h : rows.hasOtherPresence c p = true) :
    rows.Served c := by
  obtain ⟨q, rel, hq, htarget, hactive, htype, _⟩ := hasOtherPresence_iff.1 h
  exact ⟨q, rel, hq, htarget, hactive, htype⟩

variable {rel rel' : RelationRow J}

/-- A step that closes a relation, no miss of its own being the reason, to an asset that stays
and was not observed: the asset is an endpoint that is still served. -/
lemma Touch.served (h : Touch T ctx seen st e st') (hexp : ∀ r, e ≠ .relationExpired r) {q : Nat}
    {c' : AssetRow J} (hrel : st.rows.relations[q]? = some rel)
    (hlive : rel.active = true) (hrel' : st'.rows.relations[q]? = some rel')
    (hshut : rel'.active = false) (hc' : st'.rows.assets[rel.targetAssetId]? = some c')
    (hactive : c'.status = .active) (hunseen : c'.key ∉ st.observed) :
    c'.assetType = .httpEndpoint ∧ st'.rows.Served rel.targetAssetId := by
  have hkept : rel' ≠ rel := by
    rintro rfl
    rw [hlive] at hshut
    cases hshut
  have hrow' := h.relation q
  rw [hrel, hrel', map_some, some_inj] at hrow'
  cases h with
  | scanned | missed | expired | left | findings => exact absurd hrow' hkept
  | @relationMissed r =>
    simp only [Event.onRelation] at hrow'
    split at hrow'
    · rw [hrow'] at hshut
      rw [show rel.missedOnce.active = rel.active from rfl, hlive] at hshut
      cases hshut
    · exact absurd hrow' hkept
  | @relationExpired r => exact absurd rfl (hexp r)
  | @disowned r rel₁ c owns live closed stays =>
    simp only [Event.onRelation] at hrow'
    split at hrow'
    · next hrq =>
      subst hrq
      obtain rfl : rel = rel₁ := some_inj.1 (hrel.symm.trans owns.relation)
      obtain rfl : c' = c := some_inj.1 (hc'.symm.trans owns.child)
      rcases stays with hseen | hinactive | ⟨htype, hother⟩
      · exact absurd hseen hunseen
      · rw [hactive] at hinactive
        cases hinactive
      · exact ⟨htype, served_of_presence hother⟩
    · exact absurd hrow' hkept
  | @orphaned r rel₁ c owns live closed unobserved active alone =>
    simp only [Event.onRelation] at hrow'
    split at hrow'
    · next hrq =>
      subst hrq
      obtain rfl : rel = rel₁ := some_inj.1 (hrel.symm.trans owns.relation)
      rw [closeAsset_assets, getElem?_modify_map, closeRelation_eq, setRelation_assets, owns.child,
        map_some, if_pos rfl, some_inj] at hc'
      rw [← hc'] at hactive
      cases hactive
    · exact absurd hrow' hkept

/-- The same over any number of steps: what stays is served in the end, because the relation
that keeps it is closed by no step that does not find another one. -/
lemma steps_served (h : Steps (Touch T ctx seen) st es st')
    (hexp : ∀ r, .relationExpired r ∉ es) {q : Nat} {c' : AssetRow J}
    (hrel : st.rows.relations[q]? = some rel) (hlive : rel.active = true)
    (hrel' : st'.rows.relations[q]? = some rel') (hshut : rel'.active = false)
    (hc' : st'.rows.assets[rel.targetAssetId]? = some c') (hactive : c'.status = .active)
    (hunseen : c'.key ∉ st.observed) :
    c'.assetType = .httpEndpoint ∧ st'.rows.Served rel.targetAssetId := by
  induction h generalizing rel' c' with
  | nil =>
    rw [hrel, some_inj] at hrel'
    rw [← hrel', hlive] at hshut
    cases hshut
  | @snoc es t u e hsteps hstep ih =>
    have honward := Onward.of_steps hsteps
    have hlast : ∀ r, e ≠ .relationExpired r := fun r he => hexp r (by simp [he])
    have hseen : c'.key ∉ t.observed := honward.observed ▸ hunseen
    obtain ⟨rel₁, hrel₁, hrr⟩ := honward.relation_after hrel
    obtain ⟨c, hc, hcc⟩ := hstep.onward.asset_before hc'
    cases hstill : rel₁.active with
    | true =>
      rw [← hrr.target] at hc' ⊢
      exact hstep.served hlast hrel₁ hstill hrel' hshut hc' hactive hseen
    | false =>
      obtain ⟨htype, p, keeper, hkeeper, htarget, hkeeps, hserves⟩ :=
        ih (fun r hr => hexp r (mem_append_left _ hr)) hrel₁ hstill hc (hcc.active hactive)
          (hcc.key ▸ hunseen)
      refine ⟨hcc.type.trans htype, ?_⟩
      obtain ⟨keeper', hkeeper', hkk⟩ := hstep.onward.relation_after hkeeper
      cases hkept : keeper'.active with
      | true => exact ⟨p, keeper', hkeeper', hkk.target.trans htarget, hkept, hkk.type.trans hserves⟩
      | false =>
        rw [← htarget] at hc' ⊢
        exact (hstep.served hlast hkeeper hkeeps hkeeper' hkept hc' hactive hseen).2

/-! ## One call -/

lemma not_relationExpired (h : es.flatMap Event.misses = []) (r : Nat) : .relationExpired r ∉ es := by
  intro hr
  have := flatMap_eq_nil_iff.1 h _ hr
  cases this

lemma Deactivated.retires (h : Deactivated T ctx seen st id st') (hclosed : st.Closed)
    (hresolved : st.Resolved) : st.Retires st' := by
  obtain ⟨⟨es, hes, hnone⟩, hswept, _⟩ := h
  have honward := Onward.of_steps hes
  intro i hcloses
  obtain ⟨a, a', ha, hactive, ha', hinactive⟩ := hcloses
  have hnew : i ∉ st.deactivated := by
    intro hmem
    rw [hclosed i hmem a ha] at hactive
    cases hactive
  have hmem : i ∈ st'.deactivated := by
    by_cases hid : id = i
    · exact honward.deactivated (by simp [hid])
    · refine steps_closes hes ⟨a, a', ?_, hactive, ha', hinactive⟩
      rw [closeAsset_assets, getElem?_modify_map, ha, map_some, if_neg hid]
  refine ⟨fun f hf hasset => (hresolved.closeAsset ctx.now).steps hes i hmem f hf hasset, ?_⟩
  intro r rel c howns hsrc hlive hcactive
  obtain ⟨rel', hrel', hrr⟩ := honward.relation_after (i := r) howns.relation
  have hc₁ : (st.closeAsset ctx.now id).rows.assets[rel.targetAssetId]? =
      some (if id = rel.targetAssetId then c.closed ctx.now else c) := by
    rw [closeAsset_assets, getElem?_modify_map, howns.child, map_some]
  obtain ⟨c', hc', hcc⟩ := honward.asset_after hc₁
  have hkey : c'.key = c.key := hcc.key.trans (by split <;> rfl)
  cases hstatus : c'.status with
  | inactive => exact .inl ⟨c', hc', hstatus⟩
  | active =>
    by_cases hseen : c.key ∈ st.observed
    · exact .inr (.inl hseen)
    -- the relation is swept, so a step closed it, and the endpoint is served by another host
    obtain ⟨p, hp, hkind⟩ := howns.owner
    rw [hsrc, ha, some_inj] at hp
    subst hp
    have htype : a'.assetType = a.assetType := by
      have hrow : (st.closeAsset ctx.now id).rows.assets[i]? =
          some (if id = i then a.closed ctx.now else a) := by
        rw [closeAsset_assets, getElem?_modify_map, ha, map_some]
      obtain ⟨a₁, ha₁, haa⟩ := honward.asset_after hrow
      rw [ha', some_inj] at ha₁
      subst ha₁
      exact haa.type.trans (by split <;> rfl)
    have hctype : c'.assetType = c.assetType := congrArg Prod.fst hkey
    have hsweep : st'.rows.Swept i (rel.relationType, c.assetType) :=
      hswept i hmem hnew a' ha' _ (htype ▸ hkind)
    have hshut : rel'.active = false :=
      hsweep r rel' c' hrel' (hrr.source.trans hsrc) hrr.type (hrr.target ▸ hc') hctype hstatus
    obtain ⟨hendpoint, q, keeper, hkeeper, htarget, hkeeps, hserves⟩ :=
      steps_served hes (not_relationExpired hnone) (q := r) howns.relation hlive hrel' hshut hc' hstatus
        (hkey ▸ hseen)
    refine .inr (.inr ⟨hctype ▸ hendpoint, hasOtherPresence_iff.2
      ⟨q, keeper, hkeeper, htarget, hkeeps, hserves, fun hsame => ?_⟩⟩)
    have howned : rel.relationType = .serves := by
      rw [← hctype, hendpoint] at hkind
      revert hkind
      cases a.assetType <;> cases rel.relationType <;> decide
    have := hsweep q keeper c' hkeeper hsame (hserves.trans howned.symm) (htarget ▸ hc') hctype hstatus
    rw [hkeeps] at this
    cases this

/-! ## One round -/

/-- What a round writes before its call for asset `id`: counts, and relations to `id`. -/
structure Ingestor.Alike (id : Nat) (st t : Ingestor J) : Prop where
  assets : t.rows.assets.map (fun a => (a.key, a.status)) = st.rows.assets.map fun a => (a.key, a.status)
  relation : ∀ (q : Nat) (rel : RelationRow J), st.rows.relations[q]? = some rel →
    rel.targetAssetId ≠ id → t.rows.relations[q]? = some rel
  findings : t.rows.findings = st.rows.findings
  observed : t.observed = st.observed
  deactivated : t.deactivated = st.deactivated

lemma Ingestor.Alike.refl (st : Ingestor J) : st.Alike id st := ⟨rfl, fun _ _ h _ => h, rfl, rfl, rfl⟩

lemma Ingestor.Alike.trans {u : Ingestor J} (h₁ : st.Alike id t) (h₂ : t.Alike id u) : st.Alike id u where
  assets := h₂.assets.trans h₁.assets
  relation q rel hrel hne := h₂.relation q rel (h₁.relation q rel hrel hne) hne
  findings := h₂.findings.trans h₁.findings
  observed := h₂.observed.trans h₁.observed
  deactivated := h₂.deactivated.trans h₁.deactivated

lemma Ingestor.Alike.missedOnce (st : Ingestor J) (i : Nat) : st.Alike i (st.setAsset i AssetRow.missedOnce) :=
  ⟨map_modify_same _ AssetRow.missedOnce (fun _ => rfl) _ _, fun _ _ h _ => h, rfl, rfl, rfl⟩

lemma Ingestor.Alike.scanned (st : Ingestor J) (i : Nat) (now : Int) :
    st.Alike i (st.setAsset i (AssetRow.scanned now)) :=
  ⟨map_modify_same _ (AssetRow.scanned now) (fun _ => rfl) _ _, fun _ _ h _ => h, rfl, rfl, rfl⟩

lemma Ingestor.Alike.setRelation {r : Nat} {rel : RelationRow J}
    (hrel : st.rows.relations[r]? = some rel) (f : RelationRow J → RelationRow J) :
    st.Alike rel.targetAssetId (st.setRelation r f) := by
  refine ⟨rfl, ?_, rfl, rfl, rfl⟩
  intro q rel' hrel' hne
  rw [setRelation_relations, getElem?_modify_map, hrel', map_some, if_neg]
  rintro rfl
  rw [hrel] at hrel'
  cases hrel'
  exact hne rfl

lemma Ingestor.Alike.closings (h : st.Alike id t) (items : List Item) :
    st.Alike id { t with closings := items } := { h with }

section Alike

variable (h : st.Alike id t)
include h

lemma Ingestor.Alike.asset_after {i : Nat} {a : AssetRow J} (ha : st.rows.assets[i]? = some a) :
    ∃ b, t.rows.assets[i]? = some b ∧ b.key = a.key ∧ b.status = a.status := by
  have hi := congrArg (·[i]?) h.assets
  simp only [getElem?_map, ha, map_some] at hi
  obtain ⟨b, hb, heq⟩ := map_eq_some_iff.1 hi
  exact ⟨b, hb, congrArg Prod.fst heq, congrArg Prod.snd heq⟩

lemma Ingestor.Alike.closed (hc : st.Closed) : t.Closed := by
  intro i hi b hb
  have hrow := congrArg (·[i]?) h.assets
  simp only [getElem?_map, hb, map_some] at hrow
  obtain ⟨a, ha, heq⟩ := map_eq_some_iff.1 hrow.symm
  exact (congrArg Prod.snd heq).symm.trans (hc i (h.deactivated ▸ hi) a ha)

lemma Ingestor.Alike.resolved (hr : st.Resolved) : t.Resolved := by
  unfold Ingestor.Resolved
  rw [h.findings, h.deactivated]
  exact hr

lemma Ingestor.Alike.retires : st.Retires t := by
  rintro i ⟨a, a', ha, hactive, ha', hinactive⟩
  obtain ⟨b, hb, _, hstatus⟩ := h.asset_after ha
  rw [hb, some_inj] at ha'
  rw [← ha', hstatus, hactive] at hinactive
  cases hinactive

/-- What is owned stays owned, but for the relations to `id`. -/
lemma Ingestor.Alike.owns {r : Nat} {rel : RelationRow J} {c : AssetRow J}
    (howns : st.rows.Owns r rel c) (hne : rel.targetAssetId ≠ id) :
    ∃ c', t.rows.Owns r rel c' ∧ c'.key = c.key ∧ c'.status = c.status := by
  obtain ⟨c', hc', hkey, hstatus⟩ := h.asset_after howns.child
  obtain ⟨p, hp, hkind⟩ := howns.owner
  obtain ⟨p', hp', hpkey, _⟩ := h.asset_after hp
  have hctype : c'.assetType = c.assetType := congrArg Prod.fst hkey
  have hptype : p'.assetType = p.assetType := congrArg Prod.fst hpkey
  exact ⟨c', ⟨h.relation r rel howns.relation hne, hc', p', hp', hctype ▸ hptype ▸ hkind⟩, hkey, hstatus⟩

lemma Ingestor.Alike.call (T : Tables J) (ctx : IngestContext) (hc : st.Closed) (hr : st.Resolved) :
    st.Retires (t.deactivate ctx.now cascadeDepth id) := by
  cases hrow : t.rows.assets[id]? with
  | none =>
    have hskip : t.deactivate ctx.now cascadeDepth id = t := by
      simp [cascadeDepth, Ingestor.deactivate, hrow]
    rw [hskip]
    exact h.retires
  | some b =>
  cases hstatus : b.status with
  | inactive =>
    rw [deactivate_closed hrow hstatus]
    exact h.retires
  | active =>
    have hdeact : Deactivated T ctx [] t id (t.deactivate ctx.now cascadeDepth id) :=
      deactivate_steps 2 (h.closed hc) hrow hstatus (ownRank_le _)
    rintro i ⟨a, a', ha, hactive, ha', hinactive⟩
    obtain ⟨a₁, ha₁, _, hstatus₁⟩ := h.asset_after ha
    have hret := hdeact.retires (h.closed hc) (h.resolved hr) i
      ⟨a₁, a', ha₁, hstatus₁.trans hactive, ha', hinactive⟩
    refine ⟨hret.resolved, ?_⟩
    intro r rel c howns hsrc hlive hcactive
    by_cases htarget : rel.targetAssetId = id
    · -- the relation leads to the asset of the call itself
      obtain ⟨es, hes, _⟩ := hdeact.steps
      have hroot : (t.closeAsset ctx.now id).rows.assets[id]? = some (b.closed ctx.now) := by
        rw [closeAsset_assets, getElem?_modify_map, hrow, map_some, if_pos rfl]
      obtain ⟨b', hb', hbb⟩ := (Onward.of_steps hes).asset_after hroot
      exact .inl ⟨b', htarget ▸ hb', hbb.closed rfl⟩
    · obtain ⟨c', howns', hkey, hcstatus⟩ := h.owns howns htarget
      have hctype : c'.assetType = c.assetType := congrArg Prod.fst hkey
      have hchild := hret.children r rel c' howns' hsrc hlive (hcstatus.trans hcactive)
      rw [hkey, hctype, h.observed] at hchild
      exact hchild

lemma Ingestor.Alike.missed (T : Tables J) (ctx : IngestContext) (hc : st.Closed) (hr : st.Resolved) :
    st.Retires (t.missed ctx id) := by
  unfold Ingestor.missed
  split
  · exact h.retires
  split
  · exact h.retires
  simp only
  have hcounted : st.Alike id (t.setAsset id AssetRow.missedOnce) := h.trans (.missedOnce t id)
  split
  · exact (hcounted.closings _).call T ctx hc hr
  · exact hcounted.retires

end Alike

lemma missRelation_retires (T : Tables J) (ctx : IngestContext) (hc : st.Closed) (hr : st.Resolved)
    (r : Nat) : st.Retires (st.missRelation ctx r) := by
  unfold Ingestor.missRelation
  split
  · exact Ingestor.Retires.refl st
  next rel hrel =>
  split
  · exact Ingestor.Retires.refl st
  next child hchild =>
  have hcounted : st.Alike rel.targetAssetId (st.setRelation r RelationRow.missedOnce) :=
    .setRelation hrel _
  have hrow : (st.setRelation r RelationRow.missedOnce).rows.relations[r]? = some rel.missedOnce := by
    rw [setRelation_relations, getElem?_modify_map, hrel, map_some, if_pos rfl]
  have hshut : st.Alike rel.targetAssetId
      ((st.setRelation r RelationRow.missedOnce).closeRelation r) :=
    hcounted.trans (.setRelation hrow _)
  simp only
  -- an address that leaves is not of a type that is missed with its relation
  by_cases hlive : child.assetType ∈ livenessTypes
  · have hstays : ∀ u : Ingestor J, u.addressLeft rel child = false := by
      intro u
      have hno : child.assetType ≠ .ipAddress := by
        intro h
        rw [h] at hlive
        exact absurd hlive (by decide)
      simp [Ingestor.addressLeft, hno]
    rw [if_pos hlive, hstays]
    split
    · exact (hshut.closings _).missed T ctx hc hr
    · exact hcounted.missed T ctx hc hr
  · rw [if_neg hlive]
    split
    · split
      · exact (hshut.closings _).call T ctx hc hr
      · exact (hshut.closings _).retires
    · exact hcounted.retires

/-- The rounds of the loops over coverage. -/
inductive Round
  | scanned (id : Nat)
  | missed (id : Nat)
  | relation (r : Nat)
  | findings (cov : FindingCoverage)

def Round.run (T : Tables J) (ctx : IngestContext) (seen : List Nat) (st : Ingestor J) : Round → Ingestor J
  | .scanned id => st.setAsset id (AssetRow.scanned ctx.now)
  | .missed id => st.missed ctx id
  | .relation r => st.missRelation ctx r
  | .findings cov => st.applyFindingCoverage T ctx seen cov

/-- **A round.**  What it closes is retired. -/
theorem Round.retires (hc : st.Closed) (hr : st.Resolved) (x : Round) : st.Retires (x.run T ctx seen st) := by
  cases x with
  | scanned id => exact (Ingestor.Alike.scanned st id ctx.now).retires
  | missed id => exact (Ingestor.Alike.refl st).missed T ctx hc hr
  | relation r => exact missRelation_retires T ctx hc hr r
  | findings cov => exact fun i hcloses => absurd hcloses (Rows.Closes.irrefl st.rows i)

lemma Round.passes (hs : st.Settled) (x : Round) :
    ∃ price, Passes T ctx seen st price (x.run T ctx seen st) := by
  cases x with
  | scanned id => exact ⟨_, Passes.single hs .scanned rfl⟩
  | missed id => exact ⟨_, missed_passes hs id⟩
  | relation r => exact ⟨_, missRelation_passes hs r⟩
  | findings cov => exact ⟨_, Passes.single hs (.findings cov) rfl⟩

lemma Round.keeps (rounds : List Round) (T : Tables J) (ctx : IngestContext) (seen : List Nat)
    (hs : st.Settled) (hr : st.Resolved) :
    (rounds.foldl (Round.run T ctx seen) st).Settled ∧ (rounds.foldl (Round.run T ctx seen) st).Resolved := by
  induction rounds generalizing st with
  | nil => exact ⟨hs, hr⟩
  | cons x rounds ih =>
    obtain ⟨price, hpass⟩ : ∃ price, Passes T ctx seen st price (x.run T ctx seen st) := x.passes hs
    obtain ⟨es, hes, _⟩ := hpass.steps
    exact ih hpass.settled (hr.steps hes)

/-! ## Whole ingests -/

/-- `st'` is reached from `st` by rounds. -/
def ByRounds (T : Tables J) (ctx : IngestContext) (seen : List Nat) (st st' : Ingestor J) : Prop :=
  ∃ rounds : List Round, st' = rounds.foldl (Round.run T ctx seen) st

lemma ByRounds.refl (st : Ingestor J) : ByRounds T ctx seen st st := ⟨[], rfl⟩

lemma ByRounds.trans (h₁ : ByRounds T ctx seen st t) (h₂ : ByRounds T ctx seen t st') :
    ByRounds T ctx seen st st' := by
  obtain ⟨xs, rfl⟩ := h₁
  obtain ⟨ys, rfl⟩ := h₂
  exact ⟨xs ++ ys, foldl_append.symm⟩

lemma ByRounds.foldl {α : Type} {f : Ingestor J → α → Ingestor J}
    (h : ∀ t x, ByRounds T ctx seen t (f t x)) (l : List α) (st : Ingestor J) :
    ByRounds T ctx seen st (l.foldl f st) := by
  induction l generalizing st with
  | nil => exact .refl st
  | cons x l ih => exact (h st x).trans (ih _)

lemma ByRounds.foldlM {α : Type} {f : Ingestor J → α → Option (Ingestor J)}
    (h : ∀ t x t', f t x = some t' → ByRounds T ctx seen t t') {l : List α}
    (hrun : l.foldlM f st = some st') : ByRounds T ctx seen st st' := by
  induction l generalizing st with
  | nil =>
    cases hrun
    exact .refl _
  | cons x l ih =>
    rw [foldlM_cons, bind_eq_bind, bind_eq_some_iff] at hrun
    obtain ⟨t, hround, hrun⟩ := hrun
    exact (h st x t hround).trans (ih hrun)

lemma applyRelationCoverage_rounds {cov : RelationCoverage}
    (hrun : st.applyRelationCoverage T ctx cov = some st') : ByRounds T ctx seen st st' := by
  unfold Ingestor.applyRelationCoverage at hrun
  split at hrun
  · cases hrun
  next parents _ =>
  have hscan : ByRounds T ctx seen st (st.scanned ctx parents) :=
    ByRounds.foldl (fun _ id => ⟨[.scanned id], rfl⟩) parents st
  refine hscan.trans (ByRounds.foldlM ?_ hrun)
  intro t ps t' hparents
  rw [Ingestor.missParents, map_eq_some_iff] at hparents
  obtain ⟨misses, _, rfl⟩ := hparents
  exact ByRounds.foldl (fun _ r => ⟨[.relation r], rfl⟩) misses t

lemma coverage_rounds {coverage : List Coverage}
    (hrun : coverage.foldlM (Ingestor.applyCoverage T ctx seen) st = some st') :
    ByRounds T ctx seen st st' := by
  refine ByRounds.foldlM ?_ hrun
  intro t cov t' hround
  cases cov with
  | liveness cov =>
    cases hround
    exact ByRounds.foldl (fun _ id => ⟨[.scanned id, .missed id], rfl⟩) _ t
  | relation cov => exact applyRelationCoverage_rounds hround
  | finding cov =>
    cases hround
    exact ⟨[.findings cov], rfl⟩

/-- An ingest is observing, which closes nothing, and then rounds, and each asset that a round
closes is retired right after it. -/
def Applied.Retires (a : Applied T) : Prop :=
  let observed := observe T a.ctx a.before a.result
  (∀ id, ¬a.before.Closes observed.1.rows id) ∧
  ∃ rounds : List Round, a.after = rounds.foldl (Round.run T a.ctx observed.2) observed.1 ∧
    ∀ done x left, rounds = done ++ x :: left →
      let st := done.foldl (Round.run T a.ctx observed.2) observed.1
      st.Retires (x.run T a.ctx observed.2 st)

lemma Applied.retires (a : Applied T) (hv : a.before.Valid) : a.Retires := by
  have hsight : Sighted a.ctx a.before (observe T a.ctx a.before a.result).2
      (observe T a.ctx a.before a.result).1 := observe_sighted hv a.result
  refine ⟨?_, ?_⟩
  · rintro id ⟨row, row', hrow, hactive, hrow', hinactive⟩
    obtain ⟨row₁, hrow₁, hs⟩ := hsight.asset_old id row hrow
    rw [hrow', some_inj] at hrow₁
    subst hrow₁
    by_cases hkept : a.ctx.historical = true ∨ row.key ∉ (observe T a.ctx a.before a.result).1.observed
    · rw [(hs.kept hkept).status, hactive] at hinactive
      cases hinactive
    rw [not_or, not_not, Bool.not_eq_true] at hkept
    rw [(hs.live hkept.1 hkept.2).1] at hinactive
    cases hinactive
  · obtain ⟨rounds, hrounds⟩ := coverage_rounds a.run
    refine ⟨rounds, hrounds, fun done x left _ => ?_⟩
    have hstart : (observe T a.ctx a.before a.result).1.Resolved := by
      intro id hid
      rw [hsight.deactivated] at hid
      cases hid
    obtain ⟨hs, hr⟩ := Round.keeps done T a.ctx (observe T a.ctx a.before a.result).2
      hsight.settled hstart
    exact x.retires hs.closed hr

end App.Assets
