import AttackSurface.Assets.Effects

/-!
# The cascade (`Ingestor._deactivate`)

Deactivating an asset is closing it and then steps that close what it owned.  None of
them counts a miss, the depth given suffices, and afterwards no active child is left
behind an active relation (`Swept`):

    deactivate_steps : closeAsset id, then `disowned` and `orphaned` steps; all that was
                       closed is swept
-/

namespace App.Assets

open AsmSensors App.Scans App.Findings Machines List Option

variable {J : Type} {T : Tables J} {ctx : IngestContext} {seen : List Nat}
  {st st' t t' : Ingestor J}

def Ingestor.Closed (st : Ingestor J) : Prop :=
  ∀ id ∈ st.deactivated, ∀ a, st.rows.assets[id]? = some a → a.status = .inactive

lemma Event.closed_onAsset {now : Int} {e : Event} {i : Nat} (h : i ∈ e.closes) (a : AssetRow J) :
    (e.onAsset now i a).status = .inactive := by
  cases e <;> simp only [Event.closes, mem_singleton, not_mem_nil] at h <;>
    subst h <;> simp [Event.onAsset, AssetRow.closed]

lemma Touch.closed {e : Event} (h : Touch T ctx seen st e st') (hc : st.Closed) : st'.Closed := by
  intro id hid a ha
  rw [h.asset, map_eq_some_iff] at ha
  obtain ⟨b, hb, rfl⟩ := ha
  rw [h.deactivated, mem_append] at hid
  rcases hid with hid | hid
  · exact Event.closed_onAsset hid b
  · exact (e.onAsset_onward ctx.now id b).closed (hc id hid b hb)

lemma Ingestor.Closed.steps {es : List Event} (hc : st.Closed)
    (h : Steps (Touch T ctx seen) st es st') : st'.Closed :=
  h.preserves Ingestor.Closed (fun _ _ _ hc h => h.closed hc) hc

def Rows.Swept (rows : Rows J) (id : Nat) (kind : RelationType × AssetType) : Prop :=
  ∀ (r : Nat) (rel : RelationRow J) (c : AssetRow J), rows.relations[r]? = some rel →
    rel.sourceAssetId = id → rel.relationType = kind.1 →
    rows.assets[rel.targetAssetId]? = some c → c.assetType = kind.2 → c.status = .active →
    rel.active = false

lemma Onward.swept (h : Onward st st') {id : Nat} {kind : RelationType × AssetType}
    (hs : st.rows.Swept id kind) : st'.rows.Swept id kind := by
  intro r rel' c' hrel' hsrc htype hc' hctype hactive
  obtain ⟨rel, hrel, hr⟩ := h.relation_before hrel'
  obtain ⟨c, hc, hcc⟩ := h.asset_before hc'
  refine hr.closed (hs r rel c hrel ?_ ?_ ?_ ?_ (hcc.active hactive))
  · rw [← hr.source, hsrc]
  · rw [← hr.type, htype]
  · rw [← hr.target, hc]
  · rw [← hcc.type, hctype]

/-- What the cascade closed between `st` and `st'` is swept. -/
def SweptSince (st st' : Ingestor J) : Prop :=
  ∀ id ∈ st'.deactivated, id ∉ st.deactivated → ∀ a, st'.rows.assets[id]? = some a →
    ∀ kind ∈ ownedChildren a.assetType, st'.rows.Swept id kind

lemma SweptSince.refl (st : Ingestor J) : SweptSince st st := fun _ h h' => absurd h h'

lemma SweptSince.trans (h₁ : SweptSince st t) (h₂ : SweptSince t t') (ho : Onward t t') : SweptSince st t' := by
  intro id hid hnew a' ha' kind hkind
  by_cases hmem : id ∈ t.deactivated
  · obtain ⟨a, ha, haa⟩ := ho.asset_before ha'
    exact ho.swept (h₁ id hmem hnew a ha kind (haa.type ▸ hkind))
  · exact h₂ id hid hmem a' ha' kind hkind

/-- Relation `r` is active and starts from an asset that is already closed. -/
def Ingestor.Pending (st : Ingestor J) (r : Nat) : Prop :=
  ∃ rel, st.rows.relations[r]? = some rel ∧ rel.active = true ∧ rel.sourceAssetId ∈ st.deactivated

/-- What a call of `_deactivate` does to an active asset. -/
structure Deactivated (T : Tables J) (ctx : IngestContext) (seen : List Nat) (st : Ingestor J)
    (id : Nat) (st' : Ingestor J) : Prop where
  steps : ∃ es, Steps (Touch T ctx seen) (st.closeAsset ctx.now id) es st' ∧ es.flatMap Event.misses = []
  swept : SweptSince st st'
  -- the relations of other calls that are still open are left to them
  pending : ∀ r, st.Pending r → st'.Pending r

/-- What the loop over some of an asset's relations does. -/
structure Disowned (T : Tables J) (ctx : IngestContext) (seen : List Nat) (rs : List Nat)
    (st st' : Ingestor J) : Prop where
  steps : ∃ es, Steps (Touch T ctx seen) st es st' ∧ es.flatMap Event.misses = []
  swept : SweptSince st st'
  closed : ∀ r ∈ rs, ∀ rel, st'.rows.relations[r]? = some rel → rel.active = false
  pending : ∀ r ∉ rs, st.Pending r → st'.Pending r

lemma Disowned.nil (st : Ingestor J) : Disowned T ctx seen [] st st :=
  ⟨⟨[], .nil, rfl⟩, SweptSince.refl st, by simp, fun _ _ h => h⟩

lemma Disowned.onward {rs : List Nat} (h : Disowned T ctx seen rs st st') : Onward st st' := by
  obtain ⟨es, hes, _⟩ := h.steps
  exact Onward.of_steps hes

lemma Disowned.append {rs qs : List Nat} (h₁ : Disowned T ctx seen rs st t)
    (h₂ : Disowned T ctx seen qs t t') : Disowned T ctx seen (rs ++ qs) st t' := by
  refine ⟨?_, h₁.swept.trans h₂.swept h₂.onward, ?_, ?_⟩
  · obtain ⟨es, hes, hm⟩ := h₁.steps
    obtain ⟨fs, hfs, hm'⟩ := h₂.steps
    exact ⟨es ++ fs, hes.trans hfs, by rw [flatMap_append, hm, hm', append_nil]⟩
  · intro r hr rel' hrel'
    rcases mem_append.1 hr with hr | hr
    · obtain ⟨rel, hrel, hrr⟩ := h₂.onward.relation_before hrel'
      exact hrr.closed (h₁.closed r hr rel hrel)
    · exact h₂.closed r hr rel' hrel'
  · intro r hr hpend
    rw [mem_append, not_or] at hr
    exact h₂.pending r hr.2 (h₁.pending r hr.1 hpend)

/-! ## One round, the loop, the recursion -/

section Rounds

variable {deactivate : Ingestor J → Nat → Ingestor J} {id : Nat} {rank : Nat}
  -- the recursive call does nothing for a closed asset, and closes an active one
  (hskip : ∀ st id a, st.rows.assets[id]? = some a → a.status = .inactive → deactivate st id = st)
  (hrec : ∀ st id a, st.Closed → st.rows.assets[id]? = some a → a.status = .active →
    ownRank a.assetType < rank → Deactivated T ctx seen st id (deactivate st id))

include hskip hrec

lemma disown_steps {r : Nat} {rel : RelationRow J} {c : AssetRow J} (hclosed : st.Closed)
    (hmem : rel.sourceAssetId ∈ st.deactivated) (howns : st.rows.Owns r rel c)
    (hlive : rel.active = true) (hrank : ownRank c.assetType < rank) :
    Disowned T ctx seen [r] st (st.disown deactivate rel.sourceAssetId r) := by
  have hshut : ∀ rel', (st.closeRelation r).rows.relations[r]? = some rel' → rel'.active = false := by
    intro rel' h
    rw [closeRelation_eq, setRelation_relations, getElem?_modify_map, howns.relation] at h
    cases h
    simp [RelationRow.closed]
  have hchild : (st.closeRelation r).rows.assets[rel.targetAssetId]? = some c := howns.child
  have hother : ∀ r', r' ∉ [r] → st.Pending r' → (st.closeRelation r).Pending r' := by
    intro r' hne hpending
    obtain ⟨rel', hrel', hactive, hsrc⟩ := hpending
    refine ⟨rel', ?_, hactive, hsrc⟩
    rw [closeRelation_eq, setRelation_relations, getElem?_modify_map, hrel', map_some,
      if_neg fun h => hne (by simp [h])]
  -- the target stays: one step
  have hstay : ∀ stays, Disowned T ctx seen [r] st (st.closeRelation r) := fun stays =>
    ⟨⟨[.disowned r], .single (.disowned howns hlive hmem stays), rfl⟩, fun _ h h' => absurd h h',
      by simpa using hshut, hother⟩
  unfold Ingestor.disown
  rw [howns.relation]
  simp only
  split
  · next h =>
    rw [Ingestor.childStays, hchild, any_some, Bool.or_eq_true, Bool.and_eq_true,
      decide_eq_true_eq, decide_eq_true_eq] at h
    exact hstay (h.imp_right .inr)
  · next h =>
    rw [Ingestor.childStays, hchild, any_some, Bool.or_eq_true, Bool.and_eq_true,
      decide_eq_true_eq, decide_eq_true_eq, not_or, not_and, Bool.not_eq_true] at h
    cases hstatus : c.status with
    | inactive =>
      rw [hskip _ _ c hchild hstatus]
      exact hstay (.inr (.inl hstatus))
    | active =>
      have horph : Touch T ctx seen st (.orphaned r rel.targetAssetId)
          ((st.closeRelation r).closeAsset ctx.now rel.targetAssetId) :=
        .orphaned howns hlive hmem h.1 hstatus h.2
      obtain ⟨⟨es, hes, hm⟩, hswept, hpend⟩ := hrec (st.closeRelation r) _ c
        (fun i hi a ha => hclosed i hi a ha) hchild hstatus hrank
      refine ⟨⟨_, .cons horph hes, by simpa [Event.misses] using hm⟩, hswept, ?_,
        fun r' hr' h => hpend r' (hother r' hr' h)⟩
      intro r' hr' rel' hrel'
      rw [mem_singleton] at hr'
      subst hr'
      obtain ⟨rel₁, hrel₁, hrr⟩ := (Onward.of_steps hes).relation_before hrel'
      exact hrr.closed (hshut rel₁ hrel₁)

lemma disownAll_steps (rs : List Nat) (hnodup : rs.Nodup) (hclosed : st.Closed) (hmem : id ∈ st.deactivated)
    (hrs : ∀ r ∈ rs, ∃ rel c, st.rows.Owns r rel c ∧ rel.active = true ∧ rel.sourceAssetId = id ∧
      ownRank c.assetType < rank) :
    Disowned T ctx seen rs st (rs.foldl (Ingestor.disown deactivate id) st) := by
  induction rs generalizing st with
  | nil => exact Disowned.nil st
  | cons r rs ih =>
    obtain ⟨rel, c, howns, hlive, hsrc, hrank⟩ := hrs r mem_cons_self
    have hround := disown_steps hskip hrec hclosed (hsrc ▸ hmem) howns hlive hrank
    rw [hsrc] at hround
    obtain ⟨es, hes, _⟩ := hround.steps
    refine hround.append (ih (nodup_cons.1 hnodup).2 (hclosed.steps hes)
      (hround.onward.deactivated hmem) ?_)
    intro r' hr'
    obtain ⟨rel, c, howns, hlive, hsrc, hrank⟩ := hrs r' (mem_cons_of_mem _ hr')
    obtain ⟨rel', c', howns', hr, hc⟩ := hround.onward.owns howns
    -- the round closed `r`, and nothing else that starts from `id`
    have hne : r' ∉ [r] := fun h =>
      (nodup_cons.1 hnodup).1 (mem_singleton.1 h ▸ hr')
    obtain ⟨rel₁, hrel₁, hlive', _⟩ := hround.pending r' hne ⟨rel, howns.relation, hlive, hsrc ▸ hmem⟩
    obtain rfl : rel' = rel₁ := some_inj.1 (howns'.relation.symm.trans hrel₁)
    exact ⟨rel', c', howns', hlive', hr.source.trans hsrc, by rwa [hc.type]⟩

lemma sweepKind_steps {a : AssetRow J} {kind : RelationType × AssetType} (hclosed : st.Closed)
    (hmem : id ∈ st.deactivated) (ha : st.rows.assets[id]? = some a)
    (hkind : kind ∈ ownedChildren a.assetType) (hrank : ownRank a.assetType ≤ rank)
    (ht : t = (st.rows.ownedRelations id kind).foldl (Ingestor.disown deactivate id) st) :
    Disowned T ctx seen (st.rows.ownedRelations id kind) st t ∧ t.rows.Swept id kind := by
  subst ht
  have hloop : Disowned T ctx seen (st.rows.ownedRelations id kind) st
      ((st.rows.ownedRelations id kind).foldl (Ingestor.disown deactivate id) st) := by
    refine disownAll_steps hskip hrec _ (nodup_range.filter _) hclosed hmem ?_
    intro r hr
    rw [Rows.ownedRelations, mem_idsWhere] at hr
    obtain ⟨rel, hrel, hp⟩ := hr
    simp only [Bool.and_eq_true, decide_eq_true_eq, Option.any_eq_true] at hp
    obtain ⟨⟨⟨hsrc, htype⟩, hlive⟩, c, hc, hctype, _⟩ := hp
    refine ⟨rel, c, ⟨hrel, hc, a, hsrc ▸ ha, ?_⟩, hlive, hsrc, ?_⟩
    · rw [htype, hctype]
      exact hkind
    · rw [hctype]
      exact (ownRank_lt hkind).trans_le hrank
  refine ⟨hloop, ?_⟩
  intro r rel' c' hrel' hsrc htype hc' hctype hactive
  obtain ⟨rel, hrel, hrr⟩ := hloop.onward.relation_before hrel'
  obtain ⟨c, hc, hcc⟩ := hloop.onward.asset_before hc'
  cases hact : rel.active with
  | false => exact hrr.closed hact
  | true =>
    -- the relation was in the list of the loop
    refine hloop.closed r ?_ rel' hrel'
    rw [Rows.ownedRelations, mem_idsWhere]
    refine ⟨rel, hrel, ?_⟩
    rw [hrr.target] at hc
    simp only [Bool.and_eq_true, decide_eq_true_eq, Option.any_eq_true]
    exact ⟨⟨⟨hrr.source ▸ hsrc, hrr.type ▸ htype⟩, hact⟩, c, hc, hcc.type ▸ hctype, hcc.active hactive⟩

lemma sweepKinds_steps (kinds : List (RelationType × AssetType)) {a : AssetRow J}
    (hclosed : st.Closed) (hmem : id ∈ st.deactivated) (ha : st.rows.assets[id]? = some a)
    (hkinds : kinds ⊆ ownedChildren a.assetType) (hrank : ownRank a.assetType ≤ rank)
    (ht : t = kinds.foldl (fun st kind =>
      (st.rows.ownedRelations id kind).foldl (Ingestor.disown deactivate id) st) st) :
    (∃ rs, (∀ r ∈ rs, ∀ rel, st.rows.relations[r]? = some rel → rel.sourceAssetId = id) ∧
      Disowned T ctx seen rs st t) ∧ ∀ kind ∈ kinds, t.rows.Swept id kind := by
  induction kinds generalizing st a with
  | nil =>
    subst ht
    exact ⟨⟨[], by simp, Disowned.nil _⟩, by simp⟩
  | cons kind kinds ih =>
    obtain ⟨hfirst, hswept⟩ := sweepKind_steps hskip hrec hclosed hmem ha
      (hkinds mem_cons_self) hrank rfl
    obtain ⟨es, hes, _⟩ := hfirst.steps
    obtain ⟨a', ha', haa⟩ := hfirst.onward.asset_after ha
    obtain ⟨⟨rs, hrs, hrest⟩, hswept'⟩ := ih (hclosed.steps hes) (hfirst.onward.deactivated hmem) ha'
      (fun k hk => haa.type ▸ hkinds (mem_cons_of_mem _ hk)) (haa.type ▸ hrank) ht
    refine ⟨⟨_, ?_, hfirst.append hrest⟩, ?_⟩
    · intro r hr rel hrel
      rcases mem_append.1 hr with hr | hr
      · rw [Rows.ownedRelations, mem_idsWhere] at hr
        obtain ⟨rel₁, hrel₁, hp⟩ := hr
        obtain rfl : rel = rel₁ := some_inj.1 (hrel.symm.trans hrel₁)
        simp only [Bool.and_eq_true, decide_eq_true_eq] at hp
        exact hp.1.1.1
      · obtain ⟨rel', hrel', hrr⟩ := hfirst.onward.relation_after hrel
        exact hrr.source.symm.trans (hrs r hr rel' hrel')
    intro k hk
    rcases mem_cons.1 hk with rfl | hk
    · exact hrest.onward.swept hswept
    · exact hswept' k hk

end Rounds

lemma deactivate_closed {now : Int} {depth id : Nat} {a : AssetRow J}
    (ha : st.rows.assets[id]? = some a) (hstatus : a.status = .inactive) :
    st.deactivate now depth id = st := by
  cases depth with
  | zero => rfl
  | succ depth => simp [Ingestor.deactivate, ha, hstatus]

/-- **The cascade.**  An active asset is closed, and then what it owned, as deep as it goes. -/
theorem deactivate_steps (depth : Nat) {id : Nat} {a : AssetRow J} (hclosed : st.Closed)
    (ha : st.rows.assets[id]? = some a) (hactive : a.status = .active)
    (hrank : ownRank a.assetType ≤ depth) :
    Deactivated T ctx seen st id (st.deactivate ctx.now (depth + 1) id) := by
  induction depth using Nat.strong_induction_on generalizing st id a with
  | _ depth ih =>
  have hnew : id ∉ st.deactivated := by
    intro hmem
    rw [hclosed id hmem a ha] at hactive
    cases hactive
  have hrow : (st.closeAsset ctx.now id).rows.assets[id]? = some (a.closed ctx.now) := by
    rw [closeAsset_assets, getElem?_modify_map, ha, map_some, if_pos rfl]
  have hclosed' : (st.closeAsset ctx.now id).Closed := by
    intro i hi b hb
    obtain ⟨b', hb', rfl⟩ := exists_of_modify hb
    split
    · rfl
    next hne =>
    rcases mem_cons.1 hi with rfl | hi
    · exact absurd rfl hne
    · exact hclosed i hi b' hb'
  have hrec : ∀ st id b, st.Closed → st.rows.assets[id]? = some b → b.status = .active →
      ownRank b.assetType < ownRank a.assetType →
      Deactivated T ctx seen st id (Ingestor.deactivate ctx.now depth st id) := by
    intro st id b hc hb hact hlt
    obtain ⟨d, rfl⟩ : ∃ d, depth = d + 1 := ⟨depth - 1, by omega⟩
    exact ih d (by omega) hc hb hact (by omega)
  have hbody : st.deactivate ctx.now (depth + 1) id = (ownedChildren a.assetType).foldl
      (fun st kind => (st.rows.ownedRelations id kind).foldl
        (Ingestor.disown (Ingestor.deactivate ctx.now depth) id) st) (st.closeAsset ctx.now id) := by
    simp [Ingestor.deactivate, ha, hactive, hnew]
  obtain ⟨⟨rs, hrs, hloop⟩, hswept⟩ := sweepKinds_steps (fun _ _ _ => deactivate_closed) hrec
    (ownedChildren a.assetType) hclosed' mem_cons_self hrow (Subset.refl _) le_rfl hbody
  refine ⟨hloop.steps, ?_, ?_⟩
  rotate_left
  · intro r ⟨rel, hrel, hlive, hsrc⟩
    refine hloop.pending r (fun hr => hnew ?_) ⟨rel, hrel, hlive, mem_cons_of_mem _ hsrc⟩
    exact hrs r hr rel hrel ▸ hsrc
  intro i hi hnew' b hb kind hkind
  by_cases hid : i = id
  · subst hid
    obtain ⟨b', hb', hbb⟩ := hloop.onward.asset_before hb
    rw [hrow] at hb'
    cases hb'
    exact hswept kind (hbb.type ▸ hkind)
  · exact hloop.swept i hi (by simp [hid, hnew']) b hb kind hkind

end App.Assets
