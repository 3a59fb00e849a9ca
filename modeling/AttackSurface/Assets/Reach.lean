import AttackSurface.Assets.Cascade

/-!
# What coverage reaches, and what is counted

`reach` lists the rows a coverage entry can count a miss for, once for each way it gets
there: an asset per name it is given, a relation per query that returns it, the target of
a relation with each such relation, a finding per filter it passes.  The list is made
from the rows as they were before any coverage was applied.

    the misses counted  ≤  what the coverage reaches, as multisets       (coverage_passes)
-/

namespace App.Assets

open PyText AsmSensors App.Scans App.Findings Machines List Option

variable {J : Type} {T : Tables J} {ctx : IngestContext} {seen : List Nat}
  {st st' : Ingestor J}

/-! ## The rows that are reached -/

/-- The misses that a covered relation can count: its own, and that of a target whose
liveness it shows. -/
def Rows.pathsOf (rows : Rows J) (r : Nat) : List Item :=
  match rows.relations[r]? with
  | none => []
  | some rel =>
    if rows.assets[rel.targetAssetId]?.any (fun c => decide (c.assetType ∈ livenessTypes)) then
      [.relation r, .asset rel.targetAssetId]
    else [.relation r]

def Ingestor.coveredRelations (T : Tables J) (st : Ingestor J) (cov : RelationCoverage) : List Nat :=
  (st.rows.coveredFrom cov
    (st.rows.parents T cov.parentType cov.parents cov.constraints.parentCidrs)).filter
      fun r => st.missesRelation T cov r == some true

def Ingestor.reach (T : Tables J) (ctx : IngestContext) (seen : List Nat) (st : Ingestor J) :
    Coverage → List Item
  | .liveness cov => (st.rows.namedParents T cov.assetType cov.values).map .asset
  | .relation cov => (st.coveredRelations T cov).flatMap st.rows.pathsOf
  | .finding cov =>
    (missedIds st.rows.findings (st.coveredAssets T ctx cov) ctx.source cov seen).map .finding

/-! ## What is reached does not grow -/

variable {α : Type} {cov : RelationCoverage} {t t' : Ingestor J}

lemma idsWhere_congr {l l' : List α} {p q : α → Bool} (hlen : l'.length = l.length)
    (h : ∀ i : Nat, l'[i]?.any q = l[i]?.any p) : idsWhere l' q = idsWhere l p := by
  unfold idsWhere
  rw [hlen]
  exact filter_congr fun i _ => h i

lemma nodup_idsWhere (l : List α) (p : α → Bool) : (idsWhere l p).Nodup := nodup_range.filter _

lemma AssetOnward.childPort {a a' : AssetRow J} (h : AssetOnward a a') : childPort T a' = childPort T a := by
  have hval : a'.normalizedValue = a.normalizedValue := congrArg Prod.snd h.key
  unfold App.Assets.childPort
  rw [h.type, h.metadata, hval]

lemma AssetOnward.inProbedPorts {p p' c c' : AssetRow J} (hp : AssetOnward p p') (hc : AssetOnward c c') :
    inProbedPorts T cov p' c' = inProbedPorts T cov p c := by
  unfold App.Assets.inProbedPorts
  rw [hc.childPort, hp.metadata]

section Onward

variable (h : Onward st st')
include h

lemma Onward.assets_length : st'.rows.assets.length = st.rows.assets.length := by
  refine le_antisymm ?_ ?_
  · obtain ⟨f, _, hrow⟩ := h.asset st.rows.assets.length
    rw [getElem?_eq_none le_rfl] at hrow
    exact List.getElem?_eq_none_iff.1 hrow
  obtain ⟨f, _, hrow⟩ := h.asset st'.rows.assets.length
  rw [getElem?_eq_none le_rfl] at hrow
  exact List.getElem?_eq_none_iff.1 (map_eq_none_iff.1 hrow.symm)

lemma Onward.any_asset {p q : AssetRow J → Bool} (hp : ∀ a a', AssetOnward a a' → q a' = p a)
    (i : Nat) : st'.rows.assets[i]?.any q = st.rows.assets[i]?.any p := by
  obtain ⟨f, hf, hrow⟩ := h.asset i
  rw [hrow]
  cases st.rows.assets[i]? with
  | none => rfl
  | some a => exact hp a (f a) (hf a)

lemma Onward.namedParents (t : ObservedType) (values : List Str) :
    st'.rows.namedParents T t values = st.rows.namedParents T t values := by
  unfold Rows.namedParents Rows.assetsByValue
  congr 1
  funext chunk
  refine idsWhere_congr h.assets_length (h.any_asset fun a a' haa => ?_)
  have hval : a'.normalizedValue = a.normalizedValue := congrArg Prod.snd haa.key
  rw [haa.type, hval]

lemma Onward.addressOf (id : Nat) : st'.rows.addressOf id = st.rows.addressOf id := by
  obtain ⟨f, hf, hrow⟩ := h.asset id
  unfold Rows.addressOf
  rw [hrow]
  cases st.rows.assets[id]? with
  | none => rfl
  | some a =>
    have hval : (f a).normalizedValue = a.normalizedValue := congrArg Prod.snd (hf a).key
    rw [map_some, bind_some, bind_some, hval]

lemma Onward.activeAddresses : st'.rows.activeAddresses ⊆ st.rows.activeAddresses := by
  intro id hid
  rw [Rows.activeAddresses, mem_idsWhere] at hid ⊢
  obtain ⟨a', ha', hp⟩ := hid
  obtain ⟨a, ha, haa⟩ := h.asset_before ha'
  rw [decide_eq_true_eq] at hp
  exact ⟨a, ha, decide_eq_true ⟨haa.type ▸ hp.1, haa.active hp.2⟩⟩

lemma Onward.parents (t : ObservedType) (values cidrs : List Str) :
    st'.rows.parents T t values cidrs ⊆ st.rows.parents T t values cidrs := by
  intro id hid
  simp only [Rows.parents, h.namedParents, h.addressOf, mem_append, mem_filter] at hid ⊢
  exact hid.imp_right fun h' => ⟨h.activeAddresses h'.1, h'.2⟩

lemma Onward.coveredFrom {cov : RelationCoverage} {ps qs : List Nat} (hps : ps ⊆ qs) :
    st'.rows.coveredFrom cov ps ⊆ st.rows.coveredFrom cov qs := by
  intro r hr
  rw [Rows.coveredFrom, mem_idsWhere] at hr ⊢
  obtain ⟨rel', hrel', hp⟩ := hr
  obtain ⟨rel, hrel, hrr⟩ := h.relation_before hrel'
  have hany : st'.rows.assets[rel.targetAssetId]?.any
      (fun c => decide (c.assetType ∈ assetTypesOf cov.childType)) =
      st.rows.assets[rel.targetAssetId]?.any
        fun c => decide (c.assetType ∈ assetTypesOf cov.childType) :=
    h.any_asset (fun a a' haa => by rw [haa.type]) _
  simp only [Bool.and_eq_true, decide_eq_true_eq] at hp ⊢
  rw [hrr.source, hrr.type, hrr.target, hany] at hp
  exact ⟨rel, hrel, ⟨⟨hps hp.1.1.1, hp.1.1.2⟩, hrr.active hp.1.2⟩, hp.2⟩

lemma Onward.missesRelation (cov : RelationCoverage) (r : Nat) :
    st'.missesRelation T cov r = st.missesRelation T cov r := by
  obtain ⟨f, hf, hrow⟩ := h.relation r
  unfold Ingestor.missesRelation
  rw [hrow]
  cases st.rows.relations[r]? with
  | none => rfl
  | some rel =>
    obtain ⟨g, hg, hparent⟩ := h.asset rel.sourceAssetId
    obtain ⟨k, hk, hchild⟩ := h.asset rel.targetAssetId
    rw [map_some]
    simp only [(hf rel).key, (hf rel).source, (hf rel).target, h.observedRels, hparent, hchild]
    split
    · rfl
    cases st.rows.assets[rel.sourceAssetId]? with
    | none => rfl
    | some p =>
      cases st.rows.assets[rel.targetAssetId]? with
      | none => rfl
      | some c => exact (hg p).inProbedPorts (hk c)

lemma Onward.pathsOf (r : Nat) : st'.rows.pathsOf r = st.rows.pathsOf r := by
  obtain ⟨f, hf, hrow⟩ := h.relation r
  unfold Rows.pathsOf
  rw [hrow]
  cases st.rows.relations[r]? with
  | none => rfl
  | some rel =>
    have hany : st'.rows.assets[rel.targetAssetId]?.any
        (fun c => decide (c.assetType ∈ livenessTypes)) =
        st.rows.assets[rel.targetAssetId]?.any fun c => decide (c.assetType ∈ livenessTypes) :=
      h.any_asset (fun a a' haa => by rw [haa.type]) _
    rw [map_some]
    simp only [(hf rel).target, hany]

lemma Onward.assetKeys : st'.rows.assets.map AssetRow.key = st.rows.assets.map AssetRow.key := by
  refine ext_getElem? fun i => ?_
  obtain ⟨f, hf, hrow⟩ := h.asset i
  rw [getElem?_map, getElem?_map, hrow, Option.map_map]
  exact congrArg (Option.map · _) (funext fun a => (hf a).key)

lemma Onward.assetId (key : AKey) : st'.rows.assetId key = st.rows.assetId key := by
  have hidx : ∀ rows : Rows J, rows.assetId key = (rows.assets.map AssetRow.key).findIdx? (· = key) := by
    intro rows
    rw [findIdx?_map]
    rfl
  rw [hidx, hidx, h.assetKeys]

lemma Onward.coveredAssets (cov : FindingCoverage) :
    st'.coveredAssets T ctx cov = st.coveredAssets T ctx cov := by
  unfold Ingestor.coveredAssets
  congr 1
  funext key
  exact h.assetId key

lemma Onward.missedIds (assetIds : List Nat) (source : Str) (cov : FindingCoverage) :
    missedIds st'.rows.findings assetIds source cov seen ⊆
      missedIds st.rows.findings assetIds source cov seen := by
  intro i hi
  rw [App.Findings.missedIds, mem_filter, mem_range, Option.any_eq_true] at hi ⊢
  obtain ⟨-, f', hf', hmiss⟩ := hi
  obtain ⟨f, hf, hff⟩ := h.finding_before hf'
  refine ⟨(List.getElem?_eq_some_iff.1 hf).1, f, hf, ?_⟩
  simp only [unobserved, Bool.and_eq_true] at hmiss ⊢
  obtain ⟨⟨⟨⟨hasset, hsource⟩, hopen⟩, hseen⟩, hfilter⟩ := hmiss
  exact ⟨⟨⟨⟨hff.assetId ▸ hasset, hff.source ▸ hsource⟩, hff.isOpen hopen ▸ hopen⟩, hseen⟩,
    hff.filter cov ▸ hfilter⟩

lemma Onward.coveredRelations {cov : RelationCoverage} {ps : List Nat} {r : Nat}
    (hps : ps ⊆ st.rows.parents T cov.parentType cov.parents cov.constraints.parentCidrs)
    (hr : r ∈ st'.rows.coveredFrom cov ps) (hmiss : st'.missesRelation T cov r = some true) :
    r ∈ st.coveredRelations T cov := by
  rw [Ingestor.coveredRelations, mem_filter, ← h.missesRelation, hmiss]
  exact ⟨h.coveredFrom hps hr, rfl⟩

end Onward

/-! ## The passes as steps -/

/-- Between two passes: what was closed is closed for good, with what it owned. -/
structure Ingestor.Settled (st : Ingestor J) : Prop where
  closed : st.Closed
  swept : ∀ id ∈ st.deactivated, ∀ a, st.rows.assets[id]? = some a →
    ∀ kind ∈ ownedChildren a.assetType, st.rows.Swept id kind

lemma Ingestor.Settled.after {es : List Event} (hs : st.Settled)
    (hes : Steps (Touch T ctx seen) st es st') (hsince : SweptSince st st') : st'.Settled := by
  refine ⟨hs.closed.steps hes, ?_⟩
  intro id hid a' ha' kind hkind
  by_cases hmem : id ∈ st.deactivated
  · obtain ⟨a, ha, haa⟩ := (Onward.of_steps hes).asset_before ha'
    exact (Onward.of_steps hes).swept (hs.swept id hmem a ha kind (haa.type ▸ hkind))
  · exact hsince id hid hmem a' ha' kind hkind

lemma ownRank_le (t : AssetType) : ownRank t ≤ 2 := by
  cases t <;> decide

/-- What a pass does: steps that keep the rows settled and count at most these misses. -/
structure Passes (T : Tables J) (ctx : IngestContext) (seen : List Nat) (st : Ingestor J)
    (price : List Item) (st' : Ingestor J) : Prop where
  steps : ∃ es, Steps (Touch T ctx seen) st es st' ∧ (es.flatMap Event.misses).Subperm price
  settled : st'.Settled

lemma Passes.skip (hs : st.Settled) (price : List Item) : Passes T ctx seen st price st :=
  ⟨⟨[], .nil, nil_subperm⟩, hs⟩

lemma Passes.trans {t : Ingestor J} {p q : List Item} (h₁ : Passes T ctx seen st p t)
    (h₂ : Passes T ctx seen t q st') : Passes T ctx seen st (p ++ q) st' := by
  obtain ⟨es, hes, hp⟩ := h₁.steps
  obtain ⟨fs, hfs, hq⟩ := h₂.steps
  exact ⟨⟨es ++ fs, hes.trans hfs, by rw [flatMap_append]; exact hp.append hq⟩, h₂.settled⟩

lemma Passes.onward {price : List Item} (h : Passes T ctx seen st price st') : Onward st st' := by
  obtain ⟨es, hes, _⟩ := h.steps
  exact Onward.of_steps hes

section

variable (hs : st.Settled)

include hs

lemma Passes.single {e : Event} (h : Touch T ctx seen st e st')
    (hclose : e.closes = []) : Passes T ctx seen st e.misses st' := by
  refine ⟨⟨[e], .single h, ?_⟩, hs.after (.single h) ?_⟩
  · rw [flatMap_singleton]
  intro id hid hnew
  rw [h.deactivated, hclose] at hid
  exact absurd hid hnew

lemma Passes.cascade {e : Event} {t : Ingestor J} {id : Nat} {a : AssetRow J}
    (h : Touch T ctx seen st e (t.closeAsset ctx.now id)) (ht : t.Closed)
    (hsame : t.deactivated = st.deactivated) (ha : t.rows.assets[id]? = some a)
    (hactive : a.status = .active) :
    Passes T ctx seen st e.misses (t.deactivate ctx.now cascadeDepth id) := by
  obtain ⟨⟨es, hes, hnone⟩, hswept, _⟩ : Deactivated T ctx seen t id (t.deactivate ctx.now cascadeDepth id) :=
    deactivate_steps 2 ht ha hactive (ownRank_le _)
  refine ⟨⟨_, .cons h hes, ?_⟩, hs.after (.cons h hes) ?_⟩
  · rw [flatMap_cons, hnone, append_nil]
  · intro i hi hnew
    exact hswept i hi (hsame ▸ hnew)

lemma missed_passes (id : Nat) : Passes T ctx seen st [.asset id] (st.missed ctx id) := by
  unfold Ingestor.missed
  split
  · exact Passes.skip hs _
  next a ha =>
  split
  · exact Passes.skip hs _
  next hmiss =>
  rw [not_or, not_not] at hmiss
  simp only
  split
  · next hreached =>
    refine Passes.cascade hs (.expired ha hmiss.1 hmiss.2 hreached) ?_ rfl
      (a := a.missedOnce) ?_ hmiss.2
    · intro i hi b hb
      obtain ⟨b', hb', rfl⟩ := exists_of_modify hb
      have hstatus := hs.closed i hi b' hb'
      split <;> exact hstatus
    · rw [setAsset_assets, getElem?_modify_map, ha, map_some, if_pos rfl]
  · next hbelow => exact Passes.single hs (.missed ha hmiss.1 hmiss.2 (not_le.1 hbelow)) rfl

lemma left_passes {r id : Nat} {rel : RelationRow J} {child : AssetRow J}
    (hrel : st.rows.relations[r]? = some rel) (hid : rel.targetAssetId = id)
    (hclosed : .relation r ∈ st.closings) (hchild : st.rows.assets[id]? = some child)
    (hkey : child.key ∉ st.observed) :
    Passes T ctx seen st [] (st.deactivate ctx.now cascadeDepth id) := by
  subst hid
  cases hstatus : child.status with
  | inactive =>
    rw [deactivate_closed hchild hstatus]
    exact Passes.skip hs []
  | active => exact Passes.cascade hs (.left hrel hclosed hchild hkey hstatus) hs.closed rfl hchild hstatus

lemma relationMiss_passes {r : Nat} {rel : RelationRow J} {child : AssetRow J}
    (hrel : st.rows.relations[r]? = some rel)
    (hchild : st.rows.assets[rel.targetAssetId]? = some child) :
    Passes T ctx seen st [.relation r]
      (if relationThreshold ctx ≤ rel.missedCount + 1 then
        let st' := { (st.setRelation r RelationRow.missedOnce).closeRelation r with
          closings := .relation r :: st.closings }
        if st'.addressLeft rel child then st'.deactivate ctx.now cascadeDepth rel.targetAssetId
        else st'
      else st.setRelation r RelationRow.missedOnce) := by
  split
  · next hreached =>
    have hstep : Touch T ctx seen st (.relationExpired r) _ := .relationExpired hrel hreached
    have hclose := Passes.single hs hstep rfl
    simp only
    split
    · next hleft =>
      have hrow : ((st.setRelation r RelationRow.missedOnce).closeRelation r).rows.relations[r]? =
          some rel.missedOnce.closed := by
        rw [closeRelation_eq, setRelation_relations, setRelation_relations, getElem?_modify_map,
          getElem?_modify_map, hrel, map_some, map_some, if_pos rfl, if_pos rfl]
      rw [Ingestor.addressLeft, Bool.and_eq_true, decide_eq_true_eq] at hleft
      exact hclose.trans (left_passes hclose.settled hrow rfl mem_cons_self hchild hleft.1.2.2.2)
    · exact hclose
  · next hbelow => exact Passes.single hs (.relationMissed hrel (not_le.1 hbelow)) rfl

lemma missRelation_passes (r : Nat) : Passes T ctx seen st (st.rows.pathsOf r) (st.missRelation ctx r) := by
  unfold Ingestor.missRelation
  split
  · exact Passes.skip hs _
  next rel hrel =>
  split
  · exact Passes.skip hs _
  next child hchild =>
  have hown : Passes T ctx seen st [.relation r] _ := relationMiss_passes hs hrel hchild
  have hpaths : st.rows.pathsOf r = [.relation r] ++
      (if child.assetType ∈ livenessTypes then [.asset rel.targetAssetId] else []) := by
    rw [Rows.pathsOf, hrel]
    simp only [hchild, any_some, decide_eq_true_eq]
    split <;> rfl
  rw [hpaths]
  simp only
  split
  · exact hown.trans (missed_passes hown.settled _)
  · exact hown.trans (Passes.skip hown.settled [])

end

lemma Passes.mono {p q : List Item} (h : Passes T ctx seen st p st') (hpq : p.Subperm q) :
    Passes T ctx seen st q st' := by
  obtain ⟨es, hes, hp⟩ := h.steps
  exact ⟨⟨es, hes, hp.trans hpq⟩, h.settled⟩

variable {price : α → List Item}

section

variable (hs : st.Settled)

include hs

lemma Passes.foldl {f : Ingestor J → α → Ingestor J} {l : List α}
    (h : ∀ t x, x ∈ l → t.Settled → Onward st t → Passes T ctx seen t (price x) (f t x)) :
    Passes T ctx seen st (l.flatMap price) (l.foldl f st) :=
  (foldl_sum (P := Passes T ctx seen) (I := fun t => t.Settled ∧ Onward st t)
    (fun _ hI => Passes.skip hI.1 []) (fun _ _ _ _ _ => Passes.trans) ⟨hs, Onward.refl st⟩
    fun t x hx hI => by
      have hround := h t x hx hI.1 hI.2
      exact ⟨⟨hround.settled, hI.2.trans hround.onward⟩, hround⟩).2

lemma Passes.foldlM {f : Ingestor J → α → Option (Ingestor J)} {l : List α}
    (hrun : l.foldlM f st = some st')
    (h : ∀ t x t', x ∈ l → t.Settled → Onward st t → f t x = some t' → Passes T ctx seen t (price x) t') :
    Passes T ctx seen st (l.flatMap price) st' :=
  (foldlM_sum (P := Passes T ctx seen) (I := fun t => t.Settled ∧ Onward st t)
    (fun _ hI => Passes.skip hI.1 []) (fun _ _ _ _ _ => Passes.trans) ⟨hs, Onward.refl st⟩ hrun
    fun t x t' hx hI hround => by
      have hround := h t x t' hx hI.1 hI.2 hround
      exact ⟨⟨hround.settled, hI.2.trans hround.onward⟩, hround⟩).2

lemma applyLiveness_passes (cov : LivenessCoverage) :
    Passes T ctx seen st (st.reach T ctx seen (.liveness cov)) (st.applyLiveness T ctx cov) := by
  rw [Ingestor.reach, ← flatMap_pure_eq_map]
  refine Passes.foldl hs fun t id _ hs _ => ?_
  have hscan : Passes T ctx seen t [] (t.setAsset id (AssetRow.scanned ctx.now)) :=
    Passes.single hs .scanned rfl
  exact hscan.trans (missed_passes hscan.settled id)

lemma scanned_passes (ids : List Nat) : Passes T ctx seen st [] (st.scanned ctx ids) := by
  have h : Passes T ctx seen st (ids.flatMap fun _ => []) (st.scanned ctx ids) :=
    Passes.foldl hs fun t id _ hs _ => Passes.single hs .scanned rfl
  rwa [flatMap_eq_nil_iff.2 fun _ _ => rfl] at h

end

/-! ## Relation coverage: the queries split the parents -/

lemma flatten_chunks (l : List α) : (chunks l).flatten = l := by
  have h : ∀ n, ((range n).map fun i => (l.drop (1000 * i)).take 1000).flatten = l.take (1000 * n) := by
    intro n
    induction n with
    | zero => simp
    | succ n ih =>
      rw [range_succ, map_append, flatten_append, ih]
      simp only [map_cons, map_nil, flatten_cons, flatten_nil, append_nil]
      rw [← take_add, Nat.mul_succ]
  rw [chunks, h]
  exact take_of_length_le (by omega)

lemma nodup_distinct (ids : List Nat) : (distinct ids).Nodup := nodup_reverse.2 (nodup_dedup _)

lemma mem_distinct {ids : List Nat} {id : Nat} : id ∈ distinct ids ↔ id ∈ ids := by
  simp [distinct]

def Rows.startingAt (rows : Rows J) (rs parents : List Nat) : List Nat :=
  rs.filter fun r => rows.relations[r]?.any fun rel => decide (rel.sourceAssetId ∈ parents)

lemma startingAt_subperm (rows : Rows J) {rs : List Nat} (hrs : rs.Nodup) {parts : List (List Nat)}
    (hparts : parts.flatten.Nodup) : (parts.flatMap (rows.startingAt rs)).Subperm rs := by
  refine Nodup.subperm (nodup_flatMap.2 ⟨fun ps _ => hrs.filter _, ?_⟩) ?_
  · refine (nodup_flatten.1 hparts).2.imp fun hdisj => ?_
    intro r hr hr'
    rw [Rows.startingAt, mem_filter, Option.any_eq_true] at hr hr'
    obtain ⟨-, rel, hrel, hmem⟩ := hr
    obtain ⟨-, rel', hrel', hmem'⟩ := hr'
    rw [hrel] at hrel'
    cases hrel'
    exact hdisj (of_decide_eq_true hmem) (of_decide_eq_true hmem')
  · intro r hr
    obtain ⟨ps, _, hr⟩ := mem_flatMap.1 hr
    exact (mem_filter.1 hr).1

lemma nodup_coveredRelations (cov : RelationCoverage) : (st.coveredRelations T cov).Nodup :=
  (nodup_idsWhere _ _).filter _

lemma missParents_passes {ps : List Nat}
    (ho : Onward st t) (hs : t.Settled) (hrun : t.missParents T ctx cov ps = some t')
    (hps : ps ⊆ st.rows.parents T cov.parentType cov.parents cov.constraints.parentCidrs) :
    Passes T ctx seen t
      ((st.rows.startingAt (st.coveredRelations T cov) ps).flatMap st.rows.pathsOf) t' := by
  rw [Ingestor.missParents, map_eq_some_iff] at hrun
  obtain ⟨misses, hmisses, rfl⟩ := hrun
  rw [Ingestor.missedFrom] at hmisses
  simp only [ite_none_right_eq_some, some.injEq] at hmisses
  obtain ⟨-, rfl⟩ := hmisses
  have hloop : Passes T ctx seen t
      (((t.rows.coveredFrom cov ps).filter fun r => t.missesRelation T cov r == some true).flatMap
        st.rows.pathsOf) _ :=
    Passes.foldl (f := Ingestor.missRelation ctx) hs fun u r _ hs hou =>
      (ho.trans hou).pathsOf r ▸ missRelation_passes hs r
  refine hloop.mono (subperm_flatMap (Nodup.subperm ((nodup_idsWhere _ _).filter _) ?_) _)
  intro r hr
  rw [mem_filter, beq_iff_eq] at hr
  rw [Rows.startingAt, mem_filter]
  refine ⟨ho.coveredRelations hps hr.1 hr.2, ?_⟩
  obtain ⟨rel', hrel', hp⟩ := mem_idsWhere.1 hr.1
  obtain ⟨rel, hrel, hrr⟩ := ho.relation_before hrel'
  simp only [Bool.and_eq_true, decide_eq_true_eq] at hp
  rw [hrel, any_some, decide_eq_true_eq, ← hrr.source]
  exact hp.1.1.1

lemma applyRelationCoverage_passes (ho : Onward st t)
    (hs : t.Settled) (hrun : t.applyRelationCoverage T ctx cov = some t') :
    Passes T ctx seen t (st.reach T ctx seen (.relation cov)) t' := by
  unfold Ingestor.applyRelationCoverage Rows.resolveParents at hrun
  split at hrun
  · cases hrun
  next parents hparents =>
  rw [ite_none_right_eq_some, some.injEq] at hparents
  obtain ⟨-, rfl⟩ := hparents
  have hscan : Passes T ctx seen t [] _ := scanned_passes hs
    (t.rows.parents T cov.parentType cov.parents cov.constraints.parentCidrs)
  have hchunks := flatten_chunks
    (distinct (t.rows.parents T cov.parentType cov.parents cov.constraints.parentCidrs))
  have hqueries : Passes T ctx seen _ (flatMap (fun ps =>
      (st.rows.startingAt (st.coveredRelations T cov) ps).flatMap st.rows.pathsOf) _) t' :=
    Passes.foldlM hscan.settled hrun fun u ps u' hps hs hou hround => by
      refine missParents_passes ((ho.trans hscan.onward).trans hou) hs hround ?_
      intro id hid
      refine ho.parents _ _ _ (mem_distinct.1 ?_)
      rw [← hchunks]
      exact mem_flatten_of_mem hps hid
  rw [← flatMap_assoc] at hqueries
  refine hscan.trans (hqueries.mono (subperm_flatMap ?_ _))
  refine startingAt_subperm st.rows (nodup_coveredRelations cov) ?_
  rw [hchunks]
  exact nodup_distinct _

lemma applyFindingCoverage_passes {t : Ingestor J} (ho : Onward st t) (hs : t.Settled) (cov : FindingCoverage) :
    Passes T ctx seen t (st.reach T ctx seen (.finding cov)) (t.applyFindingCoverage T ctx seen cov) := by
  have hstep : Passes T ctx seen t _ (t.applyFindingCoverage T ctx seen cov) :=
    Passes.single hs (.findings cov) rfl
  refine hstep.mono ?_
  rw [Ingestor.reach, Event.misses, ho.coveredAssets]
  refine Subperm.map (fun i j hij => ?_)
    (Nodup.subperm (nodup_range.filter _) (ho.missedIds _ _ cov))
  cases hij
  rfl

lemma applyCoverage_passes {cov : Coverage} (ho : Onward st t)
    (hs : t.Settled) (hrun : t.applyCoverage T ctx seen cov = some t') :
    Passes T ctx seen t (st.reach T ctx seen cov) t' := by
  cases cov with
  | liveness cov =>
    cases hrun
    have h : Passes T ctx seen t _ (t.applyLiveness T ctx cov) := applyLiveness_passes hs cov
    rwa [Ingestor.reach, ho.namedParents] at h
  | relation cov => exact applyRelationCoverage_passes ho hs hrun
  | finding cov =>
    cases hrun
    exact applyFindingCoverage_passes ho hs cov

/-- **Coverage as steps.**  Nothing is counted that the coverage does not reach, and nothing
more often than it is reached. -/
theorem coverage_passes {coverage : List Coverage} (hs : st.Settled)
    (hrun : coverage.foldlM (Ingestor.applyCoverage T ctx seen) st = some st') :
    Passes T ctx seen st (coverage.flatMap (st.reach T ctx seen)) st' :=
  Passes.foldlM hs hrun fun _ _ _ _ hs ho hround => applyCoverage_passes ho hs hround

end App.Assets
