import AttackSurface.Assets.Retiring

/-!
# Why coverage counts a row, and why it closes one

Coverage counts misses for what it reaches (`reach`), and closes an asset for one of three
reasons (`Falls`): its own misses, the misses of a relation that led to it, or an owner that
was closed.  A relation is closed because of its misses, or with its owner.

    what is closed falls                                        (coverage_falls)
    a relation is closed when it is reached, or its owner falls (coverage_explained)
    a relation that an entry covers is counted, or was closed   (covered_counted)
-/

namespace App.Assets

open PyText AsmSensors App.Scans App.Findings Machines List Option

variable {J : Type} {T : Tables J} {ctx : IngestContext} {seen : List Nat}
  {st st' : Ingestor J} {e : Event} {es : List Event} {price : List Item}

/-! ## The three reasons -/

/-- The reasons for which coverage closes an asset, when it counts misses for the rows of
`price`. -/
inductive Rows.Falls (rows : Rows J) (price : List Item) : Nat → Prop
  | missed {i : Nat} : .asset i ∈ price → Falls rows price i
  | left {r : Nat} {rel : RelationRow J} : .relation r ∈ price →
      rows.relations[r]? = some rel → Falls rows price rel.targetAssetId
  | owned {r : Nat} {rel : RelationRow J} {c : AssetRow J} : rows.Owns r rel c →
      Falls rows price rel.sourceAssetId → Falls rows price rel.targetAssetId

variable {r : Nat} {rel : RelationRow J} {child : AssetRow J} {cov : RelationCoverage}
  {t t' : Ingestor J}

lemma Event.closings_misses (h : .relation r ∈ e.closings) : .relation r ∈ e.misses := by
  cases e with
  | relationExpired q => exact h
  | findings ids resolved => simp [Event.closings] at h
  | _ => simp [Event.closings] at h

lemma Onward.owns_before (ho : Onward st st') {rel' : RelationRow J} {c' : AssetRow J}
    (h : st'.rows.Owns r rel' c') :
    ∃ rel c, st.rows.Owns r rel c ∧ RelationOnward rel rel' ∧ AssetOnward c c' := by
  obtain ⟨rel, hrel, hrr⟩ := ho.relation_before h.relation
  obtain ⟨c, hc, hcc⟩ := ho.asset_before h.child
  obtain ⟨p', hp', hkind⟩ := h.owner
  obtain ⟨p, hp, hpp⟩ := ho.asset_before hp'
  refine ⟨rel, c, ⟨hrel, ?_, p, ?_, ?_⟩, hrr, hcc⟩
  · rwa [← hrr.target]
  · rwa [← hrr.source]
  · rwa [← hrr.type, ← hcc.type, ← hpp.type]

/-- What the steps so far have closed, and why. -/
structure Explained (price : List Item) (st t : Ingestor J) : Prop where
  onward : Onward st t
  counted : ∀ r, .relation r ∈ t.closings → .relation r ∈ price
  fallen : ∀ i ∈ t.deactivated, st.rows.Falls price i
  relation : ∀ (r : Nat) (rel rel' : RelationRow J), st.rows.relations[r]? = some rel →
    rel.active = true → t.rows.relations[r]? = some rel' → rel'.active = false →
    .relation r ∈ price ∨ ∃ c, st.rows.Owns r rel c ∧ st.rows.Falls price rel.sourceAssetId

lemma Explained.start (hclosings : st.closings = []) (hnone : st.deactivated = []) : Explained price st st := by
  refine ⟨Onward.refl st, by simp [hclosings], by simp [hnone], ?_⟩
  intro r rel rel' hrel hlive hrel' hshut
  rw [hrel, some_inj] at hrel'
  rw [← hrel', hlive] at hshut
  cases hshut

lemma Touch.falls {t u : Ingestor J} (hx : Explained price st t) (h : Touch T ctx seen t e u)
    (hmiss : ∀ x ∈ e.misses, x ∈ price) {i : Nat} (hi : i ∈ e.closes) : st.rows.Falls price i := by
  cases h with
  | @expired id a =>
    obtain rfl : i = id := by simpa [Event.closes] using hi
    exact .missed (hmiss _ (by simp [Event.misses]))
  | @left r rel c row closed =>
    obtain rfl : i = rel.targetAssetId := by simpa [Event.closes] using hi
    obtain ⟨rel₀, hrel₀, hrr⟩ := hx.onward.relation_before row
    rw [hrr.target]
    exact .left (hx.counted r closed) hrel₀
  | @orphaned r rel c owns live closed =>
    obtain rfl : i = rel.targetAssetId := by simpa [Event.closes] using hi
    obtain ⟨rel₀, c₀, howns, hrr, -⟩ := hx.onward.owns_before owns
    rw [hrr.target]
    refine .owned howns ?_
    rw [← hrr.source]
    exact hx.fallen _ closed
  | _ => simp [Event.closes] at hi

lemma Touch.closes_relation {t u : Ingestor J} (hx : Explained price st t)
    (h : Touch T ctx seen t e u) (hmiss : ∀ x ∈ e.misses, x ∈ price)
    {rel rel' : RelationRow J} (hrel : t.rows.relations[r]? = some rel) (hlive : rel.active = true)
    (hrel' : u.rows.relations[r]? = some rel') (hshut : rel'.active = false) :
    .relation r ∈ price ∨ ∃ rel₀ c, st.rows.Owns r rel₀ c ∧ st.rows.Falls price rel₀.sourceAssetId := by
  have hrow := h.relation r
  rw [hrel, hrel', map_some, some_inj] at hrow
  have hkept : rel' ≠ rel := by
    rintro rfl
    rw [hlive] at hshut
    cases hshut
  have howned : ∀ {q : Nat} {rel₁ : RelationRow J} {c : AssetRow J}, t.rows.Owns q rel₁ c →
      rel₁.sourceAssetId ∈ t.deactivated →
      ∃ rel₀ c₀, st.rows.Owns q rel₀ c₀ ∧ st.rows.Falls price rel₀.sourceAssetId := by
    intro q rel₁ c owns closed
    obtain ⟨rel₀, c₀, howns, hrr, -⟩ := hx.onward.owns_before owns
    exact ⟨rel₀, c₀, howns, hrr.source ▸ hx.fallen _ closed⟩
  cases h with
  | scanned | missed | expired | left | findings => exact absurd hrow hkept
  | @relationMissed q | @relationExpired q =>
    simp only [Event.onRelation] at hrow
    split at hrow
    · next hq => exact .inl (hmiss _ (by simp [Event.misses, hq]))
    · exact absurd hrow hkept
  | @disowned q rel₁ c owns live closed | @orphaned q rel₁ c owns live closed =>
    simp only [Event.onRelation] at hrow
    split at hrow
    · next hq =>
      subst hq
      exact .inr (howned owns closed)
    · exact absurd hrow hkept

lemma Explained.step {t u : Ingestor J} (hx : Explained price st t) (h : Touch T ctx seen t e u)
    (hmiss : ∀ x ∈ e.misses, x ∈ price) : Explained price st u := by
  refine ⟨hx.onward.trans h.onward, ?_, ?_, ?_⟩
  · intro r hr
    rw [h.closings, mem_append] at hr
    rcases hr with hr | hr
    · exact hmiss _ (Event.closings_misses hr)
    · exact hx.counted r hr
  · intro i hi
    rw [h.deactivated, mem_append] at hi
    rcases hi with hi | hi
    · exact h.falls hx hmiss hi
    · exact hx.fallen i hi
  · intro r rel rel' hrel hlive hrel' hshut
    obtain ⟨rel₁, hrel₁, hrr⟩ := hx.onward.relation_after hrel
    cases hstill : rel₁.active with
    | false => exact hx.relation r rel rel₁ hrel hlive hrel₁ hstill
    | true =>
      rcases h.closes_relation hx hmiss hrel₁ hstill hrel' hshut with hp | ⟨rel₀, c, howns, hfalls⟩
      · exact .inl hp
      · obtain rfl : rel₀ = rel := some_inj.1 (howns.relation.symm.trans hrel)
        exact .inr ⟨c, howns, hfalls⟩

lemma Explained.of_steps (hclosings : st.closings = []) (hnone : st.deactivated = [])
    (h : Steps (Touch T ctx seen) st es st') (hmiss : ∀ x ∈ es.flatMap Event.misses, x ∈ price) :
    Explained price st st' := by
  induction h with
  | nil => exact Explained.start hclosings hnone
  | snoc _ hstep ih =>
    rw [flatMap_append, flatMap_singleton] at hmiss
    exact (ih fun x hx => hmiss x (mem_append_left _ hx)).step hstep
      fun x hx => hmiss x (mem_append_right _ hx)

/-! ## One run over the coverage -/

section Run

variable {coverage : List Coverage} (hs : st.Settled) (hclosings : st.closings = [])
  (hnone : st.deactivated = [])
  (hrun : coverage.foldlM (Ingestor.applyCoverage T ctx seen) st = some st')

include hs hclosings hnone hrun

lemma coverage_explained : Explained (coverage.flatMap (st.reach T ctx seen)) st st' := by
  obtain ⟨es, hes, hle⟩ := (coverage_passes hs hrun).steps
  exact Explained.of_steps hclosings hnone hes fun x hx => hle.subset hx

/-- **An asset that coverage closes falls.** -/
theorem coverage_falls {i : Nat} (h : st.rows.Closes st'.rows i) :
    st.rows.Falls (coverage.flatMap (st.reach T ctx seen)) i := by
  obtain ⟨es, hes, _⟩ := (coverage_passes hs hrun).steps
  exact (coverage_explained hs hclosings hnone hrun).fallen i (steps_closes hes h)

lemma coverage_closes_by_counting {r : Nat} {rel rel' : RelationRow J}
    (hfree : ∀ p c, (rel.relationType, c) ∉ ownedChildren p) (hrel : st.rows.relations[r]? = some rel)
    (hlive : rel.active = true) (hrel' : st'.rows.relations[r]? = some rel')
    (hshut : rel'.active = false) : rel.missedCount < rel'.missedCount := by
  obtain ⟨es, hes, _⟩ := (coverage_passes hs hrun).steps
  have hx : Explained (es.flatMap Event.misses) st st' :=
    Explained.of_steps hclosings hnone hes fun x hx => hx
  rcases hx.relation r rel rel' hrel hlive hrel' hshut with hmiss | ⟨c, howns, -⟩
  · have hcount := steps_missedOf hes (.relation r)
    simp only [Rows.missedOf, hrel, hrel', map_some, some_inj] at hcount
    have hpos := count_pos_iff.2 hmiss
    omega
  · obtain ⟨p, -, hkind⟩ := howns.owner
    exact absurd hkind (hfree _ _)

end Run

lemma coverage_raises {coverage : List Coverage} (hs : st.Settled)
    (hrun : coverage.foldlM (Ingestor.applyCoverage T ctx seen) st = some st') {x : Item} {n n' : Nat}
    (hn : st.rows.missedOf x = some n) (hn' : st'.rows.missedOf x = some n') (hlt : n < n') :
    x ∈ coverage.flatMap (st.reach T ctx seen) := by
  obtain ⟨es, hes, hle⟩ := (coverage_passes hs hrun).steps
  have hcount := steps_missedOf hes x
  rw [hn, hn', map_some, some_inj] at hcount
  refine hle.subset ?_
  rw [← count_pos_iff]
  omega

/-! ## What an entry covers is counted -/

def RelationRow.Lost (r r' : RelationRow J) : Prop :=
  r.missedCount < r'.missedCount ∨ r.active = true ∧ r'.active = false

def AssetRow.Lost (a a' : AssetRow J) : Prop :=
  a.missedCount < a'.missedCount ∨ a.status = .active ∧ a'.status = .inactive

lemma relationMiss_counts (T : Tables J) (hs : st.Settled) (hrel : st.rows.relations[r]? = some rel)
    (hchild : st.rows.assets[rel.targetAssetId]? = some child) {t : Ingestor J}
    (ht : t = if relationThreshold ctx ≤ rel.missedCount + 1 then
        let st' := { (st.setRelation r RelationRow.missedOnce).closeRelation r with
          closings := .relation r :: st.closings }
        if st'.addressLeft rel child then st'.deactivate ctx.now cascadeDepth rel.targetAssetId
        else st'
      else st.setRelation r RelationRow.missedOnce) :
    ∃ rel', t.rows.relations[r]? = some rel' ∧ rel.missedCount < rel'.missedCount := by
  subst ht
  split
  · next hreached =>
    have hstep : Touch T ctx [] st (.relationExpired r) _ := .relationExpired hrel hreached
    have hclose := Passes.single hs hstep rfl
    have hrow : ((st.setRelation r RelationRow.missedOnce).closeRelation r).rows.relations[r]? =
        some rel.missedOnce.closed := by
      rw [closeRelation_eq, setRelation_relations, setRelation_relations, getElem?_modify_map,
        getElem?_modify_map, hrel, map_some, map_some, if_pos rfl, if_pos rfl]
    have hmore : rel.missedCount < rel.missedOnce.closed.missedCount := Nat.lt_succ_self _
    simp only
    split
    · next hleft =>
      rw [Ingestor.addressLeft, Bool.and_eq_true, decide_eq_true_eq] at hleft
      have hcascade : Passes T ctx [] _ [] _ :=
        left_passes hclose.settled hrow rfl mem_cons_self hchild hleft.1.2.2.2
      obtain ⟨rel', hrel', hrr⟩ := hcascade.onward.relation_after hrow
      exact ⟨rel', hrel', hmore.trans_le hrr.missedCount⟩
    · exact ⟨_, hrow, hmore⟩
  · refine ⟨rel.missedOnce, ?_, Nat.lt_succ_self _⟩
    rw [setRelation_relations, getElem?_modify_map, hrel, map_some, if_pos rfl]

lemma missRelation_counts (T : Tables J) (hs : st.Settled) (hrel : st.rows.relations[r]? = some rel)
    (hchild : st.rows.assets[rel.targetAssetId]? = some child) :
    ∃ rel', (st.missRelation ctx r).rows.relations[r]? = some rel' ∧ rel.missedCount < rel'.missedCount := by
  have hown : Passes T ctx [] st [.relation r] _ := relationMiss_passes hs hrel hchild
  obtain ⟨rel', hrel', hmore⟩ := relationMiss_counts T hs hrel hchild rfl
  unfold Ingestor.missRelation
  rw [hrel]
  simp only [hchild]
  split
  · have htarget : Passes T ctx [] _ [.asset rel.targetAssetId] _ := missed_passes hown.settled _
    obtain ⟨rel₂, hrel₂, hrr⟩ := htarget.onward.relation_after hrel'
    exact ⟨rel₂, hrel₂, hmore.trans_le hrr.missedCount⟩
  · exact ⟨rel', hrel', hmore⟩

lemma RelationRow.Lost.onward {r r₁ r₂ : RelationRow J} (h : r.Lost r₁) (ho : RelationOnward r₁ r₂) :
    r.Lost r₂ := by
  rcases h with h | ⟨hlive, hshut⟩
  · exact .inl (h.trans_le ho.missedCount)
  · exact .inr ⟨hlive, ho.closed hshut⟩

lemma missRelations_passes (hs : st.Settled) (rs : List Nat) :
    Passes T ctx seen st (rs.flatMap st.rows.pathsOf) (rs.foldl (Ingestor.missRelation ctx) st) :=
  Passes.foldl hs fun _ q _ hu hou => hou.pathsOf q ▸ missRelation_passes hu q

lemma missRelations_counts (T : Tables J) {rs : List Nat}
    (hs : st.Settled) (hr : r ∈ rs) (hrel : st.rows.relations[r]? = some rel)
    (hchild : st.rows.assets[rel.targetAssetId]? = some child) :
    ∃ rel', (rs.foldl (Ingestor.missRelation ctx) st).rows.relations[r]? = some rel' ∧
      rel.missedCount < rel'.missedCount := by
  obtain ⟨before, after, rfl⟩ := append_of_mem hr
  rw [foldl_append, foldl_cons]
  have hfirst : Passes T ctx [] st _ _ := missRelations_passes hs before
  set u := before.foldl (Ingestor.missRelation ctx) st
  obtain ⟨rel₁, hrel₁, hrr⟩ := hfirst.onward.relation_after hrel
  obtain ⟨child₁, hchild₁, -⟩ := hfirst.onward.asset_after hchild
  rw [← hrr.target] at hchild₁
  obtain ⟨rel₂, hrel₂, hmore⟩ := missRelation_counts T hfirst.settled hrel₁ hchild₁
  have hown : Passes T ctx [] u _ (u.missRelation ctx r) := missRelation_passes hfirst.settled r
  have hlast : Passes T ctx [] _ _ _ := missRelations_passes hown.settled after
  obtain ⟨rel₃, hrel₃, hrr'⟩ := hlast.onward.relation_after hrel₂
  exact ⟨rel₃, hrel₃, (hrr.missedCount.trans_lt hmore).trans_le hrr'.missedCount⟩

/-- A relation in the list of the covered ones is active, leads from a parent to a child, and was
not observed. -/
lemma coveredRelations_iff : r ∈ st.coveredRelations T cov ↔ ∃ rel p c, st.rows.relations[r]? = some rel ∧
      rel.sourceAssetId ∈ st.rows.parents T cov.parentType cov.parents cov.constraints.parentCidrs ∧
      rel.relationType = cov.relation ∧ rel.active = true ∧ rel.key ∉ st.observedRels ∧
      st.rows.assets[rel.sourceAssetId]? = some p ∧ st.rows.assets[rel.targetAssetId]? = some c ∧
      c.assetType ∈ assetTypesOf cov.childType ∧ inProbedPorts T cov p c = some true := by
  rw [Ingestor.coveredRelations, mem_filter, beq_iff_eq, Rows.coveredFrom, mem_idsWhere]
  constructor
  · rintro ⟨⟨rel, hrel, hp⟩, hmiss⟩
    simp only [Bool.and_eq_true, decide_eq_true_eq, Option.any_eq_true] at hp
    obtain ⟨⟨⟨hsource, htype⟩, hlive⟩, c, hc, hctype⟩ := hp
    rw [Ingestor.missesRelation, hrel] at hmiss
    simp only at hmiss
    split at hmiss
    · cases hmiss
    next hkey =>
    cases hparent : st.rows.assets[rel.sourceAssetId]? with
    | none => simp [hparent] at hmiss
    | some p =>
      simp only [hparent, hc] at hmiss
      exact ⟨rel, p, c, hrel, hsource, htype, hlive, hkey, hparent, hc, hctype, hmiss⟩
  · rintro ⟨rel, p, c, hrel, hsource, htype, hlive, hkey, hp, hc, hctype, hprobed⟩
    refine ⟨⟨rel, hrel, ?_⟩, ?_⟩
    · simp only [Bool.and_eq_true, decide_eq_true_eq, Option.any_eq_true]
      exact ⟨⟨⟨hsource, htype⟩, hlive⟩, c, hc, hctype⟩
    · simp [Ingestor.missesRelation, hrel, if_neg hkey, hp, hc, hprobed]

lemma relation_mem_reach :
    .relation r ∈ st.reach T ctx seen (.relation cov) ↔ r ∈ st.coveredRelations T cov := by
  rw [Ingestor.reach, mem_flatMap]
  constructor
  · rintro ⟨q, hq, hx⟩
    obtain ⟨rel, p, c, hrel, -⟩ := coveredRelations_iff.1 hq
    rw [Rows.pathsOf, hrel] at hx
    simp only at hx
    split at hx
    · rcases mem_pair.1 hx with heq | heq
      · cases heq
        exact hq
      · cases heq
    · cases mem_singleton.1 hx
      exact hq
  · intro hr
    obtain ⟨rel, p, c, hrel, -⟩ := coveredRelations_iff.1 hr
    refine ⟨r, hr, ?_⟩
    rw [Rows.pathsOf, hrel]
    simp only
    split
    · exact mem_cons_self
    · exact mem_singleton_self _

lemma asset_mem_reach {id : Nat} (h : .asset id ∈ st.reach T ctx seen (.relation cov)) :
    ∃ (r : Nat) (rel : RelationRow J), st.rows.relations[r]? = some rel ∧ rel.targetAssetId = id ∧
      r ∈ st.coveredRelations T cov := by
  rw [Ingestor.reach, mem_flatMap] at h
  obtain ⟨r, hr, hx⟩ := h
  obtain ⟨rel, p, c, hrel, -⟩ := coveredRelations_iff.1 hr
  refine ⟨r, rel, hrel, ?_, hr⟩
  rw [Rows.pathsOf, hrel] at hx
  simp only at hx
  split at hx
  · rcases mem_pair.1 hx with heq | heq
    · cases heq
    · cases heq
      rfl
  · cases mem_singleton.1 hx

/-- One query counts a miss for each covered relation from its parents that is still active. -/
lemma missParents_counts {ps : List Nat} (ho : Onward st t) (hs : t.Settled)
    (hrun : t.missParents T ctx cov ps = some t') (hcov : r ∈ st.coveredRelations T cov)
    (hrel : st.rows.relations[r]? = some rel) (hsource : rel.sourceAssetId ∈ ps) :
    ∃ rel', t'.rows.relations[r]? = some rel' ∧ rel.Lost rel' := by
  obtain ⟨rel₀, p, c, hrel₀, -, htype, hlive, -, -, hc, hctype, -⟩ := coveredRelations_iff.1 hcov
  obtain rfl : rel₀ = rel := some_inj.1 (hrel₀.symm.trans hrel)
  obtain ⟨rel₁, hrel₁, hrr⟩ := ho.relation_after hrel
  obtain ⟨c₁, hc₁, hcc⟩ := ho.asset_after hc
  rw [← hrr.target] at hc₁
  rw [Ingestor.missParents, map_eq_some_iff] at hrun
  obtain ⟨misses, hmisses, rfl⟩ := hrun
  rw [Ingestor.missedFrom] at hmisses
  simp only [ite_none_right_eq_some, some.injEq] at hmisses
  obtain ⟨-, hmisses⟩ := hmisses
  cases hstill : rel₁.active with
  | false =>
    -- it was closed before the query
    have hloop : Passes T ctx [] t _ _ := missRelations_passes hs misses
    obtain ⟨rel', hrel', hrr'⟩ := hloop.onward.relation_after hrel₁
    exact ⟨rel', hrel', .inr ⟨hlive, hrr'.closed hstill⟩⟩
  | true =>
    have hmem : r ∈ misses := by
      rw [← hmisses, mem_filter, beq_iff_eq, Rows.coveredFrom, mem_idsWhere]
      refine ⟨⟨rel₁, hrel₁, ?_⟩, ?_⟩
      · simp only [Bool.and_eq_true, decide_eq_true_eq, Option.any_eq_true]
        exact ⟨⟨⟨hrr.source ▸ hsource, hrr.type ▸ htype⟩, hstill⟩, c₁, hc₁, hcc.type ▸ hctype⟩
      · rw [ho.missesRelation]
        exact beq_iff_eq.1 (mem_filter.1 hcov).2
    obtain ⟨rel', hrel', hmore⟩ := missRelations_counts T hs hmem hrel₁ hc₁
    exact ⟨rel', hrel', .inl (hrr.missedCount.trans_lt hmore)⟩

variable {parts : List (List Nat)}

lemma missChunks_passes (ho : Onward st t) (hs : t.Settled)
    (hrun : parts.foldlM (Ingestor.missParents T ctx cov) t = some t')
    (hparts : parts.flatten ⊆ st.rows.parents T cov.parentType cov.parents cov.constraints.parentCidrs) :
    Passes T ctx seen t (parts.flatMap fun ps =>
      (st.rows.startingAt (st.coveredRelations T cov) ps).flatMap st.rows.pathsOf) t' :=
  Passes.foldlM hs hrun fun _ _ _ hps hu hou hround =>
    missParents_passes (ho.trans hou) hu hround fun _ hid => hparts (mem_flatten_of_mem hps hid)

lemma missChunks_counts (ho : Onward st t) (hs : t.Settled)
    (hrun : parts.foldlM (Ingestor.missParents T ctx cov) t = some t')
    (hparts : parts.flatten ⊆ st.rows.parents T cov.parentType cov.parents cov.constraints.parentCidrs)
    (hcov : r ∈ st.coveredRelations T cov) (hrel : st.rows.relations[r]? = some rel)
    (hsource : rel.sourceAssetId ∈ parts.flatten) :
    ∃ rel', t'.rows.relations[r]? = some rel' ∧ rel.Lost rel' := by
  induction parts generalizing t with
  | nil => simp at hsource
  | cons ps parts ih =>
    rw [foldlM_cons, bind_eq_bind, bind_eq_some_iff] at hrun
    obtain ⟨u, hu, hrun⟩ := hrun
    rw [flatten_cons] at hparts hsource
    have hfirst : Passes T ctx [] t _ u := missParents_passes ho hs hu
      fun id hid => hparts (mem_append_left _ hid)
    rcases mem_append.1 hsource with hsource | hsource
    · obtain ⟨rel₁, hrel₁, hlost⟩ := missParents_counts ho hs hu hcov hrel hsource
      have hrest : Passes T ctx [] u _ t' := missChunks_passes (ho.trans hfirst.onward) hfirst.settled
        hrun fun id hid => hparts (mem_append_right _ hid)
      obtain ⟨rel₂, hrel₂, hrr⟩ := hrest.onward.relation_after hrel₁
      exact ⟨rel₂, hrel₂, hlost.onward hrr⟩
    · exact ih (ho.trans hfirst.onward) hfirst.settled hrun
        (fun id hid => hparts (mem_append_right _ hid)) hsource

/-- **A relation that an entry covers** has one more miss after the entry was applied, or is
closed. -/
theorem covered_counted (hs : st.Settled)
    (hrun : st.applyRelationCoverage T ctx cov = some st') (hcov : r ∈ st.coveredRelations T cov)
    (hrel : st.rows.relations[r]? = some rel) :
    ∃ rel', st'.rows.relations[r]? = some rel' ∧ rel.Lost rel' := by
  unfold Ingestor.applyRelationCoverage Rows.resolveParents at hrun
  split at hrun
  · cases hrun
  next parents hparents =>
  rw [ite_none_right_eq_some, some.injEq] at hparents
  obtain ⟨-, rfl⟩ := hparents
  have hscan : Passes T ctx [] st [] _ := scanned_passes hs
    (st.rows.parents T cov.parentType cov.parents cov.constraints.parentCidrs)
  have hchunks := flatten_chunks
    (distinct (st.rows.parents T cov.parentType cov.parents cov.constraints.parentCidrs))
  refine missChunks_counts hscan.onward hscan.settled hrun ?_ hcov hrel ?_
  · intro id hid
    rw [hchunks] at hid
    exact mem_distinct.1 hid
  rw [hchunks]
  obtain ⟨rel₀, p, c, hrel₀, hsource, -⟩ := coveredRelations_iff.1 hcov
  obtain rfl : rel₀ = rel := some_inj.1 (hrel₀.symm.trans hrel)
  exact mem_distinct.2 hsource

lemma mem_namedParents {rows : Rows J} {t : ObservedType} {values : List Str} {id : Nat} :
    id ∈ rows.namedParents T t values ↔ ∃ a, rows.assets[id]? = some a ∧ a.assetType ∈ assetTypesOf t ∧
      ∃ v ∈ values, normalizeValue T.unicode t v = some a.normalizedValue := by
  have hin : ∀ a : AssetRow J, (∃ chunk ∈ chunks (values.filterMap (normalizeValue T.unicode t)),
      a.normalizedValue ∈ chunk) ↔ ∃ v ∈ values, normalizeValue T.unicode t v = some a.normalizedValue := by
    intro a
    rw [← mem_flatten, flatten_chunks, mem_filterMap]
  simp only [Rows.namedParents, Rows.assetsByValue, mem_flatMap, mem_idsWhere, decide_eq_true_eq]
  constructor
  · rintro ⟨chunk, hchunk, a, ha, htype, hvalue⟩
    exact ⟨a, ha, htype, (hin a).1 ⟨chunk, hchunk, hvalue⟩⟩
  rintro ⟨a, ha, htype, hvalue⟩
  obtain ⟨chunk, hchunk, hvalue⟩ := (hin a).2 hvalue
  exact ⟨chunk, hchunk, a, ha, htype, hvalue⟩

lemma parents_of_no_nets (rows : Rows J) (t : ObservedType) (values : List Str) :
    rows.parents T t values [] = rows.namedParents T t values := by
  simp [Rows.parents]

/-- **A relation that an entry of the coverage covers** is counted in the whole run, or closed. -/
theorem coverage_counted {coverage : List Coverage} (hs : st.Settled)
    (hrun : coverage.foldlM (Ingestor.applyCoverage T ctx seen) st = some st')
    (hentry : .relation cov ∈ coverage) (hnets : cov.constraints.parentCidrs = [])
    (hcov : r ∈ st.coveredRelations T cov) (hrel : st.rows.relations[r]? = some rel) :
    ∃ rel', st'.rows.relations[r]? = some rel' ∧ rel.Lost rel' := by
  obtain ⟨before, after, rfl⟩ := append_of_mem hentry
  rw [foldlM_append, bind_eq_bind, bind_eq_some_iff] at hrun
  obtain ⟨t, hbefore, hrun⟩ := hrun
  rw [foldlM_cons, bind_eq_bind, bind_eq_some_iff] at hrun
  obtain ⟨u, hround, hafter⟩ := hrun
  have hfirst := coverage_passes hs hbefore
  have hown : Passes T ctx seen t _ u := applyCoverage_passes (Onward.refl t) hfirst.settled hround
  have hlast := coverage_passes hown.settled hafter
  obtain ⟨rel₀, p, c, hrel₀, hsource, htype, hlive, hkey, hp, hc, hctype, hprobed⟩ :=
    coveredRelations_iff.1 hcov
  obtain rfl : rel₀ = rel := some_inj.1 (hrel₀.symm.trans hrel)
  obtain ⟨rel₁, hrel₁, hrr⟩ := hfirst.onward.relation_after hrel
  cases hstill : rel₁.active with
  | false =>
    obtain ⟨rel', hrel', hrr'⟩ := (hown.onward.trans hlast.onward).relation_after hrel₁
    exact ⟨rel', hrel', .inr ⟨hlive, hrr'.closed hstill⟩⟩
  | true =>
    obtain ⟨p₁, hp₁, hpp⟩ := hfirst.onward.asset_after hp
    obtain ⟨c₁, hc₁, hcc⟩ := hfirst.onward.asset_after hc
    have hcov₁ : r ∈ t.coveredRelations T cov := by
      refine coveredRelations_iff.2 ⟨rel₁, p₁, c₁, hrel₁, ?_, hrr.type.trans htype, hstill, ?_,
        hrr.source ▸ hp₁, hrr.target ▸ hc₁, hcc.type ▸ hctype, (hpp.inProbedPorts hcc).trans hprobed⟩
      · rw [hnets, parents_of_no_nets] at hsource
        rw [hnets, parents_of_no_nets, hfirst.onward.namedParents, hrr.source]
        exact hsource
      · rwa [hrr.key, hfirst.onward.observedRels]
    obtain ⟨rel₂, hrel₂, hlost⟩ := covered_counted hfirst.settled hround hcov₁ hrel₁
    obtain ⟨rel', hrel', hrr'⟩ := hlast.onward.relation_after hrel₂
    refine ⟨rel', hrel', ?_⟩
    rcases hlost.onward hrr' with hlt | ⟨-, hshut⟩
    · exact .inl (hrr.missedCount.trans_lt hlt)
    · exact .inr ⟨hlive, hshut⟩

/-! ## One ingest

What observing leaves of a row that is worse off in the end, and why it is. -/

section Ingest

variable {rows : Rows J}

section

variable (h : Sighted ctx rows seen st)

include h

lemma Sighted.relation_after {r : Nat} {rel : RelationRow J} (hrel : rows.relations[r]? = some rel) :
    ∃ rel₁, st.rows.relations[r]? = some rel₁ ∧ rel₁.key = rel.key ∧ rel₁.missedCount ≤ rel.missedCount := by
  obtain ⟨rel₁, hrel₁, hs⟩ := h.relation_old r rel hrel
  refine ⟨rel₁, hrel₁, hs.key, ?_⟩
  by_cases hkept : ctx.historical = true ∨ rel.key ∉ st.observedRels
  · exact (hs.kept hkept).le
  rw [not_or, Bool.not_eq_true, not_not] at hkept
  rw [hs.live hkept.1 hkept.2]
  exact Nat.zero_le _

lemma Sighted.lost_relation {r : Nat} {rel rel' : RelationRow J}
    (hrel : rows.relations[r]? = some rel) (hcert : rel.relationType ≠ .presentsCertificate)
    (hlost : rel.Lost rel') :
    ∃ rel₁, st.rows.relations[r]? = some rel₁ ∧ rel₁.key = rel.key ∧ rel₁.Lost rel' := by
  obtain ⟨rel₁, hrel₁, hkey, hle⟩ := h.relation_after hrel
  refine ⟨rel₁, hrel₁, hkey, ?_⟩
  rcases hlost with hlt | ⟨hlive, hshut⟩
  · exact .inl (hle.trans_lt hlt)
  right
  refine ⟨?_, hshut⟩
  obtain ⟨rel₂, hrel₂, hs⟩ := h.relation_old r rel hrel
  obtain rfl : rel₁ = rel₂ := some_inj.1 (hrel₁.symm.trans hrel₂)
  by_cases hseen : rel.key ∈ st.observedRels
  · exact hs.observed hseen
  · exact (hs.unobserved hseen).2 ⟨hlive, fun hrep => hcert hrep.1⟩

lemma Sighted.lost_asset {id : Nat} {a a' : AssetRow J} (ha : rows.assets[id]? = some a) (hlost : a.Lost a') :
    ∃ a₁, st.rows.assets[id]? = some a₁ ∧ a₁.key = a.key ∧ a₁.Lost a' := by
  obtain ⟨a₁, ha₁, hs⟩ := h.asset_old id a ha
  refine ⟨a₁, ha₁, hs.key, ?_⟩
  by_cases hkept : ctx.historical = true ∨ a.key ∉ st.observed
  · have hsame := hs.kept hkept
    unfold AssetRow.Lost at hlost ⊢
    rwa [hsame.missedCount, hsame.status]
  rw [not_or, Bool.not_eq_true, not_not] at hkept
  obtain ⟨hactive, hzero⟩ := hs.live hkept.1 hkept.2
  rcases hlost with hlt | ⟨-, hshut⟩
  · exact .inl (by omega)
  · exact .inr ⟨hactive, hshut⟩

lemma Sighted.unobserved_relation {r : Nat} {rel₁ : RelationRow J}
    (hrel₁ : st.rows.relations[r]? = some rel₁) (hkey : rel₁.key ∉ st.observedRels) :
    ∃ rel, rows.relations[r]? = some rel ∧ rel.key = rel₁.key ∧ rel.missedCount = rel₁.missedCount ∧
      (rel₁.active = true → rel.active = true) := by
  cases hrow : rows.relations[r]? with
  | none => exact absurd (h.relation_new r rel₁ hrow hrel₁).2.2 hkey
  | some rel =>
    obtain ⟨rel₂, hrel₂, hs⟩ := h.relation_old r rel hrow
    obtain rfl : rel₁ = rel₂ := some_inj.1 (hrel₁.symm.trans hrel₂)
    rw [hs.key] at hkey
    exact ⟨rel, rfl, hs.key.symm, (hs.kept (.inr hkey)).symm, fun hlive => ((hs.unobserved hkey).1 hlive).1⟩

end

section Lost

variable {coverage : List Coverage} (h : Sighted ctx rows seen st)
  (hrun : coverage.foldlM (Ingestor.applyCoverage T ctx seen) st = some st')

include h hrun

lemma Sighted.relation_counted {r : Nat} {rel rel' : RelationRow J}
    (hrel : rows.relations[r]? = some rel) (hrel' : st'.rows.relations[r]? = some rel')
    (hlt : rel.missedCount < rel'.missedCount) :
    ∃ rel₁, st.rows.relations[r]? = some rel₁ ∧ rel₁.key = rel.key ∧
      .relation r ∈ coverage.flatMap (st.reach T ctx seen) := by
  obtain ⟨rel₁, hrel₁, hkey, hle⟩ := h.relation_after hrel
  refine ⟨rel₁, hrel₁, hkey, coverage_raises h.settled hrun (x := .relation r) ?_ ?_ (hle.trans_lt hlt)⟩
  · simp [Rows.missedOf, hrel₁]
  · simp [Rows.missedOf, hrel']

/-- **A relation is counted or closed** because it is reached, or because its owner falls. -/
theorem Sighted.relation_lost {r : Nat} {rel rel' : RelationRow J}
    (hrel : rows.relations[r]? = some rel) (hcert : rel.relationType ≠ .presentsCertificate)
    (hrel' : st'.rows.relations[r]? = some rel') (hlost : rel.Lost rel') :
    ∃ rel₁, st.rows.relations[r]? = some rel₁ ∧ rel₁.key = rel.key ∧
      (.relation r ∈ coverage.flatMap (st.reach T ctx seen) ∨ ∃ c, st.rows.Owns r rel₁ c ∧
        st.rows.Falls (coverage.flatMap (st.reach T ctx seen)) rel₁.sourceAssetId) := by
  obtain ⟨rel₁, hrel₁, hkey, hlost₁⟩ := h.lost_relation hrel hcert hlost
  refine ⟨rel₁, hrel₁, hkey, ?_⟩
  rcases hlost₁ with hlt | ⟨hlive, hshut⟩
  · left
    refine coverage_raises h.settled hrun (x := .relation r) ?_ ?_ hlt
    · simp [Rows.missedOf, hrel₁]
    · simp [Rows.missedOf, hrel']
  · exact (coverage_explained h.settled h.closings h.deactivated hrun).relation r rel₁ rel' hrel₁ hlive
      hrel' hshut

/-- **An asset that is counted or closed falls.** -/
theorem Sighted.asset_lost {id : Nat} {a a' : AssetRow J} (ha : rows.assets[id]? = some a)
    (ha' : st'.rows.assets[id]? = some a') (hlost : a.Lost a') :
    ∃ a₁, st.rows.assets[id]? = some a₁ ∧ a₁.key = a.key ∧
      st.rows.Falls (coverage.flatMap (st.reach T ctx seen)) id := by
  obtain ⟨a₁, ha₁, hkey, hlost₁⟩ := h.lost_asset ha hlost
  refine ⟨a₁, ha₁, hkey, ?_⟩
  rcases hlost₁ with hlt | ⟨hlive, hshut⟩
  · refine .missed (coverage_raises h.settled hrun (x := .asset id) ?_ ?_ hlt)
    · simp [Rows.missedOf, ha₁]
    · simp [Rows.missedOf, ha']
  · exact coverage_falls h.settled h.closings h.deactivated hrun ⟨a₁, a', ha₁, hlive, ha', hshut⟩

end Lost

end Ingest

end App.Assets
