import AttackSurface.Assets.PortMisses

/-!
# Which DNS edges a lookup counts as missed

A complete run of dnsx counts a miss for every `resolves_to` and `cname` edge of the names it
asked for and did not observe again.  `LookupsRespected` says that an edge is counted only if
the record type that could have shown it was asked for.

Aliases are covered when `cname` is asked for.  Addresses are covered in any case, and `a` is
always asked for; without `aaaa` the edges to IPv6 addresses are counted all the same:

    LookupsRespected  ↔  aaaa is asked for, or every edge that is about to be counted leads to
                         an IPv4 address                          (lookupsRespected_iff)
-/

namespace App.Assets

open PyText PyNet PyJson AsmSensors App.Scans App.Scope App.Findings List Option

variable {T : Tables Json} {ctx : IngestContext} {rows : Rows Json} {result : SensorResult Json}
  {st st' : Ingestor Json} {cfg : Dnsx.Config} {targets : List (Target T.unicode)}

def addressRecord : Version → Dnsx.RecordType
  | .v4 => .a
  | .v6 => .aaaa

/-- Edges are counted as missed only if the record type that shows them was asked for. -/
structure LookupsRespected (cfg : Dnsx.Config) (rows after : Rows Json) : Prop where
  address : ∀ (r : Nat) (rel rel' : RelationRow Json) (target : AssetRow Json) (addr : Address),
    rows.relations[r]? = some rel → rel.relationType = .resolvesTo →
    after.relations[r]? = some rel' → rel.missedCount < rel'.missedCount →
    after.assets[rel.targetAssetId]? = some target → ipAddress target.normalizedValue = some addr →
    addressRecord addr.version ∈ cfg.recordTypes
  cname : ∀ (r : Nat) (rel rel' : RelationRow Json), rows.relations[r]? = some rel →
    rel.relationType = .cname → after.relations[r]? = some rel' →
    rel.missedCount < rel'.missedCount → .cname ∈ cfg.recordTypes

/-- The edge is active, was not observed, and leads from a name that was asked for to an
address. -/
structure AboutToMissAddress (T : Tables Json) (targets : List (Target T.unicode))
    (st : Ingestor Json) (rel : RelationRow Json) (addr : Address) : Prop where
  type : rel.relationType = .resolvesTo
  active : rel.active = true
  unobserved : rel.key ∉ st.observedRels
  covered : rel.sourceAssetId ∈ st.rows.namedParents T .hostname (Dnsx.queried targets)
  target : ∃ a, st.rows.assets[rel.targetAssetId]? = some a ∧ a.assetType = .ipAddress ∧
    ipAddress a.normalizedValue = some addr

lemma inProbedPorts_of_none {J : Type} {T : Tables J} {cov : RelationCoverage} {p c : AssetRow J}
    (h : cov.constraints.portSpec = none) : inProbedPorts T cov p c = some true := by
  simp [inProbedPorts, h]

variable {r : Nat} {addr : Address}

lemma AboutToMissAddress.covered_relation {rel : RelationRow Json}
    (hrel : st.rows.relations[r]? = some rel) (h : AboutToMissAddress T targets st rel addr) :
    r ∈ st.coveredRelations T (Dnsx.addressCoverage targets) := by
  obtain ⟨p, hp, -⟩ := mem_namedParents.1 h.covered
  obtain ⟨a, ha, htype, -⟩ := h.target
  refine coveredRelations_iff.2 ⟨rel, p, a, hrel, ?_, h.type, h.active, h.unobserved, hp, ha, ?_,
    inProbedPorts_of_none rfl⟩
  · rw [show (Dnsx.addressCoverage targets).constraints.parentCidrs = [] from rfl, parents_of_no_nets]
    exact h.covered
  show a.assetType ∈ assetTypesOf .ipAddress
  rw [htype]
  decide

/-- A relation that the coverage of a lookup reaches: an edge to an address, or an alias if they
were asked for. -/
lemma mem_reach_dnsx {seen : List Nat}
    (h : .relation r ∈ (Dnsx.coverage cfg targets).flatMap (st.reach T ctx seen)) :
    r ∈ st.coveredRelations T (Dnsx.addressCoverage targets) ∨
      .cname ∈ cfg.recordTypes ∧ r ∈ st.coveredRelations T (Dnsx.aliasCoverage targets) := by
  obtain ⟨cov, hcov, hx⟩ := mem_flatMap.1 h
  rw [Dnsx.coverage, mem_append, mem_pair] at hcov
  rcases hcov with (rfl | rfl) | hcov
  · obtain ⟨id, -, heq⟩ := List.mem_map.1 hx
    cases heq
  · exact .inl (relation_mem_reach.1 hx)
  split at hcov
  · next hc =>
    rw [mem_singleton] at hcov
    subst hcov
    exact .inr ⟨hc, relation_mem_reach.1 hx⟩
  · cases hcov

section Run

variable {seen : List Nat} (hsight : Sighted ctx rows seen st)
  (hrun : (Dnsx.coverage cfg targets).foldlM (Ingestor.applyCoverage T ctx seen) st = some st')

include hsight hrun

lemma AboutToMissAddress.counted {rel : RelationRow Json}
    (hrel : st.rows.relations[r]? = some rel) (h : AboutToMissAddress T targets st rel addr) :
    ∃ rel₀ rel', rows.relations[r]? = some rel₀ ∧ rel₀.key = rel.key ∧
      st'.rows.relations[r]? = some rel' ∧ rel₀.missedCount < rel'.missedCount := by
  obtain ⟨rel', hrel', hlost⟩ := coverage_counted hsight.settled hrun
    (by simp [Dnsx.coverage]) rfl (h.covered_relation hrel) hrel
  obtain ⟨rel₀, hrel₀, hkey, hcount, -⟩ := hsight.unobserved_relation hrel h.unobserved
  refine ⟨rel₀, rel', hrel₀, hkey, hrel', ?_⟩
  rw [hcount]
  rcases hlost with hlt | ⟨hlive, hshut⟩
  · exact hlt
  -- nothing owns an edge, so that it was closed by its misses
  refine coverage_closes_by_counting hsight.settled hsight.closings hsight.deactivated hrun ?_ hrel
    hlive hrel' hshut
  intro p c
  rw [h.type]
  cases p <;> simp [ownedChildren]

variable {rel rel' : RelationRow Json}

lemma resolvesTo_counted {target : AssetRow Json} (hrel : rows.relations[r]? = some rel) (htype : rel.relationType = .resolvesTo)
    (hrel' : st'.rows.relations[r]? = some rel') (hlt : rel.missedCount < rel'.missedCount)
    (htarget : st'.rows.assets[rel.targetAssetId]? = some target)
    (haddr : ipAddress target.normalizedValue = some addr) :
    ∃ rel₁, st.rows.relations[r]? = some rel₁ ∧ AboutToMissAddress T targets st rel₁ addr := by
  obtain ⟨rel₁, hrel₁, hkey, hreached⟩ := hsight.relation_counted hrun hrel hrel' hlt
  have htype₁ : rel₁.relationType = .resolvesTo := (congrArg (fun k => k.2.2) hkey).trans htype
  have htarget₁ : rel₁.targetAssetId = rel.targetAssetId := congrArg (fun k => k.2.1) hkey
  refine ⟨rel₁, hrel₁, ?_⟩
  rcases mem_reach_dnsx hreached with hr | ⟨-, hr⟩
  · obtain ⟨rel₂, p, c, hrel₂, hsource, -, hlive, hkey₂, -, hc, hctype, -⟩ := coveredRelations_iff.1 hr
    obtain rfl : rel₁ = rel₂ := some_inj.1 (hrel₁.symm.trans hrel₂)
    obtain ⟨a, ha, haa⟩ := (coverage_passes hsight.settled hrun).onward.asset_before htarget
    rw [← htarget₁, hc, some_inj] at ha
    subst ha
    have hvalue : target.normalizedValue = c.normalizedValue := congrArg Prod.snd haa.key
    refine ⟨htype₁, hlive, hkey₂, ?_, c, hc, mem_singleton.1 hctype, hvalue ▸ haddr⟩
    rwa [show (Dnsx.addressCoverage targets).constraints.parentCidrs = [] from rfl,
      parents_of_no_nets] at hsource
  · obtain ⟨rel₂, p, c, hrel₂, -, htype₂, -⟩ := coveredRelations_iff.1 hr
    obtain rfl : rel₁ = rel₂ := some_inj.1 (hrel₁.symm.trans hrel₂)
    rw [htype₁] at htype₂
    cases htype₂

lemma cname_counted (hrel : rows.relations[r]? = some rel)
    (htype : rel.relationType = .cname) (hrel' : st'.rows.relations[r]? = some rel')
    (hlt : rel.missedCount < rel'.missedCount) : .cname ∈ cfg.recordTypes := by
  obtain ⟨rel₁, hrel₁, hkey, hreached⟩ := hsight.relation_counted hrun hrel hrel' hlt
  have htype₁ : rel₁.relationType = .cname := (congrArg (fun k => k.2.2) hkey).trans htype
  rcases mem_reach_dnsx hreached with hr | ⟨hasked, -⟩
  · obtain ⟨rel₂, p, c, hrel₂, -, htype₂, -⟩ := coveredRelations_iff.1 hr
    obtain rfl : rel₁ = rel₂ := some_inj.1 (hrel₁.symm.trans hrel₂)
    rw [htype₁] at htype₂
    cases htype₂
  · exact hasked

end Run

/-- **A complete run of dnsx** counts only edges whose record type it asked for exactly when it
asked for `aaaa`, or every edge that is about to be counted leads to an IPv4 address. -/
theorem lookupsRespected_iff (hv : rows.Valid) (hcov : result.coverage = Dnsx.coverage cfg targets)
    (hrun : ingest T ctx rows result = some st') :
    LookupsRespected cfg rows st'.rows ↔ .aaaa ∈ cfg.recordTypes ∨
      ∀ (r : Nat) (rel : RelationRow Json) (addr : Address),
        (observe T ctx rows result).1.rows.relations[r]? = some rel →
        AboutToMissAddress T targets (observe T ctx rows result).1 rel addr → addr.version = .v4 := by
  set st := (observe T ctx rows result).1
  set seen := (observe T ctx rows result).2
  have hsight : Sighted ctx rows seen st := observe_sighted hv result
  have hpasses : (Dnsx.coverage cfg targets).foldlM (Ingestor.applyCoverage T ctx seen) st = some st' := by
    rw [← hcov]
    exact hrun
  have honward : Onward st st' := (coverage_passes hsight.settled hpasses).onward
  constructor
  · intro hresp
    by_cases hquad : .aaaa ∈ cfg.recordTypes
    · exact .inl hquad
    right
    intro r rel addr hrel hmiss
    obtain ⟨rel₀, rel', hrel₀, hkey, hrel', hlt⟩ := hmiss.counted hsight hpasses hrel
    obtain ⟨a, ha, -, haddr⟩ := hmiss.target
    obtain ⟨a', ha', haa⟩ := honward.asset_after ha
    have htarget : rel₀.targetAssetId = rel.targetAssetId := congrArg (fun k => k.2.1) hkey
    have htype : rel₀.relationType = rel.relationType := congrArg (fun k => k.2.2) hkey
    have hvalue : a'.normalizedValue = a.normalizedValue := congrArg Prod.snd haa.key
    have hasked := hresp.address r rel₀ rel' a' addr hrel₀ (htype.trans hmiss.type) hrel' hlt
      (htarget ▸ ha') (hvalue ▸ haddr)
    cases hversion : addr.version with
    | v4 => rfl
    | v6 =>
      rw [hversion] at hasked
      exact absurd hasked hquad
  · intro hcond
    refine ⟨?_, fun r rel rel' hrel htype hrel' hlt => cname_counted hsight hpasses hrel htype hrel' hlt⟩
    intro r rel rel' target addr hrel htype hrel' hlt htarget haddr
    obtain ⟨rel₁, hrel₁, hmiss⟩ := resolvesTo_counted hsight hpasses hrel htype hrel' hlt htarget haddr
    cases hversion : addr.version with
    | v4 => exact cfg.needAddressRecords
    | v6 =>
      rcases hcond with hquad | hall
      · exact hquad
      · rw [hall r rel₁ addr hrel₁ hmiss] at hversion
        cases hversion

/-! ## A lookup without `aaaa` -/

def oneAddress (ip : Str) : Rows Json where
  assets := [
    { assetType := .subdomain, normalizedValue := "www.example.com".toList },
    { assetType := .ipAddress, normalizedValue := ip }]
  relations := [{ sourceAssetId := 0, targetAssetId := 1, relationType := .resolvesTo }]

def lookup : IngestContext where
  checker := { rules := [], allowNonPublic := false, nets := [], nets_eq := netsOf_nil }
  source := "dnsx".toList

def lookedUp : Target jsonTables.unicode :=
  ⟨.hostname, "www.example.com".toList, "www.example.com".toList, by decide +kernel⟩

/-- The coverage of a run that asked for `a` records only, and got no answer. -/
def noAnswer : SensorResult Json where
  adapter := "dnsx".toList
  targetCount := 1
  coverage := Dnsx.coverage (Dnsx.Config.make [.a]) [lookedUp]

-- it is what the adapter makes of an empty output
example (P : PyValues) : (Dnsx.normalize P (Dnsx.Config.make [.a]) [lookedUp] []).map
    (fun out => out.completed "dnsx".toList 1) = some noAnswer := rfl

/-- The edge to an IPv6 address is counted as missed, although `aaaa` was not asked for. -/
theorem ipv6_edge_missed : (oneAddress "2001:db8::1".toList).Valid ∧ ∃ st',
    ingest jsonTables lookup (oneAddress "2001:db8::1".toList) noAnswer = some st' ∧
      ¬ LookupsRespected (Dnsx.Config.make [.a]) (oneAddress "2001:db8::1".toList) st'.rows := by
  refine ⟨⟨by decide, by decide, by decide⟩, ?_⟩
  set rows := oneAddress "2001:db8::1".toList with hrows
  have hvalues : (ingest jsonTables lookup rows noAnswer).map (fun st =>
      (st.rows.relations.map RelationRow.missedCount, st.rows.assets.map AssetRow.normalizedValue)) =
      some ([1], ["www.example.com".toList, "2001:db8::1".toList]) := by decide +kernel
  obtain ⟨st', hst', hrest⟩ := map_eq_some_iff.1 hvalues
  rw [Prod.mk.injEq] at hrest
  refine ⟨st', hst', fun hresp => ?_⟩
  obtain ⟨rel', hrel', hone⟩ : ∃ rel', st'.rows.relations[0]? = some rel' ∧ rel'.missedCount = 1 := by
    have h0 := congrArg (·[0]?) hrest.1
    simpa [getElem?_map, map_eq_some_iff] using h0
  obtain ⟨target, htarget, hvalue⟩ : ∃ a, st'.rows.assets[1]? = some a ∧
      a.normalizedValue = "2001:db8::1".toList := by
    have h1 := congrArg (·[1]?) hrest.2
    simpa [getElem?_map, map_eq_some_iff] using h1
  have hversion : (ipAddress "2001:db8::1".toList).map Address.version = some .v6 := by decide +kernel
  obtain ⟨addr, haddr, hv6⟩ := map_eq_some_iff.1 hversion
  have hasked := hresp.address 0 _ rel' target addr (by rw [hrows]; rfl) rfl hrel'
    (by rw [hone]; decide) htarget (hvalue ▸ haddr)
  rw [hv6] at hasked
  exact absurd hasked (by decide)

/-- An edge to an IPv4 address is counted by the same run, as it should be. -/
theorem ipv4_edge_missed : ∃ st', ingest jsonTables lookup (oneAddress "203.0.113.5".toList) noAnswer =
    some st' ∧ st'.rows.relations.map RelationRow.missedCount = [1] ∧
      LookupsRespected (Dnsx.Config.make [.a]) (oneAddress "203.0.113.5".toList) st'.rows := by
  set rows := oneAddress "203.0.113.5".toList with hrows
  have hcount : (ingest jsonTables lookup rows noAnswer).map (fun st =>
      st.rows.relations.map RelationRow.missedCount) = some [1] := by decide +kernel
  obtain ⟨st', hst', hone⟩ := map_eq_some_iff.1 hcount
  have hv : rows.Valid := ⟨by decide, by decide, by decide⟩
  refine ⟨st', hst', hone, (lookupsRespected_iff hv rfl hst').2 (.inr ?_)⟩
  intro r rel addr _ hmiss
  have hkeys : (observe jsonTables lookup rows noAnswer).1.rows.assets.map AssetRow.key =
      [(.subdomain, "www.example.com".toList), (.ipAddress, "203.0.113.5".toList)] := by decide +kernel
  obtain ⟨a, ha, htype, haddr⟩ := hmiss.target
  have hmem : a.key ∈ (observe jsonTables lookup rows noAnswer).1.rows.assets.map AssetRow.key :=
    List.mem_map_of_mem (mem_of_getElem? ha)
  rw [hkeys, mem_pair] at hmem
  have hvalue : a.normalizedValue = "203.0.113.5".toList := by
    rcases hmem with h | h
    · have hsub : a.assetType = .subdomain := congrArg Prod.fst h
      rw [htype] at hsub
      cases hsub
    · exact congrArg Prod.snd h
  have hversion : (ipAddress "203.0.113.5".toList).map Address.version = some .v4 := by decide +kernel
  rw [hvalue] at haddr
  rw [haddr, map_some, some_inj] at hversion
  exact hversion

end App.Assets
