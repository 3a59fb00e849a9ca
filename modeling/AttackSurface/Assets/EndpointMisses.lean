import AttackSurface.Assets.NameMisses
import AttackSurface.Sensors.Httpx

/-!
# Which web endpoints a probe counts as missed

The entries of a run of httpx tell the platform which ports were probed on which hosts.  An
endpoint that ingesting such a run counts or closes is served by a host of a target, on a port
that was probed there (`endpointsRespected`), whatever the targets are.  The entries themselves
are exact unless a name reads as an address:

    coverage exact, endpoints respected  ↔  every `host:port` splits, and no bare name reads as
                                            an address               (httpxCoverage_iff)
-/

namespace App.Assets

open PyText PyNet PyJson AsmSensors App.Scans List Option

variable {T : Tables Json} {ctx : IngestContext} {rows : Rows Json} {result : SensorResult Json}
  {st st' : Ingestor Json} {cfg : Httpx.Config T.unicode} {targets : List (Target T.unicode)}

/-- An endpoint is counted as missed, or closed, only if a target had its port probed on a host that
serves it. -/
def EndpointsRespected (T : Tables Json) (cfg : Httpx.Config T.unicode)
    (targets : List (Target T.unicode)) (rows after : Rows Json) : Prop :=
  ∀ (id : Nat) (a a' : AssetRow Json), rows.assets[id]? = some a → a.assetType = .httpEndpoint →
    after.assets[id]? = some a' → a.Lost a' →
    ∃ (r : Nat) (rel : RelationRow Json) (parent : AssetRow Json), after.relations[r]? = some rel ∧
      rel.relationType = .serves ∧ rel.targetAssetId = id ∧
      after.assets[rel.sourceAssetId]? = some parent ∧
      ∃ t ∈ targets, ∃ (host : Str) (p : Nat), Httpx.Probes cfg t host p ∧
        parent.assetType ∈ assetTypesOf (Httpx.coveredKind t host) ∧
        normalizeValue T.unicode (Httpx.coveredKind t host) host = some parent.normalizedValue ∧
        childPort T a' = some (some (p : ℤ))

/-! ## Coverage of relations to leaves -/

/-- An asset that falls is the target of a covered relation, when only relations are covered and
their targets own nothing. -/
lemma falls_of_leaves {coverage : List Coverage} {seen : List Nat} (hrel : ∀ c ∈ coverage, ∃ e, c = .relation e)
    (hleaf : ∀ e, .relation e ∈ coverage → ∀ t ∈ assetTypesOf e.childType, ownedChildren t = []) {i : Nat}
    (h : st.rows.Falls (coverage.flatMap (st.reach T ctx seen)) i) :
    ∃ (e : RelationCoverage) (r : Nat) (rel : RelationRow Json), .relation e ∈ coverage ∧
      r ∈ st.coveredRelations T e ∧ st.rows.relations[r]? = some rel ∧ rel.targetAssetId = i := by
  -- what is reached is reached by an entry about relations
  have hentry : ∀ x ∈ coverage.flatMap (st.reach T ctx seen),
      ∃ e, .relation e ∈ coverage ∧ x ∈ st.reach T ctx seen (.relation e) := by
    intro x hx
    obtain ⟨c, hc, hx⟩ := mem_flatMap.1 hx
    obtain ⟨e, rfl⟩ := hrel c hc
    exact ⟨e, hc, hx⟩
  induction h with
  | missed hx =>
    obtain ⟨e, he, hx⟩ := hentry _ hx
    obtain ⟨r, rel, hr, htarget, hcov⟩ := asset_mem_reach hx
    exact ⟨e, r, rel, he, hcov, hr, htarget⟩
  | @left r rel hx hr =>
    obtain ⟨e, he, hx⟩ := hentry _ hx
    exact ⟨e, r, rel, he, relation_mem_reach.1 hx, hr, rfl⟩
  | owned howns _ ih =>
    exfalso
    obtain ⟨e, r, rel, he, hcov, hr, htarget⟩ := ih
    obtain ⟨rel', p, c, hr', -, -, -, -, -, hc, htype, -⟩ := coveredRelations_iff.1 hcov
    obtain rfl : rel' = rel := some_inj.1 (hr'.symm.trans hr)
    obtain ⟨owner, howner, hkind⟩ := howns.owner
    rw [← htarget, hc, some_inj] at howner
    rw [← howner, hleaf e he _ htype] at hkind
    cases hkind

/-! ## The endpoints of a run -/

lemma portInSpec_nil (U : Unicode) (p : ℤ) : portInSpec U p [] = none := by
  simp [portInSpec, compileSpec, validatePortSpec_nil]

lemma inProbedPorts_of_spec {cov : RelationCoverage} {parent child : AssetRow Json} {spec : Str}
    (hspec : cov.constraints.portSpec = some spec) (hcdn : cov.constraints.cdnPortSpec = none)
    (hne : spec ≠ []) (h : inProbedPorts T cov parent child = some true) :
    ∃ port, childPort T child = some (some port) ∧ portInSpec T.unicode port spec = some true := by
  have hfilter : (some spec).filter (fun s => decide (s ≠ [])) = some spec :=
    filter_some_pos (by simpa using hne)
  unfold inProbedPorts at h
  simp only [hspec, hfilter, hcdn, filter_none] at h
  cases hport : childPort T child with
  | none => simp [hport] at h
  | some port? =>
    cases port? with
    | none => simp [hport] at h
    | some port =>
      simp only [hport] at h
      exact ⟨port, rfl, h⟩

variable {observed tls : List Str}

lemma mem_coverage_httpx {covs : List Coverage}
    (hcov : Httpx.coverage cfg targets observed tls = some covs) {c : Coverage} (hc : c ∈ covs) :
    ∃ e, c = .relation e ∧ ((∃ g groups, Httpx.grouped cfg targets = some groups ∧ g ∈ groups ∧
      e = Httpx.servesEntry g) ∨ e = Httpx.techCoverage observed ∨ e = Httpx.certificateCoverage tls) := by
  obtain ⟨groups, hgroups, rfl⟩ := map_eq_some_iff.1 hcov
  rw [mem_append, mem_append, List.mem_map] at hc
  rcases hc with (⟨g, hg, rfl⟩ | hc) | hc
  · exact ⟨_, rfl, .inl ⟨g, groups, hgroups, hg, rfl⟩⟩
  · obtain ⟨-, hc⟩ := mem_ite_nil_right.1 hc
    exact ⟨_, mem_singleton.1 hc, .inr (.inl rfl)⟩
  · obtain ⟨-, hc⟩ := mem_ite_nil_right.1 hc
    exact ⟨_, mem_singleton.1 hc, .inr (.inr rfl)⟩

/-- A relation that an entry about a group covers leads from a host of a target to an endpoint
whose port was probed on that host. -/
lemma coveredRelations_httpx {groups : PyDict.Groups (ObservedType × Str) Str}
    (hgroups : Httpx.grouped cfg targets = some groups) {g : (ObservedType × Str) × List Str} (hg : g ∈ groups)
    {r : Nat} (hr : r ∈ st.coveredRelations T (Httpx.servesEntry g)) :
    ∃ rel parent child, st.rows.relations[r]? = some rel ∧ rel.relationType = .serves ∧
      st.rows.assets[rel.sourceAssetId]? = some parent ∧ st.rows.assets[rel.targetAssetId]? = some child ∧
      ∃ t ∈ targets, ∃ (host : Str) (p : Nat), Httpx.Probes cfg t host p ∧
        parent.assetType ∈ assetTypesOf (Httpx.coveredKind t host) ∧
        normalizeValue T.unicode (Httpx.coveredKind t host) host = some parent.normalizedValue ∧
        childPort T child = some (some (p : ℤ)) := by
  obtain ⟨⟨k, spec⟩, hosts⟩ := g
  obtain ⟨rel, parent, child, hrel, hcov, htype, -, -, hparent, hchild, -, hprobed⟩ :=
    coveredRelations_iff.1 hr
  refine ⟨rel, parent, child, hrel, htype, hparent, hchild, ?_⟩
  rw [show (Httpx.servesEntry ((k, spec), hosts)).constraints.parentCidrs = [] from rfl,
    parents_of_no_nets, mem_namedParents] at hcov
  obtain ⟨a, ha, hatype, host, hhost, hnorm⟩ := hcov
  obtain rfl : a = parent := some_inj.1 (ha.symm.trans hparent)
  -- the ports of the entry are those that were probed on the host
  obtain ⟨d, hd⟩ := (Httpx.probed_eq_some_iff cfg targets).2
    ((Httpx.grouped_eq_some_iff cfg targets).1 ⟨groups, hgroups⟩)
  obtain ⟨groups', hgroups', -, hgroup⟩ := Httpx.grouped_spec hd
  obtain rfl : groups = groups' := some_inj.1 (hgroups.symm.trans hgroups')
  obtain ⟨hne, hspec⟩ := (hgroup k spec host).1 ⟨hosts, hg, Httpx.mem_parents.1 hhost⟩
  obtain ⟨spec', hspec', hports⟩ := Httpx.specOf_probed hd hne
  obtain rfl : spec = spec' := some_inj.1 (hspec.symm.trans hspec')
  have hnil : spec ≠ [] := by
    rintro rfl
    obtain ⟨b, hb, -⟩ := hports 0
    rw [portInSpec_nil] at hb
    cases hb
  obtain ⟨port, hport, hin⟩ := inProbedPorts_of_spec rfl rfl hnil hprobed
  obtain ⟨b, hb, hiff⟩ := hports port
  rw [hin, some_inj] at hb
  obtain ⟨n, rfl, t, ht, hprobes, rfl⟩ := hiff.1 hb.symm
  exact ⟨t, ht, host, n, hprobes, hatype, hnorm, hport⟩

/-- **A run of httpx respects the endpoints**: one that is counted or closed has a port that was
probed on a host that serves it. -/
theorem endpointsRespected {covs : List Coverage} (hv : rows.Valid)
    (hcov : Httpx.coverage cfg targets observed tls = some covs) (hresult : result.coverage = covs)
    (hrun : ingest T ctx rows result = some st') : EndpointsRespected T cfg targets rows st'.rows := by
  set st := (observe T ctx rows result).1
  set seen := (observe T ctx rows result).2
  have hsight : Sighted ctx rows seen st := observe_sighted hv result
  have hpasses : covs.foldlM (Ingestor.applyCoverage T ctx seen) st = some st' := by
    rw [← hresult]
    exact hrun
  have honward : Onward st st' := (coverage_passes hsight.settled hpasses).onward
  have hrel : ∀ c ∈ covs, ∃ e, c = .relation e := by
    intro c hc
    obtain ⟨e, rfl, -⟩ := mem_coverage_httpx hcov hc
    exact ⟨e, rfl⟩
  have hleaf : ∀ e, .relation e ∈ covs → ∀ t ∈ assetTypesOf e.childType, ownedChildren t = [] := by
    intro e he t ht
    obtain ⟨e', heq, hkind⟩ := mem_coverage_httpx hcov he
    cases heq
    rcases hkind with ⟨g, -, -, -, rfl⟩ | rfl | rfl
    · obtain rfl : t = .httpEndpoint := mem_singleton.1 ht
      rfl
    · obtain rfl : t = .technology := mem_singleton.1 ht
      rfl
    · obtain rfl : t = .certificate := mem_singleton.1 ht
      rfl
  intro id a a' ha htype ha' hlost
  obtain ⟨a₁, ha₁, hkey, hfalls⟩ := hsight.asset_lost hpasses ha ha' hlost
  obtain ⟨e, r, rel, he, hr, hrow, htarget⟩ := falls_of_leaves hrel hleaf hfalls
  have htype₁ : a₁.assetType = .httpEndpoint := (congrArg Prod.fst hkey).trans htype
  obtain ⟨e', heq, hkind⟩ := mem_coverage_httpx hcov he
  cases heq
  -- only an entry about a group of hosts covers endpoints
  obtain ⟨rel', -, c, hrow', -, -, -, -, -, hc, hctype, -⟩ := coveredRelations_iff.1 hr
  obtain rfl : rel' = rel := some_inj.1 (hrow'.symm.trans hrow)
  rw [htarget, ha₁, some_inj] at hc
  rw [← hc, htype₁] at hctype
  rcases hkind with ⟨g, groups, hgroups, hg, rfl⟩ | rfl | rfl
  · obtain ⟨rel₂, parent, child, hrow₂, hserves, hparent, hchild, t, ht, host, p, hprobes, hptype, hnorm,
      hport⟩ := coveredRelations_httpx hgroups hg hr
    obtain rfl : rel₂ = rel' := some_inj.1 (hrow₂.symm.trans hrow)
    rw [htarget, ha₁, some_inj] at hchild
    subst hchild
    obtain ⟨rel'', hrow'', hrr⟩ := honward.relation_after hrow
    obtain ⟨parent', hparent', hpp⟩ := honward.asset_after hparent
    obtain ⟨a₂, ha₂, haa⟩ := honward.asset_after ha₁
    obtain rfl : a₂ = a' := some_inj.1 (ha₂.symm.trans ha')
    have hptype' : parent'.assetType = parent.assetType := congrArg Prod.fst hpp.key
    have hpvalue : parent'.normalizedValue = parent.normalizedValue := congrArg Prod.snd hpp.key
    refine ⟨r, rel'', parent', hrow'', hrr.type.trans hserves, hrr.target.trans htarget,
      hrr.source ▸ hparent', t, ht, host, p, hprobes, ?_, ?_, ?_⟩
    · rwa [hptype']
    · rw [hpvalue]
      exact hnorm
    · rw [haa.childPort]
      exact hport
  all_goals cases mem_singleton.1 hctype

/-- **The coverage of a run of httpx**, for every list of targets and every configuration: it is
returned, its entries are exact, and every platform that ingests it respects the endpoints,
exactly when every `host:port` target splits and no bare name reads as an address. -/
theorem httpxCoverage_iff (T : Tables Json) (cfg : Httpx.Config T.unicode)
    (targets : List (Target T.unicode)) (observed tls : List Str) :
    (∃ covs, Httpx.coverage cfg targets observed tls = some covs ∧
      Httpx.CoverageExact cfg targets (Httpx.servesEntries covs) ∧
      ∀ (ctx : IngestContext) (rows : Rows Json) (result : SensorResult Json) (st' : Ingestor Json),
        rows.Valid → result.coverage = covs → ingest T ctx rows result = some st' →
        EndpointsRespected T cfg targets rows st'.rows) ↔
    (∀ t ∈ targets, t.kind = .hostPort → ∃ r, splitHostPort T.unicode t.value = .ok r) ∧
      ∀ t ∈ targets, t.kind = .hostname → cleanIp (.str t.value) = none := by
  rw [← Httpx.grouped_eq_some_iff cfg]
  constructor
  · rintro ⟨covs, hcov, hexact, -⟩
    obtain ⟨groups, hgroups, -⟩ := map_eq_some_iff.1 hcov
    obtain ⟨covs', hcov', hserves⟩ := Httpx.servesEntries_coverage observed tls hgroups
    obtain rfl : covs = covs' := some_inj.1 (hcov.symm.trans hcov')
    rw [hserves] at hexact
    exact ⟨⟨groups, hgroups⟩, (Httpx.coverageExact_iff hgroups).1 hexact⟩
  · rintro ⟨⟨groups, hgroups⟩, hnames⟩
    obtain ⟨covs, hcov, hserves⟩ := Httpx.servesEntries_coverage observed tls hgroups
    refine ⟨covs, hcov, ?_, fun ctx rows result st' hv hresult hrun => endpointsRespected hv hcov hresult hrun⟩
    rw [hserves]
    exact (Httpx.coverageExact_iff hgroups).2 hnames

/-! ## A name that reads as an address -/

def webPort : Httpx.Config jsonTables.unicode where
  ports := "443".toList
  normalized := .inr ⟨"443".toList, "443".toList, by decide +kernel, by decide +kernel⟩

def dottedName : Target jsonTables.unicode :=
  ⟨.hostname, "192.0.2.7".toList, "192.0.2.7".toList, by decide +kernel⟩

def dottedPort : Target jsonTables.unicode :=
  ⟨.hostPort, "192.0.2.7:8080".toList, "192.0.2.7:8080".toList, by decide +kernel⟩

/-- The same host stands in two entries, as a name with one port and as an address with the
other. -/
theorem dottedName_twice : (Httpx.coverage webPort [dottedName, dottedPort] [] []).map (fun covs =>
      (Httpx.servesEntries covs).map fun e => (e.parentType, e.parents, e.constraints.portSpec)) =
      some [(.hostname, ["192.0.2.7".toList], some "443".toList),
        (.ipAddress, ["192.0.2.7".toList], some "8080".toList)] ∧
    ¬ ∃ covs, Httpx.coverage webPort [dottedName, dottedPort] [] [] = some covs ∧
      Httpx.CoverageExact webPort [dottedName, dottedPort] (Httpx.servesEntries covs) ∧
      ∀ (ctx : IngestContext) (rows : Rows Json) (result : SensorResult Json) (st' : Ingestor Json),
        rows.Valid → result.coverage = covs → ingest jsonTables ctx rows result = some st' →
        EndpointsRespected jsonTables webPort [dottedName, dottedPort] rows st'.rows := by
  have hentries : (Httpx.coverage webPort [dottedName, dottedPort] [] []).map (fun covs =>
      (Httpx.servesEntries covs).map fun e => (e.parentType, e.parents, e.constraints.portSpec)) =
      some [(.hostname, ["192.0.2.7".toList], some "443".toList),
        (.ipAddress, ["192.0.2.7".toList], some "8080".toList)] := by decide +kernel
  refine ⟨hentries, ?_⟩
  rintro ⟨covs, hcov, hexact, -⟩
  rw [hcov, map_some, some_inj] at hentries
  obtain ⟨e, hone, -⟩ := hexact.one dottedName (by simp) "192.0.2.7".toList (.inl ⟨.inl rfl, rfl⟩)
  -- both entries hold the host
  have htwo : ((Httpx.servesEntries covs).filter fun e => decide ("192.0.2.7".toList ∈ e.parents)).length = 2 := by
    have hall : ∀ e ∈ Httpx.servesEntries covs, e.parents = ["192.0.2.7".toList] := by
      intro e he
      have hin := List.mem_map_of_mem (f := fun e : RelationCoverage =>
        (e.parentType, e.parents, e.constraints.portSpec)) he
      rw [hentries, mem_pair] at hin
      rcases hin with h | h
      all_goals exact congrArg (fun x => x.2.1) h
    rw [filter_eq_self.2 fun e he => by simp [hall e he], ← length_map, hentries]
    rfl
  rw [hone] at htwo
  cases htwo

end App.Assets
