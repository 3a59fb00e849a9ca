import AttackSurface.Assets.Reasons
import AttackSurface.Sensors.Adapters

/-!
# Which ports a port scan closes

Ingesting a complete run of naabu counts misses for ports that the run covered and did not
find open.  `PortsRespected` is what such a run may do: a relation or port it counts or closes
has a number that was probed on that address, and the protocol of the scan.

The platform reads the ports of the coverage and not its protocol, so a udp port whose number
was probed is counted by a TCP scan.  That is the only way in which the ports are not
respected:

    PortsRespected  ↔  every relation that is about to be counted leads to a tcp port
                                                              (portsRespected_iff)
-/

namespace App.Assets

open PyText PyNet PyJson AsmSensors App.Scans App.Scope App.Findings

/-! ## What a run of naabu probed -/

variable {T : Tables Json} {ctx : IngestContext} {rows : Rows Json} {result : SensorResult Json}
  {st st' : Ingestor Json} {cfg : Naabu.Config T.unicode} {targets : List (Target T.unicode)}

def probedSpec (T : Tables Json) (cfg : Naabu.Config T.unicode) (address : AssetRow Json) : Str :=
  if cfg.excludeCdn && (address.metadata.lookup "cdn".toList).any T.truthy then "80,443".toList
  else cfg.portSpec

def Probed (T : Tables Json) (cfg : Naabu.Config T.unicode) (address port : AssetRow Json)
    (protocol : Str) : Prop :=
  ∃ host n, parsePortValue T.unicode port.normalizedValue = some (host, n, protocol) ∧
    (n : ℤ) ∈ ports T.unicode (probedSpec T cfg address)

lemma validatePortSpec_nil (U : Unicode) : validatePortSpec U [] = none := by
  have hranges : portRanges U [] = none := by
    simp [portRanges, portRange, isPortDigits, partition]
  simp [validatePortSpec, hranges]

lemma cdnSpec_valid (U : Unicode) : ∃ v, validatePortSpec U "80,443".toList = some v := by
  have hascii : "80,443".toList.all isAscii = true := by decide +kernel
  have hvalid : (validatePortSpec asciiUnicode "80,443".toList).isSome = true := by decide +kernel
  rw [validatePortSpec_ascii (List.all_eq_true.1 hascii)]
  exact Option.isSome_iff_exists.1 hvalid

section

variable (cfg : Naabu.Config T.unicode)

lemma portSpec_valid : validatePortSpec T.unicode cfg.portSpec = some cfg.portSpec := by
  obtain ⟨v, hv⟩ := cfg.written_valid
  obtain ⟨n, hn, hvalid, -⟩ := normalizeSpec_spec hv
  rw [cfg.portSpec_eq, Option.some_inj] at hn
  rwa [hn]

lemma portSpec_ne_nil : cfg.portSpec ≠ [] := by
  intro h
  have hvalid := portSpec_valid cfg
  rw [h, validatePortSpec_nil] at hvalid
  cases hvalid

lemma probedSpec_valid (address : AssetRow Json) :
    ∃ v, validatePortSpec T.unicode (probedSpec T cfg address) = some v := by
  unfold probedSpec
  split
  · exact cdnSpec_valid T.unicode
  · exact ⟨_, portSpec_valid cfg⟩

end

variable {address port : AssetRow Json}

lemma inProbedPorts_eq (hport : port.assetType = .port) :
    inProbedPorts T (Naabu.coverage cfg targets) address port =
      match parsePortValue T.unicode port.normalizedValue with
      | none => some false
      | some p => portInSpec T.unicode p.2.1 (probedSpec T cfg address) := by
  have hspec : (some cfg.portSpec).filter (fun s => decide (s ≠ [])) = some cfg.portSpec :=
    Option.filter_some_pos (by simpa using portSpec_ne_nil cfg)
  unfold inProbedPorts
  simp only [Naabu.coverage, hspec, childPort, hport]
  cases hparse : parsePortValue T.unicode port.normalizedValue with
  | none => rfl
  | some p =>
    simp only [Option.map_some, probedSpec]
    cases hcdn : cfg.excludeCdn with
    | false => rfl
    | true =>
      have hfilter : (some "80,443".toList).filter (fun s => decide (s ≠ [])) = some "80,443".toList := rfl
      simp only [if_true, hfilter, Bool.true_and]
      split <;> rfl

lemma inProbedPorts_iff (hport : port.assetType = .port) :
    inProbedPorts T (Naabu.coverage cfg targets) address port = some true ↔
      ∃ protocol, Probed T cfg address port protocol := by
  rw [inProbedPorts_eq hport]
  obtain ⟨v, hv⟩ := probedSpec_valid cfg address
  constructor
  · intro h
    cases hparse : parsePortValue T.unicode port.normalizedValue with
    | none => simp [hparse] at h
    | some p =>
      simp only [hparse] at h
      obtain ⟨b, hb, hiff⟩ := portInSpec_iff hv p.2.1
      rw [hb, Option.some_inj] at h
      exact ⟨p.2.2, p.1, p.2.1, hparse, hiff.1 h⟩
  · rintro ⟨protocol, host, n, hparse, hn⟩
    obtain ⟨b, hb, hiff⟩ := portInSpec_iff hv n
    simp only [hparse, hb, hiff.2 hn]

lemma AssetOnward.probed {a a' p p' : AssetRow Json} {protocol : Str} (ha : AssetOnward a a')
    (hp : AssetOnward p p') : Probed T cfg a' p' protocol ↔ Probed T cfg a p protocol := by
  have hval : p'.normalizedValue = p.normalizedValue := congrArg Prod.snd hp.key
  unfold Probed probedSpec
  rw [hval, ha.metadata]

/-! ## What is counted and closed -/

/-- Ports and their relations are counted as missed, or closed, only where this protocol was
probed. -/
structure PortsRespected (T : Tables Json) (cfg : Naabu.Config T.unicode) (rows after : Rows Json) :
    Prop where
  relation : ∀ (r : Nat) (rel rel' : RelationRow Json), rows.relations[r]? = some rel →
    rel.relationType = .hasPort → after.relations[r]? = some rel' → rel.Lost rel' →
    ∃ address port, after.assets[rel.sourceAssetId]? = some address ∧
      after.assets[rel.targetAssetId]? = some port ∧ Probed T cfg address port Naabu.protocol
  asset : ∀ (id : Nat) (a a' : AssetRow Json), rows.assets[id]? = some a → a.assetType = .port →
    after.assets[id]? = some a' → a.Lost a' →
    ∃ (r : Nat) (rel : RelationRow Json) (address : AssetRow Json), after.relations[r]? = some rel ∧
      rel.relationType = .hasPort ∧ rel.targetAssetId = id ∧
      after.assets[rel.sourceAssetId]? = some address ∧ Probed T cfg address a' Naabu.protocol

/-- The relation is active, was not observed, and leads from an address that the run covered to a
port whose number it probed there. -/
structure AboutToMiss (T : Tables Json) (cfg : Naabu.Config T.unicode) (targets : List (Target T.unicode))
    (st : Ingestor Json) (rel : RelationRow Json) (address port : AssetRow Json) (protocol : Str) :
    Prop where
  type : rel.relationType = .hasPort
  active : rel.active = true
  unobserved : rel.key ∉ st.observedRels
  covered : rel.sourceAssetId ∈
    st.rows.parents T .ipAddress (targetValues targets .ip) (targetValues targets .cidr)
  source : st.rows.assets[rel.sourceAssetId]? = some address
  target : st.rows.assets[rel.targetAssetId]? = some port
  isPort : port.assetType = .port
  probed : Probed T cfg address port protocol

lemma coveredRelations_naabu {r : Nat} : r ∈ st.coveredRelations T (Naabu.coverage cfg targets) ↔
      ∃ rel address port protocol, st.rows.relations[r]? = some rel ∧
        AboutToMiss T cfg targets st rel address port protocol := by
  have hmem : ∀ t : AssetType, t ∈ assetTypesOf .port ↔ t = .port := by
    intro t
    simp [assetTypesOf, assetTypeFor]
  rw [coveredRelations_iff]
  constructor
  · rintro ⟨rel, address, port, hrel, hcov, htype, hlive, hkey, ha, hp, hport, hprobed⟩
    have hport := (hmem _).1 hport
    obtain ⟨protocol, hprobed⟩ := (inProbedPorts_iff hport).1 hprobed
    exact ⟨rel, address, port, protocol, hrel, htype, hlive, hkey, hcov, ha, hp, hport, hprobed⟩
  · rintro ⟨rel, address, port, protocol, hrel, h⟩
    exact ⟨rel, address, port, hrel, h.covered, h.type, h.active, h.unobserved, h.source, h.target,
      (hmem _).2 h.isPort, (inProbedPorts_iff h.isPort).2 ⟨protocol, h.probed⟩⟩

/-- A row that the coverage of a run reaches: a relation about to be missed, or its port. -/
lemma mem_reach_naabu {seen : List Nat} {x : Item}
    (hx : x ∈ [Coverage.relation (Naabu.coverage cfg targets)].flatMap (st.reach T ctx seen)) :
    ∃ r rel address port protocol, st.rows.relations[r]? = some rel ∧
      AboutToMiss T cfg targets st rel address port protocol ∧
      (x = .relation r ∨ x = .asset rel.targetAssetId) := by
  rw [List.flatMap_singleton] at hx
  cases x with
  | relation r =>
    obtain ⟨rel, address, port, protocol, hrel, hmiss⟩ := coveredRelations_naabu.1 (relation_mem_reach.1 hx)
    exact ⟨r, rel, address, port, protocol, hrel, hmiss, .inl rfl⟩
  | asset id =>
    obtain ⟨r, rel, hrel, rfl, hr⟩ := asset_mem_reach hx
    obtain ⟨rel', address, port, protocol, hrel', hmiss⟩ := coveredRelations_naabu.1 hr
    obtain rfl : rel' = rel := Option.some_inj.1 (hrel'.symm.trans hrel)
    exact ⟨r, rel', address, port, protocol, hrel, hmiss, .inr rfl⟩
  | finding id =>
    exfalso
    rw [Ingestor.reach, List.mem_flatMap] at hx
    obtain ⟨r, hr, hx⟩ := hx
    obtain ⟨rel, p, c, hrel, -⟩ := coveredRelations_iff.1 hr
    rw [Rows.pathsOf, hrel] at hx
    simp only at hx
    split at hx <;> simp at hx

lemma falls_naabu {seen : List Nat} {i : Nat}
    (h : st.rows.Falls ([Coverage.relation (Naabu.coverage cfg targets)].flatMap (st.reach T ctx seen)) i) :
    ∃ a, st.rows.assets[i]? = some a ∧ (a.assetType = .service ∨ a.assetType = .port ∧
      ∃ (r : Nat) (rel : RelationRow Json) (address port : AssetRow Json) (protocol : Str),
        st.rows.relations[r]? = some rel ∧ rel.targetAssetId = i ∧
        AboutToMiss T cfg targets st rel address port protocol) := by
  induction h with
  | missed hx =>
    obtain ⟨r, rel, address, port, protocol, hrel, hmiss, heq⟩ := mem_reach_naabu hx
    rcases heq with heq | heq
    · cases heq
    · cases heq
      exact ⟨port, hmiss.target, .inr ⟨hmiss.isPort, r, rel, address, port, protocol, hrel, rfl, hmiss⟩⟩
  | left hx hrel =>
    obtain ⟨r, rel, address, port, protocol, hrel', hmiss, heq⟩ := mem_reach_naabu hx
    rcases heq with heq | heq
    · cases heq
      rw [hrel, Option.some_inj] at hrel'
      subst hrel'
      exact ⟨port, hmiss.target, .inr ⟨hmiss.isPort, _, _, address, port, protocol, hrel, rfl, hmiss⟩⟩
    · cases heq
  | owned howns _ ih =>
    obtain ⟨p, hp, hkind⟩ := howns.owner
    obtain ⟨a, ha, htype⟩ := ih
    obtain rfl : p = a := Option.some_inj.1 (hp.symm.trans ha)
    refine ⟨_, howns.child, .inl ?_⟩
    rcases htype with htype | ⟨htype, -⟩
    · simp [htype, ownedChildren] at hkind
    · simp only [htype, ownedChildren, List.mem_singleton, Prod.mk.injEq] at hkind
      exact hkind.2

section Run

variable {seen : List Nat} (hsight : Sighted ctx rows seen st)
  (hrun : [Coverage.relation (Naabu.coverage cfg targets)].foldlM (Ingestor.applyCoverage T ctx seen) st =
    some st')

include hsight hrun

/-- A relation that is about to be missed is counted, and stood in the table before. -/
lemma AboutToMiss.lost {r : Nat} {rel : RelationRow Json} {address port : AssetRow Json}
    {protocol : Str} (hrel : st.rows.relations[r]? = some rel)
    (hmiss : AboutToMiss T cfg targets st rel address port protocol) :
    ∃ rel₀ rel', rows.relations[r]? = some rel₀ ∧ rel₀.key = rel.key ∧
      st'.rows.relations[r]? = some rel' ∧ rel₀.Lost rel' := by
  have hentry : st.applyRelationCoverage T ctx (Naabu.coverage cfg targets) = some st' := by
    simpa [Ingestor.applyCoverage] using hrun
  obtain ⟨rel', hrel', hlost⟩ := covered_counted hsight.settled hentry
    (coveredRelations_naabu.2 ⟨rel, address, port, protocol, hrel, hmiss⟩) hrel
  obtain ⟨rel₀, hrel₀, hkey, hcount, hlive⟩ := hsight.unobserved_relation hrel hmiss.unobserved
  refine ⟨rel₀, rel', hrel₀, hkey, hrel', ?_⟩
  rcases hlost with hlt | ⟨hactive, hshut⟩
  · left
    omega
  · exact .inr ⟨hlive hactive, hshut⟩

/-- A relation to a port that is counted or closed was about to be missed: only an address owns a
port, and no address falls. -/
lemma hasPort_lost {r : Nat} {rel rel' : RelationRow Json} (hrel : rows.relations[r]? = some rel)
    (htype : rel.relationType = .hasPort) (hrel' : st'.rows.relations[r]? = some rel')
    (hlost : rel.Lost rel') :
    ∃ rel₁ address port protocol, st.rows.relations[r]? = some rel₁ ∧ rel₁.key = rel.key ∧
      AboutToMiss T cfg targets st rel₁ address port protocol := by
  obtain ⟨rel₁, hrel₁, hkey, hreason⟩ := hsight.relation_lost hrun hrel (by simp [htype]) hrel' hlost
  rcases hreason with hreached | ⟨c, howns, hfalls⟩
  · obtain ⟨q, rel₂, address, port, protocol, hrel₂, hmiss, heq⟩ := mem_reach_naabu hreached
    rcases heq with heq | heq
    · cases heq
      obtain rfl : rel₁ = rel₂ := Option.some_inj.1 (hrel₁.symm.trans hrel₂)
      exact ⟨rel₁, address, port, protocol, hrel₁, hkey, hmiss⟩
    · cases heq
  exfalso
  obtain ⟨p, hp, hkind⟩ := howns.owner
  obtain ⟨a, ha, hatype⟩ := falls_naabu hfalls
  obtain rfl : p = a := Option.some_inj.1 (hp.symm.trans ha)
  have htype₁ : rel₁.relationType = .hasPort := (congrArg (fun k => k.2.2) hkey).trans htype
  rcases hatype with hatype | ⟨hatype, -⟩
  all_goals simp [htype₁, hatype, ownedChildren] at hkind

/-- A port that is counted or closed is the target of a relation that was about to be missed. -/
lemma port_lost {id : Nat} {a a' : AssetRow Json} (ha : rows.assets[id]? = some a)
    (htype : a.assetType = .port) (ha' : st'.rows.assets[id]? = some a') (hlost : a.Lost a') :
    ∃ (r : Nat) (rel : RelationRow Json) (address port : AssetRow Json) (protocol : Str),
      st.rows.relations[r]? = some rel ∧ rel.targetAssetId = id ∧
      AboutToMiss T cfg targets st rel address port protocol := by
  obtain ⟨a₁, ha₁, hkey, hfalls⟩ := hsight.asset_lost hrun ha ha' hlost
  obtain ⟨b, hb, hbtype⟩ := falls_naabu hfalls
  obtain rfl : a₁ = b := Option.some_inj.1 (ha₁.symm.trans hb)
  have htype₁ : a₁.assetType = .port := (congrArg Prod.fst hkey).trans htype
  rcases hbtype with hbtype | ⟨-, hmiss⟩
  · rw [htype₁] at hbtype
    cases hbtype
  · exact hmiss

end Run

/-- **The ports are respected** by a complete run of naabu exactly when every relation that is
about to be counted as missed leads to a port of the protocol that the coverage declares. -/
theorem portsRespected_iff (hv : rows.Valid) (hcov : result.coverage = [.relation (Naabu.coverage cfg targets)])
    (hrun : ingest T ctx rows result = some st') :
    PortsRespected T cfg rows st'.rows ↔
      ∀ (r : Nat) (rel : RelationRow Json) (address port : AssetRow Json) (protocol : Str),
        (observe T ctx rows result).1.rows.relations[r]? = some rel →
        AboutToMiss T cfg targets (observe T ctx rows result).1 rel address port protocol →
        protocol = Naabu.protocol := by
  set st := (observe T ctx rows result).1
  set seen := (observe T ctx rows result).2
  have hsight : Sighted ctx rows seen st := observe_sighted hv result
  have hpasses : [Coverage.relation (Naabu.coverage cfg targets)].foldlM
      (Ingestor.applyCoverage T ctx seen) st = some st' := by
    rw [← hcov]
    exact hrun
  have honward : Onward st st' := (coverage_passes hsight.settled hpasses).onward
  constructor
  · intro hresp r rel address port protocol hrel hmiss
    obtain ⟨rel₀, rel', hrel₀, hkey, hrel', hlost⟩ := hmiss.lost hsight hpasses hrel
    have htarget : rel₀.targetAssetId = rel.targetAssetId := congrArg (fun k => k.2.1) hkey
    have htype : rel₀.relationType = rel.relationType := congrArg (fun k => k.2.2) hkey
    obtain ⟨a', p', ha', hp', hprobed⟩ :=
      hresp.relation r rel₀ rel' hrel₀ (htype.trans hmiss.type) hrel' hlost
    rw [htarget] at hp'
    obtain ⟨a, ha, haa⟩ := honward.asset_before ha'
    obtain ⟨p, hp, hpp⟩ := honward.asset_before hp'
    obtain rfl : port = p := Option.some_inj.1 (hmiss.target.symm.trans hp)
    obtain ⟨host, n, hparse, -⟩ := (haa.probed hpp).1 hprobed
    obtain ⟨host', n', hparse', -⟩ := hmiss.probed
    rw [hparse, Option.some_inj] at hparse'
    exact (congrArg (fun p => p.2.2) hparse').symm
  intro hall
  -- what is about to be missed is probed, and of the right protocol
  have hgood : ∀ {r : Nat} {rel : RelationRow Json} {address port : AssetRow Json} {protocol : Str},
      st.rows.relations[r]? = some rel → AboutToMiss T cfg targets st rel address port protocol →
      ∃ a' p', st'.rows.assets[rel.sourceAssetId]? = some a' ∧
        st'.rows.assets[rel.targetAssetId]? = some p' ∧ Probed T cfg a' p' Naabu.protocol := by
    intro r rel address port protocol hrel hmiss
    obtain ⟨a', ha', haa⟩ := honward.asset_after hmiss.source
    obtain ⟨p', hp', hpp⟩ := honward.asset_after hmiss.target
    have hprobed := hmiss.probed
    rw [hall r rel address port protocol hrel hmiss] at hprobed
    exact ⟨a', p', ha', hp', (haa.probed hpp).2 hprobed⟩
  constructor
  · intro r rel rel' hrel htype hrel' hlost
    obtain ⟨rel₁, address, port, protocol, hrel₁, hkey, hmiss⟩ :=
      hasPort_lost hsight hpasses hrel htype hrel' hlost
    have hsource : rel₁.sourceAssetId = rel.sourceAssetId := congrArg Prod.fst hkey
    have htarget : rel₁.targetAssetId = rel.targetAssetId := congrArg (fun k => k.2.1) hkey
    rw [← hsource, ← htarget]
    exact hgood hrel₁ hmiss
  intro id a a' ha htype ha' hlost
  obtain ⟨r, rel, address, port, protocol, hrel, htarget, hmiss⟩ :=
    port_lost hsight hpasses ha htype ha' hlost
  obtain ⟨address', port', haddr', hport', hprobed⟩ := hgood hrel hmiss
  obtain ⟨rel', hrel', hrr⟩ := honward.relation_after hrel
  rw [htarget, ha', Option.some_inj] at hport'
  subst hport'
  exact ⟨r, rel', address', hrel', hrr.type.trans hmiss.type, hrr.target.trans htarget,
    hrr.source ▸ haddr', hprobed⟩

/-! ## A udp port and a TCP scan -/

/-- Tables for JSON attributes that know no public suffix and no cloud provider. -/
def jsonTables : Tables Json where
  unicode := asciiUnicode
  registrableDomain := fun _ => none
  matchHostname := fun _ => none
  providerForAsn := fun _ => none
  isNone := isNull
  truthy := truthy
  ofStr := .str
  ofBool := .bool
  toInt := fun v => match v with
    | .num (.int n) => some n
    | _ => none
  ids := { sha256 := id, tenantId := [], assetId := fun i => List.replicate i 'i' }
  keyOrder := id
  keyOrder_perm := List.Perm.refl
  hostnameTypes := hostnameAssetTypes
  hostnameTypes_perm := List.Perm.refl _

def onePort (port : Str) : Rows Json where
  assets := [
    { assetType := .ipAddress, normalizedValue := "203.0.113.5".toList },
    { assetType := .port, normalizedValue := port }]
  relations := [{ sourceAssetId := 0, targetAssetId := 1, relationType := .hasPort }]

def portScan : IngestContext where
  checker := { rules := [], allowNonPublic := false, nets := [], nets_eq := netsOf_nil }
  source := "naabu".toList

def scannedAddress : Target jsonTables.unicode :=
  ⟨.ip, "203.0.113.5".toList, "203.0.113.5".toList, by decide +kernel⟩

def namePort : Naabu.Config jsonTables.unicode where
  portSet := .custom
  customPorts := some "53".toList
  validPorts := fun _ h => .inr ⟨"53".toList, by cases h; decide +kernel⟩
  customNeedsPorts := fun _ => ⟨"53".toList, rfl, by decide⟩

def nothingOpen : SensorResult Json :=
  (Naabu.normalize ⟨fun _ => [], fun _ => none, id⟩ namePort [scannedAddress] []).completed
    "naabu".toList 1

/-- A TCP scan of port 53 counts a miss for `53/udp`. -/
theorem udp_port_missed : (onePort "203.0.113.5:53/udp".toList).Valid ∧ ∃ st',
    ingest jsonTables portScan (onePort "203.0.113.5:53/udp".toList) nothingOpen = some st' ∧
      ¬ PortsRespected jsonTables namePort (onePort "203.0.113.5:53/udp".toList) st'.rows := by
  refine ⟨⟨by decide, by decide, by decide⟩, ?_⟩
  set rows := onePort "203.0.113.5:53/udp".toList with hrows
  have hsome : (ingest jsonTables portScan rows nothingOpen).isSome = true := by decide +kernel
  obtain ⟨st', hst'⟩ := Option.isSome_iff_exists.1 hsome
  have hvalues : (ingest jsonTables portScan rows nothingOpen).map (fun st =>
      (st.rows.relations.map RelationRow.missedCount, st.rows.assets.map AssetRow.normalizedValue)) =
      some ([1], ["203.0.113.5".toList, "203.0.113.5:53/udp".toList]) := by decide +kernel
  rw [hst', Option.map_some, Option.some_inj, Prod.mk.injEq] at hvalues
  refine ⟨st', hst', fun hresp => ?_⟩
  obtain ⟨rel', hrel', hone⟩ : ∃ rel', st'.rows.relations[0]? = some rel' ∧ rel'.missedCount = 1 := by
    have h0 := congrArg (·[0]?) hvalues.1
    simpa [List.getElem?_map, Option.map_eq_some_iff] using h0
  obtain ⟨address, port, -, hport, host, n, hparse, -⟩ :=
    hresp.relation 0 _ rel' (by rw [hrows]; rfl) rfl hrel' (.inl (by rw [hone]; decide))
  have hvalue : port.normalizedValue = "203.0.113.5:53/udp".toList := by
    have h1 := congrArg (·[1]?) hvalues.2
    simp only [List.getElem?_map] at h1
    have hport' : st'.rows.assets[1]? = some port := hport
    rw [hport'] at h1
    simpa using h1
  have hudp : parsePortValue jsonTables.unicode "203.0.113.5:53/udp".toList =
      some ("203.0.113.5".toList, 53, "udp".toList) := by decide +kernel
  rw [hvalue, hudp, Option.some_inj, Prod.mk.injEq, Prod.mk.injEq] at hparse
  exact absurd hparse.2.2 (by decide +kernel)

/-- A TCP port that is no longer open is counted, as it should be. -/
theorem tcp_port_missed : ∃ st', ingest jsonTables portScan (onePort "203.0.113.5:53/tcp".toList) nothingOpen =
    some st' ∧ st'.rows.relations.map RelationRow.missedCount = [1] ∧
      PortsRespected jsonTables namePort (onePort "203.0.113.5:53/tcp".toList) st'.rows := by
  set rows := onePort "203.0.113.5:53/tcp".toList with hrows
  have hcount : (ingest jsonTables portScan rows nothingOpen).map (fun st =>
      st.rows.relations.map RelationRow.missedCount) = some [1] := by decide +kernel
  obtain ⟨st', hst', hone⟩ := Option.map_eq_some_iff.1 hcount
  have hv : rows.Valid := ⟨by decide, by decide, by decide⟩
  refine ⟨st', hst', hone, (portsRespected_iff hv rfl hst').2 ?_⟩
  intro r rel address port protocol _ hmiss
  have hkeys : (observe jsonTables portScan rows nothingOpen).1.rows.assets.map AssetRow.key =
      [(.ipAddress, "203.0.113.5".toList), (.port, "203.0.113.5:53/tcp".toList)] := by decide +kernel
  have hport : port.key ∈ (observe jsonTables portScan rows nothingOpen).1.rows.assets.map AssetRow.key :=
    List.mem_map_of_mem (List.mem_of_getElem? hmiss.target)
  rw [hkeys, List.mem_pair] at hport
  have hvalue : port.normalizedValue = "203.0.113.5:53/tcp".toList := by
    rcases hport with h | h
    · have htype : port.assetType = .ipAddress := congrArg Prod.fst h
      rw [hmiss.isPort] at htype
      cases htype
    · exact congrArg Prod.snd h
  have htcp : parsePortValue jsonTables.unicode "203.0.113.5:53/tcp".toList =
      some ("203.0.113.5".toList, 53, "tcp".toList) := by decide +kernel
  obtain ⟨host, n, hparse, -⟩ := hmiss.probed
  rw [hvalue, htcp, Option.some_inj, Prod.mk.injEq, Prod.mk.injEq] at hparse
  exact hparse.2.2.symm

end App.Assets
