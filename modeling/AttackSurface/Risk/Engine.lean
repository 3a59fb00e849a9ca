import AttackSurface.Changes.Knowledge
import AttackSurface.Findings.Service
import AttackSurface.Text.Numbers
import AttackSurface.Text.Json

/-!
# Risk scoring (`app/risk/engine.py`)

The score of a finding and of an asset, with the factors that explain it.  Points and totals
are exact rationals; a score is the total, clamped to `0 … 100` and rounded half to even.
Time is counted in microseconds.

    0 ≤ score ≤ 100                        (scoreFinding_range, scoreAsset_range)
    every child's score ≤ score            (child_le_scoreAsset)
-/

namespace App.Risk

open PyText PyNumber AsmSensors App.Scans App.Scope App.Findings App.Changes

inductive RiskLevel
  | info
  | low
  | medium
  | high
  | critical
deriving DecidableEq, Repr

inductive ApprovalStatus
  | unverified
  | approved
  | expected
  | thirdParty
  | unknown
  | unauthorized
  | decommissioned
deriving DecidableEq, Repr

inductive Criticality
  | low
  | medium
  | high
  | critical
deriving DecidableEq, Repr

def Criticality.value : Criticality → Str
  | .low => "low".toList
  | .medium => "medium".toList
  | .high => "high".toList
  | .critical => "critical".toList

def severityValue : Severity → Str
  | .info => "info".toList
  | .low => "low".toList
  | .medium => "medium".toList
  | .high => "high".toList
  | .critical => "critical".toList

structure Levels where
  critical : ℚ := 80
  high : ℚ := 60
  medium : ℚ := 35
  low : ℚ := 15

/-- `settings.risk` of a tenant, with the defaults of `app/tenants/settings.py`. -/
structure RiskConfig where
  severityPoints : Severity → ℚ := fun
    | .critical => 55
    | .high => 40
    | .medium => 25
    | .low => 10
    | .info => 2
  kevPoints : ℚ := 20
  epssMaxPoints : ℚ := 18
  exploitPoints : ℚ := 8
  exposurePoints : ℚ := 5
  managementInterfacePoints : ℚ := 10
  authExposurePoints : ℚ := 4
  riskyPortPoints : ℚ := 6
  criticalityPoints : Criticality → ℚ := fun
    | .low => 0
    | .medium => 4
    | .high => 9
    | .critical => 14
  shadowItPoints : ℚ := 5
  unauthorizedPoints : ℚ := 10
  newAssetPoints : ℚ := 3
  newAssetDays : ℚ := 7
  agePointsPer30Days : ℚ := 2
  ageMaxPoints : ℚ := 8
  levels : Levels := {}

inductive FactorKey
  | severity
  | kev
  | exploit
  | epss
  | exposure
  | managementInterface
  | authExposure
  | riskyPort
  | criticality
  | unauthorized
  | shadowIt
  | newAsset
  | age
  | confidence
  | topFinding
  | moreFindings
  | exposedService
  | cap
  | child
deriving DecidableEq, Repr

structure Factor where
  key : FactorKey
  label : Str
  points : ℚ
deriving DecidableEq

structure RiskResult where
  score : Int
  level : RiskLevel
  factors : List Factor
deriving DecidableEq

/-- The entries of `Asset.meta` that scoring reads. -/
structure AssetMeta where
  title : Option Str := none
  technologies : List Str := []
  managementInterface : Option Str := none

/-- The columns of an asset that scoring reads or writes. -/
structure Asset where
  id : Nat
  assetType : AssetType
  value : Str
  normalizedValue : Str
  status : AssetStatus := .active
  scopeStatus : ScopeStatus := .inScope
  approvalStatus : ApprovalStatus := .unverified
  criticality : Criticality := .medium
  firstSeen : Int
  info : AssetMeta := {}
  riskScore : Int := 0
  riskLevel : RiskLevel := .info
  riskFactors : List Factor := []
  openFindings : Nat := 0

/-- The columns of a finding that scoring reads or writes. -/
structure Finding where
  id : Nat
  assetId : Nat
  severity : Severity
  status : FindingStatus := .new
  unverified : Bool := false
  cvssScore : Option ℚ := none
  epssScore : Option ℚ := none
  kev : Bool := false
  exploitAvailable : Bool := false
  confidence : Int := 90
  tags : List Str := []
  firstSeen : Int
  riskScore : Int := 0
  riskLevel : RiskLevel := .info
  riskFactors : List Factor := []

def levelFor (score : Int) (cfg : RiskConfig) : RiskLevel :=
  if cfg.levels.critical ≤ score then .critical
  else if cfg.levels.high ≤ score then .high
  else if cfg.levels.medium ≤ score then .medium
  else if cfg.levels.low ≤ score then .low
  else .info

/-- `timedelta.days`. -/
def days (microseconds : Int) : Int := microseconds / 86400000000

variable (U : Unicode) (asset : Asset)

/-- `_port_of`: the number behind the last colon, up to a slash. -/
def portOf : Option Int :=
  if asset.assetType = .port ∨ asset.assetType = .service then
    (rpartition ':' asset.normalizedValue).bind fun p =>
      parseInt U (((partition '/' p.2).map Prod.fst).getD p.2)
  else none

def total (factors : List Factor) : ℚ := (factors.map Factor.points).sum

def managementOf (info : AssetMeta) : Option Str :=
  (info.managementInterface.filter (· ≠ [])).or
    (managementInterface U [info.title, some ([' '].intercalate info.technologies)])

variable (cfg : RiskConfig)

def interfaceFactors : List Factor :=
  match managementOf U asset.info with
  | some label =>
    [⟨.managementInterface, "Exposed administrative interface (".toList ++ label ++ [')'],
      cfg.managementInterfacePoints⟩]
  | none =>
    if asset.assetType = .httpEndpoint ∧ looksLikeLogin U asset.info.title = true then
      [⟨.authExposure, "Exposed authentication surface".toList, cfg.authExposurePoints⟩]
    else []

def approvalFactors : List Factor :=
  match asset.approvalStatus with
  | .unauthorized => [⟨.unauthorized, "Asset marked unauthorized".toList, cfg.unauthorizedPoints⟩]
  | .unverified | .unknown =>
    [⟨.shadowIt, "Unknown ownership (potential shadow IT)".toList, cfg.shadowItPoints⟩]
  | _ => []

/-- `exposure_factors`: the exposure and business context of an asset. -/
def exposureFactors (now : Int) : List Factor :=
  (if asset.scopeStatus = .inScope ∨ asset.scopeStatus = .derived then
    [⟨.exposure, "Internet-facing asset".toList, cfg.exposurePoints⟩] else []) ++
  interfaceFactors U asset cfg ++
  ((riskyPort (portOf U asset)).toList.map fun r =>
    ⟨.riskyPort, "High-risk service exposed (".toList ++ r.1 ++ [')'], cfg.riskyPortPoints⟩) ++
  (if cfg.criticalityPoints asset.criticality ≠ 0 then
    [⟨.criticality, "Business criticality: ".toList ++ asset.criticality.value,
      cfg.criticalityPoints asset.criticality⟩] else []) ++
  approvalFactors asset cfg ++
  (if days (now - asset.firstSeen) < cfg.newAssetDays then
    [⟨.newAsset, "Recently discovered asset".toList, cfg.newAssetPoints⟩] else [])

variable (f : Finding) (cfg : RiskConfig)

def severityFactor : Factor :=
  let byName : Factor :=
    ⟨.severity, "Technical severity: ".toList ++ severityValue f.severity, cfg.severityPoints f.severity⟩
  match f.cvssScore with
  | none => byName
  | some cvss =>
    if cfg.severityPoints f.severity < cvss * (11 / 2) then
      ⟨.severity, "CVSS ".toList ++ fixed1 cvss, cvss * (11 / 2)⟩
    else byName

def exploitFactors : List Factor :=
  if f.kev then [⟨.kev, "Known exploited in the wild (CISA KEV)".toList, cfg.kevPoints⟩]
  else if f.exploitAvailable then [⟨.exploit, "Public exploit available".toList, cfg.exploitPoints⟩]
  else []

/-- A prediction of `0` or of less than one point is not listed. -/
def epssFactors : List Factor :=
  match f.epssScore with
  | none => []
  | some epss =>
    if epss ≠ 0 ∧ 1 ≤ round1 (epss * cfg.epssMaxPoints) then
      [⟨.epss, "Exploit prediction (EPSS ".toList ++ percent epss ++ [')'],
        round1 (epss * cfg.epssMaxPoints)⟩]
    else []

def ageFactors (now : Int) : List Factor :=
  let ageDays := days (now - f.firstSeen)
  if 30 ≤ ageDays then
    [⟨.age, "Unresolved for ".toList ++ PyJson.intText ageDays ++ " days".toList,
      min cfg.ageMaxPoints ((ageDays / 30 : Int) * cfg.agePointsPer30Days)⟩]
  else []

def findingFactors (asset : Asset) (cfg : RiskConfig) (now : Int) : List Factor :=
  let factors := severityFactor f cfg :: (exploitFactors f cfg ++ epssFactors f cfg ++
    exposureFactors U asset cfg now)
  let panel : List Factor :=
    if "panel".toList ∈ f.tags ∧ ¬ factors.any (fun x => decide (x.key = .managementInterface)) then
      [⟨.managementInterface, "Administrative panel".toList, cfg.managementInterfacePoints⟩]
    else []
  factors ++ panel ++ ageFactors f cfg now

def resultOf (points : ℚ) (factors : List Factor) : RiskResult :=
  let score := roundHalfEven (max 0 (min 100 points))
  ⟨score, levelFor score cfg, factors.map fun x => { x with points := round1 x.points }⟩

/-- `max(0, min(100, f.confidence or 100))`. -/
def Finding.trust : Int := max 0 (min 100 (if f.confidence = 0 then 100 else f.confidence))

def scoreFinding (asset : Asset) (cfg : RiskConfig) (now : Int) : RiskResult :=
  let factors := findingFactors U f asset cfg now
  if f.trust < 100 then
    let mult : ℚ := 3 / 5 + 2 / 5 * f.trust / 100
    resultOf cfg (total factors * mult)
      (factors ++ [⟨.confidence, "Detection confidence ".toList ++ PyJson.intText f.trust ++ ['%'],
        round1 (total factors * (mult - 1))⟩])
  else resultOf cfg (total factors) factors

/-- The order of the tuples `(score, name)`. -/
def childLe (a b : Int × Str) : Bool := decide (a.1 < b.1) || (a.1 == b.1 && PyJson.keyLe a.2 b.2)

/-- `max(child_scores)`. -/
def maxChild : List (Int × Str) → Option (Int × Str)
  | [] => none
  | c :: rest => some (rest.foldl (fun best d => if childLe d best then best else d) c)

/-- `sorted(finding_scores, reverse=True)`. -/
def sortedScores (scores : List Int) : List Int := scores.insertionSort fun a b => b ≤ a

def openFindingFactors (scores : List Int) : List Factor :=
  match sortedScores scores with
  | [] => []
  | top :: rest =>
    ⟨.topFinding, "Highest-risk open finding".toList, top⟩ ::
      (if rest.sum ≠ 0 then
        [⟨.moreFindings, dec rest.length ++ " additional open finding(s)".toList,
          min 15 (rest.sum * (3 / 20))⟩] else [])

def residualFactors (now : Int) : List Factor :=
  let factors := exposureFactors U asset cfg now ++ ((riskyPort (portOf U asset)).toList.map fun r =>
      ⟨.exposedService, r.1 ++ " reachable from the internet".toList, cfg.severityPoints r.2 * (1 / 2)⟩)
  if 45 < total factors then
    factors ++ [⟨.cap, "Residual exposure cap (no confirmed findings)".toList, 45 - total factors⟩]
  else factors

def childFactors (own : ℚ) (children : List (Int × Str)) : List Factor :=
  match maxChild children with
  | none => []
  | some (best, name) =>
    if own < best then [⟨.child, "Inherited from ".toList ++ name, best - own⟩] else []

def scoreAsset (findingScores : List Int) (childScores : List (Int × Str))
    (cfg : RiskConfig) (now : Int) : RiskResult :=
  let factors := if findingScores ≠ [] then openFindingFactors findingScores
    else residualFactors U asset cfg now
  let factors := factors ++ childFactors (total factors) childScores
  resultOf cfg (total factors) factors

/-! ## Scores -/

lemma total_append (fs gs : List Factor) : total (fs ++ gs) = total fs + total gs := by
  simp [total]

lemma resultOf_range (points : ℚ) (factors : List Factor) :
    0 ≤ (resultOf cfg points factors).score ∧ (resultOf cfg points factors).score ≤ 100 := by
  constructor
  · exact le_roundHalfEven (by push_cast; exact le_max_left _ _)
  · exact roundHalfEven_le (by push_cast; exact max_le (by norm_num) (min_le_left _ _))

lemma le_resultOf {cfg : RiskConfig} {points : ℚ} {factors : List Factor} {n : Int} (hn : n ≤ 100)
    (h : (n : ℚ) ≤ points) : n ≤ (resultOf cfg points factors).score := by
  refine le_roundHalfEven (le_max_of_le_right (le_min ?_ h))
  exact_mod_cast hn

lemma scoreFinding_range (asset : Asset) (cfg : RiskConfig) (now : Int) :
    0 ≤ (scoreFinding U f asset cfg now).score ∧ (scoreFinding U f asset cfg now).score ≤ 100 := by
  unfold scoreFinding
  split
  all_goals exact resultOf_range _ _ _

lemma scoreAsset_range (fs : List Int) (cs : List (Int × Str)) (cfg : RiskConfig) (now : Int) :
    0 ≤ (scoreAsset U asset fs cs cfg now).score ∧ (scoreAsset U asset fs cs cfg now).score ≤ 100 :=
  resultOf_range _ _ _

lemma childLe_le {a b : Int × Str} (h : childLe a b = true) : a.1 ≤ b.1 := by
  simp only [childLe, Bool.or_eq_true, decide_eq_true_eq, Bool.and_eq_true, beq_iff_eq] at h
  omega

lemma le_of_not_childLe {a b : Int × Str} (h : ¬ childLe a b = true) : b.1 ≤ a.1 := by
  simp only [childLe, Bool.or_eq_true, decide_eq_true_eq] at h
  omega

lemma le_foldl_max (rest : List (Int × Str)) (c d : Int × Str) (h : d = c ∨ d ∈ rest) :
    d.1 ≤ (rest.foldl (fun best e => if childLe e best then best else e) c).1 := by
  -- the best one so far only grows
  have grows : ∀ (l : List (Int × Str)) (b : Int × Str),
      b.1 ≤ (l.foldl (fun best e => if childLe e best then best else e) b).1 := by
    intro l
    induction l with
    | nil => exact fun b => le_refl _
    | cons e l ih =>
      intro b
      rw [List.foldl_cons]
      split
      · exact ih b
      · next hle => exact (le_of_not_childLe hle).trans (ih e)
  induction rest generalizing c with
  | nil =>
    rcases h with rfl | h
    · exact le_refl _
    · cases h
  | cons e rest ih =>
    rw [List.foldl_cons]
    rcases h with rfl | h
    · split
      · exact grows rest d
      · next hle => exact (le_of_not_childLe hle).trans (grows rest e)
    rcases List.mem_cons.1 h with rfl | h
    · split
      · next hle => exact (childLe_le hle).trans (grows rest c)
      · exact grows rest d
    · exact ih _ (.inr h)

variable {children : List (Int × Str)} {c : Int × Str}

lemma le_maxChild (h : c ∈ children) : ∃ best ∈ maxChild children, c.1 ≤ best.1 := by
  cases children with
  | nil => cases h
  | cons d rest => exact ⟨_, rfl, le_foldl_max rest d c (List.mem_cons.1 h)⟩

lemma le_total_childFactors {own : ℚ} (h : c ∈ children) :
    (c.1 : ℚ) ≤ own + total (childFactors own children) := by
  obtain ⟨⟨best, name⟩, hbest, hle⟩ := le_maxChild h
  have hcast : (c.1 : ℚ) ≤ best := by exact_mod_cast hle
  rw [childFactors, Option.mem_def.1 hbest]
  dsimp only
  split
  · simpa [total] using hcast
  next hown =>
  have hz : total [] = 0 := rfl
  rw [hz]
  linarith

lemma child_le_scoreAsset (fs : List Int) {cs : List (Int × Str)}
    (cfg : RiskConfig) (now : Int) (hc : c ∈ cs) (hrange : c.1 ≤ 100) :
    c.1 ≤ (scoreAsset U asset fs cs cfg now).score := by
  unfold scoreAsset
  refine le_resultOf hrange ?_
  rw [total_append]
  exact le_total_childFactors hc

end App.Risk
