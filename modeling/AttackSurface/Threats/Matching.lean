import AttackSurface.Scope.Checker

/-!
# Advisories and the inventory (`app/threats/versions.py`, `content.py`, `matching.py`)

What an advisory says about products and versions, and the verdict on each asset from what
fingerprinting recorded.  A bound of a version range can be read as a version: the range
carries the proof (`VersionRange.parseable`), as a validated advisory does.
-/

namespace App.Threats

open PyText App.Scope

/-- What the matching uses of Python's texts: the tables, `str.isdigit` and `repr`. -/
structure Texts extends Unicode where
  isDigit : Char → Bool
  repr : Str → Str

inductive MatchStatus
  | potentiallyAffected
  | versionUnknown
  | notAffectedVersion
  | noLongerObserved
deriving DecidableEq, Repr

def MatchStatus.value : MatchStatus → Str
  | .potentiallyAffected => "potentially_affected".toList
  | .versionUnknown => "version_unknown".toList
  | .notAffectedVersion => "not_affected_version".toList
  | .noLongerObserved => "no_longer_observed".toList

/-! ## Versions -/

inductive Token
  | num (n : Nat)
  | word (s : Str)
deriving DecidableEq

structure Version where
  tokens : List Token
deriving DecidableEq

inductive CharClass
  | digit
  | letter
  | separator
deriving DecidableEq

section Parse

variable (T : Texts)

def charClass (c : Char) : CharClass :=
  if (T.decimal c).isSome then .digit else if 'a' ≤ c ∧ c ≤ 'z' then .letter else .separator

def token (run : Str) : Option Token :=
  match run with
  | [] => none
  | c :: _ =>
    match charClass T c with
    | .digit => some (.num (run.foldl (fun n d => 10 * n + (T.decimal d).getD 0) 0))
    | .letter => some (.word run)
    | .separator => none

/-- `_TOKEN.findall`. -/
def tokensOf (s : Str) : List Token :=
  (s.splitBy fun a b => decide (charClass T a = charClass T b)).filterMap (token T)

/-- `Version.parse` (`none`: `UnparseableVersion`). -/
def Version.parse (value : Str) : Option Version :=
  let text := T.lower (strip value)
  let text := match text with
    | 'v' :: c :: rest => if T.isDigit c then c :: rest else text
    | _ => text
  let tokens := tokensOf T (text.take 64)
  if (text.take 1).any T.isDigit = false ∨ tokens = [] then none else some ⟨tokens.take 12⟩

def compareToken : Token → Token → Ordering
  | .num x, .num y => compare x y
  | .word x, .word y => if x = y then .eq else if strLe x y then .lt else .gt
  | .num _, .word _ => .gt
  | .word _, .num _ => .lt

def compareMissing : List Token → Ordering
  | [] => .eq
  | y :: b => (compareToken (.num 0) y).then (compareMissing b)

/-- `_cmp`: missing positions count as `0`. -/
def compareTokens : List Token → List Token → Ordering
  | [], b => compareMissing b
  | x :: a, [] => (compareToken x (.num 0)).then (compareTokens a [])
  | x :: a, y :: b => (compareToken x y).then (compareTokens a b)

def Version.lt (v w : Version) : Bool := compareTokens v.tokens w.tokens == .lt

def bound (b : Option Str) : Option Str := b.filter (· ≠ [])

structure VersionRange where
  introduced : Option Str := none
  fixed : Option Str := none
  lastAffected : Option Str := none
  parseable : ∀ b ∈ [introduced, fixed, lastAffected].filterMap bound, (Version.parse T b).isSome = true

/-- `in_range`: `introduced <= v`, `v < fixed`, `v <= last_affected`, each optional. -/
def inRange (v : Version) (r : VersionRange T) : Bool :=
  !((bound r.introduced).bind (Version.parse T)).any (fun w => v.lt w) &&
    ((bound r.fixed).bind (Version.parse T)).all (fun w => v.lt w) &&
    !((bound r.lastAffected).bind (Version.parse T)).any fun w => w.lt v

end Parse

/-! ## Contents of an advisory -/

structure AffectedProduct (T : Texts) where
  vendor : Option Str := none
  product : Str
  matchNames : List Str
  versions : List (VersionRange T) := []

/-- The part of an advisory's content that evaluation and checks read. -/
structure AdvisoryContent (T : Texts) where
  cves : List Str := []
  affected : List (AffectedProduct T) := []
  checkKeys : List Str := []

/-- `re.sub(r"[\s_]+", " ", s)`. -/
def squeeze (s : Str) : Str := s.foldr (fun c acc =>
    if isSpace c || c == '_' then (match acc with | ' ' :: _ => acc | _ => ' ' :: acc) else c :: acc) []

/-- How product names are compared: lower case, single spaces, `_` as a space. -/
def normName (T : Texts) (value : Str) : Str := squeeze (T.lower (strip value))

/-- `names_of`. -/
def namesOf {T : Texts} (content : AdvisoryContent T) : List Str := content.affected.flatMap (·.matchNames)

/-! ## Verdicts -/

inductive ObservationSource
  | technology
  | service
  | webServer
deriving DecidableEq, Repr

structure ProductObservation where
  assetId : Nat
  name : Str
  version : Option Str
  source : ObservationSource
  observedAt : Option Int
  thirdParty : Bool := false

/-- One entry of `AssetVerdict.evidence`. -/
structure EvidenceItem where
  product : Str
  vendor : Option Str
  matchedName : Str
  version : Option Str
  source : ObservationSource
  verdict : MatchStatus
  reason : Str
  observedAt : Option Int
  thirdParty : Bool
deriving DecidableEq

structure AssetVerdict where
  assetId : Nat
  status : MatchStatus
  evidence : List EvidenceItem

def AssetVerdict.thirdPartyOnly (v : AssetVerdict) : Bool :=
  decide (v.evidence ≠ []) && v.evidence.all (·.thirdParty)

section Judge

variable (T : Texts)

def boundsText (r : VersionRange T) : Str :=
  ", ".toList.intercalate ([("from ", r.introduced), ("fixed in ", r.fixed), ("up to ", r.lastAffected)].filterMap
    fun b => (bound b.2).map fun v => b.1.toList ++ v)

variable (product : AffectedProduct T)

def judge (version : Option Str) : MatchStatus × Str :=
  if product.versions = [] then
    (.potentiallyAffected, "every version of this product is listed as affected".toList)
  else
    match bound version with
    | none => (.versionUnknown, "the product was seen but no version was reported".toList)
    | some text =>
      match Version.parse T text with
      | none => (.versionUnknown, "the reported version ".toList ++ T.repr text ++ " cannot be compared".toList)
      | some v =>
        match product.versions.find? (inRange T v) with
        | some r => (.potentiallyAffected,
            "version ".toList ++ text ++ " is inside the affected range (".toList ++ boundsText T r ++ [')'])
        | none => (.notAffectedVersion, "version ".toList ++ text ++ " is outside every affected range".toList)

/-- `_RANK`. -/
def MatchStatus.rank : MatchStatus → Nat
  | .potentiallyAffected => 3
  | .versionUnknown => 2
  | .notAffectedVersion => 1
  | .noLongerObserved => 0

def maxEvidence : Nat := 5

def AssetVerdict.add (cur : AssetVerdict) (status : MatchStatus) (ev : EvidenceItem) : AssetVerdict :=
  if cur.status.rank < status.rank then
    { cur with status := status, evidence := (ev :: cur.evidence).take maxEvidence }
  else if cur.evidence.length < maxEvidence ∧ ev ∉ cur.evidence then
    { cur with evidence := (cur.evidence ++ [ev]).take maxEvidence }
  else { cur with evidence := cur.evidence.take maxEvidence }

variable (content : AdvisoryContent T)

def productNamed (name : Str) : Option (AffectedProduct T) :=
  content.affected.find? fun p => decide (name ∈ p.matchNames)

def evidenceOf (o : ProductObservation) : EvidenceItem :=
  let r := judge T product o.version
  { product := product.product
    vendor := product.vendor
    matchedName := normName T o.name
    version := o.version
    source := o.source
    verdict := r.1
    reason := r.2
    observedAt := o.observedAt
    thirdParty := o.thirdParty }

/-- One round of the loop of `match`; a verdict stands where its asset first came up. -/
def addObservation (out : List AssetVerdict) (o : ProductObservation) : List AssetVerdict :=
  match productNamed T content (normName T o.name) with
  | none => out
  | some product =>
    let ev := evidenceOf T product o
    if out.any fun v => decide (v.assetId = o.assetId) then
      out.map fun v => if v.assetId = o.assetId then v.add ev.verdict ev else v
    else out ++ [⟨o.assetId, ev.verdict, [ev]⟩]

/-- `match`: one verdict per asset. -/
def verdicts (observations : List ProductObservation) : List AssetVerdict :=
  observations.foldl (addObservation T content) []

end Judge

/-! ## No verdict retires an asset -/

section Verdicts

variable {T : Texts}

lemma judge_ne_noLongerObserved (product : AffectedProduct T) (version : Option Str) :
    (judge T product version).1 ≠ .noLongerObserved := by
  unfold judge
  split
  · simp
  split
  · simp
  split
  · simp
  · split <;> simp

lemma add_status {v : AssetVerdict} {status : MatchStatus} {ev : EvidenceItem}
    (hv : v.status ≠ .noLongerObserved) (hs : status ≠ .noLongerObserved) :
    (v.add status ev).status ≠ .noLongerObserved := by
  unfold AssetVerdict.add
  split
  · exact hs
  split <;> exact hv

lemma verdicts_status (content : AdvisoryContent T) (observations : List ProductObservation) :
    ∀ v ∈ verdicts T content observations, v.status ≠ .noLongerObserved := by
  -- one more observation adds no such verdict
  have step : ∀ (out : List AssetVerdict) (o : ProductObservation),
      (∀ v ∈ out, v.status ≠ .noLongerObserved) →
        ∀ v ∈ addObservation T content out o, v.status ≠ .noLongerObserved := by
    intro out o hout v hv
    unfold addObservation at hv
    split at hv
    · exact hout v hv
    next product hproduct =>
    have hev : (evidenceOf T product o).verdict ≠ .noLongerObserved := judge_ne_noLongerObserved product o.version
    dsimp only at hv
    split at hv
    · obtain ⟨w, hw, rfl⟩ := List.mem_map.1 hv
      split
      · exact add_status (hout w hw) hev
      · exact hout w hw
    rcases List.mem_append.1 hv with hv | hv
    · exact hout v hv
    rw [List.mem_singleton] at hv
    rw [hv]
    exact hev
  have fold : ∀ (os : List ProductObservation) (out : List AssetVerdict),
      (∀ v ∈ out, v.status ≠ .noLongerObserved) →
        ∀ v ∈ os.foldl (addObservation T content) out, v.status ≠ .noLongerObserved := by
    intro os
    induction os with
    | nil => exact fun out hout => hout
    | cons o os ih => exact fun out hout => ih _ (step out o hout)
  exact fold observations [] (fun v hv => by cases hv)

end Verdicts

end App.Threats
