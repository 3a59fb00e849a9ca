import AttackSurface.Findings.Service
import AttackSurface.Store.Keyed
import AttackSurface.Store.Window

/-!
# The exposure map (`app/exposure/graph.py`)

A breadth-first search over the recorded relationships of one organization, cut off by depth,
by a number of nodes, by a number of edges and by time, and a second pass that adds findings
under the same limits.

The database may return rows in any order, and breaks the ties of a window function or of a
`limit` as it likes: a `Planner` says how.  The time budget may end any query: a `Clock` says
which.  What the map shows of a row (labels, dates, freshness) is the row itself here.
-/

namespace App.Exposure

open PyText App.Scans App.Scope App.Findings SqlWindow PyDict

/-! ## Rows -/

structure Asset where
  id : Nat
  organizationId : Nat
  assetType : AssetType
  value : Str
  status : AssetStatus := .active
  scopeStatus : ScopeStatus := .inScope
  riskScore : Nat := 0
deriving DecidableEq

structure Relationship where
  id : Nat
  organizationId : Nat
  sourceAssetId : Nat
  targetAssetId : Nat
  relationType : RelationType
  active : Bool := true
  lastSeen : Int := 0
deriving DecidableEq

structure Finding where
  id : Nat
  assetId : Nat
  status : FindingStatus := .new
  unverified : Bool := false
  riskScore : Nat := 0
  lastSeen : Int := 0
deriving DecidableEq

/-- The rows that the caller's session sees. -/
structure Db where
  organizations : List Nat
  assets : List Asset
  relationships : List Relationship
  findings : List Finding
  relationshipIds : (relationships.map Relationship.id).Nodup

def Db.asset? (db : Db) (id : Nat) : Option Asset := db.assets.find? fun a => decide (a.id = id)

def Db.relationship? (db : Db) (id : Nat) : Option Relationship :=
  db.relationships.find? fun r => decide (r.id = id)

/-- `str` of a UUID: hexadecimal digits and dashes, different for different UUIDs. -/
structure Uuids where
  text : Nat → Str
  injective : Function.Injective text
  no_colon : ∀ id, ':' ∉ text id

/-! ## Parameters -/

structure MapParams where
  organizationId : Option Nat := none
  assetId : Option Nat := none
  expand : Option Nat := none
  depth : Nat := 2
  maxNodes : Nat := 150
  perNode : Nat := 25
  includeInactive : Bool := false
  includeFindings : Bool := true
  includeUnverified : Bool := false
  includeContext : Bool := false

inductive Limited
  | depth
  | maxNodes
  | perNode
deriving DecidableEq, Repr

/-- `LIMITS`. -/
def limits : Limited → Nat × Nat
  | .depth => (1, 4)
  | .maxNodes => (10, 300)
  | .perNode => (5, 100)

variable (p : MapParams)

def MapParams.get : Limited → Nat
  | .depth => p.depth
  | .maxNodes => p.maxNodes
  | .perNode => p.perNode

inductive MapError
  /-- `name must be between lo and hi` -/
  | outsideLimits (name : Limited)
  /-- `Choose an organization or a starting asset` -/
  | noStart
  /-- `Asset not found` -/
  | assetNotFound
  /-- `Organization not found` -/
  | organizationNotFound
  /-- `MapTimeout` -/
  | timeout
deriving DecidableEq, Repr

def MapParams.within (name : Limited) : Bool :=
  decide ((limits name).1 ≤ p.get name) && decide (p.get name ≤ (limits name).2)

/-- `validate`: the first limit that is broken, then the missing start. -/
def MapParams.validate : Except MapError Unit :=
  match [Limited.depth, .maxNodes, .perNode].find? fun name => !p.within name with
  | some name => .error (.outsideLimits name)
  | none =>
    if p.organizationId = none ∧ p.assetId = none ∧ p.expand = none then .error .noStart else .ok ()

def MapParams.depthLimit : Nat := if p.expand.isSome then 1 else p.depth

/-- `MAX_EDGES_FACTOR` edges for each node. -/
def MapParams.maxEdges : Nat := p.maxNodes * 3

def exposureRelations : List RelationType :=
  [.subdomainOf, .cname, .resolvesTo, .hasPort, .runsService, .serves, .hostedOn, .redirectsTo]

def contextRelations : List RelationType := [.usesTechnology, .presentsCertificate, .hostedBy]

def contextTypes : List AssetType := [.technology, .certificate, .cloudResource, .asn]

def MapParams.relations : List RelationType :=
  exposureRelations ++ if p.includeContext then contextRelations else []

def findingsPerAsset : Nat := 3

def maxRoots : Nat := 10

/-! ## The map -/

inductive NodeKind
  | asset (a : Asset)
  | finding (f : Finding)
deriving DecidableEq

/-- What a line of the map stands for. -/
inductive Line
  | relation (t : RelationType)
  | hasFinding
deriving DecidableEq

structure Node where
  id : Str
  kind : NodeKind
  depth : Nat
  hidden : List (Line × Nat) := []
  moreBeyondDepth : Bool := false
deriving DecidableEq

inductive EdgeKind
  | relationship (r : Relationship)
  | hasFinding (f : Finding)
deriving DecidableEq

structure Edge where
  id : Str
  source : Str
  target : Str
  kind : EdgeKind
deriving DecidableEq

/-- Why a map is partial. -/
inductive Reason
  | tooManyRoots
  | timeLimit
  | nodeLimit
  | edgeLimit
  | timeLimitFindings
  | hidden (n : Nat)
deriving DecidableEq

/-- `_Build`; `nodes` and `edges` are dictionaries by `id`. -/
structure Build where
  nodes : List Node := []
  edges : List Edge := []
  reasons : List Reason := []
  timedOut : Bool := false

variable (b : Build)

def Build.note (reason : Reason) : Build :=
  if reason ∈ b.reasons then b else { b with reasons := b.reasons ++ [reason] }

variable (key : Str)

def Build.node? : Option Node := b.nodes.find? fun n => decide (n.id = key)

/-- `key in b.nodes`. -/
def Build.hasNode : Bool := hasKey Node.id key b.nodes

def Build.hasEdge : Bool := hasKey Edge.id key b.edges

/-- `b.nodes[n.id] = n`. -/
def Build.setNode (n : Node) : Build := { b with nodes := setBy Node.id n b.nodes }

/-- `b.edges[e.id] = e`. -/
def Build.setEdge (e : Edge) : Build := { b with edges := setBy Edge.id e b.edges }

/-- `b.nodes[key]["hidden"][line] = n`. -/
def Build.hide (line : Line) (n : Nat) : Build :=
  { b with
    nodes := b.nodes.map fun m =>
      if m.id = key then { m with hidden := setBy Prod.fst (line, n) m.hidden } else m }

/-- `b.nodes[key]["more_beyond_depth"] = True`. -/
def Build.markMore : Build :=
  { b with nodes := b.nodes.map fun m => if m.id = key then { m with moreBeyondDepth := true } else m }

def Build.stop (reason : Reason) : Build := { b.note reason with timedOut := true }

/-- A relationship as seen from one of its ends. -/
structure Row where
  rel : Relationship
  anchor : Nat
  other : Nat
deriving DecidableEq

/-- How the database orders the rows of its answers. -/
structure Planner where
  rows : Nat → List Row → List Row
  assets : Nat → List Asset → List Asset
  findings : Nat → List Finding → List Finding
  rows_perm : ∀ k l, (rows k l).Perm l
  assets_perm : ∀ k l, (assets k l).Perm l
  findings_perm : ∀ k l, (findings k l).Perm l

/-- When the query for the findings is cancelled: at the end they are already on the map. -/
inductive FindingsTime
  | enough
  | cancelled
  | cancelledAtEnd
deriving DecidableEq, Repr

/-- Which queries run out of time. -/
structure Clock where
  roots : Bool := false
  level : Nat → Bool := fun _ => false
  findings : FindingsTime := .enough

section Search

variable (T : Uuids) (db : Db) (planner : Planner) (p : MapParams) (org : Nat)

def assetNode (a : Asset) (depth : Nat) : Node := { id := T.text a.id, kind := .asset a, depth := depth }

variable (r : Relationship)

def edge : Edge :=
  { id := T.text r.id, source := T.text r.sourceAssetId, target := T.text r.targetAssetId, kind := .relationship r }

/-- The conditions of `_neighbours`. -/
def matching : Bool :=
  decide (r.organizationId = org) && decide (r.relationType ∈ p.relations) && (p.includeInactive || r.active)

variable (frontier : List Nat)

/-- One half of `_neighbours`: the matching relationships with their anchor in the frontier. -/
def half (ends : Relationship → Nat × Nat) : List Row :=
  (db.relationships.filter fun r => matching p org r && decide ((ends r).1 ∈ frontier)).map fun r =>
    ⟨r, (ends r).1, (ends r).2⟩

def outgoing : Nat × Nat := (r.sourceAssetId, r.targetAssetId)

def incoming : Nat × Nat := (r.targetAssetId, r.sourceAssetId)

def rowLe (a b : Row) : Bool :=
  (a.rel.active && !b.rel.active) || (a.rel.active == b.rel.active && decide (b.rel.lastSeen ≤ a.rel.lastSeen))

/-- The rows of one half with `rn <= per_node`. -/
def ranked (k : Nat) (rows : List Row) : List Row :=
  topPer Row.anchor p.perNode ((planner.rows k rows).insertionSort fun a b => rowLe a b)

variable (depth : Nat)

/-- `rows` of `_neighbours` at a level. -/
def neighbours (frontier : List Nat) : List Row := planner.rows (3 * depth + 2)
    (ranked planner p (3 * depth) (half db p org frontier outgoing) ++
      ranked planner p (3 * depth + 1) (half db p org frontier incoming))

/-- `totals` of `_neighbours`. -/
def totals : List ((Nat × RelationType) × Nat) :=
  let both := (half db p org frontier outgoing ++ half db p org frontier incoming).map fun r =>
    (r.anchor, r.rel.relationType)
  both.dedup.map fun key => (key, both.count key)

/-- A level while its rows are read; `shown` has an entry for each line drawn. -/
structure Level where
  build : Build
  next : List Nat := []
  shown : List (Nat × RelationType) := []

def skipped (o : Asset) : Bool := (!p.includeContext && decide (o.assetType ∈ contextTypes)) ||
    (!p.includeInactive && decide (o.status ≠ .active))

variable (lv : Level)

/-- The node of `o` is drawn, unless it is there. -/
def Level.draw (o : Asset) (depth : Nat) : Level :=
  if lv.build.hasNode (T.text o.id) then lv
  else { lv with build := lv.build.setNode (assetNode T o depth), next := lv.next ++ [o.id] }

/-- The line of `rel` is drawn, unless it is there. -/
def Level.link (rel : Relationship) (anchor : Nat) : Level :=
  if lv.build.hasEdge (T.text rel.id) then { lv with shown := lv.shown ++ [(anchor, rel.relationType)] }
  else if p.maxEdges ≤ lv.build.edges.length then { lv with build := lv.build.note .edgeLimit }
  else
    { lv with
      build := lv.build.setEdge (edge T rel)
      shown := lv.shown ++ [(anchor, rel.relationType)] }

/-- One round of the loop over `rows`. -/
def addRow (row : Row) : Level :=
  match db.asset? row.other, db.relationship? row.rel.id with
  | some o, some rel =>
    if skipped p o then lv
    else if ¬ lv.build.hasNode (T.text o.id) = true ∧ p.maxNodes ≤ lv.build.nodes.length then
      { lv with build := lv.build.note .nodeLimit }
    else (lv.draw T o depth).link T p rel row.anchor
  | _, _ => lv

/-- The loop over `totals`: lines that were not drawn are counted at their anchor. -/
def countHidden (ts : List ((Nat × RelationType) × Nat)) : Build := ts.foldl (fun b t =>
    if lv.shown.count t.1 < t.2 then
      b.hide (T.text t.1.1) (.relation t.1.2) (t.2 - lv.shown.count t.1)
    else b) lv.build

def level (frontier : List Nat) (b : Build) : List Nat × Build :=
  let lv := (neighbours db planner p org depth frontier).foldl (addRow T db p depth) { build := b }
  (lv.next, countHidden T lv (totals db p org frontier))

/-- `for depth in range(1, depth_limit + 1)`, with the number of rounds left. -/
def levels (clock : Clock) : Nat → Nat → List Nat → Build → List Nat × Build
  | 0, _, frontier, b => (frontier, b)
  | rounds + 1, depth, frontier, b =>
    if frontier = [] then (frontier, b)
    else if clock.level depth then (frontier, b.stop .timeLimit)
    else
      let r := level T db planner p org depth frontier b
      levels clock rounds (depth + 1) r.1 r.2

/-! ## Findings -/

/-- The findings that `_add_findings` may pick. -/
def openFindings (b : Build) : List Finding := db.findings.filter fun f =>
    (b.nodes.any fun n => match n.kind with
      | .asset a => decide (a.id = f.assetId)
      | .finding _ => false) &&
    f.status.isOpen && (p.includeUnverified || !f.unverified)

def findingLe (a b : Finding) : Bool :=
  decide (b.riskScore < a.riskScore) || (a.riskScore == b.riskScore && decide (b.lastSeen ≤ a.lastSeen))

def picked (fs : List Finding) : List Finding := planner.findings 1 (topPer Finding.assetId findingsPerAsset
    ((planner.findings 0 fs).insertionSort fun a b => findingLe a b))

variable (f : Finding)

def findingKey : Str := 'f' :: ':' :: T.text f.id

def findingEdgeKey : Str := 'h' :: 'f' :: ':' :: T.text f.id

def depthOf (b : Build) (key : Str) : Nat := ((b.node? key).map Node.depth).getD 0

def findingNode (b : Build) (f : Finding) : Node :=
  { id := findingKey T f, kind := .finding f, depth := depthOf b (T.text f.assetId) + 1 }

def findingEdge : Edge :=
  { id := findingEdgeKey T f, source := T.text f.assetId, target := findingKey T f, kind := .hasFinding f }

def drawFinding (b : Build) (f : Finding) : Build :=
  if b.edges.length < p.maxEdges then (b.setNode (findingNode T b f)).setEdge (findingEdge T f)
  else b.setNode (findingNode T b f)

def addFinding (total : Nat) (b : Build) (f : Finding) : Build :=
  if findingsPerAsset < total then
    (drawFinding T p b f).hide (T.text f.assetId) .hasFinding (total - findingsPerAsset)
  else drawFinding T p b f

/-- The loop over `picked`, which ends at the node limit. -/
def addPicked (total : Finding → Nat) : List Finding → Build → Build
  | [], b => b
  | f :: fs, b =>
    if p.maxNodes ≤ b.nodes.length then b.note .nodeLimit
    else addPicked total fs (addFinding T p (total f) b f)

def addFindings (b : Build) : Build :=
  let fs := openFindings db p b
  addPicked T p (fun f => fs.countP fun g => decide (g.assetId = f.assetId)) (picked planner fs) b

def withFindings (time : FindingsTime) (b : Build) : Build :=
  match time with
  | .enough => addFindings T db planner p b
  | .cancelled => b.stop .timeLimitFindings
  | .cancelledAtEnd => (addFindings T db planner p b).stop .timeLimitFindings

/-! ## Building -/

def assetLe (a b : Asset) : Bool :=
  decide (b.riskScore < a.riskScore) || (a.riskScore == b.riskScore && strLe a.value b.value)

/-- `load_roots`: the root domains, or else the riskiest assets in scope. -/
def loadRoots : List Asset :=
  let domains := (planner.assets 0 (db.assets.filter fun a =>
    decide (a.organizationId = org) && decide (a.assetType = .rootDomain) &&
      (p.includeInactive || decide (a.status = .active)))).insertionSort fun a b => assetLe a b
  if domains ≠ [] then domains.take (maxRoots + 1)
  else
    ((planner.assets 1 (db.assets.filter fun a =>
      decide (a.organizationId = org) && decide (a.scopeStatus = .inScope) && decide (a.status = .active) &&
        decide (a.assetType ∉ contextTypes))).insertionSort
          fun a b => b.riskScore ≤ a.riskScore).take (maxRoots + 1)

def drawRoots (roots : List Asset) (b : Build) : Build :=
  roots.foldl (fun b a => b.setNode (assetNode T a 0)) b

def markOuter (b : Build) : Build :=
  if p.expand = none then frontier.foldl (fun b id => b.markMore (T.text id)) b else b

def noteHidden (b : Build) : Build :=
  let hidden := (b.nodes.map fun n => (n.hidden.map Prod.snd).sum).sum
  if hidden ≠ 0 then b.note (.hidden hidden) else b

def search (clock : Clock) (findingsAllowed : Bool) (roots : List Asset) (b : Build) : Build :=
  let r := levels T db planner p org clock p.depthLimit 1 (roots.map Asset.id) (drawRoots T roots b)
  let b := markOuter T p r.1 r.2
  noteHidden (if p.includeFindings && findingsAllowed then withFindings T db planner p clock.findings b else b)

end Search

/-- What a request returns. -/
structure ExposureMap where
  organization : Nat
  roots : List Asset
  nodes : List Node
  edges : List Edge
  reasons : List Reason
  timedOut : Bool

/-- `expand`, or else the starting asset. -/
def MapParams.startId (p : MapParams) : Option Nat := p.expand.or p.assetId

/-- The organization of a request: that of the starting asset, or the one asked for. -/
def startingOrganization (db : Db) (p : MapParams) : Option Nat :=
  match p.startId with
  | some id => (db.asset? id).map Asset.organizationId
  | none => p.organizationId

/-- The starting points: one asset, or the first `MAX_ROOTS` of the organization. -/
def rootsOf (db : Db) (planner : Planner) (p : MapParams) (org : Nat) : List Asset × Build :=
  match p.startId.bind db.asset? with
  | some start => ([start], {})
  | none =>
    let found := loadRoots db planner p org
    if maxRoots < found.length then (found.take maxRoots, Build.note {} .tooManyRoots) else (found, {})

def buildFor (T : Uuids) (db : Db) (planner : Planner) (clock : Clock) (p : MapParams) (findingsAllowed : Bool)
    (org : Nat) : Except MapError ExposureMap :=
  if p.organizationId.isSome ∧ p.organizationId ≠ some org then .error .assetNotFound
  else if org ∉ db.organizations then .error .organizationNotFound
  else if p.startId = none ∧ clock.roots = true then .error .timeout
  else
    let start := rootsOf db planner p org
    let b := search T db planner p org clock findingsAllowed start.1 start.2
    .ok ⟨org, start.1, b.nodes, b.edges, b.reasons, b.timedOut⟩

def build (T : Uuids) (db : Db) (planner : Planner) (clock : Clock) (p : MapParams) (findingsAllowed : Bool) :
    Except MapError ExposureMap :=
  match p.validate with
  | .error e => .error e
  | .ok () =>
    match startingOrganization db p with
    | none => .error .assetNotFound
    | some org => buildFor T db planner clock p findingsAllowed org

end App.Exposure
