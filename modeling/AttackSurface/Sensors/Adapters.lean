import AttackSurface.Scans.Orchestrator
import AttackSurface.Sensors.Ports
import AttackSurface.Text.Json

/-!
# Port and name discovery (`asm_sensors/adapters/naabu`, `adapters/dnsx`)

What two adapters make of a tool's output: `normalize` turns the JSON records of a run into
observations, and says what the run was authoritative for.  The coverage depends on the
targets and the configuration only.

The functions of Python that the records go through (`str`, `int`, `str.upper`) are
parameters (`PyValues`); `none` is an exception.
-/

namespace AsmSensors

open PyText PyNet PyJson App.Scans App.Scope

/-! ## Values of records -/

structure PyValues where
  /-- `str(v)` -/
  str : Json → Str
  /-- `int(v)`; `none` is `TypeError` or `ValueError` -/
  toInt : Json → Option Int
  /-- `str.upper` -/
  upper : Str → Str

abbrev Record := List (Str × Json)

/-- `rec.get(key)`. -/
def Record.get (rec : Record) (key : Str) : Json := (rec.lookup key).getD .null

/-- `bool(v)`. -/
def truthy : Json → Bool
  | .null => false
  | .bool b => b
  | .num (.int n) => n != 0
  | .num (.float x) => x.text != "0.0".toList && x.text != "-0.0".toList
  | .str s => !s.isEmpty
  | .arr items => !items.isEmpty
  | .obj fields => !fields.isEmpty

/-- `a or b`. -/
def orElse (a b : Json) : Json := if truthy a then a else b

/-- `v is None`. -/
def isNull : Json → Bool
  | .null => true
  | _ => false

/-- `v in (None, [], {})`. -/
def isBlank : Json → Bool
  | .null => true
  | .arr items => items.isEmpty
  | .obj fields => fields.isEmpty
  | _ => false

/-- The values that `for v in values` goes through; `none` is `TypeError`. -/
def iterate : Json → Option (List Json)
  | .arr items => some items
  | .str s => some (s.map fun c => .str [c])
  | .obj fields => some (fields.map fun f => .str f.1)
  | _ => none

/-! ## Helpers of the adapters (`adapters/_common.py`) -/

def cleanHostname (U : Unicode) : Json → Option Str
  | .str value =>
    let v := normalName U value
    let v := if startsWith "*.".toList v then v.drop 2 else v
    (validateHostname U v).toOption
  | _ => none

def cleanIp : Json → Option Str
  | .str value => (ipAddress (strip value)).map Address.toStr
  | _ => none

def portValue (ip : Str) (port : Nat) (proto : Str) : Str := bracketHost ip ++ ':' :: dec port ++ '/' :: proto

structure ObservationSet where
  assets : List (AssetObservation Json) := []
  relations : List (RelationObservation Json) := []
  findings : List FindingObservation := []

namespace ObservationSet

variable (s : ObservationSet)

/-- `add_asset`: attributes of a known asset are updated, its confidence is the highest. -/
def addAsset (obs : AssetObservation Json) : ObservationSet :=
  let same := fun o : AssetObservation Json => decide (o.type = obs.type ∧ o.value = obs.value)
  if s.assets.any same then
    { s with assets := s.assets.map fun o =>
        if same o then
          { o with
            attributes := (obs.attributes.filter fun kv => !isBlank kv.2).foldl
              (fun d kv => setKey d kv.1 kv.2) o.attributes
            confidence := max o.confidence obs.confidence }
        else o }
  else { s with assets := s.assets ++ [obs] }

def add (t : ObservedType) (value : Str) (attributes : Attributes Json := [])
    (confidence : Nat := 80) : ObservationSet :=
  s.addAsset { type := t, value := value, attributes := attributes, confidence := confidence }

/-- `link`, without attributes. -/
def link (source : AssetRef) (relation : RelationType) (target : AssetRef) : ObservationSet :=
  if s.relations.any fun r => decide (r.source = source ∧ r.relation = relation ∧ r.target = target) then s
  else { s with relations := s.relations ++ [{ source := source, target := target, relation := relation }] }

def all : List (Observation Json) :=
  s.assets.map .asset ++ s.relations.map .relation ++ s.findings.map .finding

end ObservationSet

structure NormalizedOutput where
  observations : List (Observation Json)
  coverage : List Coverage

def NormalizedOutput.completed (out : NormalizedOutput) (adapter : Str) (targetCount : Nat) :
    SensorResult Json where
  adapter := adapter
  targetCount := targetCount
  observations := out.observations
  coverage := out.coverage

def targetValues {U : Unicode} (targets : List (Target U)) (kind : TargetKind) : List Str :=
  sortedNames ((targets.filter fun t => t.kind == kind).map Target.value).dedup

/-! ## naabu -/

namespace Naabu

open PortSets

inductive PortSet
  | web
  | common
  | extended
  | full
  | custom
deriving DecidableEq, Repr

/-- The settings that `normalize` reads, as the validators of `NaabuConfig` leave them. -/
structure Config (U : Unicode) where
  portSet : PortSet := .common
  customPorts : Option Str := none
  excludeCdn : Bool := true
  /-- `_valid_ports` -/
  validPorts : ∀ p, customPorts = some p → p = [] ∨ ∃ v, validatePortSpec U v = some p
  /-- `_custom_needs_ports` -/
  customNeedsPorts : portSet = .custom → ∃ p, customPorts = some p ∧ p ≠ []

variable {U : Unicode} (cfg : Config U)

def Config.written : Str :=
  match cfg.portSet with
  | .web => web
  | .common => common
  | .extended => extended
  | .full => full
  | .custom => cfg.customPorts.getD []

/-- `port_spec`; it never raises (`portSpec_eq`). -/
def Config.portSpec : Str := (normalizeSpec U cfg.written).getD []

lemma Config.written_valid : ∃ v, validatePortSpec U cfg.written = some v := by
  unfold Config.written
  cases hk : cfg.portSet with
  | web | common | extended | full => exact PortSets.valid U (by simp)
  | custom =>
    obtain ⟨p, hp, hne⟩ := cfg.customNeedsPorts hk
    rcases cfg.validPorts p hp with h | ⟨v, hv⟩
    · exact absurd h hne
    -- a specification that was validated is valid
    simp only [hp, Option.getD_some]
    exact ⟨p, validatePortSpec_again hv⟩

lemma Config.portSpec_eq : normalizeSpec U cfg.written = some cfg.portSpec := by
  obtain ⟨v, hv⟩ := cfg.written_valid
  obtain ⟨n, hn, -⟩ := normalizeSpec_spec hv
  rw [Config.portSpec, hn]
  rfl

def protocol : Str := "tcp".toList

/-- `p in (1, "udp")`. -/
def isUdp : Json → Bool
  | .bool b => b
  | .num (.int n) => n == 1
  | .num (.float x) => x.text == "1.0".toList
  | .str s => s == "udp".toList
  | _ => false

/-- The protocol of a record with a plain port; a value that is no text is no protocol. -/
def plainProtocol (U : Unicode) : Json → Str
  | .str s =>
    if U.lower s = "tcp".toList ∨ U.lower s = "udp".toList then U.lower s else "tcp".toList
  | _ => "tcp".toList

def portFields (U : Unicode) (rec : Record) : Json × Str :=
  match rec.get "port".toList with
  | .obj fields =>
    (orElse (Record.get fields "Port".toList) (Record.get fields "port".toList),
      if isUdp (Record.get fields "Protocol".toList) then "udp".toList else "tcp".toList)
  | port => (port, plainProtocol U (rec.get "protocol".toList))

variable (P : PyValues)

/-- `parse_naabu_record`, without the host name that nothing reads. -/
def parseNaabuRecord (U : Unicode) (rec : Record) : Option Str × Option Int × Str :=
  let (port, proto) := portFields U rec
  let ip := (cleanIp (rec.get "ip".toList)).or (cleanIp (rec.get "host".toList))
  (ip, P.toInt port, proto)

/-- One record of the loop of `normalize`. -/
def observe (U : Unicode) (obs : ObservationSet) (rec : Record) : ObservationSet :=
  match parseNaabuRecord P U rec with
  | (some ip, some port, proto) =>
    if 1 ≤ port ∧ port ≤ 65535 then
      let pv := portValue ip port.toNat proto
      let attrs : Attributes Json :=
        [("port".toList, .num (.int port)), ("protocol".toList, .str proto), ("ip".toList, .str ip),
          ("state".toList, .str "open".toList)]
      let attrs := match rec.get "tls".toList with
        | .null => attrs
        | tls => attrs ++ [("tls".toList, .bool (truthy tls))]
      ((obs.add .ipAddress ip).add .port pv attrs 90).link ⟨.ipAddress, ip⟩ .hasPort ⟨.port, pv⟩
    else obs
  | _ => obs

/-- What a run says about the ports of its targets.  The constraint `protocol` is left out:
nothing reads it. -/
def coverage (targets : List (Target U)) : RelationCoverage where
  parentType := .ipAddress
  parents := targetValues targets .ip
  relation := .hasPort
  childType := .port
  constraints :=
    { portSpec := some cfg.portSpec
      cdnPortSpec := if cfg.excludeCdn then some "80,443".toList else none
      parentCidrs := targetValues targets .cidr }

/-- `NaabuAdapter.normalize`. -/
def normalize (cfg : Config U) (targets : List (Target U)) (parsed : List Record) :
    NormalizedOutput where
  observations := (parsed.foldl (observe P U) {}).all
  coverage := [.relation (coverage cfg targets)]

end Naabu

/-! ## dnsx -/

namespace Dnsx

inductive RecordType
  | a
  | aaaa
  | caa
  | cname
  | mx
  | ns
  | soa
  | txt
deriving DecidableEq, Repr

def RecordType.name : RecordType → Str
  | .a => "a".toList
  | .aaaa => "aaaa".toList
  | .caa => "caa".toList
  | .cname => "cname".toList
  | .mx => "mx".toList
  | .ns => "ns".toList
  | .soa => "soa".toList
  | .txt => "txt".toList

/-- The setting that `normalize` reads: address records are always asked for. -/
structure Config where
  recordTypes : List RecordType
  needAddressRecords : .a ∈ recordTypes

/-- `_need_address_records`; the constructors stand in the order of their names. -/
def Config.make (v : List RecordType) : Config where
  recordTypes :=
    let v := v.dedup.insertionSort fun x y => x.ctorIdx ≤ y.ctorIdx
    if .a ∈ v then v else v ++ [.a]
  needAddressRecords := by
    simp only
    split
    · assumption
    · simp

/-- The default of `record_types`. -/
def Config.default : Config := ⟨[.a, .aaaa, .cname, .mx, .ns], by decide⟩

variable (P : PyValues)

def recordValue (U : Unicode) (rt : RecordType) (v : Json) : Str :=
  let v := match rt, v with
    | .soa, .obj fields => P.str ((List.lookup "name".toList fields).getD (.str []))
    | _, v => P.str v
  if rt = .txt then v else U.lower (rstrip (· == '.') (strip v))

/-- `records`: the values of each record type that was asked for and answered. -/
def recordsOf (P : PyValues) (U : Unicode) (rec : Record) :
    List RecordType → Option (List (RecordType × List Str))
  | [] => some []
  | rt :: rts => do
    let rest ← recordsOf P U rec rts
    let values := rec.get rt.name
    if truthy values then
      let values ← iterate values
      some ((rt, sortedNames (values.map (recordValue P U rt)).dedup) :: rest)
    else some rest

/-- `records.get(rt, [])`. -/
def recordsGet (records : List (RecordType × List Str)) (rt : RecordType) : List Str :=
  (records.lookup rt).getD []

/-- One record of the loop of `normalize`. -/
def observe (U : Unicode) (cfg : Config) (obs : ObservationSet) (rec : Record) :
    Option ObservationSet :=
  match cleanHostname U (rec.get "host".toList) with
  | none => some obs
  | some host => do
    let status := P.upper (P.str (orElse (rec.get "status_code".toList) (.str "NOERROR".toList)))
    let records ← recordsOf P U rec cfg.recordTypes
    let ips := (recordsGet records .a ++ recordsGet records .aaaa).filterMap fun v => cleanIp (.str v)
    if status ≠ "NOERROR".toList ∨ records.all (fun r => r.2.isEmpty) then some obs
    else
      let dns := Json.obj (records.map fun r => (r.1.name, .arr (r.2.map .str)))
      let obs := obs.add .hostname host [("dns".toList, dns), ("resolves".toList, .bool true)] 95
      let obs := ips.foldl (fun obs ip =>
        (obs.add .ipAddress ip).link ⟨.hostname, host⟩ .resolvesTo ⟨.ipAddress, ip⟩) obs
      some ((recordsGet records .cname).foldl (fun obs target =>
        match cleanHostname U (.str target) with
        | none => obs
        | some t => (obs.add .hostname t).link ⟨.hostname, host⟩ .cname ⟨.hostname, t⟩) obs)

variable {U : Unicode} (targets : List (Target U))

def queried : List Str :=
  sortedNames (targets.map Target.value).dedup

/-- The run looked up the addresses of its targets, whatever record types it asked for. -/
def addressCoverage : RelationCoverage where
  parentType := .hostname
  parents := queried targets
  relation := .resolvesTo
  childType := .ipAddress

def aliasCoverage : RelationCoverage where
  parentType := .hostname
  parents := queried targets
  relation := .cname
  childType := .hostname

def coverage (cfg : Config) (targets : List (Target U)) : List Coverage :=
  [.liveness ⟨.hostname, queried targets⟩, .relation (addressCoverage targets)] ++
    if .cname ∈ cfg.recordTypes then [.relation (aliasCoverage targets)] else []

/-- `DnsxAdapter.normalize`. -/
def normalize (P : PyValues) (cfg : Config) (targets : List (Target U))
    (parsed : List Record) : Option NormalizedOutput :=
  (parsed.foldlM (observe P U cfg) {}).map fun obs => ⟨obs.all, coverage cfg targets⟩

end Dnsx

end AsmSensors
