import AttackSurface.Sensors.Observations

/-!
# Port specifications and endpoint URLs (`asm_sensors/ports.py`, `endpoint_base`)

A port specification is a text such as `80,443,8000-8100`.  `compileSpec` gives its
ranges in order with the touching ones joined, or `none` where the code raises
`ValueError`.  `endpointBase` brings a URL to the form web endpoints are known by.
-/

namespace AsmSensors

open PyText PyNet App.Scans

/-! ## Port specifications -/

variable (U : Unicode)

/-- `\d{1,5}`. -/
def isPortDigits (s : Str) : Bool :=
  s ≠ [] && decide (s.length ≤ 5) && s.all fun c => (U.decimal c).isSome

def portRange (part : Str) : Option (Nat × Nat) :=
  match partition '-' part with
  | none => if isPortDigits U part then some (intOf U part, intOf U part) else none
  | some (a, b) =>
    if isPortDigits U a && isPortDigits U b then some (intOf U a, intOf U b) else none

/-- `_ranges` of a text that `PORT_SPEC_RE` matches; `$` also matches before a final line feed. -/
def portRanges (s : Str) : Option (List (Nat × Nat)) :=
  let body := if s.getLast? = some '\n' then s.dropLast else s
  (body.splitOn ',').mapM (portRange U)

variable (spec : Str)

def validatePortSpec : Option Str :=
  let s := spec.filter (· != ' ')
  match portRanges U s with
  | none => none
  | some rs =>
    if rs.all fun r => decide (1 ≤ r.1 ∧ r.1 ≤ r.2 ∧ r.2 ≤ 65535) then some s else none

def rangeLe (a b : Nat × Nat) : Bool := decide (a.1 < b.1) || (a.1 == b.1 && decide (a.2 ≤ b.2))

/-- One round of the loop of `compile_spec`; the merged ranges stand last first. -/
def mergeRange : List (Nat × Nat) → Nat × Nat → List (Nat × Nat)
  | (lo', hi') :: merged, (lo, hi) =>
    if lo ≤ hi' + 1 then (lo', max hi' hi) :: merged else (lo, hi) :: (lo', hi') :: merged
  | [], r => [r]

def compileSpec : Option (List (Nat × Nat)) := do
  let s ← validatePortSpec U spec
  let rs ← portRanges U s
  some ((rs.insertionSort fun a b => rangeLe a b).foldl mergeRange []).reverse

def portInSpec (port : Int) (spec : Str) : Option Bool :=
  (compileSpec U spec).map fun rs => rs.any fun r => decide ((r.1 : Int) ≤ port ∧ port ≤ r.2)

def normalizeSpec : Option Str := (compileSpec U spec).map fun rs =>
    [','].intercalate (rs.map fun r => if r.1 = r.2 then dec r.1 else dec r.1 ++ '-' :: dec r.2)

/-! ## Endpoints (`asm_sensors/adapters/httpx`) -/

structure EndpointBase where
  base : Str
  scheme : Str
  host : Str
  port : Nat
deriving DecidableEq

def defaultPort (scheme : Str) : Nat := if scheme = "https".toList then 443 else 80

/-- `endpoint_base`; a port `0` counts as no port. -/
def endpointBase (url : Str) : Option EndpointBase :=
  match urlsplit url with
  | none => none
  | some p =>
    match p.port with
    | none => none
    | some port =>
      if (p.scheme ≠ "http".toList ∧ p.scheme ≠ "https".toList) ∨ p.hostname U = [] then none
      else
        let host := U.lower (p.hostname U)
        let port := match port with
          | some n => if n = 0 then defaultPort p.scheme else n
          | none => defaultPort p.scheme
        let suffix := if port = defaultPort p.scheme then [] else ':' :: dec port
        some ⟨p.scheme ++ "://".toList ++ bracketHost host ++ suffix, p.scheme, host, port⟩

end AsmSensors
