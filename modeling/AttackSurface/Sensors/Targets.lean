import AttackSurface.Net.Url

/-!
# Scan targets (`asm_sensors/targets.py`)

Every target is a kind and a text that one of six validators normalized.  This
module is the translation: the validators, `Target` (its text carries the proof
that a validator produced it) and the host a target names.

`HOSTNAME_RE` and `PORT_RE` end in `$`, which in Python also matches before one
final line feed; the matchers keep that.
-/

namespace AsmSensors

open PyText PyNet

inductive TargetKind
  | domain
  | hostname
  | ip
  | cidr
  | hostPort
  | url
deriving DecidableEq, Repr

/-- Why a text is no target.  All are `ValueError`s; the last one is raised by `urlsplit`
itself, the others are `InvalidTarget`. -/
inductive TargetError
  | wildcardHostname
  | invalidIdn (value : Str)
  | invalidHostname (value : Str)
  | invalidIp (value : Str)
  | invalidCidr (value : Str)
  | cidrTooLarge (net : Str) (limit : Nat)
  | invalidPort (value : Str)
  | expectedHostPort (value : Str)
  | onlyHttp (value : Str)
  | embeddedCredentials
  | urlWhitespace
  | leadingDash
  | urlSyntax
deriving DecidableEq, Repr

/-! ## Host names -/

def isLabelChar (c : Char) : Bool := c.isLower || c.isDigit || c == '_' || c == '-'

/-- `_LABEL`. -/
def isLabel (l : Str) : Bool :=
  decide (1 ≤ l.length) && decide (l.length ≤ 63) && l.all isLabelChar &&
    l.head? != some '-' && l.getLast? != some '-'

/-- `HOSTNAME_RE` up to its final `$`. -/
def hostnameBody (v : Str) : Bool :=
  let labels := v.splitOn '.'
  decide (v.length ≤ 253) && decide (2 ≤ labels.length) && labels.all isLabel

/-- `HOSTNAME_RE.match(v)`. -/
def hostnameRe (v : Str) : Bool := hostnameBody v || (v.getLast? == some '\n' && hostnameBody v.dropLast)

variable (U : Unicode) (value : Str)

/-- `value.strip().lower().rstrip(".")`. -/
def normalName : Str := rstrip (· == '.') (U.lower (strip value))

def aLabelForm (v : Str) : Option Str :=
  if v.any (!isAscii ·) then idnaEncode U v else some v

def validateHostname : Except TargetError Str :=
  let v := normalName U value
  if startsWith "*.".toList v then .error .wildcardHostname
  else
    match aLabelForm U v with
    | none => .error (.invalidIdn value)
    | some v => if hostnameRe v then .ok v else .error (.invalidHostname value)

/-! ## Addresses, networks, ports -/

def validateIp : Except TargetError Str :=
  match ipAddress (strip value) with
  | some a => .ok a.toStr
  | none => .error (.invalidIp value)

/-- The shortest prefix a target may have: `max_ipv4_prefix`, `max_ipv6_prefix`. -/
def cidrLimit : Version → Nat
  | .v4 => 16
  | .v6 => 48

def validateCidr : Except TargetError Str :=
  match ipNetwork (strip value) with
  | none => .error (.invalidCidr value)
  | some net =>
    if net.prefixlen < cidrLimit net.version then
      .error (.cidrTooLarge net.toStr (cidrLimit net.version))
    else .ok net.toStr

/-- The digits of a text that `PORT_RE` matches. -/
def portDigits (s : Str) : Option Str :=
  let ok := fun d : Str => isDecimal d && decide (d.length ≤ 5)
  if ok s then some s
  else if s.getLast? == some '\n' && ok s.dropLast then some s.dropLast
  else none

def validatePort : Except TargetError Nat :=
  match portDigits value with
  | some d =>
    if 1 ≤ decVal d ∧ decVal d ≤ 65535 then .ok (decVal d) else .error (.invalidPort value)
  | none => .error (.invalidPort value)

def validateHost (host : Str) : Except TargetError Str :=
  match validateIp host with
  | .ok h => .ok h
  | .error _ => validateHostname U host

/-! ## Host and port -/

def splitHostPort : Except TargetError (Str × Nat) :=
  match strip value with
  | '[' :: rest =>
    let r := (partitionStr "]:".toList rest).getD (rest, [])
    match validateIp r.1 with
    | .error e => .error e
    | .ok h =>
      match validatePort r.2 with
      | .error e => .error e
      | .ok p => .ok (h, p)
  | v =>
    match rpartition ':' v with
    | none => .error (.expectedHostPort value)
    | some r =>
      match validateHost U r.1 with
      | .error e => .error e
      | .ok h =>
        match validatePort r.2 with
        | .error e => .error e
        | .ok p => .ok (h, p)

/-- `[host]` for an IPv6 address. -/
def bracketHost (host : Str) : Str := if ':' ∈ host then '[' :: host ++ [']'] else host

def formatHostPort (host : Str) (port : Nat) : Str := bracketHost host ++ ':' :: dec port

/-! ## URLs -/

def validateUrl : Except TargetError Str :=
  let v := strip value
  match urlsplit v with
  | none => .error .urlSyntax
  | some parts =>
    if parts.scheme ≠ "http".toList ∧ parts.scheme ≠ "https".toList then .error (.onlyHttp value)
    else if parts.hasCredentials then .error .embeddedCredentials
    else
      match validateHost U (parts.hostname U) with
      | .error e => .error e
      | .ok host =>
        if v.any isSpace || v.any (fun c => decide (c.toNat < 32)) then .error .urlWhitespace
        else
          match parts.port with
          | none => .error .urlSyntax
          | some port =>
            let netloc := match port with
              | some p => bracketHost host ++ ':' :: dec p
              | none => bracketHost host
            .ok (composeUrl parts.scheme netloc parts.path parts.query)

/-! ## Targets -/

/-- `_VALIDATORS[kind]`. -/
def validator : TargetKind → Str → Except TargetError Str
  | .domain, v => validateHostname U v
  | .hostname, v => validateHostname U v
  | .ip, v => validateIp v
  | .cidr, v => validateCidr v
  | .url, v => validateUrl U v
  | .hostPort, v =>
    match splitHostPort U v with
    | .error e => .error e
    | .ok r => .ok (formatHostPort r.1 r.2)

variable (kind : TargetKind)

/-- `Target._validate`: the text a target of this kind stores. -/
def validateTarget (raw : Str) : Except TargetError Str :=
  match validator U kind raw with
  | .error e => .error e
  | .ok v => if startsWith ['-'] v then .error .leadingDash else .ok v

/-- A target: its text was stored by `_validate`. -/
structure Target (U : Unicode) where
  kind : TargetKind
  value : Str
  accepted : ∃ raw, validateTarget U kind raw = .ok value
deriving DecidableEq

/-- `Target(kind=kind, value=raw)`. -/
def Target.make (raw : Str) : Except TargetError (Target U) :=
  match h : validateTarget U kind raw with
  | .error e => .error e
  | .ok v => .ok ⟨kind, v, raw, h⟩

/-- The host of a kind and a text (`Target.host`). -/
def hostOf (value : Str) : Except TargetError Str :=
  match kind with
  | .domain | .hostname | .ip | .cidr => .ok value
  | .hostPort =>
    match splitHostPort U value with
    | .error e => .error e
    | .ok r => .ok r.1
  | .url =>
    match urlsplit value with
    | none => .error .urlSyntax
    | some parts => .ok (parts.hostname U)

/-- `Target.host`. -/
def Target.host {U : Unicode} (t : Target U) : Except TargetError Str := hostOf U t.kind t.value

end AsmSensors
