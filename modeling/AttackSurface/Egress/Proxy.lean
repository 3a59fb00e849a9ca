import AttackSurface.Egress.Verdict
import AttackSurface.Run.Machine

/-!
# The egress proxy (`asm_sensors/egress_proxy.py`)

A forward proxy for one job.  Each connection of the browser is a task; tasks share the
statistics and run between two `await`s without interruption, so a step of the machine
`proxy` is what one task does from one `await` to the next.  `authorize` is split at its
only `await`, the lookup (`authorizeStart`, `authorizeFinish`).
-/

namespace AsmSensors

open PyText PyNet Machines

structure EgressPolicy where
  allowNonPublic : Bool := false
  excludedNetworks : List Network := []
  excludedDomains : List Str := []
  deniedDomains : List Str := []
  allowedPorts : List Nat := [80, 443]
  maxConnections : Nat := 300
  maxResponseBytes : Nat := 5 * 1024 * 1024
  maxUploadBytes : Nat := 1024 * 1024
  maxTotalBytes : Nat := 20 * 1024 * 1024

structure EgressStats where
  connections : Nat := 0
  allowed : Nat := 0
  /-- `host:port: reason`, capped -/
  blocked : List Str := []
  blockedCount : Nat := 0
  /-- `host:port`, capped -/
  allowedHosts : List Str := []
  bytesDown : Nat := 0
  bytesUp : Nat := 0
  limitHit : Option Str := none
deriving DecidableEq

/-! ## Decisions -/

/-- `host:port`. -/
def hostColonPort (host : Str) (port : Nat) : Str := host ++ ':' :: dec port

/-- `_block`. -/
def EgressStats.block (s : EgressStats) (host : Str) (port : Nat) (reason : Str) : EgressStats :=
  { s with
    blockedCount := s.blockedCount + 1
    blocked := if s.blocked.length < 20 then s.blocked ++ [hostColonPort host port ++ ": ".toList ++ reason]
      else s.blocked }

/-- `limit_hit = limit_hit or reason`. -/
def EgressStats.hit (s : EgressStats) (reason : Str) : EgressStats :=
  { s with limitHit := some (s.limitHit.getD reason) }

/-- `_domain_excluded`. -/
def domainExcluded (host : Str) (domains : List Str) : Bool :=
  domains.any fun d => host == d || endsWith ('.' :: d) host

variable (U : Unicode)

/-- `host.strip().strip("[]").lower().rstrip(".")`. -/
def proxyHost (host : Str) : Str :=
  rstrip (· == '.') (U.lower (stripChars ['[', ']'] (strip host)))

/-- How `authorize` goes on: refused, an address was given, or a name is looked up. -/
inductive AuthStart
  | refused (reason : Str)
  | literal (addr : Address)
  | lookup (name : Str)
deriving DecidableEq

variable (p : EgressPolicy) (s : EgressStats)

/-- `authorize` up to the lookup. -/
def authorizeStart (host : Str) (port : Nat) : EgressStats × AuthStart :=
  let host := proxyHost U host
  let refuse := fun (s : EgressStats) host reason => (s.block host port reason, AuthStart.refused reason)
  if p.maxConnections < s.connections then
    refuse (s.hit "connection limit".toList) host "connection limit reached".toList
  else if port ∉ p.allowedPorts then refuse s host "port not allowed".toList
  else
    match ipAddress host with
    | some addr => (s, .literal addr)
    | none =>
      match idnaEncode U host with
      | none => refuse s host "invalid hostname".toList
      | some name =>
        if domainExcluded name p.excludedDomains then
          refuse s name "hostname excluded from scope".toList
        else if domainExcluded name p.deniedDomains then
          refuse s name "browser background service".toList
        else (s, .lookup name)

/-- `authorize` from the addresses on: all must be acceptable, the first one is contacted. -/
def authorizeFinish (host : Str) (port : Nat) : List Address → EgressStats × Except Str Address
  | [] => (s.block host port "does not resolve".toList, .error "does not resolve".toList)
  | addr :: addrs =>
    match (addr :: addrs).findSome? (addressVerdict p.allowNonPublic p.excludedNetworks) with
    | some reason => (s.block host port reason, .error reason)
    | none =>
      ({ s with
          allowed := s.allowed + 1
          allowedHosts :=
            if s.allowedHosts.length < 50 ∧ hostColonPort host port ∉ s.allowedHosts then
              s.allowedHosts ++ [hostColonPort host port]
            else s.allowedHosts },
        .ok addr)

/-- `authorize`: while the name is looked up, other tasks may change the statistics. -/
def authorize (resolver : Str → List Address)
    (meanwhile : EgressStats → EgressStats) (s : EgressStats) (host : Str) (port : Nat) :
    EgressStats × Except Str Address :=
  match authorizeStart U p s host port with
  | (s, .refused reason) => (s, .error reason)
  | (s, .literal addr) => authorizeFinish p s (proxyHost U host) port [addr]
  | (s, .lookup name) => authorizeFinish p (meanwhile s) name port (resolver name)

/-! ## Requests -/

/-- What the request head asks for. -/
inductive Request
  | refused (status reason : Str)
  /-- an `http` proxy request for another scheme; the host goes to the statistics -/
  | badScheme (host : Str)
  /-- the port does not convert: the task ends with a `ValueError` -/
  | failed
  | destination (host : Str) (port : Nat) (forward : Str)
deriving DecidableEq

/-- `str.isdigit` of a Latin-1 character: the superscripts count. -/
def isLatinDigit (c : Char) : Bool := c.isDigit || c == '²' || c == '³' || c == '¹'

def splitLines : Str → List Str
  | [] => [[]]
  | '\r' :: '\n' :: s => [] :: splitLines s
  | c :: s =>
    match splitLines s with
    | [] => [[c]]
    | l :: ls => (c :: l) :: ls

def keepsHeader (h : Str) : Bool :=
  h ≠ [] && ["proxy-".toList, "connection:".toList, "keep-alive:".toList].all fun pre =>
    !startsWith pre (h.map Char.toLower)

def forwardHead (method version rest : Str) (u : SplitResult) : Str :=
  let path := (if u.path = [] then ['/'] else u.path) ++ (if u.query = [] then [] else '?' :: u.query)
  method ++ ' ' :: path ++ ' ' :: version ++ "\r\n".toList ++
    "\r\n".toList.intercalate ((splitLines rest).filter keepsHeader) ++
    "\r\nConnection: close\r\n\r\n".toList

/-- `_handle` up to `authorize`. -/
def parseHead (head : Str) : Request :=
  let (line, rest) := (partitionStr "\r\n".toList head).getD (head, [])
  match partition ' ' line with
  | none => .refused "400 Bad Request".toList "malformed request".toList
  | some (method, line) =>
    match partition ' ' line with
    | none => .refused "400 Bad Request".toList "malformed request".toList
    | some (target, version) =>
      if method.map Char.toUpper = "CONNECT".toList then
        let (host, port) := (rpartition ':' target).getD ([], target)
        if host = [] || port = [] || !port.all isLatinDigit then
          .refused "400 Bad Request".toList "malformed CONNECT".toList
        else if !port.all Char.isDigit || decide (4300 < port.length) then .failed
        else .destination host (decVal port) []
      else
        match urlsplit target with
        | none => .refused "400 Bad Request".toList "malformed URL".toList
        | some u =>
          match u.port with
          | none => .refused "400 Bad Request".toList "malformed URL".toList
          | some port =>
            if u.scheme ≠ "http".toList || u.hostname U = [] then
              .badScheme (if u.hostname U = [] then ['?'] else u.hostname U)
            else
              .destination (u.hostname U) (if port.getD 0 = 0 then 80 else port.getD 0)
                (forwardHead method version rest u)

/-! ## The machine -/

/-- Where the task of a connection is. -/
inductive Task
  /-- before its request head is read -/
  | reading
  | resolving (host name : Str) (port : Nat) (forward : Str)
  | connecting (addr : Address) (port : Nat) (forward : Str)
  /-- bytes moved up and down so far; `none` once that copy loop has ended -/
  | piping (up down : Option Nat)
  | closed
deriving DecidableEq

structure Proxy where
  stats : EgressStats := {}
  tasks : List Task := []
deriving DecidableEq

/-- What happens next, for the task of connection `i`. -/
inductive Action
  | accept
  | head (i : Nat) (text : Str)
  | answer (i : Nat) (addrs : List Address)
  | connected (i : Nat)
  | unreachable (i : Nat)
  /-- a copy loop reads a chunk -/
  | chunk (i : Nat) (down : Bool) (size : Nat)
  /-- a copy loop ends: end of stream, idle timeout -/
  | finish (i : Nat) (down : Bool)
  /-- the task ends or is cancelled -/
  | close (i : Nat)
deriving DecidableEq

inductive Event
  | respond (i : Nat) (status reason : Str)
  | authorized (i : Nat) (host : Str) (port : Nat) (answer : List Address) (addr : Address)
  | connect (i : Nat) (addr : Address) (port : Nat)
  | established (i : Nat)
  | forwarded (i : Nat) (head : Str)
  | copied (i : Nat) (down : Bool) (size : Nat)
  | overSize (i : Nat) (down : Bool)
  | overTotal (i : Nat) (down : Bool)
deriving DecidableEq

def headLimit : Nat := 16 * 1024

def Proxy.setTask (s : Proxy) (i : Nat) (t : Task) : Proxy := { s with tasks := s.tasks.set i t }

/-- The end of `authorize` and what `_handle` does with it, up to the next `await`. -/
def Proxy.decide (s : Proxy) (i : Nat) (host name : Str) (port : Nat)
    (forward : Str) (addrs : List Address) : Proxy × List Event :=
  match authorizeFinish p s.stats name port addrs with
  | (stats, .error reason) =>
    ({ s with stats }.setTask i .closed, [.respond i "403 Forbidden".toList reason])
  | (stats, .ok addr) =>
    ({ s with stats }.setTask i (.connecting addr port forward),
      [.authorized i host port addrs addr, .connect i addr port])

/-- `_handle` from its request head to the next `await`. -/
def Proxy.handle (s : Proxy) (i : Nat) (text : Str) : Proxy × List Event :=
  let stats := { s.stats with connections := s.stats.connections + 1 }
  match parseHead U text with
  | .refused status reason =>
    ({ s with stats }.setTask i .closed, [.respond i status reason])
  | .badScheme host =>
    ({ s with stats := stats.block host 0 "scheme not allowed".toList }.setTask i .closed,
      [.respond i "403 Forbidden".toList "scheme not allowed".toList])
  | .failed => ({ s with stats }.setTask i .closed, [])
  | .destination host port forward =>
    match authorizeStart U p stats host port with
    | (stats, .refused reason) =>
      ({ s with stats }.setTask i .closed, [.respond i "403 Forbidden".toList reason])
    | (stats, .literal addr) => { s with stats }.decide p i host (proxyHost U host) port forward [addr]
    | (stats, .lookup name) => ({ s with stats }.setTask i (.resolving host name port forward), [])

/-- One round of a copy loop, with `moved` bytes before it: the statistics, the bytes moved if it
goes on, and what is seen. -/
def copyChunk (i : Nat) (down : Bool) (moved size : Nat) : EgressStats × Option Nat × List Event :=
  let moved := moved + size
  let s := if down then { s with bytesDown := s.bytesDown + size }
    else { s with bytesUp := s.bytesUp + size }
  if (if down then p.maxResponseBytes else p.maxUploadBytes) < moved then
    (s.hit (if down then "response size".toList else "upload size".toList), none, [.overSize i down])
  else if p.maxTotalBytes < s.bytesDown then
    (s.hit "total download size".toList, none, [.overTotal i down])
  else (s, some moved, [.copied i down size])

/-- One step of the proxy; `none` when the action is not possible. -/
def Proxy.step (s : Proxy) : Action → Option (Proxy × List Event)
  | .accept => some ({ s with tasks := s.tasks ++ [.reading] }, [])
  | .head i text =>
    match s.tasks[i]? with
    | some .reading =>
      -- an oversized head ends the task before it is counted
      if headLimit < text.length then some (s.setTask i .closed, []) else some (s.handle U p i text)
    | _ => none
  | .answer i addrs =>
    match s.tasks[i]? with
    | some (.resolving host name port forward) => some (s.decide p i host name port forward addrs)
    | _ => none
  | .connected i =>
    match s.tasks[i]? with
    | some (.connecting _ _ forward) =>
      some (s.setTask i (.piping (some 0) (some 0)),
        [if forward = [] then .established i else .forwarded i forward])
    | _ => none
  | .unreachable i =>
    match s.tasks[i]? with
    | some (.connecting _ _ _) =>
      some (s.setTask i .closed, [.respond i "502 Bad Gateway".toList "upstream unreachable".toList])
    | _ => none
  | .chunk i down size =>
    if size = 0 ∨ 65536 < size then none
    else
      match s.tasks[i]?, down with
      | some (.piping up (some moved)), true =>
        let r := copyChunk p s.stats i true moved size
        some ({ s with stats := r.1 }.setTask i (.piping up r.2.1), r.2.2)
      | some (.piping (some moved) dn), false =>
        let r := copyChunk p s.stats i false moved size
        some ({ s with stats := r.1 }.setTask i (.piping r.2.1 dn), r.2.2)
      | _, _ => none
  | .finish i down =>
    match s.tasks[i]? with
    | some (.piping up dn) =>
      some (s.setTask i (if down then .piping up none else .piping none dn), [])
    | _ => none
  | .close i =>
    match s.tasks[i]? with
    | some _ => some (s.setTask i .closed, [])
    | none => none

def proxy : Machine Proxy Action Event := ⟨Proxy.step U p⟩

end AsmSensors
