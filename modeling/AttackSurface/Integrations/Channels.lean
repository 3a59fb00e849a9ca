import AttackSurface.Sensors.Observations

/-!
# Notification channels (`app/integrations/channels.py`)

A channel turns the payloads of a batch into messages and hands them to the outside: the
mail server, an HTTP receiver, a socket or a file.  What the outside answers is an input
(`Outside`); the outcome of `send` is the messages that were handed over and the exception
that was raised, if one was.

A message is its content: a text, the text blocks of a card, or the records that are written
as JSON.  JSON text itself is not modelled (`Wording.dumps`).
-/

namespace App.Integrations

open PyText AsmSensors App.Scans

inductive EventType
  | newAsset
  | newSubdomain
  | assetDisappeared
  | assetReappeared
  | dnsChanged
  | ipChanged
  | portOpened
  | portClosed
  | serviceDetected
  | serviceChanged
  | certificateChanged
  | certificateExpiring
  | certificateExpired
  | technologyDetected
  | technologyChanged
  | technologyRemoved
  | vulnerabilityDetected
  | vulnerabilityResolved
  | vulnerabilityReopened
  | riskIncreased
  | riskDecreased
  | assetExposed
  | ownershipChanged
  | approvalChanged
  | hostingChanged
  | shadowItDiscovered
  | scanFailed
  | scanCompleted
  | threatAdvisoryMatched
deriving DecidableEq, Repr

/-- What `event_payload` returns; `J` is a JSON object. -/
structure Payload (J : Type) where
  eventId : Nat
  eventType : EventType
  severity : Severity
  title : Str
  summary : Option Str
  tenant : Option Str
  organization : Option Str
  asset : Option Str
  assetType : Option AssetType
  ip : Option Str
  finding : Option Str
  cve : Option Str
  riskScore : Option Nat
  previous : Option J
  current : Option J
  occurredAt : Str
  url : Str
deriving DecidableEq

/-- `wazuh_event`. -/
structure WazuhEvent (J : Type) where
  eventType : EventType
  severity : Severity
  title : Str
  tenant : Option Str
  organization : Option Str
  asset : Option Str
  assetType : Option AssetType
  ip : Option Str
  finding : Option Str
  cve : Option Str
  riskScore : Option Nat
  previous : Option J
  current : Option J
  eventId : Nat
  timestamp : Str
  url : Str
deriving DecidableEq

/-- How values are written. -/
structure Wording (J : Type) where
  /-- `json.dumps` of an object or `None` -/
  dumps : Option J → Str
  /-- the object is not empty -/
  truthy : J → Bool

/-- The content of a message. -/
inductive Content (J : Type)
  | mail (subject body : Str)
  | text (body : Str)
  /-- the text blocks of a card -/
  | card (blocks : List Str)
  | event (payload : Payload J)
  | events (payloads : List (Payload J))
  | record (r : WazuhEvent J)
  | syslog (pri : Nat) (r : WazuhEvent J)
deriving DecidableEq

variable {J : Type}

def wazuhEvent (p : Payload J) : WazuhEvent J where
  eventType := p.eventType
  severity := p.severity
  title := p.title
  tenant := p.tenant
  organization := p.organization
  asset := p.asset
  assetType := p.assetType
  ip := p.ip
  finding := p.finding
  cve := p.cve
  riskScore := p.riskScore
  previous := p.previous
  current := p.current
  eventId := p.eventId
  timestamp := p.occurredAt
  url := p.url

/-! ## Exceptions -/

/-- The classes that the code tells apart; subclasses are of their class. -/
inductive ExnClass
  | channelError
  | valueError
  | gaierror
  | osError
  | httpError
  | mailNotConfigured
  /-- `httpx.InvalidURL`, `NotFound`, `KeyError` and the others -/
  | other
deriving DecidableEq, Repr

structure Exn where
  kind : ExnClass
  /-- `type(exc).__name__` -/
  name : Str
  /-- `str(exc)` -/
  message : Str
  strerror : Option Str := none
deriving DecidableEq

def channelError (message : Str) : Exn := ⟨.channelError, "ChannelError".toList, message, none⟩

def validationError : Exn := ⟨.valueError, "ValidationError".toList, "validation error".toList, none⟩

/-- `socket.gaierror` is an `OSError`. -/
def Exn.isOsError (e : Exn) : Bool := decide (e.kind = .osError ∨ e.kind = .gaierror)

/-! ## The outside -/

structure UrlParts where
  scheme : Str
  hostname : Option Str
  username : Option Str
  password : Option Str
  /-- reading the port may fail -/
  port : Except Exn (Option Nat)

/-- What one POST meets. -/
structure Posting where
  parts : Except Exn UrlParts
  /-- `allow_private_webhook_targets` -/
  allowPrivate : Bool := false
  /-- whether each address is global -/
  addresses : Except Exn (List Bool)
  /-- the status code of the answer -/
  response : Except Exn Nat

/-- What one delivery meets. -/
structure Outside where
  secret : Except Exn Str
  mail : Option Exn := none
  post : Nat → Posting
  /-- the socket, the connection, or the directory and the file -/
  opening : Option Exn := none
  write : Nat → Option Exn := fun _ => none
  closing : Option Exn := none

structure Outcome (J : Type) where
  sent : List (Content J)
  raised : Option Exn

def raises (e : Exn) : Outcome J := ⟨[], some e⟩

def sendEach (attempt : Nat → Option Exn) : List (Content J) → Outcome J
  | [] => ⟨[], none⟩
  | c :: cs =>
    match attempt 0 with
    | some e => raises e
    | none =>
      let o := sendEach (fun k => attempt (k + 1)) cs
      ⟨c :: o.sent, o.raised⟩

/-- A `with` block is left. -/
def Outcome.close (o : Outcome J) (closing : Option Exn) : Outcome J := { o with raised := o.raised.or closing }

/-- An `except` clause that raises another exception. -/
def Outcome.except (o : Outcome J) (f : Exn → Exn) : Outcome J := { o with raised := o.raised.map f }

def truthy : Option Str → Option Str
  | some [] => none
  | o => o

def checkOutboundUrl (a : Posting) : Option Exn :=
  match a.parts with
  | .error e => some e
  | .ok parts =>
    if parts.scheme ∉ ["https".toList, "http".toList] ∨ (truthy parts.hostname).isNone then
      some (channelError "URL must be http(s)".toList)
    else if (truthy parts.username).isSome ∨ (truthy parts.password).isSome then
      some (channelError "credentials in URLs are not allowed; use the secret field".toList)
    else if a.allowPrivate then none
    else
      match parts.port with
      | .error e => some e
      | .ok _ =>
        match a.addresses with
        | .error e =>
          if e.kind = .gaierror then
            some (channelError ("cannot resolve ".toList ++ parts.hostname.getD []))
          else some e
        | .ok globals =>
          if globals.all fun g => g then none
          else some (channelError "destination resolves to a private or reserved address".toList)

/-- `_post_json`. -/
def postJson (a : Posting) : Option Exn :=
  match checkOutboundUrl a with
  | some e => some e
  | none =>
    match a.response with
    | .error e => some (if e.kind = .httpError then channelError ("delivery failed: ".toList ++ e.name) else e)
    | .ok status => if 300 ≤ status then some (channelError ("receiver answered HTTP ".toList ++ dec status)) else none

/-! ## Texts -/

def Severity.upper : Severity → Str
  | .info => "INFO".toList
  | .low => "LOW".toList
  | .medium => "MEDIUM".toList
  | .high => "HIGH".toList
  | .critical => "CRITICAL".toList

/-- `SEVERITY_EMOJI`. -/
def Severity.emoji : Severity → Str
  | .critical => "🔴".toList
  | .high => "🟠".toList
  | .medium => "🟡".toList
  | .low => "🔵".toList
  | .info => "⚪".toList

/-- `_SYSLOG_SEVERITY`. -/
def Severity.syslog : Severity → Nat
  | .critical => 2
  | .high => 3
  | .medium => 4
  | .low => 5
  | .info => 6

def joinLines (lines : List Str) : Str := (['\n'] : Str).intercalate lines

def lineFor (o : Option Str) (f : Str → Str) : List Str := ((truthy o).map f).toList

variable (W : Wording J) (p : Payload J)

/-- The lines of `email_message` about one event. -/
def eventLines : List Str :=
  ["[".toList ++ Severity.upper p.severity ++ "] ".toList ++ p.title] ++
    lineFor p.organization (fun o => "  Organization: ".toList ++ o) ++
    lineFor p.asset (fun a => "  Asset: ".toList ++ a ++
      ((truthy p.ip).map fun ip => " (".toList ++ ip ++ ")".toList).getD []) ++
    lineFor p.summary (fun s => "  ".toList ++ s) ++
    (if p.previous.any W.truthy || p.current.any W.truthy then
      ["  Previous: ".toList ++ W.dumps p.previous, "  Current:  ".toList ++ W.dumps p.current]
    else []) ++
    ["  When: ".toList ++ p.occurredAt ++ "   Risk: ".toList ++ (p.riskScore.map dec).getD "None".toList] ++
    lineFor (some p.url) (fun u => "  ".toList ++ u) ++
    [[]]

/-- `email_message`: the subject and the body. -/
def emailMessage (subjectPrefix : Str) (payloads : List (Payload J)) : Str × Str :=
  (match payloads with
    | [top] => subjectPrefix ++ " ".toList ++ Severity.upper top.severity ++ ": ".toList ++ top.title
    | _ => subjectPrefix ++ " ".toList ++ dec payloads.length ++ " attack surface changes".toList,
    joinLines (payloads.flatMap (eventLines W)))

def slackText : Str := Severity.emoji p.severity ++ " *".toList ++ p.title ++ "*".toList ++
    ((truthy p.summary).map fun s => "\n>".toList ++ s).getD [] ++
    ((truthy (some p.url)).map fun u => " <".toList ++ u ++ "|open>".toList).getD []

def teamsText : Str :=
  "**[".toList ++ Severity.upper p.severity ++ "] ".toList ++ p.title ++ "**".toList ++
    ((truthy p.summary).map fun s => "\n\n".toList ++ s).getD []

/-! ## Channels -/

structure EmailConfig where
  recipients : List Str
  subjectPrefix : Str := "[Exteriq ASM]".toList
deriving DecidableEq

structure WebhookConfig where
  url : Str
  batch : Bool := false
deriving DecidableEq

inductive WazuhMode
  | syslog
  | webhook
  | file
deriving DecidableEq, Repr

structure WazuhConfig where
  mode : WazuhMode := .syslog
  host : Option Str := none
  url : Option Str := none
deriving DecidableEq

structure ChatConfig where
  mention : Option Str := none
deriving DecidableEq

/-- An integration's configuration, as each model validates it. -/
structure Config where
  email : Option EmailConfig := none
  webhook : Option WebhookConfig := none
  wazuh : Option WazuhConfig := none
  chat : Option ChatConfig := none
deriving DecidableEq

variable (cfg : Config) (payloads : List (Payload J)) (out : Outside)

/-- `EmailChannel.send`. -/
def EmailChannel.send : Outcome J :=
  match cfg.email with
  | none => raises validationError
  | some cfg =>
    let (subject, body) := emailMessage W cfg.subjectPrefix payloads
    (sendEach (fun _ => out.mail) [.mail subject body]).except fun e =>
      channelError ("email delivery failed: ".toList ++ e.name)

/-- `WebhookChannel.send`. -/
def WebhookChannel.send : Outcome J :=
  match cfg.webhook with
  | none => raises validationError
  | some cfg =>
    sendEach (fun k => postJson (out.post k)) (if cfg.batch then [.events payloads] else payloads.map .event)

/-- `WazuhChannel.send`; the delivery is always routed to a tenant. -/
def WazuhChannel.send : Outcome J :=
  match cfg.wazuh with
  | none => raises validationError
  | some cfg =>
    match cfg.mode with
    | .syslog =>
      if (truthy cfg.host).isNone then raises (channelError "syslog mode requires host".toList)
      else
        let lines := payloads.map fun p => .syslog (16 * 8 + Severity.syslog p.severity) (wazuhEvent p)
        let o := match out.opening with
          | some e => raises e
          | none => (sendEach out.write lines).close out.closing
        o.except fun e =>
          if e.isOsError then
            channelError ("syslog delivery failed: ".toList ++ (truthy e.strerror).getD e.name)
          else e
    | .webhook =>
      if (truthy cfg.url).isNone then raises (channelError "webhook mode requires url".toList)
      else sendEach (fun k => postJson (out.post k)) (payloads.map fun p => .record (wazuhEvent p))
    | .file =>
      match out.opening with
      | some e => raises e
      | none => (sendEach out.write (payloads.map fun p => .record (wazuhEvent p))).close out.closing

/-- `SlackChannel.send`: the first twenty payloads. -/
def SlackChannel.send (secret : Option Str) (payloads : List (Payload J)) (out : Outside) : Outcome J :=
  if (truthy secret).isNone then raises (channelError "Slack incoming webhook URL is not configured".toList)
  else
    match cfg.chat with
    | none => raises validationError
    | some cfg =>
      let text := joinLines ((payloads.take 20).map slackText)
      sendEach (fun k => postJson (out.post k))
        [.text (((truthy cfg.mention).map fun m => m ++ " ".toList).getD [] ++ text)]

/-- `TeamsChannel.send`: the first twenty payloads. -/
def TeamsChannel.send (secret : Option Str) (payloads : List (Payload J)) (out : Outside) : Outcome J :=
  if (truthy secret).isNone then raises (channelError "Teams webhook URL is not configured".toList)
  else
    sendEach (fun k => postJson (out.post k))
      [.card ("Exteriq ASM".toList :: (payloads.take 20).map teamsText)]

inductive IntegrationType
  | email
  | webhook
  | wazuh
  | slack
  | teams
  | jira
  | servicenow
deriving DecidableEq, Repr

def IntegrationType.value : IntegrationType → Str
  | .email => "email".toList
  | .webhook => "webhook".toList
  | .wazuh => "wazuh".toList
  | .slack => "slack".toList
  | .teams => "teams".toList
  | .jira => "jira".toList
  | .servicenow => "servicenow".toList

/-- `_Planned.send`. -/
def Planned.send (type : IntegrationType) : Outcome J :=
  raises (channelError ("the ".toList ++ type.value ++ " integration is planned but not yet available".toList))

/-- `CHANNELS[type].send`. -/
def channelSend (type : IntegrationType) (cfg : Config) (secret : Option Str)
    (payloads : List (Payload J)) (out : Outside) : Outcome J :=
  match type with
  | .email => EmailChannel.send W cfg payloads out
  | .webhook => WebhookChannel.send cfg payloads out
  | .wazuh => WazuhChannel.send cfg payloads out
  | .slack => SlackChannel.send cfg secret payloads out
  | .teams => TeamsChannel.send secret payloads out
  | .jira | .servicenow => Planned.send type

end App.Integrations
