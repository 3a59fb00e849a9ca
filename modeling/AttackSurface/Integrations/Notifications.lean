import AttackSurface.Integrations.Channels
import AttackSurface.Store.Groups

/-!
# The notification engine (`app/integrations/notifications.py`)

`dispatchPending` takes the events that were not evaluated yet, tenant by tenant: it matches
them against the tenant's policies, hands each integration its batch, mails the members what
they asked for, and commits.  What the outside answers is an input (`World`).  An exception
that is not handled ends the call, and what it had not committed is rolled back; what was
sent stays sent.

The statistics that the function returns and the times that are only displayed
(`last_success_at`, `last_error_at`, `last_sent_at`) are left out.
-/

namespace App.Integrations

open PyText AsmSensors App.Scans PyDict

/-! ## Rows -/

structure AssetEvent (J : Type) where
  id : Nat
  tenantId : Nat
  organizationId : Option Nat := none
  assetId : Option Nat := none
  assetType : Option AssetType := none
  assetValue : Option Str := none
  findingId : Option Nat := none
  eventType : EventType
  severity : Severity := .info
  title : Str
  summary : Option Str := none
  previousState : Option J := none
  newState : Option J := none
  occurredAt : Int
  isBaseline : Bool := false
  notified : Bool := false
deriving DecidableEq

structure NotificationPolicy where
  id : Nat
  tenantId : Nat
  enabled : Bool := true
  /-- empty for all -/
  eventTypes : List EventType := []
  minSeverity : Severity := .high
  organizationIds : List Nat := []
  integrationIds : List Nat := []
  includeBaseline : Bool := false
  throttleMinutes : Nat := 0
deriving DecidableEq

structure Integration where
  id : Nat
  tenantId : Nat
  integrationType : IntegrationType
  config : Config := {}
  secretId : Option Nat := none
  enabled : Bool := true
deriving DecidableEq

inductive DeliveryStatus
  | pending
  | sent
  | failed
  | skipped
deriving DecidableEq, Repr

structure NotificationDelivery where
  tenantId : Nat
  eventId : Nat
  policyId : Option Nat := none
  integrationId : Option Nat := none
  /-- the member, for a personal alert -/
  recipientUserId : Option Nat := none
  status : DeliveryStatus := .pending
  attempts : Nat := 0
  lastError : Option Str := none
  createdAt : Int
deriving DecidableEq

structure User where
  id : Nat
  email : Str
  isActive : Bool := true
deriving DecidableEq

structure TenantMembership where
  tenantId : Nat
  userId : Nat
  isActive : Bool := true
deriving DecidableEq

structure UserAlertPreference where
  tenantId : Nat
  userId : Nat
  enabled : Bool := true
  minSeverity : Severity := .high
  eventTypes : List EventType := []
  organizationIds : List Nat := []
  includeBaseline : Bool := false
deriving DecidableEq

/-- The tables, with their primary keys. -/
structure Db (J : Type) where
  events : List (AssetEvent J)
  policies : List NotificationPolicy := []
  integrations : List Integration := []
  deliveries : List NotificationDelivery := []
  users : List User := []
  memberships : List TenantMembership := []
  preferences : List UserAlertPreference := []
  eventIds : (events.map AssetEvent.id).Nodup
  policyIds : (policies.map NotificationPolicy.id).Nodup
  integrationIds : (integrations.map Integration.id).Nodup
  userIds : (users.map User.id).Nodup

/-- What `event_payload` looks up. -/
structure Directory (J : Type) where
  tenantSlug : Nat → Option Str
  organizationName : Nat → Option Str
  /-- the first address shown and the risk score -/
  asset : Nat → Option (Option Str × Nat)
  /-- the title and the CVE -/
  finding : Nat → Option (Str × Option Str)
  /-- `public_url`, without a slash at its end -/
  base : Str
  isoformat : Int → Str
  /-- an id in a URL -/
  idText : Nat → Str
  wording : Wording J

/-- What the outside answers to the deliveries of a call. -/
structure World where
  integration : Nat → Outside
  /-- `send_email` to a member -/
  mail : Nat → Option Exn := fun _ => none

variable {J : Type} (D : Directory J)

/-- `event_payload`. -/
def eventPayload (ev : AssetEvent J) : Payload J where
  eventId := ev.id
  eventType := ev.eventType
  severity := ev.severity
  title := ev.title
  summary := ev.summary
  tenant := D.tenantSlug ev.tenantId
  organization := ev.organizationId.bind D.organizationName
  asset := ev.assetValue
  assetType := ev.assetType
  ip := (ev.assetId.bind D.asset).bind Prod.fst
  finding := (ev.findingId.bind D.finding).map Prod.fst
  cve := (ev.findingId.bind D.finding).bind Prod.snd
  riskScore := (ev.assetId.bind D.asset).map Prod.snd
  previous := ev.previousState
  current := ev.newState
  occurredAt := D.isoformat ev.occurredAt
  url := D.base ++ ((ev.assetId.map fun i => "/assets/".toList ++ D.idText i).getD "/changes".toList)

/-! ## Matching -/

/-- `_RANK`. -/
def Severity.order : Severity → Nat
  | .info => 0
  | .low => 1
  | .medium => 2
  | .high => 3
  | .critical => 4

def policyMatches (policy : NotificationPolicy) (ev : AssetEvent J) : Bool :=
  if !policy.enabled then false
  else if ev.isBaseline && !policy.includeBaseline then false
  else if policy.eventTypes ≠ [] ∧ ev.eventType ∉ policy.eventTypes then false
  else if Severity.order ev.severity < Severity.order policy.minSeverity then false
  else if policy.organizationIds ≠ [] ∧ ¬ev.organizationId.any (fun o => decide (o ∈ policy.organizationIds)) then
    false
  else true

variable (db : Db J) (now : Int)

/-- `_throttled`. -/
def throttled (policy : NotificationPolicy) (ev : AssetEvent J) : Bool :=
  decide (policy.throttleMinutes ≠ 0) && db.deliveries.any fun d =>
    decide (d.policyId = some policy.id ∧ now - 60 * policy.throttleMinutes ≤ d.createdAt ∧ d.status = .sent) &&
      db.events.any fun e => decide (e.id = d.eventId ∧ e.eventType = ev.eventType ∧ e.assetId = ev.assetId)

/-- `personal_matches`; a user without preferences has the default ones. -/
def personalMatches (pref : Option UserAlertPreference) (ev : AssetEvent J) : Bool :=
  let p := pref.getD ⟨0, 0, true, .high, [], [], false⟩
  if !p.enabled then false
  else if Severity.order ev.severity < Severity.order p.minSeverity then false
  else if ev.isBaseline && !p.includeBaseline then false
  else if p.eventTypes ≠ [] ∧ ev.eventType ∉ p.eventTypes then false
  else decide (p.organizationIds = []) || ev.organizationId.any fun o => decide (o ∈ p.organizationIds)

variable (t : Nat)

/-- `personal_preferences`: a user is a member of a tenant at most once. -/
def personalPreferences : List (User × Option UserAlertPreference) :=
  (db.users.filter fun u => u.isActive &&
    db.memberships.any fun m => decide (m.tenantId = t ∧ m.userId = u.id ∧ m.isActive = true)).map fun u =>
      (u, db.preferences.find? fun p => decide (p.tenantId = t ∧ p.userId = u.id))

/-! ## The outbox of a tenant -/

structure Item (J : Type) where
  event : AssetEvent J
  policy : NotificationPolicy
  payload : Payload J

abbrev Outbox (J : Type) := Groups Nat (Item J)

def Db.policiesOf : List NotificationPolicy :=
  db.policies.filter fun p => decide (p.tenantId = t) && p.enabled

def Db.integrationsOf : List Integration :=
  db.integrations.filter fun i => decide (i.tenantId = t) && i.enabled

def offer (item : Item J) (box : Outbox J) (i : Nat) : Outbox J :=
  if (get box i).any fun x => decide (x.event.id = item.event.id) then box else push box i item

def collect (box : Outbox J) (ev : AssetEvent J) : Outbox J :=
  (db.policiesOf t).foldl (fun box policy =>
    if policyMatches policy ev && !throttled db now policy ev then
      policy.integrationIds.foldl (fun box i =>
        if (db.integrationsOf t).any fun x => decide (x.id = i) then offer ⟨ev, policy, eventPayload D ev⟩ box i
        else box) box
    else box) box

def outbox (evs : List (AssetEvent J)) : Outbox J :=
  evs.foldl (collect D db now t) []

/-! ## Delivering -/

/-- `deliver`. -/
def deliver (i : Integration) (payloads : List (Payload J)) (out : Outside) : Outcome J :=
  match i.secretId with
  | none => channelSend D.wording i.integrationType i.config none payloads out
  | some _ =>
    match out.secret with
    | .error e => raises e
    | .ok secret => channelSend D.wording i.integrationType i.config (some secret) payloads out

/-- `except (ChannelError, ValueError)`. -/
def Exn.handled (e : Exn) : Bool := decide (e.kind = .channelError ∨ e.kind = .valueError)

/-- A delivery to an integration that was attempted. -/
structure Handed (J : Type) where
  integration : Integration
  items : List (Item J)
  outcome : Outcome J

/-- A personal alert that was attempted. -/
structure Mailed (J : Type) where
  user : User
  events : List (AssetEvent J)
  message : Str × Str
  raised : Option Exn

def attempt (w : World) (db : Db J) (t : Nat) (entry : Nat × List (Item J)) : Option (Handed J) :=
  ((db.integrationsOf t).find? fun x => decide (x.id = entry.1)).map fun i =>
    ⟨i, entry.2, deliver D i (entry.2.map Item.payload) (w.integration i.id)⟩

def Outcome.escapes (o : Outcome J) : Bool := o.raised.any fun e => !e.handled

def deliveryRow (t i : Nat) (raised : Option Exn) (x : Item J) : NotificationDelivery where
  tenantId := t
  eventId := x.event.id
  policyId := some x.policy.id
  integrationId := some i
  status := if raised.isNone then .sent else .failed
  attempts := 1
  lastError := raised.map fun e => e.message.take 1000
  createdAt := now

def Handed.rows (h : Handed J) : List NotificationDelivery :=
  h.items.map (deliveryRow now t h.integration.id h.outcome.raised)

/-- The loop over the outbox: what was attempted, up to an exception that is not handled. -/
def deliverAll (D : Directory J) (w : World) (db : Db J) (t : Nat) : Outbox J → List (Handed J) × Option Exn
  | [] => ([], none)
  | entry :: box =>
    match attempt D w db t entry with
    | none => deliverAll D w db t box
    | some h =>
      if h.outcome.escapes then ([h], h.outcome.raised)
      else
        let (rest, raised) := deliverAll D w db t box
        (h :: rest, raised)

/-- `_deliver_personal`, the loop over the members. -/
def mailAll (D : Directory J) (w : World) (evs : List (AssetEvent J)) :
    List (User × Option UserAlertPreference) → List (Mailed J)
  | [] => []
  | (user, pref) :: rest =>
    let mine := evs.filter (personalMatches pref)
    if mine.isEmpty then mailAll D w evs rest
    else
      let sent : Mailed J := ⟨user, mine, emailMessage D.wording "[Exteriq ASM]".toList (mine.map (eventPayload D)),
        w.mail user.id⟩
      -- without a mail server there is nothing to try for the others
      if sent.raised.any fun e => decide (e.kind = .mailNotConfigured) then [sent]
      else sent :: mailAll D w evs rest

def personalRow (t user : Nat) (raised : Option Exn) (ev : AssetEvent J) : NotificationDelivery where
  tenantId := t
  eventId := ev.id
  recipientUserId := some user
  status := match raised with
    | none => .sent
    | some e => if e.kind = .mailNotConfigured then .skipped else .failed
  attempts := 1
  lastError := raised.map fun e =>
    (if e.kind = .mailNotConfigured then e.message else e.name ++ ": ".toList ++ e.message).take 1000
  createdAt := now

def Mailed.rows (m : Mailed J) : List NotificationDelivery :=
  m.events.map (personalRow now t m.user.id m.raised)

/-- What is attempted for one tenant. -/
structure TenantRun (J : Type) where
  handed : List (Handed J)
  mailed : List (Mailed J)
  raised : Option Exn

def dispatchTenant (w : World) (db : Db J) (now : Int) (t : Nat) (evs : List (AssetEvent J)) : TenantRun J :=
  let (handed, raised) := deliverAll D w db t (outbox D db now t evs)
  ⟨handed, if raised.isSome then [] else mailAll D w evs (personalPreferences db t), raised⟩

def TenantRun.rows (now : Int) (t : Nat) (r : TenantRun J) : List NotificationDelivery :=
  r.handed.flatMap (Handed.rows now t) ++ r.mailed.flatMap (Mailed.rows now t)

variable (ids : List Nat) (ev : AssetEvent J)

def AssetEvent.notify : AssetEvent J :=
  if ev.id ∈ ids then { ev with notified := true } else ev

lemma AssetEvent.notify_id : (ev.notify ids).id = ev.id := by
  unfold AssetEvent.notify
  split <;> rfl

lemma map_notify_id (events : List (AssetEvent J)) :
    (events.map (AssetEvent.notify ids)).map AssetEvent.id = events.map AssetEvent.id := by
  rw [List.map_map]
  exact List.map_congr_left fun ev _ => ev.notify_id ids

/-- The commit of a tenant: its events are notified and the deliveries are recorded. -/
def Db.commit (rows : List NotificationDelivery) : Db J :=
  { db with
    events := db.events.map (AssetEvent.notify ids)
    deliveries := db.deliveries ++ rows
    eventIds := (map_notify_id ids db.events).symm ▸ db.eventIds }

/-- What a call leaves in the database, what it attempted, and what it raised. -/
structure CallResult (J : Type) where
  db : Db J
  runs : List (Nat × TenantRun J)
  raised : Option Exn

def dispatchTenants (D : Directory J) (w : World) (now : Int) :
    Db J → List (Nat × List (AssetEvent J)) → CallResult J
  | db, [] => ⟨db, [], none⟩
  | db, (t, evs) :: gs =>
    let run := dispatchTenant D w db now t evs
    if run.raised.isSome then ⟨db, [(t, run)], run.raised⟩
    else
      let r := dispatchTenants D w now (db.commit (evs.map AssetEvent.id) (run.rows now t)) gs
      { r with runs := (t, run) :: r.runs }

/-- The events that a call takes: those not notified yet and not locked, oldest first. -/
def pendingEvents (locked : List Nat) (limit : Nat) : List (AssetEvent J) :=
  ((db.events.filter fun ev => !ev.notified && !decide (ev.id ∈ locked)).insertionSort
    fun a b => a.occurredAt ≤ b.occurredAt).take limit

def byTenant (events : List (AssetEvent J)) : List (Nat × List (AssetEvent J)) :=
  groupBy AssetEvent.tenantId events

/-- `dispatch_pending`, while others have some rows locked. -/
def dispatchPending (w : World) (db : Db J) (locked : List Nat) (limit : Nat) (now : Int) : CallResult J :=
  dispatchTenants D w now db (byTenant (pendingEvents db locked limit))

end App.Integrations
