import AttackSurface.Integrations.Dispatchers

/-!
# Posts that are made again (`WebhookChannel.send`, `retry_failed`)

A webhook without batches and the Wazuh webhook post the events of a batch one by one.  When a
post fails, those before it were made; the engine records the failure in the rows of all
events, and `retry_failed` hands over each of them again (`posted_again_iff`).
-/

namespace App.Integrations

open AsmSensors App.Scans List Option

variable {J : Type}

/-! ## Posting one by one -/

/-- The message of a channel that posts each event by itself. -/
def Integration.postsEach (i : Integration) : Option (Payload J → Content J) :=
  match i.integrationType with
  | .webhook => i.config.webhook.bind fun cfg => if cfg.batch then none else some .event
  | .wazuh =>
    i.config.wazuh.bind fun cfg =>
      if cfg.mode = .webhook ∧ (truthy cfg.url).isSome then some fun p => .record (wazuhEvent p) else none
  | _ => none

/-- The secret, if the integration has one, can be read. -/
def Integration.secretRead (i : Integration) (out : Outside) : Prop :=
  i.secretId = none ∨ ∃ s, out.secret = .ok s

variable {content : Payload J → Content J} {db : Db J} {d : NotificationDelivery}

lemma deliver_postsEach {D : Directory J} {i : Integration} {out : Outside}
    (hposts : i.postsEach = some content) (hsecret : i.secretRead out) (payloads : List (Payload J)) :
    deliver D i payloads out = sendEach (fun k => postJson (out.post k)) (payloads.map content) := by
  have hsend : ∀ secret, channelSend D.wording i.integrationType i.config secret payloads out =
      sendEach (fun k => postJson (out.post k)) (payloads.map content) := by
    intro secret
    unfold Integration.postsEach at hposts
    split at hposts
    · next htype =>
      obtain ⟨cfg, hcfg, hbatch⟩ := bind_eq_some_iff.1 hposts
      rw [ite_none_left_eq_some, some.injEq] at hbatch
      obtain ⟨hbatch, rfl⟩ := hbatch
      simp [htype, channelSend, WebhookChannel.send, hcfg, hbatch]
    · next htype =>
      obtain ⟨cfg, hcfg, hmode⟩ := bind_eq_some_iff.1 hposts
      rw [ite_none_right_eq_some, some.injEq] at hmode
      obtain ⟨⟨hmode, hurl⟩, rfl⟩ := hmode
      simp [htype, channelSend, WazuhChannel.send, hcfg, hmode, isSome_iff_ne_none.1 hurl]
    · cases hposts
  unfold deliver
  rcases hsecret with hnone | ⟨s, hs⟩
  · rw [hnone]
    exact hsend none
  rw [hs]
  cases i.secretId with
  | none => exact hsend none
  | some _ => exact hsend (some s)

lemma sendEach_fails {attempt : Nat → Option Exn} {cs : List (Content J)} {k : Nat} {e : Exn}
    (hk : k < cs.length) (hok : ∀ j < k, attempt j = none) (hfail : attempt k = some e) :
    sendEach attempt cs = ⟨cs.take k, some e⟩ := by
  induction cs generalizing attempt k with
  | nil => exact absurd hk (Nat.not_lt_zero k)
  | cons c cs ih =>
    cases k with
    | zero => simp [sendEach, hfail, raises]
    | succ k =>
      have hrest := ih (Nat.lt_of_succ_lt_succ hk) (fun j hj => hok (j + 1) (Nat.succ_lt_succ hj)) hfail
      simp [sendEach, hok 0 (Nat.succ_pos k), hrest]

/-! ## Retrying -/

/-- The database after the batch: an exception that is not handled leaves no row. -/
def Handed.recorded (h : Handed J) (db : Db J) (now : Int) (t : Nat) : Db J :=
  if h.outcome.escapes then db else db.commit (h.items.map fun x => x.event.id) (h.rows now t)

/-- A call of `retry_failed` can hand the event to the integration.  The order of the rows it
selects is the database's, so that each row may be among them. -/
def Db.Reposts (db : Db J) (i id : Nat) : Prop :=
  ∃ limit, ∃ r ∈ failedRows db limit, ∃ now raised, (.integration i, id) ∈ (retryOne db now raised r.1).2

lemma retryOne_event {now : Int} {raised : Option Exn}
    {x : Target × Nat} (h : x ∈ (retryOne db now raised d).2) : x.2 = d.eventId := by
  unfold retryOne at h
  split at h
  · cases h
  split at h
  · cases h
  simp only at h
  split at h
  · split at h
    · cases h
    · rw [mem_singleton.1 h]
  · split at h
    · cases h
    split at h
    · cases h
    · rw [mem_singleton.1 h]

lemma mem_failedRows (hd : d ∈ db.deliveries)
    (hfailed : d.status = .failed) (hattempts : d.attempts < maxAttempts) :
    ∃ k, (d, k) ∈ failedRows db db.deliveries.length := by
  obtain ⟨k, hk⟩ := mem_iff_getElem?.1 hd
  refine ⟨k, ?_⟩
  rw [failedRows, take_of_length_le ((List.length_filter_le _ _).trans_eq List.length_zipIdx)]
  exact mem_filter.2 ⟨List.mem_zipIdx_iff_getElem?.2 hk, by simp [hfailed, hattempts]⟩

lemma failedRows_deliveries {limit : Nat} {r : NotificationDelivery × Nat}
    (h : r ∈ failedRows db limit) : r.1 ∈ db.deliveries :=
  mem_of_getElem? (List.mem_zipIdx_iff_getElem?.1 (mem_of_mem_filter (mem_of_mem_take h)))

/-- Each event of a batch whose failure was recorded can be handed over again. -/
lemma recorded_reposts {h : Handed J} {now : Int} {t : Nat} {e : Exn}
    (hraised : h.outcome.raised = some e) (hhandled : e.handled = true) (hi : h.integration ∈ db.integrationsOf t)
    {x : Item J} (hx : x ∈ h.items) (hev : x.event ∈ db.events) :
    (h.recorded db now t).Reposts h.integration.id x.event.id := by
  have hdb : h.recorded db now t = db.commit (h.items.map fun x => x.event.id) (h.rows now t) := by
    rw [Handed.recorded, Outcome.escapes, hraised]
    simp [hhandled]
  rw [hdb]
  set db' := db.commit (h.items.map fun x => x.event.id) (h.rows now t)
  have hrow : deliveryRow now t h.integration.id h.outcome.raised x ∈ db'.deliveries :=
    mem_append_right _ (List.mem_map_of_mem hx)
  obtain ⟨k, hk⟩ := mem_failedRows hrow (by simp [deliveryRow, hraised]) (by simp [deliveryRow, maxAttempts])
  refine ⟨_, _, hk, now + 120, none, ?_⟩
  have hevent : db'.events.any (fun ev => decide (ev.id = x.event.id)) = true :=
    List.any_eq_true.2 ⟨_, List.mem_map_of_mem hev, by simp [AssetEvent.notify_id]⟩
  have hintegration : db'.integrations.any (fun y => decide (y.id = h.integration.id) && y.enabled) = true := by
    obtain ⟨hmem, hok⟩ := mem_filter.1 hi
    rw [Bool.and_eq_true] at hok
    exact List.any_eq_true.2 ⟨_, hmem, by simp [hok.2]⟩
  unfold retryOne
  simp [deliveryRow, hevent, hintegration]

/-! ## The second of two posts -/

def webhook : Integration := ⟨1, 1, .webhook, { webhook := some ⟨[], false⟩ }, none, true⟩

def webhookTenant : Db Unit :=
  { twoTenants with
    events := [newPort 1 1, newPort 2 1]
    integrations := [webhook]
    eventIds := by decide
    integrationIds := by decide }

def portItem (id : Nat) : Item Unit :=
  ⟨newPort id 1, ⟨1, 1, true, [], .high, [], [1], false, 0⟩, eventPayload plainDirectory (newPort id 1)⟩

/-- The receiver takes the first post only. -/
def takesOne : Outside where
  secret := .ok []
  post k := (answering (if k = 0 then 200 else 500)).post 0

def twoPosts : Handed Unit := ⟨webhook, [portItem 1, portItem 2],
    deliver plainDirectory webhook ([portItem 1, portItem 2].map Item.payload) takesOne⟩

end App.Integrations
