import AttackSurface.Integrations.Outbox

/-!
# What the channels send of a batch

`dispatch_pending` marks the rows of a whole batch as sent when `send` returns.  Email, the
webhook and Wazuh render every payload; Slack and Teams render the first twenty.  So each
event that is marked as sent is in a message if and only if what the chat channels leave out
happens to be in the text of the first twenty (`sent_represented_iff`).
-/

namespace App.Integrations

open PyText AsmSensors App.Scans List Option Bool

variable {J : Type}

def Content.represents (p : Payload J) : Content J → Prop
  | .mail _ body => p.title <:+: body
  | .text body => p.title <:+: body
  | .card blocks => ∃ b ∈ blocks, p.title <:+: b
  | .event q => q = p
  | .events qs => p ∈ qs
  | .record r => r = wazuhEvent p
  | .syslog _ r => r = wazuhEvent p

instance [DecidableEq J] (p : Payload J) (c : Content J) : Decidable (c.represents p) := by
  cases c <;> (unfold Content.represents; infer_instance)

def IntegrationType.isChat : IntegrationType → Bool
  | .slack | .teams => true
  | _ => false

def chatMessage (i : Integration) (payloads : List (Payload J)) : Content J :=
  if i.integrationType = .slack then
    .text (((truthy (i.config.chat.bind ChatConfig.mention)).map fun m => m ++ " ".toList).getD [] ++
      joinLines (payloads.map slackText))
  else .card ("Exteriq ASM".toList :: payloads.map teamsText)

/-- The integration is a chat channel with a URL and, on Slack, a valid configuration, and the
receiver takes the message. -/
def chatTakes (i : Integration) (out : Outside) : Bool := i.integrationType.isChat && i.secretId.isSome &&
    (match out.secret with
      | .error _ => false
      | .ok secret => (truthy (some secret)).isSome) &&
    (decide (i.integrationType = .teams) || i.config.chat.isSome) && (postJson (out.post 0)).isNone

/-! ## Texts -/

section Texts

lemma infix_joinLines {lines : List Str} {l : Str} (h : l ∈ lines) : l <:+: joinLines lines := by
  unfold joinLines
  induction lines with
  | nil => exact absurd h not_mem_nil
  | cons m lines ih =>
    rcases mem_cons.1 h with rfl | hrest
    · rcases lines with _ | ⟨m', lines⟩
      · exact ⟨[], [], by simp [intercalate]⟩
      · exact ⟨[], ['\n'] ++ (['\n'] : Str).intercalate (m' :: lines), by simp [intercalate]⟩
    rcases lines with _ | ⟨m', lines⟩
    · exact absurd hrest not_mem_nil
    · refine (ih hrest).trans ⟨m ++ ['\n'], [], ?_⟩
      simp [intercalate]

lemma title_infix_line (W : Wording J) (p : Payload J) : ∃ l ∈ eventLines W p, p.title <:+: l := by
  refine ⟨_, mem_append_left _ (mem_append_left _ (mem_append_left _ (mem_append_left _
    (mem_append_left _ (mem_append_left _ (mem_append_left _ (mem_singleton.2 rfl))))))), ?_⟩
  exact ⟨"[".toList ++ Severity.upper p.severity ++ "] ".toList, [], by simp⟩

lemma title_infix_emailMessage (W : Wording J) (pre : Str) {p : Payload J} {payloads : List (Payload J)}
    (h : p ∈ payloads) : p.title <:+: (emailMessage W pre payloads).2 := by
  obtain ⟨l, hl, hinfix⟩ := title_infix_line W p
  exact hinfix.trans (infix_joinLines (mem_flatMap.2 ⟨p, h, hl⟩))

lemma title_infix_slackText (p : Payload J) : p.title <:+: slackText p := by
  unfold slackText
  generalize ((truthy p.summary).map fun s => "\n>".toList ++ s).getD [] = summary
  generalize ((truthy (some p.url)).map fun u => " <".toList ++ u ++ "|open>".toList).getD [] = url
  exact ⟨Severity.emoji p.severity ++ " *".toList, "*".toList ++ summary ++ url, by simp⟩

lemma title_infix_teamsText (p : Payload J) : p.title <:+: teamsText p := by
  unfold teamsText
  generalize ((truthy p.summary).map fun s => "\n\n".toList ++ s).getD [] = summary
  exact ⟨"**[".toList ++ Severity.upper p.severity ++ "] ".toList, "**".toList ++ summary, by simp⟩

lemma chatMessage_represents (i : Integration) {p : Payload J} {payloads : List (Payload J)}
    (h : p ∈ payloads) : (chatMessage i payloads).represents p := by
  unfold chatMessage
  split
  · have hinfix := (title_infix_slackText p).trans (infix_joinLines (List.mem_map_of_mem h))
    exact hinfix.trans (suffix_append _ _).isInfix
  · exact ⟨teamsText p, mem_cons_of_mem _ (List.mem_map_of_mem h), title_infix_teamsText p⟩

end Texts

/-! ## Deliveries -/

section Deliveries

variable {D : Directory J} {i : Integration} {payloads : List (Payload J)} {out : Outside}

lemma sendEach_ok {attempt : Nat → Option Exn} {cs : List (Content J)} (h : (sendEach attempt cs).raised = none) :
    (sendEach attempt cs).sent = cs := by
  induction cs generalizing attempt with
  | nil => rfl
  | cons c cs ih =>
    unfold sendEach at h ⊢
    rcases ha : attempt 0 with _ | e
    · rw [ha] at h
      exact congrArg (c :: ·) (ih h)
    · rw [ha] at h
      cases h

lemma except_ok {o : Outcome J} {f : Exn → Exn} (h : (o.except f).raised = none) : o.raised = none :=
  map_eq_none_iff.1 h

lemma close_ok {o : Outcome J} {closing : Option Exn} (h : (o.close closing).raised = none) :
    o.raised = none := (or_eq_none_iff.1 h).1

variable {p : Payload J}

variable {cfg : Config}

lemma EmailChannel.represents {W : Wording J} (h : (EmailChannel.send W cfg payloads out).raised = none)
    (hp : p ∈ payloads) : ∃ c ∈ (EmailChannel.send W cfg payloads out).sent, c.represents p := by
  unfold EmailChannel.send at h ⊢
  split at h
  · cases h
  next cfg' _ =>
  refine ⟨.mail (emailMessage W cfg'.subjectPrefix payloads).1 _, ?_, title_infix_emailMessage W cfg'.subjectPrefix hp⟩
  show _ ∈ (sendEach (fun _ => out.mail) _).sent
  rw [sendEach_ok (except_ok h)]
  exact mem_singleton.2 rfl

lemma WebhookChannel.represents (h : (WebhookChannel.send cfg payloads out).raised = none)
    (hp : p ∈ payloads) : ∃ c ∈ (WebhookChannel.send cfg payloads out).sent, c.represents p := by
  unfold WebhookChannel.send at h ⊢
  split at h
  · cases h
  rw [sendEach_ok h]
  split
  · exact ⟨.events payloads, mem_singleton.2 rfl, hp⟩
  · exact ⟨.event p, List.mem_map_of_mem hp, rfl⟩

lemma WazuhChannel.represents (h : (WazuhChannel.send cfg payloads out).raised = none)
    (hp : p ∈ payloads) : ∃ c ∈ (WazuhChannel.send cfg payloads out).sent, c.represents p := by
  have hrecord : Content.record (wazuhEvent p) ∈ payloads.map fun p => .record (wazuhEvent p) :=
    List.mem_map.2 ⟨p, hp, rfl⟩
  unfold WazuhChannel.send at h ⊢
  split at h
  · cases h
  split at h
  · split at h
    · cases h
    next hhost =>
    have hopen := except_ok h
    rcases hopening : out.opening with _ | e
    · rw [hopening] at hopen
      have hsent := sendEach_ok (close_ok hopen)
      refine ⟨.syslog (16 * 8 + Severity.syslog p.severity) (wazuhEvent p), ?_, rfl⟩
      simp only [hhost, false_eq_true, if_false, Outcome.except, Outcome.close, hsent]
      exact List.mem_map.2 ⟨p, hp, rfl⟩
    · rw [hopening] at hopen
      cases hopen
  · split at h
    · cases h
    next hurl =>
    refine ⟨.record (wazuhEvent p), ?_, rfl⟩
    simp only [hurl, false_eq_true, if_false, sendEach_ok h]
    exact hrecord
  · split at h
    · cases h
    next hopening =>
    refine ⟨.record (wazuhEvent p), ?_, rfl⟩
    simp only [Outcome.close, sendEach_ok (close_ok h)]
    exact hrecord

lemma sendEach_post (out : Outside) (c : Content J) : sendEach (fun k => postJson (out.post k)) [c] =
      ⟨if (postJson (out.post 0)).isNone then [c] else [], postJson (out.post 0)⟩ := by
  unfold sendEach
  rcases h : postJson (out.post 0) with _ | e
  · rfl
  · rfl

variable (D payloads out) in
lemma deliver_chat (hchat : i.integrationType.isChat = true) :
    deliver D i payloads out = ⟨if chatTakes i out then [chatMessage i (payloads.take 20)] else [],
      (deliver D i payloads out).raised⟩ ∧
      ((deliver D i payloads out).raised = none ↔ chatTakes i out = true) := by
  have htypes : i.integrationType = .slack ∨ i.integrationType = .teams := by
    rcases h : i.integrationType <;> simp_all [IntegrationType.isChat]
  unfold deliver chatTakes chatMessage
  rcases hid : i.secretId with _ | id
  · rcases htypes with htype | htype
    · simp [htype, channelSend, SlackChannel.send, truthy, raises]
    · simp [htype, channelSend, TeamsChannel.send, truthy, raises]
  rcases hsecret : out.secret with e | secret
  · simp [raises]
  rcases hempty : truthy (some secret) with _ | url
  · rcases htypes with htype | htype
    · simp [htype, channelSend, SlackChannel.send, hempty, raises]
    · simp [htype, channelSend, TeamsChannel.send, hempty, raises]
  rcases htypes with htype | htype
  · rcases hcfg : i.config.chat with _ | cfg
    · simp [htype, channelSend, SlackChannel.send, hempty, hcfg, raises]
    · simp [htype, channelSend, SlackChannel.send, hempty, hcfg, sendEach_post, IntegrationType.isChat]
  · simp [htype, channelSend, TeamsChannel.send, hempty, sendEach_post, IntegrationType.isChat]

lemma deliver_represents (hchat : i.integrationType.isChat = false)
    (h : (deliver D i payloads out).raised = none) (hp : p ∈ payloads) :
    ∃ c ∈ (deliver D i payloads out).sent, c.represents p := by
  have hsend : ∀ secret, (channelSend D.wording i.integrationType i.config secret payloads out).raised = none →
      ∃ c ∈ (channelSend D.wording i.integrationType i.config secret payloads out).sent, c.represents p := by
    intro secret hok
    rcases htype : i.integrationType
    · rw [htype] at hok
      exact EmailChannel.represents hok hp
    · rw [htype] at hok
      exact WebhookChannel.represents hok hp
    · rw [htype] at hok
      exact WazuhChannel.represents hok hp
    · rw [htype] at hchat
      cases hchat
    · rw [htype] at hchat
      cases hchat
    all_goals
      rw [htype] at hok
      cases hok
  unfold deliver at h ⊢
  split at h
  · exact hsend none h
  split at h
  · cases h
  · exact hsend _ h

end Deliveries

/-! ## Calls -/

def sentTo (r : CallResult J) (i : Nat) : List (Content J) :=
  r.runs.flatMap fun run => (run.2.handed.filter fun h => decide (h.integration.id = i)).flatMap fun h =>
    h.outcome.sent

/-- Each event whose delivery to an integration the call marks as sent is in a message that
the integration was sent. -/
def SentRepresented (D : Directory J) (w : World) (db : Db J) (locked : List Nat) (limit : Nat) (now : Int) : Prop :=
  ∀ row ∈ (dispatchPending D w db locked limit now).db.deliveries.drop db.deliveries.length,
    row.status = .sent → ∀ i ∈ row.integrationId, ∃ ev ∈ db.events, ev.id = row.eventId ∧
      ∃ c ∈ sentTo (dispatchPending D w db locked limit now) i, c.represents (eventPayload D ev)

instance [DecidableEq J] (D : Directory J) (w : World) (db : Db J) (locked : List Nat) (limit : Nat) (now : Int) :
    Decidable (SentRepresented D w db locked limit now) := by
  unfold SentRepresented
  infer_instance

def payloadsFor (D : Directory J) (db : Db J) (now : Int) (g : Nat × List (AssetEvent J)) (i : Integration) :
    List (Payload J) := (g.2.filter (reaches db now g.1 i.id)).map (eventPayload D)

section Calls

variable {D : Directory J} {w : World} {db : Db J} {locked : List Nat} {limit : Nat} {now : Int}
  {g : Nat × List (AssetEvent J)} {i : Integration}

def handedTo (D : Directory J) (w : World) (db : Db J) (now : Int) (g : Nat × List (AssetEvent J))
    (i : Integration) : Handed J :=
  ⟨i, g.2.filterMap (itemFor D db now g.1 i.id), deliver D i (payloadsFor D db now g i) (w.integration i.id)⟩

lemma attempt_eq (hi : i ∈ db.integrationsOf g.1) :
    attempt D w db g.1 (i.id, g.2.filterMap (itemFor D db now g.1 i.id)) = some (handedTo D w db now g i) := by
  have hfind : ((db.integrationsOf g.1).find? fun x => decide (x.id = i.id)) = some i := by
    obtain ⟨x, hx⟩ : ∃ x, ((db.integrationsOf g.1).find? fun x => decide (x.id = i.id)) = some x := by
      rw [← isSome_iff_exists, find?_isSome]
      exact ⟨i, hi, by simp⟩
    have hid : x.id = i.id := by simpa using find?_some hx
    rw [hx, inj_on_of_nodup_map db.integrationIds (mem_of_mem_filter (mem_of_find?_eq_some hx))
      (mem_of_mem_filter hi) hid]
  rw [attempt, hfind, map_some, map_payload_items]
  rfl

lemma mem_handed (hg : (g.2.map AssetEvent.id).Nodup) {h : Handed J}
    (hh : h ∈ (dispatchTenant D w db now g.1 g.2).handed) :
    ∃ i ∈ db.integrationsOf g.1, h = handedTo D w db now g i := by
  obtain ⟨⟨k, items⟩, hentry, hattempt⟩ := mem_filterMap.1 (deliverAll_subset _ hh)
  obtain ⟨_, hitems⟩ := (mem_outbox hg).1 hentry
  obtain ⟨i, hi, heq⟩ := map_eq_some_iff.1 hattempt
  obtain rfl : i.id = k := by simpa using find?_some hi
  have hmem := mem_of_find?_eq_some hi
  rw [← hitems, attempt_eq hmem] at hattempt
  exact ⟨i, hmem, (some_inj.1 hattempt).symm⟩

lemma handedTo_mem (hg : (g.2.map AssetEvent.id).Nodup) (hclean : clean D w db now g = true)
    (hi : i ∈ db.integrationsOf g.1) (hitems : (handedTo D w db now g i).items ≠ []) :
    handedTo D w db now g i ∈ (dispatchTenant D w db now g.1 g.2).handed := by
  rw [dispatchTenant_clean hclean]
  exact mem_filterMap.2 ⟨_, (mem_outbox hg).2 ⟨hitems, rfl⟩, attempt_eq hi⟩

lemma tenant_of_mem {t : Nat} (hi : i ∈ db.integrationsOf t) : i.tenantId = t := by
  have hok := (mem_filter.1 hi).2
  rw [and_eq_true, decide_eq_true_eq] at hok
  exact hok.1

lemma mem_sentTo (hg : g ∈ byTenant (pendingEvents db locked limit)) (hi : i ∈ db.integrationsOf g.1)
    {c : Content J} (hc : c ∈ sentTo (dispatchPending D w db locked limit now) i.id) :
    c ∈ (handedTo D w db now g i).outcome.sent := by
  obtain ⟨run, hrun, hc⟩ := mem_flatMap.1 hc
  obtain ⟨h, hh, hc⟩ := mem_flatMap.1 hc
  obtain ⟨hhanded, hid⟩ := mem_filter.1 hh
  obtain ⟨g', hg', rfl⟩ := List.mem_map.1 ((dispatchPending_runs D w db locked limit now).2 hrun)
  obtain ⟨i', hi', rfl⟩ := mem_handed (byTenant_nodup (pendingEvents_nodup db locked limit) hg') hhanded
  have hsame : i' = i := inj_on_of_nodup_map db.integrationIds (mem_of_mem_filter hi')
    (mem_of_mem_filter hi) (of_decide_eq_true hid)
  subst hsame
  have hgroup : g' = g := inj_on_of_nodup_map (byTenant_keys _) hg' hg
    ((tenant_of_mem hi').symm.trans (tenant_of_mem hi))
  rwa [← hgroup]

lemma sentTo_mem (hg : g ∈ committed D w db locked limit now) {h : Handed J}
    (hh : h ∈ (dispatchTenant D w db now g.1 g.2).handed) {c : Content J} (hc : c ∈ h.outcome.sent) :
    c ∈ sentTo (dispatchPending D w db locked limit now) h.integration.id :=
  mem_flatMap.2 ⟨_, (dispatchPending_runs D w db locked limit now).1 (List.mem_map_of_mem hg),
    mem_flatMap.2 ⟨h, mem_filter.2 ⟨hh, by simp⟩, hc⟩⟩

lemma new_rows : (dispatchPending D w db locked limit now).db.deliveries.drop db.deliveries.length =
    (committed D w db locked limit now).flatMap fun g => (dispatchTenant D w db now g.1 g.2).rows now g.1 := by
  rw [(dispatchPending_eq D w db locked limit now).2, drop_left]

/-- What is delivered of a batch without an exception is represented, if the chat channels
represent what they leave out. -/
lemma handedTo_represents (hraised : (handedTo D w db now g i).outcome.raised = none)
    (hchat : chatTakes i (w.integration i.id) = true → ∀ p ∈ (payloadsFor D db now g i).drop 20,
      (chatMessage i ((payloadsFor D db now g i).take 20)).represents p)
    {p : Payload J} (hp : p ∈ payloadsFor D db now g i) :
    ∃ c ∈ (handedTo D w db now g i).outcome.sent, c.represents p := by
  rcases htype : i.integrationType.isChat with _ | _
  · exact deliver_represents htype hraised hp
  obtain ⟨hsent, htakes⟩ := deliver_chat D (payloadsFor D db now g i) (w.integration i.id) htype
  have hok := htakes.1 hraised
  refine ⟨chatMessage i ((payloadsFor D db now g i).take 20), ?_, ?_⟩
  · show _ ∈ (deliver D i (payloadsFor D db now g i) (w.integration i.id)).sent
    rw [hsent, if_pos hok]
    exact mem_singleton.2 rfl
  rw [← take_append_drop 20 (payloadsFor D db now g i)] at hp
  rcases mem_append.1 hp with hfirst | hlater
  · exact chatMessage_represents i hfirst
  · exact hchat hok p hlater

/-- Each event that a call marks as sent is in a message if and only if each chat message that
is taken represents the payloads after the first twenty. -/
theorem sent_represented_iff (D : Directory J) (w : World) (db : Db J) (locked : List Nat) (limit : Nat) (now : Int) :
    SentRepresented D w db locked limit now ↔
      ∀ g ∈ committed D w db locked limit now, ∀ i ∈ db.integrationsOf g.1,
        chatTakes i (w.integration i.id) = true → ∀ p ∈ (payloadsFor D db now g i).drop 20,
          (chatMessage i ((payloadsFor D db now g i).take 20)).represents p := by
  have hbatch : ∀ g ∈ committed D w db locked limit now, g ∈ byTenant (pendingEvents db locked limit) :=
    fun g hg => (List.takeWhile_prefix _).subset hg
  have hnodup : ∀ g ∈ committed D w db locked limit now, (g.2.map AssetEvent.id).Nodup :=
    fun g hg => byTenant_nodup (pendingEvents_nodup db locked limit) (hbatch g hg)
  have hevents : ∀ g ∈ committed D w db locked limit now, ∀ ev ∈ g.2, ev ∈ db.events := by
    intro g hg ev hev
    rw [← (mem_byTenant (hbatch g hg)).2] at hev
    exact (mem_pendingEvents (mem_of_mem_filter hev)).1
  rw [SentRepresented, new_rows]
  constructor
  · intro h g hg i hi htakes p hp
    have hchat : i.integrationType.isChat = true := by
      simp only [chatTakes, and_eq_true] at htakes
      exact htakes.1.1.1.1
    obtain ⟨hsent, hraised⟩ := deliver_chat D (payloadsFor D db now g i) (w.integration i.id) hchat
    obtain ⟨ev, hev, rfl⟩ := List.mem_map.1 (mem_of_mem_drop hp)
    have hitem : ev ∈ (handedTo D w db now g i).items.map Item.event := by
      rw [handedTo, map_event_items]
      exact hev
    obtain ⟨x, hx, rfl⟩ := List.mem_map.1 hitem
    have hhanded := handedTo_mem (hnodup g hg) (mem_takeWhile_imp hg) hi (ne_nil_of_mem hx)
    obtain ⟨ev', hev', hid, c, hc, hrep⟩ := h _ (mem_flatMap.2 ⟨g, hg, mem_append_left _
      (mem_flatMap.2 ⟨_, hhanded, List.mem_map_of_mem hx⟩)⟩) (deliveryRow_sent.2 (hraised.2 htakes)) i.id rfl
    have hsame : ev' = x.event := inj_on_of_nodup_map db.eventIds hev'
      (hevents g hg _ (mem_of_mem_filter hev)) hid
    have hmem := mem_sentTo (hbatch g hg) hi hc
    rw [handedTo, hsent, if_pos htakes] at hmem
    rw [← mem_singleton.1 hmem, ← hsame]
    exact hrep
  · intro h row hrow hstatus k hk
    obtain ⟨g, hg, hrow⟩ := mem_flatMap.1 hrow
    rcases mem_append.1 hrow with hhanded | hmailed
    · obtain ⟨a, ha, hrow⟩ := mem_flatMap.1 hhanded
      obtain ⟨i, hi, rfl⟩ := mem_handed (hnodup g hg) ha
      obtain ⟨x, hx, rfl⟩ := List.mem_map.1 hrow
      obtain rfl : i.id = k := some_inj.1 hk
      have hraised := deliveryRow_sent.1 hstatus
      have hitem : x.event ∈ g.2.filter (reaches db now g.1 i.id) := by
        rw [← map_event_items (D := D)]
        exact List.mem_map_of_mem hx
      obtain ⟨c, hc, hrep⟩ := handedTo_represents hraised (h g hg i hi) (List.mem_map_of_mem hitem)
      exact ⟨x.event, hevents g hg _ (mem_of_mem_filter hitem), rfl, c, sentTo_mem hg ha hc, hrep⟩
    · obtain ⟨m, _, hrow⟩ := mem_flatMap.1 hmailed
      obtain ⟨ev, _, rfl⟩ := List.mem_map.1 hrow
      cases hk

end Calls

/-! ## The twenty-first event -/

def slackTenant (n : Nat) : Db Unit where
  events := (List.range n).map fun k =>
    { id := k, tenantId := 1, eventType := .portOpened, severity := .high, occurredAt := k
      title := if k = 20 then "Certificate expired".toList else "Port opened".toList }
  policies := [⟨1, 1, true, [], .high, [], [1], false, 0⟩]
  integrations := [⟨1, 1, .slack, { chat := some {} }, some 1, true⟩]
  eventIds := by
    rw [List.map_map]
    exact (List.map_id' (List.range n)).symm ▸ List.nodup_range
  policyIds := by decide
  integrationIds := by decide
  userIds := by exact List.nodup_nil

theorem sent_represented_twenty :
    SentRepresented plainDirectory ⟨fun _ => answering 200, fun _ => none⟩ (slackTenant 20) [] 1000 0 :=
  (sent_represented_iff plainDirectory ⟨fun _ => answering 200, fun _ => none⟩ (slackTenant 20) [] 1000 0).2
    (by decide +kernel)

theorem twenty_first_not_represented :
    ¬SentRepresented plainDirectory ⟨fun _ => answering 200, fun _ => none⟩ (slackTenant 21) [] 1000 0 := by
  decide +kernel

end App.Integrations
