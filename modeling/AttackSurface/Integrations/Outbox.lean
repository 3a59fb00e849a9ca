import AttackSurface.Integrations.Notifications

/-!
# What a call of `dispatch_pending` does

The outbox of an integration is the list of the tenant's events that reach it, each once and
in order (`get_outbox`), and it does not depend on what was committed for other tenants
(`outbox_commit`).  A call commits the tenants up to the first one whose deliveries raise an
exception that is not handled (`dispatchTenants_eq`).
-/

namespace App.Integrations

open PyText AsmSensors App.Scans PyDict

variable {J : Type}

/-! ## The outbox -/

section Outbox

variable (D : Directory J) (db : Db J) (now : Int) (t : Nat)

/-- The policies under which the event goes to integrations, with those integrations. -/
def offers (ev : AssetEvent J) : List (NotificationPolicy × Nat) :=
  ((db.policiesOf t).filter fun policy => policyMatches policy ev && !throttled db now policy ev).flatMap
    fun policy => (policy.integrationIds.filter fun i =>
      (db.integrationsOf t).any fun x => decide (x.id = i)).map fun i => (policy, i)

def itemFor (i : Nat) (ev : AssetEvent J) : Option (Item J) :=
  ((offers db now t ev).find? fun o => decide (o.2 = i)).map fun o => ⟨ev, o.1, eventPayload D ev⟩

def reaches (i : Nat) (ev : AssetEvent J) : Bool :=
  ((db.integrationsOf t).any fun x => decide (x.id = i)) && (db.policiesOf t).any fun policy =>
    policyMatches policy ev && !throttled db now policy ev && decide (i ∈ policy.integrationIds)

lemma collect_eq (box : Outbox J) (ev : AssetEvent J) : collect D db now t box ev =
    (offers db now t ev).foldl (fun box o => offer ⟨ev, o.1, eventPayload D ev⟩ box o.2) box := by
  rw [offers, List.foldl_flatMap, List.foldl_filter, collect]
  congr 1
  funext box policy
  rw [List.foldl_map, List.foldl_filter]

variable {D db now t}

lemma get_offer (item : Item J) (box : Outbox J) (i j : Nat) : get (offer item box i) j = get box j ++
    if i = j ∧ ¬(get box j).any fun x => decide (x.event.id = item.event.id) then [item] else [] := by
  unfold offer
  by_cases hij : i = j
  · subst hij
    split
    · next hany => rw [if_neg fun h => h.2 hany, List.append_nil]
    · next hany => rw [get_push_self, if_pos ⟨rfl, hany⟩]
  have hother : ¬(i = j ∧ ¬((get box j).any fun x => decide (x.event.id = item.event.id)) = true) :=
    fun h => hij h.1
  rw [if_neg hother, List.append_nil]
  split
  · rfl
  · rw [get_push_ne (Ne.symm hij)]

lemma offer_valid {box : Outbox J} (h : Valid box) (item : Item J) (i : Nat) : Valid (offer item box i) := by
  unfold offer
  split
  · exact h
  · exact h.push i item

lemma foldl_offer (ev : AssetEvent J) (p : Payload J) (os : List (NotificationPolicy × Nat)) (box : Outbox J)
    (hvalid : Valid box) :
    Valid (os.foldl (fun box o => offer ⟨ev, o.1, p⟩ box o.2) box) ∧
      ∀ j, get (os.foldl (fun box o => offer ⟨ev, o.1, p⟩ box o.2) box) j = get box j ++
        if (get box j).any fun x => decide (x.event.id = ev.id) then []
        else ((os.find? fun o => decide (o.2 = j)).map fun o => (⟨ev, o.1, p⟩ : Item J)).toList := by
  induction os generalizing box with
  | nil => exact ⟨hvalid, fun j => by simp⟩
  | cons o os ih =>
    obtain ⟨hv, hget⟩ := ih (offer ⟨ev, o.1, p⟩ box o.2) (offer_valid hvalid _ _)
    refine ⟨hv, fun j => ?_⟩
    rw [List.foldl_cons, hget, get_offer]
    by_cases hj : o.2 = j
    · by_cases hany : (get box j).any fun x => decide (x.event.id = ev.id)
      · simp [hany]
      · simp [hj, hany]
    · simp [hj]

lemma mem_itemFor {i : Nat} {ev : AssetEvent J} {x : Item J} (h : itemFor D db now t i ev = some x) :
    x.event = ev ∧ x.payload = eventPayload D ev ∧ x.policy ∈ db.policiesOf t := by
  rw [itemFor, Option.map_eq_some_iff] at h
  obtain ⟨o, ho, rfl⟩ := h
  refine ⟨rfl, rfl, ?_⟩
  obtain ⟨policy, hpolicy, hmem⟩ := List.mem_flatMap.1 (List.mem_of_find?_eq_some ho)
  obtain ⟨i', _, rfl⟩ := List.mem_map.1 hmem
  exact (List.mem_filter.1 hpolicy).1

lemma itemFor_isSome (i : Nat) (ev : AssetEvent J) : (itemFor D db now t i ev).isSome = reaches db now t i ev := by
  rw [itemFor, Option.isSome_map, Bool.eq_iff_iff, List.find?_isSome, reaches, Bool.and_eq_true]
  constructor
  · rintro ⟨o, ho, hi⟩
    obtain ⟨policy, hpolicy, hmem⟩ := List.mem_flatMap.1 ho
    obtain ⟨i', hi', rfl⟩ := List.mem_map.1 hmem
    obtain rfl : i' = i := of_decide_eq_true hi
    obtain ⟨hin, hok⟩ := List.mem_filter.1 hi'
    obtain ⟨hpol, hmatch⟩ := List.mem_filter.1 hpolicy
    refine ⟨hok, List.any_eq_true.2 ⟨policy, hpol, ?_⟩⟩
    rw [hmatch, Bool.true_and]
    exact decide_eq_true hin
  · rintro ⟨hok, hany⟩
    obtain ⟨policy, hpol, hmatch⟩ := List.any_eq_true.1 hany
    rw [Bool.and_eq_true, decide_eq_true_eq] at hmatch
    refine ⟨(policy, i), List.mem_flatMap.2 ⟨policy, List.mem_filter.2 ⟨hpol, hmatch.1⟩, ?_⟩, by simp⟩
    exact List.mem_map.2 ⟨i, List.mem_filter.2 ⟨hmatch.2, hok⟩, rfl⟩

variable {evs : List (AssetEvent J)}

section

variable (hevs : (evs.map AssetEvent.id).Nodup)

include hevs

lemma foldl_collect {box : Outbox J} (hvalid : Valid box)
    (hfresh : ∀ i, ∀ x ∈ get box i, x.event.id ∉ evs.map AssetEvent.id) :
    Valid (evs.foldl (collect D db now t) box) ∧
      ∀ i, get (evs.foldl (collect D db now t) box) i = get box i ++ evs.filterMap (itemFor D db now t i) := by
  induction evs generalizing box with
  | nil => exact ⟨hvalid, fun i => (List.append_nil _).symm⟩
  | cons ev evs ih =>
    rw [List.map_cons, List.nodup_cons] at hevs
    obtain ⟨hv, hget⟩ := foldl_offer ev (eventPayload D ev) (offers db now t ev) box hvalid
    rw [← collect_eq D db now t box ev] at hv hget
    have hstep : ∀ i, get (collect D db now t box ev) i = get box i ++ (itemFor D db now t i ev).toList := by
      intro i
      rw [hget, if_neg, itemFor]
      rw [List.any_eq_true]
      rintro ⟨x, hx, hid⟩
      exact hfresh i x hx (by simp [of_decide_eq_true hid])
    have hfresh' : ∀ i, ∀ x ∈ get (collect D db now t box ev) i, x.event.id ∉ evs.map AssetEvent.id := by
      intro i x hx hmem
      rw [hstep, List.mem_append, Option.mem_toList] at hx
      rcases hx with hold | hnew
      · exact hfresh i x hold (List.mem_cons_of_mem _ hmem)
      · rw [(mem_itemFor hnew).1] at hmem
        exact hevs.1 hmem
    obtain ⟨hv', hget'⟩ := ih hevs.2 hv hfresh'
    refine ⟨hv', fun i => ?_⟩
    rw [List.foldl_cons, hget', hstep, List.append_assoc, List.filterMap_cons]
    cases itemFor D db now t i ev <;> rfl

lemma outbox_valid : Valid (outbox D db now t evs) :=
  (foldl_collect hevs Valid.nil fun _ _ hx => absurd hx List.not_mem_nil).1

lemma get_outbox (i : Nat) : get (outbox D db now t evs) i = evs.filterMap (itemFor D db now t i) :=
  (foldl_collect hevs Valid.nil fun _ _ hx => absurd hx List.not_mem_nil).2 i

lemma mem_outbox {i : Nat} {items : List (Item J)} : (i, items) ∈ outbox D db now t evs ↔
      items ≠ [] ∧ evs.filterMap (itemFor D db now t i) = items := by
  rw [(outbox_valid hevs).mem_iff, get_outbox hevs]

end

lemma map_event_items (i : Nat) (evs : List (AssetEvent J)) :
    (evs.filterMap (itemFor D db now t i)).map Item.event = evs.filter (reaches db now t i) := by
  induction evs with
  | nil => rfl
  | cons ev evs ih =>
    rw [List.filterMap_cons, List.filter_cons, ← itemFor_isSome (D := D)]
    rcases h : itemFor D db now t i ev with _ | x
    · simpa using ih
    · simpa [(mem_itemFor h).1] using ih

lemma map_payload_items (i : Nat) (evs : List (AssetEvent J)) :
    (evs.filterMap (itemFor D db now t i)).map Item.payload =
      (evs.filter (reaches db now t i)).map (eventPayload D) := by
  rw [← map_event_items (D := D), List.map_map]
  refine List.map_congr_left fun x hx => ?_
  obtain ⟨ev, _, hev⟩ := List.mem_filterMap.1 hx
  rw [Function.comp_apply, (mem_itemFor hev).2.1, (mem_itemFor hev).1]

end Outbox

/-! ## What other tenants' commits leave alone -/

section Commits

variable {D : Directory J} {w : World} {db db' : Db J} {now : Int} {t : Nat}

/-- The configuration is the same, and so is the throttling of these tenants. -/
structure Alike (now : Int) (ts : List Nat) (db db' : Db J) : Prop where
  policies : db'.policies = db.policies
  integrations : db'.integrations = db.integrations
  users : db'.users = db.users
  memberships : db'.memberships = db.memberships
  preferences : db'.preferences = db.preferences
  throttled : ∀ t ∈ ts, ∀ policy ∈ db.policiesOf t, ∀ ev,
    throttled db' now policy ev = throttled db now policy ev

lemma Alike.refl (now : Int) (ts : List Nat) (db : Db J) : Alike now ts db db :=
  ⟨rfl, rfl, rfl, rfl, rfl, fun _ _ _ _ _ => rfl⟩

variable {ts : List Nat}

section

variable (h : Alike now ts db db')

include h

lemma Alike.policiesOf (t : Nat) : db'.policiesOf t = db.policiesOf t := by
  rw [Db.policiesOf, h.policies, Db.policiesOf]

lemma Alike.integrationsOf (t : Nat) : db'.integrationsOf t = db.integrationsOf t := by
  rw [Db.integrationsOf, h.integrations, Db.integrationsOf]

lemma Alike.outbox (ht : t ∈ ts) (evs : List (AssetEvent J)) :
    outbox D db' now t evs = outbox D db now t evs := by
  unfold App.Integrations.outbox
  congr 1
  funext box ev
  have hoffers : offers db' now t ev = offers db now t ev := by
    rw [offers, offers, h.policiesOf, h.integrationsOf]
    congr 1
    refine List.filter_congr fun policy hpolicy => ?_
    rw [h.throttled t ht policy hpolicy]
  rw [collect_eq, collect_eq, hoffers]

lemma Alike.attempt : attempt D w db' t = attempt D w db t := by
  funext entry
  rw [App.Integrations.attempt, h.integrationsOf, App.Integrations.attempt]

lemma Alike.deliverAll (box : Outbox J) : deliverAll D w db' t box = deliverAll D w db t box := by
  induction box with
  | nil => rfl
  | cons entry box ih => rw [App.Integrations.deliverAll, h.attempt, ih, ← App.Integrations.deliverAll]

lemma Alike.personalPreferences : personalPreferences db' t = personalPreferences db t := by
  rw [App.Integrations.personalPreferences, h.users, h.memberships, h.preferences,
    ← App.Integrations.personalPreferences]

lemma Alike.dispatchTenant (ht : t ∈ ts)
    (evs : List (AssetEvent J)) : dispatchTenant D w db' now t evs = dispatchTenant D w db now t evs := by
  rw [App.Integrations.dispatchTenant, h.outbox ht, h.deliverAll, h.personalPreferences,
    ← App.Integrations.dispatchTenant]

end

lemma notify_eventType (ids : List Nat) (ev : AssetEvent J) :
    (ev.notify ids).eventType = ev.eventType ∧ (ev.notify ids).assetId = ev.assetId := by
  unfold AssetEvent.notify
  split <;> exact ⟨rfl, rfl⟩

lemma throttled_commit {policy : NotificationPolicy} {rows : List NotificationDelivery}
    (hrows : ∀ row ∈ rows, row.policyId ≠ some policy.id) (ids : List Nat) (ev : AssetEvent J) :
    throttled (db.commit ids rows) now policy ev = throttled db now policy ev := by
  have hevents : ∀ d : NotificationDelivery, ((db.commit ids rows).events.any fun e =>
      decide (e.id = d.eventId ∧ e.eventType = ev.eventType ∧ e.assetId = ev.assetId)) =
      db.events.any fun e => decide (e.id = d.eventId ∧ e.eventType = ev.eventType ∧ e.assetId = ev.assetId) := by
    intro d
    show (db.events.map (AssetEvent.notify ids)).any _ = _
    rw [List.any_map]
    congr 1
    funext e
    rw [Function.comp_apply, e.notify_id, (notify_eventType ids e).1, (notify_eventType ids e).2]
  unfold throttled
  simp only [hevents]
  have hdeliveries : (db.commit ids rows).deliveries = db.deliveries ++ rows := rfl
  rw [hdeliveries, List.any_append]
  have hnone : (rows.any fun d => decide (d.policyId = some policy.id ∧
      now - 60 * policy.throttleMinutes ≤ d.createdAt ∧ d.status = .sent) && db.events.any fun e =>
        decide (e.id = d.eventId ∧ e.eventType = ev.eventType ∧ e.assetId = ev.assetId)) = false := by
    rw [List.any_eq_false]
    intro row hrow hok
    rw [Bool.and_eq_true, decide_eq_true_eq] at hok
    exact hrows row hrow hok.1.1
  rw [hnone, Bool.or_false]

lemma deliverAll_subset (box : Outbox J) : (deliverAll D w db t box).1 ⊆ box.filterMap (attempt D w db t) := by
  induction box with
  | nil => exact List.Subset.refl _
  | cons entry box ih =>
    rw [deliverAll, List.filterMap_cons]
    rcases attempt D w db t entry with _ | h
    · exact ih
    simp only
    split
    · exact List.cons_subset.2 ⟨List.mem_cons_self, List.nil_subset _⟩
    · exact List.cons_subset_cons _ ih

lemma rows_policy {evs : List (AssetEvent J)} (hevs : (evs.map AssetEvent.id).Nodup)
    {row : NotificationDelivery} (hrow : row ∈ (dispatchTenant D w db now t evs).rows now t) :
    row.policyId = none ∨ ∃ policy ∈ db.policiesOf t, row.policyId = some policy.id := by
  rcases List.mem_append.1 hrow with hhanded | hmailed
  · obtain ⟨h, hh, hrow⟩ := List.mem_flatMap.1 hhanded
    obtain ⟨x, hx, rfl⟩ := List.mem_map.1 hrow
    obtain ⟨⟨i, items⟩, he, hattempt⟩ := List.mem_filterMap.1 (deliverAll_subset _ hh)
    obtain ⟨_, _, rfl⟩ := Option.map_eq_some_iff.1 hattempt
    obtain ⟨_, rfl⟩ := (mem_outbox hevs).1 he
    obtain ⟨ev, _, hev⟩ := List.mem_filterMap.1 hx
    exact .inr ⟨x.policy, (mem_itemFor hev).2.2, rfl⟩
  · obtain ⟨m, _, hrow⟩ := List.mem_flatMap.1 hmailed
    obtain ⟨ev, _, rfl⟩ := List.mem_map.1 hrow
    exact .inl rfl

lemma Alike.commit {db₀ : Db J} (h : Alike now ts db₀ db) (ht : t ∉ ts)
    {evs : List (AssetEvent J)} (hevs : (evs.map AssetEvent.id).Nodup) (ids : List Nat) :
    Alike now ts db₀ (db.commit ids ((App.Integrations.dispatchTenant D w db₀ now t evs).rows now t)) := by
  refine ⟨h.policies, h.integrations, h.users, h.memberships, h.preferences, fun t' ht' policy hpolicy ev => ?_⟩
  rw [← h.throttled t' ht' policy hpolicy ev]
  refine throttled_commit (fun row hrow heq => ?_) ids ev
  rcases rows_policy hevs hrow with hnone | ⟨policy', hpolicy', hsome⟩
  · rw [hnone] at heq
    cases heq
  -- one id, so one policy, so one tenant
  rw [hsome, Option.some_inj] at heq
  obtain ⟨hmem, htenant⟩ := List.mem_filter.1 hpolicy
  obtain ⟨hmem', htenant'⟩ := List.mem_filter.1 hpolicy'
  obtain rfl := List.inj_on_of_nodup_map db₀.policyIds hmem' hmem heq
  rw [Bool.and_eq_true, decide_eq_true_eq] at htenant htenant'
  exact ht (htenant'.1.symm.trans htenant.1 ▸ ht')

end Commits

/-! ## Whole calls -/

section Calls

variable {D : Directory J} {w : World} {db db₀ : Db J} {now : Int}

def clean (D : Directory J) (w : World) (db : Db J) (now : Int) (g : Nat × List (AssetEvent J)) : Bool :=
  (outbox D db now g.1 g.2).all fun entry => (attempt D w db g.1 entry).all fun h => !h.outcome.escapes

lemma deliverAll_clean {t : Nat} {box : Outbox J}
    (h : box.all fun entry => (attempt D w db t entry).all fun h => !h.outcome.escapes) :
    deliverAll D w db t box = (box.filterMap (attempt D w db t), none) := by
  induction box with
  | nil => rfl
  | cons entry box ih =>
    rw [List.all_cons, Bool.and_eq_true] at h
    rw [deliverAll, ih h.2, List.filterMap_cons]
    rcases hattempt : attempt D w db t entry with _ | a
    · rfl
    · have hok : a.outcome.escapes = false := by simpa [hattempt] using h.1
      simp [hok]

lemma deliverAll_raises {t : Nat} {box : Outbox J}
    (h : (box.all fun entry => (attempt D w db t entry).all fun h => !h.outcome.escapes) = false) :
    (deliverAll D w db t box).2.isSome = true := by
  induction box with
  | nil => cases h
  | cons entry box ih =>
    rw [deliverAll]
    rcases hattempt : attempt D w db t entry with _ | a
    · simp only [List.all_cons, hattempt, Option.all_none, Bool.true_and] at h
      exact ih h
    rcases hescapes : a.outcome.escapes with _ | _
    · simp only [List.all_cons, hattempt, Option.all_some, hescapes, Bool.not_false, Bool.true_and] at h
      simpa [hescapes] using ih h
    rw [Outcome.escapes, Option.any_eq_true] at hescapes
    obtain ⟨e, he, hunhandled⟩ := hescapes
    simp [Outcome.escapes, he, hunhandled]

lemma dispatchTenant_raised (t : Nat) (evs : List (AssetEvent J)) :
    (dispatchTenant D w db now t evs).raised.isSome = !clean D w db now (t, evs) := by
  rcases hclean : clean D w db now (t, evs) with _ | _
  · exact deliverAll_raises hclean
  · rw [dispatchTenant, deliverAll_clean hclean]
    rfl

lemma dispatchTenant_clean {t : Nat} {evs : List (AssetEvent J)} (h : clean D w db now (t, evs) = true) :
    dispatchTenant D w db now t evs = ⟨(outbox D db now t evs).filterMap (attempt D w db t),
      mailAll D w evs (personalPreferences db t), none⟩ := by
  rw [dispatchTenant, deliverAll_clean h]
  rfl

lemma deliveryRow_sent {t i : Nat} {raised : Option Exn} {x : Item J} :
    (deliveryRow now t i raised x).status = .sent ↔ raised = none := by
  rcases raised with _ | e
  · exact ⟨fun _ => rfl, fun _ => rfl⟩
  · exact ⟨nofun, nofun⟩

/-- The commit of one tenant's events in a call that began with `db₀`. -/
def commitGroup (D : Directory J) (w : World) (now : Int) (db₀ db : Db J) (g : Nat × List (AssetEvent J)) : Db J :=
  db.commit (g.2.map AssetEvent.id) ((dispatchTenant D w db₀ now g.1 g.2).rows now g.1)

/-- A call commits the tenants up to the first whose deliveries raise an exception that is not
handled, and raises it. -/
lemma dispatchTenants_eq {gs : List (Nat × List (AssetEvent J))} (hkeys : (gs.map Prod.fst).Nodup)
    (hevs : ∀ g ∈ gs, (g.2.map AssetEvent.id).Nodup) (h : Alike now (gs.map Prod.fst) db₀ db) :
    (dispatchTenants D w now db gs).db = (gs.takeWhile (clean D w db₀ now)).foldl (commitGroup D w now db₀) db ∧
      (dispatchTenants D w now db gs).raised.isNone = gs.all (clean D w db₀ now) ∧
      (gs.takeWhile (clean D w db₀ now)).map (fun g => (g.1, dispatchTenant D w db₀ now g.1 g.2)) ⊆
        (dispatchTenants D w now db gs).runs ∧
      (dispatchTenants D w now db gs).runs ⊆ gs.map fun g => (g.1, dispatchTenant D w db₀ now g.1 g.2) := by
  induction gs generalizing db with
  | nil => exact ⟨rfl, rfl, List.Subset.refl _, List.Subset.refl _⟩
  | cons g gs ih =>
    obtain ⟨t, evs⟩ := g
    rw [List.map_cons, List.nodup_cons] at hkeys
    have hrun : dispatchTenant D w db now t evs = dispatchTenant D w db₀ now t evs :=
      h.dispatchTenant List.mem_cons_self evs
    have hraised : (dispatchTenant D w db₀ now t evs).raised.isSome = !clean D w db₀ now (t, evs) :=
      dispatchTenant_raised t evs
    rw [dispatchTenants, hrun, List.takeWhile_cons, List.all_cons]
    rcases hclean : clean D w db₀ now (t, evs) with _ | _
    · rw [hclean, Bool.not_false] at hraised
      simp [hraised]
    rw [hclean, Bool.not_true] at hraised
    have hrest : Alike now (gs.map Prod.fst) db₀ db :=
      ⟨h.policies, h.integrations, h.users, h.memberships, h.preferences,
        fun t' ht' => h.throttled t' (List.mem_cons_of_mem _ ht')⟩
    obtain ⟨hdb, hnone, hruns⟩ := ih hkeys.2 (fun g hg => hevs g (List.mem_cons_of_mem _ hg))
      (hrest.commit (D := D) (w := w) hkeys.1 (hevs (t, evs) List.mem_cons_self) (evs.map AssetEvent.id))
    rw [if_neg (by rw [hraised]; exact Bool.false_ne_true)]
    refine ⟨hdb, by simpa using hnone, ?_, ?_⟩
    · exact List.cons_subset_cons _ hruns.1
    · exact List.cons_subset_cons _ hruns.2

lemma notify_notify (ids ids' : List Nat) (ev : AssetEvent J) :
    (ev.notify ids).notify ids' = ev.notify (ids ++ ids') := by
  unfold AssetEvent.notify
  by_cases h : ev.id ∈ ids
  · simp [h]
  by_cases h' : ev.id ∈ ids'
  · simp [h, h']
  · simp [h, h']

lemma foldl_commitGroup (gs : List (Nat × List (AssetEvent J))) (db : Db J) :
    (gs.foldl (commitGroup D w now db₀) db).events =
        db.events.map (AssetEvent.notify (gs.flatMap fun g => g.2.map AssetEvent.id)) ∧
      (gs.foldl (commitGroup D w now db₀) db).deliveries =
        db.deliveries ++ gs.flatMap fun g => (dispatchTenant D w db₀ now g.1 g.2).rows now g.1 := by
  induction gs generalizing db with
  | nil =>
    have hsame : db.events.map (AssetEvent.notify []) = db.events :=
      (List.map_congr_left fun ev _ => if_neg List.not_mem_nil).trans (List.map_id' db.events)
    exact ⟨hsame.symm, (List.append_nil _).symm⟩
  | cons g gs ih =>
    obtain ⟨hevents, hdeliveries⟩ := ih (commitGroup D w now db₀ db g)
    rw [List.foldl_cons, hevents, hdeliveries, List.flatMap_cons, List.flatMap_cons, ← List.append_assoc]
    refine ⟨?_, rfl⟩
    show (db.events.map (AssetEvent.notify (g.2.map AssetEvent.id))).map _ = _
    rw [List.map_map]
    exact List.map_congr_left fun ev _ => notify_notify _ _ ev

end Calls

/-! ## Batches -/

section Batches

variable {db : Db J} {locked : List Nat} {limit : Nat} {ev : AssetEvent J}

lemma mem_pendingEvents (h : ev ∈ pendingEvents db locked limit) :
    ev ∈ db.events ∧ ev.notified = false ∧ ev.id ∉ locked := by
  have hsorted := List.mem_of_mem_take h
  rw [List.mem_insertionSort, List.mem_filter, Bool.and_eq_true, Bool.not_eq_true', Bool.not_eq_true',
    decide_eq_false_iff_not] at hsorted
  exact hsorted

lemma pendingEvents_nodup (db : Db J) (locked : List Nat) (limit : Nat) :
    ((pendingEvents db locked limit).map AssetEvent.id).Nodup := by
  refine ((List.take_sublist _ _).map AssetEvent.id).nodup ?_
  rw [((List.perm_insertionSort _ _).map AssetEvent.id).nodup_iff]
  exact (List.filter_sublist.map AssetEvent.id).nodup db.eventIds

variable {events : List (AssetEvent J)}

variable {g : Nat × List (AssetEvent J)}

lemma mem_byTenant (h : g ∈ byTenant events) :
    g.2 ≠ [] ∧ (events.filter fun ev => decide (ev.tenantId = g.1)) = g.2 := mem_groupBy.1 h

lemma byTenant_keys (events : List (AssetEvent J)) : ((byTenant events).map Prod.fst).Nodup :=
  (groupBy_valid _ _).keys

lemma byTenant_nodup (hevents : (events.map AssetEvent.id).Nodup)
    (h : g ∈ byTenant events) : (g.2.map AssetEvent.id).Nodup := by
  rw [← (mem_byTenant h).2]
  exact (List.filter_sublist.map AssetEvent.id).nodup hevents

lemma exists_byTenant (h : ev ∈ events) : ∃ g ∈ byTenant events, ev ∈ g.2 := by
  have hmem : ev ∈ events.filter fun e => decide (e.tenantId = ev.tenantId) := List.mem_filter.2 ⟨h, by simp⟩
  exact ⟨(ev.tenantId, _), mem_groupBy.2 ⟨List.ne_nil_of_mem hmem, rfl⟩, hmem⟩

end Batches

section Pending

variable (D : Directory J) (w : World) (db : Db J) (locked : List Nat) (limit : Nat) (now : Int)

def committed : List (Nat × List (AssetEvent J)) :=
  (byTenant (pendingEvents db locked limit)).takeWhile (clean D w db now)

lemma dispatchPending_eq : (dispatchPending D w db locked limit now).db.events =
        db.events.map (AssetEvent.notify ((committed D w db locked limit now).flatMap fun g => g.2.map AssetEvent.id)) ∧
      (dispatchPending D w db locked limit now).db.deliveries = db.deliveries ++
        (committed D w db locked limit now).flatMap fun g => (dispatchTenant D w db now g.1 g.2).rows now g.1 := by
  have hnodup := pendingEvents_nodup db locked limit
  obtain ⟨hdb, -, -, -⟩ := dispatchTenants_eq (D := D) (w := w) (byTenant_keys (pendingEvents db locked limit))
    (fun g hg => byTenant_nodup hnodup hg) (Alike.refl now _ db)
  rw [dispatchPending, hdb]
  exact foldl_commitGroup _ db

lemma dispatchPending_raised : (dispatchPending D w db locked limit now).raised.isNone =
    (byTenant (pendingEvents db locked limit)).all (clean D w db now) :=
  (dispatchTenants_eq (byTenant_keys _) (fun _ hg => byTenant_nodup (pendingEvents_nodup db locked limit) hg)
    (Alike.refl now _ db)).2.1

lemma dispatchPending_runs :
    (committed D w db locked limit now).map (fun g => (g.1, dispatchTenant D w db now g.1 g.2)) ⊆
        (dispatchPending D w db locked limit now).runs ∧
      (dispatchPending D w db locked limit now).runs ⊆ (byTenant (pendingEvents db locked limit)).map
        fun g => (g.1, dispatchTenant D w db now g.1 g.2) :=
  (dispatchTenants_eq (byTenant_keys _) (fun _ hg => byTenant_nodup (pendingEvents_nodup db locked limit) hg)
    (Alike.refl now _ db)).2.2

end Pending

/-! ## Plain surroundings -/

def plainDirectory : Directory Unit where
  tenantSlug _ := none
  organizationName _ := none
  asset _ := none
  finding _ := none
  base := []
  isoformat _ := "2026-01-01T00:00:00+00:00".toList
  idText := dec
  wording := ⟨fun _ => "null".toList, fun _ => true⟩

def answering (status : Nat) : Outside where
  secret := .ok "secret".toList
  post _ := ⟨.ok ⟨"https".toList, some "hooks.example".toList, none, none, .ok none⟩, false, .ok [true], .ok status⟩

def newPort (id t : Nat) : AssetEvent Unit where
  id := id
  tenantId := t
  eventType := .portOpened
  severity := .high
  title := "Port opened".toList
  occurredAt := id

def twoTenants : Db Unit where
  events := [newPort 1 1, newPort 2 2]
  policies := [⟨1, 1, true, [], .high, [], [1, 2], false, 0⟩, ⟨2, 2, true, [], .high, [], [3], false, 0⟩]
  integrations := [⟨1, 1, .webhook, { webhook := some ⟨[], false⟩ }, none, true⟩,
    ⟨2, 1, .wazuh, { wazuh := some { mode := .file } }, none, true⟩,
    ⟨3, 2, .webhook, { webhook := some ⟨[], false⟩ }, none, true⟩]
  eventIds := by decide
  policyIds := by decide
  integrationIds := by decide
  userIds := by decide

end App.Integrations
