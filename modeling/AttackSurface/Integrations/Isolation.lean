import AttackSurface.Integrations.Outbox

/-!
# Deliveries that fail

A delivery that raises a `ChannelError` or a `ValueError` is recorded as failed, and the call
goes on.  Any other exception ends it: the tenant's events stay as they were, although some
of its integrations may have got them, and the tenants after it are not processed.  So a call
keeps the tenants apart if and only if no channel raises such an exception (`isolated_iff`);
`OSError` in the file mode of Wazuh is one.
-/

namespace App.Integrations

open AsmSensors App.Scans List

variable {J : Type}

/-- Every tenant of the batch is processed, whatever the deliveries of the others raise. -/
structure Isolated (D : Directory J) (w : World) (db : Db J) (locked : List Nat) (limit : Nat) (now : Int) :
    Prop where
  returns : (dispatchPending D w db locked limit now).raised = none
  /-- the events are marked as notified -/
  notified : ∀ ev ∈ pendingEvents db locked limit, ∀ e ∈ (dispatchPending D w db locked limit now).db.events,
    e.id = ev.id → e.notified = true
  /-- every delivery is recorded, as failed if it raised -/
  recorded : ∀ g ∈ byTenant (pendingEvents db locked limit), ∀ entry ∈ outbox D db now g.1 g.2,
    ∀ h ∈ attempt D w db g.1 entry, ∀ x ∈ h.items, ∃ row ∈ (dispatchPending D w db locked limit now).db.deliveries,
      row.eventId = x.event.id ∧ row.integrationId = some h.integration.id ∧
        row.status = if h.outcome.raised.isNone then .sent else .failed
  /-- the next call takes none of the events again -/
  settled : ∀ locked' limit', ∀ ev ∈ pendingEvents db locked limit,
    ∀ e ∈ pendingEvents (dispatchPending D w db locked limit now).db locked' limit', e.id ≠ ev.id

section Isolation

variable {D : Directory J} {w : World} {db : Db J} {locked : List Nat} {limit : Nat} {now : Int}

lemma committed_of_clean (h : ∀ g ∈ byTenant (pendingEvents db locked limit), clean D w db now g = true) :
    committed D w db locked limit now = byTenant (pendingEvents db locked limit) :=
  takeWhile_eq_self_iff.2 h

variable {ev : AssetEvent J} {g : Nat × List (AssetEvent J)}

lemma mem_committed_ids (hg : g ∈ committed D w db locked limit now) (hev : ev ∈ g.2) :
    ev.id ∈ (committed D w db locked limit now).flatMap fun g => g.2.map AssetEvent.id :=
  mem_flatMap.2 ⟨g, hg, List.mem_map_of_mem hev⟩

section

variable (h : ∀ g ∈ byTenant (pendingEvents db locked limit), clean D w db now g = true)

include h

lemma notified_of_clean (hev : ev ∈ pendingEvents db locked limit) {e : AssetEvent J}
    (he : e ∈ (dispatchPending D w db locked limit now).db.events) (hid : e.id = ev.id) : e.notified = true := by
  obtain ⟨g, hg, hmem⟩ := exists_byTenant hev
  rw [(dispatchPending_eq D w db locked limit now).1, List.mem_map] at he
  obtain ⟨e₀, _, rfl⟩ := he
  have hids := mem_committed_ids (committed_of_clean h ▸ hg) hmem
  rw [← hid, e₀.notify_id] at hids
  rw [AssetEvent.notify, if_pos hids]

lemma recorded_of_clean (hg : g ∈ byTenant (pendingEvents db locked limit))
    {entry : Nat × List (Item J)} (hentry : entry ∈ outbox D db now g.1 g.2) {a : Handed J}
    (ha : a ∈ attempt D w db g.1 entry) {x : Item J} (hx : x ∈ a.items) :
    ∃ row ∈ (dispatchPending D w db locked limit now).db.deliveries,
      row.eventId = x.event.id ∧ row.integrationId = some a.integration.id ∧
        row.status = if a.outcome.raised.isNone then .sent else .failed := by
  rw [(dispatchPending_eq D w db locked limit now).2, committed_of_clean h]
  refine ⟨_, mem_append_right _ (mem_flatMap.2 ⟨g, hg, mem_append_left _
    (mem_flatMap.2 ⟨a, ?_, List.mem_map_of_mem hx⟩)⟩), rfl, rfl, rfl⟩
  rw [dispatchTenant_clean (h g hg)]
  exact mem_filterMap.2 ⟨entry, hentry, ha⟩

end

lemma not_notified_of_not_clean
    (hg : g ∈ byTenant (pendingEvents db locked limit)) (hdirty : clean D w db now g = false) (hev : ev ∈ g.2) :
    ev ∈ (dispatchPending D w db locked limit now).db.events ∧ ev.notified = false := by
  have hgroup : ∀ g' ∈ byTenant (pendingEvents db locked limit), ∀ e ∈ g'.2,
      e ∈ pendingEvents db locked limit ∧ e.tenantId = g'.1 := by
    intro g' hg' e he
    rw [← (mem_byTenant hg').2, mem_filter, decide_eq_true_eq] at he
    exact he
  obtain ⟨hpending, htenant⟩ := hgroup g hg ev hev
  obtain ⟨hmem, hnew, _⟩ := mem_pendingEvents hpending
  have hids : ev.id ∉ (committed D w db locked limit now).flatMap fun g => g.2.map AssetEvent.id := by
    intro hids
    obtain ⟨g', hg', hin⟩ := mem_flatMap.1 hids
    obtain ⟨e, he, hid⟩ := List.mem_map.1 hin
    have hbatch := (List.takeWhile_prefix _).subset hg'
    obtain ⟨hpending', htenant'⟩ := hgroup g' hbatch e he
    obtain rfl := inj_on_of_nodup_map db.eventIds (mem_pendingEvents hpending').1 hmem hid
    -- one tenant, so one group
    have hsame : g' = g := inj_on_of_nodup_map (byTenant_keys _) hbatch hg (htenant'.symm.trans htenant)
    have hclean := mem_takeWhile_imp hg'
    rw [hsame, hdirty] at hclean
    cases hclean
  refine ⟨?_, hnew⟩
  rw [(dispatchPending_eq D w db locked limit now).1, List.mem_map]
  exact ⟨ev, hmem, if_neg hids⟩

/-- A call keeps the tenants apart if and only if no delivery raises an exception other than
those that are handled. -/
theorem isolated_iff (D : Directory J) (w : World) (db : Db J) (locked : List Nat) (limit : Nat) (now : Int) :
    Isolated D w db locked limit now ↔
      ∀ g ∈ byTenant (pendingEvents db locked limit), ∀ entry ∈ outbox D db now g.1 g.2,
        ∀ h ∈ attempt D w db g.1 entry, ∀ e ∈ h.outcome.raised, e.kind = .channelError ∨ e.kind = .valueError := by
  have hclean : ∀ g, clean D w db now g = true ↔ ∀ entry ∈ outbox D db now g.1 g.2,
      ∀ h ∈ attempt D w db g.1 entry, ∀ e ∈ h.outcome.raised, e.kind = .channelError ∨ e.kind = .valueError := by
    intro g
    simp only [clean, Outcome.escapes, Exn.handled, List.all_eq_true, Option.all_eq_true, Bool.not_eq_true',
      Option.any_eq_false, Bool.not_eq_false', decide_eq_true_eq, Option.mem_def]
  rw [← forall₂_congr fun g _ => hclean g]
  constructor
  · intro h g hg
    by_contra hdirty
    rw [Bool.not_eq_true] at hdirty
    obtain ⟨ev, hev⟩ := exists_mem_of_ne_nil _ (mem_byTenant hg).1
    obtain ⟨hmem, hnew⟩ := not_notified_of_not_clean hg hdirty hev
    have hpending : ev ∈ pendingEvents db locked limit := by
      rw [← (mem_byTenant hg).2] at hev
      exact mem_of_mem_filter hev
    have hnotified := h.notified ev hpending ev hmem rfl
    rw [hnew] at hnotified
    cases hnotified
  · intro h
    refine ⟨?_, fun ev hev e he => notified_of_clean h hev he, ?_, ?_⟩
    · rw [← Option.isNone_iff_eq_none, dispatchPending_raised]
      exact List.all_eq_true.2 h
    · exact fun g hg entry hentry a ha x hx => recorded_of_clean h hg hentry ha hx
    intro locked' limit' ev hev e he hid
    obtain ⟨hmem, hnew, _⟩ := mem_pendingEvents he
    rw [notified_of_clean h hev hmem hid] at hnew
    cases hnew

end Isolation

/-! ## A file that cannot be written -/

/-- The receiver of the second tenant is broken; its delivery is recorded as failed. -/
def brokenReceiver : World where
  integration i := if i = 3 then answering 500 else answering 200

theorem isolated_brokenReceiver : Isolated plainDirectory brokenReceiver twoTenants [] 1000 0 ∧
    (dispatchPending plainDirectory brokenReceiver twoTenants [] 1000 0).db.deliveries.map
      NotificationDelivery.status = [.sent, .sent, .failed] :=
  ⟨(isolated_iff plainDirectory brokenReceiver twoTenants [] 1000 0).2 (by decide +kernel), by decide +kernel⟩

def brokenFile : World where
  integration i :=
    if i = 2 then { answering 200 with opening := some ⟨.osError, "PermissionError".toList, [], none⟩ }
    else answering 200

/-- The first tenant's webhook got its event, the call ends with the exception of its file, and
the next call takes both events. -/
theorem brokenFile_not_isolated : ¬Isolated plainDirectory brokenFile twoTenants [] 1000 0 ∧
    ((dispatchPending plainDirectory brokenFile twoTenants [] 1000 0).runs.flatMap fun r =>
      r.2.handed.map fun h => (h.integration.id, h.outcome.sent.length)) = [(1, 1), (2, 0)] ∧
    (pendingEvents (dispatchPending plainDirectory brokenFile twoTenants [] 1000 0).db [] 1000).map
      AssetEvent.id = [1, 2] := by
  have hraised : (dispatchPending plainDirectory brokenFile twoTenants [] 1000 0).raised.isSome = true := by
    decide +kernel
  refine ⟨fun h => ?_, by decide +kernel, by decide +kernel⟩
  rw [h.returns] at hraised
  cases hraised

/-! ## Whose alerts go where -/

/-- What is attempted for a tenant is about its events and goes to its integrations and members only. -/
structure TenantRun.Own (D : Directory J) (db : Db J) (t : Nat) (r : TenantRun J) : Prop where
  handed : ∀ h ∈ r.handed, h.integration ∈ db.integrationsOf t ∧ ∀ x ∈ h.items,
    x.event.tenantId = t ∧ x.policy ∈ db.policiesOf t ∧ x.payload = eventPayload D x.event
  mailed : ∀ m ∈ r.mailed, (∃ member ∈ personalPreferences db t, m.user = member.1) ∧
    ∀ ev ∈ m.events, ev.tenantId = t

lemma mem_mailAll {D : Directory J} {w : World} {evs : List (AssetEvent J)} {m : Mailed J}
    {members : List (User × Option UserAlertPreference)} (h : m ∈ mailAll D w evs members) :
    ∃ member ∈ members, m.user = member.1 ∧ m.events = evs.filter (personalMatches member.2) := by
  induction members with
  | nil => cases h
  | cons member members ih =>
    rw [exists_mem_cons_iff]
    rw [mailAll] at h
    dsimp only at h
    split at h
    · exact .inr (ih h)
    · split at h
      · rw [mem_singleton.1 h]
        exact .inl ⟨rfl, rfl⟩
      · rcases mem_cons.1 h with rfl | h
        · exact .inl ⟨rfl, rfl⟩
        · exact .inr (ih h)

/-- **Tenants are apart.**  Whatever a call attempts for a tenant, also if it is rolled back, stays within it. -/
theorem tenants_apart (D : Directory J) (w : World) (db : Db J) (locked : List Nat) (limit : Nat) (now : Int) :
    ∀ g ∈ (dispatchPending D w db locked limit now).runs, g.2.Own D db g.1 := by
  intro g hg
  obtain ⟨⟨t, evs⟩, hgroup, rfl⟩ := List.mem_map.1 ((dispatchPending_runs D w db locked limit now).2 hg)
  have htenant : ∀ ev ∈ evs, ev.tenantId = t := by
    intro ev hev
    rw [← show _ = evs from (mem_byTenant hgroup).2] at hev
    exact of_decide_eq_true (mem_filter.1 hev).2
  constructor
  · intro h hh
    obtain ⟨⟨i, items⟩, he, hattempt⟩ := mem_filterMap.1 (deliverAll_subset _ hh)
    obtain ⟨y, hy, rfl⟩ := Option.map_eq_some_iff.1 hattempt
    refine ⟨mem_of_find?_eq_some hy, fun x hx => ?_⟩
    obtain ⟨_, rfl⟩ := (mem_outbox (byTenant_nodup (pendingEvents_nodup db locked limit) hgroup)).1 he
    obtain ⟨ev, hev, hitem⟩ := mem_filterMap.1 hx
    obtain ⟨rfl, hpayload, hpolicy⟩ := mem_itemFor hitem
    exact ⟨htenant _ hev, hpolicy, hpayload⟩
  · intro m hm
    dsimp only [dispatchTenant] at hm
    split at hm
    · cases hm
    · obtain ⟨member, hmember, huser, hevents⟩ := mem_mailAll hm
      rw [hevents]
      exact ⟨⟨member, hmember, huser⟩, fun ev hev => htenant ev (mem_of_mem_filter hev)⟩

theorem tenants_apart_brokenFile : ∃ g ∈ (dispatchPending plainDirectory brokenFile twoTenants [] 1000 0).runs,
    g.2.Own plainDirectory twoTenants g.1 := by
  obtain ⟨g, hg⟩ := exists_mem_of_ne_nil (dispatchPending plainDirectory brokenFile twoTenants [] 1000 0).runs
    (by decide +kernel)
  exact ⟨g, hg, tenants_apart _ _ _ _ _ _ g hg⟩

end App.Integrations
