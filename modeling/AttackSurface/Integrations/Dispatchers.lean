import AttackSurface.Integrations.Outbox
import AttackSurface.Run.Steps

/-!
# Dispatchers that run at the same time

Any number of processes run `dispatch_pending` and `retry_failed`.  A call locks its batch
when it selects it, and loses all locks when it commits its first tenant; the other tenants'
events are still in its memory, and not notified in the database.  If no other call selects
an event that is still in somebody's batch, every integration and every member gets an event
at most once (`handed_once`).  The source does not see to that.
-/

namespace App.Integrations

open AsmSensors App.Scans PyDict Machines List Option

variable {J : Type}

/-! ## Retries -/

/-- Who an event is handed to. -/
inductive Target
  | integration (id : Nat)
  | member (id : Nat)
deriving DecidableEq, Repr

def maxAttempts : Nat := 5

variable (db : Db J)

/-- What `retry_failed` does with a row: the row afterwards, and what was handed over. -/
def retryOne (now : Int) (raised : Option Exn) (d : NotificationDelivery) :
    NotificationDelivery × List (Target × Nat) :=
  if now < d.createdAt + 60 * 2 ^ d.attempts then (d, [])
  else if ¬db.events.any (fun ev => decide (ev.id = d.eventId)) then ({ d with status := .skipped }, [])
  else
    let tried := { d with attempts := d.attempts + 1 }
    match d.recipientUserId with
    | some u =>
      if ¬db.users.any (fun x => decide (x.id = u) && x.isActive) then ({ d with status := .skipped }, [])
      else
        (match raised with
          | none => { tried with status := .sent, lastError := none }
          | some e =>
            if e.kind = .mailNotConfigured then { tried with status := .skipped, lastError := some (e.message.take 1000) }
            else { tried with lastError := some ((e.name ++ ": ".toList ++ e.message).take 1000) },
          [(.member u, d.eventId)])
    | none =>
      match d.integrationId with
      | none => ({ d with status := .skipped }, [])
      | some i =>
        if ¬db.integrations.any (fun x => decide (x.id = i) && x.enabled) then ({ d with status := .skipped }, [])
        else
          (match raised with
            | none => { tried with status := .sent, lastError := none }
            | some e => { tried with lastError := some (e.message.take 1000) },
            [(.integration i, d.eventId)])

/-- The rows that `retry_failed` selects, with their places. -/
def failedRows (limit : Nat) : List (NotificationDelivery × Nat) :=
  (db.deliveries.zipIdx.filter fun d => decide (d.1.status = .failed ∧ d.1.attempts < maxAttempts)).take limit

/-- The commit of `retry_failed`. -/
def Db.retried (rows : List (NotificationDelivery × Nat)) : Db J :=
  { db with deliveries := rows.foldl (fun ds d => ds.set d.2 d.1) db.deliveries }

/-! ## Processes -/

/-- Where a process is.  For a call of `dispatch_pending`, `groups` are the tenants that it has
not begun and `rows` the deliveries that are not committed; for a call of `retry_failed`,
`left` are the rows that it has not reached and `done` those it has changed. -/
inductive Phase (J : Type)
  | idle
  | ready (groups : List (Nat × List (AssetEvent J)))
  | delivering (groups : List (Nat × List (AssetEvent J))) (t : Nat) (evs : List (AssetEvent J)) (box : Outbox J)
      (rows : List NotificationDelivery)
  | mailing (groups : List (Nat × List (AssetEvent J))) (t : Nat) (evs : List (AssetEvent J))
      (members : List (User × Option UserAlertPreference)) (rows : List NotificationDelivery)
  | retrying (left done : List (NotificationDelivery × Nat))

structure Worker (J : Type) where
  phase : Phase J := .idle
  /-- the events whose rows it has locked -/
  locks : List Nat := []

structure Dispatch (J : Type) where
  db : Db J
  workers : List (Worker J)
  /-- what was handed over, and to whom -/
  handed : List (Target × Nat) := []

inductive Event (J : Type)
  | recorded (ev : AssetEvent J)
  | selected (p limit : Nat)
  | began (p : Nat) (now : Int)
  | delivered (p : Nat) (now : Int) (raised : Option Exn)
  | readMembers (p : Nat)
  | mailed (p : Nat) (now : Int) (raised : Option Exn)
  | committed (p : Nat)
  | finished (p : Nat)
  | readFailed (p : Nat)
  | retried (p : Nat) (now : Int) (raised : Option Exn)
  | retriesCommitted (p : Nat)

def Db.record (ev : AssetEvent J) (h : ev.id ∉ db.events.map AssetEvent.id) : Db J :=
  { db with
    events := db.events ++ [ev]
    eventIds := by
      rw [List.map_append, List.map_singleton, ← List.concat_eq_append]
      exact db.eventIds.concat h }

def Dispatch.othersLocks (s : Dispatch J) (p : Nat) : List Nat := (s.workers.eraseIdx p).flatMap Worker.locks

def Dispatch.setWorker (s : Dispatch J) (p : Nat) (w : Worker J) : Dispatch J :=
  { s with workers := s.workers.set p w }

def membersLeft (raised : Option Exn) (mine : List (AssetEvent J))
    (members : List (User × Option UserAlertPreference)) : List (User × Option UserAlertPreference) :=
  if mine.isEmpty = false ∧ (raised.any fun e => decide (e.kind = .mailNotConfigured)) then [] else members

def Dispatch.step (D : Directory J) (s : Dispatch J) : Event J → Option (Dispatch J)
  | .recorded ev =>
    if h : ev.id ∈ s.db.events.map AssetEvent.id then none else some { s with db := s.db.record ev h }
  | .selected p limit =>
    match s.workers[p]? with
    | some ⟨.idle, _⟩ =>
      let batch := pendingEvents s.db (s.othersLocks p) limit
      some (s.setWorker p ⟨.ready (byTenant batch), batch.map AssetEvent.id⟩)
    | _ => none
  | .began p now =>
    match s.workers[p]? with
    | some ⟨.ready ((t, evs) :: groups), locks⟩ =>
      some (s.setWorker p ⟨.delivering groups t evs (outbox D s.db now t evs) [], locks⟩)
    | _ => none
  | .delivered p now raised =>
    match s.workers[p]? with
    | some ⟨.delivering groups t evs ((i, items) :: box) rows, locks⟩ =>
      let s := { s with handed := s.handed ++ items.map fun x : Item J => (Target.integration i, x.event.id) }
      -- an exception that is not handled rolls the transaction back
      if raised.any fun e => !e.handled then some (s.setWorker p {})
      else
        some (s.setWorker p ⟨.delivering groups t evs box (rows ++ items.map (deliveryRow now t i raised)), locks⟩)
    | _ => none
  | .readMembers p =>
    match s.workers[p]? with
    | some ⟨.delivering groups t evs [] rows, locks⟩ =>
      some (s.setWorker p ⟨.mailing groups t evs (personalPreferences s.db t) rows, locks⟩)
    | _ => none
  | .mailed p now raised =>
    match s.workers[p]? with
    | some ⟨.mailing groups t evs ((user, pref) :: members) rows, locks⟩ =>
      let mine := evs.filter (personalMatches pref)
      let s := { s with handed := s.handed ++ mine.map fun ev : AssetEvent J => (Target.member user.id, ev.id) }
      some (s.setWorker p ⟨.mailing groups t evs (membersLeft raised mine members)
        (rows ++ mine.map (personalRow now t user.id raised)), locks⟩)
    | _ => none
  | .committed p =>
    match s.workers[p]? with
    | some ⟨.mailing groups _ evs [] rows, _⟩ =>
      -- the update of the events waits for the locks of others
      if evs.any fun ev => decide (ev.id ∈ s.othersLocks p) then none
      else some ({ s with db := s.db.commit (evs.map AssetEvent.id) rows }.setWorker p ⟨.ready groups, []⟩)
    | _ => none
  | .finished p =>
    match s.workers[p]? with
    | some ⟨.ready [], _⟩ => some (s.setWorker p {})
    | _ => none
  | .readFailed p =>
    match s.workers[p]? with
    | some ⟨.idle, locks⟩ => some (s.setWorker p ⟨.retrying (failedRows s.db 200) [], locks⟩)
    | _ => none
  | .retried p now raised =>
    match s.workers[p]? with
    | some ⟨.retrying ((d, i) :: left) done, locks⟩ =>
      let (d', handed) := retryOne s.db now raised d
      some ({ s with handed := s.handed ++ handed }.setWorker p ⟨.retrying left (done ++ [(d', i)]), locks⟩)
    | _ => none
  | .retriesCommitted p =>
    match s.workers[p]? with
    | some ⟨.retrying [] done, _⟩ => some ({ s with db := s.db.retried done }.setWorker p {})
    | _ => none

def Dispatch.Step (D : Directory J) (s : Dispatch J) (l : Dispatch J × Event J) (s' : Dispatch J) : Prop :=
  l.1 = s ∧ s.step D l.2 = some s'

def Dispatch.start (n : Nat) : Dispatch J := ⟨db, List.replicate n {}, []⟩

def Event.succeeds : Event J → Prop
  | .delivered _ _ raised => raised = none
  | .mailed _ _ raised => raised = none
  | .retried _ _ raised => raised = none
  | _ => True

instance (e : Event J) : Decidable e.succeeds := by
  unfold Event.succeeds
  split <;> infer_instance

/-! ## Who has an event -/

def Phase.groups : Phase J → List (Nat × List (AssetEvent J))
  | .idle => []
  | .ready groups => groups
  | .delivering groups .. => groups
  | .mailing groups .. => groups
  | .retrying .. => []

def Phase.current : Phase J → List (AssetEvent J)
  | .delivering _ _ evs _ _ => evs
  | .mailing _ _ evs _ _ => evs
  | _ => []

def Worker.pending (w : Worker J) : List Nat :=
  (w.phase.current ++ w.phase.groups.flatMap Prod.snd).map AssetEvent.id

def alone (l : Dispatch J × Event J) : Prop :=
  match l.2 with
  | .selected p limit => ∀ ev ∈ pendingEvents l.1.db (l.1.othersLocks p) limit,
      ev.id ∉ l.1.workers.flatMap Worker.pending
  | _ => True

instance (l : Dispatch J × Event J) : Decidable (alone l) := by
  unfold alone
  split <;> infer_instance

/-! ## What is still to be handed over -/

def boxPairs (box : Outbox J) : List (Target × Nat) :=
  box.flatMap fun e => e.2.map fun x => (.integration e.1, x.event.id)

def mailPairs (evs : List (AssetEvent J)) (members : List (User × Option UserAlertPreference)) :
    List (Target × Nat) :=
  members.flatMap fun m => (evs.filter (personalMatches m.2)).map fun ev => (.member m.1.id, ev.id)

def Phase.todo : Phase J → List (Target × Nat)
  | .delivering _ _ _ box _ => boxPairs box
  | .mailing _ _ evs members _ => mailPairs evs members
  | _ => []

def Phase.rows : Phase J → List NotificationDelivery
  | .delivering _ _ _ _ rows => rows
  | .mailing _ _ _ _ rows => rows
  | _ => []

/-- The rows of a call of `retry_failed`. -/
def Phase.retries : Phase J → List (NotificationDelivery × Nat)
  | .retrying left done => left ++ done
  | _ => []

def Phase.reached : Phase J → Target → Prop
  | .delivering .., .integration _ => True
  | .mailing .., _ => True
  | _, _ => False

lemma Phase.reached_delivering {groups : List (Nat × List (AssetEvent J))} {t : Nat} {evs : List (AssetEvent J)}
    {box : Outbox J} {rows : List NotificationDelivery} {target : Target} :
    (Phase.delivering groups t evs box rows).reached target ↔ ∃ i, target = .integration i := by
  cases target with
  | integration i => exact ⟨fun _ => ⟨i, rfl⟩, fun _ => trivial⟩
  | member u => exact ⟨False.elim, nofun⟩

def Worker.Given (w : Worker J) (x : Target × Nat) : Prop :=
  x.2 ∈ w.phase.current.map AssetEvent.id ∧ w.phase.reached x.1 ∧ x ∉ w.phase.todo

structure Worker.Fine (w : Worker J) : Prop where
  todo : w.phase.todo.Nodup
  own : ∀ x ∈ w.phase.todo, x.2 ∈ w.phase.current.map AssetEvent.id
  rows : ∀ row ∈ w.phase.rows, row.status ≠ .failed
  retries : w.phase.retries = []

lemma Worker.Fine.plain {w : Worker J} (htodo : w.phase.todo = []) (hrows : w.phase.rows = [])
    (hretries : w.phase.retries = []) : w.Fine where
  todo := htodo ▸ nodup_nil
  own _ hx := absurd (htodo ▸ hx) not_mem_nil
  rows _ hrow := absurd (hrows ▸ hrow) not_mem_nil
  retries := hretries

/-- The invariant of the runs. -/
structure Once (db : Db J) (ws : List (Worker J)) (handed : List (Target × Nat)) : Prop where
  pending : (ws.flatMap Worker.pending).Nodup
  fresh : ∀ id ∈ ws.flatMap Worker.pending, ∃ ev ∈ db.events, ev.id = id ∧ ev.notified = false
  fine : ∀ w ∈ ws, w.Fine
  once : handed.Nodup
  known : ∀ x ∈ handed, (∃ ev ∈ db.events, ev.id = x.2 ∧ ev.notified = true) ∨ ∃ w ∈ ws, w.Given x
  sent : ∀ row ∈ db.deliveries, row.status ≠ .failed

section Once

variable {D : Directory J} {db : Db J} {ws ws' o : List (Worker J)} {w w' : Worker J} {handed : List (Target × Nat)}

lemma Once.perm (h : Once db ws handed) (hperm : ws.Perm ws') : Once db ws' handed where
  pending := (hperm.flatMap_right Worker.pending).nodup_iff.1 h.pending
  fresh id hid := h.fresh id ((hperm.flatMap_right Worker.pending).mem_iff.2 hid)
  fine w hw := h.fine w (hperm.mem_iff.2 hw)
  once := h.once
  known x hx := by
    rcases h.known x hx with hold | ⟨w, hw, hgiven⟩
    · exact .inl hold
    · exact .inr ⟨w, hperm.mem_iff.1 hw, hgiven⟩
  sent := h.sent

variable {x : Target × Nat} {evs : List (AssetEvent J)}

lemma Worker.Given.pending (h : w.Given x) : x.2 ∈ w.pending := by
  rw [Worker.pending, map_append]
  exact mem_append_left _ h.1

section

variable (h : Once db (w :: o) handed)

include h

lemma Once.todo_fresh (hx : x ∈ w.phase.todo) : x ∉ handed := by
  intro hhanded
  have hpending : x.2 ∈ w.pending := by
    rw [Worker.pending, map_append]
    exact mem_append_left _ ((h.fine w mem_cons_self).own x hx)
  rcases h.known x hhanded with ⟨ev, hev, hid, hnotified⟩ | ⟨v, hv, hgiven⟩
  · obtain ⟨ev', hev', hid', hnew⟩ := h.fresh x.2 (mem_flatMap.2 ⟨w, mem_cons_self, hpending⟩)
    obtain rfl := inj_on_of_nodup_map db.eventIds hev hev' (hid.trans hid'.symm)
    rw [hnotified] at hnew
    cases hnew
  rcases mem_cons.1 hv with rfl | hother
  · exact hgiven.2.2 hx
  have hnodup := h.pending
  rw [flatMap_cons, nodup_append] at hnodup
  exact hnodup.2.2 _ hpending _ (mem_flatMap.2 ⟨v, hother, hgiven.pending⟩) rfl

lemma Once.hand {new : List (Target × Nat)}
    (hpending : w'.pending = w.pending) (hfine : w'.Fine)
    (hnew : new.Nodup) (htodo : new ⊆ w.phase.todo)
    (hold : ∀ x, w.Given x → w'.Given x) (hgiven : ∀ x ∈ new, w'.Given x) :
    Once db (w' :: o) (handed ++ new) where
  pending := by
    rw [flatMap_cons, hpending, ← flatMap_cons]
    exact h.pending
  fresh id hid := by
    rw [flatMap_cons, hpending, ← flatMap_cons] at hid
    exact h.fresh id hid
  fine := forall_mem_cons.2 ⟨hfine, (forall_mem_cons.1 h.fine).2⟩
  once := by
    refine nodup_append.2 ⟨h.once, hnew, ?_⟩
    rintro x hx _ hx' rfl
    exact h.todo_fresh (htodo hx') hx
  known x hx := by
    rcases mem_append.1 hx with hx | hx
    · rcases h.known x hx with hnotified | ⟨v, hv, hv'⟩
      · exact .inl hnotified
      rcases mem_cons.1 hv with rfl | hother
      · exact .inr ⟨w', mem_cons_self, hold x hv'⟩
      · exact .inr ⟨v, mem_cons_of_mem _ hother, hv'⟩
    · exact .inr ⟨w', mem_cons_self, hgiven x hx⟩
  sent := h.sent

lemma Once.goOn (hpending : w'.pending = w.pending) (hfine : w'.Fine)
    (hold : ∀ x, w.Given x → w'.Given x) : Once db (w' :: o) handed := by
  have hnone : Once db (w' :: o) (handed ++ []) :=
    h.hand hpending hfine nodup_nil (nil_subset _) hold fun x hx => absurd hx not_mem_nil
  rwa [append_nil] at hnone

end

/-- Pairs of a recipient and an event differ if the recipients do and each gets an event once. -/
lemma pairs_nodup {ι α : Type} {target : ι → Target} {l : List ι} {items : ι → List α} {id : α → Nat}
    (htargets : (l.map target).Nodup) (hitems : ∀ i ∈ l, ((items i).map id).Nodup) :
    (l.flatMap fun i => (items i).map fun x => (target i, id x)).Nodup := by
  refine nodup_flatMap.2 ⟨fun i hi => ?_, ?_⟩
  · refine Nodup.map_on (fun x hx y hy heq => ?_) (hitems i hi).of_map
    exact inj_on_of_nodup_map (hitems i hi) hx hy (Prod.mk.inj heq).2
  refine (pairwise_map.1 htargets).imp fun {a b} hne x hx hx' => hne ?_
  obtain ⟨_, _, rfl⟩ := List.mem_map.1 hx
  obtain ⟨_, _, heq⟩ := List.mem_map.1 hx'
  exact (Prod.mk.inj heq).1.symm

lemma boxPairs_nodup {box : Outbox J} (hvalid : Valid box)
    (hitems : ∀ e ∈ box, (e.2.map fun x => x.event.id).Nodup) : (boxPairs box).Nodup := by
  refine pairs_nodup ?_ hitems
  have hkeys := hvalid.keys.map fun _ _ h => Target.integration.inj h
  rwa [List.map_map] at hkeys

lemma boxPairs_outbox {now : Int} {t : Nat} (hevs : (evs.map AssetEvent.id).Nodup) :
    (boxPairs (outbox D db now t evs)).Nodup ∧
      ∀ x ∈ boxPairs (outbox D db now t evs), x.2 ∈ evs.map AssetEvent.id := by
  have hids : ∀ i, ((evs.filterMap (itemFor D db now t i)).map fun x => x.event.id) =
      (evs.filter (reaches db now t i)).map AssetEvent.id := by
    intro i
    rw [← map_event_items (D := D), List.map_map]
    rfl
  refine ⟨boxPairs_nodup (outbox_valid hevs) fun e he => ?_, fun x hx => ?_⟩
  · rw [← ((mem_outbox hevs).1 he).2, hids]
    exact (filter_sublist.map AssetEvent.id).nodup hevs
  obtain ⟨e, he, hx⟩ := mem_flatMap.1 hx
  obtain ⟨y, hy, rfl⟩ := List.mem_map.1 hx
  have hy' : y.event.id ∈ e.2.map fun x => x.event.id := List.mem_map_of_mem hy
  rw [← ((mem_outbox hevs).1 he).2, hids] at hy'
  exact (filter_sublist.map AssetEvent.id).subset hy'

variable {members : List (User × Option UserAlertPreference)}

lemma mailPairs_nodup (hevs : (evs.map AssetEvent.id).Nodup) (hmembers : (members.map fun m => m.1.id).Nodup) :
    (mailPairs evs members).Nodup := by
  refine pairs_nodup ?_ fun m _ => (filter_sublist.map AssetEvent.id).nodup hevs
  have hkeys := hmembers.map fun _ _ h => Target.member.inj h
  rwa [List.map_map] at hkeys

lemma mem_mailPairs (hx : x ∈ mailPairs evs members) : x.2 ∈ evs.map AssetEvent.id ∧ ∃ u, x.1 = .member u := by
  obtain ⟨m, _, hx⟩ := mem_flatMap.1 hx
  obtain ⟨ev, hev, rfl⟩ := List.mem_map.1 hx
  exact ⟨List.mem_map_of_mem (mem_of_mem_filter hev), m.1.id, rfl⟩

lemma personalPreferences_nodup (db : Db J) (t : Nat) :
    ((personalPreferences db t).map fun m => m.1.id).Nodup := by
  rw [personalPreferences, List.map_map]
  exact (filter_sublist.map User.id).nodup db.userIds

lemma byTenant_flatten_nodup {events : List (AssetEvent J)} (hevents : (events.map AssetEvent.id).Nodup) :
    (((byTenant events).flatMap Prod.snd).map AssetEvent.id).Nodup := by
  rw [map_flatMap]
  refine nodup_flatMap.2 ⟨fun g hg => byTenant_nodup hevents hg, ?_⟩
  refine Pairwise.imp_of_mem ?_ (pairwise_map.1 (byTenant_keys events))
  intro g g' hg hg' hne id hid hid'
  obtain ⟨ev, hev, rfl⟩ := List.mem_map.1 hid
  obtain ⟨ev', hev', heq⟩ := List.mem_map.1 hid'
  rw [← (mem_byTenant hg).2, mem_filter, decide_eq_true_eq] at hev
  rw [← (mem_byTenant hg').2, mem_filter, decide_eq_true_eq] at hev'
  obtain rfl := inj_on_of_nodup_map hevents hev'.1 hev.1 heq
  exact hne (hev.2.symm.trans hev'.2)

end Once

/-! ## Steps -/

section Steps

variable {D : Directory J} {db : Db J} {ws o : List (Worker J)} {w : Worker J} {handed : List (Target × Nat)}
  {p : Nat}

lemma perm_of_getElem? (h : ws[p]? = some w) :
    (w :: ws.eraseIdx p).Perm ws ∧ ∀ w', (ws.set p w').Perm (w' :: ws.eraseIdx p) := by
  obtain ⟨hp, rfl⟩ := List.getElem?_eq_some_iff.1 h
  exact ⟨getElem_cons_eraseIdx_perm hp, set_perm_cons_eraseIdx hp⟩

lemma Once.at (h : Once db ws handed) (hw : ws[p]? = some w) : Once db (w :: ws.eraseIdx p) handed :=
  h.perm (perm_of_getElem? hw).1.symm

lemma Once.set {db' : Db J} {handed' : List (Target × Nat)} {w' : Worker J} (hw : ws[p]? = some w)
    (h : Once db' (w' :: ws.eraseIdx p) handed') : Once db' (ws.set p w') handed' :=
  h.perm ((perm_of_getElem? hw).2 w').symm

lemma Worker.pending_nodup (h : Once db (w :: o) handed) : w.pending.Nodup := by
  have hnodup := h.pending
  rw [flatMap_cons, nodup_append] at hnodup
  exact hnodup.1

lemma not_given_of_current (hw : w.phase.current = []) {x : Target × Nat} : ¬w.Given x := by
  rintro ⟨hmem, _⟩
  rw [hw] at hmem
  exact absurd hmem not_mem_nil

/-- A worker that is at no event goes on. -/
lemma Once.rest (h : Once db (w :: o) handed) (hw : w.phase.current = []) {w' : Worker J}
    (hpending : w'.pending = w.pending) (hfine : w'.Fine) : Once db (w' :: o) handed :=
  h.goOn hpending hfine fun _ hx => absurd hx (not_given_of_current hw)

lemma Once.select (h : Once db (w :: o) handed) (hidle : w.phase = .idle) {locked : List Nat} {limit : Nat}
    (halone : ∀ ev ∈ pendingEvents db locked limit, ev.id ∉ (w :: o).flatMap Worker.pending) :
    Once db (⟨.ready (byTenant (pendingEvents db locked limit)), (pendingEvents db locked limit).map AssetEvent.id⟩ :: o)
      handed := by
  have hbatch : ∀ id ∈ (Worker.mk (.ready (byTenant (pendingEvents db locked limit))) []).pending,
      ∃ ev ∈ pendingEvents db locked limit, ev.id = id := by
    intro id hid
    obtain ⟨ev, hev, rfl⟩ := List.mem_map.1 hid
    obtain ⟨g, hg, hev⟩ := mem_flatMap.1 hev
    rw [← (mem_byTenant hg).2] at hev
    exact ⟨ev, mem_of_mem_filter hev, rfl⟩
  have hrest := h.pending
  rw [flatMap_cons, nodup_append] at hrest
  refine ⟨?_, fun id hid => ?_, forall_mem_cons.2 ⟨.plain rfl rfl rfl, (forall_mem_cons.1 h.fine).2⟩, h.once,
    fun x hx => ?_, h.sent⟩
  · refine nodup_append.2 ⟨byTenant_flatten_nodup (pendingEvents_nodup db locked limit), hrest.2.1, ?_⟩
    rintro id hid _ hid' rfl
    obtain ⟨ev, hev, rfl⟩ := hbatch id hid
    exact halone ev hev (mem_append_right _ hid')
  · rcases mem_append.1 hid with hnew | hold
    · obtain ⟨ev, hev, rfl⟩ := hbatch id hnew
      exact ⟨ev, (mem_pendingEvents hev).1, rfl, (mem_pendingEvents hev).2.1⟩
    · exact h.fresh id (mem_append_right _ hold)
  · rcases h.known x hx with hnotified | ⟨v, hv, hgiven⟩
    · exact .inl hnotified
    rcases mem_cons.1 hv with rfl | hother
    · exact absurd hgiven (not_given_of_current (by rw [hidle]; rfl))
    · exact .inr ⟨v, mem_cons_of_mem _ hother, hgiven⟩

variable {groups : List (Nat × List (AssetEvent J))} {evs : List (AssetEvent J)} {locks : List Nat}
  {rows : List NotificationDelivery}

variable {t : Nat} {members : List (User × Option UserAlertPreference)}

lemma Once.begin (h : Once db (⟨.ready ((t, evs) :: groups), locks⟩ :: o) handed) (now : Int) :
    Once db (⟨.delivering groups t evs (outbox D db now t evs) [], locks⟩ :: o) handed := by
  have hevs : (evs.map AssetEvent.id).Nodup :=
    (List.Sublist.map AssetEvent.id (sublist_append_left evs _)).nodup (Worker.pending_nodup h)
  obtain ⟨htodo, hown⟩ := boxPairs_outbox (D := D) hevs
  exact h.rest rfl rfl ⟨htodo, hown, fun row hrow => absurd hrow not_mem_nil, rfl⟩

lemma Once.deliver {t i : Nat} {items : List (Item J)} {box : Outbox J}
    (h : Once db (⟨.delivering groups t evs ((i, items) :: box) rows, locks⟩ :: o) handed) (now : Int) :
    Once db (⟨.delivering groups t evs box (rows ++ items.map (deliveryRow now t i none)), locks⟩ :: o)
      (handed ++ items.map fun x => (Target.integration i, x.event.id)) := by
  have hfine := h.fine _ mem_cons_self
  have htodo : ((items.map fun x => (Target.integration i, x.event.id)) ++ boxPairs box).Nodup := hfine.todo
  obtain ⟨hnew, hrest, hdisjoint⟩ := nodup_append.1 htodo
  refine h.hand rfl ⟨hrest, fun x hx => hfine.own x (mem_append_right _ hx), fun row hrow => ?_, rfl⟩ hnew
    (subset_append_left _ _) ?_ ?_
  · rcases mem_append.1 hrow with hold | hsent
    · exact hfine.rows row hold
    · obtain ⟨x, _, rfl⟩ := List.mem_map.1 hsent
      exact nofun
  · rintro x ⟨hcurrent, hreached, hleft⟩
    exact ⟨hcurrent, Phase.reached_delivering.2 (Phase.reached_delivering.1 hreached),
      fun hmem => hleft (mem_append_right _ hmem)⟩
  · intro x hx
    refine ⟨hfine.own x (mem_append_left _ hx), ?_, fun hmem => hdisjoint x hx x hmem rfl⟩
    obtain ⟨y, _, rfl⟩ := List.mem_map.1 hx
    trivial

lemma Once.readMembers (h : Once db (⟨.delivering groups t evs [] rows, locks⟩ :: o) handed) :
    Once db (⟨.mailing groups t evs (personalPreferences db t) rows, locks⟩ :: o) handed := by
  have hevs : (evs.map AssetEvent.id).Nodup :=
    (List.Sublist.map AssetEvent.id (sublist_append_left evs _)).nodup (Worker.pending_nodup h)
  have hfine := h.fine _ mem_cons_self
  refine h.goOn rfl ⟨mailPairs_nodup hevs (personalPreferences_nodup db t), fun x hx => (mem_mailPairs hx).1,
    hfine.rows, rfl⟩ ?_
  -- nothing was mailed while the integrations were served
  rintro ⟨target, id⟩ ⟨hcurrent, hreached, _⟩
  refine ⟨hcurrent, trivial, fun hmem => ?_⟩
  obtain ⟨u, hu⟩ := (mem_mailPairs hmem).2
  obtain rfl : target = .member u := hu
  exact hreached

lemma Once.mail {user : User} {pref : Option UserAlertPreference}
    (h : Once db (⟨.mailing groups t evs ((user, pref) :: members) rows, locks⟩ :: o) handed) (now : Int) :
    Once db (⟨.mailing groups t evs members
        (rows ++ (evs.filter (personalMatches pref)).map (personalRow now t user.id none)), locks⟩ :: o)
      (handed ++ (evs.filter (personalMatches pref)).map fun ev => (Target.member user.id, ev.id)) := by
  have hfine := h.fine _ mem_cons_self
  have htodo : (((evs.filter (personalMatches pref)).map fun ev => (Target.member user.id, ev.id)) ++
      mailPairs evs members).Nodup := hfine.todo
  obtain ⟨hnew, hrest, hdisjoint⟩ := nodup_append.1 htodo
  refine h.hand rfl ⟨hrest, fun x hx => hfine.own x (mem_append_right _ hx), fun row hrow => ?_, rfl⟩ hnew
    (subset_append_left _ _) ?_ ?_
  · rcases mem_append.1 hrow with hold | hsent
    · exact hfine.rows row hold
    · obtain ⟨ev, _, rfl⟩ := List.mem_map.1 hsent
      exact nofun
  · exact fun x hx => ⟨hx.1, hx.2.1, fun hmem => hx.2.2 (mem_append_right _ hmem)⟩
  · intro x hx
    exact ⟨hfine.own x (mem_append_left _ hx), trivial, fun hmem => hdisjoint x hx x hmem rfl⟩

lemma Once.commit (h : Once db (⟨.mailing groups t evs members rows, locks⟩ :: o) handed) :
    Once (db.commit (evs.map AssetEvent.id) rows) (⟨.ready groups, []⟩ :: o) handed := by
  have hpending : ((evs.map AssetEvent.id) ++
      ((groups.flatMap Prod.snd).map AssetEvent.id ++ o.flatMap Worker.pending)).Nodup := by
    have hnodup := h.pending
    rw [flatMap_cons, Worker.pending, map_append, append_assoc] at hnodup
    exact hnodup
  obtain ⟨_, hrest, hdisjoint⟩ := nodup_append.1 hpending
  have hnotified : ∀ ev ∈ db.events, ev.notified = true ∨ ev.id ∈ evs.map AssetEvent.id →
      ∃ ev' ∈ (db.commit (evs.map AssetEvent.id) rows).events, ev'.id = ev.id ∧ ev'.notified = true := by
    intro ev hev hor
    refine ⟨ev.notify (evs.map AssetEvent.id), List.mem_map_of_mem hev, ev.notify_id _, ?_⟩
    unfold AssetEvent.notify
    split
    · rfl
    · next hnot => exact hor.resolve_right hnot
  refine ⟨hrest, fun id hid => ?_, forall_mem_cons.2 ⟨.plain rfl rfl rfl, (forall_mem_cons.1 h.fine).2⟩, h.once,
    fun x hx => ?_, fun row hrow => ?_⟩
  · have hid' : id ∈ (Worker.mk (.mailing groups t evs members rows) locks :: o).flatMap Worker.pending := by
      rw [flatMap_cons, Worker.pending, map_append, append_assoc]
      exact mem_append_right _ hid
    obtain ⟨ev, hev, rfl, hnew⟩ := h.fresh id hid'
    have hother : ev.id ∉ evs.map AssetEvent.id := fun hmem => hdisjoint _ hmem _ hid rfl
    refine ⟨ev, ?_, rfl, hnew⟩
    exact List.mem_map.2 ⟨ev, hev, if_neg hother⟩
  · rcases h.known x hx with ⟨ev, hev, hid, hold⟩ | ⟨v, hv, hgiven⟩
    · obtain ⟨ev', hev', hid', hnot⟩ := hnotified ev hev (.inl hold)
      exact .inl ⟨ev', hev', hid'.trans hid, hnot⟩
    rcases mem_cons.1 hv with rfl | hother
    · obtain ⟨ev, hev, hid, _⟩ := h.fresh x.2 (mem_append_left _ hgiven.pending)
      obtain ⟨ev', hev', hid', hnot⟩ := hnotified ev hev (.inr (hid ▸ hgiven.1))
      exact .inl ⟨ev', hev', hid'.trans hid, hnot⟩
    · exact .inr ⟨v, mem_cons_of_mem _ hother, hgiven⟩
  · rcases mem_append.1 hrow with hold | hnew
    · exact h.sent row hold
    · exact (h.fine _ mem_cons_self).rows row hnew

lemma Once.record (h : Once db ws handed) {ev : AssetEvent J} (hnew : ev.id ∉ db.events.map AssetEvent.id) :
    Once (db.record ev hnew) ws handed where
  pending := h.pending
  fresh id hid := by
    obtain ⟨e, he, hrest⟩ := h.fresh id hid
    exact ⟨e, mem_append_left _ he, hrest⟩
  fine := h.fine
  once := h.once
  known x hx := by
    rcases h.known x hx with ⟨e, he, hrest⟩ | hgiven
    · exact .inl ⟨e, mem_append_left _ he, hrest⟩
    · exact .inr hgiven
  sent := h.sent

lemma failedRows_eq_nil (h : ∀ row ∈ db.deliveries, row.status ≠ .failed) (limit : Nat) :
    failedRows db limit = [] := by
  have hnone : (db.deliveries.zipIdx.filter fun d => decide (d.1.status = .failed ∧ d.1.attempts < maxAttempts)) = [] := by
    refine filter_eq_nil_iff.2 fun d hd => ?_
    rw [decide_eq_true_eq]
    exact fun hfailed => h d.1 (fst_mem_of_mem_zipIdx hd) hfailed.1
  rw [failedRows, hnone, take_nil]

lemma Once.step {s s' : Dispatch J} {e : Event J} (h : Once s.db s.workers s.handed)
    (hstep : s.step D e = some s') (hok : e.succeeds) (halone : alone (s, e)) :
    Once s'.db s'.workers s'.handed := by
  cases e <;> rw [Dispatch.step] at hstep
  case recorded ev =>
    split at hstep <;> cases hstep
    next hnew => exact h.record hnew
  case selected p limit =>
    split at hstep <;> cases hstep
    next w locks hw =>
    refine Once.set hw ((h.at hw).select rfl fun ev hev hmem => halone ev hev ?_)
    exact ((perm_of_getElem? hw).1.flatMap_right Worker.pending).mem_iff.1 hmem
  case began p now =>
    split at hstep <;> cases hstep
    next hw => exact Once.set hw ((h.at hw).begin now)
  case delivered p now raised =>
    obtain rfl : raised = none := hok
    split at hstep <;> cases hstep
    next hw => exact Once.set hw ((h.at hw).deliver now)
  case readMembers p =>
    split at hstep <;> cases hstep
    next hw => exact Once.set hw (h.at hw).readMembers
  case mailed p now raised =>
    obtain rfl : raised = none := hok
    split at hstep <;> cases hstep
    next hw =>
    refine Once.set hw ?_
    have hleft : ∀ (mine : List (AssetEvent J)) members, membersLeft none mine members = members :=
      fun _ _ => if_neg fun hstop => Bool.false_ne_true hstop.2
    rw [hleft]
    exact (h.at hw).mail now
  case committed p =>
    split at hstep
    · next hw =>
      obtain ⟨_, hs'⟩ := ite_none_left_eq_some.1 hstep
      obtain rfl := some_inj.1 hs'
      exact Once.set hw (h.at hw).commit
    · cases hstep
  case finished p =>
    split at hstep <;> cases hstep
    next hw => exact Once.set hw ((h.at hw).rest rfl rfl (.plain rfl rfl rfl))
  case readFailed p =>
    split at hstep <;> cases hstep
    next hw =>
    refine Once.set hw ?_
    rw [failedRows_eq_nil h.sent]
    exact (h.at hw).rest rfl rfl (.plain rfl rfl rfl)
  case retried p now raised =>
    split at hstep
    · next hw => cases ((h.at hw).fine _ mem_cons_self).retries
    · cases hstep
  case retriesCommitted p =>
    split at hstep <;> cases hstep
    next done _ hw =>
    obtain rfl : done = [] := ((h.at hw).fine _ mem_cons_self).retries
    exact Once.set hw ((h.at hw).rest rfl rfl (.plain rfl rfl rfl))

/-- If every send succeeds and nothing is selected that is still in a batch, every integration
and every member is handed an event at most once. -/
theorem handed_once {n : Nat} {s : Dispatch J} {history : List (Dispatch J × Event J)}
    (hdb : ∀ row ∈ db.deliveries, row.status ≠ .failed)
    (h : Steps (Dispatch.Step D) (.start db n) history s) (hok : ∀ l ∈ history, l.2.succeeds)
    (halone : ∀ l ∈ history, alone l) : s.handed.Nodup := by
  have honce : Once s.db s.workers s.handed := by
    induction h with
    | nil =>
      have hidle : ∀ w ∈ (Dispatch.start db n).workers, w = {} := fun w hw => eq_of_mem_replicate hw
      refine ⟨?_, fun id hid => ?_, fun w hw => ?_, nodup_nil, fun x hx => absurd hx not_mem_nil, hdb⟩
      · rw [flatMap_eq_nil_iff.2 fun w hw => by rw [hidle w hw]; rfl]
        exact nodup_nil
      · obtain ⟨w, hw, hid⟩ := mem_flatMap.1 hid
        rw [hidle w hw] at hid
        exact absurd hid not_mem_nil
      · rw [hidle w hw]
        exact .plain rfl rfl rfl
    | snoc _ hstep ih =>
      simp only [forall_mem_append, forall_mem_singleton] at hok halone
      obtain ⟨hpre, hstep⟩ := hstep
      refine (ih hok.1 halone.1).step hstep hok.2 ?_
      rw [← hpre]
      exact halone.2
  exact honce.once

end Steps

/-! ## Two dispatchers -/

def firstTenant : List (Event Unit) :=
  [.selected 0 1000, .began 0 0, .delivered 0 0 none, .delivered 0 0 none, .readMembers 0, .committed 0]

def secondTenant (p : Nat) : List (Event Unit) := [.began p 0, .delivered p 0 none, .readMembers p, .committed p]

theorem handed_once_alone : ∃ history s, Steps (Dispatch.Step plainDirectory) (.start twoTenants 2) history s ∧
    s.handed = [(.integration 1, 1), (.integration 2, 1), (.integration 3, 2)] ∧ s.handed.Nodup := by
  refine exists_steps
    (firstTenant ++ secondTenant 0 ++ [.finished 0, .selected 1 1000, .readFailed 0, .retriesCommitted 0])
    (fun s => decide (s.handed = [(.integration 1, 1), (.integration 2, 1), (.integration 3, 2)]))
    (by decide +kernel) fun s hrun hhanded => ?_
  exact ⟨of_decide_eq_true hhanded, handed_once (by decide) hrun (by decide +kernel) (by decide +kernel)⟩

/-- After the first commit the second tenant's event is not locked, and the second process
takes it to the end; the first one then sends it again, from memory. -/
theorem second_tenant_handed_twice : ∃ history s,
    Steps (Dispatch.Step plainDirectory) (.start twoTenants 2) history s ∧ (∀ l ∈ history, l.2.succeeds) ∧
      s.handed.count (.integration 3, 2) = 2 := by
  refine exists_steps (firstTenant ++ .selected 1 1000 :: secondTenant 1 ++ secondTenant 0)
    (fun s => decide (s.handed.count (.integration 3, 2) = 2)) (by decide +kernel) fun s _ hcount => ?_
  exact ⟨by decide +kernel, of_decide_eq_true hcount⟩

end App.Integrations
