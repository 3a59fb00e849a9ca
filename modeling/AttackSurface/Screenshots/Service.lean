import AttackSurface.Screenshots.Captures
import AttackSurface.Store.Keyed

/-!
# The calls of the screenshot service and how they interleave

`State.step` takes one step of one call.  A label of a run carries the state before the
step, so that what happened can be counted from the labels alone.
-/

namespace App.Screenshots

open PyText List Option

/-! ## Calls that are under way -/

/-- What `request_capture` reads outside the tables of the service. -/
structure CaptureRequest where
  tenantId : Nat
  organizationId : Nat
  assetId : Nat
  /-- the asset exists, and is a web endpoint -/
  isWebEndpoint : Bool := true
  /-- the tenant has turned screenshots on -/
  enabled : Bool := true
  /-- `_authorize` -/
  authorized : Bool := true
deriving DecidableEq

/-- A request that passed its checks and holds the tenant's lock. -/
structure Requesting where
  tenantId : Nat
  organizationId : Nat
  assetId : Nat
  began : Int
deriving DecidableEq

def Requesting.capture (r : Requesting) (id : Nat) : Capture where
  id := id
  tenantId := r.tenantId
  organizationId := r.organizationId
  assetId := r.assetId
  createdAt := r.began

/-- A result that passed its checks; its capture's row is locked. -/
structure Storing where
  tenantId : Nat
  captureId : Nat
  size : Nat
  capturedAt : Int
  /-- the tenant's usage when it was checked -/
  stored : Nat
  drop : List Nat
deriving DecidableEq

/-- A deletion of an organization that has read which objects are stored. -/
structure Deleting where
  organizationId : Nat
  objects : List Deletion
deriving DecidableEq

structure State where
  now : Int := 0
  nextId : Nat := 0
  captures : List Capture := []
  counters : List Counter := []
  deletions : List Deletion := []
  requesting : List Requesting := []
  storing : List Storing := []
  /-- what the calls of `receive_result` still delete after their first commit -/
  dropping : List (List Nat) := []
  deleting : List Deleting := []
  /-- the captures that a dispatcher has reserved and not launched yet -/
  reserved : List Nat := []
  /-- the jobs that a dispatcher has built and not published yet -/
  built : List Job := []
  /-- the publications that are not marked yet, and whether they succeeded -/
  attempts : List (Job × Bool) := []
  published : List Job := []
  /-- the jobs for which a result was submitted -/
  received : List Nat := []

namespace State

def find (s : State) (id : Nat) : Option Capture := s.captures.find? fun c => c.id = id

variable (s : State) (id : Nat)

def setCapture (f : Capture → Capture) : State :=
  { s with captures := s.captures.map fun c => if c.id = id then f c else c }

def locked : Bool := s.storing.any fun r => decide (r.captureId = id)

variable (t : Nat)

/-- `usage`, `stored_bytes`. -/
def storedBytes : Nat := storedSize t s.captures + pendingSize t s.deletions

/-- `usage`, `captures_today`. -/
def capturesToday : Nat := counted s.counters t (dayOf s.now)

/-- `usage`, `active`. -/
def activeCaptures : Nat :=
  (s.captures.filter fun c => decide (c.tenantId = t) && c.status.isActive).length

/-! ## Requests -/

variable (pol : Policy)

/-- The checks of `request_capture`.  A request that is refused, or finds an active capture of
the endpoint, changes nothing. -/
def requestable (s : State) (r : CaptureRequest) : Bool :=
  r.isWebEndpoint && pol.available && r.enabled &&
    !(s.captures.any fun c => decide (c.assetId = r.assetId) && c.status.isActive) &&
    decide (s.activeCaptures r.tenantId < pol.perTenantQueued) &&
    decide (s.capturesToday r.tenantId < pol.perTenantDaily) && r.authorized

def check (s : State) (r : CaptureRequest) : State :=
  if s.requestable pol r then
    { s with requesting := ⟨r.tenantId, r.organizationId, r.assetId, s.now⟩ :: s.requesting }
  else s

/-- The rest of `request_capture`, to the commit. -/
def create (r : Requesting) : State :=
  { s with
    requesting := s.requesting.erase r
    nextId := s.nextId + 1
    captures := s.captures ++ [r.capture s.nextId]
    counters := countRequest r.tenantId (dayOf s.now) 1 s.counters }

/-- The capture is queued and from today, so that cancelling it gives the allowance back. -/
def refundable (c : Capture) : Bool :=
  decide (c.status = .queued ∧ dayOf c.createdAt = dayOf s.now)

/-- `cancel_capture`. -/
def cancel (s : State) (asset id : Nat) : State :=
  match s.find id with
  | none => s
  | some c =>
    if c.assetId ≠ asset ∨ c.status.isActive = false then s
    else
      { s.setCapture id Capture.cancel with
        counters := if s.refundable c then countRequest c.tenantId (dayOf s.now) (-1) s.counters
          else s.counters }

/-! ## Dispatching -/

/-- The captures that `reserve` picks, after the watchdog. -/
def picks (now : Int) (skipped busy : List Nat) : List Capture :=
  let captures := watchdog pol now skipped s.captures
  let free := pol.maxConcurrent - captures.countP (occupied now)
  (pickOrder (candidates busy free captures)).take free

/-- `reserve`, at a time that was read before the lock was taken. -/
def reserve (task : Nat → Nat) (s : State) (pol : Policy) (now : Int) (skipped busy : List Nat) : State :=
  let picked := (s.picks pol now skipped busy).map Capture.id
  { s with
    captures := (watchdog pol now skipped s.captures).map fun c =>
      if c.id ∈ picked then c.reserve (task c.id) pol now else c
    reserved := picked ++ s.reserved }

def jobOf (c : Capture) (task : Nat) : Job where
  jobId := task
  captureId := c.id
  timeoutSeconds := jobTimeout pol
  notAfter := c.startedAt.getD s.now + startWindow

/-- `launch`; `authorized` is the outcome of the checks made again. -/
def launch (pol : Policy) (authorized : Bool) (pool : Str) : State :=
  let s := { s with reserved := s.reserved.erase id }
  match s.find id with
  | none => s
  | some c =>
    match c.taskId with
    | none => s
    | some task =>
      if c.status ≠ .running then s
      else if authorized then
        { s.setCapture id (Capture.toPool pool) with
          built := s.jobOf pol c task :: s.built }
      else s.setCapture id (Capture.finish .blocked)

/-- `publish_job`. -/
def publish (job : Job) (ok : Bool) : State :=
  { s with
    built := s.built.erase job
    attempts := (job, ok) :: s.attempts
    published := if ok then job :: s.published else s.published }

/-- `mark_dispatched`. -/
def mark (s : State) (job : Job) (ok : Bool) : State :=
  let s := { s with attempts := s.attempts.erase (job, ok) }
  s.setCapture job.captureId (Capture.mark job.jobId ok s.now)

/-! ## Results -/

/-- `receive_result`, up to the first commit or, if the image is to be stored, up to that. -/
def receive (env : Envelope) (result : CaptureResult) : State :=
  let s := { s with received := env.jobId :: s.received }
  match s.find env.stageId with
  | none => s
  | some c =>
    if bindingError c env result then
      -- its (cancelled or expired) job has finished: the slot is free
      if c.taskId = some env.jobId ∧ c.workerPool.getD defaultPool = env.pool then
        s.setCapture c.id Capture.freeSlot
      else s
    else if result.completed = false then
      s.setCapture c.id (Capture.finish (if result.egressBlocked then .blocked else .failed))
    else
      match result.screenshots with
      | [] => s.setCapture c.id (Capture.finish (if result.egressBlocked then .blocked else .failed))
      | img :: _ =>
        match decode pol img with
        | none => s.setCapture c.id (Capture.finish .failed)
        | some n =>
          let drop := droppedCaptures pol.retentionPerEndpoint (olderCaptures c s.captures)
          if (s.storedBytes c.tenantId : Int) - ↑(drop.map fun o => o.size.getD 0).sum + n > pol.quota then
            s.setCapture c.id (Capture.finish .failed)
          else
            { s with
              storing :=
                ⟨c.tenantId, c.id, n, img.capturedAt, s.storedBytes c.tenantId, drop.map Capture.id⟩ :: s.storing }

def store (r : Storing) : State :=
  { s.setCapture r.captureId (Capture.succeed r.size r.capturedAt) with
    storing := s.storing.erase r
    dropping := r.drop :: s.dropping }

def dropOlder (ids failing : List Nat) : State :=
  { s with dropping := s.dropping.erase ids, captures := deleteRows ids failing s.captures }

/-! ## Deletions -/

/-- `delete_capture`. -/
def delete (asset id : Nat) (failing : List Nat) : State :=
  match s.find id with
  | none => s
  | some c =>
    if c.assetId ≠ asset ∨ c.status.isActive = true then s
    else { s with captures := deleteRows [id] failing s.captures }

/-- `apply_retention`. -/
def retain (pol : Policy) (now : Int) (failing : List Nat) : State :=
  { s with
    captures := deleteRows ((expiredCaptures pol t now s.captures).map Capture.id) failing s.captures
    deletions := purge t failing s.deletions
    counters := s.counters.filter fun u => !decide (u.tenantId = t ∧ u.day < dayOf (now - 7 * 86400)) }

def objects (org : Nat) : List Deletion :=
  (s.captures.filter fun c => decide (c.organizationId = org) && c.stored).map fun c =>
    ⟨c.tenantId, c.id, c.size.getD 0⟩

/-- `queue_organization_objects`: the stored objects are read. -/
def startDeleting (org : Nat) : State := { s with deleting := ⟨org, s.objects org⟩ :: s.deleting }

def deleteOrganization (d : Deleting) : State :=
  { s with
    deleting := s.deleting.erase d
    deletions := s.deletions ++ d.objects
    captures := s.captures.filter fun c => !decide (c.organizationId = d.organizationId) }

end State

/-! ## Steps -/

inductive Event
  | tick (d : Nat)
  | checked (pol : Policy) (r : CaptureRequest)
  | created (r : Requesting)
  /-- the transaction of a request fails -/
  | refused (r : Requesting)
  | cancelled (asset id : Nat)
  /-- the rows that others have locked at the watchdog's query and at that of the candidates -/
  | reserved (pol : Policy) (now : Int) (skipped busy : List Nat)
  | launched (id : Nat) (pol : Policy) (authorized : Bool) (pool : Str)
  | published (job : Job) (ok : Bool)
  | marked (job : Job) (ok : Bool)
  | received (pol : Policy) (env : Envelope) (result : CaptureResult)
  | stored (r : Storing)
  /-- the commit of a stored image fails -/
  | aborted (r : Storing)
  | dropped (ids failing : List Nat)
  | deleted (asset id : Nat) (failing : List Nat)
  | retained (t : Nat) (pol : Policy) (now : Int) (failing : List Nat)
  | deleting (org : Nat)
  | organizationDeleted (d : Deleting)
  | purged (t : Nat) (failing : List Nat)

/-- One step; `none` if a lock or the calls under way do not allow it.  The timestamps of a
transaction fall on one day. -/
def State.step (task : Nat → Nat) (s : State) : Event → Option State
  | .tick d => some { s with now := s.now + d }
  | .checked pol r =>
    if s.requesting.any fun q => decide (q.tenantId = r.tenantId) then none else some (s.check pol r)
  | .created r => if r ∈ s.requesting ∧ dayOf r.began = dayOf s.now then some (s.create r) else none
  | .refused r =>
    if r ∈ s.requesting then some { s with requesting := s.requesting.erase r } else none
  | .cancelled asset id => if s.locked id then none else some (s.cancel asset id)
  | .reserved pol now skipped busy =>
    if now ≤ s.now ∧ ∀ r ∈ s.storing, r.captureId ∈ skipped then
      some (s.reserve task pol now skipped busy)
    else none
  | .launched id pol authorized pool =>
    if id ∈ s.reserved ∧ s.locked id = false then some (s.launch id pol authorized pool) else none
  | .published job ok => if job ∈ s.built then some (s.publish job ok) else none
  | .marked job ok =>
    if (job, ok) ∈ s.attempts ∧ s.locked job.captureId = false then some (s.mark job ok) else none
  | .received pol env result => if s.locked env.stageId then none else some (s.receive pol env result)
  | .stored r => if r ∈ s.storing then some (s.store r) else none
  | .aborted r => if r ∈ s.storing then some { s with storing := s.storing.erase r } else none
  | .dropped ids failing => if ids ∈ s.dropping then some (s.dropOlder ids failing) else none
  | .deleted asset id failing => some (s.delete asset id failing)
  | .retained t pol now failing => if now ≤ s.now then some (s.retain t pol now failing) else none
  | .deleting org => some (s.startDeleting org)
  | .organizationDeleted d =>
    if d ∈ s.deleting ∧ ∀ c ∈ s.captures, c.organizationId = d.organizationId → s.locked c.id = false then
      some (s.deleteOrganization d)
    else none
  | .purged t failing => some { s with deletions := purge t failing s.deletions }

def State.Step (task : Nat → Nat) (s : State) (l : State × Event) (s' : State) : Prop :=
  l.1 = s ∧ s.step task l.2 = some s'

/-! ## What the calls do -/

section Calls

variable {s : State} {id : Nat} {c : Capture}

lemma find_some (h : s.find id = some c) : c ∈ s.captures ∧ c.id = id := by
  rw [State.find] at h
  exact ⟨mem_of_find?_eq_some h, by simpa using find?_some h⟩

lemma find_eq (hids : (s.captures.map Capture.id).Nodup) (hc : c ∈ s.captures) :
    s.find c.id = some c := PyDict.find?_key hids hc

lemma cancel_eq (s : State) (asset id : Nat) : s.cancel asset id = s ∨
    ∃ c, s.find id = some c ∧ c.status.isActive = true ∧ s.cancel asset id =
      { s.setCapture id Capture.cancel with
        counters := if s.refundable c then countRequest c.tenantId (dayOf s.now) (-1) s.counters
          else s.counters } := by
  unfold State.cancel
  split
  · exact .inl rfl
  next c hc =>
  split
  · exact .inl rfl
  next hok =>
  rw [not_or, Bool.not_eq_false] at hok
  exact .inr ⟨c, hc, hok.2, rfl⟩

lemma launch_eq (s : State) (id : Nat) (pol : Policy) (authorized : Bool) (pool : Str) :
    s.launch id pol authorized pool = { s with reserved := s.reserved.erase id } ∨
    ∃ c task, s.find id = some c ∧ c.taskId = some task ∧ c.status = .running ∧
      ((authorized = true ∧ s.launch id pol authorized pool =
        { s.setCapture id (Capture.toPool pool) with
          reserved := s.reserved.erase id, built := s.jobOf pol c task :: s.built }) ∨
      (authorized = false ∧ s.launch id pol authorized pool =
        { s.setCapture id (Capture.finish .blocked) with reserved := s.reserved.erase id })) := by
  have hfind : State.find { s with reserved := s.reserved.erase id } id = s.find id := rfl
  unfold State.launch
  simp only [hfind]
  split
  · exact .inl rfl
  next c hc =>
  split
  · exact .inl rfl
  next task htask =>
  split
  · exact .inl rfl
  next hrunning =>
  rw [not_not] at hrunning
  refine .inr ⟨c, task, hc, htask, hrunning, ?_⟩
  cases authorized with
  | true => exact .inl ⟨rfl, rfl⟩
  | false => exact .inr ⟨rfl, rfl⟩

lemma bindingError_eq {env : Envelope} {result : CaptureResult} (h : bindingError c env result = false) :
    c.taskId = some env.jobId ∧ c.tenantId = env.tenantId ∧ c.status = .running := by
  simp only [bindingError, Bool.or_eq_false_iff, decide_eq_false_iff_not, not_or, not_not] at h
  exact ⟨h.1.1.2, h.1.1.1.1.1, h.2⟩

/-- The captures that a result for `c` drops under a policy. -/
def State.dropsFor (s : State) (pol : Policy) (c : Capture) : List Capture :=
  droppedCaptures pol.retentionPerEndpoint (olderCaptures c s.captures)

def Capture.Ended (c c' : Capture) : Prop := c' = c.freeSlot ∨ c' = c.finish .blocked ∨ c' = c.finish .failed

/-- A result whose image passes the checks. -/
structure State.Accepts (s : State) (pol : Policy) (env : Envelope) (result : CaptureResult) (c : Capture)
    (n : Nat) : Prop where
  found : s.find env.stageId = some c
  taskId : c.taskId = some env.jobId
  tenantId : c.tenantId = env.tenantId
  running : c.status = .running
  image : ∃ img ∈ result.screenshots.head?, img.length = some n
  fits : (s.storedBytes c.tenantId : Int) - ↑((s.dropsFor pol c).map fun o => o.size.getD 0).sum + n ≤ pol.quota

lemma decode_length {pol : Policy} {img : Image} {n : Nat} (h : decode pol img = some n) :
    img.length = some n := by
  unfold decode at h
  split at h
  · next m _ _ hm _ =>
    obtain ⟨_, hn⟩ := ite_none_right_eq_some.1 h
    rw [hm, some_inj.1 hn]
  · cases h

lemma receive_eq (s : State) (pol : Policy) (env : Envelope) (result : CaptureResult) :
    s.receive pol env result = { s with received := env.jobId :: s.received } ∨
    (∃ c f, s.find env.stageId = some c ∧ c.taskId = some env.jobId ∧ (∀ c, Capture.Ended c (f c)) ∧
      s.receive pol env result = { s.setCapture c.id f with received := env.jobId :: s.received }) ∨
    ∃ (c : Capture) (n : Nat) (taken : Int), s.Accepts pol env result c n ∧ s.receive pol env result =
        { s with
          received := env.jobId :: s.received
          storing :=
            ⟨c.tenantId, c.id, n, taken, s.storedBytes c.tenantId, (s.dropsFor pol c).map Capture.id⟩ :: s.storing } := by
  have hfind : State.find { s with received := env.jobId :: s.received } env.stageId =
      s.find env.stageId := rfl
  have hfinish : ∀ b c, Capture.Ended c (Capture.finish (if b = true then .blocked else .failed) c) := by
    intro b c
    cases b with
    | true => exact .inr (.inl rfl)
    | false => exact .inr (.inr rfl)
  unfold State.receive
  simp only [hfind]
  split
  · exact .inl rfl
  next c hc =>
  split
  · split
    · next hown => exact .inr (.inl ⟨c, _, hc, hown.1, fun _ => .inl rfl, rfl⟩)
    · exact .inl rfl
  · next hbound =>
    obtain ⟨htask, htenant, hrunning⟩ := bindingError_eq (Bool.not_eq_true _ ▸ hbound)
    split
    · exact .inr (.inl ⟨c, _, hc, htask, hfinish _, rfl⟩)
    split
    · exact .inr (.inl ⟨c, _, hc, htask, hfinish _, rfl⟩)
    next img _ himgs =>
    split
    · exact .inr (.inl ⟨c, _, hc, htask, fun _ => .inr (.inr rfl), rfl⟩)
    next n hn =>
    split
    · exact .inr (.inl ⟨c, _, hc, htask, fun _ => .inr (.inr rfl), rfl⟩)
    · next hfits =>
      have himage : ∃ img ∈ result.screenshots.head?, img.length = some n :=
        ⟨img, by simp [himgs], decode_length hn⟩
      exact .inr (.inr
        ⟨c, n, img.capturedAt, ⟨hc, htask, htenant, hrunning, himage, not_lt.1 hfits⟩, rfl⟩)

lemma delete_eq (s : State) (asset id : Nat) (failing : List Nat) : s.delete asset id failing = s ∨
    ∃ c, s.find id = some c ∧ c.status.isActive = false ∧
      s.delete asset id failing = { s with captures := deleteRows [id] failing s.captures } := by
  unfold State.delete
  split
  · exact .inl rfl
  next c hc =>
  split
  · exact .inl rfl
  next hok =>
  rw [not_or, Bool.not_eq_true] at hok
  exact .inr ⟨c, hc, hok.2, rfl⟩

end Calls

/-! ## What the steps leave alone -/

/-- What a write to a row leaves. -/
structure Capture.Kept (c c' : Capture) : Prop where
  id : c'.id = c.id
  tenantId : c'.tenantId = c.tenantId
  organizationId : c'.organizationId = c.organizationId
  createdAt : c'.createdAt = c.createdAt
  queued : c'.status = .queued → c.status = .queued

def Capture.SameObject (c c' : Capture) : Prop := c'.stored = c.stored ∧ c'.size = c.size

section Kept

lemma Capture.Kept.refl (c : Capture) : c.Kept c := ⟨rfl, rfl, rfl, rfl, fun h => h⟩

lemma Capture.Kept.trans {a b c : Capture} (h₁ : a.Kept b) (h₂ : b.Kept c) : a.Kept c :=
  ⟨h₂.id.trans h₁.id, h₂.tenantId.trans h₁.tenantId, h₂.organizationId.trans h₁.organizationId,
    h₂.createdAt.trans h₁.createdAt, fun hq => h₁.queued (h₂.queued hq)⟩

lemma Capture.kept_cancel (c : Capture) : c.Kept c.cancel := ⟨rfl, rfl, rfl, rfl, nofun⟩

lemma Capture.kept_finish {status : CaptureStatus} (hs : status ≠ .queued) (c : Capture) :
    c.Kept (c.finish status) := ⟨rfl, rfl, rfl, rfl, fun hq => absurd hq hs⟩

lemma Capture.kept_toPool (pool : Str) (c : Capture) : c.Kept (c.toPool pool) :=
  ⟨rfl, rfl, rfl, rfl, fun h => h⟩

lemma Capture.kept_mark (job : Nat) (ok : Bool) (now : Int) (c : Capture) :
    c.Kept (c.mark job ok now) ∧ c.SameObject (c.mark job ok now) := by
  unfold Capture.mark
  split
  · exact ⟨.refl c, rfl, rfl⟩
  split
  · exact ⟨⟨rfl, rfl, rfl, rfl, fun h => h⟩, rfl, rfl⟩
  · exact ⟨c.kept_finish (by decide), rfl, rfl⟩

lemma Capture.kept_succeed (size : Nat) (taken : Int) (c : Capture) : c.Kept (c.succeed size taken) :=
  ⟨rfl, rfl, rfl, rfl, nofun⟩

lemma Capture.Ended.kept {c c' : Capture} (h : c.Ended c') : c.Kept c' ∧ c.SameObject c' := by
  rcases h with rfl | rfl | rfl
  · exact ⟨⟨rfl, rfl, rfl, rfl, fun h => h⟩, rfl, rfl⟩
  all_goals exact ⟨c.kept_finish (by decide), rfl, rfl⟩

variable {task : Nat → Nat} {s s' : State} {e : Event}

def State.Rewrites (s s' : State) (P : Capture → Capture → Prop) : Prop :=
  s'.nextId = s.nextId ∧ ∃ g : Capture → Capture, (∀ c, P c (g c)) ∧ s'.captures.Sublist (s.captures.map g)

def State.Plain (s s' : State) : Prop := s.Rewrites s' fun c c' => c.Kept c' ∧ c.SameObject c'

lemma State.Plain.sublist (h : s'.captures.Sublist s.captures) (hnext : s'.nextId = s.nextId) :
    s.Plain s' := ⟨hnext, fun c => c, fun c => ⟨.refl c, rfl, rfl⟩, by rwa [List.map_id']⟩

lemma State.Plain.same (h : s'.captures = s.captures) (hnext : s'.nextId = s.nextId) : s.Plain s' :=
  .sublist (h ▸ Sublist.refl _) hnext

variable {P : Capture → Capture → Prop} {f : Capture → Capture}

lemma State.Rewrites.setCapture (id : Nat)
    (hrefl : ∀ c, P c c) (hf : ∀ c, P c (f c)) (h : s'.captures = (s.setCapture id f).captures)
    (hnext : s'.nextId = s.nextId) : s.Rewrites s' P := by
  refine ⟨hnext, fun c => if c.id = id then f c else c, fun c => ?_, h ▸ Sublist.refl _⟩
  show P c (if c.id = id then f c else c)
  split
  · exact hf c
  · exact hrefl c

lemma State.Plain.setCapture (id : Nat) (hf : ∀ c : Capture, c.Kept (f c) ∧ c.SameObject (f c))
    (h : s'.captures = (s.setCapture id f).captures) (hnext : s'.nextId = s.nextId) : s.Plain s' :=
  State.Rewrites.setCapture id (fun c => ⟨.refl c, rfl, rfl⟩) hf h hnext

section

variable (s : State) (pol : Policy)

lemma State.plain_reserve (now : Int) (skipped busy : List Nat) :
    s.Plain (s.reserve task pol now skipped busy) := by
  have hwatch : ∀ c : Capture, c.Kept (watch pol now skipped c) ∧ c.SameObject (watch pol now skipped c) := by
    intro c
    unfold watch
    split
    · exact ⟨⟨rfl, rfl, rfl, rfl, nofun⟩, rfl, rfl⟩
    · exact ⟨.refl c, rfl, rfl⟩
  have hpick : ∀ c : Capture, c.Kept (if c.id ∈ (s.picks pol now skipped busy).map Capture.id then
      c.reserve (task c.id) pol now else c) ∧ c.SameObject (if c.id ∈ (s.picks pol now skipped busy).map Capture.id
      then c.reserve (task c.id) pol now else c) := by
    intro c
    split
    · exact ⟨⟨rfl, rfl, rfl, rfl, nofun⟩, rfl, rfl⟩
    · exact ⟨.refl c, rfl, rfl⟩
  refine ⟨rfl, _ ∘ watch pol now skipped, fun c => ?_, List.map_map.subst (Sublist.refl _)⟩
  obtain ⟨hkept, hobject⟩ := hwatch c
  obtain ⟨hkept', hobject'⟩ := hpick (watch pol now skipped c)
  exact ⟨hkept.trans hkept', hobject'.1.trans hobject.1, hobject'.2.trans hobject.2⟩

lemma State.plain_launch (id : Nat) (pol : Policy) (authorized : Bool) (pool : Str) :
    s.Plain (s.launch id pol authorized pool) := by
  rcases launch_eq s id pol authorized pool with heq | ⟨c, t, _, _, _, ⟨_, heq⟩ | ⟨_, heq⟩⟩
  · rw [heq]
    exact .same rfl rfl
  · rw [heq]
    exact .setCapture id (fun c => ⟨c.kept_toPool pool, rfl, rfl⟩) rfl rfl
  · rw [heq]
    exact .setCapture id (fun c => ⟨c.kept_finish (by decide), rfl, rfl⟩) rfl rfl

lemma State.plain_receive (env : Envelope) (result : CaptureResult) :
    s.Plain (s.receive pol env result) := by
  rcases receive_eq s pol env result with heq | ⟨c, f, _, _, hended, heq⟩ | ⟨c, n, taken, _, heq⟩
  · rw [heq]
    exact .same rfl rfl
  · rw [heq]
    exact .setCapture c.id (fun d => (hended d).kept) rfl rfl
  · rw [heq]
    exact .same rfl rfl

lemma State.plain_cancel (asset id : Nat) : s.Plain (s.cancel asset id) := by
  rcases cancel_eq s asset id with heq | ⟨c, _, _, heq⟩
  · rw [heq]
    exact .same rfl rfl
  · rw [heq]
    exact .setCapture id (fun c => ⟨c.kept_cancel, rfl, rfl⟩) rfl rfl

lemma State.plain_delete (asset id : Nat) (failing : List Nat) :
    s.Plain (s.delete asset id failing) := by
  rcases delete_eq s asset id failing with heq | ⟨c, _, _, heq⟩
  · rw [heq]
    exact .same rfl rfl
  · rw [heq]
    exact .sublist filter_sublist rfl

end

/-- What a step does, and what it found. -/
inductive State.Does (task : Nat → Nat) (s : State) : Event → State → Prop
  | tick (d : Nat) : s.Does task (.tick d) { s with now := s.now + d }
  | checked {r : CaptureRequest} (pol : Policy)
    (hlock : (s.requesting.any fun q => decide (q.tenantId = r.tenantId)) = false) :
    s.Does task (.checked pol r) (s.check pol r)
  | created {r : Requesting} (hr : r ∈ s.requesting) (hday : dayOf r.began = dayOf s.now) :
    s.Does task (.created r) (s.create r)
  | refused (r : Requesting) : s.Does task (.refused r) { s with requesting := s.requesting.erase r }
  | cancelled (asset id : Nat) : s.Does task (.cancelled asset id) (s.cancel asset id)
  | reserved (pol : Policy) {now : Int} (skipped busy : List Nat) (hnow : now ≤ s.now) :
    s.Does task (.reserved pol now skipped busy) (s.reserve task pol now skipped busy)
  | launched {id : Nat} (pol : Policy) (authorized : Bool) (pool : Str) (hid : id ∈ s.reserved) :
    s.Does task (.launched id pol authorized pool) (s.launch id pol authorized pool)
  | published {job : Job} (ok : Bool) (hjob : job ∈ s.built) :
    s.Does task (.published job ok) (s.publish job ok)
  | marked {job : Job} {ok : Bool} (hjob : (job, ok) ∈ s.attempts) :
    s.Does task (.marked job ok) (s.mark job ok)
  | received (pol : Policy) (env : Envelope) (result : CaptureResult) :
    s.Does task (.received pol env result) (s.receive pol env result)
  | stored {r : Storing} (hr : r ∈ s.storing) : s.Does task (.stored r) (s.store r)
  | aborted (r : Storing) : s.Does task (.aborted r) { s with storing := s.storing.erase r }
  | dropped {ids : List Nat} (failing : List Nat) (hids : ids ∈ s.dropping) :
    s.Does task (.dropped ids failing) (s.dropOlder ids failing)
  | deleted (asset id : Nat) (failing : List Nat) :
    s.Does task (.deleted asset id failing) (s.delete asset id failing)
  | retained (t : Nat) (pol : Policy) {now : Int} (failing : List Nat) (hnow : now ≤ s.now) :
    s.Does task (.retained t pol now failing) (s.retain t pol now failing)
  | deleting (org : Nat) : s.Does task (.deleting org) (s.startDeleting org)
  | organizationDeleted {d : Deleting} (hd : d ∈ s.deleting) :
    s.Does task (.organizationDeleted d) (s.deleteOrganization d)
  | purged (t : Nat) (failing : List Nat) :
    s.Does task (.purged t failing) { s with deletions := purge t failing s.deletions }

lemma step_does (h : s.step task e = some s') : s.Does task e s' := by
  cases e with
  | tick | deleted | deleting | purged =>
    obtain rfl := some_inj.1 h
    constructor
  | checked | cancelled | received =>
    obtain ⟨hok, hs'⟩ := ite_none_left_eq_some.1 h
    obtain rfl := some_inj.1 hs'
    constructor
    all_goals exact Bool.not_eq_true _ ▸ hok
  | created =>
    obtain ⟨hok, hs'⟩ := ite_none_right_eq_some.1 h
    obtain rfl := some_inj.1 hs'
    exact .created hok.1 hok.2
  | reserved | launched | marked | organizationDeleted =>
    obtain ⟨hok, hs'⟩ := ite_none_right_eq_some.1 h
    obtain rfl := some_inj.1 hs'
    constructor
    exact hok.1
  | refused | published | stored | aborted | dropped | retained =>
    obtain ⟨hok, hs'⟩ := ite_none_right_eq_some.1 h
    obtain rfl := some_inj.1 hs'
    constructor
    all_goals exact hok

lemma step_rows (h : s.step task e = some s') : (∃ r ∈ s.requesting, e = .created r ∧ s' = s.create r) ∨
      (∃ r ∈ s.storing, e = .stored r ∧ s' = s.store r) ∨ s.Plain s' := by
  cases step_does h with
  | created hr hday => exact .inl ⟨_, hr, rfl, rfl⟩
  | stored hr => exact .inr (.inl ⟨_, hr, rfl, rfl⟩)
  | checked pol hlock =>
    refine .inr (.inr ?_)
    unfold State.check
    split <;> exact .same rfl rfl
  | cancelled asset id => exact .inr (.inr (s.plain_cancel asset id))
  | reserved pol skipped busy hnow => exact .inr (.inr (s.plain_reserve pol _ skipped busy))
  | launched pol authorized pool hid => exact .inr (.inr (s.plain_launch _ pol authorized pool))
  | marked hjob => exact .inr (.inr (.setCapture _ (Capture.kept_mark _ _ s.now) rfl rfl))
  | received pol env result => exact .inr (.inr (s.plain_receive pol env result))
  | deleted asset id failing => exact .inr (.inr (s.plain_delete asset id failing))
  | dropped | retained | organizationDeleted => exact .inr (.inr (.sublist filter_sublist rfl))
  | tick | refused | published | aborted | deleting | purged => exact .inr (.inr (.same rfl rfl))

/-- The ids of the rows are unique and were given out. -/
structure State.Identified (s : State) : Prop where
  ids : (s.captures.map Capture.id).Nodup
  known : ∀ c ∈ s.captures, c.id < s.nextId

section

variable (h : s.Identified)

include h

lemma State.Identified.rewrite
    (hP : ∀ c c', P c c' → c'.id = c.id) (hs : s.Rewrites s' P) : s'.Identified := by
  obtain ⟨hnext, g, hg, hsub⟩ := hs
  refine ⟨?_, fun c' hc' => ?_⟩
  · have hids : (s.captures.map g).map Capture.id = s.captures.map Capture.id := by
      rw [List.map_map]
      exact map_congr_left fun c _ => hP _ _ (hg c)
    exact (hsub.map Capture.id).nodup (hids ▸ h.ids)
  · obtain ⟨c, hc, rfl⟩ := List.mem_map.1 (hsub.subset hc')
    rw [hP _ _ (hg c), hnext]
    exact h.known c hc

lemma State.Identified.create (r : Requesting) : (s.create r).Identified where
  ids := by
    show ((s.captures ++ [r.capture s.nextId]).map Capture.id).Nodup
    rw [map_append, map_singleton, ← concat_eq_append]
    refine h.ids.concat fun hmem => ?_
    obtain ⟨c, hc, hid⟩ := List.mem_map.1 hmem
    have hlt := h.known c hc
    rw [hid] at hlt
    exact absurd hlt (lt_irrefl _)
  known c hc := by
    rcases mem_append.1 hc with hc | hc
    · exact (h.known c hc).trans (Nat.lt_succ_self _)
    · rw [mem_singleton.1 hc]
      exact Nat.lt_succ_self _

lemma State.Identified.store (r : Storing) : (s.store r).Identified :=
  h.rewrite (fun _ _ hk => hk.id)
    (.setCapture r.captureId Capture.Kept.refl (Capture.kept_succeed r.size r.capturedAt) rfl rfl)

lemma State.Identified.plain (hs : s.Plain s') : s'.Identified :=
  h.rewrite (fun _ _ hk => hk.1.id) hs

end

/-- The parts of the state that storage is accounted in. -/
structure State.SameStorage (s s' : State) : Prop where
  storing : s'.storing = s.storing
  deletions : s'.deletions = s.deletions
  deleting : s'.deleting = s.deleting

/-- The parts of the state that the daily allowance is accounted in. -/
structure State.SameAllowance (s s' : State) : Prop where
  now : s'.now = s.now
  requesting : s'.requesting = s.requesting
  counters : s'.counters = s.counters

lemma launch_same (s : State) (id : Nat) (pol : Policy) (authorized : Bool) (pool : Str) :
    s.SameStorage (s.launch id pol authorized pool) ∧ s.SameAllowance (s.launch id pol authorized pool) := by
  rcases launch_eq s id pol authorized pool with heq | ⟨c, t, _, _, _, ⟨_, heq⟩ | ⟨_, heq⟩⟩
  all_goals
    rw [heq]
    exact ⟨⟨rfl, rfl, rfl⟩, rfl, rfl, rfl⟩

lemma delete_same (s : State) (asset id : Nat) (failing : List Nat) :
    s.SameStorage (s.delete asset id failing) ∧ s.SameAllowance (s.delete asset id failing) := by
  rcases delete_eq s asset id failing with heq | ⟨c, _, _, heq⟩
  all_goals
    rw [heq]
    exact ⟨⟨rfl, rfl, rfl⟩, rfl, rfl, rfl⟩

lemma cancel_sameStorage (s : State) (asset id : Nat) : s.SameStorage (s.cancel asset id) := by
  rcases cancel_eq s asset id with heq | ⟨c, _, _, heq⟩
  all_goals
    rw [heq]
    exact ⟨rfl, rfl, rfl⟩

lemma check_sameStorage (s : State) (pol : Policy) (r : CaptureRequest) : s.SameStorage (s.check pol r) := by
  unfold State.check
  split <;> exact ⟨rfl, rfl, rfl⟩

end Kept

end App.Screenshots
