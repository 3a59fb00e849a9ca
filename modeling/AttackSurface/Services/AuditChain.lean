import AttackSurface.Services.Audit

/-!
# Audit chains are sound

The invariant of the ledger says, of each chain, that its committed rows followed by the
pending ones are a valid chain with increasing ids, and that the pending ones are of one
transaction: the one that holds the chain's lock.
-/

namespace App.Audit

open PyText PyJson HashChains Machines List

/-! ## The ledger -/

namespace Ledger

def committedOf (s : Ledger) (c : Option Nat) : List AuditLog := s.committed.filter fun r => decide (r.tenantId = c)

def pendingOf (s : Ledger) (c : Option Nat) : List AuditLog :=
  (s.pending.filter fun p => decide (p.2.tenantId = c)).map Prod.snd

structure Sound (E : Env) (s : Ledger) : Prop where
  valid : ∀ c, (layout E).Valid none 1 (s.committedOf c ++ s.pendingOf c)
  ids : ∀ c, (s.committedOf c ++ s.pendingOf c).Pairwise fun a b => a.id < b.id
  owner : ∀ p ∈ s.pending, ∀ q ∈ s.pending, p.2.tenantId = q.2.tenantId → p.1 = q.1

variable {E : Env} {s : Ledger} {tx : Nat} {c : Option Nat}

lemma own_filter (s : Ledger) (tx : Nat) (c : Option Nat) :
    ((s.own tx).filter fun r => decide (r.tenantId = c)) =
      ((s.pending.filter fun p => decide (p.2.tenantId = c)).filter fun p => decide (p.1 = tx)).map Prod.snd := by
  rw [own, List.filter_map, filter_comm]
  rfl

lemma Sound.all_or_none (h : s.Sound E) (tx : Nat) (c : Option Nat) :
    (∀ p ∈ s.pending, p.2.tenantId = c → p.1 = tx) ∨ ∀ p ∈ s.pending, p.2.tenantId = c → p.1 ≠ tx := by
  by_cases hsome : ∃ p ∈ s.pending, p.2.tenantId = c ∧ p.1 = tx
  · obtain ⟨p, hp, hc, htx⟩ := hsome
    exact .inl fun q hq hqc => (h.owner q hq p hp (hqc.trans hc.symm)).trans htx
  · exact .inr fun p hp hc htx => hsome ⟨p, hp, hc, htx⟩

lemma own_of_all (hall : ∀ p ∈ s.pending, p.2.tenantId = c → p.1 = tx) :
    ((s.own tx).filter fun r => decide (r.tenantId = c)) = s.pendingOf c := by
  rw [own_filter, pendingOf, filter_eq_self.2]
  intro p hp
  obtain ⟨hp, hc⟩ := mem_filter.1 hp
  exact decide_eq_true (hall p hp (of_decide_eq_true hc))

lemma own_of_none (hnone : ∀ p ∈ s.pending, p.2.tenantId = c → p.1 ≠ tx) :
    ((s.own tx).filter fun r => decide (r.tenantId = c)) = [] := by
  rw [own_filter, filter_eq_nil_iff.2, map_nil]
  intro p hp htx
  obtain ⟨hp, hc⟩ := mem_filter.1 hp
  exact hnone p hp (of_decide_eq_true hc) (of_decide_eq_true htx)

lemma Sound.view_prefix (h : s.Sound E) (tx : Nat) (c : Option Nat) :
    ((s.view tx).filter fun r => decide (r.tenantId = c)) <+: s.committedOf c ++ s.pendingOf c := by
  rw [view, filter_append]
  rcases h.all_or_none tx c with hall | hnone
  · rw [own_of_all hall]
    exact prefix_rfl
  · rw [own_of_none hnone, append_nil]
    exact prefix_append _ _

lemma chainRows_of_initial {rows : List AuditLog} (h : s.Sound E)
    (hpre : (rows.filter fun r => decide (r.tenantId = c)) <+: s.committedOf c ++ s.pendingOf c) :
    chainRows rows c = rows.filter fun r => decide (r.tenantId = c) :=
  chainRows_eq ((h.ids c).sublist hpre.sublist)

lemma Sound.intact_of_prefix {rows : List AuditLog} (h : s.Sound E)
    (hpre : (rows.filter fun r => decide (r.tenantId = c)) <+: s.committedOf c ++ s.pendingOf c) :
    (checkChain E rows c).intact = true := by
  rw [checkChain, checkRows_intact, chainRows_of_initial h hpre]
  exact (h.valid c).of_initial hpre

/-! ### Steps -/

lemma seq_getLast {l : List AuditLog} (h : (layout E).Valid none 1 l) :
    (l.getLast?.map AuditLog.chainSeq).getD 0 = l.length := by
  induction l using reverseRecOn with
  | nil => rfl
  | append_singleton l x _ =>
    obtain ⟨_, hseq, _⟩ := Layout.valid_concat.1 h
    have hx : x.chainSeq = 1 + l.length := hseq
    rw [getLast?_concat, Option.map_some, Option.getD_some, hx, length_append, length_singleton]
    omega

lemma Sound.newEntry_valid (h : s.Sound E) {ctx : Context} {args : Args} {id : Nat} {now : Int}
    (hall : ∀ p ∈ s.pending, p.2.tenantId = args.chain ctx → p.1 = tx) :
    (layout E).Valid none 1 (s.committedOf (args.chain ctx) ++ s.pendingOf (args.chain ctx) ++
      [newEntry E (s.view tx) ctx args id now]) := by
  have hrows : chainRows (s.view tx) (args.chain ctx) =
      s.committedOf (args.chain ctx) ++ s.pendingOf (args.chain ctx) := by
    rw [chainRows_of_initial h (h.view_prefix tx _), view, filter_append, own_of_all hall]
    rfl
  refine Layout.valid_concat.2 ⟨h.valid _, ?_, ?_, rfl⟩
  · show ((chainRows (s.view tx) (args.chain ctx)).getLast?.map AuditLog.chainSeq).getD 0 + 1 = _
    rw [hrows, seq_getLast (h.valid _)]
    omega
  show (chainRows (s.view tx) (args.chain ctx)).getLast?.map AuditLog.hash = _
  rw [hrows, Layout.last_none]
  rfl

lemma Sound.record (h : s.Sound E) {ctx : Context} {args : Args} {id : Nat} {now : Int}
    (lock : s.lockFree E tx (args.chain ctx)) (fresh : s.idFree (args.chain ctx) id) :
    Sound E { s with pending := s.pending ++ [(tx, newEntry E (s.view tx) ctx args id now)] } := by
  have hall : ∀ p ∈ s.pending, p.2.tenantId = args.chain ctx → p.1 = tx := by
    intro p hp hc
    by_contra hne
    exact lock p hp hne (by rw [hc])
  have hpending : ∀ c, pendingOf { s with pending := s.pending ++ [(tx, newEntry E (s.view tx) ctx args id now)] } c =
      s.pendingOf c ++ if args.chain ctx = c then [newEntry E (s.view tx) ctx args id now] else [] := by
    intro c
    rw [pendingOf, filter_append, map_append]
    by_cases hc : args.chain ctx = c
    all_goals simp [pendingOf, newEntry, hc]
  refine ⟨fun c => ?_, fun c => ?_, ?_⟩
  · rw [hpending, ← append_assoc]
    by_cases hc : args.chain ctx = c
    · subst hc
      rw [if_pos rfl]
      exact h.newEntry_valid hall
    · rw [if_neg hc, append_nil]
      exact h.valid c
  · rw [hpending, ← append_assoc]
    by_cases hc : args.chain ctx = c
    · subst hc
      rw [if_pos rfl]
      refine pairwise_append.2 ⟨h.ids _, pairwise_singleton _ _, fun a ha b hb => ?_⟩
      obtain rfl := mem_singleton.1 hb
      rcases mem_append.1 ha with ha | ha
      · obtain ⟨ha, hc⟩ := mem_filter.1 ha
        exact fresh.1 a ha (of_decide_eq_true hc)
      obtain ⟨p, hp, rfl⟩ := List.mem_map.1 ha
      obtain ⟨hp, hc⟩ := mem_filter.1 hp
      exact fresh.2 p hp (of_decide_eq_true hc)
    · rw [if_neg hc, append_nil]
      exact h.ids c
  · intro p hp q hq hpq
    rcases mem_append.1 hp with hp | hp <;> rcases mem_append.1 hq with hq | hq
    · exact h.owner p hp q hq hpq
    · rw [mem_singleton.1 hq] at hpq ⊢
      exact hall p hp hpq
    · rw [mem_singleton.1 hp] at hpq ⊢
      exact (hall q hq hpq.symm).symm
    · rw [mem_singleton.1 hp, mem_singleton.1 hq]

lemma Sound.commit (h : s.Sound E) (tx : Nat) :
    Sound E ⟨s.committed ++ s.own tx, s.pending.filter fun p => decide (p.1 ≠ tx)⟩ := by
  have hsame : ∀ c, committedOf ⟨s.committed ++ s.own tx, s.pending.filter fun p => decide (p.1 ≠ tx)⟩ c ++
      pendingOf ⟨s.committed ++ s.own tx, s.pending.filter fun p => decide (p.1 ≠ tx)⟩ c =
      s.committedOf c ++ s.pendingOf c := by
    intro c
    have hmine : pendingOf ⟨s.committed ++ s.own tx, s.pending.filter fun p => decide (p.1 ≠ tx)⟩ c =
        ((s.pending.filter fun p => decide (p.2.tenantId = c)).filter fun p => decide (p.1 ≠ tx)).map Prod.snd := by
      rw [pendingOf, filter_comm]
    rw [hmine, committedOf, filter_append, append_assoc]
    refine congrArg (s.committedOf c ++ ·) ?_
    rcases h.all_or_none tx c with hall | hnone
    · rw [own_of_all hall, filter_eq_nil_iff.2, map_nil, append_nil]
      intro p hp hne
      obtain ⟨hp, hc⟩ := mem_filter.1 hp
      exact of_decide_eq_true hne (hall p hp (of_decide_eq_true hc))
    rw [own_of_none hnone, filter_eq_self.2, nil_append, pendingOf]
    intro p hp
    obtain ⟨hp, hc⟩ := mem_filter.1 hp
    exact decide_eq_true (hnone p hp (of_decide_eq_true hc))
  refine ⟨fun c => ?_, fun c => ?_, fun p hp q hq => ?_⟩
  · rw [hsame]
    exact h.valid c
  · rw [hsame]
    exact h.ids c
  · exact h.owner p (mem_of_mem_filter hp) q (mem_of_mem_filter hq)

lemma keepFirst_subset (tx keep : Nat) (ps : List (Nat × AuditLog)) : keepFirst tx keep ps ⊆ ps := by
  induction ps generalizing keep with
  | nil => exact Subset.refl _
  | cons p ps ih =>
    rw [keepFirst]
    split
    · exact cons_subset_cons p (ih keep)
    split
    · exact fun q hq => mem_cons_of_mem p (ih 0 hq)
    · exact cons_subset_cons p (ih (keep - 1))

variable {ps : List (Nat × AuditLog)}

lemma keepFirst_zero_ne {tx : Nat} {p : Nat × AuditLog} (h : p ∈ keepFirst tx 0 ps) : p.1 ≠ tx := by
  induction ps with
  | nil => cases h
  | cons q ps ih =>
    rw [keepFirst] at h
    split at h
    · next hne =>
      rcases mem_cons.1 h with rfl | h
      · exact hne
      · exact ih h
    · rw [if_pos rfl] at h
      exact ih h

lemma keepFirst_initial {tx keep : Nat} {c : Option Nat}
    (h : (∀ p ∈ ps, p.2.tenantId = c → p.1 = tx) ∨ ∀ p ∈ ps, p.2.tenantId = c → p.1 ≠ tx) :
    ((keepFirst tx keep ps).filter fun p => decide (p.2.tenantId = c)) <+:
      ps.filter fun p => decide (p.2.tenantId = c) := by
  induction ps generalizing keep with
  | nil => exact prefix_rfl
  | cons p ps ih =>
    have hrest : (∀ q ∈ ps, q.2.tenantId = c → q.1 = tx) ∨ ∀ q ∈ ps, q.2.tenantId = c → q.1 ≠ tx :=
      h.imp (fun h q hq => h q (mem_cons_of_mem _ hq)) fun h q hq => h q (mem_cons_of_mem _ hq)
    have hcons : ∀ k, ((p :: keepFirst tx k ps).filter fun p => decide (p.2.tenantId = c)) <+:
        (p :: ps).filter fun p => decide (p.2.tenantId = c) := by
      intro k
      by_cases hc : p.2.tenantId = c
      · rw [filter_cons_of_pos (by simpa using hc), filter_cons_of_pos (by simpa using hc)]
        exact prefix_cons_inj p |>.2 (ih hrest)
      · rw [filter_cons_of_neg (by simpa using hc), filter_cons_of_neg (by simpa using hc)]
        exact ih hrest
    rw [keepFirst]
    split
    · exact hcons keep
    next htx =>
    split
    · by_cases hc : p.2.tenantId = c
      · -- the chain is the transaction's, and none of its rows stays
        have hall := h.resolve_right fun hnone => htx (hnone p mem_cons_self hc)
        rw [filter_eq_nil_iff.2]
        · exact nil_prefix
        · intro q hq hqc
          exact keepFirst_zero_ne hq (hall q (mem_cons_of_mem _ (keepFirst_subset _ _ _ hq)) (of_decide_eq_true hqc))
      · rw [filter_cons_of_neg (by simpa using hc)]
        exact ih hrest
    · exact hcons (keep - 1)

lemma Sound.rollBack (h : s.Sound E) (tx keep : Nat) :
    Sound E { s with pending := keepFirst tx keep s.pending } := by
  have hpre : ∀ c, s.committedOf c ++ pendingOf { s with pending := keepFirst tx keep s.pending } c <+:
      s.committedOf c ++ s.pendingOf c := by
    intro c
    exact (prefix_append_right_inj _).2 ((keepFirst_initial (h.all_or_none tx c)).map Prod.snd)
  refine ⟨fun c => (h.valid c).of_initial (hpre c), fun c => (h.ids c).sublist (hpre c).sublist, fun p hp q hq => ?_⟩
  exact h.owner p (keepFirst_subset _ _ _ hp) q (keepFirst_subset _ _ _ hq)

lemma Sound.run {history : List Event} (hrun : Steps (Step E) {} history s) : s.Sound E := by
  refine hrun.preserves (Sound E) (fun t e u ht hstep => ?_) ?_
  · cases hstep with
    | recorded tx ctx args id now lock fresh => exact ht.record lock fresh
    | committed tx => exact ht.commit tx
    | rolledBack tx keep => exact ht.rollBack tx keep
  · exact ⟨fun _ => trivial, fun _ => .nil, fun p hp => absurd hp not_mem_nil⟩

end Ledger

/-! ## Digests -/

/-- The two entries have the same place in their chains and the same digested fields. -/
structure Agree (a b : AuditLog) : Prop where
  chainSeq : a.chainSeq = b.chainSeq
  prevHash : a.prevHash = b.prevHash
  hash : a.hash = b.hash
  tenantId : a.tenantId = b.tenantId
  userId : a.userId = b.userId
  actor : a.actor = b.actor
  action : a.action = b.action
  objectType : a.objectType = b.objectType
  objectId : a.objectId = b.objectId
  previous : a.previous.norm = b.previous.norm
  new : a.new.norm = b.new.norm
  ipAddress : a.ipAddress = b.ipAddress
  success : a.success = b.success
  createdAt : a.createdAt = b.createdAt

def digested (E : Env) (r : AuditLog) : Str := r.prevHash.getD [] ++ dumps (rowPayload E r)

section Digests

variable {E : Env}

lemma norm_optStr (o : Option Str) : (optStr o).norm = optStr o := by
  cases o <;> rw [optStr, Json.norm]

lemma optStr_injective {o o' : Option Str} (h : optStr o = optStr o') : o = o' := by
  cases o <;> cases o' <;> cases h <;> rfl

lemma rowPayload_norm (E : Env) (r : AuditLog) : (rowPayload E r).norm =
    .obj [("action".toList, .str r.action), ("actor".toList, optStr r.actor),
      ("created_at".toList, .str (E.isoformat r.createdAt)), ("ip".toList, optStr r.ipAddress),
      ("new".toList, r.new.norm), ("object_id".toList, optStr r.objectId), ("object_type".toList, optStr r.objectType),
      ("previous".toList, r.previous.norm), ("success".toList, .bool r.success),
      ("tenant_id".toList, optStr (r.tenantId.map E.uuidText)), ("user_id".toList, optStr (r.userId.map E.uuidText))] := by
  simp only [rowPayload, Json.norm, normFields, norm_optStr]
  rfl

lemma rowPayload_agree {a b : AuditLog} (h : (rowPayload E a).norm = (rowPayload E b).norm)
    (hseq : a.chainSeq = b.chainSeq) (hprev : a.prevHash = b.prevHash) (hhash : a.hash = b.hash) : Agree a b := by
  rw [rowPayload_norm, rowPayload_norm] at h
  simp only [Json.obj.injEq, cons.injEq, Prod.mk.injEq, Json.str.injEq, Json.bool.injEq, true_and, and_true] at h
  obtain ⟨haction, hactor, htime, hip, hnew, hoid, hotype, hprevious, hsuccess, htenant, huser⟩ := h
  exact ⟨hseq, hprev, hhash, Option.map_injective E.uuidText_injective (optStr_injective htenant),
    Option.map_injective E.uuidText_injective (optStr_injective huser), optStr_injective hactor, haction,
    optStr_injective hotype, optStr_injective hoid, hprevious, hnew, optStr_injective hip, hsuccess,
    E.isoformat_injective htime⟩

lemma dumps_rowPayload (E : Env) (r : AuditLog) : ∃ t, dumps (rowPayload E r) = '{' :: t := by
  rw [dumps, rowPayload_norm, render]
  exact ⟨_, rfl⟩

/-- The link and the content can be told apart: a link is empty or 64 hex digits, and the
content begins with a brace. -/
lemma digested_split {a b : AuditLog} (ha : a.prevHash = none ∨ ∃ s, a.prevHash = some (E.sha256 s))
    (hb : b.prevHash = none ∨ ∃ s, b.prevHash = some (E.sha256 s)) (h : digested E a = digested E b) :
    a.prevHash = b.prevHash ∧ (rowPayload E a).norm = (rowPayload E b).norm := by
  have hbrace : ∀ (s t r : Str), E.sha256 s ++ r ≠ '{' :: t := by
    intro s t r heq
    obtain ⟨hlength, hhex⟩ := E.sha256_hex s
    cases htext : E.sha256 s with
    | nil =>
      rw [htext] at hlength
      cases hlength
    | cons c cs =>
      rw [htext] at heq hhex
      obtain ⟨rfl, _⟩ := cons.inj heq
      have hc := hhex '{' mem_cons_self
      simp [isLowerHex] at hc
  obtain ⟨t, ht⟩ := dumps_rowPayload E a
  obtain ⟨t', ht'⟩ := dumps_rowPayload E b
  rw [digested, digested] at h
  rcases ha with ha | ⟨s, ha⟩ <;> rcases hb with hb | ⟨s', hb⟩ <;> rw [ha, hb] at h ⊢
  · exact ⟨rfl, dumps_injective h⟩
  · rw [ht] at h
    exact absurd h.symm (hbrace s' t _)
  · rw [ht'] at h
    exact absurd h (hbrace s t' _)
  have hlength : (E.sha256 s).length = (E.sha256 s').length := by rw [(E.sha256_hex s).1, (E.sha256_hex s').1]
  obtain ⟨hlink, hrest⟩ := append_inj h hlength
  exact ⟨congrArg some hlink, dumps_injective hrest⟩

lemma prevHash_cases {rows : List AuditLog} (h : (layout E).Valid none 1 rows) {r : AuditLog} (hr : r ∈ rows) :
    r.prevHash = none ∨ ∃ s, r.prevHash = some (E.sha256 s) := by
  rcases h.prev_cases hr with hnone | ⟨y, hy, hprev⟩
  · exact .inl hnone
  refine .inr ⟨digested E y, ?_⟩
  have hhash : digest E y.prevHash (rowPayload E y) = y.hash := h.hash_eq hy
  have hlink : r.prevHash = some y.hash := hprev
  rw [hlink, ← hhash]
  rfl

lemma agree_of_last {rows rows' : List AuditLog}
    (hinj : Set.InjOn E.sha256 {t | ∃ r ∈ rows ++ rows', t = digested E r})
    (h : (checkRows E none 1 rows).intact = true) (h' : (checkRows E none 1 rows').intact = true)
    (hlast : rows.getLast?.map AuditLog.hash = rows'.getLast?.map AuditLog.hash) :
    List.Forall₂ Agree rows rows' := by
  rw [checkRows_intact] at h h'
  have hsplit : ∀ a ∈ rows, ∀ b ∈ rows', digest E a.prevHash (rowPayload E a) = digest E b.prevHash (rowPayload E b) →
      a.prevHash = b.prevHash ∧ (rowPayload E a).norm = (rowPayload E b).norm := by
    intro a ha b hb heq
    have htext : digested E a = digested E b :=
      hinj ⟨a, mem_append_left _ ha, rfl⟩ ⟨b, mem_append_right _ hb, rfl⟩ heq
    exact digested_split (prevHash_cases h ha) (prevHash_cases h' hb) htext
  refine (h.unique h' hsplit hlast).imp fun a b hab => ?_
  obtain ⟨hseq, hprev, hhash, hpayload⟩ := hab
  exact rowPayload_agree hpayload hseq hprev hhash

end Digests

/-- **Audit chains are sound.**  Whatever transactions record, commit and roll back, every chain
passes the check, in the table and in the view of every transaction.  And two lists of rows that
pass and end with the same hash agree entry by entry on every digested field, if the hash does not
collide on what they digest. -/
theorem chain_sound (E : Env) :
    (∀ history s, Steps (Ledger.Step E) {} history s → ∀ chain, (checkChain E s.committed chain).intact = true ∧
      ∀ tx, (checkChain E (s.view tx) chain).intact = true) ∧
    ∀ rows rows' : List AuditLog, Set.InjOn E.sha256 {t | ∃ r ∈ rows ++ rows', t = digested E r} →
      (checkRows E none 1 rows).intact = true → (checkRows E none 1 rows').intact = true →
      rows.getLast?.map AuditLog.hash = rows'.getLast?.map AuditLog.hash → List.Forall₂ Agree rows rows' := by
  refine ⟨fun history s hrun chain => ?_, fun rows rows' hinj h h' hlast => agree_of_last hinj h h' hlast⟩
  have hsound := Ledger.Sound.run hrun
  exact ⟨hsound.intact_of_prefix (prefix_append _ _), fun tx => hsound.intact_of_prefix (hsound.view_prefix tx chain)⟩

/-! ## A short history -/

def smallEnv : Env where
  sha256 s := List.replicate 64 (if s.length % 2 = 0 then 'a' else 'b')
  sha256_hex s := by
    refine ⟨List.length_replicate, fun c hc => ?_⟩
    obtain rfl := List.eq_of_mem_replicate hc
    split <;> rfl
  uuidText := dec
  uuidText_injective _ _ := dec_injective
  isoformat := intText
  isoformat_injective _ _ := intText_injective
  hashtext _ := 0

def loginArgs : Args := { action := "auth.login".toList, tenantId := some 1 }

def firstEntry : AuditLog := newEntry smallEnv [] {} loginArgs 1 0

/-- An entry that is committed passes, and its copy with another id agrees with it. -/
theorem chain_sound_first : (∃ history s, Steps (Ledger.Step smallEnv) {} history s ∧ s.committed = [firstEntry] ∧
      (checkChain smallEnv s.committed (some 1)).intact = true) ∧
    List.Forall₂ Agree [firstEntry] [{ firstEntry with id := 7 }] := by
  refine ⟨⟨_, _, .cons (.recorded 1 {} loginArgs 1 0 ?_ ?_) (.single (.committed 1)), rfl, ?_⟩, ?_⟩
  · exact fun p hp => absurd hp not_mem_nil
  · exact ⟨fun r hr => absurd hr not_mem_nil, fun p hp => absurd hp not_mem_nil⟩
  · refine ((chain_sound smallEnv).1 _ _ (.cons (.recorded 1 {} loginArgs 1 0 ?_ ?_) (.single (.committed 1))) (some 1)).1
    · exact fun p hp => absurd hp not_mem_nil
    · exact ⟨fun r hr => absurd hr not_mem_nil, fun p hp => absurd hp not_mem_nil⟩
  refine (chain_sound smallEnv).2 _ _ ?_ (by decide +kernel) (by decide +kernel) rfl
  have hone : ∀ r ∈ [firstEntry] ++ [{ firstEntry with id := 7 }], digested smallEnv r = digested smallEnv firstEntry := by
    intro r hr
    rcases mem_cons.1 hr with rfl | hr
    · rfl
    · obtain rfl := mem_singleton.1 hr
      rfl
  rintro _ ⟨a, ha, rfl⟩ _ ⟨b, hb, rfl⟩ _
  rw [hone a ha, hone b hb]

end App.Audit
