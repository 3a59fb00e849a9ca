import AttackSurface.Assets.Statuses
import AttackSurface.Order.Sweeps

/-!
# Which context is kept

Technologies, certificates, networks and the like are kept when they are attached to something
of ours, directly or through other context.  `_compute_statuses` finds them in three sweeps over
the set of keys, in the order the set is walked.

`Attached` is what should be kept.  Three sweeps find all of it in every order, and the statuses
are then the same in every order, exactly when nothing is attached farther than three steps
away:

    the same statuses in every order, and kept = attached
      ↔  every attached context key is in the third layer             (contextKept_iff)
-/

namespace App.Assets

open PyText AsmSensors App.Scope Bool Function

variable {J : Type} (U : Unicode) (c : ScopeChecker) (existing : Statuses) (keys : List AKey)
  (links : List (Link J))

/-! ## What should be kept -/

variable (status : Statuses)

def kept : Set AKey := {k | anchored status k = true}

def KeptBefore (key : AKey) : Prop := key.1 ∈ contextTypes ∧ ∃ s, existing key = some s ∧ s ≠ .outOfScope

def AttachedTo (neighbour key : AKey) : Prop := key.1 ∈ contextTypes ∧
    ∃ l ∈ links, l.source = key ∧ l.target = neighbour ∨ l.target = key ∧ l.source = neighbour

/-- The key is kept by itself, was kept before, or is connected to such a key by relations through
context keys. -/
def Attached (key : AKey) : Prop :=
  Sweeps.Closure (KeptBefore existing) (AttachedTo links) (kept (baseStatus U c existing keys links)) key

/-- The key is attached by at most `n` relations through observed keys; what was kept before is one
step away. -/
def AttachedWithin (n : ℕ) (key : AKey) : Prop :=
  key ∈ Sweeps.layer (KeptBefore existing) (AttachedTo links) keys
    (kept (baseStatus U c existing keys links)) n

def contextRound (order : List AKey) (status : Statuses) : Statuses :=
  order.foldl (attachContext existing links) status

variable {U c existing keys links}

/-! ## A sweep -/

variable {key : AKey} {order : List AKey}

lemma nearAnchor_iff {status : Statuses} : nearAnchor links status key = true ↔
    ∃ m ∈ kept status, ∃ l ∈ links, l.source = key ∧ l.target = m ∨ l.target = key ∧ l.source = m := by
  simp only [nearAnchor, List.any_eq_true, or_eq_true, and_eq_true, beq_iff_eq]
  constructor
  · rintro ⟨l, hl, ⟨hs, ht⟩ | ⟨ht, hs⟩⟩
    · exact ⟨l.target, ht, l, hl, .inl ⟨hs, rfl⟩⟩
    · exact ⟨l.source, hs, l, hl, .inr ⟨ht, rfl⟩⟩
  rintro ⟨m, hm, l, hl, ⟨hs, rfl⟩ | ⟨ht, rfl⟩⟩
  · exact ⟨l, hl, .inl ⟨hs, hm⟩⟩
  · exact ⟨l, hl, .inr ⟨ht, hm⟩⟩

lemma attaches_iff {status : Statuses} : (decide (key.1 ∈ contextTypes) &&
      (nearAnchor links status key || (existing key).any (· != .outOfScope))) = true ↔
    KeptBefore existing key ∨ ∃ m ∈ kept status, AttachedTo links m key := by
  have hbefore : (existing key).any (· != .outOfScope) = true ↔ ∃ s, existing key = some s ∧ s ≠ .outOfScope := by
    cases existing key <;> simp
  rw [and_eq_true, decide_eq_true_eq, or_eq_true, hbefore, nearAnchor_iff]
  unfold KeptBefore AttachedTo
  constructor
  · rintro ⟨hctx, ⟨m, hm, h⟩ | h⟩
    · exact .inr ⟨m, hm, hctx, h⟩
    · exact .inl ⟨hctx, h⟩
  rintro (⟨hctx, h⟩ | ⟨m, hm, hctx, h⟩)
  · exact ⟨hctx, .inr h⟩
  · exact ⟨hctx, .inl ⟨m, hm, h⟩⟩

lemma kept_attachContext (key : AKey) : kept (attachContext existing links status key) =
      Sweeps.mark (KeptBefore existing) (AttachedTo links) (kept status) key := by
  ext k
  show anchored _ k = true ↔ anchored status k = true ∨ k = key ∧ _
  rw [← attaches_iff]
  unfold attachContext
  by_cases hk : k = key
  · subst hk
    by_cases ha : anchored status k = true
    · simp [ha]
    by_cases hat : (decide (k.1 ∈ contextTypes) &&
        (nearAnchor links status k || (existing k).any (· != .outOfScope))) = true
    · rw [if_pos (by rw [Bool.and_assoc, hat]; simp [ha])]
      simp [anchored, hat]
    · rw [if_neg (by rw [Bool.and_assoc]; simp [hat])]
      simp [hat]
  · split
    · simp [anchored, hk]
    · simp [hk]

section

variable (order : List AKey)

lemma kept_contextRound (status : Statuses) :
    kept (contextRound existing links order status) =
      Sweeps.sweep (KeptBefore existing) (AttachedTo links) order (kept status) := by
  induction order generalizing status with
  | nil => rfl
  | cons k order ih =>
    show kept (contextRound existing links order (attachContext existing links status k)) = _
    rw [ih, kept_attachContext]
    rfl

lemma kept_contextRounds (status : Statuses) (n : ℕ) :
    kept ((contextRound existing links order)^[n] status) =
      (Sweeps.sweep (KeptBefore existing) (AttachedTo links) order)^[n] (kept status) := by
  induction n with
  | zero => rfl
  | succ n ih => rw [iterate_succ_apply', iterate_succ_apply', kept_contextRound, ih]

/-! ## Statuses after some sweeps -/

def Raised (status status' : Statuses) : Prop :=
  ∀ k, status' k = status k ∨ anchored status k = false ∧ status' k = some .derived

lemma Raised.refl : Raised status status := fun _ => .inl rfl

lemma Raised.attachContext {base status : Statuses} (h : Raised base status) (key : AKey) :
    Raised base (attachContext existing links status key) := by
  intro k
  unfold App.Assets.attachContext
  split
  · next hcond =>
    by_cases hk : k = key
    · subst hk
      have hnot : anchored status k = false := by
        simp only [and_eq_true, not_eq_true'] at hcond
        exact hcond.1.1
      right
      refine ⟨?_, update_self _ _ _⟩
      rcases h k with heq | ⟨-, hder⟩
      · rwa [anchored, ← heq]
      · simp [anchored, hder] at hnot
    · rw [update_of_ne hk]
      exact h k
  · exact h k

lemma Raised.contextRound {base status : Statuses} (h : Raised base status) (order : List AKey) :
    Raised base (contextRound existing links order status) := by
  induction order generalizing status with
  | nil => exact h
  | cons k order ih => exact ih (h.attachContext k)

lemma Raised.contextRounds {base : Statuses} (order : List AKey) (n : ℕ) :
    Raised base ((App.Assets.contextRound existing links order)^[n] base) := by
  induction n with
  | zero => exact Raised.refl base
  | succ n ih =>
    rw [iterate_succ_apply']
    exact ih.contextRound order

lemma Raised.ext {base s s' : Statuses} (h : Raised base s) (h' : Raised base s') (hkept : kept s = kept s') :
    s = s' := by
  funext k
  have hk : anchored s k = true ↔ anchored s' k = true := Set.ext_iff.1 hkept k
  rcases h k with heq | ⟨hnot, hder⟩
  · rcases h' k with heq' | ⟨hnot', hder'⟩
    · rw [heq, heq']
    have hin : anchored s k = true := hk.2 (by simp [anchored, hder'])
    rw [anchored, heq] at hin
    rw [anchored, hin] at hnot'
    cases hnot'
  rcases h' k with heq' | ⟨-, hder'⟩
  · have hin : anchored s' k = true := hk.1 (by simp [anchored, hder])
    rw [anchored, heq'] at hin
    rw [anchored, hin] at hnot
    cases hnot
  · rw [hder, hder']

/-! ## All sweeps -/

lemma computeStatuses_eq :
    computeStatuses U c existing order links = order.foldl (dropNoise links)
      ((contextRound existing links order)^[3] (baseStatus U c existing order links)) := by
  rw [← baseStatus_eq]
  rfl

end

lemma anchored_computeStatuses (horder : order.Perm keys) (key : AKey) :
    anchored (computeStatuses U c existing order links) key = true ↔
      key ∈ (Sweeps.sweep (KeptBefore existing) (AttachedTo links) order)^[3]
        (kept (baseStatus U c existing keys links)) := by
  rw [computeStatuses_eq, anchored_dropNoise_foldl, baseStatus_congr (fun k => horder.mem_iff),
    ← kept_contextRounds]
  rfl

lemma attached_of_anchored (horder : order.Perm keys)
    (h : anchored (computeStatuses U c existing order links) key = true) :
    Attached U c existing keys links key :=
  Sweeps.sweeps_subset 3 key ((anchored_computeStatuses horder key).1 h)

lemma anchored_of_attachedWithin (horder : order.Perm keys) (h : AttachedWithin U c existing keys links 3 key) :
    anchored (computeStatuses U c existing order links) key = true := by
  rw [anchored_computeStatuses horder]
  refine Sweeps.layer_subset_sweeps 3 ?_
  rw [Sweeps.layer_congr fun k => horder.mem_iff]
  exact h

lemma mem_sweeps_iff_of_not_context {s : Set AKey} (h : ¬ (key ∈ order ∧ key.1 ∈ contextTypes)) (n : ℕ) :
    key ∈ (Sweeps.sweep (KeptBefore existing) (AttachedTo links) order)^[n] s ↔ key ∈ s := by
  have hsweep : ∀ (l : List AKey) (t : Set AKey), (∀ k ∈ l, k ∈ order) →
      (key ∈ Sweeps.sweep (KeptBefore existing) (AttachedTo links) l t ↔ key ∈ t) := by
    intro l
    induction l with
    | nil => exact fun t _ => Iff.rfl
    | cons k l ih =>
      intro t hl
      have hmark : key ∈ Sweeps.mark (KeptBefore existing) (AttachedTo links) t k ↔ key ∈ t := by
        constructor
        · rintro (hkey | ⟨rfl, hctx | ⟨m, -, hctx⟩⟩)
          · exact hkey
          all_goals exact absurd ⟨hl key List.mem_cons_self, hctx.1⟩ h
        · exact fun hkey => .inl hkey
      exact (ih _ fun x hx => hl x (List.mem_cons_of_mem k hx)).trans hmark
  induction n with
  | zero => rfl
  | succ n ih =>
    rw [iterate_succ_apply']
    exact (hsweep order _ fun _ hk => hk).trans ih

lemma kept_eq_of_within (hwithin : ∀ k ∈ keys, k.1 ∈ contextTypes → Attached U c existing keys links k →
      AttachedWithin U c existing keys links 3 k) (horder : order.Perm keys) :
    (Sweeps.sweep (KeptBefore existing) (AttachedTo links) order)^[3] (kept (baseStatus U c existing keys links)) =
      (Sweeps.sweep (KeptBefore existing) (AttachedTo links) keys)^[3]
        (kept (baseStatus U c existing keys links)) := by
  ext k
  by_cases hk : k ∈ keys ∧ k.1 ∈ contextTypes
  · have hiff : ∀ {order : List AKey}, order.Perm keys →
        (anchored (computeStatuses U c existing order links) k = true ↔ Attached U c existing keys links k) :=
      fun horder => ⟨attached_of_anchored horder,
        fun h => anchored_of_attachedWithin horder (hwithin k hk.1 hk.2 h)⟩
    rw [← anchored_computeStatuses horder, ← anchored_computeStatuses (List.Perm.refl keys), hiff horder,
      hiff (List.Perm.refl keys)]
  · have hk' : ¬ (k ∈ order ∧ k.1 ∈ contextTypes) := by rwa [horder.mem_iff]
    rw [mem_sweeps_iff_of_not_context hk', mem_sweeps_iff_of_not_context hk]

/-- **Which context is kept.**  In every order of the keys the statuses are the same and a context
key is kept when it is attached to something of ours, exactly when every attached context key is
attached within three steps. -/
theorem contextKept_iff (U : Unicode) (c : ScopeChecker) (existing : Statuses) (keys : List AKey)
    (links : List (Link J)) :
    (∀ order : List AKey, order.Perm keys →
      computeStatuses U c existing order links = computeStatuses U c existing keys links ∧
      ∀ k ∈ keys, k.1 ∈ contextTypes → (anchored (computeStatuses U c existing order links) k = true ↔
          Attached U c existing keys links k)) ↔
    ∀ k ∈ keys, k.1 ∈ contextTypes → Attached U c existing keys links k →
      AttachedWithin U c existing keys links 3 k := by
  constructor
  · -- the slowest order keeps what is within three steps only
    intro h k hk hctx hatt
    obtain ⟨order, horder, hslow⟩ := Sweeps.exists_slow_order (KeptBefore existing) (AttachedTo links) keys
      (kept (baseStatus U c existing keys links))
    obtain ⟨-, hiff⟩ := h order horder
    exact hslow 3 ((anchored_computeStatuses horder k).1 ((hiff k hk hctx).2 hatt))
  intro hwithin order horder
  refine ⟨?_, fun k hk hctx => ⟨attached_of_anchored horder,
    fun h => anchored_of_attachedWithin horder (hwithin k hk hctx h)⟩⟩
  have hbase : baseStatus U c existing order links = baseStatus U c existing keys links :=
    baseStatus_congr (fun k => horder.mem_iff) links
  have hrounds : (contextRound existing links order)^[3] (baseStatus U c existing keys links) =
      (contextRound existing links keys)^[3] (baseStatus U c existing keys links) := by
    refine (Raised.contextRounds order 3).ext (Raised.contextRounds keys 3) ?_
    rw [kept_contextRounds, kept_contextRounds, kept_eq_of_within hwithin horder]
  rw [computeStatuses_eq, computeStatuses_eq, hbase, hrounds, dropNoise_foldl, dropNoise_foldl]
  funext k
  simp only [horder.mem_iff]

/-! ## A chain of four -/

def oneDomain : ScopeChecker where
  rules := [{ id := none, entryType := .domain, value := "example.com".toList }]
  allowNonPublic := false
  nets := []
  nets_eq := rfl

def chainKeys : List AKey :=
  [(.rootDomain, "example.com".toList), (.cloudResource, "aws:s3:www".toList), (.asn, "AS64500".toList),
    (.dnsRecord, "mx 10 mail".toList), (.technology, "nginx".toList)]

def chainLinks : List (Link Unit) := (chainKeys.zip chainKeys.tail).map fun p => ⟨p.1, .relatedTo, p.2, []⟩

/-- Walked from the name on, the whole chain is kept; walked from its end on, the last key is
dropped. -/
theorem chain_order_matters :
    anchored (computeStatuses asciiUnicode oneDomain (fun _ => none) chainKeys chainLinks)
      (.technology, "nginx".toList) = true ∧
    anchored (computeStatuses asciiUnicode oneDomain (fun _ => none) chainKeys.reverse chainLinks)
      (.technology, "nginx".toList) = false ∧
    ¬ ∀ order : List AKey, order.Perm chainKeys →
      computeStatuses asciiUnicode oneDomain (fun _ => none) order chainLinks =
        computeStatuses asciiUnicode oneDomain (fun _ => none) chainKeys chainLinks ∧
      ∀ k ∈ chainKeys, k.1 ∈ contextTypes →
        (anchored (computeStatuses asciiUnicode oneDomain (fun _ => none) order chainLinks) k = true ↔
          Attached asciiUnicode oneDomain (fun _ => none) chainKeys chainLinks k) := by
  have hforward : anchored (computeStatuses asciiUnicode oneDomain (fun _ => none) chainKeys chainLinks)
      (.technology, "nginx".toList) = true := by decide +kernel
  have hbackward : anchored (computeStatuses asciiUnicode oneDomain (fun _ => none) chainKeys.reverse chainLinks)
      (.technology, "nginx".toList) = false := by decide +kernel
  refine ⟨hforward, hbackward, fun h => ?_⟩
  rw [(h chainKeys.reverse chainKeys.reverse_perm).1, hforward] at hbackward
  cases hbackward

end App.Assets
