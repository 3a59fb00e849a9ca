import AttackSurface.Assets.Observing

/-!
# What the loops of `_compute_statuses` compute

The first three loops give every observed key a status: its own, that of an address that
something of ours leads to, and that of a host for what runs on it.  They are loops over a set
and over a list, but what they leave can be said directly (`baseStatus`), and so it does not
depend on an order.  The last loop drops third-party noise (`dropNoise_foldl`).
-/

namespace App.Assets

open PyText PyNet AsmSensors App.Scans App.Scope List Function

variable {J : Type} (U : Unicode) (c : ScopeChecker) (existing : Statuses) (keys : List AKey)

def observedStatus (key : AKey) : Option ScopeStatus :=
  if key ∈ keys then ownStatus U c existing (fun _ => none) key else none

/-- The link leads from something of ours: a name in scope resolves to its target, or an endpoint of
a host in scope is hosted there. -/
def justifies (l : Link J) : Bool :=
  decide (l.relation = .resolvesTo ∧ observedStatus U c existing keys l.source = some .inScope ∨
    l.relation = .hostedOn ∧ l.source.1 = .httpEndpoint ∧ endpointHost U l.source.2 ≠ [] ∧
      hostStatus U c existing (observedStatus U c existing keys) (endpointHost U l.source.2) = .inScope)

/-- An address that the rules do not name, and do not exclude, is derived when a link justifies it. -/
def derivedStatus (links : List (Link J)) (key : AKey) : Option ScopeStatus :=
  if key.1 = .ipAddress ∧ observedStatus U c existing keys key = some .outOfScope ∧
      c.isExcludedIp key.2 = false ∧
      (links.any fun l => decide (l.target = key) && justifies U c existing keys l) = true then
    some .derived
  else observedStatus U c existing keys key

def baseStatus (links : List (Link J)) (key : AKey) : Option ScopeStatus :=
  if key ∈ keys then
    match key.1 with
    | .port | .service =>
      (parsePortValue U key.2).map fun p => ipStatus c existing (derivedStatus U c existing keys links) p.1
    | .httpEndpoint =>
      if endpointHost U key.2 = [] then none
      else some (hostStatus U c existing (derivedStatus U c existing keys links) (endpointHost U key.2))
    | _ => derivedStatus U c existing keys links key
  else none

variable {U c existing} {keys : List AKey} {links : List (Link J)}

/-! ## The first loop -/

variable {s s' : Statuses} {key : AKey} {status : Statuses}

lemma ownStatus_congr (h : key.1 = .ipAddress → s key = s' key) :
    ownStatus U c existing s key = ownStatus U c existing s' key := by
  obtain ⟨t, v⟩ := key
  cases t with
  | ipAddress =>
    have heq : s (.ipAddress, v) = s' (.ipAddress, v) := h rfl
    simp [ownStatus, ipStatus, heq]
  | _ => rfl

lemma ownStatus_again {s : Statuses} (h : s key = ownStatus U c existing (fun _ => none) key) :
    ownStatus U c existing s key = ownStatus U c existing (fun _ => none) key := by
  obtain ⟨t, v⟩ := key
  cases t with
  | ipAddress =>
    have heq : s (.ipAddress, v) = some (ipStatus c existing (fun _ => none) v) := h
    show some (ipStatus c existing s v) = some (ipStatus c existing (fun _ => none) v)
    rw [Option.some_inj]
    conv_lhs => unfold ipStatus
    rw [heq]
  | _ => rfl

lemma ownStatus_foldl (keys seen : List AKey) :
    keys.foldl (fun s k => Function.update s k (ownStatus U c existing s k))
      (observedStatus U c existing seen) = observedStatus U c existing (seen ++ keys) := by
  induction keys generalizing seen with
  | nil => rw [append_nil]; rfl
  | cons key keys ih =>
    have hown : ownStatus U c existing (observedStatus U c existing seen) key =
        ownStatus U c existing (fun _ => none) key := by
      by_cases hk : key ∈ seen
      · exact ownStatus_again (if_pos hk)
      · exact ownStatus_congr fun _ => if_neg hk
    have hstep : update (observedStatus U c existing seen) key
        (ownStatus U c existing (observedStatus U c existing seen) key) =
        observedStatus U c existing (seen ++ [key]) := by
      rw [hown]
      funext k
      by_cases hk : k = key
      · subst hk
        simp [observedStatus]
      · simp [observedStatus, hk]
    rw [foldl_cons, hstep, ih, append_assoc, singleton_append]

/-! ## The second loop -/

lemma derivedStatus_inScope : derivedStatus U c existing keys links key = some .inScope ↔
      observedStatus U c existing keys key = some .inScope := by
  unfold derivedStatus
  split
  · next h => simp [h.2.1]
  · rfl

lemma derivedStatus_none :
    derivedStatus U c existing keys links key = none ↔ observedStatus U c existing keys key = none := by
  unfold derivedStatus
  split
  · next h => simp [h.2.1]
  · rfl

lemma hostStatus_inScope {host : Str} :
    hostStatus U c existing (derivedStatus U c existing keys links) host = .inScope ↔
      hostStatus U c existing (observedStatus U c existing keys) host = .inScope := by
  have hip : ipStatus c existing (derivedStatus U c existing keys links) host = .inScope ↔
      ipStatus c existing (observedStatus U c existing keys) host = .inScope := by
    have hin : derivedStatus U c existing keys links (.ipAddress, host) = some .inScope ↔
      observedStatus U c existing keys (.ipAddress, host) = some .inScope := derivedStatus_inScope
    have hnone : derivedStatus U c existing keys links (.ipAddress, host) = none ↔
      observedStatus U c existing keys (.ipAddress, host) = none := derivedStatus_none
    unfold ipStatus
    cases h1 : derivedStatus U c existing keys links (.ipAddress, host) with
    | none => rw [hnone.1 h1]
    | some s =>
      cases h2 : observedStatus U c existing keys (.ipAddress, host) with
      | none => rw [hnone.2 h2] at h1; cases h1
      | some s' => simpa [h1, h2] using hin
  unfold hostStatus
  split
  · exact hip
  · rfl

lemma deriveTarget_eq (status : Statuses) (l : Link J) : deriveTarget U c existing status l =
      if (l.target.1 = .ipAddress ∧ status l.target = some .outOfScope ∧ c.isExcludedIp l.target.2 = false) ∧
        (l.relation = .resolvesTo ∧ status l.source = some .inScope ∨
          l.relation = .hostedOn ∧ l.source.1 = .httpEndpoint ∧ endpointHost U l.source.2 ≠ [] ∧
            hostStatus U c existing status (endpointHost U l.source.2) = .inScope) then
        Function.update status l.target (some .derived)
      else status := by
  unfold deriveTarget
  by_cases h1 : l.target.1 = .ipAddress ∧ status l.target = some .outOfScope ∧
      c.isExcludedIp l.target.2 = false
  · rw [if_pos h1]
    split
    · next h2 => rw [if_pos ⟨h1, .inl h2⟩]
    next h2 =>
    split
    · next h3 => rw [if_pos ⟨h1, .inr h3⟩]
    · next h3 => rw [if_neg fun h => h.2.elim h2 h3]
  · rw [if_neg h1, if_neg fun h => h1 h.1]

lemma deriveTarget_step (links : List (Link J)) (l : Link J) :
    deriveTarget U c existing (derivedStatus U c existing keys links) l =
      derivedStatus U c existing keys (links ++ [l]) := by
  have hjust : (l.relation = .resolvesTo ∧ derivedStatus U c existing keys links l.source = some .inScope ∨
      l.relation = .hostedOn ∧ l.source.1 = .httpEndpoint ∧ endpointHost U l.source.2 ≠ [] ∧
        hostStatus U c existing (derivedStatus U c existing keys links) (endpointHost U l.source.2) =
          .inScope) ↔ justifies U c existing keys l = true := by
    rw [justifies, decide_eq_true_eq, derivedStatus_inScope, hostStatus_inScope]
  rw [deriveTarget_eq]
  simp only [hjust]
  funext k
  by_cases hk : l.target = k
  · subst hk
    have hany : ((links ++ [l]).any fun l' => decide (l'.target = l.target) && justifies U c existing keys l') =
        ((links.any fun l' => decide (l'.target = l.target) && justifies U c existing keys l') ||
          justifies U c existing keys l) := by simp
    by_cases hout : l.target.1 = .ipAddress ∧ observedStatus U c existing keys l.target = some .outOfScope ∧
        c.isExcludedIp l.target.2 = false
    · obtain ⟨hip, hown, hexc⟩ := hout
      have hbefore : derivedStatus U c existing keys links l.target =
          if (links.any fun l' => decide (l'.target = l.target) && justifies U c existing keys l') = true then
            some .derived else some .outOfScope := by
        simp [derivedStatus, hip, hown, hexc]
      have hafter : derivedStatus U c existing keys (links ++ [l]) l.target =
          if (links.any fun l' => decide (l'.target = l.target) && justifies U c existing keys l') = true ∨
            justifies U c existing keys l = true then some .derived else some .outOfScope := by
        simp [derivedStatus, hip, hown, hexc, hany]
      rw [hafter]
      -- the address was derived before, or this link decides
      by_cases hb : (links.any fun l' => decide (l'.target = l.target) && justifies U c existing keys l') = true
      · rw [if_pos hb] at hbefore
        simp [hb, hbefore]
      rw [if_neg hb] at hbefore
      by_cases hj : justifies U c existing keys l = true
      · simp [hj, hbefore, hip, hexc]
      · simp [hb, hj, hbefore]
    · have hsame : ∀ links : List (Link J), derivedStatus U c existing keys links l.target =
          observedStatus U c existing keys l.target := by
        intro links
        exact if_neg fun h => hout ⟨h.1, h.2.1, h.2.2.1⟩
      rw [hsame, hsame, if_neg fun h => hout h.1, hsame]
  · have hany : ((links ++ [l]).any fun l' => decide (l'.target = k) && justifies U c existing keys l') =
        links.any fun l' => decide (l'.target = k) && justifies U c existing keys l' := by simp [hk]
    have hrhs : derivedStatus U c existing keys (links ++ [l]) k = derivedStatus U c existing keys links k := by
      unfold derivedStatus
      rw [hany]
    rw [hrhs]
    split
    · rw [update_of_ne (Ne.symm hk)]
    · rfl

lemma deriveTarget_foldl (links done : List (Link J)) :
    links.foldl (deriveTarget U c existing) (derivedStatus U c existing keys done) =
      derivedStatus U c existing keys (done ++ links) := by
  induction links generalizing done with
  | nil => rw [append_nil]; rfl
  | cons l links ih => rw [foldl_cons, deriveTarget_step, ih, append_assoc, singleton_append]

lemma derivedStatus_nil :
    derivedStatus U c existing keys ([] : List (Link J)) = observedStatus U c existing keys := by
  funext k
  simp [derivedStatus]

/-! ## The third loop -/

lemma ipStatus_congr {ip : Str} (h : s (.ipAddress, ip) = s' (.ipAddress, ip)) :
    ipStatus c existing s ip = ipStatus c existing s' ip := by
  unfold ipStatus
  rw [h]

lemma hostStatus_congr {host : Str} (h : s (.ipAddress, host) = s' (.ipAddress, host)) :
    hostStatus U c existing s host = hostStatus U c existing s' host := by
  unfold hostStatus
  rw [ipStatus_congr h]

lemma inheritStatus_of_ne {key k : AKey} (h : k ≠ key) :
    inheritStatus U c existing status key k = status k := by
  obtain ⟨t, v⟩ := key
  cases t with
  | port | service | httpEndpoint => exact update_of_ne h _ _
  | _ => rfl

lemma inheritStatus_address {ip : Str} :
    inheritStatus U c existing status key (.ipAddress, ip) = status (.ipAddress, ip) := by
  by_cases h : (.ipAddress, ip) = key
  · subst h
    rfl
  · exact inheritStatus_of_ne h

lemma inheritStatus_congr (hip : ∀ ip, s (.ipAddress, ip) = s' (.ipAddress, ip)) (hkey : s key = s' key) :
    inheritStatus U c existing s key key = inheritStatus U c existing s' key key := by
  obtain ⟨t, v⟩ := key
  cases t with
  | port | service => simp [inheritStatus, update_self, ipStatus_congr (hip _)]
  | httpEndpoint => simp [inheritStatus, update_self, hostStatus_congr (hip _)]
  | _ => exact hkey

lemma inheritStatus_again : inheritStatus U c existing (inheritStatus U c existing status key) key key =
      inheritStatus U c existing status key key := by
  obtain ⟨t, v⟩ := key
  cases t with
  | port | service =>
    simp only [inheritStatus, update_self]
    congr 1
  | httpEndpoint =>
    simp only [inheritStatus, update_self]
    congr 2
  | _ => rfl

section

variable (status : Statuses)

lemma inheritStatus_foldl (keys : List AKey) : keys.foldl (inheritStatus U c existing) status = fun key =>
      if key ∈ keys then inheritStatus U c existing status key key else status key := by
  induction keys generalizing status with
  | nil => simp
  | cons k keys ih =>
    rw [foldl_cons, ih]
    funext key
    by_cases hk : key = k
    · subst hk
      rw [if_pos mem_cons_self, inheritStatus_again, ite_self]
    have hsame : inheritStatus U c existing status k key = status key := inheritStatus_of_ne hk
    have hown : inheritStatus U c existing (inheritStatus U c existing status k) key key =
        inheritStatus U c existing status key key :=
      inheritStatus_congr (fun ip => inheritStatus_address) hsame
    simp [hk, hsame, hown]

/-- **The first three loops.** -/
theorem baseStatus_eq (keys : List AKey) (links : List (Link J)) : keys.foldl (inheritStatus U c existing)
      (links.foldl (deriveTarget U c existing)
        (keys.foldl (fun s k => Function.update s k (ownStatus U c existing s k)) fun _ => none)) =
      baseStatus U c existing keys links := by
  have hnil : (fun _ => none) = observedStatus U c existing [] := by
    funext k
    simp [observedStatus]
  rw [hnil, ownStatus_foldl, nil_append, ← derivedStatus_nil, deriveTarget_foldl, nil_append,
    inheritStatus_foldl]
  funext key
  unfold baseStatus
  by_cases hk : key ∈ keys
  · rw [if_pos hk, if_pos hk]
    obtain ⟨t, v⟩ := key
    cases t with
    | port | service | httpEndpoint => simp [inheritStatus, update_self]
    | _ => rfl
  · rw [if_neg hk, if_neg hk, derivedStatus_none]
    exact if_neg hk

lemma baseStatus_congr {keys' : List AKey} (h : ∀ k, k ∈ keys' ↔ k ∈ keys) (links : List (Link J)) :
    baseStatus U c existing keys' links = baseStatus U c existing keys links := by
  have hown : observedStatus U c existing keys' = observedStatus U c existing keys := by
    funext k
    simp [observedStatus, h]
  have hderived : derivedStatus U c existing keys' links = derivedStatus U c existing keys links := by
    unfold derivedStatus justifies
    rw [hown]
  funext k
  simp [baseStatus, h, hderived]

/-! ## The last loop -/

lemma anchored_dropNoise (key k : AKey) : anchored (dropNoise links status key) k = anchored status k := by
  unfold dropNoise
  split
  · next h =>
    by_cases hk : k = key
    · subst hk
      simp [anchored, h.1]
    · simp [anchored, update_of_ne hk]
  · rfl

lemma nearAnchor_congr (h : ∀ k, anchored s k = anchored s' k) (key : AKey) :
    nearAnchor links s key = nearAnchor links s' key := by
  simp [nearAnchor, h]

/-- **The last loop** drops the keys out of scope that nothing of ours is next to. -/
theorem dropNoise_foldl (keys : List AKey) : keys.foldl (dropNoise links) status = fun key =>
      if key ∈ keys ∧ status key = some .outOfScope ∧ nearAnchor links status key = false then none
      else status key := by
  induction keys generalizing status with
  | nil => simp
  | cons k keys ih =>
    rw [foldl_cons, ih]
    funext key
    have hnear : nearAnchor links (dropNoise links status k) key = nearAnchor links status key :=
      nearAnchor_congr (anchored_dropNoise status k) key
    by_cases hk : key = k
    · subst hk
      unfold dropNoise
      by_cases hdrop : status key = some .outOfScope ∧ nearAnchor links status key = false
      · simp [hdrop]
      · rw [if_neg hdrop, if_neg fun h => hdrop h.2, if_neg fun h => hdrop h.2]
    have hsame : dropNoise links status k key = status key := by
      unfold dropNoise
      split
      · exact update_of_ne hk _ _
      · rfl
    simp [hsame, hnear, hk]

lemma anchored_dropNoise_foldl (keys : List AKey) (key : AKey) :
    anchored (keys.foldl (dropNoise links) status) key = anchored status key := by
  induction keys generalizing status with
  | nil => rfl
  | cons k keys ih => rw [foldl_cons, ih, anchored_dropNoise]

end

end App.Assets
