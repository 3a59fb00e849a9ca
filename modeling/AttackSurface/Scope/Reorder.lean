import AttackSurface.Scope.Ranges

/-!
# The order of the scope entries

`load_checker` reads the entries without an order.  The `allowed` flag is the same for
every order of a set of entries exactly when equally specific entries do not disagree:

    (∀ c', Reordered c c' → the flag is the same)  ↔  ¬ Conflict c active df t   (check_order_iff)

Every order allows less than resolving all ties in favour of the target (`someTied`) and
more than resolving them against it (`everyTied`).  Both bounds are reached, by listing
the entries that pass the active test first or last (`ScopeChecker.prefer`).
-/

namespace App.Scope

open PyText PyNet AsmSensors StableSort List Option

/-! ## Definitions -/

def UniqueEntries (rules : List ScopeRule) : Prop :=
  (rules.map fun r => (r.entryType, r.value, r.isExclusion)).Nodup

def Reordered (c c' : ScopeChecker) : Prop := c'.rules.Perm c.rules ∧ SameSettings c c'

def mixedTied : Choice := fun _ key l ok =>
  (∃ x, MaxBy key l x ∧ ok x = true) ∧ ∃ x, MaxBy key l x ∧ ok x = false

section Conflict

variable (c : ScopeChecker) (active : Bool)

/-- The host is an address that would be allowed, but for entries that disagree. -/
def HostConflict (parentConflict : Prop) (host : Str) : Prop :=
  ∃ a, ipAddress host = some a ∧ AddressAllowed c active mixedTied parentConflict a

/-- **Entries that tie disagree on the active test** where nothing else refuses the target: the
entries around a network, the longest-prefix entries of an address, or those of a parent
when no other parent is allowed in every order. -/
def Conflict {U : Unicode} (df : DerivedFrom) (t : Target U) : Prop :=
  (t.kind = .cidr ∧ ∃ net, ipNetwork t.value = some net ∧ NetworkAllowed c active mixedTied net) ∨
  (t.kind ≠ .cidr ∧ ∃ host, t.host = .ok host ∧ HostConflict c active
      ((∃ q ∈ df host, HostConflict c active False q) ∧
        ¬ ∃ q ∈ df host, DirectAllowed c active everyTied q) host)

end Conflict

/-! ## Permuted entries -/

variable {α : Type} {key : α → Nat} {ok : α → Bool}

variable {l l' : List α} {nets : List (Network × ScopeRule)}

lemma maxBy_perm (h : l'.Perm l) {x : α} : MaxBy key l' x ↔ MaxBy key l x := by
  unfold MaxBy
  simp only [h.mem_iff]

lemma netsOf_perm {rs rs' : List ScopeRule} (h : rs.Perm rs')
    (hn : netsOf rs = some nets) : ∃ nets', netsOf rs' = some nets' ∧ nets'.Perm nets := by
  induction h generalizing nets with
  | nil => exact ⟨nets, hn, List.Perm.refl _⟩
  | @cons r l l' _ ih =>
    obtain ⟨m, n, hm, hn', rfl⟩ := (netsOf_append [r] _).1 hn
    obtain ⟨n', hn'', hp⟩ := ih hn'
    exact ⟨m ++ n', (netsOf_append [r] _).2 ⟨m, n', hm, hn'', rfl⟩, hp.append_left m⟩
  | swap r s l =>
    obtain ⟨m, n, hm, hn', rfl⟩ := (netsOf_append [s] _).1 hn
    obtain ⟨m', n', hm', hn'', rfl⟩ := (netsOf_append [r] _).1 hn'
    refine ⟨m' ++ (m ++ n'), ?_, ?_⟩
    · exact (netsOf_append [r] _).2
        ⟨m', m ++ n', hm', (netsOf_append [s] _).2 ⟨m, n', hm, hn'', rfl⟩, rfl⟩
    · rw [← append_assoc, ← append_assoc]
      exact perm_append_comm.append_right n'
  | trans _ _ ih1 ih2 =>
    obtain ⟨n1, h1, p1⟩ := ih1 hn
    obtain ⟨n2, h2, p2⟩ := ih2 h1
    exact ⟨n2, h2, p2.trans p1⟩

variable {c c' : ScopeChecker}

lemma Reordered.nets_perm (h : Reordered c c') : c'.nets.Perm c.nets := by
  obtain ⟨n, hn, hp⟩ := netsOf_perm h.1.symm c.nets_eq
  rw [c'.nets_eq, some.injEq] at hn
  rw [hn]
  exact hp

lemma Reordered.refl (c : ScopeChecker) : Reordered c c := ⟨List.Perm.refl _, rfl, rfl, rfl⟩

lemma Reordered.symm (h : Reordered c c') : Reordered c' c :=
  ⟨h.1.symm, h.2.1.symm, h.2.2.1.symm, h.2.2.2.symm⟩

lemma Reordered.grants (h : Reordered c c') (active : Bool) {choice choice' : Choice}
    (hc : ∀ (α : Type) (key : α → Nat) (l l' : List α) (ok : α → Bool), l'.Perm l →
      choice α key l ok → choice' α key l' ok) :
    Grants c c' active active choice choice' := by
  have hpass := passes_congr h.2 active
  refine ⟨fun r hr _ => h.1.mem_iff.1 hr, fun p hp _ => h.nets_perm.mem_iff.1 hp, ?_, ?_, ?_, ?_, id, ?_, ?_⟩
  · intro host hh
    rw [hpass]
    exact hc _ _ _ _ _ (h.1.filter _) hh
  · intro a hh
    rw [hpass]
    exact hc _ _ _ _ _ (h.nets_perm.filter _) hh
  · intro a hnil
    have hp : (inclusionNets c' a).Perm (inclusionNets c a) := h.nets_perm.filter _
    rw [hnil] at hp
    exact hp.eq_nil
  · intro net hh
    rw [hpass]
    exact hc _ _ _ _ _ (h.nets_perm.filter _) hh
  · intro hd
    rw [h.2.2.1]
    exact hd
  · intro hd
    rw [h.2.2.2]
    exact hd

lemma everyTied_perm (hp : l'.Perm l) (h : everyTied α key l ok) : firstListed α key l' ok := by
  apply firstListed_of_everyTied
  unfold everyTied at h ⊢
  simpa only [maxBy_perm hp] using h

lemma someTied_perm (hp : l'.Perm l) (h : firstListed α key l ok) : someTied α key l' ok := by
  have := someTied_of_firstListed h
  unfold someTied at this ⊢
  simpa only [maxBy_perm hp] using this

lemma Reordered.upper (h : Reordered c c') (active : Bool) : Grants c c' active active firstListed someTied :=
  h.grants active fun _ _ _ _ _ hp hc => someTied_perm hp hc

lemma Reordered.lower (h : Reordered c c') (active : Bool) : Grants c c' active active everyTied firstListed :=
  h.grants active fun _ _ _ _ _ hp hc => everyTied_perm hp hc

/-! ## The two extreme orders -/

lemma netsOf_filter (p : ScopeRule → Bool) {rs : List ScopeRule}
    (h : netsOf rs = some nets) : netsOf (rs.filter p) = some (nets.filter fun n => p n.2) := by
  induction rs generalizing nets with
  | nil =>
    simp only [netsOf, some.injEq] at h
    rw [← h]
    rfl
  | cons r rs ih =>
    obtain ⟨m, n, hm, hn, rfl⟩ := (netsOf_append [r] _).1 h
    have hmr : ∀ k ∈ m, k.2 = r := fun k hk => mem_singleton.1 ((mem_netsOf hm).1 hk).1
    rw [filter_append, filter_cons]
    split
    · next hp =>
      have hm' : m.filter (fun n => p n.2) = m := filter_eq_self.2 fun k hk => by rw [hmr k hk]; exact hp
      rw [hm']
      exact (netsOf_append [r] _).2 ⟨m, _, hm, ih hn, rfl⟩
    · next hp =>
      have hm' : m.filter (fun n => p n.2) = [] := filter_eq_nil_iff.2 fun k hk => by rw [hmr k hk]; exact hp
      rw [hm', nil_append]
      exact ih hn

/-- The same checker with the entries that satisfy `p` listed first. -/
def ScopeChecker.prefer (c : ScopeChecker) (p : ScopeRule → Bool) : ScopeChecker :=
  { c with
    rules := preferring p c.rules
    nets := preferring (fun n => p n.2) c.nets
    nets_eq := (netsOf_append _ _).2
      ⟨_, _, netsOf_filter p c.nets_eq, netsOf_filter (fun r => !p r) c.nets_eq, rfl⟩ }

lemma reordered_prefer (c : ScopeChecker) (p : ScopeRule → Bool) : Reordered c (c.prefer p) :=
  ⟨preferring_perm p c.rules, rfl, rfl, rfl⟩

section Prefer

variable (c : ScopeChecker) (active : Bool) (p : ScopeRule → Bool)

lemma inclusionDomains_prefer (host : Str) :
    inclusionDomains (c.prefer p) host = preferring p (inclusionDomains c host) :=
  filter_preferring p _ c.rules

lemma inclusionNets_prefer (a : Address) :
    inclusionNets (c.prefer p) a = preferring (fun n => p n.2) (inclusionNets c a) :=
  filter_preferring _ _ c.nets

lemma supernets_prefer (net : Network) :
    supernets (c.prefer p) net = preferring (fun n => p n.2) (supernets c net) :=
  filter_preferring _ _ c.nets

lemma preferring_eq_nil {α : Type} {q : α → Bool} {l : List α} (h : preferring q l = []) : l = [] := by
  have hp := preferring_perm q l
  rw [h] at hp
  exact hp.symm.eq_nil

lemma firstListed_preferring {α : Type} {key : α → Nat} {l : List α} {ok : α → Bool}
    (h : someTied α key l ok) : firstListed α key (preferring ok l) ok := by
  obtain ⟨y, hy, hok⟩ := h
  have hne : preferring ok l ≠ [] := by
    intro he
    have := hy.1
    rw [preferring_eq_nil he] at this
    cases this
  obtain ⟨x, hx⟩ : ∃ x, FirstMax key (preferring ok l) x := exists_firstMax hne
  exact ⟨x, hx, firstMax_preferring hy hok hx⟩

lemma everyTied_of_preferring {α : Type} {key : α → Nat} {l : List α} {ok : α → Bool}
    (h : firstListed α key (preferring (fun x => !ok x) l) ok) : everyTied α key l ok := by
  obtain ⟨x, hx, hok⟩ := h
  refine ⟨⟨x, (maxBy_perm (preferring_perm _ l)).1 hx.maxBy⟩, fun y hy => ?_⟩
  by_contra hno
  have := firstMax_preferring hy (by simpa using hno) hx
  rw [hok] at this
  cases this

/-- The order in which passing entries come first allows all that some order could. -/
lemma grants_prefer_passing : Grants c (c.prefer (passes c active)) active active someTied firstListed := by
  have hpass : passes (c.prefer (passes c active)) active = passes c active := rfl
  refine ⟨fun r hr _ => (preferring_perm _ _).mem_iff.1 hr,
    fun n hn _ => (preferring_perm _ _).mem_iff.1 hn, ?_, ?_, ?_, ?_, id, id, id⟩
  · intro host h
    rw [inclusionDomains_prefer, hpass]
    exact firstListed_preferring h
  · intro a h
    rw [inclusionNets_prefer, hpass]
    exact firstListed_preferring h
  · intro a h
    rw [inclusionNets_prefer, h]
    rfl
  · intro net h
    rw [supernets_prefer, hpass]
    exact firstListed_preferring h

/-- The order in which failing entries come first allows only what every order does. -/
lemma grants_prefer_failing :
    Grants (c.prefer fun r => !passes c active r) c active active firstListed everyTied := by
  have hpass : passes (c.prefer fun r => !passes c active r) active = passes c active := rfl
  refine ⟨fun r hr _ => (preferring_perm _ _).mem_iff.2 hr,
    fun n hn _ => (preferring_perm _ _).mem_iff.2 hn, ?_, ?_, ?_, ?_, id, id, id⟩
  · intro host h
    rw [inclusionDomains_prefer, hpass] at h
    exact everyTied_of_preferring h
  · intro a h
    rw [inclusionNets_prefer, hpass] at h
    exact everyTied_of_preferring h
  · intro a h
    rw [inclusionNets_prefer] at h
    exact preferring_eq_nil h
  · intro net h
    rw [supernets_prefer, hpass] at h
    exact everyTied_of_preferring h

/-- **The flag is the same for every order exactly when the two bounds agree.** -/
theorem order_free_iff {U : Unicode} (df : DerivedFrom) (t : Target U) :
    (∀ c', Reordered c c' → isAllowed (c'.check t active df) = isAllowed (c.check t active df)) ↔
      (Allowed c active someTied df t → Allowed c active everyTied df t) := by
  constructor
  · intro h hs
    have h1 := h _ (reordered_prefer c (passes c active))
    have h2 := h _ (reordered_prefer c fun r => !passes c active r)
    rw [check_iff.2 (hs.mono (grants_prefer_passing c active)), ← h2] at h1
    exact (check_iff.1 h1.symm).mono (grants_prefer_failing c active)
  intro h c' hr
  rw [Bool.eq_iff_iff, check_iff, check_iff]
  constructor
  · intro ha
    exact (h (ha.mono (hr.symm.upper active))).mono ((Reordered.refl c).lower active)
  · intro ha
    exact (h (ha.mono ((Reordered.refl c).upper active))).mono (hr.lower active)

end Prefer

/-! ## Ties -/

lemma mixedTied_iff {l : List α} : mixedTied α key l ok ↔ someTied α key l ok ∧ ¬ everyTied α key l ok := by
  constructor
  · rintro ⟨hs, x, hx, hno⟩
    refine ⟨hs, fun he => ?_⟩
    rw [he.2 x hx] at hno
    cases hno
  rintro ⟨hs, hne⟩
  refine ⟨hs, ?_⟩
  by_contra hall
  push Not at hall
  obtain ⟨x, hx, -⟩ := hs
  exact hne ⟨⟨x, hx⟩, fun y hy => by simpa using hall y hy⟩

lemma someTied_nil : ¬ someTied α key [] ok := by
  rintro ⟨x, hx, -⟩
  exact absurd hx.1 (by simp)

lemma domainMatches_value {host : Str} {r s : ScopeRule} (hr : domainMatches host r = true)
    (hs : domainMatches host s = true) (hlen : r.value.length = s.value.length) :
    r.value = s.value := by
  have hsuf : ∀ q : ScopeRule, domainMatches host q = true → q.value <:+ host := by
    intro q hq
    simp only [domainMatches, Bool.and_eq_true, Bool.or_eq_true, beq_iff_eq] at hq
    rcases hq.2 with h | ⟨-, h⟩
    · rw [h]
    · exact (suffix_cons '.' q.value).trans (isSuffixOf_iff_suffix.1 h)
  exact (suffix_of_suffix_length_le (hsuf r hr) (hsuf s hs) (by omega)).eq_of_length hlen

lemma networkConflict_iff (c : ScopeChecker) (active : Bool) (net : Network) :
    NetworkAllowed c active mixedTied net ↔
      NetworkAllowed c active someTied net ∧ ¬ NetworkAllowed c active everyTied net := by
  unfold NetworkAllowed
  rw [mixedTied_iff]
  tauto

section Unique

variable {c : ScopeChecker} (hu : UniqueEntries c.rules) (active : Bool)
include hu

lemma everyTied_domains {host : Str}
    (h : someTied _ (fun r => r.value.length) (inclusionDomains c host) (passes c active)) :
    everyTied _ (fun r => r.value.length) (inclusionDomains c host) (passes c active) := by
  obtain ⟨x, hx, hok⟩ := h
  refine ⟨⟨x, hx⟩, fun y hy => ?_⟩
  have hmx := mem_filter.1 hx.1
  have hmy := mem_filter.1 hy.1
  simp only [Bool.and_eq_true, beq_iff_eq] at hmx hmy
  have hlen : x.value.length = y.value.length := by
    have h1 : y.value.length ≤ x.value.length := hx.2 y hy.1
    have h2 : x.value.length ≤ y.value.length := hy.2 x hx.1
    omega
  have hval := domainMatches_value hmx.2.2 hmy.2.2 hlen
  have htype : ∀ r, domainMatches host r = true → r.entryType = .domain := by
    intro r hr
    simp only [domainMatches, Bool.and_eq_true, beq_iff_eq] at hr
    exact hr.1
  have hxy : x = y := by
    apply inj_on_of_nodup_map hu hmx.1 hmy.1
    rw [hval, htype x hmx.2.2, htype y hmy.2.2, hmx.2.1, hmy.2.1]
  rw [← hxy]
  exact hok

lemma hostConflict_iff {Ps Pe Pc : Prop} (hP : Pc ↔ Ps ∧ ¬ Pe) (host : Str) : HostConflict c active Pc host ↔
      HostAllowed c active someTied Ps host ∧ ¬ HostAllowed c active everyTied Pe host := by
  unfold HostConflict HostAllowed
  cases ha : ipAddress host with
  | none =>
    simp only [reduceCtorEq, false_and, exists_false, true_and, or_false, false_iff, not_and, not_not]
    rintro ⟨hex, hinc⟩
    exact ⟨hex, everyTied_domains hu active hinc⟩
  | some a =>
    simp only [some.injEq, exists_eq_left', reduceCtorEq, false_and, false_or]
    unfold AddressAllowed
    rw [mixedTied_iff, hP]
    by_cases hnil : inclusionNets c a = []
    · have h1 : ¬ someTied _ (fun p : Network × ScopeRule => p.1.prefixlen) []
          (fun p => passes c active p.2) := someTied_nil
      have h2 : ¬ everyTied _ (fun p : Network × ScopeRule => p.1.prefixlen) []
          (fun p => passes c active p.2) := by
        rintro ⟨⟨x, hx⟩, -⟩
        exact absurd hx.1 (by simp)
      rw [hnil]
      tauto
    · tauto

lemma conflict_iff {U : Unicode} (df : DerivedFrom) (t : Target U) :
    Conflict c active df t ↔ Allowed c active someTied df t ∧ ¬ Allowed c active everyTied df t := by
  have hdirect : ∀ q, HostConflict c active False q ↔
      DirectAllowed c active someTied q ∧ ¬ DirectAllowed c active everyTied q :=
    hostConflict_iff hu active (by simp)
  have hparents : ∀ host, ((∃ q ∈ df host, HostConflict c active False q) ∧
      ¬ ∃ q ∈ df host, DirectAllowed c active everyTied q) ↔
      (∃ q ∈ df host, DirectAllowed c active someTied q) ∧
        ¬ ∃ q ∈ df host, DirectAllowed c active everyTied q := by
    intro host
    constructor
    · rintro ⟨⟨q, hq, hc⟩, hno⟩
      exact ⟨⟨q, hq, ((hdirect q).1 hc).1⟩, hno⟩
    · rintro ⟨⟨q, hq, hs⟩, hno⟩
      exact ⟨⟨q, hq, (hdirect q).2 ⟨hs, fun he => hno ⟨q, hq, he⟩⟩⟩, hno⟩
  unfold Conflict Allowed
  by_cases hk : t.kind = .cidr
  · simp only [hk, true_and, ne_eq, not_true_eq_false, false_and, or_false]
    cases hn : ipNetwork t.value with
    | none => simp
    | some net =>
      simp only [some.injEq, exists_eq_left']
      exact networkConflict_iff c active net
  simp only [hk, false_and, ne_eq, not_false_eq_true, true_and, false_or]
  cases hh : t.host with
  | error e => simp
  | ok host =>
    simp only [Except.ok.injEq, exists_eq_left']
    exact hostConflict_iff hu active (hparents host) host

end Unique

/-- **When the order of the entries does not matter.** -/
theorem check_order_iff {U : Unicode} (c : ScopeChecker) (hu : UniqueEntries c.rules) (t : Target U)
    (active : Bool) (df : DerivedFrom) :
    (∀ c', Reordered c c' → isAllowed (c'.check t active df) = isAllowed (c.check t active df)) ↔
      ¬ Conflict c active df t := by
  rw [order_free_iff, conflict_iff hu]
  exact not_and_not_right.symm

theorem check_order_iff_nested : ∃ (c : ScopeChecker) (t : Target asciiUnicode), c.rules = nestedRules ∧
      ((∀ c', Reordered c c' → isAllowed (c'.check t true noMap) = isAllowed (c.check t true noMap)) ↔
        ¬ Conflict c true noMap t) := by
  have heval : (ScopeChecker.make nestedRules false true false).any (fun _ =>
      (Target.make asciiUnicode .cidr "8.8.8.0/24".toList).toOption.any fun _ => true) = true := by
    decide +kernel
  simp only [Option.any_eq_true] at heval
  obtain ⟨c, hc, t, -, -⟩ := heval
  have hr := (ScopeChecker.make_spec hc).1
  refine ⟨c, t, hr, check_order_iff c ?_ t true noMap⟩
  rw [hr]
  unfold UniqueEntries
  decide

/-- Two nested entries around a network: the first listed one decides. -/
theorem check_order_nested :
    ∃ (c c' : ScopeChecker) (t : Target asciiUnicode), UniqueEntries c.rules ∧ Reordered c c' ∧
      t.kind = .cidr ∧ t.value = "8.8.8.0/24".toList ∧ isAllowed (c.check t true noMap) = true ∧
      isAllowed (c'.check t true noMap) = false := by
  have heval : (ScopeChecker.make nestedRules false true false).any (fun c =>
      (ScopeChecker.make nestedRules.reverse false true false).any fun c' =>
      (Target.make asciiUnicode .cidr "8.8.8.0/24".toList).toOption.any fun t =>
        decide (t.kind = .cidr ∧ t.value = "8.8.8.0/24".toList) &&
        isAllowed (c.check t true noMap) && !isAllowed (c'.check t true noMap)) = true := by
    decide +kernel
  simp only [Option.any_eq_true, Bool.and_eq_true, decide_eq_true_eq, Bool.not_eq_true'] at heval
  obtain ⟨c, hc, c', hc', t, -, ⟨ht, h1⟩, h2⟩ := heval
  obtain ⟨r1, a1, b1, d1⟩ := ScopeChecker.make_spec hc
  obtain ⟨r2, a2, b2, d2⟩ := ScopeChecker.make_spec hc'
  refine ⟨c, c', t, ?_, ⟨?_, by rw [a1, a2], by rw [b1, b2], by rw [d1, d2]⟩, ht.1, ht.2, h1, h2⟩
  · rw [r1]
    unfold UniqueEntries
    decide
  · rw [r1, r2]
    exact reverse_perm _

end App.Scope
