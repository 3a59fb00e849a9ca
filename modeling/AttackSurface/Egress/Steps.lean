import AttackSurface.Egress.Proxy

/-!
# What one step of the egress proxy does

Specs of the two halves of `authorize` and of one round of a copy loop, and from them the
list of everything a step can do: each invariant of the proxy is one case analysis on it.

    a step of the proxy has one of the effects   (step_effect)
-/

namespace AsmSensors

open PyText PyNet List Option

/-! ## Authorization -/

/-- `name` is the domain, or one below it. -/
def Below (name domain : Str) : Prop := name = domain ∨ ('.' :: domain) <:+ name

/-- `name` may be looked up for `host`. -/
structure Asked (U : Unicode) (p : EgressPolicy) (host name : Str) (port : Nat) : Prop where
  port_allowed : port ∈ p.allowedPorts
  not_literal : ipAddress (proxyHost U host) = none
  encoded : idnaEncode U (proxyHost U host) = some name
  not_excluded : ∀ d ∈ p.excludedDomains, ¬ Below name d
  not_denied : ∀ d ∈ p.deniedDomains, ¬ Below name d

def AnswerSafe (p : EgressPolicy) (answer : List Address) : Prop := ∀ b ∈ answer, ∀ e ∈ embedded b,
    isAlwaysBlocked e = false ∧ isExcluded p.excludedNetworks e = false ∧
      (p.allowNonPublic = false → e.isGlobal = true ∧ e.isMulticast = false)

/-- What `authorize` vouches for when it returns `addr`: the answer is the literal itself, or the
resolver's for the encoded name. -/
structure Vouched (U : Unicode) (p : EgressPolicy) (resolver : Str → List Address) (host : Str)
    (port : Nat) (answer : List Address) (addr : Address) : Prop where
  port_allowed : port ∈ p.allowedPorts
  source : (ipAddress (proxyHost U host) = some addr ∧ answer = [addr]) ∨
    ∃ name, Asked U p host name port ∧ answer = resolver name
  member : addr ∈ answer
  safe : AnswerSafe p answer

section Authorize

lemma domainExcluded_iff {name : Str} {domains : List Str} :
    domainExcluded name domains = true ↔ ∃ d ∈ domains, Below name d := by
  simp [domainExcluded, endsWith, Below, isSuffixOf_iff_suffix]

variable (s : EgressStats)

@[simp] lemma EgressStats.block_connections (host : Str) (port : Nat) (r : Str) :
    (s.block host port r).connections = s.connections := rfl

@[simp] lemma EgressStats.block_bytesDown (host : Str) (port : Nat) (r : Str) :
    (s.block host port r).bytesDown = s.bytesDown := rfl

@[simp] lemma EgressStats.hit_connections (r : Str) : (s.hit r).connections = s.connections := rfl

@[simp] lemma EgressStats.hit_bytesDown (r : Str) : (s.hit r).bytesDown = s.bytesDown := rfl

/-- The first half of `authorize`: what it found out, and that it only notes refusals. -/
lemma authorizeStart_spec (U : Unicode) (p : EgressPolicy) (s : EgressStats) (host : Str) (port : Nat) :
    (authorizeStart U p s host port).1.connections = s.connections ∧
    (authorizeStart U p s host port).1.bytesDown = s.bytesDown ∧
    match (authorizeStart U p s host port).2 with
    | .refused _ => True
    | .literal addr => s.connections ≤ p.maxConnections ∧ port ∈ p.allowedPorts ∧
        ipAddress (proxyHost U host) = some addr
    | .lookup name => s.connections ≤ p.maxConnections ∧ Asked U p host name port := by
  unfold authorizeStart
  simp only []
  split
  · simp
  next hconn =>
  split
  · simp
  next hport =>
  rw [not_not] at hport
  cases ha : ipAddress (proxyHost U host) with
  | some addr => exact ⟨rfl, rfl, by omega, hport, rfl⟩
  | none =>
    cases hn : idnaEncode U (proxyHost U host) with
    | none => simp
    | some name =>
      simp only []
      split
      · simp
      next hex =>
      split
      · simp
      next hden =>
      refine ⟨rfl, rfl, by omega, ⟨hport, ha, hn, ?_, ?_⟩⟩
      · exact fun d hd hb => hex (domainExcluded_iff.2 ⟨d, hd, hb⟩)
      · exact fun d hd hb => hden (domainExcluded_iff.2 ⟨d, hd, hb⟩)

lemma authorizeFinish_spec (p : EgressPolicy) (s : EgressStats) (host : Str) (port : Nat)
    (addrs : List Address) :
    (authorizeFinish p s host port addrs).1.connections = s.connections ∧
    (authorizeFinish p s host port addrs).1.bytesDown = s.bytesDown ∧
    ∀ addr, (authorizeFinish p s host port addrs).2 = .ok addr → addr ∈ addrs ∧ AnswerSafe p addrs := by
  unfold authorizeFinish
  split
  · simp
  next first rest =>
  split
  · simp
  next hnone =>
  refine ⟨rfl, rfl, fun addr h => ?_⟩
  simp only [Except.ok.injEq] at h
  refine ⟨by simp [← h], fun b hb e he => ?_⟩
  rw [findSome?_eq_none_iff] at hnone
  obtain ⟨hplain, hself⟩ := addressVerdict_eq_none_iff.1 (hnone b hb)
  have href : ¬ Refused p.allowNonPublic p.excludedNetworks e := by
    rcases mem_cons.1 he with rfl | he
    · exact hself
    · exact hplain.inner e he
  simp only [Refused, not_or, not_and, Bool.not_eq_true, Bool.not_eq_false] at href
  obtain ⟨hblocked, hmulti, -⟩ := hplain.reachable e he
  exact ⟨hblocked, href.2, fun hpub => ⟨href.1 hpub, hmulti⟩⟩

/-- What `authorize` returns was in the answer, and the whole answer was checked. -/
lemma authorize_vouched {U : Unicode} {p : EgressPolicy} {resolver : Str → List Address}
    {meanwhile : EgressStats → EgressStats} {s s' : EgressStats} {host : Str} {port : Nat}
    {addr : Address} (h : authorize U p resolver meanwhile s host port = (s', .ok addr)) :
    ∃ answer, Vouched U p resolver host port answer addr := by
  obtain ⟨-, -, hstart⟩ := authorizeStart_spec U p s host port
  unfold authorize at h
  split at h
  · cases h
  · next st a hs =>
    rw [hs] at hstart
    obtain ⟨-, hport, hlit⟩ := hstart
    obtain ⟨hmem, hsafe⟩ := (authorizeFinish_spec p st (proxyHost U host) port [a]).2.2 addr (by rw [h])
    obtain rfl := mem_singleton.1 hmem
    exact ⟨_, hport, .inl ⟨hlit, rfl⟩, hmem, hsafe⟩
  · next st name hs =>
    rw [hs] at hstart
    obtain ⟨hmem, hsafe⟩ :=
      (authorizeFinish_spec p (meanwhile st) name port (resolver name)).2.2 addr (by rw [h])
    exact ⟨_, hstart.2.port_allowed, .inr ⟨name, hstart.2, rfl⟩, hmem, hsafe⟩

end Authorize

def Event.isResponse : Event → Bool
  | .respond .. | .established .. | .forwarded .. | .overSize .. => true
  | _ => false

/-- **Everything a step of the proxy can do.** -/
inductive Effect (U : Unicode) (p : EgressPolicy) (s : Proxy) : Proxy → List Event → Prop
  | accepted : Effect U p s { s with tasks := s.tasks ++ [.reading] } []
  /-- the task ends: refused, unreachable, cancelled -/
  | ended (i : Nat) (stats : EgressStats) (es : List Event)
      (hconn : s.stats.connections ≤ stats.connections) (hdown : stats.bytesDown = s.stats.bytesDown)
      (hes : ∀ e ∈ es, e.isResponse = true) :
      Effect U p s ⟨stats, s.tasks.set i .closed⟩ es
  | asked (i : Nat) (host name : Str) (port : Nat) (forward : Str) (stats : EgressStats)
      (htask : s.tasks[i]? = some .reading) (hconn : stats.connections = s.stats.connections + 1)
      (hmax : stats.connections ≤ p.maxConnections) (hdown : stats.bytesDown = s.stats.bytesDown)
      (hstart : ∃ st st', authorizeStart U p st host port = (st', .lookup name)) :
      Effect U p s ⟨stats, s.tasks.set i (.resolving host name port forward)⟩ []
  | literal (i : Nat) (host : Str) (port : Nat) (forward : Str) (addr : Address) (stats : EgressStats)
      (htask : s.tasks[i]? = some .reading) (hconn : stats.connections = s.stats.connections + 1)
      (hmax : stats.connections ≤ p.maxConnections) (hdown : stats.bytesDown = s.stats.bytesDown)
      (hok : ∃ st st', authorize U p (fun _ => [addr]) id st host port = (st', .ok addr)) :
      Effect U p s ⟨stats, s.tasks.set i (.connecting addr port forward)⟩
        [.authorized i host port [addr] addr, .connect i addr port]
  | answered (i : Nat) (host name : Str) (port : Nat) (forward : Str) (addrs : List Address)
      (addr : Address) (stats : EgressStats)
      (htask : s.tasks[i]? = some (.resolving host name port forward))
      (hconn : stats.connections = s.stats.connections) (hdown : stats.bytesDown = s.stats.bytesDown)
      (hfin : authorizeFinish p s.stats name port addrs = (stats, .ok addr)) :
      Effect U p s ⟨stats, s.tasks.set i (.connecting addr port forward)⟩
        [.authorized i host port addrs addr, .connect i addr port]
  | opened (i : Nat) (addr : Address) (port : Nat) (forward : Str) (e : Event)
      (htask : s.tasks[i]? = some (.connecting addr port forward)) (he : e.isResponse = true) :
      Effect U p s ⟨s.stats, s.tasks.set i (.piping (some 0) (some 0))⟩ [e]
  | copiedDown (i : Nat) (up : Option Nat) (moved size : Nat) (stats : EgressStats)
      (htask : s.tasks[i]? = some (.piping up (some moved)))
      (hconn : stats.connections = s.stats.connections)
      (hdown : stats.bytesDown = s.stats.bytesDown + size)
      (hsize : moved + size ≤ p.maxResponseBytes) (htotal : stats.bytesDown ≤ p.maxTotalBytes) :
      Effect U p s ⟨stats, s.tasks.set i (.piping up (some (moved + size)))⟩ [.copied i true size]
  | copiedUp (i : Nat) (down : Option Nat) (moved size : Nat) (stats : EgressStats)
      (htask : s.tasks[i]? = some (.piping (some moved) down))
      (hconn : stats.connections = s.stats.connections)
      (hdown : stats.bytesDown = s.stats.bytesDown) (hsize : moved + size ≤ p.maxUploadBytes) :
      Effect U p s ⟨stats, s.tasks.set i (.piping (some (moved + size)) down)⟩ [.copied i false size]
  /-- a copy loop ends: end of stream, a timeout, a chunk over a limit -/
  | stopped (i : Nat) (up down up' down' : Option Nat) (stats : EgressStats) (es : List Event)
      (htask : s.tasks[i]? = some (.piping up down)) (hup : up' = up ∨ up' = none)
      (hdn : down' = down ∨ down' = none) (hconn : stats.connections = s.stats.connections)
      (hdown : s.stats.bytesDown ≤ stats.bytesDown)
      (hes : ∀ e ∈ es, e.isResponse = true ∨ ∃ d, e = .overTotal i d ∧ p.maxTotalBytes < stats.bytesDown) :
      Effect U p s ⟨stats, s.tasks.set i (.piping up' down')⟩ es

section Step

variable {U : Unicode} {p : EgressPolicy} {s : Proxy}

/-- The end of `authorize`, for a task that was counted before. -/
lemma decide_cases (i : Nat) (host name : Str) (port : Nat) (forward : Str) (addrs : List Address) :
    (∃ stats es, s.decide p i host name port forward addrs = (⟨stats, s.tasks.set i .closed⟩, es) ∧
      stats.connections = s.stats.connections ∧ stats.bytesDown = s.stats.bytesDown ∧
      ∀ e ∈ es, e.isResponse = true) ∨
    ∃ stats addr, s.decide p i host name port forward addrs =
        (⟨stats, s.tasks.set i (.connecting addr port forward)⟩,
          [.authorized i host port addrs addr, .connect i addr port]) ∧
      stats.connections = s.stats.connections ∧ stats.bytesDown = s.stats.bytesDown ∧
      authorizeFinish p s.stats name port addrs = (stats, .ok addr) := by
  obtain ⟨hconn, hdown, -⟩ := authorizeFinish_spec p s.stats name port addrs
  unfold Proxy.decide
  rcases hfin : authorizeFinish p s.stats name port addrs with ⟨stats, r⟩
  rw [hfin] at hconn hdown
  cases r with
  | error reason => exact .inl ⟨stats, _, rfl, hconn, hdown, by simp [Event.isResponse]⟩
  | ok addr => exact .inr ⟨stats, addr, rfl, hconn, hdown, rfl⟩

variable {es : List Event}

variable {s' : Proxy}

lemma handle_effect {i : Nat} (htask : s.tasks[i]? = some .reading) (text : Str)
    (h : s.handle U p i text = (s', es)) : Effect U p s s' es := by
  unfold Proxy.handle at h
  simp only [] at h
  generalize hst : ({ s.stats with connections := s.stats.connections + 1 } : EgressStats) = counted at h
  have hc : counted.connections = s.stats.connections + 1 := by rw [← hst]
  have hb : counted.bytesDown = s.stats.bytesDown := by rw [← hst]
  split at h
  · cases h
    exact .ended i counted _ (by omega) hb (by simp [Event.isResponse])
  · next host hreq =>
    cases h
    exact .ended i (counted.block host 0 _) _ (by simp; omega) hb (by simp [Event.isResponse])
  · cases h
    exact .ended i counted _ (by omega) hb (by simp)
  next host port forward hreq =>
  obtain ⟨hsc, hsb, hstart⟩ := authorizeStart_spec U p counted host port
  split at h
  · next stats reason hs =>
    rw [hs] at hsc hsb
    simp only at hsc hsb
    cases h
    exact .ended i stats _ (by omega) (by omega) (by simp [Event.isResponse])
  · next stats addr hs =>
    rw [hs] at hsc hsb hstart
    simp only at hsc hsb hstart
    obtain ⟨hmax, -⟩ := hstart
    rcases decide_cases (p := p) (s := { s with stats }) i host (proxyHost U host) port forward [addr] with
      ⟨st, es', he, hc', hb', hes⟩ | ⟨st, a, he, hc', hb', hfin⟩
    · rw [he] at h
      cases h
      exact .ended i st _ (by simp only at hc'; omega) (by simp only at hb'; omega) hes
    rw [he] at h
    cases h
    obtain ⟨hmem, -⟩ :=
      (authorizeFinish_spec p stats (proxyHost U host) port [addr]).2.2 a (by rw [hfin])
    obtain rfl := mem_singleton.1 hmem
    exact .literal i host port forward a st htask (by simp only at hc'; omega)
      (by simp only at hc'; omega) (by simp only at hb'; omega)
      ⟨counted, st, by rw [authorize, hs]; exact hfin⟩
  · next stats name hs =>
    rw [hs] at hsc hsb hstart
    simp only at hsc hsb hstart
    cases h
    exact .asked i host name port forward stats htask (by omega) (by omega) (by omega)
      ⟨counted, stats, hs⟩

lemma copyChunk_cases (p : EgressPolicy) (st : EgressStats) (i : Nat) (down : Bool) (moved size : Nat) :
    (copyChunk p st i down moved size).1.connections = st.connections ∧
    (copyChunk p st i down moved size).1.bytesDown = st.bytesDown + (if down then size else 0) ∧
    (((copyChunk p st i down moved size).2 = (some (moved + size), [.copied i down size]) ∧
        moved + size ≤ (if down then p.maxResponseBytes else p.maxUploadBytes) ∧
        (copyChunk p st i down moved size).1.bytesDown ≤ p.maxTotalBytes) ∨
      ((copyChunk p st i down moved size).2 = (none, [.overSize i down])) ∨
      ((copyChunk p st i down moved size).2 = (none, [.overTotal i down]) ∧
        p.maxTotalBytes < (copyChunk p st i down moved size).1.bytesDown)) := by
  unfold copyChunk
  simp only []
  generalize hst : (if down = true then { st with bytesDown := st.bytesDown + size }
    else { st with bytesUp := st.bytesUp + size }) = st'
  have hc : st'.connections = st.connections := by
    rw [← hst]
    cases down <;> rfl
  have hb : st'.bytesDown = st.bytesDown + (if down = true then size else 0) := by
    rw [← hst]
    cases down <;> rfl
  generalize (if down = true then p.maxResponseBytes else p.maxUploadBytes) = limit
  by_cases hsize : limit < moved + size
  · rw [if_pos hsize]
    exact ⟨hc, hb, .inr (.inl rfl)⟩
  rw [if_neg hsize]
  by_cases htotal : p.maxTotalBytes < st'.bytesDown
  · rw [if_pos htotal]
    exact ⟨hc, hb, .inr (.inr ⟨rfl, htotal⟩)⟩
  · rw [if_neg htotal]
    exact ⟨hc, hb, .inl ⟨rfl, Nat.le_of_not_lt hsize, Nat.le_of_not_lt htotal⟩⟩

lemma chunk_effect {i : Nat} {down : Bool} {size : Nat}
    (h : s.step U p (.chunk i down size) = some (s', es)) : Effect U p s s' es := by
  unfold Proxy.step at h
  simp only [] at h
  split at h
  · cases h
  split at h
  · next up moved htask =>
    obtain ⟨hc, hb, hcase⟩ := copyChunk_cases p s.stats i true moved size
    rcases hchunk : copyChunk p s.stats i true moved size with ⟨st, m, ev⟩
    rw [hchunk] at h hc hb hcase
    simp only [some.injEq, Prod.mk.injEq, if_true] at h hc hb hcase
    obtain ⟨rfl, rfl⟩ := h
    rcases hcase with ⟨⟨rfl, rfl⟩, hsize, htotal⟩ | ⟨rfl, rfl⟩ | ⟨⟨rfl, rfl⟩, htotal⟩
    · exact .copiedDown i up moved size st htask hc hb hsize htotal
    · exact .stopped i up _ up none st _ htask (.inl rfl) (.inr rfl) hc (by omega)
        (by simp [Event.isResponse])
    · exact .stopped i up _ up none st _ htask (.inl rfl) (.inr rfl) hc (by omega)
        (by simp [Event.isResponse, htotal])
  · next moved dn htask =>
    obtain ⟨hc, hb, hcase⟩ := copyChunk_cases p s.stats i false moved size
    rcases hchunk : copyChunk p s.stats i false moved size with ⟨st, m, ev⟩
    rw [hchunk] at h hc hb hcase
    simp only [some.injEq, Prod.mk.injEq, Bool.false_eq_true, if_false, Nat.add_zero] at h hc hb hcase
    obtain ⟨rfl, rfl⟩ := h
    rcases hcase with ⟨⟨rfl, rfl⟩, hsize, htotal⟩ | ⟨rfl, rfl⟩ | ⟨⟨rfl, rfl⟩, htotal⟩
    · exact .copiedUp i dn moved size st htask hc hb hsize
    · exact .stopped i _ dn none dn st _ htask (.inr rfl) (.inl rfl) hc (by omega)
        (by simp [Event.isResponse])
    · exact .stopped i _ dn none dn st _ htask (.inr rfl) (.inl rfl) hc (by omega)
        (by simp [Event.isResponse, htotal])
  · cases h

/-- **Every step of the proxy is one of the effects.** -/
theorem step_effect {act : Action} (h : s.step U p act = some (s', es)) : Effect U p s s' es := by
  cases act with
  | accept =>
    simp only [Proxy.step, some.injEq, Prod.mk.injEq] at h
    obtain ⟨rfl, rfl⟩ := h
    exact .accepted
  | head i text =>
    unfold Proxy.step at h
    simp only [] at h
    split at h
    · next htask =>
      split at h
      · simp only [some.injEq, Prod.mk.injEq] at h
        obtain ⟨rfl, rfl⟩ := h
        exact .ended i s.stats [] (Nat.le_refl _) rfl (by simp)
      · rw [some.injEq] at h
        exact handle_effect htask text h
    · cases h
  | answer i addrs =>
    unfold Proxy.step at h
    simp only [] at h
    split at h
    · next host name port forward htask =>
      rw [some.injEq] at h
      rcases decide_cases (p := p) (s := s) i host name port forward addrs with
        ⟨st, ev, he, hc, hb, hes⟩ | ⟨st, addr, he, hc, hb, hfin⟩
      · rw [he] at h
        cases h
        exact .ended i st _ (by omega) hb hes
      rw [he] at h
      cases h
      exact .answered i host name port forward addrs addr st htask hc hb hfin
    · cases h
  | connected i =>
    unfold Proxy.step at h
    simp only [] at h
    split at h
    · next addr port forward htask =>
      simp only [some.injEq, Prod.mk.injEq] at h
      obtain ⟨rfl, rfl⟩ := h
      exact .opened i addr port forward _ htask (by split <;> rfl)
    · cases h
  | unreachable i =>
    unfold Proxy.step at h
    simp only [] at h
    split at h
    · simp only [some.injEq, Prod.mk.injEq] at h
      obtain ⟨rfl, rfl⟩ := h
      exact .ended i s.stats _ (Nat.le_refl _) rfl (by simp [Event.isResponse])
    · cases h
  | chunk i down size => exact chunk_effect h
  | finish i down =>
    unfold Proxy.step at h
    simp only [] at h
    split at h
    · next up dn htask =>
      simp only [some.injEq, Prod.mk.injEq] at h
      obtain ⟨rfl, rfl⟩ := h
      cases down with
      | true =>
        exact .stopped i up dn up none s.stats [] htask (.inl rfl) (.inr rfl) rfl (Nat.le_refl _)
          (by simp)
      | false =>
        exact .stopped i up dn none dn s.stats [] htask (.inr rfl) (.inl rfl) rfl (Nat.le_refl _)
          (by simp)
    · cases h
  | close i =>
    unfold Proxy.step at h
    simp only [] at h
    split at h
    · simp only [some.injEq, Prod.mk.injEq] at h
      obtain ⟨rfl, rfl⟩ := h
      exact .ended i s.stats [] (Nat.le_refl _) rfl (by simp)
    · cases h

end Step

end AsmSensors
