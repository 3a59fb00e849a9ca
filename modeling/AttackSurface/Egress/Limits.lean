import AttackSurface.Egress.Steps

/-!
# The limits of the egress proxy

`authorize` and the copy loops test counters that all tasks share, after adding to them.
What a counter has seen is read off the log, and the invariant `Covered` says how far each
counter may be from it.

    the connection and byte limits hold over all tasks together, in every run   (proxy_limits)
-/

namespace AsmSensors

open PyText Machines List Option

def Event.isAuthorized : Event → Bool
  | .authorized .. => true
  | _ => false

/-- The bytes that an event hands on, of those that `q` selects by connection and direction. -/
def Event.bytes (q : Nat → Bool → Bool) : Event → Nat
  | .copied i down size => if q i down then size else 0
  | _ => 0

def copiedBytes (q : Nat → Bool → Bool) (log : List Event) : Nat := (log.map (Event.bytes q)).sum

def downstream (_ : Nat) (down : Bool) : Bool := down

def only (i : Nat) (down : Bool) (j : Nat) (d : Bool) : Bool := i == j && down == d

/-- `limit` of a copy loop. -/
def EgressPolicy.limit (p : EgressPolicy) (down : Bool) : Nat :=
  if down then p.maxResponseBytes else p.maxUploadBytes

/-- `moved` of a copy loop that may still forward something. -/
def Task.moved : Task → Bool → Option Nat
  | .piping up down, d => if d then down else up
  | .closed, _ => none
  | _, _ => some 0

def Task.isResolving : Task → Bool
  | .resolving .. => true
  | _ => false

def NotAfterTotal (before : List Event) (e : Event) : Prop :=
  (∃ i, .overTotal i true ∈ before) → ∀ j size, e ≠ .copied j true size

/-- Each counter covers what the log shows. -/
structure Covered (p : EgressPolicy) (s : Proxy) (log : List Event) : Prop where
  /-- a task that waits for a lookup has passed the limit already -/
  connections : log.countP Event.isAuthorized + s.tasks.countP Task.isResolving ≤
    min s.stats.connections p.maxConnections
  total : copiedBytes downstream log ≤ min s.stats.bytesDown p.maxTotalBytes
  moved : ∀ (i : Nat) (down : Bool) (n : Nat),
    (s.tasks[i]?.getD .reading).moved down = some n → copiedBytes (only i down) log = n
  perTask : ∀ i down, copiedBytes (only i down) log ≤ p.limit down
  refused : (∃ i, .overTotal i true ∈ log) → p.maxTotalBytes < s.stats.bytesDown
  order : Guarded NotAfterTotal log

section Counting

variable {q : Nat → Bool → Bool} {es : List Event} {tasks : List Task} {i : Nat} {t : Task}

lemma copiedBytes_append (log es : List Event) :
    copiedBytes q (log ++ es) = copiedBytes q log + copiedBytes q es := by
  simp [copiedBytes]

lemma copiedBytes_copied (i : Nat) (down : Bool) (size : Nat) :
    copiedBytes q [.copied i down size] = if q i down then size else 0 := by
  simp [copiedBytes, Event.bytes]

lemma copiedBytes_only_self (log : List Event) (i : Nat) (down : Bool) (size : Nat) :
    copiedBytes (only i down) (log ++ [.copied i down size]) = copiedBytes (only i down) log + size := by
  rw [copiedBytes_append, copiedBytes_copied]
  simp [only]

lemma copiedBytes_only_else (log : List Event) {i j : Nat} {down d : Bool} (h : i = j → d = !down)
    (size : Nat) :
    copiedBytes (only j d) (log ++ [.copied i down size]) = copiedBytes (only j d) log := by
  rw [copiedBytes_append, copiedBytes_copied, if_neg, Nat.add_zero]
  simp only [only, Bool.and_eq_true, beq_iff_eq, not_and]
  rintro rfl rfl
  simp at h

lemma copiedBytes_eq_zero (h : ∀ e ∈ es, ∀ i down size, e ≠ .copied i down size) : copiedBytes q es = 0 := by
  induction es with
  | nil => rfl
  | cons e es ih =>
    have hrest := ih fun e' he' => h e' (mem_cons_of_mem _ he')
    have hfirst : e.bytes q = 0 := by
      cases e with
      | copied i down size => exact absurd rfl (h _ mem_cons_self i down size)
      | _ => rfl
    unfold copiedBytes at hrest ⊢
    rw [map_cons, sum_cons, hfirst, hrest]

lemma countP_isAuthorized_eq_zero (h : ∀ e ∈ es, e.isResponse = true ∨ ∃ j d, e = .overTotal j d) :
    es.countP Event.isAuthorized = 0 := by
  rw [countP_eq_zero]
  intro e he hauth
  rcases h e he with hr | ⟨j, d, rfl⟩
  · cases e <;> simp_all [Event.isResponse, Event.isAuthorized]
  · cases hauth

lemma countP_set_add (r : Task → Bool) (ht : tasks[i]? = some t) (t' : Task) :
    (tasks.set i t').countP r + (if r t then 1 else 0) = tasks.countP r + (if r t' then 1 else 0) := by
  obtain ⟨hlt, rfl⟩ := List.getElem?_eq_some_iff.1 ht
  rw [countP_set hlt]
  have hpos : (if r tasks[i] then 1 else 0) ≤ tasks.countP r := by
    split
    · next hr => exact countP_pos_iff.2 ⟨_, getElem_mem hlt, hr⟩
    · exact Nat.zero_le _
  omega

lemma countP_set_le {r : Task → Bool} (tasks : List Task) (i : Nat) (ht : r t = false) :
    (tasks.set i t).countP r ≤ tasks.countP r := by
  cases hi : tasks[i]? with
  | none => rw [set_eq_of_length_le (List.getElem?_eq_none_iff.1 hi)]
  | some x =>
    have := countP_set_add r hi t
    rw [ht] at this
    simp only [Bool.false_eq_true, if_false] at this
    omega

lemma getD_set_of_ne {j : Nat} (h : i ≠ j) : (tasks.set i t)[j]?.getD .reading = tasks[j]?.getD .reading := by
  rw [getElem?_set_ne h]

end Counting

section Steps

variable {U : Unicode} {p : EgressPolicy} {s s' : Proxy} {log es : List Event}

/-- A step that hands no bytes on: the counters may grow, and the task may be given a state
whose copy loops are no further. -/
lemma Covered.frame (h : Covered p s log) {i : Nat} {t : Task} {stats : EgressStats}
    (hes : ∀ e ∈ es, ∀ j down size, e ≠ .copied j down size)
    (hcount : log.countP Event.isAuthorized + es.countP Event.isAuthorized +
      (s.tasks.set i t).countP Task.isResolving ≤ min stats.connections p.maxConnections)
    (hdown : s.stats.bytesDown ≤ stats.bytesDown)
    (hmoved : ∀ down n, t.moved down = some n → (s.tasks[i]?.getD .reading).moved down = some n)
    (htotal : ∀ j, .overTotal j true ∈ es → p.maxTotalBytes < stats.bytesDown) :
    Covered p ⟨stats, s.tasks.set i t⟩ (log ++ es) := by
  have hbytes : ∀ q, copiedBytes q (log ++ es) = copiedBytes q log := by
    intro q
    rw [copiedBytes_append, copiedBytes_eq_zero hes, Nat.add_zero]
  refine ⟨?_, ?_, ?_, ?_, ?_, ?_⟩
  · rw [countP_append]
    exact hcount
  · rw [hbytes]
    have := h.total
    simp only
    omega
  · intro j down n hj
    rw [hbytes]
    by_cases hij : i = j
    · subst hij
      by_cases hlt : i < s.tasks.length
      · rw [getElem?_set_self hlt] at hj
        exact h.moved i down n (hmoved down n hj)
      · rw [set_eq_of_length_le (Nat.le_of_not_lt hlt)] at hj
        exact h.moved i down n hj
    · rw [getD_set_of_ne hij] at hj
      exact h.moved j down n hj
  · intro j down
    rw [hbytes]
    exact h.perTask j down
  · rintro ⟨j, hj⟩
    rcases mem_append.1 hj with hj | hj
    · exact Nat.lt_of_lt_of_le (h.refused ⟨j, hj⟩) hdown
    · exact htotal j hj
  · exact h.order.append fun e he _ _ j size => hes e he j true size

/-- A chunk that is forwarded: its copy loop has moved all that the log shows for it. -/
lemma Covered.copied (h : Covered p s log) {i : Nat} {down : Bool} {moved size : Nat} {t t' : Task}
    {stats : EgressStats} (htask : s.tasks[i]? = some t) (hold : t.moved down = some moved)
    (hnew : t'.moved down = some (moved + size)) (hother : t'.moved (!down) = t.moved (!down))
    (hres : t'.isResolving = false) (hconn : stats.connections = s.stats.connections)
    (hdown : stats.bytesDown = s.stats.bytesDown + if down then size else 0)
    (hsize : moved + size ≤ p.limit down) (htotal : down = true → stats.bytesDown ≤ p.maxTotalBytes) :
    Covered p ⟨stats, s.tasks.set i t'⟩ (log ++ [.copied i down size]) := by
  have hmoved : copiedBytes (only i down) log = moved := h.moved i down moved (by rw [htask]; exact hold)
  have hthis : copiedBytes (only i down) (log ++ [.copied i down size]) = moved + size := by
    rw [copiedBytes_only_self, hmoved]
  have hlt : i < s.tasks.length := (List.getElem?_eq_some_iff.1 htask).1
  refine ⟨?_, ?_, ?_, ?_, ?_, ?_⟩
  · have := h.connections
    have := countP_set_le s.tasks i hres
    simp only [countP_append, countP_singleton, Event.isAuthorized, Bool.false_eq_true, if_false]
    omega
  · have := h.total
    rw [copiedBytes_append, copiedBytes_copied]
    simp only [downstream] at hdown ⊢
    cases down with
    | true =>
      have := htotal rfl
      simp only [if_true] at hdown ⊢
      omega
    | false =>
      simp only [Bool.false_eq_true, if_false] at hdown ⊢
      omega
  · intro j d n hj
    by_cases hij : i = j
    · subst hij
      rw [getElem?_set_self hlt, getD_some] at hj
      rcases Bool.eq_or_eq_not d down with rfl | rfl
      · rw [hnew, some.injEq] at hj
        rw [hthis, hj]
      rw [copiedBytes_only_else log fun _ => rfl]
      refine h.moved i _ n ?_
      rw [htask, getD_some, ← hother, hj]
    · rw [copiedBytes_only_else log fun he => absurd he hij]
      rw [getD_set_of_ne hij] at hj
      exact h.moved j d n hj
  · intro j d
    by_cases hthese : i = j ∧ d = down
    · obtain ⟨rfl, rfl⟩ := hthese
      rw [hthis]
      exact hsize
    · rw [copiedBytes_only_else log fun hij => Bool.eq_not_of_ne fun hd => hthese ⟨hij, hd⟩]
      exact h.perTask j d
  · rintro ⟨j, hj⟩
    simp only [mem_append, mem_singleton, reduceCtorEq, or_false] at hj
    have := h.refused ⟨j, hj⟩
    simp only
    omega
  · refine h.order.concat fun hrefused j n he => ?_
    -- the total was over its limit before, so a chunk downstream would not pass
    cases he
    have := h.refused hrefused
    have := htotal rfl
    omega

lemma covered_step (h : Covered p s log) (he : Effect U p s s' es) : Covered p s' (log ++ es) := by
  have hc := h.connections
  cases he with
  | accepted =>
    have hget : ∀ i : Nat, (s.tasks ++ [.reading])[i]?.getD .reading = s.tasks[i]?.getD .reading := by
      intro i
      rcases Nat.lt_trichotomy i s.tasks.length with hlt | rfl | hgt
      · rw [getElem?_append_left hlt]
      · simp
      · rw [getElem?_eq_none (by simp; omega), getElem?_eq_none (by omega)]
    rw [append_nil]
    refine ⟨?_, h.total, ?_, h.perTask, h.refused, h.order⟩
    · rw [countP_append]
      exact hc
    intro i down n hi
    rw [hget] at hi
    exact h.moved i down n hi
  | ended i stats _ hconn hdown hes =>
    have hset := countP_set_le (r := Task.isResolving) s.tasks i (t := .closed) rfl
    refine h.frame ?_ ?_ (by omega) (by simp [Task.moved]) ?_
    · rintro e he j down size rfl
      cases hes _ he
    · rw [countP_isAuthorized_eq_zero fun e he => .inl (hes e he)]
      omega
    · intro j hj
      cases hes _ hj
  | asked i host name port forward stats htask hconn hmax hdown hstart =>
    have hset := countP_set_add Task.isResolving htask (.resolving host name port forward)
    simp only [Task.isResolving, Bool.false_eq_true, if_false, if_true] at hset
    refine h.frame (by simp) ?_ (by omega) ?_ (by simp)
    · rw [countP_nil]
      omega
    · rw [htask]
      exact fun _ _ hn => hn
  | literal i host port forward addr stats htask hconn hmax hdown hok =>
    have hset := countP_set_add Task.isResolving htask (.connecting addr port forward)
    simp only [Task.isResolving, Bool.false_eq_true, if_false] at hset
    refine h.frame (by simp) ?_ (by omega) ?_ (by simp)
    · rw [show countP Event.isAuthorized [.authorized i host port [addr] addr, .connect i addr port] = 1
        from rfl]
      omega
    · rw [htask]
      exact fun _ _ hn => hn
  | answered i host name port forward addrs addr stats htask hconn hdown hfin =>
    -- the task was counted while it waited
    have hset := countP_set_add Task.isResolving htask (.connecting addr port forward)
    simp only [Task.isResolving, Bool.false_eq_true, if_false, if_true] at hset
    refine h.frame (by simp) ?_ (by omega) ?_ (by simp)
    · rw [show countP Event.isAuthorized [.authorized i host port addrs addr, .connect i addr port] = 1
        from rfl]
      omega
    · rw [htask]
      exact fun _ _ hn => hn
  | opened i addr port forward e htask he =>
    have hset := countP_set_le (r := Task.isResolving) s.tasks i (t := .piping (some 0) (some 0)) rfl
    have hauth : [e].countP Event.isAuthorized = 0 := countP_isAuthorized_eq_zero (by simp [he])
    refine h.frame ?_ ?_ (Nat.le_refl _) ?_ ?_
    · rintro _ he' j down size rfl
      rw [mem_singleton] at he'
      rw [← he'] at he
      cases he
    · omega
    · rw [htask]
      intro down n hn
      cases down <;> exact hn
    · intro j hj
      rw [mem_singleton] at hj
      rw [← hj] at he
      cases he
  | copiedDown i up moved size stats htask hconn hdown hsize htotal =>
    exact h.copied htask rfl rfl rfl rfl hconn hdown hsize fun _ => htotal
  | copiedUp i down moved size stats htask hconn hdown hsize =>
    exact h.copied htask rfl rfl rfl rfl hconn hdown hsize (by simp)
  | stopped i up down up' down' stats _ htask hup hdn hconn hdown hes =>
    have hset := countP_set_le (r := Task.isResolving) s.tasks i (t := .piping up' down') rfl
    refine h.frame ?_ ?_ hdown ?_ ?_
    · rintro e he j d size rfl
      rcases hes _ he with hr | ⟨_, ⟨⟩, -⟩
      cases hr
    · rw [countP_isAuthorized_eq_zero fun e he => (hes e he).imp id fun ⟨d, hd, _⟩ => ⟨i, d, hd⟩]
      omega
    · rw [htask]
      intro d n hn
      cases d with
      | true =>
        rcases hdn with rfl | rfl
        · exact hn
        · cases hn
      | false =>
        rcases hup with rfl | rfl
        · exact hn
        · cases hn
    · intro j hj
      rcases hes _ hj with hr | ⟨_, -, hover⟩
      · cases hr
      · exact hover

lemma covered_start : Covered p {} [] := by
  refine ⟨Nat.zero_le _, Nat.zero_le _, ?_, fun _ _ => Nat.zero_le _, by simp, guarded_nil⟩
  intro i down n h
  rw [show (({} : Proxy).tasks[i]?) = none from rfl] at h
  exact some.inj h

/-- **The limits.**  Over all tasks together at most `maxConnections` connections are authorized
and at most `maxTotalBytes` go downstream; each task copies at most `maxResponseBytes` down and
`maxUploadBytes` up; and after a chunk downstream was refused for the total, none is forwarded. -/
theorem proxy_limits {actions : List Action} (hrun : Run (proxy U p) {} actions s log) :
    log.countP Event.isAuthorized ≤ p.maxConnections ∧
    copiedBytes downstream log ≤ p.maxTotalBytes ∧
    (∀ i, copiedBytes (only i true) log ≤ p.maxResponseBytes ∧
      copiedBytes (only i false) log ≤ p.maxUploadBytes) ∧
    ∀ before i after, log = before ++ .overTotal i true :: after → ∀ j size, .copied j true size ∉ after := by
  have h : Covered p s log :=
    Run.invariant (Covered p) covered_start (fun _ _ _ _ _ h hstep => covered_step h (step_effect hstep)) hrun
  have hc := h.connections
  have ht := h.total
  refine ⟨by omega, by omega, fun i => ⟨h.perTask i true, h.perTask i false⟩, ?_⟩
  intro before i after heq j size hmem
  obtain ⟨mid, rest, rfl⟩ := append_of_mem hmem
  rw [← cons_append, ← append_assoc] at heq
  exact h.order _ _ rest heq ⟨i, by simp⟩ j size rfl

/-- Two tunnels under a total of 1000 bytes: the second one's chunk is refused. -/
theorem proxy_limits_two : ∃ s log, Run (proxy asciiUnicode { maxTotalBytes := 1000 }) {}
        [.accept, .accept, .head 0 "CONNECT 8.8.8.8:443 HTTP/1.1\r\n\r\n".toList,
          .head 1 "CONNECT 8.8.4.4:443 HTTP/1.1\r\n\r\n".toList, .connected 1, .connected 0,
          .chunk 0 true 600, .chunk 1 false 100, .chunk 1 true 500, .chunk 0 true 1] s log ∧
      copiedBytes downstream log = 600 ∧ .overTotal 1 true ∈ log ∧
      copiedBytes downstream log ≤ 1000 ∧ log.countP Event.isAuthorized ≤ 300 := by
  have hexec : ((proxy asciiUnicode { maxTotalBytes := 1000 }).exec {}
      [.accept, .accept, .head 0 "CONNECT 8.8.8.8:443 HTTP/1.1\r\n\r\n".toList,
        .head 1 "CONNECT 8.8.4.4:443 HTTP/1.1\r\n\r\n".toList, .connected 1, .connected 0,
        .chunk 0 true 600, .chunk 1 false 100, .chunk 1 true 500, .chunk 0 true 1]).any
      (fun r => copiedBytes downstream r.2 = 600 ∧ .overTotal 1 true ∈ r.2) = true := by decide +kernel
  simp only [Option.any_eq_true, decide_eq_true_eq] at hexec
  obtain ⟨⟨s, log⟩, hrun, hbytes, hover⟩ := hexec
  have hrun := Run.of_exec hrun
  obtain ⟨hconn, htotal, -⟩ := proxy_limits hrun
  exact ⟨s, log, hrun, hbytes, hover, htotal, hconn⟩

end Steps

end AsmSensors
