import AttackSurface.Egress.Steps

/-!
# Where the egress proxy connects to

The proxy starts empty; in a run the tasks of its connections take turns in any order,
and the network may answer anything.

    what `authorize` returns was checked, and `_handle` connects to nothing else   (authorize_connect)
-/

namespace AsmSensors

open PyText PyNet Machines List

/-- `authorize` returned `addr` to the task of connection `i`, when it was given `answer`. -/
structure Returned (U : Unicode) (p : EgressPolicy) (before : List Event) (i : Nat) (addr : Address)
    (port : Nat) (host : Str) (answer : List Address) : Prop where
  logged : .authorized i host port answer addr ∈ before
  result : ∃ meanwhile st st', authorize U p (fun _ => answer) meanwhile st host port = (st', .ok addr)

/-- What the events before `e` say, if `e` opens a connection. -/
def ConnectReturned (U : Unicode) (p : EgressPolicy) (before : List Event) (e : Event) : Prop :=
  ∀ i addr port, e = .connect i addr port → ∃ host answer, Returned U p before i addr port host answer

/-- Tasks wait only for names that `authorize` asked for, and connect only to what it returned. -/
structure Guided (U : Unicode) (p : EgressPolicy) (s : Proxy) (log : List Event) : Prop where
  asked : ∀ (i : Nat) host name port forward, s.tasks[i]? = some (.resolving host name port forward) →
    ∃ st st', authorizeStart U p st host port = (st', .lookup name)
  connects : Guarded (ConnectReturned U p) log

section Connections

variable {U : Unicode} {p : EgressPolicy} {s s' : Proxy} {log es : List Event}

lemma connectReturned_of_isResponse {e : Event} (he : e.isResponse = true) (before : List Event) :
    ConnectReturned U p before e := by
  rintro i addr port rfl
  cases he

lemma Guided.asked_set (h : Guided U p s log) (i : Nat) {t : Task}
    (ht : ∀ host name port forward, t ≠ .resolving host name port forward) :
    ∀ (j : Nat) host name port forward, (s.tasks.set i t)[j]? = some (.resolving host name port forward) →
      ∃ st st', authorizeStart U p st host port = (st', .lookup name) := by
  intro j host name port forward hj
  by_cases hij : i = j
  · subst hij
    obtain ⟨_, hget⟩ := List.getElem?_eq_some_iff.1 hj
    rw [getElem_set_self] at hget
    exact absurd hget (ht host name port forward)
  · rw [getElem?_set_ne hij] at hj
    exact h.asked j host name port forward hj

lemma Guided.connects_pair (h : Guided U p s log) (i : Nat) {host : Str} {port : Nat}
    {answer : List Address} {addr : Address}
    (hok : ∃ meanwhile st st', authorize U p (fun _ => answer) meanwhile st host port = (st', .ok addr)) :
    Guarded (ConnectReturned U p)
      (log ++ [.authorized i host port answer addr, .connect i addr port]) := by
  rw [append_cons]
  refine (h.connects.concat ?_).concat ?_
  · rintro j a q ⟨⟩
  · rintro j a q ⟨⟩
    exact ⟨host, answer, by simp, hok⟩

lemma guided_step (h : Guided U p s log) (he : Effect U p s s' es) : Guided U p s' (log ++ es) := by
  cases he with
  | accepted =>
    rw [append_nil]
    refine ⟨fun i host name port forward hi => ?_, h.connects⟩
    rcases Nat.lt_or_ge i s.tasks.length with hlt | hge
    · rw [getElem?_append_left hlt] at hi
      exact h.asked i host name port forward hi
    rw [getElem?_append_right hge] at hi
    obtain ⟨_, hget⟩ := List.getElem?_eq_some_iff.1 hi
    rw [getElem_singleton] at hget
    cases hget
  | ended i stats _ hconn hdown hes =>
    exact ⟨h.asked_set i (by simp), h.connects.append fun e he => connectReturned_of_isResponse (hes e he)⟩
  | asked i host name port forward stats htask hconn hmax hdown hstart =>
    rw [append_nil]
    refine ⟨fun j host' name' port' forward' hj => ?_, h.connects⟩
    by_cases hij : i = j
    · subst hij
      obtain ⟨_, hget⟩ := List.getElem?_eq_some_iff.1 hj
      rw [getElem_set_self] at hget
      cases hget
      exact hstart
    · rw [getElem?_set_ne hij] at hj
      exact h.asked j host' name' port' forward' hj
  | literal i host port forward addr stats htask hconn hmax hdown hok =>
    exact ⟨h.asked_set i (by simp), h.connects_pair i ⟨id, hok⟩⟩
  | answered i host name port forward addrs addr stats htask hconn hdown hfin =>
    -- the lookup was asked for in an earlier step; the statistics may have changed since
    obtain ⟨st, st', hstart⟩ := h.asked i host name port forward htask
    refine ⟨h.asked_set i (by simp), h.connects_pair i ⟨fun _ => s.stats, st, stats, ?_⟩⟩
    rw [authorize, hstart]
    exact hfin
  | opened i addr port forward e htask he =>
    exact ⟨h.asked_set i (by simp), h.connects.concat (connectReturned_of_isResponse he log)⟩
  | copiedDown i up moved size stats htask hconn hdown hsize htotal
  | copiedUp i down moved size stats htask hconn hdown hsize =>
    exact ⟨h.asked_set i (by simp), h.connects.concat (by rintro j a q ⟨⟩)⟩
  | stopped i up down up' down' stats _ htask hup hdn hconn hdown hes =>
    refine ⟨h.asked_set i (by simp), h.connects.append fun e he before => ?_⟩
    rcases hes e he with hresp | ⟨d, rfl, -⟩
    · exact connectReturned_of_isResponse hresp before
    · rintro j a q ⟨⟩

/-- **Authorization.**  An address that `authorize` returns is on an allowed port, the literal
given or one of the lookup's answer for a name that is not excluded, and the whole answer was
checked; in every run, each connection of `_handle` goes to an address and port that `authorize`
returned to that task. -/
theorem authorize_connect (U : Unicode) (p : EgressPolicy) : (∀ resolver meanwhile s s' host port addr,
      authorize U p resolver meanwhile s host port = (s', .ok addr) →
        ∃ answer, Vouched U p resolver host port answer addr) ∧
    ∀ actions s log, Run (proxy U p) {} actions s log →
      ∀ before i addr port after, log = before ++ .connect i addr port :: after →
        ∃ host answer, Returned U p before i addr port host answer := by
  refine ⟨fun _ _ _ _ _ _ _ h => authorize_vouched h, fun actions s log hrun => ?_⟩
  have hguided : Guided U p s log := by
    refine Run.invariant (Guided U p) ⟨by simp, guarded_nil⟩ ?_ hrun
    exact fun s log a s' es h hstep => guided_step h (step_effect hstep)
  exact fun before i addr port after heq => hguided.connects before _ after heq i addr port rfl

/-- A name that resolves to `8.8.8.8`, asked for with `CONNECT`. -/
theorem authorize_connect_name : (∃ s' addr answer,
      authorize asciiUnicode {} (fun _ => [v4OfInt 0x08080808]) id {} "www.test".toList 443 = (s', .ok addr) ∧
      Vouched asciiUnicode {} (fun _ => [v4OfInt 0x08080808]) "www.test".toList 443 answer addr) ∧
    ∃ s log host answer, Run (proxy asciiUnicode {}) {}
        [.accept, .head 0 "CONNECT www.test:443 HTTP/1.1\r\n\r\n".toList,
          .answer 0 [v4OfInt 0x08080808]] s log ∧
      Returned asciiUnicode {} (log.take 1) 0 (v4OfInt 0x08080808) 443 host answer := by
  have hauth : (authorize asciiUnicode {} (fun _ => [v4OfInt 0x08080808]) id {} "www.test".toList 443).2.toOption.isSome =
      true := by decide +kernel
  have hexec : ((proxy asciiUnicode {}).exec {}
      [.accept, .head 0 "CONNECT www.test:443 HTTP/1.1\r\n\r\n".toList,
        .answer 0 [v4OfInt 0x08080808]]).any (fun r => r.2.drop 1 = [.connect 0 (v4OfInt 0x08080808) 443]) =
      true := by decide +kernel
  constructor
  · rcases h : authorize asciiUnicode {} (fun _ => [v4OfInt 0x08080808]) id {} "www.test".toList 443 with
      ⟨s', r⟩
    rw [h] at hauth
    cases r with
    | error reason => cases hauth
    | ok addr =>
      obtain ⟨answer, hv⟩ := (authorize_connect asciiUnicode {}).1 _ _ _ _ _ _ _ h
      exact ⟨s', addr, answer, rfl, hv⟩
  · simp only [Option.any_eq_true, decide_eq_true_eq] at hexec
    obtain ⟨⟨s, log⟩, hrun, hlog⟩ := hexec
    have hrun := Run.of_exec hrun
    obtain ⟨host, answer, hret⟩ := (authorize_connect asciiUnicode {}).2 _ s log hrun (log.take 1) 0
      (v4OfInt 0x08080808) 443 [] (by rw [← hlog, take_append_drop])
    exact ⟨s, log, host, answer, hrun, hret⟩

end Connections

end AsmSensors
