import AttackSurface.Run.Machine

/-!
# Transactions under READ COMMITTED

Sessions run transactions against one committed database.  A statement reads what is
committed when it runs; a lock is exclusive and kept to the end of the transaction; a
commit publishes the writes and gives the locks back.  A session can crash at any point,
which only gives its locks back.

A proof says what holds of the database between commits, and what a session may rely on at
each point given the locks it holds.  Its own steps establish that, and the commits of
sessions with other locks keep it:

    Kept assertions  →  they hold in every state of every run        (Assertions.Kept.run)
-/

namespace Transactions

open Machines List Option Function

/-- What an object-relational session does to a column: it writes the value it changed. -/
def writeBack {α : Type} [DecidableEq α] (read written current : α) : α :=
  if written = read then current else written

section WriteBack

variable {α : Type} [DecidableEq α] (a b : α)

@[simp] lemma writeBack_read : writeBack a b a = b := by
  unfold writeBack
  split
  · next h => exact h.symm
  · rfl

@[simp] lemma writeBack_unchanged : writeBack a a b = b := by simp [writeBack]

end WriteBack

/-- What a session does next. -/
inductive Effect (L D T E : Type)
  /-- it has read, and goes on -/
  | goOn (t : T)
  /-- it waits for a lock, and goes on with it -/
  | lock (x : L) (t : T)
  /-- it commits; a task of several transactions goes on with the next one -/
  | commit (d : D) (es : List E) (t : Option T)
  /-- it ends without a write -/
  | rollback

def Effect.continues {L D T E : Type} : Effect L D T E → Option T
  | .goOn t | .lock _ t => some t
  | _ => none

/-- The code of the sessions.  `A` is what a statement reads from outside the database, `X`
what changes the database from outside (time). -/
structure Program (L D T Task A X E : Type) where
  enter : Task → T
  /-- `none` when the session cannot go on with this input -/
  next : T → A → D → Option (Effect L D T E)
  pass : X → D → D

structure Store (L D T : Type) where
  data : D
  locks : L → Option Nat
  session : Nat → Option T

inductive Action (Task A X : Type)
  /-- session `k` takes up a task -/
  | deliver (k : Nat) (task : Task)
  | run (k : Nat) (a : A)
  | crash (k : Nat)
  | pass (x : X)

def Store.idle {L D T : Type} (d : D) : Store L D T := ⟨d, fun _ => none, fun _ => none⟩

section Machine

variable {L D T Task A X E : Type} [DecidableEq L] (s : Store L D T)

/-- The locks that are left when session `k` gives its own back. -/
def Store.released (k : Nat) : L → Option Nat := fun x =>
  if s.locks x = some k then none else s.locks x

def Store.perform (k : Nat) : Effect L D T E → Option (Store L D T × List E)
  | .goOn t => some ({ s with session := Function.update s.session k (some t) }, [])
  | .lock x t =>
    if s.locks x = none ∨ s.locks x = some k then
      some ({ s with
        locks := Function.update s.locks x (some k)
        session := Function.update s.session k (some t) }, [])
    else none
  | .commit d es t => some (⟨d, s.released k, Function.update s.session k t⟩, es)
  | .rollback => some ({ s with locks := s.released k, session := Function.update s.session k none }, [])

variable (p : Program L D T Task A X E)

def Program.step (s : Store L D T) : Action Task A X → Option (Store L D T × List E)
  | .deliver k task =>
    if (s.session k).isNone then
      some ({ s with session := Function.update s.session k (some (p.enter task)) }, [])
    else none
  | .run k a => (s.session k).bind fun t => (p.next t a s.data).bind (s.perform k)
  | .crash k => some ({ s with locks := s.released k, session := Function.update s.session k none }, [])
  | .pass x => some ({ s with data := p.pass x s.data }, [])

def Program.machine : Machine (Store L D T) (Action Task A X) E := ⟨p.step⟩

lemma Program.step_run_iff {p : Program L D T Task A X E} {s : Store L D T} {k : Nat} {a : A}
    {r : Store L D T × List E} :
    p.step s (.run k a) = some r ↔
      ∃ t e, s.session k = some t ∧ p.next t a s.data = some e ∧ s.perform k e = some r := by
  simp only [Program.step, bind_eq_some_iff]
  constructor
  · rintro ⟨t, ht, e, he, hr⟩
    exact ⟨t, e, ht, he, hr⟩
  · rintro ⟨t, e, ht, he, hr⟩
    exact ⟨t, ht, e, he, hr⟩

/-- The program as far as its steps meet a condition on the session, what it reads and the database. -/
def Program.restrict (C : T → A → D → Bool) : Program L D T Task A X E :=
  { p with next := fun t a d => if C t a d then p.next t a d else none }

omit [DecidableEq L] in
lemma Program.next_of_restrict {p : Program L D T Task A X E} {C : T → A → D → Bool} {t : T} {a : A}
    {d : D} {e : Effect L D T E} (h : (p.restrict C).next t a d = some e) :
    C t a d = true ∧ p.next t a d = some e := by
  simp only [Program.restrict] at h
  split at h
  · next hc => exact ⟨hc, h⟩
  · cases h

end Machine

/-! ## Assertions -/

/-- What holds of the database and the log between commits, and what a session relies on, given
the locks it holds. -/
structure Assertions (L D T E : Type) where
  inv : D → List E → Prop
  holds : T → (L → Prop) → D → Prop

section Kept

variable {L D T Task A X E : Type}

structure Assertions.Kept (P : Assertions L D T E) (p : Program L D T Task A X E) : Prop where
  enter : ∀ task d log, P.inv d log → P.holds (p.enter task) (fun _ => False) d
  goOn : ∀ t H a d log t', P.inv d log → P.holds t H d → p.next t a d = some (.goOn t') → P.holds t' H d
  lock : ∀ t H a d log x t', P.inv d log → P.holds t H d → p.next t a d = some (.lock x t') →
    P.holds t' (fun y => y = x ∨ H y) d
  commit : ∀ t H a d log d' es t', P.inv d log → P.holds t H d → p.next t a d = some (.commit d' es t') →
    P.inv d' (log ++ es) ∧ ∀ u, t' = some u → P.holds u (fun _ => False) d'
  /-- a commit keeps what a session with other locks relies on -/
  stable : ∀ t H a d log d' es t' u G, P.inv d log → P.holds t H d →
    p.next t a d = some (.commit d' es t') → P.holds u G d → (∀ x, G x → ¬ H x) → P.holds u G d'
  pass : ∀ x d log, P.inv d log → P.inv (p.pass x d) log
  passHolds : ∀ x d log u G, P.inv d log → P.holds u G d → P.holds u G (p.pass x d)

/-- The assertions hold now, and only open sessions hold locks. -/
structure Assertions.Good (P : Assertions L D T E) (s : Store L D T) (log : List E) : Prop where
  inv : P.inv s.data log
  free : ∀ k, s.session k = none → ∀ x, s.locks x ≠ some k
  holds : ∀ k t, s.session k = some t → P.holds t (fun x => s.locks x = some k) s.data

variable {P : Assertions L D T E} {p : Program L D T Task A X E} {s s' : Store L D T} {log es : List E}

lemma Assertions.good_idle {d : D} (h : P.inv d []) : P.Good (Store.idle d) [] where
  inv := h
  free _ _ _ hx := by cases hx
  holds _ _ ht := by cases ht

lemma Store.released_other {k j : Nat} (hj : j ≠ k) :
    (fun x => s.released k x = some j) = fun x => s.locks x = some j := by
  funext x
  apply propext
  unfold Store.released
  by_cases hx : s.locks x = some k
  · simp only [hx, if_true, some.injEq]
    constructor
    · intro h; cases h
    · intro h; exact absurd h.symm hj
  · rw [if_neg hx]

lemma Store.released_self {k : Nat} : (fun x => s.released k x = some k) = fun _ => False := by
  funext x
  apply propext
  unfold Store.released
  by_cases hx : s.locks x = some k <;> simp [hx]

lemma Assertions.Good.end (h : P.Good s log) (k : Nat) :
    P.Good { s with locks := s.released k, session := Function.update s.session k none } log where
  inv := h.inv
  free j hj x hx := by
    by_cases hjk : j = k
    · subst hjk
      exact (congrFun Store.released_self x).mp hx
    · simp only [update_of_ne hjk] at hj
      exact h.free j hj x ((congrFun (Store.released_other hjk) x).mp hx)
  holds j t ht := by
    by_cases hj : j = k
    · subst hj
      simp at ht
    simp only [update_of_ne hj] at ht
    simp only [Store.released_other hj]
    exact h.holds j t ht

lemma Assertions.Good.goOn (h : P.Good s log) {k : Nat} {t' : T} {locks : L → Option Nat}
    (hother : ∀ j, j ≠ k → (fun x => locks x = some j) = fun x => s.locks x = some j)
    (hk : P.holds t' (fun x => locks x = some k) s.data) :
    P.Good { s with locks := locks, session := Function.update s.session k (some t') } log where
  inv := h.inv
  free j hj x hx := by
    by_cases hjk : j = k
    · subst hjk
      simp at hj
    · simp only [update_of_ne hjk] at hj
      exact h.free j hj x ((congrFun (hother j hjk) x).mp hx)
  holds j u hu := by
    by_cases hj : j = k
    · subst hj
      simp only [update_self, some.injEq] at hu
      subst hu
      exact hk
    · simp only [update_of_ne hj] at hu
      simp only [hother j hj]
      exact h.holds j u hu

variable [DecidableEq L]

lemma Assertions.Kept.perform (hP : P.Kept p) (h : P.Good s log) {k : Nat} {t : T} {a : A}
    (ht : s.session k = some t) {e : Effect L D T E} (hn : p.next t a s.data = some e)
    (hs : s.perform k e = some (s', es)) : P.Good s' (log ++ es) := by
  have hk := h.holds k t ht
  cases e with
  | goOn t' =>
    simp only [Store.perform, some.injEq, Prod.mk.injEq] at hs
    obtain ⟨rfl, rfl⟩ := hs
    rw [append_nil]
    exact h.goOn (fun j _ => rfl) (hP.goOn t _ a _ log t' h.inv hk hn)
  | lock x t' =>
    simp only [Store.perform] at hs
    split at hs
    · next hfree =>
      simp only [some.injEq, Prod.mk.injEq] at hs
      obtain ⟨rfl, rfl⟩ := hs
      rw [append_nil]
      refine h.goOn (fun j hj => ?_) ?_
      · funext y
        apply propext
        by_cases hy : y = x
        · subst hy
          rcases hfree with hf | hf <;> simp [hf, Ne.symm hj]
        · rw [update_of_ne hy]
      have hset : (fun y => update s.locks x (some k) y = some k) =
          fun y => y = x ∨ s.locks y = some k := by
        funext y
        apply propext
        by_cases hy : y = x
        · subst hy; simp
        · simp [hy]
      rw [hset]
      exact hP.lock t _ a _ log x t' h.inv hk hn
    · cases hs
  | commit d es' t' =>
    simp only [Store.perform, some.injEq, Prod.mk.injEq] at hs
    obtain ⟨rfl, rfl⟩ := hs
    obtain ⟨hinv, hnext⟩ := hP.commit t _ a _ log d es' t' h.inv hk hn
    refine ⟨hinv, fun j hj x hx => ?_, fun j u hu => ?_⟩
    · by_cases hjk : j = k
      · subst hjk
        exact (congrFun Store.released_self x).mp hx
      · simp only [update_of_ne hjk] at hj
        exact h.free j hj x ((congrFun (Store.released_other hjk) x).mp hx)
    by_cases hj : j = k
    · subst hj
      simp only [update_self] at hu
      simp only [Store.released_self]
      exact hnext u hu
    simp only [update_of_ne hj] at hu
    simp only [Store.released_other hj]
    refine hP.stable t _ a _ log d es' t' u _ h.inv hk hn (h.holds j u hu) fun x hx hx' => ?_
    rw [hx] at hx'
    exact hj (some.inj hx')
  | rollback =>
    simp only [Store.perform, some.injEq, Prod.mk.injEq] at hs
    obtain ⟨rfl, rfl⟩ := hs
    rw [append_nil]
    exact h.end k

/-- **One step keeps the assertions.** -/
theorem Assertions.Kept.step (hP : P.Kept p) (h : P.Good s log) {a : Action Task A X}
    (hs : p.step s a = some (s', es)) : P.Good s' (log ++ es) := by
  cases a with
  | deliver k task =>
    simp only [Program.step] at hs
    split at hs
    · next hnone =>
      simp only [some.injEq, Prod.mk.injEq] at hs
      obtain ⟨rfl, rfl⟩ := hs
      rw [append_nil]
      -- a session that takes up a task holds no lock
      have hfree : (fun x => s.locks x = some k) = fun _ => False := by
        funext x
        exact propext ⟨h.free k (isNone_iff_eq_none.1 hnone) x, False.elim⟩
      refine h.goOn (fun j _ => rfl) ?_
      rw [hfree]
      exact hP.enter task _ log h.inv
    · cases hs
  | run k a =>
    obtain ⟨t, e, ht, hn, hs⟩ := Program.step_run_iff.1 hs
    exact hP.perform h ht hn hs
  | crash k =>
    simp only [Program.step, some.injEq, Prod.mk.injEq] at hs
    obtain ⟨rfl, rfl⟩ := hs
    rw [append_nil]
    exact h.end k
  | pass x =>
    simp only [Program.step, some.injEq, Prod.mk.injEq] at hs
    obtain ⟨rfl, rfl⟩ := hs
    rw [append_nil]
    exact ⟨hP.pass x _ log h.inv, h.free, fun k t ht => hP.passHolds x _ log t _ h.inv (h.holds k t ht)⟩

/-- **The assertions hold in every state of every run.** -/
theorem Assertions.Kept.run (hP : P.Kept p) {s₀ : Store L D T} (h₀ : P.Good s₀ [])
    {as : List (Action Task A X)} (h : Run p.machine s₀ as s log) : P.Good s log :=
  h.invariant P.Good h₀ fun _ _ _ _ _ hg hs => hP.step hg hs

end Kept

/-! ## Assertions on top of others -/

section On

variable {L D T Task A X E : Type}

def Assertions.and (B P : Assertions L D T E) : Assertions L D T E where
  inv d log := B.inv d log ∧ P.inv d log
  holds t H d := B.holds t H d ∧ P.holds t H d

/-- Assertions that are kept where those of `B` hold. -/
structure Assertions.KeptOn (B P : Assertions L D T E) (p : Program L D T Task A X E) : Prop where
  enter : ∀ task d log, B.inv d log → P.inv d log → P.holds (p.enter task) (fun _ => False) d
  goOn : ∀ t H a d log t', (B.and P).inv d log → (B.and P).holds t H d →
    p.next t a d = some (.goOn t') → P.holds t' H d
  lock : ∀ t H a d log x t', (B.and P).inv d log → (B.and P).holds t H d →
    p.next t a d = some (.lock x t') → P.holds t' (fun y => y = x ∨ H y) d
  commit : ∀ t H a d log d' es t', (B.and P).inv d log → (B.and P).holds t H d →
    p.next t a d = some (.commit d' es t') →
    P.inv d' (log ++ es) ∧ ∀ u, t' = some u → P.holds u (fun _ => False) d'
  stable : ∀ t H a d log d' es t' u G, (B.and P).inv d log → (B.and P).holds t H d →
    p.next t a d = some (.commit d' es t') → (B.and P).holds u G d → (∀ x, G x → ¬ H x) → P.holds u G d'
  pass : ∀ x d log, (B.and P).inv d log → P.inv (p.pass x d) log
  passHolds : ∀ x d log u G, (B.and P).inv d log → (B.and P).holds u G d → P.holds u G (p.pass x d)

variable {p : Program L D T Task A X E}

lemma Assertions.KeptOn.and {B P : Assertions L D T E} (hB : B.Kept p)
    (hP : B.KeptOn P p) : (B.and P).Kept p where
  enter task d log h := ⟨hB.enter task d log h.1, hP.enter task d log h.1 h.2⟩
  goOn t H a d log t' h ht hn := ⟨hB.goOn t H a d log t' h.1 ht.1 hn, hP.goOn t H a d log t' h ht hn⟩
  lock t H a d log x t' h ht hn := ⟨hB.lock t H a d log x t' h.1 ht.1 hn, hP.lock t H a d log x t' h ht hn⟩
  commit t H a d log d' es t' h ht hn := by
    obtain ⟨hb, hb'⟩ := hB.commit t H a d log d' es t' h.1 ht.1 hn
    obtain ⟨hp, hp'⟩ := hP.commit t H a d log d' es t' h ht hn
    exact ⟨⟨hb, hp⟩, fun u hu => ⟨hb' u hu, hp' u hu⟩⟩
  stable t H a d log d' es t' u G h ht hn hu hG :=
    ⟨hB.stable t H a d log d' es t' u G h.1 ht.1 hn hu.1 hG, hP.stable t H a d log d' es t' u G h ht hn hu hG⟩
  pass x d log h := ⟨hB.pass x d log h.1, hP.pass x d log h⟩
  passHolds x d log u G h hu := ⟨hB.passHolds x d log u G h.1 hu.1, hP.passHolds x d log u G h hu⟩

lemma Assertions.Kept.restrict {B : Assertions L D T E} (hB : B.Kept p)
    (C : T → A → D → Bool) : B.Kept (p.restrict C) where
  enter := hB.enter
  goOn t H a d log t' h ht hn := hB.goOn t H a d log t' h ht (Program.next_of_restrict hn).2
  lock t H a d log x t' h ht hn := hB.lock t H a d log x t' h ht (Program.next_of_restrict hn).2
  commit t H a d log d' es t' h ht hn := hB.commit t H a d log d' es t' h ht (Program.next_of_restrict hn).2
  stable t H a d log d' es t' u G h ht hn :=
    hB.stable t H a d log d' es t' u G h ht (Program.next_of_restrict hn).2
  pass := hB.pass
  passHolds := hB.passHolds

/-- **The invariant rule over assertions**: what every commit keeps holds after every run. -/
theorem Assertions.Kept.invariant [DecidableEq L] {B : Assertions L D T E}
    (hB : B.Kept p) (I : D → List E → Prop)
    (hcommit : ∀ t H a d log d' es t', B.inv d log → B.holds t H d →
      p.next t a d = some (.commit d' es t') → I d log → I d' (log ++ es))
    (hpass : ∀ x d log, I d log → I (p.pass x d) log)
    {s₀ s : Store L D T} {as : List (Action Task A X)} {log : List E} (h₀ : B.Good s₀ []) (hI : I s₀.data [])
    (h : Run p.machine s₀ as s log) : B.Good s log ∧ I s.data log := by
  have hkept : B.KeptOn ⟨I, fun _ _ _ => True⟩ p :=
    { enter := fun _ _ _ _ _ => trivial
      goOn := fun _ _ _ _ _ _ _ _ _ => trivial
      lock := fun _ _ _ _ _ _ _ _ _ _ => trivial
      commit := fun t H a d log d' es t' hd ht hn =>
        ⟨hcommit t H a d log d' es t' hd.1 ht.1 hn hd.2, fun _ _ => trivial⟩
      stable := fun _ _ _ _ _ _ _ _ _ _ _ _ _ _ _ => trivial
      pass := fun x d log hd => hpass x d log hd.2
      passHolds := fun _ _ _ _ _ _ _ => trivial }
  have h₀' : (B.and ⟨I, fun _ _ _ => True⟩).Good s₀ [] :=
    ⟨⟨h₀.inv, hI⟩, h₀.free, fun k t ht => ⟨h₀.holds k t ht, trivial⟩⟩
  have hgood := (Assertions.KeptOn.and hB hkept).run h₀' h
  exact ⟨⟨hgood.inv.1, hgood.free, fun k t ht => (hgood.holds k t ht).1⟩, hgood.inv.2⟩

end On

end Transactions
