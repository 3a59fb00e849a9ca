import Mathlib

/-!
# Machines and their runs

A system of tasks that share a state: in each step one task acts, and the step logs
what can be seen from outside.  A run is any sequence of steps, so a statement about
all runs is a statement about all interleavings.

    an invariant of state and log that one step keeps holds after every run   (Run.invariant)
    what each event needs of the log before it is such an invariant           (Guarded)
-/

namespace Machines

open List

/-- An action may be possible in a state; it leads to a next state and logs some events. -/
structure Machine (S A E : Type) where
  step : S → A → Option (S × List E)

variable {S A E : Type}

/-- From `s₀` the machine gets to `s` by the actions, and logs `log`. -/
inductive Run (m : Machine S A E) (s₀ : S) : List A → S → List E → Prop
  | start : Run m s₀ [] s₀ []
  | step {as : List A} {s s' : S} {log es : List E} {a : A} :
      Run m s₀ as s log → m.step s a = some (s', es) → Run m s₀ (as ++ [a]) s' (log ++ es)

variable {m : Machine S A E}

variable {as : List A}

/-- **The invariant rule.** -/
theorem Run.invariant {s₀ s : S} {log : List E} (I : S → List E → Prop) (h₀ : I s₀ [])
    (hstep : ∀ s log a s' es, I s log → m.step s a = some (s', es) → I s' (log ++ es))
    (h : Run m s₀ as s log) : I s log := by
  induction h with
  | start => exact h₀
  | step _ hs ih => exact hstep _ _ _ _ _ ih hs

def Machine.exec (m : Machine S A E) (s : S) : List A → Option (S × List E)
  | [] => some (s, [])
  | a :: as =>
    match m.step s a with
    | none => none
    | some (s', es) => (m.exec s' as).map fun r => (r.1, es ++ r.2)

lemma Run.append_exec {s₀ s s' : S} {as bs : List A} {log es : List E}
    (h : Run m s₀ as s log) (he : m.exec s bs = some (s', es)) : Run m s₀ (as ++ bs) s' (log ++ es) := by
  induction bs generalizing as s log es with
  | nil =>
    simp only [Machine.exec, Option.some.injEq, Prod.mk.injEq] at he
    obtain ⟨rfl, rfl⟩ := he
    simpa using h
  | cons b bs ih =>
    unfold Machine.exec at he
    split at he
    · cases he
    next t ts hstep =>
    obtain ⟨⟨s'', es'⟩, hrest, heq⟩ := Option.map_eq_some_iff.1 he
    cases heq
    rw [append_cons, ← append_assoc]
    exact ih (h.step hstep) hrest

/-- `exec` runs the machine. -/
lemma Run.of_exec {s₀ s : S} {log : List E} (h : m.exec s₀ as = some (s, log)) : Run m s₀ as s log :=
  Run.start.append_exec h

lemma Run.exists_of_exec {s₀ : S} {Q : S → List E → Prop} (p : S × List E → Bool)
    (h : (m.exec s₀ as).any p = true) (hQ : ∀ s log, Run m s₀ as s log → p (s, log) = true → Q s log) :
    ∃ s log, Run m s₀ as s log ∧ Q s log := by
  obtain ⟨⟨s, log⟩, hexec, hp⟩ := (Option.any_eq_true _ _).1 h
  exact ⟨s, log, Run.of_exec hexec, hQ s log (Run.of_exec hexec) hp⟩

/-- Each event of the log stands in `P` to the events before it. -/
def Guarded (P : List E → E → Prop) (log : List E) : Prop := ∀ pre e post, log = pre ++ e :: post → P pre e

section Guarded

variable {P : List E → E → Prop} {log es : List E}

lemma guarded_nil : Guarded P ([] : List E) := by
  intro pre e post h
  simp at h

lemma Guarded.concat {e : E} (h : Guarded P log) (he : P log e) : Guarded P (log ++ [e]) := by
  intro pre e' post heq
  rcases eq_nil_or_concat post with rfl | ⟨post', last, rfl⟩
  · obtain ⟨rfl, hlast⟩ := append_inj' heq rfl
    cases hlast
    exact he
  rw [concat_eq_append, ← cons_append, ← append_assoc] at heq
  obtain ⟨heq, -⟩ := append_inj' heq rfl
  exact h pre e' post' heq

lemma Guarded.append (h : Guarded P log) (hes : ∀ e ∈ es, ∀ pre, P pre e) : Guarded P (log ++ es) := by
  induction es generalizing log with
  | nil => simpa using h
  | cons e es ih =>
    rw [append_cons]
    exact ih (h.concat (hes e mem_cons_self log)) fun e' he' => hes e' (mem_cons_of_mem _ he')

end Guarded

end Machines
