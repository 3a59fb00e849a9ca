import Mathlib

/-!
# Labelled steps

`Steps R s es t`: from `s` the steps of `R` lead to `t` and are labelled, in order, by
`es`.  For loops there is a rule about anything that adds up along a run:

    each round `x` has the price `price x`  →  the loop has the price `l.flatMap price`
                                                      (foldl_sum, foldlM_sum)

Prices are lists of items, so that the number of times an item is charged can be read off.
-/

namespace Machines

open List Option

variable {S E α β : Type}

inductive Steps (R : S → E → S → Prop) (s : S) : List E → S → Prop
  | nil : Steps R s [] s
  | snoc {es : List E} {t u : S} {e : E} : Steps R s es t → R t e u → Steps R s (es ++ [e]) u

variable {R : S → E → S → Prop} {s t u : S} {es fs : List E} {e : E}

lemma Steps.single (h : R s e t) : Steps R s [e] t := Steps.nil.snoc h

lemma Steps.trans (h₁ : Steps R s es t) (h₂ : Steps R t fs u) : Steps R s (es ++ fs) u := by
  induction h₂ with
  | nil => rwa [append_nil]
  | snoc _ hstep ih =>
    rw [← append_assoc]
    exact ih.snoc hstep

lemma Steps.cons (h : R s e t) (hs : Steps R t es u) : Steps R s (e :: es) u := (Steps.single h).trans hs

/-- **The invariant rule**, for an invariant of the labels so far and the state. -/
theorem Steps.invariant (I : List E → S → Prop) (h₀ : I [] s)
    (hstep : ∀ es t e u, I es t → R t e u → I (es ++ [e]) u) (h : Steps R s es t) : I es t := by
  induction h with
  | nil => exact h₀
  | snoc _ hs ih => exact hstep _ _ _ _ ih hs

lemma Steps.preserves (I : S → Prop) (hstep : ∀ t e u, I t → R t e u → I u)
    (h : Steps R s es t) (h₀ : I s) : I t :=
  h.invariant (fun _ t => I t) h₀ fun _ t e u => hstep t e u

lemma Steps.split (h : Steps R s (es ++ fs) u) : ∃ t, Steps R s es t ∧ Steps R t fs u := by
  induction fs using reverseRecOn generalizing u with
  | nil => exact ⟨u, by rwa [append_nil] at h, .nil⟩
  | append_singleton fs e ih =>
    rw [← append_assoc] at h
    generalize hall : es ++ fs ++ [e] = all at h
    cases h with
    | nil => simp at hall
    | snoc hpre hstep =>
      obtain ⟨rfl, heq⟩ := append_inj' hall rfl
      cases heq
      obtain ⟨t, h₁, h₂⟩ := ih hpre
      exact ⟨t, h₁, h₂.snoc hstep⟩

section Functions

/-! Machines that are given by a function; a label carries the state before. -/

variable {f : S → E → Option S}

def runAll (f : S → E → Option S) (s : S) : List E → Option S
  | [] => some s
  | e :: es => (f s e).bind fun t => runAll f t es

def trace (f : S → E → Option S) (s : S) : List E → List (S × E)
  | [] => []
  | e :: es => (s, e) :: ((f s e).map fun t => trace f t es).getD []

lemma runAll_steps (h : runAll f s es = some t) :
    Steps (fun s (l : S × E) t => l.1 = s ∧ f s l.2 = some t) s (trace f s es) t := by
  induction es generalizing s with
  | nil =>
    cases h
    exact .nil
  | cons e es ih =>
    obtain ⟨u, hu, hrest⟩ := bind_eq_some_iff.1 h
    rw [trace, hu]
    exact .cons ⟨rfl, hu⟩ (ih hrest)

lemma exists_steps {Q : List (S × E) → S → Prop} (es : List E) (p : S → Bool) (h : (runAll f s es).any p = true)
    (hQ : ∀ t, Steps (fun s (l : S × E) t => l.1 = s ∧ f s l.2 = some t) s (trace f s es) t → p t = true →
      Q (trace f s es) t) :
    ∃ ls t, Steps (fun s (l : S × E) t => l.1 = s ∧ f s l.2 = some t) s ls t ∧ Q ls t := by
  obtain ⟨t, ht, hp⟩ := (Option.any_eq_true _ _).1 h
  exact ⟨_, t, runAll_steps ht, hQ t (runAll_steps ht) hp⟩

def labels (g : S → E → S) (s : S) : List E → List (S × E)
  | [] => []
  | e :: es => (s, e) :: labels g (g s e) es

lemma foldl_steps (g : S → E → S) (s : S) (es : List E) :
    Steps (fun s (l : S × E) t => l.1 = s ∧ g s l.2 = t) s (labels g s es) (es.foldl g s) := by
  induction es generalizing s with
  | nil => exact .nil
  | cons e es ih => exact .cons ⟨rfl, rfl⟩ (ih (g s e))

end Functions

section Order

/-! Two events of a run, one after the other. -/

lemma pair_sublist_concat {a b c : α} {l : List α} (h : [a, b].Sublist (l ++ [c])) :
    [a, b].Sublist l ∨ a ∈ l ∧ b = c := by
  obtain ⟨l₁, l₂, heq, hl, hc⟩ := sublist_append_iff.1 h
  rcases l₁ with _ | ⟨x, _ | ⟨y, l₁⟩⟩
  · obtain rfl : l₂ = [a, b] := heq.symm
    exact absurd hc.length_le (by simp)
  · obtain ⟨rfl, rfl⟩ : a = x ∧ [b] = l₂ := by simpa using heq
    exact .inr ⟨singleton_sublist.1 hl, mem_singleton.1 (singleton_sublist.1 hc)⟩
  · obtain ⟨rfl, rfl, rfl, rfl⟩ : a = x ∧ b = y ∧ l₁ = [] ∧ l₂ = [] := by simpa using heq
    exact .inl hl

lemma getLast?_ne_of_pair {a b : α} {l : List α} (hnodup : l.Nodup) (h : [a, b].Sublist l) :
    l.getLast? ≠ some a := by
  intro hlast
  obtain ⟨l', rfl⟩ := getLast?_eq_some_iff.1 hlast
  rcases pair_sublist_concat h with hsub | ⟨hmem, _⟩
  · exact (nodup_append.1 hnodup).2.2 a (hsub.subset (by simp)) a (by simp) rfl
  · exact (nodup_append.1 hnodup).2.2 a hmem a (by simp) rfl

end Order

section Loops

lemma subperm_flatMap {l₁ l₂ : List α} (h : l₁.Subperm l₂) (price : α → List β) :
    (l₁.flatMap price).Subperm (l₂.flatMap price) := by
  obtain ⟨l, hperm, hsub⟩ := h
  exact (hperm.flatMap_right price).symm.subperm.trans (hsub.flatMap price).subperm

-- `P s p t`: from `s` to `t` at the price `p`
variable {P : S → List β → S → Prop} {I : S → Prop} {price : α → List β}
  (hnil : ∀ t, I t → P t [] t)
  (hadd : ∀ t p u q v, P t p u → P u q v → P t (p ++ q) v)

include hnil hadd

/-- A loop whose rounds keep `I` and have their price. -/
lemma foldl_sum {f : S → α → S} {l : List α} (hI : I s)
    (h : ∀ t x, x ∈ l → I t → I (f t x) ∧ P t (price x) (f t x)) :
    I (l.foldl f s) ∧ P s (l.flatMap price) (l.foldl f s) := by
  induction l generalizing s with
  | nil => exact ⟨hI, hnil s hI⟩
  | cons x l ih =>
    obtain ⟨hI', hround⟩ := h s x mem_cons_self hI
    obtain ⟨hI'', hrest⟩ := ih hI' fun t y hy => h t y (mem_cons_of_mem _ hy)
    exact ⟨hI'', hadd _ _ _ _ _ hround hrest⟩

/-- A loop that may stop with an exception (`none`). -/
lemma foldlM_sum {f : S → α → Option S} {l : List α} (hI : I s) (hrun : l.foldlM f s = some u)
    (h : ∀ t x t', x ∈ l → I t → f t x = some t' → I t' ∧ P t (price x) t') :
    I u ∧ P s (l.flatMap price) u := by
  induction l generalizing s with
  | nil =>
    cases hrun
    exact ⟨hI, hnil _ hI⟩
  | cons x l ih =>
    rw [foldlM_cons, bind_eq_bind, bind_eq_some_iff] at hrun
    obtain ⟨t, hround, hrun⟩ := hrun
    obtain ⟨hI', hround⟩ := h s x t mem_cons_self hI hround
    obtain ⟨hI'', hrest⟩ := ih hI' hrun fun t y t' hy => h t y t' (mem_cons_of_mem _ hy)
    exact ⟨hI'', hadd _ _ _ _ _ hround hrest⟩

end Loops

end Machines
