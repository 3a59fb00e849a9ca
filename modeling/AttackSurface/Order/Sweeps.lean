import Mathlib

/-!
# Closing a set by sweeps in place

A set of marked elements is closed under a relation by sweeping over a list: an element is
marked when it is an origin or has a marked neighbour, and what was marked counts for the rest
of the same sweep.  How far a sweep gets depends on the order of the list.

`layer n` is what rounds without that head start reach, and `Closure` is what is to be reached:

    layer n  ⊆  n sweeps in any order  ⊆  Closure      (layer_subset_sweeps, sweeps_subset)
    n sweeps in some order  ⊆  layer n                 (exists_slow_order)

so that `n` sweeps are enough in every order exactly when the closure ends at layer `n`.
-/

namespace Sweeps

open List Function

variable {α : Type*} (origin : α → Prop) (edge : α → α → Prop)

def mark (s : Set α) (k : α) : Set α := {x | x ∈ s ∨ x = k ∧ (origin k ∨ ∃ m ∈ s, edge m k)}

def sweep (keys : List α) (s : Set α) : Set α := keys.foldl (mark origin edge) s

/-- What is reached in `n` rounds that look at the marks of the round before. -/
def layer (keys : List α) (s : Set α) : ℕ → Set α
  | 0 => s
  | n + 1 => {x | x ∈ layer keys s n ∨ x ∈ keys ∧ (origin x ∨ ∃ m ∈ layer keys s n, edge m x)}

/-- What can be reached at all. -/
inductive Closure (s : Set α) : α → Prop
  | base {x : α} : x ∈ s → Closure s x
  | start {x : α} : origin x → Closure s x
  | step {m x : α} : Closure s m → edge m x → Closure s x

variable {origin edge} {keys : List α} {s t : Set α}

lemma subset_mark (k : α) : s ⊆ mark origin edge s k := fun _ hx => .inl hx

lemma subset_sweep : s ⊆ sweep origin edge keys s := by
  induction keys generalizing s with
  | nil => exact subset_rfl
  | cons k keys ih => exact (subset_mark k).trans ih

lemma mark_mono (h : s ⊆ t) (k : α) : mark origin edge s k ⊆ mark origin edge t k := by
  rintro x (hx | ⟨rfl, hx⟩)
  · exact .inl (h hx)
  refine .inr ⟨rfl, ?_⟩
  rcases hx with hx | ⟨m, hm, he⟩
  · exact .inl hx
  · exact .inr ⟨m, h hm, he⟩

lemma sweep_mono (h : s ⊆ t) : sweep origin edge keys s ⊆ sweep origin edge keys t := by
  induction keys generalizing s t with
  | nil => exact h
  | cons k keys ih => exact ih (mark_mono h k)

lemma sweep_subset (h : ∀ x ∈ t, Closure origin edge s x) :
    ∀ x ∈ sweep origin edge keys t, Closure origin edge s x := by
  induction keys generalizing t with
  | nil => exact h
  | cons k keys ih =>
    refine ih ?_
    rintro x (hx | ⟨rfl, hx | ⟨m, hm, he⟩⟩)
    · exact h x hx
    · exact .start hx
    · exact .step (h m hm) he

lemma sweeps_subset (n : ℕ) : ∀ x ∈ (sweep origin edge keys)^[n] s, Closure origin edge s x := by
  induction n with
  | zero => exact fun x hx => .base hx
  | succ n ih =>
    rw [iterate_succ_apply']
    exact sweep_subset ih

lemma mem_sweep {x : α} (hx : x ∈ keys) (h : origin x ∨ ∃ m ∈ s, edge m x) : x ∈ sweep origin edge keys s := by
  induction keys generalizing s with
  | nil => cases hx
  | cons k keys ih =>
    rcases mem_cons.1 hx with rfl | hx
    · show x ∈ sweep origin edge keys (mark origin edge s x)
      exact subset_sweep (show x ∈ mark origin edge s x from .inr ⟨rfl, h⟩)
    refine ih hx ?_
    rcases h with h | ⟨m, hm, he⟩
    · exact .inl h
    · exact .inr ⟨m, .inl hm, he⟩

lemma layer_subset_sweeps (n : ℕ) : layer origin edge keys s n ⊆ (sweep origin edge keys)^[n] s := by
  induction n with
  | zero => exact subset_rfl
  | succ n ih =>
    rw [iterate_succ_apply']
    rintro x (hx | ⟨hk, hx⟩)
    · exact subset_sweep (ih hx)
    refine mem_sweep hk ?_
    rcases hx with hx | ⟨m, hm, he⟩
    · exact .inl hx
    · exact .inr ⟨m, ih hm, he⟩

lemma layer_mono {m n : ℕ} (h : m ≤ n) : layer origin edge keys s m ⊆ layer origin edge keys s n := by
  induction h with
  | refl => exact subset_rfl
  | step _ ih => exact ih.trans fun _ hx => .inl hx

lemma layer_congr {keys' : List α} (h : ∀ x, x ∈ keys ↔ x ∈ keys') (n : ℕ) :
    layer origin edge keys s n = layer origin edge keys' s n := by
  induction n with
  | zero => rfl
  | succ n ih => simp only [layer, ih, h]

/-! ## The slowest order -/

variable (origin edge keys s) in
def Nearer (a b : α) : Prop := ∀ n, a ∈ layer origin edge keys s n → b ∈ layer origin edge keys s n

lemma nearer_total (a b : α) : Nearer origin edge keys s a b ∨ Nearer origin edge keys s b a := by
  by_cases h : Nearer origin edge keys s a b
  · exact .inl h
  right
  unfold Nearer at h
  push Not at h
  obtain ⟨m, ha, hb⟩ := h
  intro n hn
  by_cases hle : n ≤ m
  · exact absurd (layer_mono hle hn) hb
  · exact layer_mono (by omega) ha

lemma sweep_layer {l : List α} (hl : ∀ x ∈ l, x ∈ keys) (hsorted : l.Pairwise (Nearer origin edge keys s))
    {n : ℕ} (ht : ∀ x ∈ t, x ∈ layer origin edge keys s n ∨
      x ∈ layer origin edge keys s (n + 1) ∧ ∀ b ∈ l, Nearer origin edge keys s x b) :
    sweep origin edge l t ⊆ layer origin edge keys s (n + 1) := by
  induction l generalizing t with
  | nil =>
    intro x hx
    rcases ht x hx with h | h
    · exact .inl h
    · exact h.1
  | cons k l ih =>
    obtain ⟨hk, hsorted⟩ := pairwise_cons.1 hsorted
    refine ih (fun x hx => hl x (mem_cons_of_mem k hx)) hsorted ?_
    rintro x (hx | ⟨rfl, hx⟩)
    · rcases ht x hx with h | ⟨h, hb⟩
      · exact .inl h
      · exact .inr ⟨h, fun b hmem => hb b (mem_cons_of_mem k hmem)⟩
    refine .inr ⟨?_, hk⟩
    have hkey : x ∈ keys := hl x mem_cons_self
    rcases hx with hx | ⟨m, hm, he⟩
    · exact .inr ⟨hkey, .inl hx⟩
    -- a neighbour that was marked in this sweep came before, and is no nearer
    rcases ht m hm with h | ⟨h, hb⟩
    · exact .inr ⟨hkey, .inr ⟨m, h, he⟩⟩
    · exact hb x mem_cons_self _ h

/-- **The slowest order**: in some order every sweep gains one layer only. -/
theorem exists_slow_order (origin : α → Prop) (edge : α → α → Prop) (keys : List α) (s : Set α) :
    ∃ keys', keys'.Perm keys ∧ ∀ n, (sweep origin edge keys')^[n] s ⊆ layer origin edge keys s n := by
  classical
  have htotal : Std.Total (Nearer origin edge keys s) := ⟨nearer_total⟩
  have htrans : IsTrans α (Nearer origin edge keys s) := ⟨fun a b c hab hbc n ha => hbc n (hab n ha)⟩
  refine ⟨keys.insertionSort (Nearer origin edge keys s), perm_insertionSort _ _, fun n => ?_⟩
  have hsorted := pairwise_insertionSort (Nearer origin edge keys s) keys
  have hkeys : ∀ x ∈ keys.insertionSort (Nearer origin edge keys s), x ∈ keys :=
    fun x hx => (mem_insertionSort _).1 hx
  induction n with
  | zero => exact subset_rfl
  | succ n ih =>
    rw [iterate_succ_apply']
    exact (sweep_mono ih).trans (sweep_layer hkeys hsorted fun x hx => .inl hx)

end Sweeps
