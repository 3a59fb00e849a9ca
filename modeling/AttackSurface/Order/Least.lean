import Mathlib

/-!
# The first `n` of a sorted list

`sorted(l)[:n]` for a linear order keeps the `n` least elements.  If `l` is made of `c` and `d`,
and nothing of `d` comes before anything of `c`, then the first elements of the sorted list are
those of `c` (`take_insertionSort`).
-/

namespace LeastOf

open List

variable {α : Type} (r : α → α → Prop) [DecidableRel r] [Std.Total r] [IsTrans α r]

lemma rel_of_take_drop (l : List α) (n : Nat) :
    ∀ x ∈ (l.insertionSort r).take n, ∀ y ∈ (l.insertionSort r).drop n, r x y := by
  have hsorted := pairwise_insertionSort r l
  rw [← take_append_drop n (l.insertionSort r)] at hsorted
  exact (pairwise_append.1 hsorted).2.2

variable [Std.Antisymm r]

lemma insertionSort_append {l c d : List α} (hl : l.Perm (c ++ d)) (hle : ∀ x ∈ c, ∀ y ∈ d, r x y) :
    l.insertionSort r = c.insertionSort r ++ d.insertionSort r := by
  have hperm : (l.insertionSort r).Perm (c.insertionSort r ++ d.insertionSort r) :=
    (perm_insertionSort r l).trans (hl.trans
      ((perm_insertionSort r c).append (perm_insertionSort r d)).symm)
  refine Perm.eq_of_pairwise' (r := r) (pairwise_insertionSort r l) ?_ hperm
  refine pairwise_append.2 ⟨pairwise_insertionSort r c, pairwise_insertionSort r d, ?_⟩
  intro x hx y hy
  exact hle x ((mem_insertionSort r).1 hx) y ((mem_insertionSort r).1 hy)

lemma take_insertionSort {l c d : List α} (hl : l.Perm (c ++ d)) (hle : ∀ x ∈ c, ∀ y ∈ d, r x y) :
    (l.insertionSort r).take c.length = c.insertionSort r := by
  rw [insertionSort_append r hl hle, take_left' (length_insertionSort r c)]

end LeastOf
