import Mathlib

/-!
# `row_number() over (partition by … order by …)`

The window function that numbers the rows of each partition in a given order, and the rows
whose number is at most `n`.  Rows that the order does not tell apart may come in any order;
this is left to the list that `topPer` is given.
-/

namespace SqlWindow

open List

variable {α κ : Type} [DecidableEq κ]

/-- Each row with its number among the rows of the same key; `seen` are the keys before. -/
def numbered (key : α → κ) : List κ → List α → List (α × Nat)
  | _, [] => []
  | seen, a :: l => (a, seen.count (key a) + 1) :: numbered key (key a :: seen) l

variable (key : α → κ) (n : Nat)

/-- The rows with number at most `n`. -/
def topPer (l : List α) : List α :=
  ((numbered key [] l).filter fun e => decide (e.2 ≤ n)).map Prod.fst

lemma map_fst_numbered (seen : List κ) (l : List α) : (numbered key seen l).map Prod.fst = l := by
  induction l generalizing seen with
  | nil => rfl
  | cons a l ih => rw [numbered, map_cons, ih]

lemma mem_of_mem_topPer {key : α → κ} {n : Nat} {l : List α} {a : α} (h : a ∈ topPer key n l) : a ∈ l := by
  obtain ⟨e, he, rfl⟩ := List.mem_map.1 h
  rw [← map_fst_numbered key [] l]
  exact List.mem_map.2 ⟨e, (mem_filter.1 he).1, rfl⟩

lemma countP_numbered (k : κ) (seen : List κ) (l : List α) :
    ((numbered key seen l).filter fun e => decide (e.2 ≤ n)).countP (fun e => decide (key e.1 = k)) =
      min (n - seen.count k) (l.countP fun a => decide (key a = k)) := by
  induction l generalizing seen with
  | nil => simp [numbered]
  | cons a l ih =>
    rw [numbered, filter_cons, countP_cons]
    by_cases hk : key a = k
    · subst hk
      split
      · next hle =>
        rw [countP_cons, ih]
        simp only [decide_eq_true_eq, count_cons_self] at hle ⊢
        simp only [if_true]
        omega
      · next hle =>
        rw [ih]
        simp only [decide_eq_true_eq, count_cons_self] at hle ⊢
        simp only [if_true]
        omega
    · have hcount : (key a :: seen).count k = seen.count k := count_cons_of_ne hk
      split
      · rw [countP_cons, ih, hcount]
        simp [hk]
      · rw [ih, hcount]
        simp [hk]

/-- Of each key the first `n` rows are taken. -/
lemma countP_topPer (l : List α) (k : κ) :
    (topPer key n l).countP (fun a => decide (key a = k)) = min n (l.countP fun a => decide (key a = k)) := by
  rw [topPer, countP_map]
  exact countP_numbered key n k [] l

example : topPer (· % 2) 2 [1, 3, 2, 5, 4, 6] = [1, 3, 2, 4] := by decide

end SqlWindow
