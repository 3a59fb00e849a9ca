import Mathlib

/-!
# Sets of numbers as lists of intervals

A list of pairs `(lo, hi)` stands for the numbers covered by one of them.  A list is
*canonical* if its intervals are non-empty, in order, and neither overlap nor touch:
then the set determines the list (`Canonical.ext`), and the set's size is the sum of the
intervals' lengths (`Canonical.ncard`).

Joining an interval to the last one of such a list, or putting it behind, keeps the list
canonical as long as the intervals come in the order of their lower ends (`Upto.join`,
`Upto.push`).
-/

namespace Intervals

open List

/-- `n` lies in one of the intervals. -/
def Covers (l : List (Nat × Nat)) (n : Nat) : Prop := ∃ r ∈ l, r.1 ≤ n ∧ n ≤ r.2

/-- Non-empty intervals in order with a gap between each two. -/
structure Canonical (l : List (Nat × Nat)) : Prop where
  gaps : l.Pairwise fun a b => a.2 + 1 < b.1
  nonempty : ∀ r ∈ l, r.1 ≤ r.2

def size (l : List (Nat × Nat)) : Nat := (l.map fun r => r.2 - r.1 + 1).sum

variable {l m : List (Nat × Nat)} {r : Nat × Nat} {n : Nat}

@[simp] lemma covers_nil : ¬ Covers [] n := by
  rintro ⟨r, h, -⟩
  cases h

@[simp] lemma covers_cons : Covers (r :: l) n ↔ (r.1 ≤ n ∧ n ≤ r.2) ∨ Covers l n := by
  simp [Covers]

lemma covers_congr_perm (h : l.Perm m) : Covers l n ↔ Covers m n := by
  simp only [Covers, h.mem_iff]

section

variable (h : Canonical (r :: l))

include h

lemma Canonical.tail : Canonical l :=
  ⟨(pairwise_cons.1 h.gaps).2, fun x hx => h.nonempty x (mem_cons_of_mem r hx)⟩

lemma Canonical.rest_gt (hn : Covers l n) : r.2 + 1 < n := by
  obtain ⟨x, hx, hlo, -⟩ := hn
  have hgap := (pairwise_cons.1 h.gaps).1 x hx
  omega

lemma Canonical.lo_le (hn : Covers (r :: l) n) : r.1 ≤ n := by
  rcases covers_cons.1 hn with hn | hn
  · exact hn.1
  have hlo := h.nonempty r (by simp)
  have hgt := h.rest_gt hn
  omega

lemma Canonical.covers_tail : Covers l n ↔ Covers (r :: l) n ∧ r.2 < n := by
  rw [covers_cons]
  constructor
  · intro hn
    have hgt := h.rest_gt hn
    exact ⟨.inr hn, by omega⟩
  rintro ⟨hn | hn, hlt⟩
  · omega
  · exact hn

lemma Canonical.not_covers_succ : ¬ Covers (r :: l) (r.2 + 1) := by
  intro hn
  have hgt := h.rest_gt (h.covers_tail.2 ⟨hn, Nat.lt_succ_self _⟩)
  omega

end

/-- **A set of numbers has one canonical list.** -/
theorem Canonical.ext (hl : Canonical l) (hm : Canonical m) (h : ∀ n, Covers l n ↔ Covers m n) : l = m := by
  induction l generalizing m with
  | nil =>
    cases m with
    | nil => rfl
    | cons s m =>
      have hs := hm.nonempty s (by simp)
      have : Covers [] s.1 := (h s.1).2 (by simp [hs])
      exact absurd this covers_nil
  | cons r l ih =>
    have hr := hl.nonempty r (by simp)
    cases m with
    | nil =>
      have : Covers [] r.1 := (h r.1).1 (by simp [hr])
      exact absurd this covers_nil
    | cons s m =>
      have hs := hm.nonempty s (by simp)
      -- the least covered number is the lower end of either first interval
      have hlo : r.1 = s.1 :=
        le_antisymm (hl.lo_le ((h s.1).2 (by simp [hs]))) (hm.lo_le ((h r.1).1 (by simp [hr])))
      -- and the first number beyond it that is not covered ends both
      have hhi : r.2 = s.2 := by
        have h1 := hl.not_covers_succ
        have h2 := hm.not_covers_succ
        rw [h, covers_cons] at h1
        rw [← h, covers_cons] at h2
        omega
      obtain rfl : r = s := Prod.ext hlo hhi
      rw [ih hl.tail hm.tail fun n => by rw [hl.covers_tail, hm.covers_tail, h]]

lemma setOf_covers_cons : {n | Covers (r :: l) n} = Set.Icc r.1 r.2 ∪ {n | Covers l n} := by
  ext n
  simp

lemma finite_covers (l : List (Nat × Nat)) : {n | Covers l n}.Finite := by
  induction l with
  | nil => simp
  | cons r l ih =>
    rw [setOf_covers_cons]
    exact (Set.finite_Icc r.1 r.2).union ih

/-- **The lengths of a canonical list add up to the size of its set.** -/
theorem Canonical.ncard (h : Canonical l) : {n | Covers l n}.ncard = size l := by
  induction l with
  | nil => simp [size]
  | cons r l ih =>
    have hdisj : Disjoint (Set.Icc r.1 r.2) {n | Covers l n} := by
      rw [Set.disjoint_left]
      intro n hn hc
      have := h.rest_gt hc
      have := hn.2
      omega
    have hcard : (Set.Icc r.1 r.2).ncard = r.2 - r.1 + 1 := by
      have := h.nonempty r (by simp)
      rw [Set.ncard_eq_toFinset_card', Set.toFinset_Icc, Nat.card_Icc]
      omega
    rw [setOf_covers_cons, Set.ncard_union_eq hdisj (Set.finite_Icc _ _) (finite_covers l), hcard, ih h.tail]
    simp [size]

/-! ## Adding an interval at the upper end -/

/-- A canonical list written backwards, none of whose intervals starts above `b`. -/
structure Upto (b : Nat) (l : List (Nat × Nat)) : Prop where
  canonical : Canonical l.reverse
  start : ∀ r ∈ l, r.1 ≤ b

lemma Upto.nil (b : Nat) : Upto b [] := ⟨⟨by simp, by simp⟩, by simp⟩

lemma Upto.mono {b c : Nat} (h : Upto b l) (hbc : b ≤ c) : Upto c l := by
  refine ⟨h.canonical, fun r hr => ?_⟩
  have := h.start r hr
  omega

lemma upto_cons {b : Nat} : Upto b (r :: l) ↔ r.1 ≤ r.2 ∧ r.1 ≤ b ∧ (∀ x ∈ l, x.2 + 1 < r.1) ∧ Upto b l := by
  constructor
  · rintro ⟨⟨hgaps, hne⟩, hs⟩
    rw [reverse_cons, pairwise_append] at hgaps
    refine ⟨hne r (by simp), hs r (by simp), ?_, ⟨hgaps.1, ?_⟩, ?_⟩
    · intro x hx
      exact hgaps.2.2 x (by simpa using hx) r (by simp)
    · intro x hx
      exact hne x (by simp_all)
    · intro x hx
      exact hs x (by simp [hx])
  rintro ⟨hne, hb, hgap, ⟨hgaps, hne'⟩, hs⟩
  refine ⟨⟨?_, ?_⟩, ?_⟩
  · rw [reverse_cons, pairwise_append]
    refine ⟨hgaps, by simp, ?_⟩
    intro x hx y hy
    rw [mem_singleton] at hy
    subst hy
    exact hgap x (by simpa using hx)
  · intro x hx
    rw [mem_reverse, mem_cons] at hx
    rcases hx with rfl | hx
    · exact hne
    · exact hne' x (by simpa using hx)
  · intro x hx
    rcases mem_cons.1 hx with rfl | hx
    · exact hb
    · exact hs x hx

/-- **An interval that starts at or above the last one and touches it** widens it. -/
theorem Upto.join {x : Nat × Nat} (h : Upto r.1 (x :: l)) (ht : r.1 ≤ x.2 + 1) :
    Upto r.1 ((x.1, max x.2 r.2) :: l) ∧
      ∀ n, Covers ((x.1, max x.2 r.2) :: l) n ↔ Covers (x :: l) n ∨ r.1 ≤ n ∧ n ≤ r.2 := by
  obtain ⟨hx, hb, hgap, hl⟩ := upto_cons.1 h
  refine ⟨upto_cons.2 ⟨?_, hb, hgap, hl⟩, ?_⟩
  · show x.1 ≤ max x.2 r.2
    omega
  intro n
  rw [covers_cons, covers_cons]
  have hmax : (x.1 ≤ n ∧ n ≤ max x.2 r.2) ↔ (x.1 ≤ n ∧ n ≤ x.2) ∨ (r.1 ≤ n ∧ n ≤ r.2) := by
    omega
  rw [hmax]
  tauto

/-- **An interval that starts beyond the gap** is put behind. -/
theorem Upto.push {x : Nat × Nat} (h : Upto r.1 (x :: l)) (hr : r.1 ≤ r.2) (ht : x.2 + 1 < r.1) :
    Upto r.1 (r :: x :: l) := by
  obtain ⟨hx, hb, hgap, hl⟩ := upto_cons.1 h
  refine upto_cons.2 ⟨hr, le_rfl, ?_, h⟩
  intro y hy
  rcases mem_cons.1 hy with rfl | hy
  · exact ht
  · have := hgap y hy
    omega

lemma Upto.single (hr : r.1 ≤ r.2) : Upto r.1 [r] := upto_cons.2 ⟨hr, le_rfl, by simp, Upto.nil r.1⟩

end Intervals
