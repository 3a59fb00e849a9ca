import Mathlib

/-!
# The first of a stable descending sort

`sorted(l, key=…, reverse=True)` keeps the listed order of equal keys, so its first
element is the first listed one among those with the greatest key:

    (sortDesc key l).head? = some x  ↔  FirstMax key l x              (head_sortDesc_iff)

Moving the elements that satisfy `p` to the front (`preferring p l`) makes the first
element satisfy `p` whenever some greatest element does (`firstMax_preferring`).
-/

namespace StableSort

open List

variable {α : Type}

/-! ## Definitions -/

variable (key : α → Nat) (l : List α)

/-- `sorted(l, key=key, reverse=True)`. -/
def sortDesc : List α := l.insertionSort fun a b => key b ≤ key a

/-- `x` is the first listed element of greatest key. -/
def FirstMax (x : α) : Prop :=
  ∃ pre post, l = pre ++ x :: post ∧ (∀ y ∈ pre, key y < key x) ∧ ∀ y ∈ post, key y ≤ key x

/-- `x` has the greatest key of `l`. -/
def MaxBy (x : α) : Prop := x ∈ l ∧ ∀ y ∈ l, key y ≤ key x

/-- The elements that satisfy `p`, then the others. -/
def preferring (p : α → Bool) (l : List α) : List α := l.filter p ++ l.filter (!p ·)

/-! ## Lemmas -/

variable {key : α → Nat} {l : List α}

lemma FirstMax.maxBy {x : α} (h : FirstMax key l x) : MaxBy key l x := by
  obtain ⟨pre, post, rfl, hpre, hpost⟩ := h
  refine ⟨by simp, fun y hy => ?_⟩
  rcases mem_append.1 hy with hy | hy
  · exact Nat.le_of_lt (hpre y hy)
  rcases mem_cons.1 hy with rfl | hy
  · exact Nat.le_refl _
  · exact hpost y hy

lemma firstMax_cons_iff {a x : α} : FirstMax key (a :: l) x ↔
      (x = a ∧ ∀ y ∈ l, key y ≤ key a) ∨ (key a < key x ∧ FirstMax key l x) := by
  constructor
  · rintro ⟨pre, post, he, hpre, hpost⟩
    cases pre with
    | nil =>
      simp only [nil_append, cons.injEq] at he
      obtain ⟨rfl, rfl⟩ := he
      exact .inl ⟨rfl, hpost⟩
    | cons b pre =>
      simp only [cons_append, cons.injEq] at he
      obtain ⟨rfl, rfl⟩ := he
      exact .inr ⟨hpre a (by simp), pre, post, rfl, fun y hy => hpre y (by simp [hy]), hpost⟩
  · rintro (⟨rfl, h⟩ | ⟨hlt, pre, post, rfl, hpre, hpost⟩)
    · exact ⟨[], l, rfl, by simp, h⟩
    refine ⟨a :: pre, post, rfl, fun y hy => ?_, hpost⟩
    rcases mem_cons.1 hy with rfl | hy
    · exact hlt
    · exact hpre y hy

lemma head_orderedInsert (a : α) (l : List α) : (l.orderedInsert (fun a b => key b ≤ key a) a).head? =
      match l.head? with
      | none => some a
      | some b => if key b ≤ key a then some a else some b := by
  cases l with
  | nil => rfl
  | cons b l =>
    simp only [orderedInsert, head?_cons]
    split <;> rfl

/-- **The first of the sorted list is the first listed of greatest key.** -/
theorem head_sortDesc_iff {x : α} : (sortDesc key l).head? = some x ↔ FirstMax key l x := by
  induction l generalizing x with
  | nil =>
    constructor
    · intro h
      cases h
    · intro h
      exact absurd h.maxBy.1 (by simp)
  | cons a l ih =>
    have hstep : (sortDesc key (a :: l)).head? =
        match (sortDesc key l).head? with
        | none => some a
        | some b => if key b ≤ key a then some a else some b := head_orderedInsert a _
    rw [hstep, firstMax_cons_iff]
    cases hs : (sortDesc key l).head? with
    | none =>
      have hl : l = [] := by
        have := length_insertionSort (fun a b => key b ≤ key a) l
        unfold sortDesc at hs
        rw [head?_eq_none_iff.1 hs] at this
        exact eq_nil_of_length_eq_zero this.symm
      subst hl
      constructor
      · rintro ⟨⟩
        exact .inl ⟨rfl, by simp⟩
      rintro (⟨rfl, -⟩ | ⟨-, h⟩)
      · rfl
      · exact absurd h.maxBy.1 (by simp)
    | some b =>
      have hb := ih.1 hs
      simp only []
      split
      · next hle =>
        constructor
        · rintro ⟨⟩
          exact .inl ⟨rfl, fun y hy => le_trans (hb.maxBy.2 y hy) hle⟩
        rintro (⟨rfl, -⟩ | ⟨hlt, h⟩)
        · rfl
        · have := hb.maxBy.2 x h.maxBy.1
          omega
      · next hle =>
        rw [← hs, ih]
        constructor
        · intro h
          refine .inr ⟨?_, h⟩
          have := h.maxBy.2 b hb.maxBy.1
          omega
        · rintro (⟨rfl, h⟩ | ⟨-, h⟩)
          · exact absurd (h b hb.maxBy.1) hle
          · exact h

lemma sortDesc_eq_nil_iff : sortDesc key l = [] ↔ l = [] := by
  unfold sortDesc
  rw [← length_eq_zero_iff, length_insertionSort, length_eq_zero_iff]

lemma exists_firstMax (h : l ≠ []) : ∃ x, FirstMax key l x := by
  cases hs : (sortDesc key l).head? with
  | none => exact absurd (sortDesc_eq_nil_iff.1 (head?_eq_none_iff.1 hs)) h
  | some x => exact ⟨x, head_sortDesc_iff.1 hs⟩

lemma FirstMax.unique {x y : α} (hx : FirstMax key l x) (hy : FirstMax key l y) : x = y := by
  rw [← head_sortDesc_iff] at hx hy
  rw [hx] at hy
  exact Option.some.inj hy

lemma firstMax_append_cons {A B : List α} {p x : α} (h : FirstMax key (A ++ p :: B) x) :
    (x ∈ A ∧ key p ≤ key x) ∨ x = p ∨ (x ∈ B ∧ key p < key x) := by
  have hle : key p ≤ key x := h.maxBy.2 p (by simp)
  obtain ⟨pre, post, he, hpre, hpost⟩ := h
  rcases append_eq_append_iff.1 he with ⟨as, hA, hB⟩ | ⟨bs, hA, hB⟩
  · cases as with
    | nil =>
      simp only [nil_append, cons.injEq] at hB
      exact .inr (.inl hB.1.symm)
    | cons b as =>
      simp only [cons_append, cons.injEq] at hB
      refine .inr (.inr ⟨by rw [hB.2]; simp, hpre p ?_⟩)
      rw [hA, hB.1]
      simp
  cases bs with
  | nil =>
    simp only [nil_append, cons.injEq] at hB
    exact .inr (.inl hB.1)
  | cons b bs =>
    simp only [cons_append, cons.injEq] at hB
    refine .inl ⟨?_, hle⟩
    rw [hA, hB.1]
    simp

lemma firstMax_filter {q : α → Bool} {x : α} (h : FirstMax key (l.filter q) x) :
    ∃ pre post, l = pre ++ x :: post ∧ (∀ y ∈ pre, q y = true → key y < key x) ∧
      ∀ y ∈ post, q y = true → key y ≤ key x := by
  obtain ⟨pre', post', he, hpre, hpost⟩ := h
  obtain ⟨l1, l2, rfl, h1, h2⟩ := filter_eq_append_iff.1 he
  obtain ⟨l3, l4, rfl, h3, h4, h5⟩ := filter_eq_cons_iff.1 h2
  refine ⟨l1 ++ l3, l4, by simp, fun y hy hq => ?_, fun y hy hq => ?_⟩
  · rcases mem_append.1 hy with hy | hy
    · exact hpre y (h1 ▸ mem_filter.2 ⟨hy, hq⟩)
    · exact absurd hq (h3 y hy)
  · exact hpost y (h5 ▸ mem_filter.2 ⟨hy, hq⟩)

/-! ## Preferring some elements -/

lemma preferring_perm (p : α → Bool) (l : List α) : (preferring p l).Perm l := filter_append_perm p l

lemma filter_preferring (p q : α → Bool) (l : List α) :
    (preferring p l).filter q = preferring p (l.filter q) := by
  unfold preferring
  rw [filter_append, List.filter_filter, List.filter_filter, List.filter_filter, List.filter_filter]
  congr 1
  all_goals
    apply filter_congr
    intro x _
    exact Bool.and_comm _ _

/-- **The first of greatest key satisfies `p` if some element of greatest key does.** -/
theorem firstMax_preferring {p : α → Bool} {x y : α}
    (hy : MaxBy key l y) (hp : p y = true) (h : FirstMax key (preferring p l) x) : p x = true := by
  obtain ⟨pre, post, he, hpre, hpost⟩ := h
  by_contra hx
  have hmem : ∀ z, z ∈ preferring p l ↔ z ∈ l := fun z => (preferring_perm p l).mem_iff
  have hymem : y ∈ l.filter p := mem_filter.2 ⟨hy.1, hp⟩
  have hxl : x ∈ l := by
    rw [← hmem, he]
    simp
  -- `x` is in the second part, so the whole first part stands before it
  have hxp : y ∈ pre := by
    rcases append_eq_append_iff.1 he with ⟨as, rfl, -⟩ | ⟨bs, hA, hB⟩
    · exact mem_append_left _ hymem
    cases bs with
    | nil =>
      rw [append_nil] at hA
      rwa [← hA]
    | cons b bs =>
      simp only [cons_append, cons.injEq] at hB
      have hxA : x ∈ l.filter p := by
        rw [hA, hB.1]
        simp
      exact absurd (mem_filter.1 hxA).2 hx
  have h1 := hpre y hxp
  have h2 := hy.2 x hxl
  omega

end StableSort
