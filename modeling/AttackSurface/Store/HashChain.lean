import Mathlib

/-!
# Hash chains

Rows that carry a number, the hash of the row before and a hash of that and of their own
content.  Appending the next row keeps a chain valid (`valid_append`), and a valid chain is
determined by its last hash, as far as the hash does not collide on the rows at hand:

    Valid l  ∧  Valid l'  ∧  the last hashes agree   →   the rows agree, one by one   (Valid.unique)
-/

namespace HashChains

variable {R H P : Type}

/-- How to read a row, and the hash of a row after another. -/
structure Layout (R H P : Type) where
  seq : R → Nat
  prev : R → Option H
  hash : R → H
  payload : R → P
  digest : Option H → P → H

namespace Layout

open List

variable (C : Layout R H P)

def Valid : Option H → Nat → List R → Prop
  | _, _, [] => True
  | p, n, x :: xs =>
    C.seq x = n ∧ C.prev x = p ∧ C.digest p (C.payload x) = C.hash x ∧ Valid (some (C.hash x)) (n + 1) xs

def last (p : Option H) (l : List R) : Option H := l.foldl (fun _ x => some (C.hash x)) p

variable {C} {p : Option H} {n : Nat} {l l' : List R} {x y : R}

lemma last_none (l : List R) : C.last none l = l.getLast?.map C.hash := by
  induction l using reverseRecOn with
  | nil => rfl
  | append_singleton l x _ => simp [last]

lemma valid_append : C.Valid p n (l ++ l') ↔ C.Valid p n l ∧ C.Valid (C.last p l) (n + l.length) l' := by
  induction l generalizing p n with
  | nil => exact ⟨fun h => ⟨trivial, h⟩, fun h => h.2⟩
  | cons x l ih =>
    have hlast : C.last p (x :: l) = C.last (some (C.hash x)) l := rfl
    have hlength : n + (x :: l).length = n + 1 + l.length := by
      rw [length_cons]
      omega
    rw [cons_append, Valid, Valid, ih, hlast, hlength]
    constructor
    · rintro ⟨hseq, hprev, hhash, hl, hl'⟩
      exact ⟨⟨hseq, hprev, hhash, hl⟩, hl'⟩
    · rintro ⟨⟨hseq, hprev, hhash, hl⟩, hl'⟩
      exact ⟨hseq, hprev, hhash, hl, hl'⟩

lemma valid_concat : C.Valid p n (l ++ [x]) ↔ C.Valid p n l ∧ C.seq x = n + l.length ∧ C.prev x = C.last p l ∧
    C.digest (C.prev x) (C.payload x) = C.hash x := by
  rw [valid_append]
  constructor
  · rintro ⟨hl, hseq, hprev, hhash, _⟩
    exact ⟨hl, hseq, hprev, hprev ▸ hhash⟩
  · rintro ⟨hl, hseq, hprev, hhash⟩
    exact ⟨hl, hseq, hprev, hprev ▸ hhash, trivial⟩

lemma Valid.of_initial (h : C.Valid p n l') (hl : l <+: l') : C.Valid p n l := by
  obtain ⟨_, rfl⟩ := hl
  exact (valid_append.1 h).1

lemma Valid.hash_eq (h : C.Valid p n l) (hx : x ∈ l) : C.digest (C.prev x) (C.payload x) = C.hash x := by
  induction l generalizing p n with
  | nil => cases hx
  | cons y l ih =>
    obtain ⟨_, hprev, hhash, hrest⟩ := h
    rcases mem_cons.1 hx with rfl | hx
    · rw [hprev, hhash]
    · exact ih hrest hx

lemma Valid.prev_cases (h : C.Valid none n l) (hx : x ∈ l) : C.prev x = none ∨ ∃ y ∈ l, C.prev x = some (C.hash y) := by
  obtain ⟨before, after, rfl⟩ := append_of_mem hx
  obtain ⟨_, _, hprev, _⟩ := valid_append.1 h
  rw [hprev, last_none]
  cases hlast : before.getLast? with
  | none => exact .inl rfl
  | some y => exact .inr ⟨y, mem_append_left _ (mem_of_getLast? hlast), rfl⟩

/-- **The last hash determines the chain.** -/
theorem Valid.unique (h : C.Valid none n l) (h' : C.Valid none n l')
    (hinj : ∀ x ∈ l, ∀ y ∈ l', C.digest (C.prev x) (C.payload x) = C.digest (C.prev y) (C.payload y) →
      C.prev x = C.prev y ∧ C.payload x = C.payload y)
    (hlast : l.getLast?.map C.hash = l'.getLast?.map C.hash) :
    List.Forall₂ (fun x y => C.seq x = C.seq y ∧ C.prev x = C.prev y ∧ C.hash x = C.hash y ∧ C.payload x = C.payload y) l l' := by
  -- from the last row back: equal hashes make the rows equal, and so the hashes they link to
  induction l using reverseRecOn generalizing l' with
  | nil =>
    cases l' using reverseRecOn with
    | nil => exact .nil
    | append_singleton l' y => simp at hlast
  | append_singleton l x ih =>
    cases l' using reverseRecOn with
    | nil => simp at hlast
    | append_singleton l' y =>
      obtain ⟨hl, hseq, hprev, hhash⟩ := valid_concat.1 h
      obtain ⟨hl', hseq', hprev', hhash'⟩ := valid_concat.1 h'
      have heq : C.hash x = C.hash y := by simpa using hlast
      obtain ⟨hlinks, hpayload⟩ := hinj x (by simp) y (by simp) (hhash.trans (heq.trans hhash'.symm))
      have hrest := ih hl hl' (fun a ha b hb => hinj a (mem_append_left _ ha) b (mem_append_left _ hb)) (by
        rw [← last_none, ← last_none, ← hprev, ← hprev', hlinks])
      refine rel_append hrest (.cons ⟨?_, hlinks, heq, hpayload⟩ .nil)
      rw [hseq, hseq', hrest.length_eq]

end Layout

end HashChains
