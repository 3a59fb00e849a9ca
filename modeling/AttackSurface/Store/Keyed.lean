import Mathlib

/-!
# Dictionaries whose entries carry their key

`d[key(a)] = a` on a list of entries in insertion order: the entry of that key is replaced in
place, or `a` comes last.  The keys stay distinct (`nodup_setBy`), and afterwards the entries are
`a` and those of the other keys (`mem_setBy`).
-/

namespace PyDict

open List

variable {α κ : Type} [DecidableEq κ] {key : α → κ} {a b : α} {l : List α}

def hasKey (key : α → κ) (k : κ) (l : List α) : Bool := l.any fun b => decide (key b = k)

/-- `d[key(a)] = a`. -/
def setBy (key : α → κ) (a : α) (l : List α) : List α :=
  if hasKey key (key a) l then l.map fun b => if key b = key a then a else b else l ++ [a]

/-- Looking an entry up by its key. -/
lemma find?_key (h : (l.map key).Nodup) (ha : a ∈ l) : l.find? (fun b => decide (key b = key a)) = some a := by
  have hsome : (l.find? fun b => decide (key b = key a)).isSome = true :=
    find?_isSome.2 ⟨a, ha, decide_eq_true rfl⟩
  obtain ⟨b, hb⟩ := Option.isSome_iff_exists.1 hsome
  have hkey : key b = key a := by simpa using find?_some hb
  rw [hb, inj_on_of_nodup_map h (mem_of_find?_eq_some hb) ha hkey]

lemma hasKey_iff {k : κ} : hasKey key k l = true ↔ ∃ b ∈ l, key b = k := by
  simp [hasKey]

lemma keys_setBy (a : α) (l : List α) :
    (setBy key a l).map key = if hasKey key (key a) l then l.map key else l.map key ++ [key a] := by
  unfold setBy
  split
  · rw [List.map_map]
    refine map_congr_left fun b _ => ?_
    rw [Function.comp_apply]
    split
    · next h => exact h.symm
    · rfl
  · simp

lemma nodup_setBy (h : (l.map key).Nodup) (a : α) : ((setBy key a l).map key).Nodup := by
  rw [keys_setBy]
  split
  · exact h
  next hnew =>
  refine nodup_append.2 ⟨h, nodup_singleton _, ?_⟩
  intro k hk k' hk' he
  obtain ⟨b, hb, rfl⟩ := List.mem_map.1 hk
  rw [mem_singleton] at hk'
  exact hnew (hasKey_iff.2 ⟨b, hb, he.trans hk'⟩)

lemma mem_setBy : b ∈ setBy key a l ↔ b = a ∨ b ∈ l ∧ key b ≠ key a := by
  unfold setBy
  split
  · next hold =>
    obtain ⟨c, hc, hkey⟩ := hasKey_iff.1 hold
    constructor
    · intro hb
      obtain ⟨d, hd, rfl⟩ := List.mem_map.1 hb
      by_cases hkd : key d = key a
      · exact .inl (if_pos hkd)
      · rw [if_neg hkd]
        exact .inr ⟨hd, hkd⟩
    · rintro (rfl | ⟨hb, hne⟩)
      · exact List.mem_map.2 ⟨c, hc, if_pos hkey⟩
      · exact List.mem_map.2 ⟨b, hb, if_neg hne⟩
  · next hnew =>
    rw [mem_append, mem_singleton]
    constructor
    · rintro (hb | rfl)
      · exact .inr ⟨hb, fun hkey => hnew (hasKey_iff.2 ⟨b, hb, hkey⟩)⟩
      · exact .inl rfl
    rintro (rfl | ⟨hb, -⟩)
    · exact .inr rfl
    · exact .inl hb

lemma length_setBy (key : α → κ) (a : α) (l : List α) :
    (setBy key a l).length = if hasKey key (key a) l then l.length else l.length + 1 := by
  unfold setBy
  split <;> simp

lemma length_setBy_le (key : α → κ) (a : α) (l : List α) : (setBy key a l).length ≤ l.length + 1 := by
  rw [length_setBy]
  split <;> omega

end PyDict
