import Mathlib

/-!
# Dictionaries that a loop fills and reads

A loop over `l` that stores one value per element, where the value of a round may be
computed from what the earlier rounds stored.  Once a key is stored, later rounds with other
keys leave it alone, so in the finished table each element has the value it had when its
round came (`lookup_table_mid`), computed from the table of the elements before it.
-/

namespace PyDict

open List Option

variable {α κ β : Type} (key : α → κ) (f : List (κ × β) → α → β) (l : List α)

/-- `for a in l: d[key(a)] = f(d, a)`. -/
def table : List (κ × β) := l.foldl (fun d a => d ++ [(key a, f d a)]) []

lemma table_append_singleton (a : α) :
    table key f (l ++ [a]) = table key f l ++ [(key a, f (table key f l) a)] := by
  simp [table]

lemma keys_table : (table key f l).map Prod.fst = l.map key := by
  induction l using reverseRecOn with
  | nil => rfl
  | append_singleton l a ih => rw [table_append_singleton]; simp [ih]

lemma table_initial (l l' : List α) : table key f l <+: table key f (l ++ l') := by
  induction l' using reverseRecOn with
  | nil => simp
  | append_singleton l' a ih =>
    rw [← append_assoc, table_append_singleton]
    exact ih.trans (prefix_append _ _)

lemma table_map {f' : List (κ × β) → α → β} {g : α → α} (hkey : ∀ a, key (g a) = key a)
    (hf : ∀ d a, f' d (g a) = f d a) (l : List α) : table key f' (l.map g) = table key f l := by
  induction l using reverseRecOn with
  | nil => rfl
  | append_singleton l a ih =>
    rw [map_append, map_singleton, table_append_singleton, table_append_singleton, ih, hkey, hf]

section Lookup

variable [DecidableEq κ]

lemma lookup_isSome {d : List (κ × β)} {k : κ} : (d.lookup k).isSome = true ↔ k ∈ d.map Prod.fst := by
  induction d with
  | nil => simp
  | cons e d ih =>
    by_cases hk : k = e.1
    · simp [lookup, hk]
    · have hbeq : (k == e.1) = false := by simpa using hk
      simp [lookup, hbeq, ih, hk]

lemma lookup_of_prefix {d d' : List (κ × β)} {k : κ} {b : β} (h : d <+: d') (hb : d.lookup k = some b) :
    d'.lookup k = some b := by
  obtain ⟨t, rfl⟩ := h
  rw [lookup_append, hb, some_or]

/-- In the finished table an element of `l` has the value computed in its own round. -/
lemma lookup_table_mid {pre post : List α} {a : α} (hnew : key a ∉ pre.map key) :
    (table key f (pre ++ a :: post)).lookup (key a) = some (f (table key f pre) a) := by
  have hpre : table key f (pre ++ [a]) <+: table key f (pre ++ a :: post) := by
    have := table_initial key f (pre ++ [a]) post
    rwa [append_assoc] at this
  refine lookup_of_prefix hpre ?_
  rw [table_append_singleton, lookup_append]
  have hnone : (table key f pre).lookup (key a) = none := by
    rw [← not_isSome_iff_eq_none, lookup_isSome, keys_table]
    exact hnew
  simp [hnone]

lemma lookup_table_earlier {pre post : List α} {k : κ} (hk : k ∈ pre.map key) :
    (table key f pre).lookup k = (table key f (pre ++ post)).lookup k := by
  have hsome : ((table key f pre).lookup k).isSome = true := by
    rw [lookup_isSome, keys_table]
    exact hk
  obtain ⟨b, hb⟩ := isSome_iff_exists.1 hsome
  rw [hb, lookup_of_prefix (table_initial key f pre post) hb]

end Lookup

end PyDict
