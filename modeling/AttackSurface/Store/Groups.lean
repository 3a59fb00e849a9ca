import Mathlib

/-!
# Dictionaries of lists

A `defaultdict(list)`: keys in the order in which they came in, each with the values that were
appended to it.  `get` reads the list of a key; a dictionary that was built by `push` has each
key once and no empty list (`Valid`), so that its entries can be told from `get` alone
(`Valid.mem_iff`).
-/

namespace PyDict

open List Function

abbrev Groups (κ α : Type) := List (κ × List α)

variable {κ α : Type} [DecidableEq κ] (d : Groups κ α)

def get (k : κ) : List α := ((d.find? fun e => decide (e.1 = k)).map Prod.snd).getD []

/-- `d[k].append(a)`. -/
def push (k : κ) (a : α) : Groups κ α :=
  if d.any fun e => decide (e.1 = k) then d.map fun e => if e.1 = k then (e.1, e.2 ++ [a]) else e
  else d ++ [(k, [a])]

structure Valid (d : Groups κ α) : Prop where
  keys : (d.map Prod.fst).Nodup
  nonempty : ∀ e ∈ d, e.2 ≠ []

section Push

variable {d : Groups κ α} {k k' : κ} {a : α}

lemma any_key : (d.any fun e => decide (e.1 = k)) = true ↔ k ∈ d.map Prod.fst := by
  simp

lemma find_key (h : k ∈ d.map Prod.fst) : ∃ e, (d.find? fun e => decide (e.1 = k)) = some e ∧ e.1 = k := by
  obtain ⟨e, he⟩ : ∃ e, (d.find? fun e => decide (e.1 = k)) = some e := by
    rw [← Option.isSome_iff_exists, find?_isSome]
    obtain ⟨e, he, rfl⟩ := List.mem_map.1 h
    exact ⟨e, he, by simp⟩
  exact ⟨e, he, by simpa using find?_some he⟩

lemma find_eq_none (h : k ∉ d.map Prod.fst) : (d.find? fun e => decide (e.1 = k)) = none := by
  rw [find?_eq_none]
  intro e he hk
  exact h (List.mem_map.2 ⟨e, he, of_decide_eq_true hk⟩)

lemma find_push (hk : k ∈ d.map Prod.fst) (a : α) (k' : κ) : (push d k a).find? (fun e => decide (e.1 = k')) =
      (d.find? fun e => decide (e.1 = k')).map fun e => if e.1 = k then (e.1, e.2 ++ [a]) else e := by
  rw [push, if_pos (any_key.2 hk), find?_map]
  congr 2
  funext e
  rw [comp_apply]
  split <;> rfl

lemma get_push_self (d : Groups κ α) (k : κ) (a : α) : get (push d k a) k = get d k ++ [a] := by
  by_cases hk : k ∈ d.map Prod.fst
  · obtain ⟨e, he, hkey⟩ := find_key hk
    rw [get, find_push hk, he, get, he]
    simp [hkey]
  · rw [get, push, if_neg (any_key.not.2 hk), find?_append, get, find_eq_none hk]
    simp

lemma get_push_ne (h : k' ≠ k) (d : Groups κ α) (a : α) : get (push d k a) k' = get d k' := by
  by_cases hk : k ∈ d.map Prod.fst
  · rw [get, find_push hk, get, Option.map_map]
    refine congrArg (fun o : Option (List α) => o.getD []) (Option.map_congr fun e he => ?_)
    have hkey : e.1 = k' := by simpa using find?_some he
    rw [comp_apply, if_neg fun hk => h (hkey.symm.trans hk)]
  · rw [get, push, if_neg (any_key.not.2 hk), find?_append, find?_singleton,
      if_neg (by simpa using h.symm), Option.or_none, get]

lemma keys_push (d : Groups κ α) (k : κ) (a : α) :
    (push d k a).map Prod.fst = if k ∈ d.map Prod.fst then d.map Prod.fst else d.map Prod.fst ++ [k] := by
  by_cases hk : k ∈ d.map Prod.fst
  · rw [push, if_pos (any_key.2 hk), if_pos hk, List.map_map]
    refine map_congr_left fun e _ => ?_
    rw [comp_apply]
    split <;> rfl
  · rw [push, if_neg (any_key.not.2 hk), if_neg hk, map_append, map_singleton]

omit [DecidableEq κ] in
lemma Valid.nil : Valid ([] : Groups κ α) := ⟨nodup_nil, fun _ he => absurd he not_mem_nil⟩

lemma Valid.push (h : Valid d) (k : κ) (a : α) : Valid (push d k a) := by
  refine ⟨?_, fun e he => ?_⟩
  · rw [keys_push]
    split
    · exact h.keys
    next hk =>
    rw [← concat_eq_append]
    exact h.keys.concat hk
  unfold PyDict.push at he
  split at he
  · obtain ⟨e', he', rfl⟩ := List.mem_map.1 he
    split
    · exact append_ne_nil_of_right_ne_nil _ (cons_ne_nil _ _)
    · exact h.nonempty e' he'
  rcases mem_append.1 he with hold | hnew
  · exact h.nonempty e hold
  · rw [mem_singleton.1 hnew]
    exact cons_ne_nil _ _

/-- The entries of a dictionary are what `get` reads. -/
lemma Valid.mem_iff (h : Valid d) {l : List α} : (k, l) ∈ d ↔ l ≠ [] ∧ get d k = l := by
  constructor
  · intro hmem
    refine ⟨h.nonempty _ hmem, ?_⟩
    obtain ⟨e, he, hkey⟩ := find_key (List.mem_map_of_mem hmem)
    have heq : e = (k, l) := inj_on_of_nodup_map h.keys (mem_of_find?_eq_some he) hmem hkey
    rw [get, he, heq]
    rfl
  rintro ⟨hl, rfl⟩
  rcases hf : (d.find? fun e => decide (e.1 = k)) with _ | e
  · rw [get, hf] at hl
    exact absurd rfl hl
  have hkey : e.1 = k := by simpa using find?_some hf
  rw [get, hf]
  show (k, e.2) ∈ d
  rw [← hkey]
  exact mem_of_find?_eq_some hf

lemma Valid.exists_mem_iff (h : Valid d) : (∃ l, (k, l) ∈ d ∧ a ∈ l) ↔ a ∈ get d k := by
  constructor
  · rintro ⟨l, hl, ha⟩
    rwa [(h.mem_iff.1 hl).2]
  · intro ha
    exact ⟨get d k, h.mem_iff.2 ⟨ne_nil_of_mem ha, rfl⟩, ha⟩

end Push

def pushAll (d : Groups κ α) (l : List (κ × α)) : Groups κ α := l.foldl (fun d x => push d x.1 x.2) d

section PushAll

variable {d : Groups κ α}

lemma Valid.pushAll (h : Valid d) (l : List (κ × α)) : Valid (pushAll d l) := by
  induction l generalizing d with
  | nil => exact h
  | cons x l ih => exact ih (h.push x.1 x.2)

lemma get_pushAll (d : Groups κ α) (l : List (κ × α)) (k : κ) :
    get (pushAll d l) k = get d k ++ (l.filter fun x => decide (x.1 = k)).map Prod.snd := by
  induction l generalizing d with
  | nil => exact (append_nil _).symm
  | cons x l ih =>
    show get (PyDict.pushAll (push d x.1 x.2) l) k = _
    rw [ih, filter_cons]
    by_cases hk : x.1 = k
    · subst hk
      rw [get_push_self, if_pos (by simp), map_cons, append_assoc, singleton_append]
    · rw [get_push_ne (Ne.symm hk), if_neg (by simpa using hk)]

lemma mem_get_pushAll {l : List (κ × α)} {k : κ} {a : α} : a ∈ get (pushAll [] l) k ↔ (k, a) ∈ l := by
  have hnil : get ([] : Groups κ α) k = [] := rfl
  rw [get_pushAll, hnil, nil_append, List.mem_map]
  constructor
  · rintro ⟨⟨k', a'⟩, hx, rfl⟩
    obtain ⟨hx, hk⟩ := mem_filter.1 hx
    rwa [← of_decide_eq_true hk]
  · intro h
    exact ⟨(k, a), mem_filter.2 ⟨h, decide_eq_true rfl⟩, rfl⟩

end PushAll

def groupBy (key : α → κ) (l : List α) : Groups κ α := l.foldl (fun d a => push d (key a) a) []

section GroupBy

variable {key : α → κ} {l : List α}

lemma foldl_push (key : α → κ) (l : List α) (d : Groups κ α) (h : Valid d) :
    Valid (l.foldl (fun d a => push d (key a) a) d) ∧
      ∀ k, get (l.foldl (fun d a => push d (key a) a) d) k = get d k ++ l.filter fun a => decide (key a = k) := by
  have hall : l.foldl (fun d a => push d (key a) a) d = pushAll d (l.map fun a => (key a, a)) := by
    rw [pushAll, foldl_map]
  rw [hall]
  refine ⟨h.pushAll _, fun k => ?_⟩
  rw [get_pushAll, List.filter_map, List.map_map]
  exact congrArg _ (List.map_id _)

lemma groupBy_valid (key : α → κ) (l : List α) : Valid (groupBy key l) := (foldl_push key l [] .nil).1

lemma get_groupBy (key : α → κ) (l : List α) (k : κ) :
    get (groupBy key l) k = l.filter fun a => decide (key a = k) := (foldl_push key l [] .nil).2 k

lemma mem_groupBy {k : κ} {g : List α} :
    (k, g) ∈ groupBy key l ↔ g ≠ [] ∧ (l.filter fun a => decide (key a = k)) = g := by
  rw [(groupBy_valid key l).mem_iff, get_groupBy]

end GroupBy

end PyDict
