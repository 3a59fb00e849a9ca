import Mathlib

/-!
# Strings as the Python code handles them

A Python `str` is a list of code points.  This module has the operations the
parsers are written with (`strip`, `partition`, `rpartition`, `startswith`,
`endswith`, `in`) and, for each, the one fact the round-trip proofs use:

* `strip_eq_self`: a string with no blank at either end is left alone;
* `partition_eq_some_iff`, `rpartition_eq_some_iff`: which cut is the first,
  which the last;
* `partitionStr_append`: a two-letter separator is found where it was written.
-/

namespace PyText

open List Option

abbrev Str := List Char

instance : LawfulBEq Str := inferInstanceAs (LawfulBEq (List Char))

def isAscii (c : Char) : Bool := c.toNat < 128

/-- `str.isspace` of one code point. -/
def isSpace (c : Char) : Bool :=
  let n := c.toNat
  (9 ≤ n && n ≤ 13) || (28 ≤ n && n ≤ 32) || n == 0x85 || n == 0xA0 || n == 0x1680 ||
  (0x2000 ≤ n && n ≤ 0x200A) || n == 0x2028 || n == 0x2029 || n == 0x202F || n == 0x205F ||
  n == 0x3000

def lstrip (p : Char → Bool) (s : Str) : Str := s.dropWhile p

def rstrip (p : Char → Bool) (s : Str) : Str := s.rdropWhile p

/-- `s.strip()`. -/
def strip (s : Str) : Str := rstrip isSpace (lstrip isSpace s)

/-- `s.strip(chars)`. -/
def stripChars (chars : List Char) (s : Str) : Str := rstrip (· ∈ chars) (lstrip (· ∈ chars) s)

/-- `s.partition(c)` for one code point; `none` when `c` does not occur. -/
def partition (c : Char) : Str → Option (Str × Str)
  | [] => none
  | d :: s => if d = c then some ([], s) else (partition c s).map fun r => (d :: r.1, r.2)

/-- `s.rpartition(c)`; `none` when `c` does not occur. -/
def rpartition (c : Char) : Str → Option (Str × Str)
  | [] => none
  | d :: s =>
    match rpartition c s with
    | some r => some (d :: r.1, r.2)
    | none => if d = c then some ([], s) else none

/-- `s.partition(sep)` for a non-empty separator. -/
def partitionStr (sep : Str) : Str → Option (Str × Str)
  | [] => none
  | d :: s =>
    if sep.isPrefixOf (d :: s) then some ([], (d :: s).drop sep.length)
    else (partitionStr sep s).map fun r => (d :: r.1, r.2)

/-- `sep in s`, for a non-empty `sep`. -/
def contains (sep s : Str) : Bool := (partitionStr sep s).isSome

def startsWith (pre s : Str) : Bool := pre.isPrefixOf s

def endsWith (suf s : Str) : Bool := suf.isSuffixOf s

/-! ## Stripping -/

variable {p : Char → Bool} {s : Str} {c : Char}

lemma mem_lstrip (h : c ∈ lstrip p s) : c ∈ s := (dropWhile_suffix p).subset h

lemma mem_rstrip (h : c ∈ rstrip p s) : c ∈ s := (List.rdropWhile_prefix p s).subset h

lemma mem_strip (h : c ∈ strip s) : c ∈ s := mem_lstrip (mem_rstrip h)

lemma rstrip_last (h : (rstrip p s).getLast? = some c) : p c = false := by
  have hne : s.rdropWhile p ≠ [] := by
    intro he
    simp [rstrip, he] at h
  have hlast := rdropWhile_last_not p s hne
  rw [rstrip, getLast?_eq_some_getLast hne, some.injEq] at h
  rw [h] at hlast
  simpa using hlast

lemma lstrip_head (h : (lstrip p s).head? = some c) : p c = false := by
  induction s with
  | nil => simp [lstrip] at h
  | cons d s ih =>
    simp only [lstrip, dropWhile_cons] at h ih
    split at h
    · exact ih h
    next hd =>
    simp only [head?_cons, some.injEq] at h
    subst h
    simpa using hd

lemma strip_last (h : (strip s).getLast? = some c) : isSpace c = false := rstrip_last h

lemma rstrip_eq_self (h : ∀ c, s.getLast? = some c → p c = false) : rstrip p s = s := by
  apply (rdropWhile_eq_self_iff (p := p)).2
  intro hl
  rw [h _ (getLast?_eq_some_getLast hl)]
  simp

lemma lstrip_eq_self (h : ∀ c, s.head? = some c → p c = false) : lstrip p s = s := by
  cases s with
  | nil => rfl
  | cons d s => simp [lstrip, h d rfl]

/-- **A string without blanks at its ends is stripped to itself.** -/
theorem strip_eq_self (hh : ∀ c, s.head? = some c → isSpace c = false)
    (hl : ∀ c, s.getLast? = some c → isSpace c = false) : strip s = s := by
  rw [strip, lstrip_eq_self hh, rstrip_eq_self hl]

lemma strip_of_not_isSpace (h : ∀ c ∈ s, isSpace c = false) : strip s = s :=
  strip_eq_self (fun c hc => h c (mem_of_mem_head? hc))
    (fun c hc => h c (mem_of_getLast? hc))

/-- What `rstrip` removes is made of stripped letters. -/
lemma rstrip_append (p : Char → Bool) (s : Str) : ∃ t, s = rstrip p s ++ t ∧ ∀ c ∈ t, p c = true :=
  ⟨s.rtakeWhile p, by rw [rstrip, rdropWhile_append_rtakeWhile],
    fun _ hc => mem_rtakeWhile_imp hc⟩

lemma rstrip_append_of_all (s : Str) {t : Str} (h : ∀ c ∈ t, p c = true) : rstrip p (s ++ t) = rstrip p s := by
  induction t using reverseRecOn with
  | nil => simp
  | append_singleton t c ih =>
    rw [rstrip, ← append_assoc, rdropWhile_concat_pos p _ c (h c (by simp))]
    exact ih fun d hd => h d (by simp [hd])

/-! ## Cutting at a separator -/

lemma partition_eq_some_iff {s a b : Str} : partition c s = some (a, b) ↔ s = a ++ c :: b ∧ c ∉ a := by
  induction s generalizing a b with
  | nil => simp [partition]
  | cons d s ih =>
    simp only [partition]
    split
    · next h =>
      subst h
      cases a with
      | nil => simp
      | cons x a =>
        simp only [cons_append, cons.injEq, mem_cons, not_or, some.injEq,
          Prod.mk.injEq, reduceCtorEq, false_and, false_iff]
        rintro ⟨⟨rfl, -⟩, h, -⟩
        exact h rfl
    · next h =>
      simp only [map_eq_some_iff, Prod.exists, Prod.mk.injEq]
      constructor
      · rintro ⟨a', b', h1, rfl, rfl⟩
        obtain ⟨rfl, h2⟩ := ih.1 h1
        refine ⟨by simp, ?_⟩
        simp only [mem_cons, not_or]
        exact ⟨fun e => h e.symm, h2⟩
      rintro ⟨h1, h2⟩
      cases a with
      | nil =>
        simp only [nil_append, cons.injEq] at h1
        exact absurd h1.1 h
      | cons x a =>
        simp only [cons_append, cons.injEq] at h1
        simp only [mem_cons, not_or] at h2
        exact ⟨a, b, ih.2 ⟨h1.2, h2.2⟩, by rw [h1.1], rfl⟩

lemma partition_eq_none_iff : partition c s = none ↔ c ∉ s := by
  induction s with
  | nil => simp [partition]
  | cons d s ih =>
    simp only [partition]
    split
    · next h => simp [h]
    next h =>
    have h' : c ≠ d := fun e => h e.symm
    simp [ih, h']

lemma rpartition_eq_none_iff : rpartition c s = none ↔ c ∉ s := by
  induction s with
  | nil => simp [rpartition]
  | cons d s ih =>
    simp only [rpartition]
    cases hr : rpartition c s with
    | some r =>
      have : c ∈ s := by
        by_contra hc
        rw [ih.2 hc] at hr
        cases hr
      simp [this]
    | none =>
      have hs := ih.1 hr
      by_cases h : d = c
      · simp [h]
      · have h' : c ≠ d := fun e => h e.symm
        simp [h, hs, h']

lemma rpartition_eq_some_iff {s a b : Str} : rpartition c s = some (a, b) ↔ s = a ++ c :: b ∧ c ∉ b := by
  induction s generalizing a b with
  | nil => simp [rpartition]
  | cons d s ih =>
    simp only [rpartition]
    cases hr : rpartition c s with
    | some r =>
      obtain ⟨a', b'⟩ := r
      obtain ⟨rfl, hb⟩ := ih.1 hr
      simp only [some.injEq, Prod.mk.injEq]
      constructor
      · rintro ⟨rfl, rfl⟩
        exact ⟨by simp, hb⟩
      rintro ⟨h1, h2⟩
      cases a with
      | nil =>
        simp only [nil_append, cons.injEq] at h1
        exact absurd (h1.2 ▸ (by simp : c ∈ a' ++ c :: b')) h2
      | cons x a =>
        simp only [cons_append, cons.injEq] at h1
        have h3 := ih.2 ⟨h1.2, h2⟩
        rw [hr] at h3
        simp only [some.injEq, Prod.mk.injEq] at h3
        exact ⟨by rw [h1.1, h3.1], h3.2⟩
    | none =>
      have hs := rpartition_eq_none_iff.1 hr
      constructor
      · intro h
        by_cases hd : d = c
        · simp only [if_pos hd, some.injEq, Prod.mk.injEq] at h
          obtain ⟨rfl, rfl⟩ := h
          exact ⟨by simp [hd], hs⟩
        · simp [hd] at h
      rintro ⟨h1, h2⟩
      cases a with
      | nil =>
        simp only [nil_append, cons.injEq] at h1
        simp [h1.1, h1.2]
      | cons x a =>
        simp only [cons_append, cons.injEq] at h1
        exact absurd (h1.2 ▸ (by simp : c ∈ a ++ c :: b)) hs

/-- The cut found by `partitionStr` is at an occurrence of the separator. -/
lemma partitionStr_spec {sep s a b : Str} (h : partitionStr sep s = some (a, b)) : s = a ++ sep ++ b := by
  induction s generalizing a b with
  | nil => cases h
  | cons d s ih =>
    simp only [partitionStr] at h
    split at h
    · next hp =>
      simp only [some.injEq, Prod.mk.injEq] at h
      obtain ⟨rfl, rfl⟩ := h
      obtain ⟨t, ht⟩ := isPrefixOf_iff_prefix.1 hp
      rw [← ht]
      simp
    · obtain ⟨⟨a', b'⟩, h1, h2⟩ := map_eq_some_iff.1 h
      simp only [Prod.mk.injEq] at h2
      obtain ⟨rfl, rfl⟩ := h2
      rw [ih h1]
      simp

/-- `partitionStr` stops at the first occurrence: the part before the cut holds none. -/
lemma partitionStr_first {sep s a b : Str} (hs : sep ≠ []) (h : partitionStr sep s = some (a, b)) :
    ¬ sep <:+: a := by
  induction s generalizing a b with
  | nil => cases h
  | cons d s ih =>
    simp only [partitionStr] at h
    split at h
    · simp only [some.injEq, Prod.mk.injEq] at h
      obtain ⟨rfl, rfl⟩ := h
      simpa using hs
    · next hp =>
      obtain ⟨⟨a', b'⟩, h1, h2⟩ := map_eq_some_iff.1 h
      simp only [Prod.mk.injEq] at h2
      obtain ⟨rfl, rfl⟩ := h2
      intro hin
      rcases infix_cons_iff.1 hin with hpre | hin
      · apply hp
        rw [List.isPrefixOf_iff_prefix, partitionStr_spec h1]
        refine hpre.trans ⟨sep ++ b', by simp⟩
      · exact ih h1 hin

lemma contains_iff {sep s : Str} (hs : sep ≠ []) : contains sep s = true ↔ sep <:+: s := by
  unfold contains
  induction s with
  | nil => simpa [partitionStr] using hs
  | cons d s ih =>
    simp only [partitionStr]
    split
    · next hp =>
      simp only [isSome_some, true_iff]
      exact (List.isPrefixOf_iff_prefix.1 hp).isInfix
    · next hp =>
      rw [isSome_map, ih, infix_cons_iff]
      have : ¬ sep <+: d :: s := fun h => hp (List.isPrefixOf_iff_prefix.2 h)
      simp [this]

/-- **A two-letter separator is found where it was written**, if the text before it has none. -/
theorem partitionStr_append {x y : Char} (hxy : x ≠ y) {a : Str} (ha : ¬ [x, y] <:+: a) (b : Str) :
    partitionStr [x, y] (a ++ x :: y :: b) = some (a, b) := by
  induction a with
  | nil => simp [partitionStr]
  | cons d a ih =>
    have ha' : ¬ [x, y] <:+: a := fun h => ha (h.trans (suffix_cons d a).isInfix)
    have hp : ¬ [x, y] <+: d :: (a ++ x :: y :: b) := by
      intro h
      cases a with
      | nil =>
        -- the separator would have to start at the last letter before it
        simp only [nil_append, cons_prefix_cons, nil_prefix, and_true] at h
        exact hxy h.2.symm
      | cons e a =>
        simp only [cons_append, cons_prefix_cons, nil_prefix, and_true] at h
        apply ha
        rw [h.1, h.2]
        exact ⟨[], a, by simp⟩
    have hp' : ¬ isPrefixOf [x, y] (d :: (a ++ x :: y :: b)) = true :=
      fun h => hp (List.isPrefixOf_iff_prefix.1 h)
    rw [cons_append, partitionStr, if_neg hp', ih ha']
    rfl

end PyText
