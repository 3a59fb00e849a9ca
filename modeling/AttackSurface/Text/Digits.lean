import AttackSurface.Text.Str

/-!
# Numbers as text

`str(n)` and `'%x' % n` are core's `Nat.toDigits`; `int(s)` on decimal digits is
core's `Nat.ofDigitChars`.  The hexadecimal reader (either letter case) is here,
with the two round trips `decVal_dec` and `hexVal_hex`.
-/

namespace PyText

open List Bool

variable (n : Nat)

/-- `str(n)`. -/
def dec : Str := Nat.toDigits 10 n

/-- `'%x' % n`. -/
def hex : Str := Nat.toDigits 16 n

variable (s : Str)

/-- `int(s)` for a string of ASCII decimal digits. -/
def decVal : Nat := Nat.ofDigitChars 10 s 0

def isHexDigit (c : Char) : Bool := c.isDigit || ('a' ≤ c && c ≤ 'f') || ('A' ≤ c && c ≤ 'F')

def isLowerHex (c : Char) : Bool := c.isDigit || ('a' ≤ c && c ≤ 'f')

def hexDigitVal (c : Char) : Nat :=
  if c.isDigit then c.toNat - 48 else if 'a' ≤ c then c.toNat - 87 else c.toNat - 55

/-- `int(s, 16)` for a string of hexadecimal digits. -/
def hexVal : Nat := s.foldl (fun n c => 16 * n + hexDigitVal c) 0

/-- `s.isascii() and s.isdigit()`. -/
def isDecimal : Bool := s ≠ [] && s.all Char.isDigit

/-! ## Decimal -/

@[simp] lemma decVal_dec : decVal (dec n) = n := Nat.ofDigitChars_ten_toDigits

variable {c : Char}

lemma isDigit_of_mem_dec {n : Nat} (h : c ∈ dec n) : c.isDigit = true :=
  Nat.isDigit_of_mem_toDigits (by decide) (by decide) h

@[simp] lemma dec_ne_nil : dec n ≠ [] := Nat.toDigits_ne_nil

@[simp] lemma isDecimal_dec : isDecimal (dec n) = true := by
  have h : (dec n).all Char.isDigit = true := by
    rw [List.all_eq_true]
    exact fun _ hc => isDigit_of_mem_dec hc
  simp [isDecimal, h]

lemma length_dec_le {n k : Nat} (hk : 0 < k) (h : n < 10 ^ k) : (dec n).length ≤ k :=
  (Nat.length_toDigits_le_iff (by decide) hk).2 h

lemma isDigit_bounds (h : c.isDigit = true) : 48 ≤ c.toNat ∧ c.toNat ≤ 57 := by
  simp only [Char.isDigit, and_eq_true, decide_eq_true_eq] at h
  exact h

lemma not_isSpace_of_isDigit (h : c.isDigit = true) : isSpace c = false := by
  have := isDigit_bounds h
  simp [isSpace]
  omega

lemma digitChar_of_isDigit (h : c.isDigit = true) : Nat.digitChar (c.toNat - 48) = c := by
  have := isDigit_bounds h
  apply Char.toNat_inj.1
  rw [Nat.toNat_digitChar_of_lt_ten (by omega)]
  omega

lemma decVal_append (c : Char) : decVal (s ++ [c]) = 10 * decVal s + (c.toNat - 48) := by
  unfold decVal
  rw [Nat.ofDigitChars_append]
  rfl

/-- **A decimal text without a leading zero is the text of its value.** -/
theorem dec_decVal {s : Str} (hd : ∀ c ∈ s, c.isDigit = true) (hne : s ≠ [])
    (hz : s.length = 1 ∨ s.head? ≠ some '0') : dec (decVal s) = s := by
  induction s using reverseRecOn with
  | nil => exact absurd rfl hne
  | append_singleton s c ih =>
    have hc := hd c (by simp)
    have hb := isDigit_bounds hc
    have hone : dec (c.toNat - 48) = [c] := by
      unfold dec
      rw [Nat.toDigits_of_lt_base (by omega), digitChar_of_isDigit hc]
    rw [decVal_append]
    by_cases hs : s = []
    · subst hs
      show dec (10 * 0 + (c.toNat - 48)) = [c]
      rw [Nat.mul_zero, Nat.zero_add]
      exact hone
    -- the front part starts with the same non-zero digit
    have hhead : s.head? ≠ some '0' := by
      rcases hz with hz | hz
      · have : 0 < s.length := length_pos_iff.2 hs
        rw [length_append, length_singleton] at hz
        omega
      · rwa [head?_append_of_ne_nil _ hs] at hz
    have hfront := ih (fun d h => hd d (by simp [h])) hs (.inr hhead)
    have hpos : 0 < decVal s := by
      apply Nat.pos_of_ne_zero
      intro h0
      rw [h0] at hfront
      apply hhead
      rw [← hfront]
      rfl
    have happ := Nat.toDigits_append_toDigits (b := 10) (by decide) hpos
      (show c.toNat - 48 < 10 by omega)
    unfold dec at hfront hone ⊢
    rw [← happ, hfront, hone]

/-! ## Hexadecimal -/

lemma hexDigitVal_digitChar : ∀ d, d < 16 → hexDigitVal (Nat.digitChar d) = d := by
  decide

lemma isLowerHex_digitChar : ∀ d, d < 16 → isLowerHex (Nat.digitChar d) = true := by
  decide

lemma hexVal_append (c : Char) : hexVal (s ++ [c]) = 16 * hexVal s + hexDigitVal c := by
  simp [hexVal]

/-- **Hexadecimal text reads back.** -/
@[simp] theorem hexVal_hex : hexVal (hex n) = n := by
  induction n using Nat.strongRecOn with
  | _ n ih =>
    rw [hex, Nat.toDigits_eq_if (by decide)]
    split
    · next h => simp [hexVal, hexDigitVal_digitChar n h]
    next h =>
    have h16 : n / 16 < n := by omega
    rw [hexVal_append, hexDigitVal_digitChar _ (by omega)]
    have := ih (n / 16) h16
    rw [hex] at this
    omega

lemma isLowerHex_of_mem_hex {n : Nat} (h : c ∈ hex n) : isLowerHex c = true := by
  induction n using Nat.strongRecOn with
  | _ n ih =>
    rw [hex, Nat.toDigits_eq_if (by decide)] at h
    split at h
    · next hn =>
      simp only [mem_singleton] at h
      rw [h]
      exact isLowerHex_digitChar n hn
    · next hn =>
      rcases mem_append.1 h with h | h
      · exact ih (n / 16) (by omega) h
      simp only [mem_singleton] at h
      rw [h]
      exact isLowerHex_digitChar _ (by omega)

lemma isHexDigit_of_isLowerHex (h : isLowerHex c = true) : isHexDigit c = true := by
  unfold isLowerHex at h
  unfold isHexDigit
  rw [h, Bool.true_or]

@[simp] lemma hex_ne_nil : hex n ≠ [] := Nat.toDigits_ne_nil

lemma length_hex_le {n : Nat} (h : n < 65536) : (hex n).length ≤ 4 :=
  (Nat.length_toDigits_le_iff (by decide) (by decide)).2 h

lemma hex_injective {m n : Nat} (h : hex m = hex n) : m = n := by
  rw [← hexVal_hex m, h, hexVal_hex]

lemma isHexDigit_bounds (h : isHexDigit c = true) :
    (48 ≤ c.toNat ∧ c.toNat ≤ 57) ∨ (97 ≤ c.toNat ∧ c.toNat ≤ 102) ∨ (65 ≤ c.toNat ∧ c.toNat ≤ 70) := by
  simp only [isHexDigit, or_eq_true, and_eq_true, decide_eq_true_eq] at h
  rcases h with (h | h) | h
  · exact .inl (isDigit_bounds h)
  · exact .inr (.inl h)
  · exact .inr (.inr h)

lemma isLowerHex_bounds (h : isLowerHex c = true) :
    (48 ≤ c.toNat ∧ c.toNat ≤ 57) ∨ (97 ≤ c.toNat ∧ c.toNat ≤ 102) := by
  simp only [isLowerHex, or_eq_true, and_eq_true, decide_eq_true_eq] at h
  rcases h with h | h
  · exact .inl (isDigit_bounds h)
  · exact .inr h

lemma hexDigitVal_lt (h : isHexDigit c = true) : hexDigitVal c < 16 := by
  have hb := isHexDigit_bounds h
  unfold hexDigitVal
  split
  · next hd => have := isDigit_bounds hd; omega
  split
  · next ha =>
    have : 97 ≤ c.toNat := ha
    omega
  · next ha =>
    have : ¬ 97 ≤ c.toNat := ha
    omega

lemma hexVal_lt {s : Str} (h : ∀ c ∈ s, isHexDigit c = true) : hexVal s < 16 ^ s.length := by
  induction s using reverseRecOn with
  | nil => simp [hexVal]
  | append_singleton s c ih =>
    have h1 := ih fun d hd => h d (by simp [hd])
    have h2 := hexDigitVal_lt (h c (by simp))
    rw [hexVal_append, length_append, length_singleton, Nat.pow_succ]
    omega

end PyText
