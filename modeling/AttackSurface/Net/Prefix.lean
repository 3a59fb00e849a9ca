import Mathlib

/-!
# Prefix blocks of `w`-bit integers

A network is a base integer and a prefix length.  Membership is the bit test
`x & mask == base`; here it is shown to be an interval test.

    inNet w base p x = true ↔ base ≤ x ∧ x ≤ broadcast w base p      (inNet_iff)
-/

namespace PrefixNet

def allOnes (w : Nat) : Nat := 2 ^ w - 1

/-- `ALL_ONES ^ (ALL_ONES >> p)`. -/
def netmask (w p : Nat) : Nat := allOnes w ^^^ (allOnes w >>> p)

/-- `netmask ^ ALL_ONES`. -/
def hostmask (w p : Nat) : Nat := netmask w p ^^^ allOnes w

def inNet (w base p x : Nat) : Bool := x &&& netmask w p == base

def broadcast (w base p : Nat) : Nat := base ||| hostmask w p

def Aligned (w base p : Nat) : Prop := base < 2 ^ w ∧ p ≤ w ∧ base &&& netmask w p = base

lemma testBit_netmask {w p : Nat} (i : Nat) :
    (netmask w p).testBit i = (decide (i < w) && decide (w ≤ p + i)) := by
  unfold netmask allOnes
  rw [Nat.testBit_xor, Nat.testBit_shiftRight, Nat.testBit_two_pow_sub_one, Nat.testBit_two_pow_sub_one]
  by_cases h1 : i < w <;> by_cases h2 : p + i < w <;> simp [h1, h2] <;> omega

lemma hostmask_eq {w p : Nat} (h : p ≤ w) : hostmask w p = 2 ^ (w - p) - 1 := by
  apply Nat.eq_of_testBit_eq
  intro i
  unfold hostmask allOnes
  rw [Nat.testBit_xor, testBit_netmask, Nat.testBit_two_pow_sub_one, Nat.testBit_two_pow_sub_one]
  by_cases h1 : i < w <;> by_cases h2 : w ≤ p + i <;> simp [h1, h2] <;> omega

lemma and_netmask {w p x : Nat} (hx : x < 2 ^ w) : x &&& netmask w p = x / 2 ^ (w - p) * 2 ^ (w - p) := by
  apply Nat.eq_of_testBit_eq
  intro i
  rw [Nat.testBit_and, testBit_netmask, Nat.testBit_mul_two_pow, Nat.testBit_div_two_pow]
  by_cases h1 : w - p ≤ i
  · have h2 : w ≤ p + i := by omega
    have h3 : i - (w - p) + (w - p) = i := by omega
    by_cases h4 : i < w
    · simp [h1, h2, h4, h3]
    have h5 : x.testBit i = false := by
      apply Nat.testBit_lt_two_pow
      exact lt_of_lt_of_le hx (Nat.pow_le_pow_right (by decide) (by omega))
    simp [h1, h2, h4, h3, h5]
  · have h2 : ¬ w ≤ p + i := by omega
    simp [h1, h2]

lemma aligned_mask {w p x : Nat} (hx : x < 2 ^ w) (hp : p ≤ w) : Aligned w (x &&& netmask w p) p := by
  refine ⟨lt_of_le_of_lt Nat.and_le_left hx, hp, ?_⟩
  rw [Nat.and_assoc, Nat.and_self]

variable {w base p : Nat}

section

variable (h : Aligned w base p)

include h

lemma Aligned.dvd : 2 ^ (w - p) ∣ base := by
  obtain ⟨hb, -, ha⟩ := h
  rw [and_netmask hb] at ha
  exact ⟨base / 2 ^ (w - p), by rw [Nat.mul_comm]; exact ha.symm⟩

lemma Aligned.broadcast_eq : broadcast w base p = base + (2 ^ (w - p) - 1) := by
  have hpos : 0 < 2 ^ (w - p) := Nat.two_pow_pos _
  obtain ⟨q, hq⟩ := h.dvd
  unfold broadcast
  rw [hostmask_eq h.2.1, hq]
  exact (Nat.two_pow_add_eq_or_of_lt (by omega) q).symm

lemma Aligned.broadcast_lt : broadcast w base p < 2 ^ w := by
  unfold broadcast
  rw [hostmask_eq h.2.1]
  apply Nat.or_lt_two_pow h.1
  have h1 : 2 ^ (w - p) ≤ 2 ^ w := Nat.pow_le_pow_right (by decide) (by omega)
  have h2 : 0 < 2 ^ (w - p) := Nat.two_pow_pos _
  omega

lemma Aligned.base_le_broadcast : base ≤ broadcast w base p := by
  rw [h.broadcast_eq]
  omega

end

/-- **Membership is an interval test.** -/
theorem inNet_iff {w base p x : Nat} (h : Aligned w base p) (hx : x < 2 ^ w) :
    inNet w base p x = true ↔ base ≤ x ∧ x ≤ broadcast w base p := by
  have hpos : 0 < 2 ^ (w - p) := Nat.two_pow_pos _
  obtain ⟨q, hq⟩ := h.dvd
  unfold inNet
  rw [beq_iff_eq, and_netmask hx, h.broadcast_eq, hq]
  have hdm := Nat.div_add_mod x (2 ^ (w - p))
  have hmod := Nat.mod_lt x hpos
  constructor
  · intro he
    rw [Nat.mul_comm] at he
    omega
  rintro ⟨h1, h2⟩
  have hdiv : x / 2 ^ (w - p) = q := by
    apply Nat.div_eq_of_lt_le
    · rw [Nat.mul_comm]
      exact h1
    · rw [Nat.add_mul, Nat.one_mul, Nat.mul_comm q]
      omega
  rw [hdiv, Nat.mul_comm]

lemma aligned_full {w x : Nat} (hx : x < 2 ^ w) : Aligned w x w :=
  ⟨hx, le_refl _, by rw [and_netmask hx]; simp⟩

lemma broadcast_full {w x : Nat} (hx : x < 2 ^ w) : broadcast w x w = x := by
  rw [(aligned_full hx).broadcast_eq]
  simp

end PrefixNet
