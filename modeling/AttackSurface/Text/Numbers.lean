import AttackSurface.Text.Unicode
import AttackSurface.Text.Digits

/-!
# Reading, rounding and formatting numbers

Python's `round` on exact rationals (a tie goes to the even neighbour), the formats `.1f`
and `.0%`, and `int` of a text.  Rounding never crosses an integer:

    n ≤ q  →  n ≤ roundHalfEven q                              (le_roundHalfEven)
    q ≤ n  →  roundHalfEven q ≤ n                              (roundHalfEven_le)
-/

namespace PyNumber

open PyText

variable (q : ℚ)

/-- `round(q)`. -/
def roundHalfEven : Int :=
  if q - ⌊q⌋ < 1 / 2 then ⌊q⌋
  else if 1 / 2 < q - ⌊q⌋ then ⌊q⌋ + 1
  else if ⌊q⌋ % 2 = 0 then ⌊q⌋
  else ⌊q⌋ + 1

/-- `round(q, 1)`. -/
def round1 : ℚ := roundHalfEven (10 * q) / 10

def signOf : Str := if q < 0 then ['-'] else []

/-- The text of `q` in the format `.1f`. -/
def fixed1 : Str :=
  let n := (roundHalfEven (10 * q)).natAbs
  signOf q ++ dec (n / 10) ++ '.' :: dec (n % 10)

/-- The text of `q` in the format `.0%`. -/
def percent : Str := signOf q ++ dec (roundHalfEven (100 * q)).natAbs ++ ['%']

/-- The digits of an `int` literal after the first; an underscore stands between two digits. -/
def digitsFrom (U : Unicode) : Nat → Str → Option Nat
  | n, [] => some n
  | n, '_' :: c :: s => (U.decimal c).bind fun d => digitsFrom U (10 * n + d) s
  | n, c :: s => (U.decimal c).bind fun d => digitsFrom U (10 * n + d) s

def digits (U : Unicode) : Str → Option Nat
  | [] => none
  | c :: s => (U.decimal c).bind fun d => digitsFrom U d s

/-- `int(s)` (`none`: `ValueError`). -/
def parseInt (U : Unicode) (s : Str) : Option Int :=
  match strip s with
  | '-' :: t => (digits U t).map fun n => -(n : Int)
  | '+' :: t => (digits U t).map fun n => (n : Int)
  | t => (digits U t).map fun n => (n : Int)

lemma floor_le_roundHalfEven : ⌊q⌋ ≤ roundHalfEven q := by
  unfold roundHalfEven
  split_ifs <;> omega

lemma roundHalfEven_le_floor_add_one : roundHalfEven q ≤ ⌊q⌋ + 1 := by
  unfold roundHalfEven
  split_ifs <;> omega

lemma roundHalfEven_intCast (n : Int) : roundHalfEven n = n := by
  have hfloor : ⌊(n : ℚ)⌋ = n := Int.floor_intCast n
  rw [roundHalfEven, hfloor, if_pos]
  norm_num

lemma le_roundHalfEven {n : Int} {q : ℚ} (h : (n : ℚ) ≤ q) : n ≤ roundHalfEven q :=
  (Int.le_floor.2 h).trans (floor_le_roundHalfEven q)

lemma roundHalfEven_le {n : Int} {q : ℚ} (h : q ≤ n) : roundHalfEven q ≤ n := by
  have hfloor : ⌊q⌋ ≤ n := Int.floor_le_iff.2 (by linarith)
  by_cases he : ⌊q⌋ = n
  · -- `q` lies between its floor and `n`, so it is `n`
    have hq : q = n := le_antisymm h (he ▸ Int.floor_le q)
    rw [hq, roundHalfEven_intCast]
  · have hround := roundHalfEven_le_floor_add_one q
    omega

example : (roundHalfEven (5 / 2), roundHalfEven (7 / 2), fixed1 (49 / 5)) = (2, 4, "9.8".toList) := by
  decide +kernel

end PyNumber
