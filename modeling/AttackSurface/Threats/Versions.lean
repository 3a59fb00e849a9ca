import AttackSurface.Threats.Matching

/-!
# The order of versions (`app/threats/versions.py`)

A version stands for an infinite sequence of tokens that ends in zeros (`Version.value`), and
`_cmp` compares two versions as these sequences are compared, first difference first.  The laws
of the comparison are those of a linear order (`version_order`).
-/

namespace App.Threats

open PyText App.Scope

def Place : Type := List ℕ ⊕ₗ ℕ

instance : LinearOrder Place := inferInstanceAs (LinearOrder (List ℕ ⊕ₗ ℕ))

def Token.place : Token → Place
  | .word s => Sum.inlₗ (s.map Char.toNat)
  | .num n => Sum.inrₗ n

def Sequence : Type := Lex (ℕ → Place)

noncomputable instance : LinearOrder Sequence := inferInstanceAs (LinearOrder (Lex (ℕ → Place)))

def Sequence.of (f : ℕ → Place) : Sequence := toLex f

def sequenceOf (a : List Token) : Sequence := .of fun i => (a.getD i (.num 0)).place

def Version.value (v : Version) : Sequence := sequenceOf v.tokens

/-- `__eq__`. -/
def Version.eq (v w : Version) : Bool := compareTokens v.tokens w.tokens == .eq

/-- `__le__` of `total_ordering`. -/
def Version.le (v w : Version) : Bool := v.lt w || v.eq w

/-! ## What the comparison computes -/

lemma strLe_iff (s t : Str) : strLe s t = true ↔ ¬ t.map Char.toNat < s.map Char.toNat := by
  induction s generalizing t with
  | nil => simp [strLe]
  | cons c s ih =>
    cases t with
    | nil => simp [strLe]
    | cons d t =>
      have hchar : c = d ↔ c.toNat = d.toNat := Char.toNat_inj.symm
      simp only [strLe, Bool.or_eq_true, decide_eq_true_eq, Bool.and_eq_true, beq_iff_eq, ih, List.map_cons,
        List.cons_lt_cons_iff, hchar]
      by_cases hlt : t.map Char.toNat < s.map Char.toNat
      · simp only [hlt, not_true_eq_false, and_false, and_true, or_false]
        omega
      · simp only [hlt, not_false_eq_true, and_true, and_false, or_false]
        omega

/-- The comparison and the order say the same. -/
structure Agrees {α : Type} [LinearOrder α] (o : Ordering) (a b : α) : Prop where
  lt : o = .lt ↔ a < b
  eq : o = .eq ↔ a = b

lemma compareToken_agrees (x y : Token) : Agrees (compareToken x y) x.place y.place := by
  show Agrees (α := List ℕ ⊕ₗ ℕ) _ _ _
  cases x with
  | num m =>
    cases y with
    | num n => exact ⟨by simp [compareToken, Token.place, compare_lt_iff_lt], by simp [compareToken, Token.place]⟩
    | word t => exact ⟨by simp [compareToken, Token.place], by simp [compareToken, Token.place]⟩
  | word s =>
    cases y with
    | num n => exact ⟨by simp [compareToken, Token.place], by simp [compareToken, Token.place]⟩
    | word t =>
      have hinj : s = t ↔ s.map Char.toNat = t.map Char.toNat :=
        (List.map_injective_iff.2 fun _ _ => Char.toNat_inj.1).eq_iff.symm
      have hle := strLe_iff s t
      rw [not_lt, le_iff_lt_or_eq, ← hinj] at hle
      simp only [compareToken, Token.place]
      split
      · next heq => exact ⟨by simp [heq], by simp [heq]⟩
      next hne =>
      simp only [hne, or_false] at hle
      split
      · next h => exact ⟨by simpa using hle.1 h, by simp [← hinj, hne]⟩
      · next h => exact ⟨by simpa using fun hlt => h (hle.2 hlt), by simp [← hinj, hne]⟩

section Sequences

variable {f g : ℕ → Place}

lemma Sequence.lt_iff : Sequence.of f < .of g ↔
    f 0 < g 0 ∨ f 0 = g 0 ∧ Sequence.of (fun i => f (i + 1)) < .of fun i => g (i + 1) := by
  constructor
  · rintro ⟨i, hsame, hlt⟩
    cases i with
    | zero => exact .inl hlt
    | succ i => exact .inr ⟨hsame 0 i.succ_pos, i, fun j hj => hsame (j + 1) (Nat.succ_lt_succ hj), hlt⟩
  rintro (hlt | ⟨h0, i, hsame, hlt⟩)
  · exact ⟨0, fun j hj => absurd hj j.not_lt_zero, hlt⟩
  refine ⟨i + 1, fun j hj => ?_, hlt⟩
  cases j with
  | zero => exact h0
  | succ j => exact hsame j (Nat.lt_of_succ_lt_succ hj)

lemma Sequence.eq_iff : Sequence.of f = .of g ↔
    f 0 = g 0 ∧ Sequence.of (fun i => f (i + 1)) = .of fun i => g (i + 1) := by
  show f = g ↔ _ ∧ (fun i => f (i + 1)) = fun i => g (i + 1)
  rw [funext_iff, funext_iff]
  exact Nat.and_forall_add_one.symm

lemma Agrees.sequence {o o' : Ordering} (h : Agrees o (f 0) (g 0))
    (h' : Agrees o' (Sequence.of fun i => f (i + 1)) (.of fun i => g (i + 1))) :
    Agrees (o.then o') (Sequence.of f) (.of g) := by
  refine ⟨?_, ?_⟩
  · rw [Sequence.lt_iff, ← h.lt, ← h.eq, ← h'.lt]
    cases o <;> simp
  · rw [Sequence.eq_iff, ← h.eq, ← h'.eq]
    cases o <;> simp

end Sequences

lemma compareMissing_agrees (b : List Token) : Agrees (compareMissing b) (sequenceOf []) (sequenceOf b) := by
  induction b with
  | nil => exact ⟨by simp [compareMissing], by simp [compareMissing]⟩
  | cons y b ih => exact (compareToken_agrees (.num 0) y).sequence ih

lemma compareTokens_agrees (a b : List Token) : Agrees (compareTokens a b) (sequenceOf a) (sequenceOf b) := by
  induction a generalizing b with
  | nil => exact compareMissing_agrees b
  | cons x a ih =>
    cases b with
    | nil => exact (compareToken_agrees x (.num 0)).sequence (ih [])
    | cons y b => exact (compareToken_agrees x y).sequence (ih b)

section Order

variable {T : Texts} {v w : Version}

lemma Version.lt_iff : v.lt w = true ↔ v.value < w.value := by
  rw [Version.lt, beq_iff_eq]
  exact (compareTokens_agrees _ _).lt

lemma Version.eq_iff : v.eq w = true ↔ v.value = w.value := by
  rw [Version.eq, beq_iff_eq]
  exact (compareTokens_agrees _ _).eq

lemma Version.le_iff : v.le w = true ↔ v.value ≤ w.value := by
  rw [Version.le, Bool.or_eq_true, Version.lt_iff, Version.eq_iff, le_iff_lt_or_eq]

lemma inRange_iff {r : VersionRange T} : inRange T v r = true ↔
    (∀ w ∈ (bound r.introduced).bind (Version.parse T), w.value ≤ v.value) ∧
    (∀ w ∈ (bound r.fixed).bind (Version.parse T), v.value < w.value) ∧
    ∀ w ∈ (bound r.lastAffected).bind (Version.parse T), v.value ≤ w.value := by
  have hnone : ∀ (o : Option Version) (p : Version → Bool), (!o.any p) = true ↔ ∀ w ∈ o, ¬ p w = true := by
    intro o p
    cases o <;> simp
  simp only [inRange, Bool.and_eq_true, hnone, Option.all_eq_true, Version.lt_iff, not_lt, and_assoc, Option.mem_def]

end Order

/-- **The order of versions.**  Of `<`, `==` and `>` exactly one holds, `<` and `==` are transitive,
equal versions compare alike and lie in the same ranges, and ranges are convex. -/
theorem version_order (T : Texts) : (∀ a b : Version, [a.lt b, a.eq b, b.lt a].count true = 1) ∧
    (∀ a b c : Version, a.lt b = true → b.lt c = true → a.lt c = true) ∧
    (∀ a b c : Version, a.eq b = true → b.eq c = true → a.eq c = true) ∧
    (∀ a a' b b' : Version, a.eq a' = true → b.eq b' = true → a.lt b = a'.lt b') ∧
    (∀ (a b : Version) (r : VersionRange T), a.eq b = true → inRange T a r = inRange T b r) ∧
    ∀ (a b c : Version) (r : VersionRange T), a.le b = true → b.le c = true →
      inRange T a r = true → inRange T c r = true → inRange T b r = true := by
  refine ⟨fun a b => ?_, fun a b c => ?_, fun a b c => ?_, fun a a' b b' ha hb => ?_, fun a b r h => ?_,
    fun a b c r => ?_⟩
  · have hdecide : [a.lt b, a.eq b, b.lt a] =
        [decide (a.value < b.value), decide (a.value = b.value), decide (b.value < a.value)] := by
      simp only [← Version.lt_iff, ← Version.eq_iff, Bool.decide_eq_true]
    rw [hdecide]
    rcases lt_trichotomy a.value b.value with h | h | h
    · simp [h, h.ne, h.not_gt]
    · simp [h]
    · simp [h, h.ne', h.not_gt]
  · rw [Version.lt_iff, Version.lt_iff, Version.lt_iff]
    exact lt_trans
  · rw [Version.eq_iff, Version.eq_iff, Version.eq_iff]
    exact Eq.trans
  · rw [Version.eq_iff] at ha hb
    rw [Bool.eq_iff_iff, Version.lt_iff, Version.lt_iff, ha, hb]
  · rw [Version.eq_iff] at h
    rw [Bool.eq_iff_iff, inRange_iff, inRange_iff, h]
  rw [Version.le_iff, Version.le_iff, inRange_iff, inRange_iff, inRange_iff]
  rintro hab hbc ⟨hlo, -, -⟩ ⟨-, hfixed, hlast⟩
  exact ⟨fun w hw => (hlo w hw).trans hab, fun w hw => hbc.trans_lt (hfixed w hw),
    fun w hw => hbc.trans (hlast w hw)⟩

end App.Threats
