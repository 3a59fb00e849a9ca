import AttackSurface.Text.Digits

/-!
# JSON texts

`json.dumps(value, sort_keys=True, separators=(",", ":"))` on what a JSON column can hold:
strings with everything outside printable ASCII escaped, objects with their keys in order and
no blanks.  A text stands for one value,

    dumps a = dumps b  →  a.norm = b.norm        (dumps_injective)

where `norm` forgets the order of the keys.  A value is read off a text with anything after it
that does not go on with the value (`Stop`).
-/

namespace PyJson

open PyText List

/-! ## Values -/

variable (c : Char)

/-- The letters of a number, also of `NaN` and `Infinity`. -/
def isNumberChar : Bool := c.isAlphanum || c == '-' || c == '+' || c == '.'

def isNumberHead : Bool := c.isDigit || c == '-' || c == 'I' || c == 'N'

/-- A float, as `repr` writes it: never like an integer. -/
structure PyFloat where
  text : Str
  chars : text.all isNumberChar = true
  starts : text.head?.any isNumberHead = true
  notInt : text.all (fun c => c.isDigit || c == '-') = false

inductive Number
  | int (n : Int)
  | float (x : PyFloat)

inductive Json
  | null
  | bool (b : Bool)
  | num (n : Number)
  | str (s : Str)
  | arr (items : List Json)
  | obj (fields : List (Str × Json))

/-! ## Texts -/

def intText : Int → Str
  | .ofNat n => dec n
  | .negSucc n => '-' :: dec (n + 1)

def Number.toStr : Number → Str
  | .int n => intText n
  | .float x => x.text

def hexDigitOf (n : Nat) : Char := if n < 10 then Char.ofNat (48 + n) else Char.ofNat (87 + n)

/-- `\uXXXX`. -/
def unicodeEscape (n : Nat) : Str :=
  ['\\', 'u', hexDigitOf (n / 4096 % 16), hexDigitOf (n / 256 % 16), hexDigitOf (n / 16 % 16), hexDigitOf (n % 16)]

def shortEscape : Option Char :=
  if c = '"' then some '"'
  else if c = '\\' then some '\\'
  else if c = '\n' then some 'n'
  else if c = '\r' then some 'r'
  else if c = '\t' then some 't'
  else if c = '\x0c' then some 'f'
  else if c = '\x08' then some 'b'
  else none

def escapeChar : Str :=
  match shortEscape c with
  | some e => ['\\', e]
  | none =>
    if 32 ≤ c.toNat ∧ c.toNat ≤ 126 then [c]
    else if c.toNat < 65536 then unicodeEscape c.toNat
    else unicodeEscape (55296 + (c.toNat - 65536) / 1024) ++ unicodeEscape (56320 + (c.toNat - 65536) % 1024)

def escape (s : Str) : Str := s.flatMap escapeChar

def quote (s : Str) : Str := '"' :: escape s ++ ['"']

mutual

def render : Json → Str
  | .null => "null".toList
  | .bool true => "true".toList
  | .bool false => "false".toList
  | .num n => n.toStr
  | .str s => quote s
  | .arr items => '[' :: renderItems items
  | .obj fields => '{' :: renderFields fields

def renderItems : List Json → Str
  | [] => [']']
  | x :: xs => render x ++ renderItemsTail xs

def renderItemsTail : List Json → Str
  | [] => [']']
  | x :: xs => ',' :: (render x ++ renderItemsTail xs)

def renderFields : List (Str × Json) → Str
  | [] => ['}']
  | (k, v) :: fs => quote k ++ ':' :: (render v ++ renderFieldsTail fs)

def renderFieldsTail : List (Str × Json) → Str
  | [] => ['}']
  | (k, v) :: fs => ',' :: (quote k ++ ':' :: (render v ++ renderFieldsTail fs))

end

def keyLe : Str → Str → Bool
  | [], _ => true
  | _ :: _, [] => false
  | a :: s, b :: t => a.toNat < b.toNat || (a.toNat == b.toNat && keyLe s t)

def sortFields (fields : List (Str × Json)) : List (Str × Json) := fields.insertionSort fun a b => keyLe a.1 b.1

mutual

def Json.norm : Json → Json
  | .null => .null
  | .bool b => .bool b
  | .num n => .num n
  | .str s => .str s
  | .arr items => .arr (normItems items)
  | .obj fields => .obj (sortFields (normFields fields))

def normItems : List Json → List Json
  | [] => []
  | x :: xs => x.norm :: normItems xs

def normFields : List (Str × Json) → List (Str × Json)
  | [] => []
  | (k, v) :: fs => (k, v.norm) :: normFields fs

end

def dumps (j : Json) : Str := render j.norm

/-! ## Reading -/

def isStop (c : Char) : Bool := c == ',' || c == ']' || c == '}'

def Stop (r : Str) : Prop := ∀ c ∈ r.head?, isStop c = true

lemma stop_nil : Stop [] := nofun

lemma stop_cons {c : Char} {r : Str} (h : isStop c = true) : Stop (c :: r) := by
  rintro _ ⟨⟩
  exact h

section Strings

def hexVal4 (a b c d : Char) : Nat :=
  4096 * hexDigitVal a + 256 * hexDigitVal b + 16 * hexDigitVal c + hexDigitVal d

def shortUnescape (e : Char) : Option Char :=
  if e = '"' then some '"'
  else if e = '\\' then some '\\'
  else if e = 'n' then some '\n'
  else if e = 'r' then some '\r'
  else if e = 't' then some '\t'
  else if e = 'f' then some '\x0c'
  else if e = 'b' then some '\x08'
  else none

def readChar : Str → Option (Char × Str)
  | '\\' :: 'u' :: a :: b :: c :: d :: rest =>
    if 55296 ≤ hexVal4 a b c d ∧ hexVal4 a b c d < 56320 then
      match rest with
      | _ :: _ :: e :: f :: g :: h :: rest =>
        some (Char.ofNat (65536 + (hexVal4 a b c d - 55296) * 1024 + (hexVal4 e f g h - 56320)), rest)
      | _ => none
    else some (Char.ofNat (hexVal4 a b c d), rest)
  | '\\' :: e :: rest => (shortUnescape e).map fun c => (c, rest)
  | c :: rest => some (c, rest)
  | [] => none

lemma hexDigitVal_hexDigitOf : ∀ n < 16, hexDigitVal (hexDigitOf n) = n := by decide

lemma hexVal4_unicodeEscape {n : Nat} (h : n < 65536) :
    hexVal4 (hexDigitOf (n / 4096 % 16)) (hexDigitOf (n / 256 % 16)) (hexDigitOf (n / 16 % 16)) (hexDigitOf (n % 16)) = n := by
  have hdigit := hexDigitVal_hexDigitOf
  rw [hexVal4, hdigit _ (Nat.mod_lt _ (by decide)), hdigit _ (Nat.mod_lt _ (by decide)),
    hdigit _ (Nat.mod_lt _ (by decide)), hdigit _ (Nat.mod_lt _ (by decide))]
  omega

lemma shortEscape_spec {c e : Char} (h : shortEscape c = some e) : shortUnescape e = some c ∧ e ≠ 'u' := by
  unfold shortEscape at h
  split_ifs at h <;> (cases h; subst_vars; exact ⟨rfl, by decide⟩)

variable (c : Char)

lemma char_not_surrogate : ¬(55296 ≤ c.toNat ∧ c.toNat < 56320) := by
  have hvalid := c.valid
  simp only [UInt32.isValidChar, Nat.isValidChar] at hvalid
  have hval : c.toNat = c.val.toNat := rfl
  omega

lemma readChar_escapeChar (r : Str) : readChar (escapeChar c ++ r) = some (c, r) := by
  unfold escapeChar
  split
  · next e he =>
    obtain ⟨hunescape, hne⟩ := shortEscape_spec he
    simp only [cons_append, nil_append]
    rw [readChar]
    · rw [hunescape, Option.map_some]
    · rintro a b c d rest rfl
      exact absurd rfl hne
  · next hshort =>
    have hback : c ≠ '\\' := by
      rintro rfl
      cases hshort
    split_ifs with hprint hbmp
    · rw [singleton_append, readChar]
      · rintro a b c d rest rfl
        exact absurd rfl hback
      · rintro e rest rfl
        exact absurd rfl hback
    · have hv := hexVal4_unicodeEscape hbmp
      simp only [unicodeEscape, cons_append, nil_append, readChar, hv]
      rw [if_neg (char_not_surrogate c), Char.ofNat_toNat]
    have hmax : c.toNat < 1114112 := by
      have hvalid := c.valid
      simp only [UInt32.isValidChar, Nat.isValidChar] at hvalid
      have hval : c.toNat = c.val.toNat := rfl
      omega
    have hhigh := hexVal4_unicodeEscape (n := 55296 + (c.toNat - 65536) / 1024) (by omega)
    have hlow := hexVal4_unicodeEscape (n := 56320 + (c.toNat - 65536) % 1024) (by omega)
    simp only [unicodeEscape, cons_append, nil_append, readChar, hhigh, hlow]
    rw [if_pos (by omega)]
    have hsum : 65536 + (55296 + (c.toNat - 65536) / 1024 - 55296) * 1024 +
        (56320 + (c.toNat - 65536) % 1024 - 56320) = c.toNat := by omega
    rw [hsum, Char.ofNat_toNat]

lemma escapeChar_head (r : Str) : (escapeChar c ++ r).head? ≠ some '"' := by
  unfold escapeChar
  split
  · simp
  next hshort =>
  have hquote : c ≠ '"' := by
    rintro rfl
    cases hshort
  split_ifs <;> simp [unicodeEscape, hquote]

lemma escape_cons (s : Str) : escape (c :: s) = escapeChar c ++ escape s := flatMap_cons

lemma escape_unique {s s' r r' : Str} (h : escape s ++ '"' :: r = escape s' ++ '"' :: r') : s = s' ∧ r = r' := by
  induction s generalizing s' with
  | nil =>
    cases s' with
    | nil => exact ⟨rfl, (cons.inj h).2⟩
    | cons d t' =>
      rw [escape_cons, append_assoc] at h
      have hhead := escapeChar_head d (escape t' ++ '"' :: r')
      rw [← h] at hhead
      exact absurd rfl hhead
  | cons c t ih =>
    cases s' with
    | nil =>
      rw [escape_cons, append_assoc] at h
      have hhead := escapeChar_head c (escape t ++ '"' :: r)
      rw [h] at hhead
      exact absurd rfl hhead
    | cons d t' =>
      rw [escape_cons, escape_cons, append_assoc, append_assoc] at h
      have hread := congrArg readChar h
      rw [readChar_escapeChar, readChar_escapeChar] at hread
      obtain ⟨rfl, hrest⟩ := Prod.mk.inj (Option.some_inj.1 hread)
      obtain ⟨rfl, rfl⟩ := ih hrest
      exact ⟨rfl, rfl⟩

lemma quote_unique {s s' r r' : Str} (h : quote s ++ r = quote s' ++ r') : s = s' ∧ r = r' := by
  simp only [quote, cons_append, append_assoc, nil_append, cons.injEq, true_and] at h
  exact escape_unique h

end Strings

section Numbers

lemma intText_chars (n : Int) : ∀ c ∈ intText n, c.isDigit = true ∨ c = '-' := by
  intro c hc
  cases n with
  | ofNat n => exact .inl (isDigit_of_mem_dec hc)
  | negSucc n =>
    rcases mem_cons.1 hc with rfl | hc
    · exact .inr rfl
    · exact .inl (isDigit_of_mem_dec hc)

lemma dec_injective {m n : Nat} (h : dec m = dec n) : m = n := by
  rw [← decVal_dec m, h, decVal_dec]

lemma intText_injective {m n : Int} (h : intText m = intText n) : m = n := by
  have hdash : ∀ k l : Nat, dec k ≠ '-' :: dec l := by
    intro k l heq
    have hmem : '-' ∈ dec k := heq ▸ mem_cons_self
    have hdigit := isDigit_of_mem_dec hmem
    simp at hdigit
  cases m with
  | ofNat m =>
    cases n with
    | ofNat n => rw [dec_injective h]
    | negSucc n => exact absurd h (hdash m (n + 1))
  | negSucc m =>
    cases n with
    | ofNat n => exact absurd h.symm (hdash n (m + 1))
    | negSucc n => rw [Nat.succ.inj (dec_injective (cons.inj h).2)]

lemma Number.toStr_injective {m n : Number} (h : m.toStr = n.toStr) : m = n := by
  have hkind : ∀ (k : Int) (x : PyFloat), intText k ≠ x.text := by
    intro k x heq
    have hall : x.text.all (fun c => c.isDigit || c == '-') = true := by
      rw [← heq, List.all_eq_true]
      intro c hc
      simpa using intText_chars k c hc
    rw [x.notInt] at hall
    cases hall
  cases m with
  | int m =>
    cases n with
    | int n => rw [intText_injective h]
    | float y => exact absurd h (hkind m y)
  | float x =>
    cases n with
    | int n => exact absurd h.symm (hkind n x)
    | float y =>
      obtain ⟨text, _, _, _⟩ := x
      obtain ⟨text', _, _, _⟩ := y
      obtain rfl : text = text' := h
      rfl

lemma isStop_eq_false {c : Char} (h : isNumberChar c = true) : isStop c = false := by
  unfold isStop
  rw [Bool.eq_false_iff]
  intro hstop
  simp only [Bool.or_eq_true, beq_iff_eq] at hstop
  rcases hstop with (rfl | rfl) | rfl <;> cases h

lemma Number.toStr_chars (n : Number) : ∀ c ∈ n.toStr, isStop c = false := by
  intro c hc
  refine isStop_eq_false ?_
  cases n with
  | int n =>
    rcases intText_chars n c hc with hdigit | rfl
    · simp [isNumberChar, Char.isAlphanum, hdigit]
    · rfl
  | float x => exact List.all_eq_true.1 x.chars c hc

lemma Number.toStr_head (n : Number) : ∃ c t, n.toStr = c :: t ∧ isNumberHead c = true := by
  cases n with
  | int n =>
    cases n with
    | ofNat n =>
      obtain ⟨c, t, heq⟩ := exists_cons_of_ne_nil (dec_ne_nil n)
      refine ⟨c, t, heq, ?_⟩
      have hdigit := isDigit_of_mem_dec (heq ▸ mem_cons_self : c ∈ dec n)
      simp [isNumberHead, hdigit]
    | negSucc n => exact ⟨'-', _, rfl, rfl⟩
  | float x =>
    obtain ⟨c, hc, hstarts⟩ := (Option.any_eq_true _ _).1 x.starts
    obtain ⟨t, ht⟩ := head?_eq_some_iff.1 hc
    exact ⟨c, t, ht, hstarts⟩

lemma token_unique {t t' r r' : Str} (ht : ∀ c ∈ t, isStop c = false) (ht' : ∀ c ∈ t', isStop c = false)
    (hr : Stop r) (hr' : Stop r') (h : t ++ r = t' ++ r') : t = t' ∧ r = r' := by
  induction t generalizing t' with
  | nil =>
    cases t' with
    | nil => exact ⟨rfl, h⟩
    | cons d t' =>
      have hstop := hr d (by rw [show r = d :: (t' ++ r') from h]; rfl)
      rw [ht' d mem_cons_self] at hstop
      cases hstop
  | cons c t ih =>
    cases t' with
    | nil =>
      have hstop := hr' c (by rw [← show c :: (t ++ r) = r' from h]; rfl)
      rw [ht c mem_cons_self] at hstop
      cases hstop
    | cons d t' =>
      obtain ⟨rfl, hrest⟩ := cons.inj h
      obtain ⟨rfl, rfl⟩ := ih (fun c hc => ht c (mem_cons_of_mem _ hc))
        (fun c hc => ht' c (mem_cons_of_mem _ hc)) hrest
      exact ⟨rfl, rfl⟩

lemma Number.toStr_unique {m n : Number} {r r' : Str} (hr : Stop r) (hr' : Stop r')
    (h : m.toStr ++ r = n.toStr ++ r') : m = n ∧ r = r' := by
  obtain ⟨htext, hrest⟩ := token_unique m.toStr_chars n.toStr_chars hr hr' h
  exact ⟨Number.toStr_injective htext, hrest⟩

end Numbers

/-! ## Values -/

inductive Kind
  | null
  | yes
  | no
  | num
  | str
  | arr
  | obj

def Json.kind : Json → Kind
  | .null => .null
  | .bool true => .yes
  | .bool false => .no
  | .num _ => .num
  | .str _ => .str
  | .arr _ => .arr
  | .obj _ => .obj

def kindOf (c : Char) : Kind :=
  if c = 'n' then .null
  else if c = 't' then .yes
  else if c = 'f' then .no
  else if c = '"' then .str
  else if c = '[' then .arr
  else if c = '{' then .obj
  else .num

lemma kindOf_numberHead {c : Char} (h : isNumberHead c = true) : kindOf c = .num := by
  unfold kindOf
  split_ifs with h₁ h₂ h₃ h₄ h₅ h₆
  all_goals first
    | rfl
    | (subst_vars; cases h)

lemma render_head (j : Json) : ∃ c t, render j = c :: t ∧ isStop c = false ∧ kindOf c = j.kind := by
  cases j with
  | null | str s => exact ⟨_, _, rfl, rfl, rfl⟩
  | bool b => cases b <;> exact ⟨_, _, rfl, rfl, rfl⟩
  | num n =>
    obtain ⟨c, t, heq, hhead⟩ := n.toStr_head
    refine ⟨c, t, heq, n.toStr_chars c ?_, kindOf_numberHead hhead⟩
    rw [heq]
    exact mem_cons_self
  | arr items | obj fields => exact ⟨_, _, by rw [render], rfl, rfl⟩

variable {a b : Json}

lemma kind_unique {r r' : Str} (h : render a ++ r = render b ++ r') : a.kind = b.kind := by
  obtain ⟨c, t, ha, _, hkind⟩ := render_head a
  obtain ⟨d, t', hb, _, hkind'⟩ := render_head b
  rw [ha, hb] at h
  obtain ⟨rfl, _⟩ := cons.inj h
  rw [← hkind, hkind']

lemma render_ne_stop {j : Json} {c : Char} {r r' : Str} (h : isStop c = true) : render j ++ r ≠ c :: r' := by
  obtain ⟨d, t, heq, hstop, _⟩ := render_head j
  rw [heq]
  intro hcons
  obtain ⟨rfl, _⟩ := cons.inj hcons
  rw [h] at hstop
  cases hstop

lemma stop_itemsTail (xs : List Json) (r : Str) : Stop (renderItemsTail xs ++ r) := by
  cases xs <;> (rw [renderItemsTail]; exact stop_cons rfl)

lemma stop_fieldsTail (fs : List (Str × Json)) (r : Str) : Stop (renderFieldsTail fs ++ r) := by
  rcases fs with _ | ⟨⟨k, v⟩, fs⟩ <;> (rw [renderFieldsTail]; exact stop_cons rfl)

mutual

/-- **A text stands for one value.** -/
theorem render_unique : ∀ (a b : Json) {r r' : Str}, Stop r → Stop r' → render a ++ r = render b ++ r' → a = b ∧ r = r'
  | .null, b, _, _, _, _, h => by
    cases b with
    | null => exact ⟨rfl, List.append_cancel_left h⟩
    | bool b => cases b <;> cases kind_unique h
    | _ => cases kind_unique h
  | .bool x, b, _, _, _, _, h => by
    cases b with
    | bool y =>
      obtain rfl : x = y := by cases x <;> cases y <;> first | rfl | cases kind_unique h
      exact ⟨rfl, List.append_cancel_left h⟩
    | _ => cases x <;> cases kind_unique h
  | .num m, b, _, _, hr, hr', h => by
    cases b with
    | num n =>
      rw [render, render] at h
      obtain ⟨rfl, hrest⟩ := Number.toStr_unique hr hr' h
      exact ⟨rfl, hrest⟩
    | bool b => cases b <;> cases kind_unique h
    | _ => cases kind_unique h
  | .str s, b, _, _, _, _, h => by
    cases b with
    | str t =>
      rw [render, render] at h
      obtain ⟨rfl, hrest⟩ := quote_unique h
      exact ⟨rfl, hrest⟩
    | bool b => cases b <;> cases kind_unique h
    | _ => cases kind_unique h
  | .arr xs, b, _, _, _, _, h => by
    cases b with
    | arr ys =>
      rw [render, render, cons_append, cons_append] at h
      obtain ⟨rfl, hrest⟩ := items_unique xs ys (cons.inj h).2
      exact ⟨rfl, hrest⟩
    | bool b => cases b <;> cases kind_unique h
    | _ => cases kind_unique h
  | .obj fs, b, _, _, _, _, h => by
    cases b with
    | obj gs =>
      rw [render, render, cons_append, cons_append] at h
      obtain ⟨rfl, hrest⟩ := fields_unique fs gs (cons.inj h).2
      exact ⟨rfl, hrest⟩
    | bool b => cases b <;> cases kind_unique h
    | _ => cases kind_unique h

lemma items_unique : ∀ (xs ys : List Json) {r r' : Str}, renderItems xs ++ r = renderItems ys ++ r' → xs = ys ∧ r = r'
  | [], [], _, _, h => ⟨rfl, List.append_cancel_left h⟩
  | [], y :: ys, _, _, h => by
    rw [renderItems, renderItems, List.append_assoc] at h
    exact absurd h.symm (render_ne_stop rfl)
  | x :: xs, [], _, _, h => by
    rw [renderItems, renderItems, List.append_assoc] at h
    exact absurd h (render_ne_stop rfl)
  | x :: xs, y :: ys, _, _, h => by
    rw [renderItems, renderItems, List.append_assoc, List.append_assoc] at h
    obtain ⟨rfl, hrest⟩ := render_unique x y (stop_itemsTail _ _) (stop_itemsTail _ _) h
    obtain ⟨rfl, hend⟩ := itemsTail_unique xs ys hrest
    exact ⟨rfl, hend⟩

lemma itemsTail_unique : ∀ (xs ys : List Json) {r r' : Str},
    renderItemsTail xs ++ r = renderItemsTail ys ++ r' → xs = ys ∧ r = r'
  | [], [], _, _, h => ⟨rfl, List.append_cancel_left h⟩
  | [], y :: ys, _, _, h => by simp [renderItemsTail] at h
  | x :: xs, [], _, _, h => by simp [renderItemsTail] at h
  | x :: xs, y :: ys, _, _, h => by
    rw [renderItemsTail, renderItemsTail, List.cons_append, List.cons_append, List.append_assoc, List.append_assoc] at h
    obtain ⟨rfl, hrest⟩ := render_unique x y (stop_itemsTail _ _) (stop_itemsTail _ _) (cons.inj h).2
    obtain ⟨rfl, hend⟩ := itemsTail_unique xs ys hrest
    exact ⟨rfl, hend⟩

lemma fields_unique : ∀ (fs gs : List (Str × Json)) {r r' : Str},
    renderFields fs ++ r = renderFields gs ++ r' → fs = gs ∧ r = r'
  | [], [], _, _, h => ⟨rfl, List.append_cancel_left h⟩
  | [], (l, w) :: gs, _, _, h => by simp [renderFields, quote] at h
  | (k, v) :: fs, [], _, _, h => by simp [renderFields, quote] at h
  | (k, v) :: fs, (l, w) :: gs, _, _, h => by
    rw [renderFields, renderFields, List.append_assoc, List.append_assoc] at h
    obtain ⟨rfl, hrest⟩ := quote_unique h
    simp only [cons_append, append_assoc, cons.injEq, true_and] at hrest
    obtain ⟨rfl, htail⟩ := render_unique v w (stop_fieldsTail _ _) (stop_fieldsTail _ _) hrest
    obtain ⟨rfl, hend⟩ := fieldsTail_unique fs gs htail
    exact ⟨rfl, hend⟩

lemma fieldsTail_unique : ∀ (fs gs : List (Str × Json)) {r r' : Str},
    renderFieldsTail fs ++ r = renderFieldsTail gs ++ r' → fs = gs ∧ r = r'
  | [], [], _, _, h => ⟨rfl, List.append_cancel_left h⟩
  | [], (l, w) :: gs, _, _, h => by simp [renderFieldsTail] at h
  | (k, v) :: fs, [], _, _, h => by simp [renderFieldsTail] at h
  | (k, v) :: fs, (l, w) :: gs, _, _, h => by
    rw [renderFieldsTail, renderFieldsTail, List.cons_append, List.cons_append, List.append_assoc,
      List.append_assoc] at h
    obtain ⟨rfl, hrest⟩ := quote_unique (cons.inj h).2
    simp only [cons_append, append_assoc, cons.injEq, true_and] at hrest
    obtain ⟨rfl, htail⟩ := render_unique v w (stop_fieldsTail _ _) (stop_fieldsTail _ _) hrest
    obtain ⟨rfl, hend⟩ := fieldsTail_unique fs gs htail
    exact ⟨rfl, hend⟩

end

lemma render_injective (h : render a = render b) : a = b := by
  refine (render_unique a b stop_nil stop_nil ?_).1
  rw [append_nil, append_nil, h]

lemma dumps_injective (h : dumps a = dumps b) : a.norm = b.norm := render_injective h

end PyJson
