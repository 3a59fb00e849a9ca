import AttackSurface.Order.Intervals
import AttackSurface.Sensors.Endpoints

/-!
# What a port specification means (`asm_sensors/ports.py`)

`ports U s` are the numbers in the ranges written in `s`.  `compile_spec` sorts the ranges
and joins the touching ones; its loop keeps a canonical list of intervals
(`mergeRanges_spec`), so `compileSpec` is the one canonical list of `ports U s`
(`compileSpec_spec`).  Printing that list and compiling the text again gives the list back
(`compileSpec_printed`), so the normal form of a specification tells its ports and nothing
else.
-/

namespace AsmSensors

open PyText PyNet App.Scans Intervals List

/-! ## The named sets -/

namespace PortSets

/-- `WEB`. -/
def web : Str := "80,443,3000,5000,8000,8008,8080,8081,8443,8888,9443".toList

/-- `COMMON`. -/
def common : Str := [','].intercalate (List.map String.toList [
    "21", "22", "23", "25", "53", "80", "81", "110", "111", "135", "139", "143", "389", "443",
    "445", "465", "500", "587", "636", "873", "993", "995", "1080", "1194", "1433", "1434", "1521",
    "1723", "1883", "2049", "2082", "2083", "2086", "2087", "2181", "2222", "2375", "2376", "2379",
    "3000", "3128", "3268", "3306", "3389", "4443", "4444", "4786", "5000", "5001", "5060", "5061",
    "5432", "5601", "5672", "5900", "5901", "5984", "5985", "5986", "6379", "6443", "7001", "7002",
    "7443", "8000", "8008", "8009", "8080", "8081", "8088", "8089", "8161", "8443", "8500", "8834",
    "8880", "8888", "9000", "9001", "9042", "9090", "9091", "9200", "9300", "9418", "9443",
    "10000", "10250", "10443", "11211", "15672", "27017", "27018", "50000", "50070"])

/-- `EXTENDED`. -/
def extended : Str := "1-1024,".toList ++ common ++
  ",1025-1100,2000-2100,3000-3100,4000-4100,5000-5100,7000-7100,8000-8100,8400-8500,9000-9100".toList

/-- `FULL`. -/
def full : Str := "1-65535".toList

end PortSets

/-! ## What a specification names -/

variable (U : Unicode) (spec : Str)

/-- `count_ports`. -/
def countPorts : Option Nat :=
  (compileSpec U spec).map fun rs => (rs.map fun r => r.2 - r.1 + 1).sum

def writtenRanges : List (Nat × Nat) :=
  (portRanges U (spec.filter (· != ' '))).getD []

def ports : Set ℤ := {p | ∃ r ∈ writtenRanges U spec, (r.1 : ℤ) ≤ p ∧ p ≤ r.2}

def printRange (r : Nat × Nat) : Str := if r.1 = r.2 then dec r.1 else dec r.1 ++ '-' :: dec r.2

def printRanges (rs : List (Nat × Nat)) : Str := [','].intercalate (rs.map printRange)

def IsPortRange (r : Nat × Nat) : Prop := 1 ≤ r.1 ∧ r.1 ≤ r.2 ∧ r.2 ≤ 65535

variable {U : Unicode}

/-! ## What is valid -/

lemma validatePortSpec_eq_some_iff {s v : Str} : validatePortSpec U s = some v ↔
    v = s.filter (· != ' ') ∧ ∃ rs, portRanges U v = some rs ∧ ∀ r ∈ rs, IsPortRange r := by
  cases hr : portRanges U (s.filter (· != ' ')) with
  | none =>
    simp only [validatePortSpec, hr, reduceCtorEq, false_iff]
    rintro ⟨rfl, rs, h, -⟩
    rw [hr] at h
    cases h
  | some rs =>
    simp only [validatePortSpec, hr, List.all_eq_true, decide_eq_true_eq,
      Option.ite_none_right_eq_some, Option.some.injEq]
    constructor
    · rintro ⟨h, rfl⟩
      exact ⟨rfl, rs, hr, h⟩
    rintro ⟨rfl, rs', h, hall⟩
    rw [hr, Option.some.injEq] at h
    subst h
    exact ⟨hall, rfl⟩

lemma filter_not_blank {s : Str} (h : ' ' ∉ s) : s.filter (· != ' ') = s := by
  rw [filter_eq_self]
  intro c hc
  simp only [bne_iff_ne, ne_eq]
  rintro rfl
  exact h hc

lemma validatePortSpec_again {s v : Str} (h : validatePortSpec U s = some v) :
    validatePortSpec U v = some v := by
  obtain ⟨rfl, hrs⟩ := validatePortSpec_eq_some_iff.1 h
  refine validatePortSpec_eq_some_iff.2 ⟨?_, hrs⟩
  simp

lemma writtenRanges_spec {s v : Str} (h : validatePortSpec U s = some v) :
    portRanges U v = some (writtenRanges U s) ∧ ∀ r ∈ writtenRanges U s, IsPortRange r := by
  obtain ⟨rfl, rs, hrs, hall⟩ := validatePortSpec_eq_some_iff.1 h
  have hw : writtenRanges U s = rs := by
    unfold writtenRanges
    rw [hrs]
    rfl
  rw [hw]
  exact ⟨hrs, hall⟩

variable {rs : List (Nat × Nat)} {α β : Type} {l : List α} {f : α → Option β}

lemma portRanges_ne_nil {s : Str} (h : portRanges U s = some rs) : rs ≠ [] := by
  rintro rfl
  unfold portRanges at h
  simp only [splitOn] at h
  cases hp : splitOnP (· == ',') (if s.getLast? = some '\n' then s.dropLast else s) with
  | nil => exact splitOnP_ne_nil _ _ hp
  | cons part parts =>
    rw [hp, mapM_cons] at h
    cases h1 : portRange U part with
    | none => simp [h1] at h
    | some r =>
      cases h2 : parts.mapM (portRange U) with
      | none | some rs => simp [h1, h2] at h

/-! ## ASCII specifications

The decimal digits outside ASCII are a parameter; a specification in ASCII does not depend on
them. -/

lemma mapM_congr {f g : α → Option β} (h : ∀ a ∈ l, f a = g a) : l.mapM f = l.mapM g := by
  induction l with
  | nil => rfl
  | cons a l ih => rw [mapM_cons, mapM_cons, h a (by simp), ih fun b hb => h b (by simp [hb])]

lemma mapM_cons_eq_some_iff {a : α} {r : List β} :
    (a :: l).mapM f = some r ↔ ∃ b bs, f a = some b ∧ l.mapM f = some bs ∧ r = b :: bs := by
  simp only [mapM_cons, Option.bind_eq_bind, Option.bind_eq_some_iff, Option.pure_def, Option.some_inj]
  constructor
  · rintro ⟨b, hb, bs, hbs, rfl⟩
    exact ⟨b, bs, hb, hbs, rfl⟩
  · rintro ⟨b, bs, hb, hbs, rfl⟩
    exact ⟨b, hb, bs, hbs, rfl⟩

lemma mem_of_mapM_eq_some {r : List β} (h : l.mapM f = some r) {b : β} : b ∈ r ↔ ∃ a ∈ l, f a = some b := by
  induction l generalizing r with
  | nil =>
    obtain rfl : [] = r := by simpa using h
    simp
  | cons a l ih =>
    obtain ⟨b', bs, hb', hbs, rfl⟩ := mapM_cons_eq_some_iff.1 h
    rw [mem_cons, ih hbs, exists_mem_cons_iff, hb', Option.some_inj, eq_comm]

lemma exists_mapM_eq_some_iff : (∃ r, l.mapM f = some r) ↔ ∀ a ∈ l, ∃ b, f a = some b := by
  induction l with
  | nil => simp
  | cons a l ih =>
    rw [forall_mem_cons, ← ih]
    simp only [mapM_cons_eq_some_iff]
    constructor
    · rintro ⟨_, b, bs, hb, hbs, rfl⟩
      exact ⟨⟨b, hb⟩, bs, hbs⟩
    · rintro ⟨⟨b, hb⟩, bs, hbs⟩
      exact ⟨_, b, bs, hb, hbs, rfl⟩

section Ascii

variable {s : Str} (h : ∀ c ∈ s, isAscii c = true)
include h

lemma decimal_ascii_eq {c : Char} (hc : c ∈ s) : U.decimal c = asciiUnicode.decimal c := by
  rw [U.decimal_ascii c (h c hc), asciiUnicode.decimal_ascii c (h c hc)]

lemma isPortDigits_ascii : isPortDigits U s = isPortDigits asciiUnicode s := by
  have hall : s.all (fun c => (U.decimal c).isSome) = s.all fun c => (asciiUnicode.decimal c).isSome := by
    rw [Bool.eq_iff_iff, List.all_eq_true, List.all_eq_true]
    refine forall₂_congr fun c hc => ?_
    rw [decimal_ascii_eq h hc]
  rw [isPortDigits, isPortDigits, hall]

lemma intOf_ascii : intOf U s = intOf asciiUnicode s :=
  foldl_ext _ _ _ fun n c hc => by rw [decimal_ascii_eq h hc]

lemma portRange_ascii : portRange U s = portRange asciiUnicode s := by
  unfold portRange
  cases hp : partition '-' s with
  | none => simp [isPortDigits_ascii h, intOf_ascii h]
  | some ab =>
    obtain ⟨hs, -⟩ := partition_eq_some_iff.1 hp
    have ha : ∀ c ∈ ab.1, isAscii c = true := fun c hc => h c (by rw [hs]; simp [hc])
    have hb : ∀ c ∈ ab.2, isAscii c = true := fun c hc => h c (by rw [hs]; simp [hc])
    simp [isPortDigits_ascii ha, isPortDigits_ascii hb, intOf_ascii ha, intOf_ascii hb]

lemma portRanges_ascii : portRanges U s = portRanges asciiUnicode s := by
  unfold portRanges
  simp only
  set body := if s.getLast? = some '\n' then s.dropLast else s with hbody
  have hsub : ∀ c ∈ body, c ∈ s := by
    intro c hc
    rw [hbody] at hc
    split at hc
    · exact mem_of_mem_dropLast hc
    · exact hc
  have hparts : ∀ part ∈ body.splitOn ',', ∀ c ∈ part, isAscii c = true := by
    intro part hpart c hc
    refine h c (hsub c ?_)
    have hback : [','].intercalate (body.splitOn ',') = body := intercalate_splitOn ','
    rw [← hback]
    exact mem_intercalate_of_mem hpart hc
  exact mapM_congr fun part hpart => portRange_ascii (hparts part hpart)

lemma validatePortSpec_ascii : validatePortSpec U s = validatePortSpec asciiUnicode s := by
  have hfilter : ∀ c ∈ s.filter (· != ' '), isAscii c = true := fun c hc => h c (mem_of_mem_filter hc)
  unfold validatePortSpec
  simp [portRanges_ascii hfilter]

end Ascii

lemma PortSets.valid (U : Unicode) {s : Str} (hs : s ∈ [web, common, extended, full]) :
    ∃ v, validatePortSpec U s = some v := by
  have hascii : ∀ s ∈ [web, common, extended, full], s.all isAscii = true ∧
      (validatePortSpec asciiUnicode s).isSome = true := by decide +kernel
  obtain ⟨h1, h2⟩ := hascii s hs
  rw [List.all_eq_true] at h1
  rw [validatePortSpec_ascii h1]
  exact Option.isSome_iff_exists.1 h2

/-! ## The loop of `compile_spec` -/

lemma rangeLe_iff {a b : Nat × Nat} : rangeLe a b = true ↔ a.1 < b.1 ∨ a.1 = b.1 ∧ a.2 ≤ b.2 := by
  simp [rangeLe]

variable {r : Nat × Nat}

lemma mergeRange_spec {m : List (Nat × Nat)} (h : Upto r.1 m) (hr : r.1 ≤ r.2) : Upto r.1 (mergeRange m r) ∧
      ∀ n, Covers (mergeRange m r) n ↔ Covers m n ∨ r.1 ≤ n ∧ n ≤ r.2 := by
  cases m with
  | nil => exact ⟨Upto.single hr, by simp [mergeRange]⟩
  | cons x m =>
    by_cases ht : r.1 ≤ x.2 + 1
    · have he : mergeRange (x :: m) r = (x.1, max x.2 r.2) :: m := if_pos ht
      rw [he]
      exact h.join ht
    have he : mergeRange (x :: m) r = r :: x :: m := if_neg ht
    rw [he]
    refine ⟨h.push hr (by omega), fun n => ?_⟩
    rw [covers_cons]
    exact or_comm

lemma mergeRanges_spec {m : List (Nat × Nat)} {b : Nat} (hm : Upto b m)
    (hsorted : rs.Pairwise fun a b => a.1 ≤ b.1) (hb : ∀ r ∈ rs, b ≤ r.1)
    (hne : ∀ r ∈ rs, r.1 ≤ r.2) :
    Canonical (rs.foldl mergeRange m).reverse ∧
      ∀ n, Covers (rs.foldl mergeRange m) n ↔ Covers m n ∨ Covers rs n := by
  induction rs generalizing m b with
  | nil => exact ⟨hm.canonical, by simp⟩
  | cons r rs ih =>
    obtain ⟨hr, htail⟩ := pairwise_cons.1 hsorted
    have hstep := mergeRange_spec (hm.mono (hb r (by simp))) (hne r (by simp))
    obtain ⟨hcan, hcov⟩ := ih hstep.1 htail hr fun x hx => hne x (by simp [hx])
    refine ⟨hcan, fun n => ?_⟩
    rw [foldl_cons, hcov, hstep.2, covers_cons, or_assoc]

variable {s v : Str}

/-- **`compile_spec`** gives the canonical list of the ports a valid specification names. -/
theorem compileSpec_spec (h : validatePortSpec U s = some v) :
    ∃ rs, compileSpec U s = some rs ∧ rs ≠ [] ∧ Canonical rs ∧ (∀ r ∈ rs, IsPortRange r) ∧
      ∀ n, Covers rs n ↔ Covers (writtenRanges U s) n := by
  obtain ⟨hw, hports⟩ := writtenRanges_spec h
  let sorted := (writtenRanges U s).insertionSort fun a b => rangeLe a b
  have hperm : sorted.Perm (writtenRanges U s) := perm_insertionSort _ _
  have hsorted : sorted.Pairwise fun a b => a.1 ≤ b.1 := by
    have htotal : Std.Total fun a b : Nat × Nat => rangeLe a b = true :=
      ⟨fun a b => by rw [rangeLe_iff, rangeLe_iff]; omega⟩
    have htrans : IsTrans (Nat × Nat) fun a b => rangeLe a b = true :=
      ⟨fun a b c => by rw [rangeLe_iff, rangeLe_iff, rangeLe_iff]; omega⟩
    refine (pairwise_insertionSort _ _).imp ?_
    intro a b hab
    rw [rangeLe_iff] at hab
    omega
  have hne : ∀ r ∈ sorted, r.1 ≤ r.2 := fun r hr => (hports r (hperm.mem_iff.1 hr)).2.1
  obtain ⟨hcan, hcov⟩ := mergeRanges_spec (Upto.nil 0) hsorted (by simp) hne
  have hcov' : ∀ n, Covers (sorted.foldl mergeRange []).reverse n ↔ Covers (writtenRanges U s) n := by
    intro n
    rw [covers_congr_perm (reverse_perm _), hcov, covers_congr_perm hperm]
    simp
  refine ⟨_, ?_, ?_, hcan, ?_, hcov'⟩
  · simp [compileSpec, h, hw, sorted]
  · -- the first written range is covered by something
    intro hnil
    obtain ⟨r, hr⟩ := exists_mem_of_ne_nil _ (portRanges_ne_nil hw)
    have : Covers (writtenRanges U s) r.1 := ⟨r, hr, le_rfl, (hports r hr).2.1⟩
    rw [← hcov', hnil] at this
    exact covers_nil this
  -- the ends of a merged range lie in written ranges
  intro r hr
  have hle := hcan.nonempty r hr
  obtain ⟨x, hx, hlo, -⟩ := (hcov' r.1).1 ⟨r, hr, le_rfl, hle⟩
  obtain ⟨y, hy, -, hhi⟩ := (hcov' r.2).1 ⟨r, hr, hle, le_rfl⟩
  have h1 := hports x hx
  have h2 := hports y hy
  unfold IsPortRange at h1 h2 ⊢
  omega

/-! ## The printed form -/

lemma decimal_of_isDigit {c : Char} (h : c.isDigit = true) : U.decimal c = some (c.toNat - 48) := by
  have hb := isDigit_bounds h
  have hascii : isAscii c = true := by
    simp only [isAscii, decide_eq_true_eq]
    omega
  rw [U.decimal_ascii c hascii, if_pos h]

lemma intOf_dec (n : Nat) : intOf U (dec n) = n := by
  have hdigits : ∀ (l : Str) (k : Nat), (∀ c ∈ l, c.isDigit = true) →
      l.foldl (fun n c => 10 * n + (U.decimal c).getD 0) k = Nat.ofDigitChars 10 l k := by
    intro l
    induction l with
    | nil => intro k _; rfl
    | cons c l ih =>
      intro k h
      rw [foldl_cons, ih _ fun d hd => h d (by simp [hd]), decimal_of_isDigit (h c (by simp))]
      rfl
  show (dec n).foldl _ 0 = n
  rw [hdigits _ _ fun c hc => isDigit_of_mem_dec hc]
  exact decVal_dec n

lemma isPortDigits_dec {n : Nat} (h : n ≤ 65535) : isPortDigits U (dec n) = true := by
  have hlen : (dec n).length ≤ 5 := length_dec_le (by decide) (by omega)
  have hall : ∀ c ∈ dec n, (U.decimal c).isSome = true := by
    intro c hc
    rw [decimal_of_isDigit (isDigit_of_mem_dec hc)]
    rfl
  simp only [isPortDigits, Bool.and_eq_true, decide_eq_true_eq, List.all_eq_true]
  exact ⟨⟨dec_ne_nil n, hlen⟩, hall⟩

lemma mem_printRange {c : Char} (h : c ∈ printRange r) : c.isDigit = true ∨ c = '-' := by
  unfold printRange at h
  split at h
  · exact .inl (isDigit_of_mem_dec h)
  rw [mem_append, mem_cons] at h
  rcases h with h | h | h
  · exact .inl (isDigit_of_mem_dec h)
  · exact .inr h
  · exact .inl (isDigit_of_mem_dec h)

lemma portRange_printRange (h : IsPortRange r) : portRange U (printRange r) = some r := by
  obtain ⟨h1, h2, h3⟩ := h
  unfold printRange
  split
  · next he =>
    have hp : partition '-' (dec r.1) = none := partition_eq_none_iff.2 (not_mem_dec (by decide))
    simp only [portRange, hp, isPortDigits_dec (show r.1 ≤ 65535 by omega), if_true, intOf_dec]
    exact congrArg some (Prod.ext rfl he)
  have hp : partition '-' (dec r.1 ++ '-' :: dec r.2) = some (dec r.1, dec r.2) :=
    partition_eq_some_iff.2 ⟨rfl, not_mem_dec (by decide)⟩
  simp [portRange, hp, isPortDigits_dec (show r.1 ≤ 65535 by omega), isPortDigits_dec h3, intOf_dec]

lemma mapM_map_of_left_inverse {g : β → α} {l : List β}
    (h : ∀ b ∈ l, f (g b) = some b) : (l.map g).mapM f = some l := by
  induction l with
  | nil => rfl
  | cons b l ih =>
    rw [map_cons, mapM_cons, h b (by simp), ih fun c hc => h c (by simp [hc])]
    rfl

lemma mem_printRanges {c : Char} (h : c ∈ printRanges rs) : c.isDigit = true ∨ c = '-' ∨ c = ',' := by
  rcases mem_intercalate h with rfl | ⟨part, hpart, hc⟩
  · exact .inr (.inr rfl)
  obtain ⟨r, -, rfl⟩ := List.mem_map.1 hpart
  rcases mem_printRange hc with hd | hd
  · exact .inl hd
  · exact .inr (.inl hd)

lemma splitOn_printRanges (hne : rs ≠ []) : (printRanges rs).splitOn ',' = rs.map printRange := by
  refine splitOn_intercalate ',' ?_ (by simpa using hne)
  intro part hpart hc
  obtain ⟨r, -, rfl⟩ := List.mem_map.1 hpart
  have := mem_printRange hc
  revert this
  decide

lemma mapM_printRange (h : ∀ r ∈ rs, IsPortRange r) : (rs.map printRange).mapM (portRange U) = some rs :=
  mapM_map_of_left_inverse fun r hr => portRange_printRange (h r hr)

section

variable (hne : rs ≠ [])

include hne

section

variable (h : ∀ r ∈ rs, IsPortRange r)

include h

/-- **A printed list of port ranges is read back.** -/
theorem portRanges_printRanges :
    portRanges U (printRanges rs) = some rs := by
  have hlf : (printRanges rs).getLast? ≠ some '\n' := by
    intro hl
    have := mem_printRanges (mem_of_getLast? hl)
    revert this
    decide
  simp only [portRanges, if_neg hlf, splitOn_printRanges hne]
  exact mapM_printRange h

lemma validatePortSpec_printRanges
    : validatePortSpec U (printRanges rs) = some (printRanges rs) := by
  rw [validatePortSpec_eq_some_iff, filter_not_blank]
  · exact ⟨rfl, rs, portRanges_printRanges hne h, h⟩
  intro hb
  have := mem_printRanges hb
  revert this
  decide

lemma writtenRanges_printRanges :
    writtenRanges U (printRanges rs) = rs := by
  obtain ⟨hw, -⟩ := writtenRanges_spec (validatePortSpec_printRanges (U := U) hne h)
  rw [portRanges_printRanges hne h, Option.some.injEq] at hw
  exact hw.symm

end

/-- **Compiling what was printed gives the printed list.** -/
theorem compileSpec_printed (hcan : Canonical rs)
    (h : ∀ r ∈ rs, IsPortRange r) : compileSpec U (printRanges rs) = some rs := by
  have hvalid := validatePortSpec_printRanges (U := U) hne h
  obtain ⟨rs', hc, -, hcan', -, hcov⟩ := compileSpec_spec hvalid
  rw [writtenRanges_printRanges hne h] at hcov
  rw [hc, hcan'.ext hcan hcov]

end

/-! ## Specifications as sets of ports -/

lemma mem_ports {s : Str} {p : ℤ} : p ∈ ports U s ↔ ∃ n : Nat, p = n ∧ Covers (writtenRanges U s) n := by
  constructor
  · rintro ⟨r, hr, hlo, hhi⟩
    refine ⟨p.toNat, by omega, r, hr, by omega, by omega⟩
  · rintro ⟨n, rfl, r, hr, hlo, hhi⟩
    exact ⟨r, hr, by omega, by omega⟩

lemma ports_eq_image {s : Str} : ports U s = (Nat.cast '' {n | Covers (writtenRanges U s) n} : Set ℤ) := by
  ext p
  rw [mem_ports]
  constructor
  · rintro ⟨n, rfl, hn⟩
    exact ⟨n, hn, rfl⟩
  · rintro ⟨n, hn, rfl⟩
    exact ⟨n, rfl, hn⟩

lemma ports_eq_iff {s t : Str} : ports U s = ports U t ↔
    ∀ n, Covers (writtenRanges U s) n ↔ Covers (writtenRanges U t) n := by
  rw [ports_eq_image, ports_eq_image, Set.image_eq_image Nat.cast_injective, Set.ext_iff]
  rfl

section

variable (h : validatePortSpec U s = some v)

include h

lemma portInSpec_iff (p : ℤ) :
    ∃ b, portInSpec U p s = some b ∧ (b = true ↔ p ∈ ports U s) := by
  obtain ⟨rs, hc, -, -, -, hcov⟩ := compileSpec_spec h
  refine ⟨rs.any fun r => decide ((r.1 : ℤ) ≤ p ∧ p ≤ r.2), by simp [portInSpec, hc], ?_⟩
  rw [mem_ports, List.any_eq_true]
  constructor
  · rintro ⟨r, hr, hp⟩
    rw [decide_eq_true_eq] at hp
    exact ⟨p.toNat, by omega, (hcov _).1 ⟨r, hr, by omega, by omega⟩⟩
  rintro ⟨n, rfl, hn⟩
  obtain ⟨r, hr, hlo, hhi⟩ := (hcov n).2 hn
  exact ⟨r, hr, by rw [decide_eq_true_eq]; omega⟩

lemma countPorts_eq : countPorts U s = some (ports U s).ncard := by
  obtain ⟨rs, hc, -, hcan, -, hcov⟩ := compileSpec_spec h
  have hset : {n | Covers (writtenRanges U s) n} = {n | Covers rs n} := by
    ext n
    exact (hcov n).symm
  rw [ports_eq_image, Set.ncard_image_of_injective _ Nat.cast_injective, hset, hcan.ncard]
  simp [countPorts, hc, size]

lemma normalizeSpec_printed :
    ∃ rs, normalizeSpec U s = some (printRanges rs) ∧ rs ≠ [] ∧ (∀ r ∈ rs, IsPortRange r) ∧
      ∀ n, Covers rs n ↔ Covers (writtenRanges U s) n := by
  obtain ⟨rs, hc, hne, -, hports, hcov⟩ := compileSpec_spec h
  refine ⟨rs, ?_, hne, hports, hcov⟩
  simp only [normalizeSpec, hc]
  rfl

lemma normalizeSpec_spec :
    ∃ n, normalizeSpec U s = some n ∧ validatePortSpec U n = some n ∧ compileSpec U n = compileSpec U s := by
  obtain ⟨rs, hc, hne, hcan, hports, -⟩ := compileSpec_spec h
  refine ⟨printRanges rs, ?_, validatePortSpec_printRanges hne hports, ?_⟩
  · simp only [normalizeSpec, hc]
    rfl
  · rw [compileSpec_printed hne hcan hports, hc]

end

lemma compileSpec_eq_iff {s t v w : Str} (hs : validatePortSpec U s = some v)
    (ht : validatePortSpec U t = some w) :
    compileSpec U s = compileSpec U t ↔ ports U s = ports U t := by
  obtain ⟨rs, hrs, -, hcan, -, hcov⟩ := compileSpec_spec hs
  obtain ⟨rt, hrt, -, hcan', -, hcov'⟩ := compileSpec_spec ht
  rw [hrs, hrt, Option.some.injEq, ports_eq_iff]
  constructor
  · rintro rfl n
    rw [← hcov, hcov']
  intro h
  refine hcan.ext hcan' fun n => ?_
  rw [hcov, hcov', h]

lemma normalizeSpec_eq_iff {s t v w : Str} (hs : validatePortSpec U s = some v)
    (ht : validatePortSpec U t = some w) :
    normalizeSpec U s = normalizeSpec U t ↔ ports U s = ports U t := by
  rw [← compileSpec_eq_iff hs ht]
  constructor
  · intro h
    obtain ⟨n, hn, -, hcn⟩ := normalizeSpec_spec hs
    obtain ⟨m, hm, -, hcm⟩ := normalizeSpec_spec ht
    rw [hn, hm, Option.some.injEq] at h
    rw [← hcn, ← hcm, h]
  · intro h
    simp [normalizeSpec, h]

/-- **A valid port specification**: its compiled form is ordered, disjoint, without adjacent
ranges and within the port numbers; it is probed, counted and printed as the set of the ports
written in it. -/
theorem portSpec_denotes {s v : Str} (h : validatePortSpec U s = some v) :
    (∃ rs, compileSpec U s = some rs ∧ rs.Pairwise (fun a b => a.2 + 1 < b.1) ∧
      ∀ r ∈ rs, 1 ≤ r.1 ∧ r.1 ≤ r.2 ∧ r.2 ≤ 65535) ∧
    (∀ p : ℤ, ∃ b, portInSpec U p s = some b ∧ (b = true ↔ p ∈ ports U s)) ∧
    countPorts U s = some (ports U s).ncard ∧
    (∃ n, normalizeSpec U s = some n ∧ validatePortSpec U n = some n ∧ compileSpec U n = compileSpec U s) ∧
    ∀ t w, validatePortSpec U t = some w →
      (normalizeSpec U s = normalizeSpec U t ↔ ports U s = ports U t) := by
  refine ⟨?_, portInSpec_iff h, countPorts_eq h, normalizeSpec_spec h, ?_⟩
  · obtain ⟨rs, hc, -, hcan, hports, -⟩ := compileSpec_spec h
    exact ⟨rs, hc, hcan.gaps, hports⟩
  · intro t w ht
    exact normalizeSpec_eq_iff h ht

/-- Overlapping and touching ranges out of order: `443, 80-90,85-100,101` names 23 ports. -/
theorem portSpec_denotes_overlapping :
    normalizeSpec asciiUnicode "443, 80-90,85-100,101".toList = some "80-101,443".toList ∧
      countPorts asciiUnicode "443, 80-90,85-100,101".toList =
        some (ports asciiUnicode "443, 80-90,85-100,101".toList).ncard := by
  refine ⟨by decide +kernel, ?_⟩
  have hvalid : validatePortSpec asciiUnicode "443, 80-90,85-100,101".toList =
      some "443,80-90,85-100,101".toList := by decide +kernel
  exact (portSpec_denotes hvalid).2.2.1

end AsmSensors
