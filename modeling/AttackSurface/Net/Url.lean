import AttackSurface.Net.RoundTrip
import AttackSurface.Text.Unicode

/-!
# Splitting URLs (`urllib.parse.urlsplit`)

`urlsplit` with the accessors of its result (`username`, `password`, `hostname`,
`port`).  A `ValueError` is `none`.  The two facts used later: what the parts of a
split URL look like (`urlsplit_shape`), and that a URL composed of good parts splits
into them (`urlsplit_compose`).
-/

namespace PyNet

open PyText List Option

structure SplitResult where
  scheme : Str
  netloc : Str
  path : Str
  query : Str
  fragment : Str
deriving DecidableEq

variable (c : Char)

def isC0OrSpace : Bool := c.toNat ≤ 32

def isUnsafeUrlByte : Bool := c == '\t' || c == '\r' || c == '\n'

def isSchemeChar : Bool := c.isAlphanum || c == '+' || c == '-' || c == '.'

def isNetlocDelim : Bool := c == '/' || c == '?' || c == '#'

/-- Code points whose NFKC form has one of `/?#@:`. -/
def nfkcDelims : List Nat :=
  [0x2047, 0x2048, 0x2049, 0x2100, 0x2101, 0x2105, 0x2106, 0x2A74, 0xFE13, 0xFE16, 0xFE55, 0xFE56,
    0xFE5F, 0xFE6B, 0xFF03, 0xFF0F, 0xFF1A, 0xFF1F, 0xFF20]

variable (netloc : Str)

/-- `_checknetloc`: no letter turns into a delimiter under NFKC. -/
def checkNetloc : Bool := netloc.all fun c => c.toNat ∉ nfkcDelims

/-- `_check_bracketed_host`: an IPvFuture literal or an IPv6 address. -/
def checkBracketedHost (h : Str) : Bool :=
  match h with
  | 'v' :: rest =>
    match partition '.' rest with
    | some (ver, addr) =>
      decide (ver ≠ []) && ver.all isHexDigit && decide (addr ≠ []) && decide ('\n' ∉ addr)
    | none => false
  | _ =>
    match ipAddress h with
    | some a => decide (a.version = .v6)
    | none => false

/-- The text between the first `[` and the first `]` after it. -/
def bracketedHost : Str :=
  let rest := match partition '[' netloc with
    | some (_, r) => r
    | none => []
  match partition ']' rest with
  | some (h, _) => h
  | none => rest

/-- The bracket tests of `urlsplit` on a network location. -/
def checkBrackets : Bool :=
  if '[' ∈ netloc then decide (']' ∈ netloc) && checkBracketedHost (bracketedHost netloc)
  else decide (']' ∉ netloc)

def splitScheme (url : Str) : Str × Str :=
  match partition ':' url with
  | some (pre, rest) =>
    if pre.head?.any Char.isAlpha && pre.all isSchemeChar then (pre.map Char.toLower, rest)
    else ([], url)
  | none => ([], url)

def splitNetloc : Str → Str × Str
  | '/' :: '/' :: rest => (rest.takeWhile (!isNetlocDelim ·), rest.dropWhile (!isNetlocDelim ·))
  | url => ([], url)

/-- The text before the first `c` and the text after it (empty without one). -/
def splitAt (s : Str) : Str × Str := (partition c s).getD (s, [])

/-- `urlsplit(url)`. -/
def urlsplit (url : Str) : Option SplitResult :=
  let url := (lstrip isC0OrSpace url).filter (!isUnsafeUrlByte ·)
  let (scheme, url) := splitScheme url
  let (netloc, url) := splitNetloc url
  if !checkBrackets netloc then none
  else
    let (url, fragment) := splitAt '#' url
    let (path, query) := splitAt '?' url
    if !checkNetloc netloc then none else some ⟨scheme, netloc, path, query, fragment⟩

/-! ## Accessors -/

/-- The text after the last `@`. -/
def hostinfo : Str :=
  match rpartition '@' netloc with
  | some (_, h) => h
  | none => netloc

/-- `username or password` is a non-empty text. -/
def SplitResult.hasCredentials (r : SplitResult) : Bool :=
  match rpartition '@' r.netloc with
  | none => false
  | some (userinfo, _) =>
    match partition ':' userinfo with
    | none => decide (userinfo ≠ [])
    | some (user, pass) => decide (user ≠ []) || decide (pass ≠ [])

/-- `_hostinfo`: host and port texts. -/
def hostPort : Str × Str :=
  match partition '[' (hostinfo netloc) with
  | some (_, bracketed) =>
    let (host, port) := splitAt ']' bracketed
    (host, (splitAt ':' port).2)
  | none => splitAt ':' (hostinfo netloc)

/-- `hostname` of the text in the network location: lower case, up to the zone. -/
def lowerHost (U : Unicode) (h : Str) : Str :=
  match partition '%' h with
  | some (h, zone) => U.lower h ++ '%' :: zone
  | none => U.lower h

/-- `r.hostname or ""`. -/
def SplitResult.hostname (U : Unicode) (r : SplitResult) : Str :=
  let h := (hostPort r.netloc).1
  if h = [] then [] else lowerHost U h

/-- `r.port`; the outer `none` is the `ValueError`. -/
def SplitResult.port (r : SplitResult) : Option (Option Nat) :=
  let p := (hostPort r.netloc).2
  if p = [] then some none
  else if isDecimal p && decide (decVal p ≤ 65535) then some (some (decVal p))
  else none

/-! ## What the parts look like -/

variable {c : Char}

lemma splitAt_eq {s a b : Str} (h : splitAt c s = (a, b)) : c ∉ a ∧ (s = a ∧ b = [] ∨ s = a ++ c :: b) := by
  unfold splitAt at h
  cases hp : partition c s with
  | none =>
    rw [hp] at h
    simp only [getD_none, Prod.mk.injEq] at h
    rw [← h.1, ← h.2]
    exact ⟨partition_eq_none_iff.1 hp, .inl ⟨rfl, rfl⟩⟩
  | some r =>
    obtain ⟨x, y⟩ := r
    rw [hp] at h
    simp only [getD_some, Prod.mk.injEq] at h
    obtain ⟨rfl, rfl⟩ := h
    obtain ⟨h1, h2⟩ := partition_eq_some_iff.1 hp
    exact ⟨h2, .inr h1⟩

lemma splitAt_of_not_mem {s : Str} (h : c ∉ s) : splitAt c s = (s, []) := by
  unfold splitAt
  rw [partition_eq_none_iff.2 h]
  rfl

lemma splitAt_append {a : Str} (h : c ∉ a) (b : Str) : splitAt c (a ++ c :: b) = (a, b) := by
  unfold splitAt
  rw [partition_eq_some_iff.2 ⟨rfl, h⟩]
  rfl

lemma mem_splitAt {c d : Char} {s a b : Str} (h : splitAt c s = (a, b)) (hd : d ∈ a ∨ d ∈ b) : d ∈ s := by
  obtain ⟨-, ⟨rfl, rfl⟩ | rfl⟩ := splitAt_eq h
  · simpa using hd
  · simp only [mem_append, mem_cons]
    tauto

lemma mem_splitNetloc {s n r : Str} (h : splitNetloc s = (n, r)) (hc : c ∈ n ∨ c ∈ r) : c ∈ s := by
  unfold splitNetloc at h
  split at h
  · next rest =>
    simp only [Prod.mk.injEq] at h
    obtain ⟨rfl, rfl⟩ := h
    rcases hc with hc | hc
    · simp [(List.takeWhile_prefix _).subset hc]
    · simp [(dropWhile_suffix _).subset hc]
  · simp only [Prod.mk.injEq] at h
    obtain ⟨rfl, rfl⟩ := h
    simpa using hc

lemma splitNetloc_rest {s n r : Str} (h : splitNetloc s = (n, r)) (hn : n ≠ []) :
    (∀ c ∈ n, isNetlocDelim c = false) ∧ ∀ c, r.head? = some c → isNetlocDelim c = true := by
  unfold splitNetloc at h
  split at h
  · next rest =>
    simp only [Prod.mk.injEq] at h
    obtain ⟨rfl, rfl⟩ := h
    constructor
    · intro c hc
      have := mem_takeWhile_imp hc
      simpa using this
    intro c hc
    have := lstrip_head (p := (!isNetlocDelim ·)) hc
    simpa using this
  · simp only [Prod.mk.injEq] at h
    exact absurd h.1.symm hn

lemma mem_splitScheme {s sch r : Str} (h : splitScheme s = (sch, r)) (hc : c ∈ r) : c ∈ s := by
  unfold splitScheme at h
  split at h
  · next pre rest hp =>
    split at h
    · simp only [Prod.mk.injEq] at h
      rw [(partition_eq_some_iff.1 hp).1]
      simp [h.2 ▸ hc]
    · simp only [Prod.mk.injEq] at h
      exact h.2 ▸ hc
  · simp only [Prod.mk.injEq] at h
    exact h.2 ▸ hc

/-- The parts of a URL that was split with a non-empty network location. -/
structure UrlShape (url : Str) (r : SplitResult) : Prop where
  netloc_delim : ∀ c ∈ r.netloc, isNetlocDelim c = false
  netloc_brackets : checkBrackets r.netloc = true
  netloc_nfkc : checkNetloc r.netloc = true
  path_head : ∀ c, r.path.head? = some c → c = '/'
  path_query : '?' ∉ r.path
  path_fragment : '#' ∉ r.path
  query_fragment : '#' ∉ r.query
  netloc_mem : ∀ c ∈ r.netloc, c ∈ url
  path_mem : ∀ c ∈ r.path, c ∈ url
  query_mem : ∀ c ∈ r.query, c ∈ url

lemma urlsplit_shape {url : Str} {r : SplitResult} (h : urlsplit url = some r)
    (hn : r.netloc ≠ []) : UrlShape url r := by
  unfold urlsplit at h
  simp only [] at h
  generalize hu : (lstrip isC0OrSpace url).filter (!isUnsafeUrlByte ·) = u at h
  have hmem : ∀ c ∈ u, c ∈ url := fun c hc => mem_lstrip (mem_of_mem_filter (hu ▸ hc))
  rcases hs : splitScheme u with ⟨sch, u1⟩
  rcases hnl : splitNetloc u1 with ⟨netloc, u2⟩
  rcases hf : splitAt '#' u2 with ⟨u3, frag⟩
  rcases hq : splitAt '?' u3 with ⟨path, query⟩
  simp only [hs, hnl, hf, hq] at h
  split_ifs at h with h1 h2
  simp only [some.injEq] at h
  subst h
  have hdel := splitNetloc_rest hnl hn
  have hfr := (splitAt_eq hf).1
  have hpq := splitAt_eq hq
  have m3 : ∀ c ∈ u3, c ∈ u := fun c hc =>
    mem_splitScheme hs (mem_splitNetloc hnl (.inr (mem_splitAt hf (.inl hc))))
  refine ⟨hdel.1, by simpa using h1, by simpa using h2, ?_, hpq.1, ?_, ?_, ?_, ?_, ?_⟩
  · intro c hc
    -- the path is at the front of the rest, and is neither `?…` nor `#…`
    have hc3 : u3.head? = some c := by
      rcases hpq.2 with ⟨he, -⟩ | he
      · rw [he]; exact hc
      · rw [he, head?_append, hc]; rfl
    have hc2 : u2.head? = some c := by
      rcases (splitAt_eq hf).2 with ⟨he, -⟩ | he
      · rw [he]; exact hc3
      · rw [he, head?_append, hc3]; rfl
    have hd := hdel.2 c hc2
    simp only [isNetlocDelim, Bool.or_eq_true, beq_iff_eq] at hd
    have hcm : c ∈ path := mem_of_mem_head? hc
    rcases hd with (hd | hd) | hd
    · exact hd
    · exact absurd (hd ▸ hcm) hpq.1
    · exact absurd (mem_splitAt hq (.inl (hd ▸ hcm))) hfr
  · exact fun hc => hfr (mem_splitAt hq (.inl hc))
  · exact fun hc => hfr (mem_splitAt hq (.inr hc))
  · exact fun c hc => hmem c (mem_splitScheme hs (mem_splitNetloc hnl (.inl hc)))
  · exact fun c hc => hmem c (m3 c (mem_splitAt hq (.inl hc)))
  · exact fun c hc => hmem c (m3 c (mem_splitAt hq (.inr hc)))

/-! ## Composing a URL -/

/-- `f"{scheme}://{netloc}{path}{query}"`, the query with its `?` when there is one. -/
def composeUrl (scheme netloc path query : Str) : Str :=
  scheme ++ "://".toList ++ netloc ++ path ++ (if query = [] then [] else '?' :: query)

lemma takeWhile_append_stop {p : Char → Bool} {a b : Str} (ha : ∀ c ∈ a, p c = true)
    (hb : ∀ c, b.head? = some c → p c = false) : (a ++ b).takeWhile p = a := by
  rw [takeWhile_append_of_pos ha]
  cases b with
  | nil => simp
  | cons c b => simp [hb c rfl]

lemma dropWhile_append_stop {p : Char → Bool} {a b : Str} (ha : ∀ c ∈ a, p c = true)
    (hb : ∀ c, b.head? = some c → p c = false) : (a ++ b).dropWhile p = b := by
  rw [dropWhile_append_of_pos ha]
  cases b with
  | nil => simp
  | cons c b => simp [hb c rfl]

/-- **A URL composed of good parts splits into them.** -/
theorem urlsplit_compose {scheme netloc path query : Str}
    (hs : scheme = "http".toList ∨ scheme = "https".toList)
    (hun : ∀ c ∈ composeUrl scheme netloc path query, isUnsafeUrlByte c = false)
    (hnd : ∀ c ∈ netloc, isNetlocDelim c = false) (hbr : checkBrackets netloc = true)
    (hck : checkNetloc netloc = true) (hph : ∀ c, path.head? = some c → c = '/')
    (hpq : '?' ∉ path) (hpf : '#' ∉ path) (hqf : '#' ∉ query) :
    urlsplit (composeUrl scheme netloc path query) = some ⟨scheme, netloc, path, query, []⟩ := by
  have hrest : ∀ c, (path ++ (if query = [] then [] else '?' :: query)).head? = some c →
      isNetlocDelim c = true := by
    intro c hc
    cases path with
    | nil =>
      split at hc
      · cases hc
      simp only [nil_append, head?_cons, some.injEq] at hc
      rw [← hc]
      decide
    | cons d path =>
      simp only [cons_append, head?_cons, some.injEq] at hc
      rw [← hc, hph d rfl]
      decide
  have hfrag : '#' ∉ path ++ (if query = [] then [] else '?' :: query) := by
    intro hm
    rcases mem_append.1 hm with hm | hm
    · exact hpf hm
    split at hm
    · cases hm
    rcases mem_cons.1 hm with hm | hm
    · exact absurd hm (by decide)
    · exact hqf hm
  have hsplitq : splitAt '?' (path ++ (if query = [] then [] else '?' :: query)) = (path, query) := by
    split
    · next hq => rw [append_nil, splitAt_of_not_mem hpq, hq]
    · exact splitAt_append hpq query
  have hstrip : lstrip isC0OrSpace (composeUrl scheme netloc path query) =
      composeUrl scheme netloc path query := by
    apply lstrip_eq_self
    intro c hc
    rcases hs with rfl | rfl
    all_goals
      simp only [composeUrl, append_assoc] at hc
      have : c = 'h' := by simpa using hc.symm
      rw [this]; decide
  have hfilter : (composeUrl scheme netloc path query).filter (!isUnsafeUrlByte ·) =
      composeUrl scheme netloc path query := by
    apply filter_eq_self.2
    intro c hc
    simp [hun c hc]
  have hscheme : splitScheme (composeUrl scheme netloc path query) =
      (scheme, '/' :: '/' :: (netloc ++ (path ++ (if query = [] then [] else '?' :: query)))) := by
    have hp : partition ':' (composeUrl scheme netloc path query) =
        some (scheme, '/' :: '/' :: (netloc ++ (path ++ (if query = [] then [] else '?' :: query)))) := by
      apply partition_eq_some_iff.2
      refine ⟨by simp [composeUrl], ?_⟩
      rcases hs with rfl | rfl <;> decide
    unfold splitScheme
    rw [hp]
    rcases hs with rfl | rfl <;> rfl
  have hnet : splitNetloc
      ('/' :: '/' :: (netloc ++ (path ++ (if query = [] then [] else '?' :: query)))) =
      (netloc, path ++ (if query = [] then [] else '?' :: query)) := by
    have h1 : ∀ c ∈ netloc, (!isNetlocDelim c) = true := fun c hc => by simp [hnd c hc]
    have h2 : ∀ c, (path ++ (if query = [] then [] else '?' :: query)).head? = some c →
        (!isNetlocDelim c) = false := fun c hc => by simp [hrest c hc]
    unfold splitNetloc
    simp only []
    rw [takeWhile_append_stop h1 h2, dropWhile_append_stop h1 h2]
  unfold urlsplit
  simp only [hstrip, hfilter, hscheme, hnet, splitAt_of_not_mem hfrag, hsplitq, hbr, hck]
  rfl

end PyNet
