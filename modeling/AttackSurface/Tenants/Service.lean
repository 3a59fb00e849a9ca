import AttackSurface.Scans.Envelope

/-!
# New tenants (`create_tenant`)

With `scanner_isolation` set to `per_tenant` a new tenant gets the worker pool `t-` and its slug, cut at 64
letters.  A slug has up to 90 and a pool name up to 63, so the slug must have at most 61 (`pools_distinct`).
-/

namespace App.Tenants

open PyText App.Scans List

structure Plan where
  id : Nat
  code : Str
  isDefault : Bool := false

structure Tenant where
  name : Str
  slug : Str
  planId : Option Nat
  workerPool : Str

structure NewTenant where
  name : Str
  slug : Option Str := none
  planCode : Option Str := none

inductive Refusal
  | conflict (message : Str)
  | validationFailed (message : Str)

/-- `_SLUG_RE.sub("-", s)`: a run of other letters than `[a-z0-9]` becomes one hyphen. -/
def hyphenate (inRun : Bool) : Str → Str
  | [] => []
  | c :: s =>
    if isPoolChar c then c :: hyphenate false s
    else if inRun then hyphenate true s
    else '-' :: hyphenate true s

def slugify (U : Unicode) (name : Str) : Str :=
  let s := (stripChars ['-'] (hyphenate false (U.lower name))).take 90
  if s = [] then "tenant".toList else s

section Create

variable (U : Unicode) (perTenant : Bool) (plans : List Plan)

def NewTenant.slugged (call : NewTenant) : Str := slugify U ((call.slug.filter (· ≠ [])).getD call.name)

def createTenant (tenants : List Tenant) (call : NewTenant) : Except Refusal Tenant :=
  let slug := call.slugged U
  if tenants.any (·.slug = slug) then
    .error (.conflict ("A tenant with slug '".toList ++ slug ++ "' already exists".toList))
  else
    let code := call.planCode.filter (· ≠ [])
    let plan := plans.find? fun p => code.elim p.isDefault (p.code = ·)
    if code.isSome ∧ plan.isNone then
      .error (.validationFailed ("Unknown plan '".toList ++ code.getD [] ++ "'".toList))
    else
      let pool := if perTenant then ("t-".toList ++ slug).take 64 else "default".toList
      .ok ⟨strip call.name, slug, plan.map Plan.id, pool⟩

def create (tenants : List Tenant) (call : NewTenant) : List Tenant :=
  (createTenant U perTenant plans tenants call).toOption.elim tenants fun t => tenants ++ [t]

end Create

variable {U : Unicode} {plans : List Plan} {tenants : List Tenant} {call : NewTenant} {t : Tenant} {c : Char}

lemma mem_hyphenate {b : Bool} {s : Str} (h : c ∈ hyphenate b s) : isPoolChar c = true ∨ c = '-' := by
  induction s generalizing b with
  | nil => cases h
  | cons d s ih =>
    rw [hyphenate] at h
    split_ifs at h with hd
    · rcases mem_cons.1 h with rfl | h
      · exact .inl hd
      · exact ih h
    · exact ih h
    · rcases mem_cons.1 h with rfl | h
      · exact .inr rfl
      · exact ih h

lemma mem_slugify {name : Str} (h : c ∈ slugify U name) : isPoolChar c = true ∨ c = '-' := by
  unfold slugify at h
  dsimp only at h
  split at h
  · have hall : "tenant".toList.all isPoolChar = true := by decide +kernel
    exact .inl (all_eq_true.1 hall c h)
  · exact mem_hyphenate (mem_lstrip (mem_rstrip (mem_of_mem_take h)))

/-- The pool of a slug is a pool name exactly if the slug has at most 61 letters. -/
lemma validPool_iff {slug : Str} (hslug : ∀ c ∈ slug, isPoolChar c = true ∨ c = '-') :
    validPool (("t-".toList ++ slug).take 64) = true ↔ slug.length ≤ 61 := by
  have hpool : ("t-".toList ++ slug).take 64 = 't' :: '-' :: slug.take 62 := rfl
  have hlast : ('t' :: '-' :: slug.take 62).getLast? ≠ some '\n' := by
    intro h
    rcases mem_cons.1 (mem_of_getLast? h) with h | h
    · cases h
    · rcases mem_cons.1 h with h | h
      · cases h
      · rcases hslug _ (mem_of_mem_take h) with h | h <;> revert h <;> decide
  have hall : ('-' :: slug.take 62).all (fun d => isPoolChar d || d == '-') = true := by
    refine all_eq_true.2 fun d hd => ?_
    rcases mem_cons.1 hd with rfl | hd
    · rfl
    · simpa using hslug d (mem_of_mem_take hd)
  rw [hpool, validPool, if_neg hlast]
  dsimp only
  rw [hall]
  simp [isPoolChar]
  omega

lemma createTenant_ok {perTenant : Bool} (h : createTenant U perTenant plans tenants call = .ok t) :
    (∀ x ∈ tenants, x.slug ≠ call.slugged U) ∧ t.slug = call.slugged U ∧
      t.workerPool = if perTenant then ("t-".toList ++ call.slugged U).take 64 else "default".toList := by
  unfold createTenant at h
  dsimp only at h
  split_ifs at h with hany hplan
  all_goals
    cases h
    refine ⟨fun x hx he => hany (any_eq_true.2 ⟨x, hx, decide_eq_true he⟩), rfl, by simp_all⟩

/-- No slug was cut, and no two are alike. -/
structure Pooled (tenants : List Tenant) : Prop where
  pools : ∀ t ∈ tenants, validPool t.workerPool = true ∧ t.workerPool = "t-".toList ++ t.slug
  slugs : (tenants.map Tenant.slug).Nodup

lemma Pooled.create (hp : Pooled tenants) (hshort : (call.slugged U).length ≤ 61) :
    Pooled (create U true plans tenants call) := by
  unfold Tenants.create
  cases h : createTenant U true plans tenants call with
  | error e => exact hp
  | ok t =>
    obtain ⟨hnew, hslug, hpool⟩ := createTenant_ok h
    rw [if_pos rfl, ← hslug] at hpool
    rw [← hslug] at hshort
    have hvalid := (validPool_iff fun c hc => mem_slugify (hslug ▸ hc)).2 hshort
    show Pooled (tenants ++ [t])
    constructor
    · rw [forall_mem_append, forall_mem_singleton, hpool]
      refine ⟨hp.pools, hvalid, take_of_length_le ?_⟩
      rw [length_append, show "t-".toList.length = 2 from rfl]
      omega
    · rw [map_append, map_singleton, ← concat_eq_append, nodup_concat, hslug]
      exact ⟨by simpa [eq_comm] using hnew, hp.slugs⟩

/-- **Pools of new tenants.**  As long as no slug has more than 61 letters, every pool is a pool name and
belongs to one tenant. -/
theorem pools_distinct (U : Unicode) (plans : List Plan) (calls : List NewTenant) (tenants : List Tenant)
    (hshort : ∀ call ∈ calls, (call.slugged U).length ≤ 61)
    (hrun : tenants = calls.foldl (create U true plans) []) :
    (∀ t ∈ tenants, validPool t.workerPool = true) ∧ (tenants.map Tenant.workerPool).Nodup := by
  have hp : Pooled tenants := by
    rw [hrun]
    exact foldlRecOn calls _ ⟨by simp, nodup_nil⟩ fun _ h call hcall => h.create (hshort call hcall)
  have hpools : tenants.map Tenant.workerPool = (tenants.map Tenant.slug).map ("t-".toList ++ ·) := by
    rw [List.map_map]
    exact map_congr_left fun t ht => (hp.pools t ht).2
  rw [hpools]
  exact ⟨fun t ht => (hp.pools t ht).1, hp.slugs.map (append_right_injective _)⟩

def named (n : Nat) : NewTenant := { name := replicate n 'a' }

/-- Slugs of 62 and 63 letters: both tenants get one pool, and it is no pool name. -/
theorem pool_shared : (([named 62, named 63].foldl (create asciiUnicode true []) []).map fun t =>
        (t.workerPool.drop 2, validPool t.workerPool)) = replicate 2 (replicate 62 'a', false) := by
  decide +kernel

theorem pools_distinct_two :
    (([named 60, named 61].foldl (create asciiUnicode true []) []).map Tenant.workerPool).Nodup :=
  (pools_distinct asciiUnicode [] [named 60, named 61] _ (by decide +kernel) rfl).2

end App.Tenants
