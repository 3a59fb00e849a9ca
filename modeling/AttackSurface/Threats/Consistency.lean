import AttackSurface.Threats.Checks
import AttackSurface.Run.Steps

/-!
# Matches and check runs over every history

Five writers keep the derived column `assessment` and the promise behind a pending outcome.
`Consistent` says what they keep:

    m.assessment = assess …                       (assessed)
    m pending  →  its last run is active          (pending)
    one active run per organization and advisory  (oneActive)

The last two rest on a fact about the rows of a run: the matches that name it as their last run
are among those which the run will write when it ends (`owned`).
-/

namespace App.Threats

open PyText AsmSensors App.Scans Machines List

/-- The label is the one that `assess` gives. -/
def Match.isAssessed (m : Match) : Prop :=
  m.assessment = assess m.matchStatus m.basis m.checkOutcome (decide (m.findingIds ≠ []))

structure Consistent (db : Db) : Prop where
  assessed : ∀ m ∈ db.rows, m.isAssessed
  pending : ∀ m ∈ db.rows, m.checkOutcome = .pending →
    ∃ r ∈ db.runs, m.lastCheckRunId = some r.id ∧ r.status.active = true
  oneActive : ∀ r ∈ db.runs, ∀ r' ∈ db.runs, r.status.active = true → r'.status.active = true →
    r.organizationId = r'.organizationId → r.advisoryId = r'.advisoryId → r = r'
  owned : ∀ m ∈ db.rows, ∀ r ∈ db.runs, m.lastCheckRunId = some r.id →
    m.advisoryId = r.advisoryId ∧ m.assetId ∈ r.assetIds
  known : ∀ m ∈ db.rows, ∀ id, m.lastCheckRunId = some id → id ∈ db.runs.map CheckRun.id

def Db.empty : Db := ⟨[], [], by decide, by decide⟩

lemma consistent_empty : Consistent Db.empty := by
  refine ⟨?_, ?_, ?_, ?_, ?_⟩ <;> intro x hx <;> cases hx

/-! ## Evaluating -/

section Evaluating

variable {T : Texts} {R : Reading T}

/-- What an evaluation may do to a row: the label is set, nothing becomes pending, and the row
keeps its names and its last run. -/
structure Reassessed (m m' : Match) : Prop where
  assessed : m'.isAssessed
  pending : m'.checkOutcome = .pending → m.checkOutcome = .pending
  lastRun : m'.lastCheckRunId = m.lastCheckRunId
  key : m'.key = m.key

lemma reassessed_refresh (adv : Advisory) (content : AdvisoryContent T) (now : Int) (m : Match) :
    Reassessed m (R.refresh adv content now m) where
  assessed := rfl
  pending := by
    intro h
    replace h : (R.checkedAfter adv content m).outcome = .pending := h
    unfold Reading.checkedAfter at h
    split at h
    · cases h
    · exact h
  lastRun := rfl
  key := rfl

lemma reassessed_touch (adv : Advisory) (content : AdvisoryContent T) (now : Int) (chosen : List Nat) {m : Match}
    (h : m.isAssessed) : Reassessed m (R.touch adv content now chosen m) := by
  have hsame : Reassessed m m := ⟨h, id, rfl, rfl⟩
  unfold Reading.touch
  split
  · split
    · exact reassessed_refresh adv content now m
    split
    · exact hsame
    · exact ⟨rfl, id, rfl, rfl⟩
  · exact hsame

/-- Rows as an evaluation leaves them: earlier ones reassessed, new ones without a check. -/
def Updated (rows : List Match) (m' : Match) : Prop :=
  (∃ m ∈ rows, Reassessed m m') ∨ (m'.isAssessed ∧ m'.checkOutcome ≠ .pending ∧ m'.lastCheckRunId = none)

lemma Updated.trans {rows rows' : List Match} (h : ∀ m ∈ rows', Updated rows m) {m' : Match}
    (h' : Updated rows' m') : Updated rows m' := by
  rcases h' with ⟨m, hm, hre⟩ | hnew
  · rcases h m hm with ⟨m₀, hm₀, hre₀⟩ | ⟨-, hout, hrun⟩
    · exact .inl ⟨m₀, hm₀, hre.assessed, fun hp => hre₀.pending (hre.pending hp), hre.lastRun.trans hre₀.lastRun,
        hre.key.trans hre₀.key⟩
    · exact .inr ⟨hre.assessed, fun hp => hout (hre.pending hp), hre.lastRun.trans hrun⟩
  · exact .inr hnew

lemma Updated.isAssessed {rows : List Match} {m' : Match} (h : Updated rows m') : m'.isAssessed := by
  rcases h with ⟨m, -, hre⟩ | hnew
  · exact hre.assessed
  · exact hnew.1

lemma updated_round {now : Int} {st : Progress} (h : ∀ m ∈ st.rows, m.isAssessed)
    (entry : Advisory × AdvisoryContent T) :
    ∀ m ∈ (evaluateAdvisory R now st entry).rows, Updated st.rows m := by
  intro m' hm'
  rcases mem_append.1 hm' with hm' | hm'
  · obtain ⟨m, hm, rfl⟩ := List.mem_map.1 hm'
    exact .inl ⟨m, hm, reassessed_touch _ _ now _ (h m hm)⟩
  obtain ⟨a, -, rfl⟩ := List.mem_map.1 hm'
  have hre := reassessed_refresh (R := R) entry.1 entry.2 now (R.blank entry.1 now a)
  refine .inr ⟨hre.assessed, fun hp => ?_, rfl⟩
  cases hre.pending hp

lemma updated_fold {now : Int} (l : List (Advisory × AdvisoryContent T)) (st : Progress)
    (h : ∀ m ∈ st.rows, m.isAssessed) :
    ∀ m ∈ (l.foldl (evaluateAdvisory R now) st).rows, Updated st.rows m := by
  induction l generalizing st with
  | nil => exact fun m hm => .inl ⟨m, hm, h m hm, id, rfl, rfl⟩
  | cons e l ih =>
    have hround : ∀ m ∈ (evaluateAdvisory R now st e).rows, Updated st.rows m := updated_round h e
    intro m hm
    exact Updated.trans hround (ih (evaluateAdvisory R now st e) (fun x hx => (hround x hx).isAssessed) m hm)

lemma Consistent.evaluate {W : World T} {org : Nat} {advisories : Advisories T} {now : Int} {db : Db}
    {r : Evaluated} (h : Consistent db) (he : evaluateOrg W org advisories now db = some r) : Consistent r.db := by
  unfold evaluateOrg at he
  dsimp only at he
  split at he
  · cases he
    have hupdated : ∀ m ∈ (advisories.list.foldl (evaluateAdvisory (reading W org advisories db) now)
        { rows := db.rows }).rows, Updated db.rows m := updated_fold advisories.list _ h.assessed
    refine ⟨fun m hm => (hupdated m hm).isAssessed, fun m hm hp => ?_, h.oneActive, fun m hm run hrun hlast => ?_,
      fun m hm id hlast => ?_⟩
    · rcases hupdated m hm with ⟨m₀, hm₀, hre⟩ | ⟨-, hout, -⟩
      · obtain ⟨run, hrun, hlast, hactive⟩ := h.pending m₀ hm₀ (hre.pending hp)
        exact ⟨run, hrun, hre.lastRun.trans hlast, hactive⟩
      · exact absurd hp hout
    · rcases hupdated m hm with ⟨m₀, hm₀, hre⟩ | ⟨-, -, hnone⟩
      · have hown := h.owned m₀ hm₀ run hrun (hre.lastRun.symm.trans hlast)
        obtain ⟨hadv, hasset⟩ := Prod.mk.inj hre.key
        rw [hadv, hasset]
        exact hown
      · rw [hnone] at hlast
        cases hlast
    · rcases hupdated m hm with ⟨m₀, hm₀, hre⟩ | ⟨-, -, hnone⟩
      · exact h.known m₀ hm₀ id (hre.lastRun.symm.trans hlast)
      · rw [hnone] at hlast
        cases hlast
  · cases he

end Evaluating

/-! ## Requesting -/

section Requesting

variable {T : Texts} {V : Type}

/-- A run that starts while no other is active, for matches of its own organization and advisory. -/
lemma Consistent.start {db db' : Db} {run : CheckRun} {group : List Match} (h : Consistent db)
    (hs : db.start run group = some db')
    (hfree : ∀ r ∈ db.runs, r.status.active = true → r.organizationId = run.organizationId →
      r.advisoryId ≠ run.advisoryId)
    (hactive : run.status.active = true)
    (hgroup : ∀ m ∈ group, m.advisoryId = run.advisoryId ∧ m.assetId ∈ run.assetIds) : Consistent db' := by
  unfold Db.start at hs
  split at hs <;> cases hs
  next hnew =>
  -- the rows that wait for the run, and those that are left
  have hrows : ∀ m' ∈ db.rows.map (awaiting group run.id), (∃ m ∈ db.rows, ∃ g ∈ group,
      m.key = g.key ∧ m' = m.await run.id) ∨ m' ∈ db.rows := by
    intro m' hm'
    obtain ⟨m, hm, rfl⟩ := List.mem_map.1 hm'
    unfold awaiting
    split
    · next hmem =>
      obtain ⟨g, hg, hkey⟩ := List.mem_map.1 hmem
      exact .inl ⟨m, hm, g, hg, hkey.symm, rfl⟩
    · exact .inr hm
  refine ⟨fun m' hm' => ?_, fun m' hm' hp => ?_, fun r hr r' hr' ha ha' horg hadv => ?_,
    fun m' hm' r hr hlast => ?_, fun m' hm' id hlast => ?_⟩
  · rcases hrows m' hm' with ⟨m, -, g, -, -, rfl⟩ | hold
    · rfl
    · exact h.assessed m' hold
  · rcases hrows m' hm' with ⟨m, -, g, -, -, rfl⟩ | hold
    · exact ⟨run, by simp, rfl, hactive⟩
    · obtain ⟨r, hr, hlast, ha⟩ := h.pending m' hold hp
      exact ⟨r, mem_append_left _ hr, hlast, ha⟩
  · rcases mem_append.1 hr with hold | hlast <;> rcases mem_append.1 hr' with hold' | hlast'
    · exact h.oneActive r hold r' hold' ha ha' horg hadv
    · obtain rfl := mem_singleton.1 hlast'
      exact absurd hadv (hfree r hold ha horg)
    · obtain rfl := mem_singleton.1 hlast
      exact absurd hadv.symm (hfree r' hold' ha' horg.symm)
    · rw [mem_singleton.1 hlast, mem_singleton.1 hlast']
  · rcases hrows m' hm' with ⟨m, -, g, hg, hkey, rfl⟩ | hold
    · have hid : r.id = run.id := (Option.some.inj hlast).symm
      have hrun : r = run := by
        rcases mem_append.1 hr with hr | hr
        · exact absurd (List.mem_map.2 ⟨r, hr, hid⟩) hnew
        · exact mem_singleton.1 hr
      subst hrun
      obtain ⟨hadv, hasset⟩ := Prod.mk.inj hkey
      show m.advisoryId = r.advisoryId ∧ m.assetId ∈ r.assetIds
      rw [hadv, hasset]
      exact hgroup g hg
    · rcases mem_append.1 hr with hr | hr
      · exact h.owned m' hold r hr hlast
      -- the new run's id is named by no earlier row
      rw [mem_singleton] at hr
      subst hr
      exact absurd (h.known m' hold r.id hlast) hnew
  · rw [map_append, mem_append]
    rcases hrows m' hm' with ⟨m, -, g, -, -, rfl⟩ | hold
    · exact .inr (by simpa using (Option.some.inj hlast).symm)
    · exact .inl (h.known m' hold id hlast)

lemma activeRun_none {db : Db} {org advisoryId : Nat} (h : ¬ (db.activeRun org advisoryId).isSome = true) :
    ∀ r ∈ db.runs, r.status.active = true → r.organizationId = org → r.advisoryId ≠ advisoryId := by
  intro r hr ha horg hadv
  refine h (find?_isSome.2 ⟨r, hr, ?_⟩)
  simp [ha, horg, hadv]

variable {W : CheckWorld T V}

variable {req : Request} {content : AdvisoryContent T}

lemma Consistent.requestFor {adv : Advisory}
    {check : Check} {selected : List Match} {db db' : Db} {org : Nat} (h : Consistent db)
    (hselected : ∀ m ∈ selected, m.advisoryId = adv.id)
    (hr : requestFor W req adv content check selected db org = .ok db') : Consistent db' := by
  unfold Threats.requestFor at hr
  dsimp only at hr
  split at hr
  · cases hr
  next hfree =>
  split at hr
  · cases hr
  split at hr
  · cases hr
  split at hr <;> cases hr
  next hstart =>
  refine h.start hstart (activeRun_none hfree) rfl fun m hm => ⟨?_, ?_⟩
  · exact hselected m (mem_filter.1 hm).1
  · exact List.mem_map_of_mem hm

lemma Consistent.requestAll {adv : Advisory}
    {check : Check} {selected : List Match} (hselected : ∀ m ∈ selected, m.advisoryId = adv.id) (orgs : List Nat)
    (db db' : Db) (h : Consistent db) (hr : requestAll W req adv content check selected orgs db = .ok db') :
    Consistent db' := by
  induction orgs generalizing db with
  | nil =>
    cases hr
    exact h
  | cons org orgs ih =>
    unfold Threats.requestAll at hr
    split at hr
    · cases hr
    · next hfor => exact ih _ (h.requestFor hselected hfor) hr

lemma Consistent.requestChecks {db db' : Db} (h : Consistent db)
    (hr : requestChecks W req db = .ok db') : Consistent db' := by
  unfold Threats.requestChecks at hr
  split at hr
  · cases hr
  split at hr
  · cases hr
  split at hr
  · cases hr
  split at hr
  · cases hr
  dsimp only at hr
  split at hr
  · cases hr
  split at hr
  · cases hr
  refine Consistent.requestAll (fun m hm => ?_) _ db db' h hr
  obtain ⟨-, hcond⟩ := mem_filter.1 hm
  exact (of_decide_eq_true hcond).1

end Requesting

/-! ## Finishing -/

section Finishing

variable {T : Texts} {V : Type}

variable {db : Db}

variable {status : CheckRunStatus}

/-- A run ends when every row that waits for it is rewritten: `f` keeps names and last runs, and
leaves no row of the run pending. -/
lemma Consistent.finish (h : Consistent db) {run : CheckRun}
    (hstatus : status.active = false) (reason : Option Str) {f : Match → Match}
    (hf : ∀ m, (f m).key = m.key) (hlastRun : ∀ m, (f m).lastCheckRunId = m.lastCheckRunId)
    (hassessed : ∀ m, m.isAssessed → (f m).isAssessed)
    (hpending : ∀ m ∈ db.rows, (f m).checkOutcome = .pending →
      m.checkOutcome = .pending ∧ m.lastCheckRunId ≠ some run.id) :
    Consistent (db.finish run.id status reason f hf) := by
  have hruns : ∀ r' ∈ (db.finish run.id status reason f hf).runs, ∃ r ∈ db.runs, r'.id = r.id ∧
      r'.organizationId = r.organizationId ∧ r'.advisoryId = r.advisoryId ∧ r'.assetIds = r.assetIds ∧
      (r'.status.active = true → r' = r) := by
    intro r' hr'
    obtain ⟨r, hr, rfl⟩ := List.mem_map.1 hr'
    refine ⟨r, hr, ?_⟩
    split
    · exact ⟨rfl, rfl, rfl, rfl, fun ha => by rw [hstatus] at ha; cases ha⟩
    · exact ⟨rfl, rfl, rfl, rfl, fun _ => rfl⟩
  refine ⟨fun m' hm' => ?_, fun m' hm' hp => ?_, fun r hr r' hr' ha ha' horg hadv => ?_, fun m' hm' r hr hlast => ?_,
    fun m' hm' id hlast => ?_⟩
  · obtain ⟨m, hm, rfl⟩ := List.mem_map.1 hm'
    exact hassessed m (h.assessed m hm)
  · obtain ⟨m, hm, rfl⟩ := List.mem_map.1 hm'
    obtain ⟨hp', hother⟩ := hpending m hm hp
    obtain ⟨r, hr, hlast, ha⟩ := h.pending m hm hp'
    -- the run it waits for is another one, which has not changed
    have hne : r.id ≠ run.id := fun he => hother (he ▸ hlast)
    refine ⟨r, List.mem_map.2 ⟨r, hr, if_neg hne⟩, (hlastRun m).trans hlast, ha⟩
  · obtain ⟨r₀, hr₀, -, -, -, -, heq⟩ := hruns r hr
    obtain ⟨r₁, hr₁, -, -, -, -, heq'⟩ := hruns r' hr'
    obtain rfl := heq ha
    obtain rfl := heq' ha'
    exact h.oneActive r hr₀ r' hr₁ ha ha' horg hadv
  · obtain ⟨m, hm, rfl⟩ := List.mem_map.1 hm'
    obtain ⟨r₀, hr₀, hid, -, hadv, hassets, -⟩ := hruns r hr
    rw [hlastRun, hid] at hlast
    obtain ⟨hadv', hasset⟩ := Prod.mk.inj (hf m)
    rw [hadv', hasset, hadv, hassets]
    exact h.owned m hm r₀ hr₀ hlast
  · obtain ⟨m, hm, rfl⟩ := List.mem_map.1 hm'
    rw [hlastRun] at hlast
    obtain ⟨r, hr, hid⟩ := List.mem_map.1 (h.known m hm id hlast)
    refine List.mem_map.2 ⟨_, List.mem_map_of_mem hr, ?_⟩
    split <;> exact hid

lemma rawOutcome_ne_pending (W : CheckWorld T V) (scan : CheckScan V) (run : CheckRun) (a : Option Asset) :
    (rawOutcome W scan run a).1 ≠ .pending := by
  unfold rawOutcome
  split
  · simp
  split
  · simp
  · split <;> simp

lemma outcomeFor_ne_pending (W : CheckWorld T V) (scan : CheckScan V) (run : CheckRun) (m : Match) :
    (outcomeFor W scan run m).1 ≠ .pending := by
  unfold outcomeFor
  split
  · exact rawOutcome_ne_pending W scan run _
  · simp

lemma endStatus_active (scan : CheckScan V) : (endStatus scan).active = false := by
  unfold endStatus
  split
  · rfl
  · split <;> rfl

section

variable (h : Consistent db)

include h

lemma Consistent.sync (W : CheckWorld T V) (scan : CheckScan V) (now : Int) :
    Consistent (syncCheckRun W scan now db) := by
  unfold syncCheckRun
  split
  · exact h
  next run hfind =>
  have hrun : run ∈ db.runs := mem_of_find?_eq_some hfind
  split
  · refine h.finish (endStatus_active scan) _ (key_recordOutcome W scan run now) (fun m => ?_) (fun m ha => ?_) fun m hm hp => ?_
    · unfold recordOutcome
      split <;> rfl
    · unfold recordOutcome
      split
      · rfl
      · exact ha
    unfold recordOutcome at hp
    split at hp
    · exact absurd hp (outcomeFor_ne_pending W scan run m)
    next hown =>
    refine ⟨hp, fun hlast => hown ?_⟩
    obtain ⟨hadv, hasset⟩ := h.owned m hm run hrun hlast
    exact decide_eq_true ⟨hadv, hasset, hlast⟩
  · exact h

lemma Consistent.setStatus {run : CheckRun} (hrun : run ∈ db.runs)
    (hactive : run.status.active = true) (hstatus : status.active = true) :
    Consistent (db.setStatus run.id status) := by
  have hruns : ∀ r' ∈ (db.setStatus run.id status).runs, ∃ r ∈ db.runs, r'.id = r.id ∧
      r'.organizationId = r.organizationId ∧ r'.advisoryId = r.advisoryId ∧ r'.assetIds = r.assetIds ∧
      (r'.status.active = true → r.status.active = true) ∧ (r = run → r' = { run with status := status }) ∧
      (r ≠ run → r' = r) := by
    intro r' hr'
    obtain ⟨r, hr, rfl⟩ := List.mem_map.1 hr'
    refine ⟨r, hr, ?_⟩
    split
    · next hid =>
      obtain rfl := run_eq hr hrun hid
      exact ⟨rfl, rfl, rfl, rfl, fun _ => hactive, fun _ => rfl, fun hne => absurd rfl hne⟩
    · next hid => exact ⟨rfl, rfl, rfl, rfl, id, fun he => absurd (he ▸ rfl) hid, fun _ => rfl⟩
  refine ⟨h.assessed, fun m hm hp => ?_, fun r hr r' hr' ha ha' horg hadv => ?_, fun m hm r hr hlast => ?_,
    fun m hm id hlast => ?_⟩
  · obtain ⟨r, hr, hlast, ha⟩ := h.pending m hm hp
    refine ⟨_, List.mem_map_of_mem hr, ?_, ?_⟩
    · split <;> exact hlast
    split
    · exact hstatus
    · exact ha
  · obtain ⟨r₀, hr₀, -, horg₀, hadv₀, -, hact₀, hsame₀, hother₀⟩ := hruns r hr
    obtain ⟨r₁, hr₁, -, horg₁, hadv₁, -, hact₁, hsame₁, hother₁⟩ := hruns r' hr'
    have heq : r₀ = r₁ := h.oneActive r₀ hr₀ r₁ hr₁ (hact₀ ha) (hact₁ ha')
      (horg₀.symm.trans (horg.trans horg₁)) (hadv₀.symm.trans (hadv.trans hadv₁))
    subst heq
    by_cases hrun₀ : r₀ = run
    · rw [hsame₀ hrun₀, hsame₁ hrun₀]
    · rw [hother₀ hrun₀, hother₁ hrun₀]
  · obtain ⟨r₀, hr₀, hid, -, hadv, hassets, -⟩ := hruns r hr
    rw [hid] at hlast
    rw [hadv, hassets]
    exact h.owned m hm r₀ hr₀ hlast
  · obtain ⟨r, hr, hid⟩ := List.mem_map.1 (h.known m hm id hlast)
    refine List.mem_map.2 ⟨_, List.mem_map_of_mem hr, ?_⟩
    split <;> exact hid

lemma Consistent.reconcile (W : CheckWorld T V) (run : CheckRun)
    (scan : Option (CheckScan V)) (now : Int) : Consistent (reconcileRun W run scan now db) := by
  cases scan with
  | some scan => exact h.sync W scan now
  | none =>
    refine h.finish rfl _ (key_giveUp run.id now) (fun m => ?_) (fun m ha => ?_) fun m hm hp => ?_
    · unfold giveUp
      split <;> rfl
    · unfold giveUp
      split
      · rfl
      · exact ha
    · unfold giveUp at hp
      split at hp
      · cases hp
      · next hcond => exact ⟨hp, fun hlast => hcond ⟨hlast, hp⟩⟩

lemma Consistent.refresh (W : CheckWorld T V) (runId : Nat) (now : Int) :
    Consistent (refreshRunStatus W runId now db) := by
  unfold refreshRunStatus
  split
  · exact h
  next run hfind =>
  have hrun : run ∈ db.runs := mem_of_find?_eq_some hfind
  split
  · exact h
  next hactive =>
  split
  · split
    · exact h.setStatus hrun (by simpa using hactive) rfl
    split
    · exact h.reconcile W run _ now
    · exact h
  · exact h.reconcile W run none now

end

end Finishing

/-! ## Histories -/

/-- An operation, with the other tables as it finds them. -/
inductive Operation (T : Texts) (V : Type)
  /-- `evaluate_org` -/
  | evaluate (W : World T) (org : Nat) (advisories : Advisories T) (now : Int)
  /-- `request_checks` -/
  | request (W : CheckWorld T V) (req : Request)
  /-- a scan ends or is cancelled: `sync_check_run` -/
  | finished (W : CheckWorld T V) (scan : CheckScan V) (now : Int)
  /-- `refresh_run_status` and `reconcile_run` -/
  | reconcile (W : CheckWorld T V) (runId : Nat) (now : Int)

variable {T : Texts} {V : Type}

def apply (db : Db) : Operation T V → Db
  | .evaluate W org advisories now => ((evaluateOrg W org advisories now db).map Evaluated.db).getD db
  | .request W req =>
    match requestChecks W req db with
    | .error _ => db
    | .ok db' => db'
  | .finished W scan now => syncCheckRun W scan now db
  | .reconcile W runId now => refreshRunStatus W runId now db

lemma Consistent.apply {db : Db} (h : Consistent db) (op : Operation T V) :
    Consistent (apply db op) := by
  cases op with
  | evaluate W org advisories now =>
    rw [Threats.apply]
    cases he : evaluateOrg W org advisories now db with
    | none => exact h
    | some r => exact h.evaluate he
  | request W req =>
    rw [Threats.apply]
    split
    · exact h
    · next hr => exact h.requestChecks hr
  | finished W scan now => exact h.sync W scan now
  | reconcile W runId now => exact h.refresh W runId now

def reached (ops : List (Operation T V)) : Db := ops.foldl apply Db.empty

lemma consistent_reached (ops : List (Operation T V)) : Consistent (reached ops) := by
  refine (foldl_steps apply Db.empty ops).preserves Consistent ?_ consistent_empty
  rintro db op db' hdb ⟨-, rfl⟩
  exact hdb.apply op.2

lemma active_iff (s : CheckRunStatus) : s.active = true ↔ s = .queued ∨ s = .running := by
  cases s <;> decide

/-- After every history labels are those of `assess`, pending matches have an active run, and an
organization has at most one active run for an advisory. -/
theorem history_consistent {T : Texts} {V : Type} (ops : List (Operation T V)) : (∀ m ∈ (reached ops).rows,
      m.assessment = assess m.matchStatus m.basis m.checkOutcome (decide (m.findingIds ≠ []))) ∧
    (∀ m ∈ (reached ops).rows, m.checkOutcome = .pending →
      ∃ r ∈ (reached ops).runs, m.lastCheckRunId = some r.id ∧ (r.status = .queued ∨ r.status = .running)) ∧
    ∀ r ∈ (reached ops).runs, ∀ r' ∈ (reached ops).runs, (r.status = .queued ∨ r.status = .running) →
      (r'.status = .queued ∨ r'.status = .running) → r.organizationId = r'.organizationId →
        r.advisoryId = r'.advisoryId → r = r' := by
  have hc := consistent_reached ops
  refine ⟨hc.assessed, fun m hm hp => ?_, fun r hr r' hr' ha ha' => ?_⟩
  · obtain ⟨r, hr, hlast, ha⟩ := hc.pending m hm hp
    exact ⟨r, hr, hlast, (active_iff _).1 ha⟩
  · exact hc.oneActive r hr r' hr' ((active_iff _).2 ha) ((active_iff _).2 ha')

/-- **Check runs.**  In every reachable state the last check run of a match exists, is about its advisory and
checks its asset; so is an active run while the outcome is pending. -/
theorem lastRun_owned {T : Texts} {V : Type} (ops : List (Operation T V)) :
    (∀ m ∈ (reached ops).rows, ∀ id ∈ m.lastCheckRunId,
      ∃ r ∈ (reached ops).runs, r.id = id ∧ r.advisoryId = m.advisoryId ∧ m.assetId ∈ r.assetIds) ∧
    ∀ m ∈ (reached ops).rows, m.checkOutcome = .pending → ∃ r ∈ (reached ops).runs,
      r.status.active = true ∧ r.advisoryId = m.advisoryId ∧ m.assetId ∈ r.assetIds := by
  have hdb := consistent_reached ops
  refine ⟨fun m hm id hid => ?_, fun m hm hpending => ?_⟩
  · obtain ⟨r, hr, rfl⟩ := List.mem_map.1 (hdb.known m hm id hid)
    obtain ⟨hadvisory, hasset⟩ := hdb.owned m hm r hr hid
    exact ⟨r, hr, rfl, hadvisory.symm, hasset⟩
  · obtain ⟨r, hr, hlast, hactive⟩ := hdb.pending m hm hpending
    obtain ⟨hadvisory, hasset⟩ := hdb.owned m hm r hr hlast
    exact ⟨r, hr, hactive, hadvisory.symm, hasset⟩

end App.Threats
