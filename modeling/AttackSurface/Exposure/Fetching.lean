import AttackSurface.Exposure.Search

/-!
# How many relationships a level fetches (`_neighbours`)

The rows are numbered for each node in each of the two directions, and `per_node` of them are
taken in each.  Together they are at most `per_node` exactly for the nodes that have
relationships in one direction only, or not more than `per_node` of them (`fetched_le_iff`).
-/

namespace App.Exposure

open SqlWindow List

variable {db : Db} {planner : Planner} {p : MapParams} {org : Nat} {frontier : List Nat} {node : Nat}
  {ends : Relationship → Nat × Nat}

def degree (db : Db) (p : MapParams) (org : Nat) (ends : Relationship → Nat × Nat) (node : Nat) : Nat :=
  db.relationships.countP fun r => matching p org r && decide ((ends r).1 = node)

def fetched (db : Db) (planner : Planner) (p : MapParams) (org depth : Nat) (frontier : List Nat) (node : Nat) : Nat :=
  (neighbours db planner p org depth frontier).countP fun r => decide (r.anchor = node)

lemma countP_half : (half db p org frontier ends).countP (fun r => decide (r.anchor = node)) =
    if node ∈ frontier then degree db p org ends node else 0 := by
  rw [half, countP_map, countP_filter, degree]
  split
  · next hmem =>
    refine countP_congr fun r _ => ?_
    simp only [Function.comp_apply, Bool.and_eq_true, decide_eq_true_eq]
    constructor
    · rintro ⟨rfl, hmatch, -⟩
      exact ⟨hmatch, rfl⟩
    · rintro ⟨hmatch, rfl⟩
      exact ⟨rfl, hmatch, hmem⟩
  · next hmem =>
    rw [countP_eq_zero]
    intro r _
    simp only [Function.comp_apply, Bool.and_eq_true, decide_eq_true_eq]
    rintro ⟨rfl, -, hfrontier⟩
    exact hmem hfrontier

lemma countP_ranked (k : Nat) (rows : List Row) :
    (ranked planner p k rows).countP (fun r => decide (r.anchor = node)) =
      min p.perNode (rows.countP fun r => decide (r.anchor = node)) := by
  rw [ranked, countP_topPer, (perm_insertionSort _ _).countP_eq, (planner.rows_perm k rows).countP_eq]

lemma fetched_eq (depth : Nat) : fetched db planner p org depth frontier node = if node ∈ frontier then
      min p.perNode (degree db p org outgoing node) + min p.perNode (degree db p org incoming node)
    else 0 := by
  rw [fetched, neighbours, (planner.rows_perm _ _).countP_eq, countP_append, countP_ranked, countP_ranked,
    countP_half, countP_half]
  split
  · rfl
  · simp

/-- **Rows per node.**  A level gets at most `per_node` relationships for each node, in both directions
together, exactly if each node of the frontier has matching relationships in at most one direction, or
at most `per_node` of them. -/
theorem fetched_le_iff (db : Db) (planner : Planner) (p : MapParams) (org depth : Nat) (frontier : List Nat)
    (hp : 0 < p.perNode) :
    (∀ node, fetched db planner p org depth frontier node ≤ p.perNode) ↔
      ∀ node ∈ frontier, degree db p org outgoing node = 0 ∨ degree db p org incoming node = 0 ∨
        degree db p org outgoing node + degree db p org incoming node ≤ p.perNode := by
  refine forall_congr' fun node => ?_
  rw [fetched_eq]
  split
  · next hmem =>
    simp only [hmem, true_imp_iff]
    omega
  · next hmem => simp [hmem]

/-- A domain with five aliases to and five from other names. -/
def hub : Db where
  organizations := [7]
  assets := []
  relationships := (List.range 10).map fun i =>
    { id := i, organizationId := 7, sourceAssetId := if i < 5 then 0 else i, targetAssetId := if i < 5 then i + 1 else 0,
      relationType := .cname }
  findings := []
  relationshipIds := by decide

/-- With `per_node = 5`, ten relationships are fetched for one node. -/
theorem fetched_twice : fetched hub inOrder { perNode := 5 } 7 1 [0] 0 = 10 := by decide +kernel

theorem fetched_le_iff_hub : fetched hub inOrder { perNode := 12 } 7 1 [0] 0 ≤ 12 :=
  (fetched_le_iff hub inOrder { perNode := 12 } 7 1 [0] (by decide)).2 (by decide +kernel) 0

end App.Exposure
