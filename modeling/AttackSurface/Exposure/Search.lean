import AttackSurface.Exposure.Graph

/-!
# What every exposure map satisfies

`Sound` is the loop invariant of the search: keys are unique, lines end at nodes, the numbers
of nodes and lines are bounded, lines belong to the organization, and an asset at depth `d` is
`Joined` to a root by `d` matching relationships through nodes of the map.  Each write to the
map keeps it, so it holds wherever the time budget ends the search:

    build T db planner clock p findingsAllowed = .ok m  →  …            (build_sound)
-/

namespace App.Exposure

open PyText AsmSensors App.Scans App.Findings SqlWindow PyDict List

/-! ## The invariant -/

def Shown (nodes : List Node) (id : Nat) : Prop := ∃ n ∈ nodes, ∃ a, n.kind = .asset a ∧ a.id = id

/-- The asset is on the map at depth `d`. -/
def At (nodes : List Node) (d id : Nat) : Prop := ∃ n ∈ nodes, ∃ a, n.kind = .asset a ∧ a.id = id ∧ n.depth = d

/-- A path of `d` matching relationships from a root, through assets that satisfy `on`. -/
inductive Joined (db : Db) (p : MapParams) (org : Nat) (roots : List Asset) (on : Nat → Prop) : Nat → Nat → Prop
  | root {a : Asset} : a ∈ roots → on a.id → Joined db p org roots on 0 a.id
  | step {d x y : Nat} {r : Relationship} : Joined db p org roots on d x → r ∈ db.relationships →
      matching p org r = true → outgoing r = (x, y) ∨ incoming r = (x, y) → on y →
        Joined db p org roots on (d + 1) y

def NodeKind.key (T : Uuids) : NodeKind → Str
  | .asset a => T.text a.id
  | .finding f => findingKey T f

section Invariant

variable (T : Uuids) (db : Db) (p : MapParams) (org : Nat) (roots : List Asset)

structure Sound (b : Build) : Prop where
  nodeIds : (b.nodes.map Node.id).Nodup
  edgeIds : (b.edges.map Edge.id).Nodup
  nodeKey : ∀ n ∈ b.nodes, n.id = n.kind.key T
  ends : ∀ e ∈ b.edges, e.source ∈ b.nodes.map Node.id ∧ e.target ∈ b.nodes.map Node.id
  organization : ∀ e ∈ b.edges, ∀ r, e.kind = .relationship r → r.organizationId = org
  joined : ∀ n ∈ b.nodes, ∀ a, n.kind = .asset a →
    n.depth ≤ p.depthLimit ∧ Joined db p org roots (Shown b.nodes) n.depth a.id
  nodeCount : b.nodes.length ≤ p.maxNodes
  edgeCount : b.edges.length ≤ p.maxEdges

end Invariant

lemma Joined.mono {db : Db} {p : MapParams} {org : Nat} {roots : List Asset} {on on' : Nat → Prop}
    (hle : ∀ id, on id → on' id) {d id : Nat} (h : Joined db p org roots on d id) :
    Joined db p org roots on' d id := by
  induction h with
  | root ha hon => exact .root ha (hle _ hon)
  | step _ hr hm hends hon ih => exact .step ih hr hm hends (hle _ hon)

lemma At.shown {nodes : List Node} {d id : Nat} (h : At nodes d id) : Shown nodes id := by
  obtain ⟨n, hn, a, hk, hid, -⟩ := h
  exact ⟨n, hn, a, hk, hid⟩

section Writes

variable {T : Uuids} {db : Db} {p : MapParams} {org : Nat} {roots : List Asset} {b : Build}

/-! ## Writes that redraw nothing -/

/-- Marks on the nodes: their ids, rows and depths stay. -/
structure Relabel (b b' : Build) : Prop where
  nodes : ∃ f : Node → Node, (∀ n, (f n).id = n.id ∧ (f n).kind = n.kind ∧ (f n).depth = n.depth) ∧
    b'.nodes = b.nodes.map f
  edges : b'.edges = b.edges

section

variable (b : Build)

lemma Relabel.refl : Relabel b b := ⟨⟨id, fun _ => ⟨rfl, rfl, rfl⟩, by simp⟩, rfl⟩

lemma Relabel.trans {b b' b'' : Build} (h : Relabel b b') (h' : Relabel b' b'') : Relabel b b'' := by
  obtain ⟨f, hf, hn⟩ := h.nodes
  obtain ⟨g, hg, hn'⟩ := h'.nodes
  refine ⟨⟨g ∘ f, fun n => ?_, ?_⟩, h'.edges.trans h.edges⟩
  · obtain ⟨h1, h2, h3⟩ := hg (f n)
    obtain ⟨h4, h5, h6⟩ := hf n
    exact ⟨h1.trans h4, h2.trans h5, h3.trans h6⟩
  · rw [hn', hn, List.map_map]

lemma relabel_note (reason : Reason) : Relabel b (b.note reason) := by
  unfold Build.note
  split
  · exact .refl b
  · exact ⟨(Relabel.refl b).nodes, rfl⟩

lemma relabel_stop (reason : Reason) : Relabel b (b.stop reason) :=
  ⟨(relabel_note b reason).nodes, (relabel_note b reason).edges⟩

lemma relabel_hide (key : Str) (line : Line) (n : Nat) : Relabel b (b.hide key line n) := by
  refine ⟨⟨_, fun m => ?_, rfl⟩, rfl⟩
  split <;> exact ⟨rfl, rfl, rfl⟩

lemma relabel_markMore (key : Str) : Relabel b (b.markMore key) := by
  refine ⟨⟨_, fun m => ?_, rfl⟩, rfl⟩
  split <;> exact ⟨rfl, rfl, rfl⟩

end

lemma relabel_foldl {α : Type} {f : Build → α → Build} (hf : ∀ b x, Relabel b (f b x)) (l : List α)
    (b : Build) : Relabel b (l.foldl f b) := by
  induction l generalizing b with
  | nil => exact .refl b
  | cons x l ih => exact (hf b x).trans (ih (f b x))

lemma relabel_countHidden (lv : Level) (ts : List ((Nat × RelationType) × Nat)) :
    Relabel lv.build (countHidden T lv ts) := by
  refine relabel_foldl (fun b t => ?_) ts lv.build
  split
  · exact relabel_hide _ _ _ _
  · exact .refl b

variable {b' : Build}

lemma Relabel.ids (h : Relabel b b') : b'.nodes.map Node.id = b.nodes.map Node.id := by
  obtain ⟨f, hf, hn⟩ := h.nodes
  rw [hn, List.map_map]
  exact map_congr_left fun n _ => (hf n).1

lemma Relabel.at (h : Relabel b b') {d id : Nat} (hat : At b.nodes d id) : At b'.nodes d id := by
  obtain ⟨f, hf, hn⟩ := h.nodes
  obtain ⟨n, hmem, a, hk, hid, hd⟩ := hat
  obtain ⟨-, hkind, hdepth⟩ := hf n
  exact ⟨f n, hn ▸ List.mem_map_of_mem hmem, a, hkind.trans hk, hid, hdepth.trans hd⟩

lemma Relabel.shown (h : Relabel b b') {id : Nat} (hs : Shown b.nodes id) : Shown b'.nodes id := by
  obtain ⟨n, hmem, a, hk, hid⟩ := hs
  have hat : At b.nodes n.depth id := ⟨n, hmem, a, hk, hid, rfl⟩
  exact (h.at hat).shown

lemma Sound.relabel (hs : Sound T db p org roots b) (h : Relabel b b') : Sound T db p org roots b' := by
  obtain ⟨f, hf, hn⟩ := h.nodes
  refine ⟨?_, ?_, ?_, ?_, ?_, ?_, ?_, ?_⟩
  · rw [h.ids]
    exact hs.nodeIds
  · rw [h.edges]
    exact hs.edgeIds
  · intro n' hn'
    rw [hn] at hn'
    obtain ⟨n, hmem, rfl⟩ := List.mem_map.1 hn'
    rw [(hf n).1, (hf n).2.1]
    exact hs.nodeKey n hmem
  · rw [h.edges, h.ids]
    exact hs.ends
  · rw [h.edges]
    exact hs.organization
  · intro n' hn' a hk
    rw [hn] at hn'
    obtain ⟨n, hmem, rfl⟩ := List.mem_map.1 hn'
    rw [(hf n).2.1] at hk
    rw [(hf n).2.2]
    obtain ⟨hle, hj⟩ := hs.joined n hmem a hk
    exact ⟨hle, hj.mono fun _ => h.shown⟩
  · rw [hn, length_map]
    exact hs.nodeCount
  · rw [h.edges]
    exact hs.edgeCount

/-! ## Writes that draw -/

lemma mem_setNode {n m : Node} : m ∈ (b.setNode n).nodes ↔ m = n ∨ m ∈ b.nodes ∧ m.id ≠ n.id := mem_setBy

/-- Writing `n` over no asset keeps the assets where they are. -/
lemma At.setNode {n : Node} (hkeep : ∀ m ∈ b.nodes, ∀ a, m.kind = .asset a → m.id ≠ n.id) {d id : Nat}
    (h : At b.nodes d id) : At (b.setNode n).nodes d id := by
  obtain ⟨m, hm, a, hk, hid, hd⟩ := h
  exact ⟨m, mem_setNode.2 (.inr ⟨hm, hkeep m hm a hk⟩), a, hk, hid, hd⟩

lemma ids_setNode {n : Node} {key : Str} (h : key ∈ b.nodes.map Node.id) :
    key ∈ (b.setNode n).nodes.map Node.id := by
  have hkeys : (b.setNode n).nodes.map Node.id = _ := keys_setBy n b.nodes
  rw [hkeys]
  split
  · exact h
  · exact mem_append_left _ h

section

variable (hs : Sound T db p org roots b)

include hs

lemma Sound.setNode {n : Node} (hkey : n.id = n.kind.key T)
    (hroom : b.nodes.length < p.maxNodes)
    (hkeep : ∀ m ∈ b.nodes, ∀ a, m.kind = .asset a → m.id ≠ n.id)
    (hjoined : ∀ a, n.kind = .asset a →
      n.depth ≤ p.depthLimit ∧ Joined db p org roots (Shown (b.setNode n).nodes) n.depth a.id) :
    Sound T db p org roots (b.setNode n) := by
  have hshown : ∀ id, Shown b.nodes id → Shown (b.setNode n).nodes id := by
    rintro id ⟨m, hm, a, hk, hid⟩
    exact ⟨m, mem_setNode.2 (.inr ⟨hm, hkeep m hm a hk⟩), a, hk, hid⟩
  refine ⟨nodup_setBy hs.nodeIds n, hs.edgeIds, ?_, ?_, hs.organization, ?_, ?_, hs.edgeCount⟩
  · intro m hm
    rcases mem_setNode.1 hm with rfl | ⟨hold, -⟩
    · exact hkey
    · exact hs.nodeKey m hold
  · intro e he
    obtain ⟨hsource, htarget⟩ := hs.ends e he
    exact ⟨ids_setNode hsource, ids_setNode htarget⟩
  · intro m hm a hk
    rcases mem_setNode.1 hm with rfl | ⟨hold, -⟩
    · exact hjoined a hk
    · obtain ⟨hle, hj⟩ := hs.joined m hold a hk
      exact ⟨hle, hj.mono hshown⟩
  · have hlen := length_setBy_le Node.id n b.nodes
    show (setBy Node.id n b.nodes).length ≤ p.maxNodes
    omega

lemma Sound.setEdge {e : Edge} (hroom : b.edges.length < p.maxEdges)
    (hends : e.source ∈ b.nodes.map Node.id ∧ e.target ∈ b.nodes.map Node.id)
    (horg : ∀ r, e.kind = .relationship r → r.organizationId = org) :
    Sound T db p org roots (b.setEdge e) := by
  refine ⟨hs.nodeIds, nodup_setBy hs.edgeIds e, hs.nodeKey, ?_, ?_, hs.joined, hs.nodeCount, ?_⟩
  · intro e' he'
    rcases mem_setBy.1 he' with rfl | ⟨hold, -⟩
    · exact hends
    · exact hs.ends e' hold
  · intro e' he'
    rcases mem_setBy.1 he' with rfl | ⟨hold, -⟩
    · exact horg
    · exact hs.organization e' hold
  · have hlen := length_setBy_le Edge.id e b.edges
    show (setBy Edge.id e b.edges).length ≤ p.maxEdges
    omega

lemma At.id_mem {d id : Nat} (h : At b.nodes d id) :
    T.text id ∈ b.nodes.map Node.id := by
  obtain ⟨n, hn, a, hk, rfl, -⟩ := h
  refine List.mem_map.2 ⟨n, hn, ?_⟩
  rw [hs.nodeKey n hn, hk]
  rfl

end

end Writes

/-! ## A level -/

section Levels

variable {T : Uuids} {db : Db} {planner : Planner} {p : MapParams} {org : Nat} {roots : List Asset}

/-- A row that `_neighbours` may return for the frontier. -/
structure Legal (db : Db) (p : MapParams) (org : Nat) (frontier : List Nat) (row : Row) : Prop where
  stored : row.rel ∈ db.relationships
  matching : matching p org row.rel = true
  anchor : row.anchor ∈ frontier
  ends : outgoing row.rel = (row.anchor, row.other) ∨ incoming row.rel = (row.anchor, row.other)

lemma legal_half {frontier : List Nat} {ends : Relationship → Nat × Nat}
    (hends : ∀ r, outgoing r = ends r ∨ incoming r = ends r) {row : Row}
    (h : row ∈ half db p org frontier ends) : Legal db p org frontier row := by
  obtain ⟨r, hr, rfl⟩ := List.mem_map.1 h
  obtain ⟨hstored, hcond⟩ := mem_filter.1 hr
  rw [Bool.and_eq_true, decide_eq_true_eq] at hcond
  exact ⟨hstored, hcond.1, hcond.2, hends r⟩

lemma mem_of_mem_ranked {k : Nat} {rows : List Row} {row : Row} (h : row ∈ ranked planner p k rows) :
    row ∈ rows := by
  have hsorted := mem_of_mem_topPer h
  rw [mem_insertionSort] at hsorted
  exact (planner.rows_perm k rows).mem_iff.1 hsorted

lemma legal_neighbours {depth : Nat} {frontier : List Nat} {row : Row}
    (h : row ∈ neighbours db planner p org depth frontier) : Legal db p org frontier row := by
  have hmem := (planner.rows_perm _ _).mem_iff.1 h
  rcases mem_append.1 hmem with hout | hin
  · exact legal_half (fun _ => .inl rfl) (mem_of_mem_ranked hout)
  · exact legal_half (fun _ => .inr rfl) (mem_of_mem_ranked hin)

lemma relationship?_eq {r : Relationship} (hr : r ∈ db.relationships) : db.relationship? r.id = some r :=
  find?_key db.relationshipIds hr

lemma asset?_id {id : Nat} {a : Asset} (h : db.asset? id = some a) : a.id = id := by
  simpa using find?_some h

/-- While level `d + 1` is read: the frontier stands at depth `d`, the next one at `d + 1`. -/
structure LevelOk (T : Uuids) (db : Db) (p : MapParams) (org : Nat) (roots : List Asset) (d : Nat)
    (frontier : List Nat) (lv : Level) : Prop where
  sound : Sound T db p org roots lv.build
  frontier : ∀ id ∈ frontier, At lv.build.nodes d id
  next : ∀ id ∈ lv.next, At lv.build.nodes (d + 1) id

variable {d : Nat} {frontier : List Nat} {lv : Level} {row : Row}

section

variable (h : LevelOk T db p org roots d frontier lv)

include h

lemma LevelOk.note (reason : Reason) :
    LevelOk T db p org roots d frontier { lv with build := lv.build.note reason } where
  sound := h.sound.relabel (relabel_note _ _)
  frontier := fun id hid => (relabel_note _ _).at (h.frontier id hid)
  next := fun id hid => (relabel_note _ _).at (h.next id hid)

section

variable (hrow : Legal db p org frontier row)

include hrow

lemma LevelOk.draw
    (hd : d < p.depthLimit) {o : Asset} (ho : o.id = row.other)
    (hroom : ¬ (¬ lv.build.hasNode (T.text o.id) = true ∧ p.maxNodes ≤ lv.build.nodes.length)) :
    LevelOk T db p org roots d frontier (lv.draw T o (d + 1)) ∧
      T.text o.id ∈ (lv.draw T o (d + 1)).build.nodes.map Node.id := by
  unfold Level.draw
  split
  · next hold =>
    obtain ⟨n, hn, hkey⟩ := hasKey_iff.1 hold
    exact ⟨h, List.mem_map.2 ⟨n, hn, hkey⟩⟩
  · next hnew =>
    have hroom' : lv.build.nodes.length < p.maxNodes := by
      by_contra hfull
      exact hroom ⟨hnew, by omega⟩
    have hkeep : ∀ m ∈ lv.build.nodes, ∀ a, m.kind = .asset a → m.id ≠ (assetNode T o (d + 1)).id :=
      fun m hm _ _ he => hnew (hasKey_iff.2 ⟨m, hm, he⟩)
    have hself : At (lv.build.setNode (assetNode T o (d + 1))).nodes (d + 1) o.id :=
      ⟨assetNode T o (d + 1), mem_setNode.2 (.inl rfl), o, rfl, rfl, rfl⟩
    -- the anchor is joined to a root, and the row leads from it to `o`
    have hpath : Joined db p org roots (Shown (lv.build.setNode (assetNode T o (d + 1))).nodes) (d + 1) o.id := by
      have hanchor := (h.frontier row.anchor hrow.anchor).setNode hkeep
      obtain ⟨n, hn, a, hk, hid, hdepth⟩ := h.frontier row.anchor hrow.anchor
      have hj := (h.sound.joined n hn a hk).2
      rw [hdepth, hid] at hj
      refine .step (hj.mono ?_) hrow.stored hrow.matching (ho ▸ hrow.ends) hself.shown
      rintro id ⟨m, hm, a, hk, hid⟩
      exact ⟨m, mem_setNode.2 (.inr ⟨hm, hkeep m hm a hk⟩), a, hk, hid⟩
    have hsound : Sound T db p org roots (lv.build.setNode (assetNode T o (d + 1))) := by
      refine h.sound.setNode rfl hroom' hkeep fun a hk => ?_
      cases hk
      exact ⟨hd, hpath⟩
    refine ⟨⟨hsound, fun id hid => (h.frontier id hid).setNode hkeep, fun id hid => ?_⟩, hself.id_mem hsound⟩
    rcases mem_append.1 hid with hid | hid
    · exact (h.next id hid).setNode hkeep
    rw [mem_singleton] at hid
    rw [hid]
    exact hself

/-- A line that is drawn joins the anchor of its row with the node of the other end. -/
lemma LevelOk.link
    (hother : T.text row.other ∈ lv.build.nodes.map Node.id) :
    LevelOk T db p org roots d frontier (lv.link T p row.rel row.anchor) := by
  unfold Level.link
  split
  · exact ⟨h.sound, h.frontier, h.next⟩
  split
  · exact h.note _
  next hroom =>
  have hanchor : T.text row.anchor ∈ lv.build.nodes.map Node.id :=
    (h.frontier row.anchor hrow.anchor).id_mem h.sound
  have hends : (edge T row.rel).source ∈ lv.build.nodes.map Node.id ∧
      (edge T row.rel).target ∈ lv.build.nodes.map Node.id := by
    show T.text (outgoing row.rel).1 ∈ _ ∧ T.text (outgoing row.rel).2 ∈ _
    rcases hrow.ends with hends | hends
    · rw [hends]
      exact ⟨hanchor, hother⟩
    have hswap : outgoing row.rel = (row.other, row.anchor) := by
      rw [incoming, Prod.mk.injEq] at hends
      rw [outgoing, hends.1, hends.2]
    rw [hswap]
    exact ⟨hother, hanchor⟩
  have horg : row.rel.organizationId = org := by
    have hm := hrow.matching
    simp only [matching, Bool.and_eq_true, decide_eq_true_eq] at hm
    exact hm.1.1
  refine ⟨h.sound.setEdge (by omega) hends fun r hr => ?_, h.frontier, h.next⟩
  cases hr
  exact horg

lemma LevelOk.addRow (hd : d < p.depthLimit) :
    LevelOk T db p org roots d frontier (addRow T db p (d + 1) lv row) := by
  rw [Exposure.addRow, relationship?_eq hrow.stored]
  cases ho : db.asset? row.other with
  | none => exact h
  | some o =>
    dsimp only
    split
    · exact h
    split
    · exact h.note _
    next hroom =>
    obtain ⟨hdraw, hmem⟩ := h.draw hrow hd (asset?_id ho) hroom
    exact hdraw.link hrow (asset?_id ho ▸ hmem)

end

end

lemma LevelOk.foldl (hd : d < p.depthLimit) (rows : List Row) (hrows : ∀ row ∈ rows, Legal db p org frontier row)
    (lv : Level) (h : LevelOk T db p org roots d frontier lv) :
    LevelOk T db p org roots d frontier (rows.foldl (Exposure.addRow T db p (d + 1)) lv) := by
  induction rows generalizing lv with
  | nil => exact h
  | cons row rows ih =>
    rw [foldl_cons]
    exact ih (fun r hr => hrows r (mem_cons_of_mem _ hr)) _
      (h.addRow (hrows row mem_cons_self) hd)

lemma level_sound (planner : Planner) {b : Build} (hs : Sound T db p org roots b) (hfrontier : ∀ id ∈ frontier, At b.nodes d id)
    (hd : d < p.depthLimit) :
    Sound T db p org roots (level T db planner p org (d + 1) frontier b).2 ∧
      ∀ id ∈ (level T db planner p org (d + 1) frontier b).1,
        At (level T db planner p org (d + 1) frontier b).2.nodes (d + 1) id := by
  have hstart : LevelOk T db p org roots d frontier { build := b } :=
    ⟨hs, hfrontier, fun id hid => by cases hid⟩
  have hend := LevelOk.foldl hd (neighbours db planner p org (d + 1) frontier)
    (fun row hrow => legal_neighbours hrow) _ hstart
  exact ⟨hend.sound.relabel (relabel_countHidden _ _),
    fun id hid => (relabel_countHidden _ _).at (hend.next id hid)⟩

/-- By induction on the rounds left: after `d` rounds the frontier stands at depth `d`. -/
lemma levels_sound (clock : Clock) (rounds d : Nat) (frontier : List Nat) (b : Build)
    (hs : Sound T db p org roots b) (hfrontier : ∀ id ∈ frontier, At b.nodes d id)
    (hle : d + rounds ≤ p.depthLimit) :
    Sound T db p org roots (levels T db planner p org clock rounds (d + 1) frontier b).2 := by
  induction rounds generalizing d frontier b with
  | zero => exact hs
  | succ rounds ih =>
    unfold levels
    split
    · exact hs
    split
    · exact hs.relabel (relabel_stop _ _)
    · obtain ⟨hs', hfrontier'⟩ := level_sound planner hs hfrontier (by omega)
      exact ih (d + 1) _ _ hs' hfrontier' (by omega)

end Levels

/-! ## Findings -/

section FindingPass

variable {T : Uuids} {db : Db} {planner : Planner} {p : MapParams} {org : Nat} {roots : List Asset} {b : Build}

lemma findingKey_ne_asset (hs : Sound T db p org roots b) (f : Finding) :
    ∀ m ∈ b.nodes, ∀ a, m.kind = .asset a → m.id ≠ findingKey T f := by
  intro m hm a hk he
  have hkey := hs.nodeKey m hm
  rw [hk, he] at hkey
  refine T.no_colon a.id ?_
  show ':' ∈ NodeKind.key T (.asset a)
  rw [← hkey]
  simp [findingKey]

lemma shown_drawFinding (hs : Sound T db p org roots b) (f : Finding) {id : Nat} (h : Shown b.nodes id) :
    Shown (drawFinding T p b f).nodes id := by
  have hset : Shown (b.setNode (findingNode T b f)).nodes id := by
    obtain ⟨m, hm, a, hk, hid⟩ := h
    exact ⟨m, mem_setNode.2 (.inr ⟨hm, findingKey_ne_asset hs f m hm a hk⟩), a, hk, hid⟩
  unfold drawFinding
  split <;> exact hset

variable {f : Finding}

lemma Sound.drawFinding (hs : Sound T db p org roots b) (hroom : b.nodes.length < p.maxNodes)
    (hasset : Shown b.nodes f.assetId) : Sound T db p org roots (drawFinding T p b f) := by
  have hnode : Sound T db p org roots (b.setNode (findingNode T b f)) :=
    hs.setNode rfl hroom (findingKey_ne_asset hs f) fun a hk => by cases hk
  have hsource : T.text f.assetId ∈ b.nodes.map Node.id := by
    obtain ⟨n, hn, a, hk, hid⟩ := hasset
    exact At.id_mem hs ⟨n, hn, a, hk, hid, rfl⟩
  unfold Exposure.drawFinding
  split
  · next hlt =>
    have htarget : findingKey T f ∈ (b.setNode (findingNode T b f)).nodes.map Node.id :=
      List.mem_map.2 ⟨_, mem_setNode.2 (.inl rfl), rfl⟩
    exact hnode.setEdge hlt ⟨ids_setNode hsource, htarget⟩ fun r hr => by cases hr
  · exact hnode

lemma relabel_addFinding (total : Nat) (f : Finding) :
    Relabel (drawFinding T p b f) (addFinding T p total b f) := by
  unfold addFinding
  split
  · exact relabel_hide _ _ _ _
  · exact .refl _

lemma Sound.addPicked (total : Finding → Nat) (fs : List Finding) (b : Build)
    (hs : Sound T db p org roots b) (hassets : ∀ f ∈ fs, Shown b.nodes f.assetId) :
    Sound T db p org roots (addPicked T p total fs b) := by
  induction fs generalizing b with
  | nil => exact hs
  | cons f fs ih =>
    unfold Exposure.addPicked
    split
    · exact hs.relabel (relabel_note _ _)
    next hroom =>
    have hdraw := hs.drawFinding (by omega) (hassets f mem_cons_self)
    refine ih _ (hdraw.relabel (relabel_addFinding _ f)) fun g hg => ?_
    have hshown := hassets g (mem_cons_of_mem _ hg)
    exact (relabel_addFinding _ f).shown (shown_drawFinding hs f hshown)

lemma shown_of_mem_openFindings (h : f ∈ openFindings db p b) : Shown b.nodes f.assetId := by
  obtain ⟨-, hcond⟩ := mem_filter.1 h
  rw [Bool.and_eq_true, Bool.and_eq_true] at hcond
  obtain ⟨n, hn, hany⟩ := List.any_eq_true.1 hcond.1.1
  cases hk : n.kind with
  | asset a =>
    rw [hk] at hany
    exact ⟨n, hn, a, hk, of_decide_eq_true hany⟩
  | finding g =>
    rw [hk] at hany
    cases hany

lemma mem_of_mem_picked {fs : List Finding} (h : f ∈ picked planner fs) : f ∈ fs := by
  have hmem := mem_of_mem_topPer ((planner.findings_perm _ _).mem_iff.1 h)
  rw [mem_insertionSort] at hmem
  exact (planner.findings_perm _ _).mem_iff.1 hmem

lemma Sound.addFindings (hs : Sound T db p org roots b) :
    Sound T db p org roots (addFindings T db planner p b) :=
  Sound.addPicked _ _ b hs fun _ hf => shown_of_mem_openFindings (mem_of_mem_picked hf)

lemma Sound.withFindings (hs : Sound T db p org roots b) (time : FindingsTime) :
    Sound T db p org roots (withFindings T db planner p time b) := by
  cases time with
  | enough => exact hs.addFindings
  | cancelled => exact hs.relabel (relabel_stop _ _)
  | cancelledAtEnd => exact hs.addFindings.relabel (relabel_stop _ _)

end FindingPass

/-! ## The roots -/

section Roots

variable {T : Uuids} {db : Db} {planner : Planner} {p : MapParams} {org : Nat} {roots : List Asset}

/-- After the roots `done`, the map has these nodes and no others. -/
structure RootsOk (T : Uuids) (done : List Asset) (b : Build) : Prop where
  nodeIds : (b.nodes.map Node.id).Nodup
  nodes : ∀ n ∈ b.nodes, ∃ a ∈ done, n = assetNode T a 0
  shown : ∀ a ∈ done, At b.nodes 0 a.id
  count : b.nodes.length ≤ done.length
  edges : b.edges = []

lemma RootsOk.setNode {done : List Asset} {b : Build} (h : RootsOk T done b) (a : Asset) :
    RootsOk T (done ++ [a]) (b.setNode (assetNode T a 0)) where
  nodeIds := nodup_setBy h.nodeIds _
  nodes := by
    intro n hn
    rcases mem_setNode.1 hn with rfl | ⟨hold, -⟩
    · exact ⟨a, by simp, rfl⟩
    · obtain ⟨c, hc, rfl⟩ := h.nodes n hold
      exact ⟨c, mem_append_left _ hc, rfl⟩
  shown := by
    intro c hc
    have hself : At (b.setNode (assetNode T a 0)).nodes 0 a.id :=
      ⟨_, mem_setNode.2 (.inl rfl), a, rfl, rfl, rfl⟩
    rcases mem_append.1 hc with hc | hc
    · by_cases he : c.id = a.id
      · rw [he]
        exact hself
      obtain ⟨n, hn, e, hk, hid, hd⟩ := h.shown c hc
      refine ⟨n, mem_setNode.2 (.inr ⟨hn, fun hkey => he ?_⟩), e, hk, hid, hd⟩
      -- equal keys would be the keys of one asset
      obtain ⟨g, -, rfl⟩ := h.nodes n hn
      cases hk
      rw [← hid]
      exact T.injective hkey
    · rw [mem_singleton] at hc
      rw [hc]
      exact hself
  count := by
    have hlen := length_setBy_le Node.id (assetNode T a 0) b.nodes
    have hcount := h.count
    rw [length_append]
    show (setBy Node.id (assetNode T a 0) b.nodes).length ≤ done.length + 1
    omega
  edges := h.edges

lemma RootsOk.foldl (as done : List Asset) (b : Build) (h : RootsOk T done b) :
    RootsOk T (done ++ as) (drawRoots T as b) := by
  induction as generalizing done b with
  | nil =>
    rw [append_nil]
    exact h
  | cons a as ih =>
    have hnext := ih (done ++ [a]) _ (h.setNode a)
    rwa [append_assoc] at hnext

lemma RootsOk.sound {b : Build} (h : RootsOk T roots b) (hcount : roots.length ≤ p.maxNodes) :
    Sound T db p org roots b := by
  refine ⟨h.nodeIds, ?_, ?_, ?_, ?_, ?_, h.count.trans hcount, ?_⟩
  · simp [h.edges]
  · intro n hn
    obtain ⟨a, -, rfl⟩ := h.nodes n hn
    rfl
  · simp [h.edges]
  · simp [h.edges]
  · intro n hn c hk
    obtain ⟨a, ha, rfl⟩ := h.nodes n hn
    cases hk
    have hon := (h.shown c ha).shown
    exact ⟨Nat.zero_le _, .root ha hon⟩
  · simp [h.edges]

lemma relabel_markOuter (T : Uuids) (p : MapParams) (frontier : List Nat) (b : Build) :
    Relabel b (markOuter T p frontier b) := by
  unfold markOuter
  split
  · exact relabel_foldl (fun b id => relabel_markMore b _) _ _
  · exact .refl b

lemma relabel_noteHidden (b : Build) : Relabel b (noteHidden b) := by
  unfold noteHidden
  dsimp only
  split
  · exact relabel_note _ _
  · exact .refl b

lemma search_sound (clock : Clock) (findingsAllowed : Bool) {b : Build} (hb : b.nodes = [] ∧ b.edges = [])
    (hcount : roots.length ≤ p.maxNodes) :
    Sound T db p org roots (search T db planner p org clock findingsAllowed roots b) := by
  have hempty : RootsOk T [] b := by
    refine ⟨?_, ?_, ?_, ?_, hb.2⟩ <;> simp [hb.1]
  have hroots : RootsOk T roots (drawRoots T roots b) := RootsOk.foldl roots [] b hempty
  have hfrontier : ∀ id ∈ roots.map Asset.id, At (drawRoots T roots b).nodes 0 id := by
    intro id hid
    obtain ⟨a, ha, rfl⟩ := List.mem_map.1 hid
    exact hroots.shown a ha
  have hstart : Sound T db p org roots (drawRoots T roots b) := hroots.sound hcount
  have hlevels : Sound T db p org roots
      (levels T db planner p org clock p.depthLimit 1 (roots.map Asset.id) (drawRoots T roots b)).2 :=
    levels_sound clock p.depthLimit 0 (roots.map Asset.id) _ hstart hfrontier (by omega)
  refine Sound.relabel ?_ (relabel_noteHidden _)
  split
  · exact (hlevels.relabel (relabel_markOuter _ _ _ _)).withFindings _
  · exact hlevels.relabel (relabel_markOuter _ _ _ _)

end Roots

/-! ## Every map -/

section Maps

variable {T : Uuids} {db : Db} {planner : Planner} {clock : Clock} {p : MapParams} {findingsAllowed : Bool}

lemma rootsOf_spec (db : Db) (planner : Planner) (p : MapParams) (org : Nat) :
    (rootsOf db planner p org).1.length ≤ maxRoots ∧
      (rootsOf db planner p org).2.nodes = [] ∧ (rootsOf db planner p org).2.edges = [] := by
  unfold rootsOf
  split
  · exact ⟨(by decide : 1 ≤ maxRoots), rfl, rfl⟩
  dsimp only
  split
  · exact ⟨length_take_le _ _, rfl, rfl⟩
  · next hle => exact ⟨Nat.le_of_not_lt hle, rfl, rfl⟩

lemma validate_maxNodes (h : p.validate = .ok ()) : maxRoots ≤ p.maxNodes := by
  unfold MapParams.validate at h
  split at h
  · cases h
  next hnone =>
  have hwithin := find?_eq_none.1 hnone .maxNodes (by simp)
  simp only [MapParams.within, Bool.not_eq_true', Bool.and_eq_false_iff, decide_eq_false_iff_not, not_or,
    not_not] at hwithin
  exact hwithin.1

lemma buildFor_sound {org : Nat} {m : ExposureMap} (hv : p.validate = .ok ())
    (h : buildFor T db planner clock p findingsAllowed org = .ok m) :
    m.organization = org ∧ ∃ b, Sound T db p org m.roots b ∧ b.nodes = m.nodes ∧ b.edges = m.edges := by
  unfold buildFor at h
  split_ifs at h
  cases h
  obtain ⟨hlen, hempty⟩ := rootsOf_spec db planner p org
  have hroots : (rootsOf db planner p org).1.length ≤ p.maxNodes := hlen.trans (validate_maxNodes hv)
  exact ⟨rfl, _, search_sound clock findingsAllowed hempty hroots, rfl, rfl⟩

lemma build_ok {m : ExposureMap} (h : build T db planner clock p findingsAllowed = .ok m) :
    startingOrganization db p = some m.organization ∧
      ∃ b, Sound T db p m.organization m.roots b ∧ b.nodes = m.nodes ∧ b.edges = m.edges := by
  unfold build at h
  split at h
  · cases h
  next hv =>
  split at h
  · cases h
  next org horg =>
  obtain ⟨rfl, hsound⟩ := buildFor_sound hv h
  exact ⟨horg, hsound⟩

/-- Every map that is returned, wherever its search was cut off. -/
theorem build_sound (T : Uuids) (db : Db) (planner : Planner) (clock : Clock) (p : MapParams)
    (findingsAllowed : Bool) (m : ExposureMap) (h : build T db planner clock p findingsAllowed = .ok m) :
    startingOrganization db p = some m.organization ∧
    (∀ e ∈ m.edges, (∃ n ∈ m.nodes, n.id = e.source) ∧ ∃ n ∈ m.nodes, n.id = e.target) ∧
    (m.nodes.map Node.id).Nodup ∧ (m.edges.map Edge.id).Nodup ∧
    m.nodes.length ≤ p.maxNodes ∧ m.edges.length ≤ 3 * p.maxNodes ∧
    (∀ e ∈ m.edges, ∀ r, e.kind = .relationship r → r.organizationId = m.organization) ∧
    (∀ n ∈ m.nodes, ∀ a, n.kind = .asset a →
      n.depth ≤ p.depthLimit ∧ Joined db p m.organization m.roots (Shown m.nodes) n.depth a.id) := by
  obtain ⟨horg, b, hs, hnodes, hedges⟩ := build_ok h
  rw [← hnodes, ← hedges]
  refine ⟨horg, ?_, hs.nodeIds, hs.edgeIds, hs.nodeCount, ?_, hs.organization, hs.joined⟩
  · intro e he
    obtain ⟨hsource, htarget⟩ := hs.ends e he
    exact ⟨List.mem_map.1 hsource, List.mem_map.1 htarget⟩
  have hcount := hs.edgeCount
  rw [MapParams.maxEdges] at hcount
  omega

def unary : Uuids where
  text := fun id => List.replicate id 'a'
  injective := fun x y h => by simpa using congrArg List.length h
  no_colon := fun id h => by simpa using (List.mem_replicate.1 h).2

def inOrder : Planner where
  rows := fun _ l => l
  assets := fun _ l => l
  findings := fun _ l => l
  rows_perm := fun _ _ => .refl _
  assets_perm := fun _ _ => .refl _
  findings_perm := fun _ _ => .refl _

def circle : Db where
  organizations := [7]
  assets :=
    [ { id := 1, organizationId := 7, assetType := .subdomain, value := "a.example.org".toList },
      { id := 2, organizationId := 7, assetType := .ipAddress, value := "192.0.2.7".toList },
      { id := 3, organizationId := 7, assetType := .httpEndpoint, value := "https://a.example.org".toList } ]
  relationships :=
    [ { id := 1, organizationId := 7, sourceAssetId := 1, targetAssetId := 2, relationType := .resolvesTo },
      { id := 2, organizationId := 7, sourceAssetId := 3, targetAssetId := 2, relationType := .hostedOn },
      { id := 3, organizationId := 7, sourceAssetId := 1, targetAssetId := 3, relationType := .serves },
      { id := 4, organizationId := 7, sourceAssetId := 3, targetAssetId := 3, relationType := .redirectsTo } ]
  findings := [{ id := 1, assetId := 3 }]
  relationshipIds := by decide

theorem build_sound_circle : ∃ m, build unary circle inOrder {} { assetId := some 1 } true = .ok m ∧
      m.nodes.map Node.depth = [0, 1, 1, 2] ∧ m.edges.length = 5 ∧
      ∀ n ∈ m.nodes, ∀ a, n.kind = .asset a →
        Joined circle { assetId := some 1 } m.organization m.roots (Shown m.nodes) n.depth a.id := by
  have hrun : (build unary circle inOrder {} { assetId := some 1 } true).toOption.map
      (fun m => (m.nodes.map Node.depth, m.edges.length)) = some ([0, 1, 1, 2], 5) := by decide +kernel
  obtain ⟨m, hm, hshape⟩ := Option.map_eq_some_iff.1 hrun
  have hok : build unary circle inOrder {} { assetId := some 1 } true = .ok m := by
    cases hb : build unary circle inOrder {} { assetId := some 1 } true with
    | error e => rw [hb] at hm; cases hm
    | ok m' => rw [hb] at hm; cases hm; rfl
  rw [Prod.mk.injEq] at hshape
  obtain ⟨-, -, -, -, -, -, -, hjoined⟩ := build_sound unary circle inOrder {} { assetId := some 1 } true m hok
  exact ⟨m, hok, hshape.1, hshape.2, fun n hn a hk => (hjoined n hn a hk).2⟩

end Maps

end App.Exposure
