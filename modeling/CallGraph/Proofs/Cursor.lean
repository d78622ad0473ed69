import CallGraph.Proofs.Memory
import CallGraph.Proofs.Positions
/-!
# Where a walk stands

A walk keeps what is left of the nodes, of the call sites and of the targets; counted from the start, that is a position.
`Stands` ties the two together, and `Stands.advance` says which position is told next: the call site is described already
if and only if it has been told of before.
-/

namespace CallGraph

namespace Position

/-- The call site at a position: the number of its node, and its own. -/
def place (p : Position) : Nat × Nat := (p.node, p.site)

/-- The positions of targets of one call site, from target number `k` on. -/
def ofTargets (i j k : Nat) (targets : List NodeId) : List Position :=
  (targets.zipIdx k).map fun x => ⟨i, j, x.2⟩

/-- The positions in call sites of node number `i`, from call site number `j` on. -/
def ofSitesFrom (i j : Nat) (sites : List CallSite) : List Position :=
  (sites.zipIdx j).flatMap fun x => ofTargets i x.2 0 x.1.targets

/-- The positions in those of `ns` that `keep` accepts, from node number `i` on. -/
def ofNodesFrom (keep : Node → Bool) (i : Nat) (ns : List Node) : List Position :=
  (ns.zipIdx i).flatMap fun x => if keep x.1 then ofSitesFrom x.2 0 x.1.sites else []

theorem ofTargets_cons (i j k : Nat) (target : NodeId) (targets : List NodeId) :
    ofTargets i j k (target :: targets) = ⟨i, j, k⟩ :: ofTargets i j (k + 1) targets := rfl

theorem ofSitesFrom_cons (i j : Nat) (c : CallSite) (sites : List CallSite) :
    ofSitesFrom i j (c :: sites) = ofTargets i j 0 c.targets ++ ofSitesFrom i (j + 1) sites := rfl

theorem ofNodesFrom_cons (keep : Node → Bool) (i : Nat) (n : Node) (ns : List Node) :
    ofNodesFrom keep i (n :: ns) = (if keep n then ofSitesFrom i 0 n.sites else []) ++ ofNodesFrom keep (i + 1) ns := rfl

/-- A call site behind that of the last position has not been told of. -/
theorem notMem_places {told : List Position} {q x : Position} (hpair : (told ++ [q]).Pairwise Before)
    (hlater : q.node < x.node ∨ q.node = x.node ∧ q.site < x.site) : x.place ∉ (told ++ [q]).map place := by
  intro hmem
  obtain ⟨e, he, hplace⟩ := List.mem_map.1 hmem
  obtain ⟨hnode, hsite⟩ : e.node = x.node ∧ e.site = x.site := Prod.mk.inj hplace
  rcases List.mem_append.1 he with he | he
  · have hbefore : Before e q := (List.pairwise_append.1 hpair).2.2 e he q List.mem_cons_self
    rcases hbefore with h | ⟨h, h' | ⟨h', -⟩⟩ <;> omega
  · obtain rfl := List.mem_singleton.1 he
    omega

end Position

open Position

/-- The positions that a walk over a graph comes to. -/
def Graph.positions (g : Graph) (options : Settings.Resolution) : List Position :=
  ofNodes (!g.leavesOut options ·) g.nodes.toList

/-- The positions left at a standpoint, where the first target is at this one. -/
def Standpoint.positions (p : Standpoint) (q : Position) : List Position :=
  ofTargets q.node q.site q.target p.targets ++ ofSitesFrom q.node (q.site + 1) p.sites

theorem Standpoint.positions_eq_cons {p : Standpoint} {q x : Position} {more left : List Position}
    (hne : p.targets ≠ []) (h : p.positions q ++ more = x :: left) :
    x = q ∧ ∃ target rest, p.targets = target :: rest ∧
      left = { p with targets := rest }.positions { q with target := q.target + 1 } ++ more := by
  cases ht : p.targets with
  | nil => exact absurd ht hne
  | cons target rest =>
    rw [positions, ht, ofTargets_cons, List.cons_append, List.cons_append, List.cons.injEq] at h
    exact ⟨h.1.symm, target, rest, rfl, h.2.symm⟩

namespace Walk

/-- The positions in the nodes ahead, the first of which is number `i`. -/
def positionsAhead (w : Walk) (i : Nat) : List Position := ofNodesFrom (!w.graph.leavesOut w.options ·) i w.ahead

/-! ## Moving on -/

theorem enterSite_positions (n : Node) (m : Method) (sites : List CallSite) (i j : Nat) :
    (enterSite n m sites = none ∧ ofSitesFrom i j sites = []) ∨
      ∃ p j', enterSite n m sites = some p ∧ j ≤ j' ∧ ofSitesFrom i j sites = p.positions ⟨i, j', 0⟩ := by
  induction sites generalizing j with
  | nil => exact .inl ⟨rfl, rfl⟩
  | cons c rest ih =>
    unfold enterSite
    rw [ofSitesFrom_cons]
    split
    · next hc =>
      rw [List.isEmpty_iff.1 hc]
      rcases ih (j + 1) with h | ⟨p, j', hp, hj, hpositions⟩
      · exact .inl h
      · exact .inr ⟨p, j', hp, by omega, hpositions⟩
    · exact .inr ⟨_, j, rfl, Nat.le_refl j, rfl⟩

/-- Nodes are passed over up to the first with a position, or to the end if there is none. -/
theorem enterNode_positions {w : Walk} {ns : List Node} (i : Nat)
    (h : ∀ n ∈ ns, ∃ m, w.graph.method? n.method = some m) :
    ((w.enterNode ns).standpoint = none ∧ ofNodesFrom (!w.graph.leavesOut w.options ·) i ns = []) ∨
      ∃ p i' j, (w.enterNode ns).standpoint = some p ∧ i ≤ i' ∧
        i' + 1 + (w.enterNode ns).ahead.length = i + ns.length ∧
        ofNodesFrom (!w.graph.leavesOut w.options ·) i ns =
          p.positions ⟨i', j, 0⟩ ++ (w.enterNode ns).positionsAhead (i' + 1) := by
  induction ns generalizing w i with
  | nil => exact .inl ⟨rfl, rfl⟩
  | cons n rest ih =>
    obtain ⟨m, hm⟩ := h n List.mem_cons_self
    have hrest := fun n' hn' => h n' (List.mem_cons_of_mem n hn')
    have hleft : w.graph.leavesOut w.options n = (w.options.excludeSynthetic && m.synthetic) := by
      rw [Graph.leavesOut, hm, Option.any_some]
    -- Behind a node without a position the walk does as it would with the other nodes.
    have hpass {u : Walk} (hgraph : u.graph = w.graph) (hoptions : u.options = w.options)
        (hnone : (if !w.graph.leavesOut w.options n then ofSitesFrom i 0 n.sites else []) = []) :
        ((u.enterNode rest).standpoint = none ∧ ofNodesFrom (!w.graph.leavesOut w.options ·) i (n :: rest) = []) ∨
          ∃ p i' j, (u.enterNode rest).standpoint = some p ∧ i ≤ i' ∧
            i' + 1 + (u.enterNode rest).ahead.length = i + (n :: rest).length ∧
            ofNodesFrom (!w.graph.leavesOut w.options ·) i (n :: rest) =
              p.positions ⟨i', j, 0⟩ ++ (u.enterNode rest).positionsAhead (i' + 1) := by
      rw [ofNodesFrom_cons, hnone, List.nil_append, ← hgraph, ← hoptions]
      rcases ih (w := u) (i + 1) (hgraph ▸ hrest) with hend | ⟨p, i', j, hp, hi, hlength, hpositions⟩
      · exact .inl hend
      · exact .inr ⟨p, i', j, hp, by omega, by rw [List.length_cons]; omega, hpositions⟩
    unfold enterNode
    simp only [hm]
    split
    · next hout => exact hpass rfl rfl (by rw [hleft, hout]; rfl)
    · next hout =>
      have hkeep : (!w.graph.leavesOut w.options n) = true := by
        rw [hleft, Bool.not_eq_true']
        exact eq_false_of_ne_true hout
      rcases enterSite_positions n m n.sites i 0 with ⟨hnone, hempty⟩ | ⟨p, j, hp, -, hpositions⟩
      · rw [hnone]
        exact hpass rfl rfl (by rw [hkeep, hempty]; rfl)
      · rw [hp]
        refine .inr ⟨p, i, j, rfl, Nat.le_refl i, by simp; omega, ?_⟩
        rw [ofNodesFrom_cons, hkeep, if_pos rfl, hpositions]
        rfl

/-! ## Standing -/

/-- A walk has told of some positions and has others left. It is at the start, or behind the position told last, whose
call site it knows how to describe; or at the end. -/
inductive Stands (w : Walk) : List Position → List Position → Prop
  | start (place : w.standpoint = none) (ahead : w.ahead = w.graph.nodes.toList) :
      Stands w [] (w.graph.positions w.options)
  | behind {p : Standpoint} {told : List Position} {q : Position} {text : String} (place : w.standpoint = some p)
      (known : p.description = some text) (ahead : q.node + 1 + w.ahead.length = w.graph.nodes.size) :
      Stands w (told ++ [q]) (p.positions { q with target := q.target + 1 } ++ w.positionsAhead (q.node + 1))
  | finish {told : List Position} (place : w.standpoint = none) (ahead : w.ahead = []) : Stands w told []

/-- A walk is about to tell of position `x`; it knows how to describe the call site if it has told of it before. -/
structure Poised (w : Walk) (told left : List Position) (x : Position) (p : Standpoint) (target : NodeId)
    (rest : List NodeId) : Prop where
  place : w.standpoint = some p
  targets : p.targets = target :: rest
  ahead : x.node + 1 + w.ahead.length = w.graph.nodes.size
  left : left = { p with targets := rest }.positions { x with target := x.target + 1 } ++ w.positionsAhead (x.node + 1)
  known : p.description.isSome = true ↔ x.place ∈ told.map Position.place

/-- A walk that goes on to later nodes comes to call sites that it has not told of. -/
theorem enterNode_poised {w : Walk} {told left : List Position} {x : Position} {i : Nat}
    (hmethods : ∀ n ∈ w.ahead, ∃ m, w.graph.method? n.method = some m) (hi : i + w.ahead.length = w.graph.nodes.size)
    (hpositions : w.positionsAhead i = x :: left)
    (hnew : ∀ y : Position, i ≤ y.node → y.place ∉ told.map Position.place) :
    ∃ p target rest, (w.enterNode w.ahead).Poised told left x p target rest := by
  have hgraph := (enterNode_lore w w.ahead).graph
  rcases enterNode_positions i hmethods with ⟨-, hempty⟩ | ⟨p, i', j, hp, hle, hlength, hsplit⟩
  · rw [positionsAhead, hempty] at hpositions
    simp at hpositions
  · rw [positionsAhead, hsplit] at hpositions
    obtain ⟨rfl, target, rest, htargets, hleft⟩ :=
      Standpoint.positions_eq_cons ((enterNode_arrived w w.ahead).targets p hp) hpositions
    have hunknown : p.description = none := enterNode_standpoint hp
    refine ⟨p, target, rest, hp, htargets, (hlength.trans hi).trans (congrArg (·.nodes.size) hgraph.symm), hleft, ?_⟩
    rw [hunknown]
    exact ⟨nofun, fun hmem => absurd hmem (hnew _ hle)⟩

/-- The next position is the first of those left, and the walk knows its call site if it has told of it. -/
theorem Stands.advance {w : Walk} {told left : List Position} {x : Position} (h : w.Stands told (x :: left))
    (hmethods : ∀ n ∈ w.ahead, ∃ m, w.graph.method? n.method = some m) (hpair : told.Pairwise Before) :
    ∃ p target rest, w.advance.Poised told left x p target rest := by
  generalize hall : x :: left = all at h
  cases h with
  | start hplace hahead =>
    have hpositions : w.positionsAhead 0 = x :: left := by rw [positionsAhead, hahead, hall]; rfl
    have hnodes : 0 + w.ahead.length = w.graph.nodes.size := by rw [hahead, Nat.zero_add, Array.length_toList]
    rw [Walk.advance, hplace]
    exact enterNode_poised hmethods hnodes hpositions fun y _ => by simp
  | @behind p told q text hplace hknown hahead =>
    unfold Walk.advance
    simp only [hplace]
    cases htargets : p.targets with
    | cons target rest =>
      obtain ⟨rfl, target', rest', htargets', hleft⟩ :=
        Standpoint.positions_eq_cons (by simp [htargets]) hall.symm
      refine ⟨p, target', rest', hplace, htargets', hahead, hleft, ?_⟩
      simp [hknown, place]
    | nil =>
      -- The targets are used up, so the positions go on at the other call sites of the caller.
      have hrest : p.positions { q with target := q.target + 1 } = ofSitesFrom q.node (q.site + 1) p.sites := by
        rw [Standpoint.positions, htargets]
        rfl
      rw [hrest] at hall
      simp only [List.isEmpty_nil, Bool.not_true, Bool.false_eq_true, if_false]
      rcases enterSite_positions p.caller p.method p.sites q.node (q.site + 1) with ⟨hnone, hempty⟩ | ⟨p', j, hp', hj, hsites⟩
      · rw [hempty, List.nil_append] at hall
        rw [hnone]
        refine enterNode_poised hmethods hahead hall.symm fun y hy => notMem_places hpair (.inl ?_)
        omega
      · rw [hsites] at hall
        obtain ⟨-, -, hne, hunknown, -⟩ := enterSite_some hp'
        obtain ⟨rfl, target, rest, htargets', hleft⟩ := Standpoint.positions_eq_cons hne hall.symm
        rw [hp']
        refine ⟨p', target, rest, rfl, htargets', hahead, hleft, ?_⟩
        rw [hunknown]
        exact ⟨nofun, fun hmem => absurd hmem (notMem_places hpair (.inr ⟨rfl, hj⟩))⟩
  | finish hplace hahead => simp at hall

/-- Having told of a position, a walk stands behind it. -/
theorem Poised.record {w : Walk} {told left : List Position} {x : Position} {p : Standpoint} {target : NodeId}
    {rest : List NodeId} (h : w.Poised told left x p target rest) (t : FileTree) :
    (w.record t { p with targets := rest } target).2.Stands (told ++ [x]) left := by
  have hplace := record_place w t { p with targets := rest } target
  have hahead := hplace.ahead
  have hgraph := hplace.graph
  have hpositions (i : Nat) : (w.record t { p with targets := rest } target).2.positionsAhead i = w.positionsAhead i := by
    rw [positionsAhead, positionsAhead, hahead, hgraph, hplace.options]
  rw [h.left, ← hpositions]
  exact .behind (p := { p with targets := rest, description := some (w.describe t { p with targets := rest }).1 })
    hplace.standpoint rfl (by rw [hahead, hgraph]; exact h.ahead)

end Walk

end CallGraph
