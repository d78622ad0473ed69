import CallGraph.Proofs.Graph
import Mathlib.Data.List.Forall2
import Mathlib.Data.List.Induction
/-!
# Histories of a graph

What a graph holds, told from what was done to it: which methods and nodes were added, in which order, and when targets
were pruned. `holds_history` says that nodes stand in the order in which they were added, that an id stands for what was
added with it first, and which fault is found with the graph, if any.
-/

namespace CallGraph

/-! ## First repetitions -/

/-- `x` is the first element of `xs` that stands behind an equal one. -/
def FirstRepeat {α : Type} (xs : List α) (x : α) : Prop :=
  ∃ before rest, xs = before ++ x :: rest ∧ before.Nodup ∧ x ∈ before

/-- The repetition found first is the first there is, in view of the elements seen before. -/
theorem head?_repeatsAfter {α : Type} [DecidableEq α] (xs seen : List α) (x : α) :
    (repeatsAfter seen xs).head? = some x ↔
      ∃ before rest, xs = before ++ x :: rest ∧ before.Nodup ∧ (∀ y ∈ before, y ∉ seen) ∧ (x ∈ seen ∨ x ∈ before) := by
  induction xs generalizing seen with
  | nil => simp [repeatsAfter]
  | cons y ys ih =>
    rw [repeatsAfter]
    split
    · next hy =>
      rw [List.head?_cons, Option.some.injEq]
      constructor
      · rintro rfl
        exact ⟨[], ys, rfl, .nil, by simp, .inl hy⟩
      · rintro ⟨before, rest, heq, -, hnew, -⟩
        cases before with
        | nil => exact (List.cons.inj heq).1
        | cons z before =>
          obtain ⟨rfl, -⟩ := List.cons.inj heq
          exact absurd hy (hnew y List.mem_cons_self)
    · next hy =>
      rw [ih]
      constructor
      · rintro ⟨before, rest, rfl, hnodup, hnew, hx⟩
        refine ⟨y :: before, rest, rfl, List.nodup_cons.2 ⟨fun hmem => hnew y hmem List.mem_cons_self, hnodup⟩, ?_, ?_⟩
        · intro z hz
          rcases List.mem_cons.1 hz with rfl | hz
          · exact hy
          · exact fun hseen => hnew z hz (List.mem_cons_of_mem _ hseen)
        · rcases hx with hx | hx
          · rcases List.mem_cons.1 hx with rfl | hx
            · exact .inr List.mem_cons_self
            · exact .inl hx
          · exact .inr (List.mem_cons_of_mem _ hx)
      · rintro ⟨before, rest, heq, hnodup, hnew, hx⟩
        cases before with
        | nil =>
          obtain ⟨rfl, -⟩ := List.cons.inj heq
          exact absurd (hx.resolve_right List.not_mem_nil) hy
        | cons z before =>
          obtain ⟨rfl, rfl⟩ := List.cons.inj heq
          obtain ⟨hz, hnodup⟩ := List.nodup_cons.1 hnodup
          refine ⟨before, rest, rfl, hnodup, ?_, ?_⟩
          · intro z hzmem hseen
            rcases List.mem_cons.1 hseen with rfl | hseen
            · exact hz hzmem
            · exact hnew z (List.mem_cons_of_mem _ hzmem) hseen
          · rcases hx with hx | hx
            · exact .inl (List.mem_cons_of_mem _ hx)
            · rcases List.mem_cons.1 hx with rfl | hx
              · exact .inl List.mem_cons_self
              · exact .inr hx

theorem head?_repeatsAfter_nil {α : Type} [DecidableEq α] (xs : List α) (x : α) :
    (repeatsAfter [] xs).head? = some x ↔ FirstRepeat xs x := by
  simp [head?_repeatsAfter, FirstRepeat]

namespace Graph

/-! ## What a history says -/

/-- What can be done with a graph under construction. -/
inductive Act
  | addMethod (m : Method)
  | addNode (n : Node)
  | prune
  deriving DecidableEq, Repr

def perform (g : Graph) : Act → Graph
  | .addMethod m => g.addMethod m
  | .addNode n => g.addNode n
  | .prune => g.prune

/-- The graph after a history. -/
def after (history : List Act) : Graph := history.foldl perform empty

def Act.method? : Act → Option Method
  | addMethod m => some m
  | _ => none

def Act.node? : Act → Option Node
  | addNode n => some n
  | _ => none

def methodsIn (history : List Act) : List Method := history.filterMap Act.method?

def nodesIn (history : List Act) : List Node := history.filterMap Act.node?

/-- Whether a target that a node has goes through a history; pruning takes it while no node with its id is `known`. -/
def spares (target : NodeId) : List NodeId → List Act → Bool
  | _, [] => true
  | known, .addMethod _ :: rest => spares target known rest
  | known, .addNode n :: rest => spares target (known ++ [n.id]) rest
  | known, .prune :: rest => decide (target ∈ known) && spares target known rest

/-- The nodes that are added in a history, each with the targets that the rest of the history leaves it. -/
def nodesLeft : List NodeId → List Act → List Node
  | _, [] => []
  | known, .addMethod _ :: rest => nodesLeft known rest
  | known, .addNode n :: rest =>
    n.retarget (fun target => spares target (known ++ [n.id]) rest) :: nodesLeft (known ++ [n.id]) rest
  | known, .prune :: rest => nodesLeft known rest

theorem after_concat (history : List Act) (a : Act) : after (history ++ [a]) = (after history).perform a := by
  simp [after]

theorem methodsIn_concat (history : List Act) (a : Act) :
    methodsIn (history ++ [a]) = methodsIn history ++ a.method?.toList := by
  cases h : a.method? <;> simp [methodsIn, h]

theorem nodesIn_concat (history : List Act) (a : Act) :
    nodesIn (history ++ [a]) = nodesIn history ++ a.node?.toList := by
  cases h : a.node? <;> simp [nodesIn, h]

theorem retarget_all (n : Node) : n.retarget (fun _ => true) = n := by
  simp [Node.retarget]

/-- The ids known behind a history. -/
def knownAfter (known : List NodeId) (history : List Act) : List NodeId := known ++ (nodesIn history).map (·.id)

theorem knownAfter_addNode (known : List NodeId) (n : Node) (history : List Act) :
    knownAfter known (.addNode n :: history) = knownAfter (known ++ [n.id]) history := by
  simp [knownAfter, nodesIn, Act.node?]

/-- What an act leaves of the targets, behind a history. -/
def leaves (known : List NodeId) (history : List Act) : Act → NodeId → Bool
  | .prune, target => decide (target ∈ knownAfter known history)
  | _, _ => true

theorem leaves_addNode (known : List NodeId) (n : Node) (history : List Act) :
    leaves known (.addNode n :: history) = leaves (known ++ [n.id]) history := by
  funext a target
  cases a <;> simp only [leaves, knownAfter_addNode]

theorem spares_concat (target : NodeId) (known : List NodeId) (history : List Act) (a : Act) :
    spares target known (history ++ [a]) = (leaves known history a target && spares target known history) := by
  induction history generalizing known with
  | nil => cases a <;> simp [spares, leaves, knownAfter, nodesIn]
  | cons b history ih =>
    cases b with
    | addMethod m => exact ih known
    | addNode n =>
      rw [leaves_addNode]
      exact ih (known ++ [n.id])
    | prune =>
      rw [List.cons_append, spares, spares, ih, Bool.and_left_comm]
      rfl

theorem nodesLeft_addNode (known : List NodeId) (n : Node) (history : List Act) :
    nodesLeft known (.addNode n :: history) =
      n.retarget (fun target => spares target (known ++ [n.id]) history) :: nodesLeft (known ++ [n.id]) history := rfl

/-- What has nothing to do with targets is not changed. -/
theorem map_nodesLeft {β : Type} {f : Node → β} (hf : ∀ n keep, f (n.retarget keep) = f n) (known : List NodeId)
    (history : List Act) : (nodesLeft known history).map f = (nodesIn history).map f := by
  induction history generalizing known with
  | nil => rfl
  | cons a history ih =>
    cases a with
    | addMethod m => exact ih known
    | addNode n => simpa [nodesLeft_addNode, nodesIn, Act.node?, hf] using ih (known ++ [n.id])
    | prune => exact ih known

theorem ids_nodesLeft (history : List Act) : (nodesLeft [] history).map (·.id) = (nodesIn history).map (·.id) :=
  map_nodesLeft (fun _ _ => rfl) [] history

/-- An act does to all nodes what it leaves of their targets, and adds a node as it is. -/
theorem nodesLeft_concat (known : List NodeId) (history : List Act) (a : Act) :
    nodesLeft known (history ++ [a]) =
      (nodesLeft known history).map (Node.retarget (leaves known history a)) ++ a.node?.toList := by
  induction history generalizing known with
  | nil => cases a <;> simp [nodesLeft, spares, Act.node?, retarget_all]
  | cons b history ih =>
    cases b with
    | addMethod m => exact ih known
    | addNode n =>
      have hspares : (fun target => spares target (known ++ [n.id]) (history ++ [a])) =
          fun target => leaves (known ++ [n.id]) history a target && spares target (known ++ [n.id]) history :=
        funext fun target => spares_concat target (known ++ [n.id]) history a
      rw [List.cons_append, nodesLeft_addNode, nodesLeft_addNode, ih, leaves_addNode, List.map_cons,
        Node.retarget_retarget, hspares, List.cons_append]
    | prune => exact ih known

/-- Only pruning does something to nodes that are there. -/
theorem nodesLeft_concat_of_ne (known : List NodeId) (history : List Act) {a : Act} (ha : a ≠ .prune) :
    nodesLeft known (history ++ [a]) = nodesLeft known history ++ a.node?.toList := by
  have hleaves : leaves known history a = fun _ => true := by
    funext target
    cases a with
    | prune => exact absurd rfl ha
    | _ => rfl
  have hretarget : Node.retarget (leaves known history a) = id := by
    rw [hleaves]
    exact funext retarget_all
  rw [nodesLeft_concat, hretarget, List.map_id]

theorem nodesLeft_of_notMem {history : List Act} (h : .prune ∉ history) : nodesLeft [] history = nodesIn history := by
  induction history using List.reverseRecOn with
  | nil => rfl
  | append_singleton history a ih =>
    rw [List.mem_append, List.mem_singleton, not_or] at h
    rw [nodesLeft_concat_of_ne [] history (Ne.symm h.2), ih h.1, nodesIn_concat]

/-! ## What the graph holds -/

/-- A graph holds what a history says. -/
structure Holds (g : Graph) (history : List Act) : Prop where
  method? : ∀ id, g.method? id = (methodsIn history).find? (·.id = id)
  repeated : g.repeatedMethods = repeatsAfter [] ((methodsIn history).map (·.id))
  nodes : g.nodes.toList = nodesLeft [] history

theorem method?_isSome_iff {g : Graph} {ms : List Method} (h : ∀ id, g.method? id = ms.find? (·.id = id))
    (id : MethodId) : g.methods.contains id = true ↔ id ∈ ms.map (·.id) := by
  have hfind : (g.method? id).isSome = true ↔ id ∈ ms.map (·.id) := by
    rw [h, List.find?_isSome]
    simp
  rw [← hfind, Std.HashMap.contains_eq_isSome_getElem?]
  rfl

/-- To add a method tells of it alone, and not even of that if its id is used. -/
theorem Holds.addMethod {g : Graph} {history : List Act} (h : g.Holds history) (m : Method) :
    (g.addMethod m).Holds (history ++ [.addMethod m]) := by
  have hmethods : methodsIn (history ++ [.addMethod m]) = methodsIn history ++ [m] := methodsIn_concat history _
  have hleft : nodesLeft [] (history ++ [.addMethod m]) = nodesLeft [] history := by
    rw [nodesLeft_concat_of_ne [] history (a := .addMethod m) nofun]
    exact List.append_nil _
  refine ⟨fun id => ?_, ?_, ?_⟩
  · rw [method?_addMethod, h.method?, hmethods, List.find?_append, List.find?_singleton]
    simp only [decide_eq_true_eq]
  · rw [hmethods, List.map_append, List.map_singleton, repeatsAfter_concat, ← h.repeated, Graph.addMethod]
    have hused := method?_isSome_iff h.method? m.id
    by_cases hm : m.id ∈ (methodsIn history).map (·.id)
    · rw [if_pos (hused.2 hm), if_pos (.inr hm)]
    · rw [if_neg (mt hused.1 hm), if_neg (by simpa using hm), List.append_nil]
  · rw [nodes_addMethod, hleft, h.nodes]

theorem Holds.addNode {g : Graph} {history : List Act} (h : g.Holds history) (n : Node) :
    (g.addNode n).Holds (history ++ [.addNode n]) := by
  have hmethods : methodsIn (history ++ [.addNode n]) = methodsIn history := by
    rw [methodsIn_concat]
    exact List.append_nil _
  have hleft : nodesLeft [] (history ++ [.addNode n]) = nodesLeft [] history ++ [n] :=
    nodesLeft_concat_of_ne [] history nofun
  refine ⟨fun id => ?_, ?_, ?_⟩
  · rw [method?_addNode, hmethods, h.method?]
  · rw [repeatedMethods_addNode, hmethods, h.repeated]
  · rw [nodes_addNode, hleft, h.nodes]

/-- The ids a graph knows are those of the nodes that were added. -/
theorem Holds.contains_iff {g : Graph} {history : List Act} (h : g.Holds history) (id : NodeId) :
    g.contains id = true ↔ id ∈ (nodesIn history).map (·.id) := by
  rw [Graph.contains_iff, h.nodes, ids_nodesLeft]

theorem Holds.prune {g : Graph} {history : List Act} (h : g.Holds history) :
    g.prune.Holds (history ++ [.prune]) := by
  have hmethods : methodsIn (history ++ [.prune]) = methodsIn history := by
    rw [methodsIn_concat]
    exact List.append_nil _
  have hknown : g.contains = leaves [] history .prune := by
    funext id
    rw [Bool.eq_iff_iff, h.contains_iff, leaves, knownAfter, List.nil_append, decide_eq_true_eq]
  refine ⟨fun id => ?_, ?_, ?_⟩
  · rw [method?_prune, hmethods, h.method?]
  · rw [repeatedMethods_prune, hmethods, h.repeated]
  · rw [nodes_prune, nodesLeft_concat, h.nodes, hknown]
    exact (List.append_nil _).symm

theorem Holds.perform {g : Graph} {history : List Act} (h : g.Holds history) (a : Act) :
    (g.perform a).Holds (history ++ [a]) := by
  cases a with
  | addMethod m => exact h.addMethod m
  | addNode n => exact h.addNode n
  | prune => exact h.prune

theorem holds_after (history : List Act) : (after history).Holds history := by
  induction history using List.reverseRecOn with
  | nil => exact ⟨fun id => by simp [after, empty, method?, methodsIn], rfl, rfl⟩
  | append_singleton history a ih =>
    rw [after_concat]
    exact ih.perform a

/-- Every node is left in its place, with some of its targets. -/
theorem forall₂_nodesLeft (known : List NodeId) (history : List Act) :
    List.Forall₂ (fun n left => ∃ keep, left = n.retarget keep) (nodesIn history) (nodesLeft known history) := by
  induction history generalizing known with
  | nil => exact .nil
  | cons a history ih =>
    cases a with
    | addMethod m => exact ih known
    | addNode n => exact .cons ⟨_, rfl⟩ (ih (known ++ [n.id]))
    | prune => exact ih known

/-! ## Faults -/

/-- What is wrong with a node, if these methods and nodes were added: its method is missing, or else the first of its
targets without a node. -/
inductive Offends (methods : List MethodId) (nodes : List NodeId) (n : Node) : GraphFault → Prop
  | method (missing : n.method ∉ methods) : Offends methods nodes n (.missingMethod n.id n.method)
  | target {earlier later : List CallSite} {c : CallSite} {before rest : List NodeId} {target : NodeId}
      (known : n.method ∈ methods) (sites : n.sites = earlier ++ c :: later)
      (whole : ∀ c' ∈ earlier, ∀ id ∈ c'.targets, id ∈ nodes) (targets : c.targets = before ++ target :: rest)
      (there : ∀ id ∈ before, id ∈ nodes) (missing : target ∉ nodes) :
      Offends methods nodes n (.missingTarget c.site n.id target)

/-- The fault that is reported: the first repeated method id, else the first repeated node id, else what is wrong with
the first node that offends. -/
inductive Reported (methods : List MethodId) (nodes : List NodeId) (left : List Node) : GraphFault → Prop
  | repeatedMethod {id : MethodId} (first : FirstRepeat methods id) : Reported methods nodes left (.repeatedMethod id)
  | repeatedNode {id : NodeId} (once : methods.Nodup) (first : FirstRepeat nodes id) :
      Reported methods nodes left (.repeatedNode id)
  | node {before rest : List Node} {n : Node} {fault : GraphFault} (once : methods.Nodup) (onceNodes : nodes.Nodup)
      (split : left = before ++ n :: rest) (sound : ∀ n' ∈ before, ∀ fault, ¬Offends methods nodes n' fault)
      (offends : Offends methods nodes n fault) : Reported methods nodes left fault

section
variable {g : Graph} {methods : List MethodId} {nodes : List NodeId}
  (hmethods : ∀ id, g.methods.contains id = true ↔ id ∈ methods) (hnodes : ∀ id, g.contains id = true ↔ id ∈ nodes)
include hmethods hnodes

theorem nodeFault?_eq_some_iff (n : Node) (fault : GraphFault) :
    g.nodeFault? n = some fault ↔ Offends methods nodes n fault := by
  unfold nodeFault?
  split
  · next hm =>
    rw [List.findSome?_eq_some_iff]
    constructor
    · rintro ⟨earlier, c, later, hsites, hc, hearlier⟩
      obtain ⟨target, hfind, rfl⟩ := Option.map_eq_some_iff.1 hc
      obtain ⟨hmissing, before, rest, htargets, hbefore⟩ := List.find?_eq_some_iff_append.1 hfind
      refine .target ((hmethods _).1 hm) hsites (fun c' hc' id hid => ?_) htargets (fun id hid => ?_) ?_
      · have hnone := List.find?_eq_none.1 (Option.map_eq_none_iff.1 (hearlier c' hc')) id hid
        exact (hnodes id).1 (by simpa using hnone)
      · exact (hnodes id).1 (by simpa using hbefore id hid)
      · rw [← hnodes]
        simpa using hmissing
    · rintro (hmissing | ⟨-, hsites, hwhole, htargets, hthere, hmissing⟩)
      · exact absurd ((hmethods _).1 hm) hmissing
      · refine ⟨_, _, _, hsites, ?_, fun c' hc' => ?_⟩
        · refine Option.map_eq_some_iff.2 ⟨_, List.find?_eq_some_iff_append.2 ⟨?_, _, _, htargets, fun id hid => ?_⟩, rfl⟩
          · rw [← hnodes] at hmissing
            simpa using hmissing
          · simpa using (hnodes id).2 (hthere id hid)
        · refine Option.map_eq_none_iff.2 (List.find?_eq_none.2 fun id hid => ?_)
          simpa using (hnodes id).2 (hwhole c' hc' id hid)
  · next hm =>
    rw [Option.some.injEq]
    constructor
    · rintro rfl
      exact .method (mt (hmethods _).2 hm)
    · rintro (_ | ⟨hknown, _⟩)
      · rfl
      · exact absurd ((hmethods _).2 hknown) hm

end

/-- What is reported of a graph, said of its history. -/
theorem Holds.fault?_eq_some_iff {g : Graph} {history : List Act} (h : g.Holds history) (fault : GraphFault) :
    g.fault? = some fault ↔
      Reported ((methodsIn history).map (·.id)) ((nodesIn history).map (·.id)) g.nodes.toList fault := by
  generalize hmethods : (methodsIn history).map (·.id) = methods
  generalize hnodes : (nodesIn history).map (·.id) = nodes
  have hrepeatedMethods : g.repeatedMethods = repeatsAfter [] methods := by rw [h.repeated, hmethods]
  have hrepeatedNodes : g.repeatedNodes = repeatsAfter [] nodes := by
    rw [g.repeatedNodes_eq, h.nodes, ids_nodesLeft, hnodes]
  have hoffends (n : Node) (fault : GraphFault) : g.nodeFault? n = some fault ↔ Offends methods nodes n fault :=
    nodeFault?_eq_some_iff (hmethods ▸ method?_isSome_iff h.method?) (hnodes ▸ h.contains_iff) n fault
  have hfirstMethod (id : MethodId) := head?_repeatsAfter_nil methods id
  have hfirstNode (id : NodeId) := head?_repeatsAfter_nil nodes id
  have honce : repeatsAfter [] methods = [] ↔ methods.Nodup := by simp [repeatsAfter_eq_nil_iff]
  have honceNodes : repeatsAfter [] nodes = [] ↔ nodes.Nodup := by simp [repeatsAfter_eq_nil_iff]
  rw [fault?, hrepeatedMethods, hrepeatedNodes]
  -- What stands first in one of the lists of repeated ids is reported, and the nodes only if both are empty.
  cases hm : repeatsAfter [] methods with
  | cons id rest =>
    have hid : FirstRepeat methods id := (hfirstMethod id).1 (by rw [hm, List.head?_cons])
    have hnot : ¬methods.Nodup := by simp [← honce, hm]
    constructor
    · intro hfault
      obtain rfl : GraphFault.repeatedMethod id = fault := by simpa using hfault
      exact .repeatedMethod hid
    · rintro (hfirst | ⟨once, -⟩ | ⟨once, -, -, -, -⟩)
      · have hhead := (hfirstMethod _).2 hfirst
        rw [hm, List.head?_cons, Option.some.injEq] at hhead
        simp [hhead]
      · exact absurd once hnot
      · exact absurd once hnot
  | nil =>
    have hall : methods.Nodup := honce.1 hm
    have hnoMethod (id : MethodId) : ¬FirstRepeat methods id := by simp [← hfirstMethod, hm]
    cases hn : repeatsAfter [] nodes with
    | cons id rest =>
      have hid : FirstRepeat nodes id := (hfirstNode id).1 (by rw [hn, List.head?_cons])
      have hnot : ¬nodes.Nodup := by simp [← honceNodes, hn]
      constructor
      · intro hfault
        obtain rfl : GraphFault.repeatedNode id = fault := by simpa using hfault
        exact .repeatedNode hall hid
      · rintro (hfirst | ⟨-, hfirst⟩ | ⟨-, once, -, -, -⟩)
        · exact absurd hfirst (hnoMethod _)
        · have hhead := (hfirstNode _).2 hfirst
          rw [hn, List.head?_cons, Option.some.injEq] at hhead
          simp [hhead]
        · exact absurd once hnot
    | nil =>
      have hnoNode (id : NodeId) : ¬FirstRepeat nodes id := by simp [← hfirstNode, hn]
      have hsound (n : Node) : g.nodeFault? n = none ↔ ∀ fault, ¬Offends methods nodes n fault := by
        simp only [Option.eq_none_iff_forall_ne_some, ne_eq, hoffends]
      simp only [List.head?_nil, Option.map_none, Option.orElse_eq_orElse, Option.orElse_eq_or, Option.none_or]
      rw [List.findSome?_eq_some_iff]
      constructor
      · rintro ⟨before, n, rest, hsplit, hfault, hbefore⟩
        exact .node hall (honceNodes.1 hn) hsplit (fun n' hn' => (hsound n').1 (hbefore n' hn')) ((hoffends n fault).1 hfault)
      · rintro (hfirst | ⟨-, hfirst⟩ | ⟨-, -, hsplit, hbefore, hfault⟩)
        · exact absurd hfirst (hnoMethod _)
        · exact absurd hfirst (hnoNode _)
        · exact ⟨_, _, _, hsplit, (hoffends _ fault).2 hfault, fun n' hn' => (hsound n').2 (hbefore n' hn')⟩

theorem Holds.check_eq_ok_iff {g : Graph} {history : List Act} (h : g.Holds history) :
    g.check = .ok () ↔ ((methodsIn history).map (·.id)).Nodup ∧ ((nodesIn history).map (·.id)).Nodup ∧
      (∀ n ∈ nodesIn history, ∃ m ∈ methodsIn history, m.id = n.method) ∧
      ∀ n ∈ g.nodes.toList, ∀ c ∈ n.sites, ∀ id ∈ c.targets, ∃ n' ∈ nodesIn history, n'.id = id := by
  have honce : g.repeatedMethods = [] ↔ ((methodsIn history).map (·.id)).Nodup := by
    simp [h.repeated, repeatsAfter_eq_nil_iff]
  have hids : g.nodes.toList.map (·.id) = (nodesIn history).map (·.id) := by rw [h.nodes, ids_nodesLeft]
  have hmethod (id : MethodId) : (∃ m, g.method? id = some m) ↔ ∃ m ∈ methodsIn history, m.id = id := by
    rw [← Option.isSome_iff_exists, h.method?, List.find?_isSome]
    simp only [decide_eq_true_eq]
  have hmethods : (∀ n ∈ g.nodes.toList, ∃ m, g.method? n.method = some m) ↔
      ∀ n ∈ nodesIn history, ∃ m ∈ methodsIn history, m.id = n.method := by
    have hrefers : g.nodes.toList.map (·.method) = (nodesIn history).map (·.method) := by
      rw [h.nodes, map_nodesLeft fun _ _ => rfl]
    simp only [hmethod]
    rw [← List.forall_mem_map (f := fun n : Node => n.method) (P := fun id => ∃ m ∈ methodsIn history, m.id = id),
      hrefers, List.forall_mem_map]
  have htarget (id : NodeId) : (∃ n, g.node? id = some n) ↔ ∃ n ∈ nodesIn history, n.id = id := by
    rw [← contains_iff_node?, h.contains_iff, List.mem_map]
  rw [Graph.check_eq_ok_iff, ← honce, ← hids, ← hmethods]
  simp only [← htarget]
  exact ⟨fun hs => ⟨hs.methods, hs.ids, hs.method, hs.target⟩, fun ⟨hm, hn, hr, ht⟩ => ⟨hm, hn, hr, ht⟩⟩

/-- An id stands for what was added with it first. -/
theorem Holds.node?_eq {g : Graph} {history : List Act} (h : g.Holds history) (id : NodeId) :
    g.node? id = ((nodesIn history).findIdx? (·.id = id)).bind (g.nodes[·]?) := by
  have hindex : (nodesLeft [] history).findIdx? (·.id = id) = (nodesIn history).findIdx? (·.id = id) := by
    have hmap (ns : List Node) : ns.findIdx? (·.id = id) = (ns.map (·.id)).findIdx? (· = id) := by
      rw [List.findIdx?_map]
      rfl
    rw [hmap, ids_nodesLeft, ← hmap]
  rw [Graph.node?, g.index_eq, h.nodes, hindex]

theorem check_eq_error_iff (g : Graph) (fault : GraphFault) : g.check = .error fault ↔ g.fault? = some fault := by
  unfold check
  cases g.fault? <;> simp

/-! ## Main theorem -/

/-- A graph holds each node that was added, in order, with the targets that no pruning took; an id stands for what was
added with it first. The graph is sound if no id was used twice and whatever a node refers to was added; else the fault is
reported that comes first. -/
theorem holds_history (history : List Act) :
    (after history).nodes.toList = nodesLeft [] history ∧
      List.Forall₂ (fun n left => ∃ keep, left = n.retarget keep) (nodesIn history) (after history).nodes.toList ∧
      (.prune ∉ history → (after history).nodes.toList = nodesIn history) ∧
      (∀ id, (after history).node? id = ((nodesIn history).findIdx? (·.id = id)).bind ((after history).nodes[·]?)) ∧
      (∀ id, (after history).method? id = (methodsIn history).find? (·.id = id)) ∧
      (∀ id, (after history).contains id = true ↔ ∃ n ∈ nodesIn history, n.id = id) ∧
      (∀ (id : NodeId) (i : Nat), (after history).index[id]? = some i →
        ∃ n : Node, (after history).nodes[i]? = some n ∧ n.id = id) ∧
      ((after history).check = .ok () ↔
        ((methodsIn history).map (·.id)).Nodup ∧ ((nodesIn history).map (·.id)).Nodup ∧
          (∀ n ∈ nodesIn history, ∃ m ∈ methodsIn history, m.id = n.method) ∧
          ∀ n ∈ (after history).nodes.toList, ∀ c ∈ n.sites, ∀ id ∈ c.targets, ∃ n' ∈ nodesIn history, n'.id = id) ∧
      ∀ fault, (after history).check = .error fault ↔
        Reported ((methodsIn history).map (·.id)) ((nodesIn history).map (·.id)) (after history).nodes.toList fault := by
  have h := holds_after history
  refine ⟨h.nodes, ?_, fun hprune => ?_, h.node?_eq, h.method?, fun id => ?_, fun id i hi => ?_, h.check_eq_ok_iff,
    fun fault => ?_⟩
  · rw [h.nodes]
    exact forall₂_nodesLeft [] history
  · rw [h.nodes, nodesLeft_of_notMem hprune]
  · rw [h.contains_iff, List.mem_map]
  · rw [Graph.index_eq, List.findIdx?_eq_some_iff_getElem] at hi
    obtain ⟨hlt, hid, -⟩ := hi
    exact ⟨(after history).nodes[i], Array.getElem?_eq_getElem hlt, by simpa using hid⟩
  · rw [check_eq_error_iff, h.fault?_eq_some_iff]

end Graph

end CallGraph
