import CallGraph.Failure
import Std.Data.HashMap
/-!
# Call graphs

Nodes, each a method in a context, with the call sites of the method and the nodes they can reach. A graph is filled by
adding methods and nodes; `check` says whether the result is sound: no id used twice, no node without its method, no
call site with a target outside the graph.
-/

namespace CallGraph

/-- One call or allocation on the way to a node. `site` is its text, for when `pc` has no line. -/
structure ContextEntry where
  method : MethodId
  pc : UInt32
  site : String
  deriving DecidableEq, Repr, Inhabited

/-- What distinguishes the nodes of one method. -/
inductive Context
  /-- the context of a method analysed once for all callers -/
  | everywhere
  | callString (entries : List ContextEntry)
  | allocationString (entries : List ContextEntry)
  /-- a kind of context that has no frames here -/
  | unsupported (kind : String)
  deriving DecidableEq, Repr, Inhabited

/-- The context of a kind given by name; only the two string kinds keep the entries. -/
def Context.ofKind (kind : String) (entries : List ContextEntry) : Context :=
  if kind = "everywhere" then .everywhere
  else if kind = "call-string" then .callString entries
  else if kind = "allocation-string" then .allocationString entries
  else .unsupported kind

def Context.kind : Context → String
  | everywhere => "everywhere"
  | callString _ => "call-string"
  | allocationString _ => "allocation-string"
  | unsupported kind => kind

/-- A call or allocation in a node's method, with the nodes it can reach. -/
structure CallSite where
  site : String
  pc : UInt32
  targets : List NodeId := []
  deriving DecidableEq, Repr, Inhabited

/-- The number of targets of some call sites. -/
def targetCount : List CallSite → Nat
  | [] => 0
  | s :: rest => s.targets.length + targetCount rest

structure Node where
  id : NodeId
  method : MethodId
  context : Context := .everywhere
  sites : List CallSite := []
  deriving DecidableEq, Repr, Inhabited

/-- The number of targets of all call sites in some nodes. -/
def edgesFrom : List Node → Nat
  | [] => 0
  | n :: rest => targetCount n.sites + edgesFrom rest

/-- Drops the targets of a node that `keep` rejects. -/
def Node.retarget (keep : NodeId → Bool) (n : Node) : Node :=
  { n with sites := n.sites.map fun s => { s with targets := s.targets.filter keep } }

/-- Call sites without the targets that `keep` rejects, and how many went, on top of those `dropped` before. -/
def retargetSites (keep : NodeId → Bool) (dropped : Nat) : List CallSite → List CallSite × Nat
  | [] => ([], dropped)
  | s :: rest =>
    let targets := s.targets.filter keep
    let (rest, dropped) := retargetSites keep (dropped + (s.targets.length - targets.length)) rest
    ({ s with targets } :: rest, dropped)

/-- Nodes without the targets that `keep` rejects, and how many went, on top of those `dropped` before. -/
def retargetNodes (keep : NodeId → Bool) (dropped : Nat) : List Node → List Node × Nat
  | [] => ([], dropped)
  | n :: rest =>
    let (sites, dropped) := retargetSites keep dropped n.sites
    let (rest, dropped) := retargetNodes keep dropped rest
    ({ n with sites } :: rest, dropped)

theorem retargetSites_fst (keep : NodeId → Bool) (sites : List CallSite) (dropped : Nat) :
    (retargetSites keep dropped sites).1 = sites.map fun s => { s with targets := s.targets.filter keep } := by
  induction sites generalizing dropped with
  | nil => rfl
  | cons s rest ih => simp [retargetSites, ih]

theorem retargetNodes_fst (keep : NodeId → Bool) (ns : List Node) (dropped : Nat) :
    (retargetNodes keep dropped ns).1 = ns.map (Node.retarget keep) := by
  induction ns generalizing dropped with
  | nil => rfl
  | cons n rest ih => simp [retargetNodes, retargetSites_fst, Node.retarget, ih]

/-- The elements of a list that are among `seen` or stand behind an equal one. -/
def repeatsAfter {α : Type} [DecidableEq α] (seen : List α) : List α → List α
  | [] => []
  | x :: rest => if x ∈ seen then x :: repeatsAfter seen rest else repeatsAfter (x :: seen) rest

theorem repeatsAfter_concat {α : Type} [DecidableEq α] (xs : List α) (seen : List α) (y : α) :
    repeatsAfter seen (xs ++ [y]) = repeatsAfter seen xs ++ if y ∈ seen ∨ y ∈ xs then [y] else [] := by
  induction xs generalizing seen with
  | nil => simp [repeatsAfter]
  | cons x xs ih =>
    simp only [List.cons_append, repeatsAfter]
    split
    · next hx =>
      rw [ih, List.cons_append]
      by_cases hy : y = x <;> simp [hy, hx]
    · rw [ih]
      simp [or_assoc, or_left_comm]

/-- A call graph under construction. Nodes keep the order in which they were added; an id used twice stands for what was
added first, and is remembered among the repeated ids. -/
structure Graph where
  methods : Std.HashMap MethodId Method := {}
  nodes : Array Node := #[]
  /-- the position of the first node with each id -/
  index : Std.HashMap NodeId Nat := {}
  repeatedMethods : List MethodId := []
  repeatedNodes : List NodeId := []
  index_eq : ∀ id, index[id]? = nodes.toList.findIdx? (·.id = id)
  repeatedNodes_eq : repeatedNodes = repeatsAfter [] (nodes.toList.map (·.id))

namespace Graph

def empty : Graph where
  index_eq := by simp
  repeatedNodes_eq := rfl

instance : Inhabited Graph := ⟨empty⟩

def method? (g : Graph) (id : MethodId) : Option Method := g.methods[id]?

def contains (g : Graph) (id : NodeId) : Bool := g.index.contains id

def node? (g : Graph) (id : NodeId) : Option Node := g.index[id]?.bind (g.nodes[·]?)

def addMethod (g : Graph) (m : Method) : Graph :=
  if g.methods.contains m.id then { g with repeatedMethods := g.repeatedMethods ++ [m.id] }
  else { g with methods := g.methods.insert m.id m }

theorem findIdx?_isSome_iff (ns : List Node) (id : NodeId) :
    (ns.findIdx? (·.id = id)).isSome = true ↔ id ∈ ns.map (·.id) := by
  rw [List.findIdx?_isSome]
  simp only [List.any_eq_true, decide_eq_true_eq, List.mem_map]

/-- A node added behind others is found where its id is new. -/
theorem findIdx?_concat (ns : List Node) (n : Node) (id : NodeId) :
    (ns ++ [n]).findIdx? (·.id = id) =
      if n.id = id ∧ id ∉ ns.map (·.id) then some ns.length else ns.findIdx? (·.id = id) := by
  simp only [List.findIdx?_append, List.findIdx?_singleton, ← findIdx?_isSome_iff]
  by_cases hid : n.id = id
  · cases ns.findIdx? (·.id = id) <;> simp [hid]
  · simp [hid]

theorem contains_iff (g : Graph) (id : NodeId) : g.contains id = true ↔ id ∈ g.nodes.toList.map (·.id) := by
  rw [contains, Std.HashMap.contains_eq_isSome_getElem?, g.index_eq, findIdx?_isSome_iff]

def addNode (g : Graph) (n : Node) : Graph :=
  if h : g.contains n.id then
    { g with
      nodes := g.nodes.push n
      repeatedNodes := g.repeatedNodes ++ [n.id]
      index_eq := fun id => by
        have hold := (g.contains_iff n.id).1 h
        rw [g.index_eq, Array.toList_push, findIdx?_concat, if_neg]
        rintro ⟨rfl, hnew⟩
        exact hnew hold
      repeatedNodes_eq := by
        have hold := (g.contains_iff n.id).1 h
        rw [Array.toList_push, List.map_append, List.map_singleton, repeatsAfter_concat, ← g.repeatedNodes_eq,
          if_pos (.inr hold)] }
  else
    { g with
      nodes := g.nodes.push n
      index := g.index.insert n.id g.nodes.size
      index_eq := fun id => by
        have hnew := mt (g.contains_iff n.id).2 h
        rw [Std.HashMap.getElem?_insert, Array.toList_push, findIdx?_concat, g.index_eq]
        by_cases hid : n.id = id
        · subst hid
          simp [hnew]
        · simp [hid]
      repeatedNodes_eq := by
        have hnew := mt (g.contains_iff n.id).2 h
        rw [Array.toList_push, List.map_append, List.map_singleton, repeatsAfter_concat, ← g.repeatedNodes_eq]
        simp [hnew] }

def nodeCount (g : Graph) : Nat := g.nodes.size

/-- The number of caller, call site and target triples. -/
def edgeCount (g : Graph) : Nat := edgesFrom g.nodes.toList

/-- Drops every target that is no node of the graph. -/
def prune (g : Graph) : Graph :=
  { g with
    nodes := g.nodes.map (Node.retarget g.contains)
    index_eq := fun id => by
      rw [g.index_eq, Array.toList_map, List.findIdx?_map]
      rfl
    repeatedNodes_eq := by
      rw [g.repeatedNodes_eq, Array.toList_map, List.map_map]
      rfl }

/-- Drops every target that is no node of the graph, and counts them. -/
def pruneCounted (g : Graph) : Graph × Nat :=
  let pass := retargetNodes g.contains 0 g.nodes.toList
  ({ g with
    nodes := pass.1.toArray
    index_eq := fun id => by
      rw [g.index_eq, retargetNodes_fst, List.findIdx?_map]
      rfl
    repeatedNodes_eq := by
      rw [g.repeatedNodes_eq, retargetNodes_fst, List.map_map]
      rfl }, pass.2)

/-- What is wrong with a node: its method is missing, or the first target outside the graph. -/
def nodeFault? (g : Graph) (n : Node) : Option GraphFault :=
  if g.methods.contains n.method then
    n.sites.findSome? fun s =>
      (s.targets.find? fun target => !g.contains target).map fun target => .missingTarget s.site n.id target
  else some (.missingMethod n.id n.method)

/-- What is wrong with a graph, if anything: repeated ids first, then its nodes in order. -/
def fault? (g : Graph) : Option GraphFault :=
  (g.repeatedMethods.head?.map .repeatedMethod) <|> (g.repeatedNodes.head?.map .repeatedNode) <|>
    g.nodes.toList.findSome? g.nodeFault?

def check (g : Graph) : Except GraphFault Unit :=
  match g.fault? with
  | some fault => .error fault
  | none => .ok ()

end Graph

end CallGraph
