import CallGraph.Proofs.Extraction
import Mathlib.Data.List.Duplicate
/-!
# Ids that are used twice

A run fails if two methods that are left in the graph have the same id, or two of its nodes: `run_repeats`. What an
exclusion or a bound takes away is not asked for its ids: `run_withoutRepeated` succeeds, though its snapshot has a method
and a node that come twice.
-/

namespace CallGraph

/-! ## Repeated ids -/

theorem mem_repeatsAfter_iff {α : Type} [DecidableEq α] {x : α} (xs seen : List α) :
    x ∈ repeatsAfter seen xs ↔ x ∈ xs ∧ x ∈ seen ∨ List.Duplicate x xs := by
  induction xs generalizing seen with
  | nil => simp [repeatsAfter]
  | cons y ys ih =>
    rw [repeatsAfter, List.duplicate_cons_iff]
    split
    · next hy =>
      rw [List.mem_cons, ih, List.mem_cons]
      by_cases hx : x = y
      · subst hx
        simp [hy]
      · simp [hx, Ne.symm hx]
    · next hy =>
      rw [ih, List.mem_cons, List.mem_cons]
      by_cases hx : x = y
      · subst hx
        simp [hy]
      · simp [hx, Ne.symm hx]

/-- Repeated ids are the first thing that is found wrong with a graph. -/
theorem Graph.check_repeated {g : Graph} (h : g.repeatedMethods ≠ [] ∨ g.repeatedNodes ≠ []) :
    ∃ fault, g.check = .error fault ∧
      ((∃ id ∈ g.repeatedMethods, fault = .repeatedMethod id) ∨ ∃ id ∈ g.repeatedNodes, fault = .repeatedNode id) := by
  cases hm : g.repeatedMethods with
  | cons id rest =>
    refine ⟨.repeatedMethod id, ?_, .inl ⟨id, List.mem_cons_self, rfl⟩⟩
    simp [check, fault?, hm]
  | nil =>
    obtain ⟨id, rest, hn⟩ := List.exists_cons_of_ne_nil (h.resolve_left (absurd hm))
    refine ⟨.repeatedNode id, ?_, .inr ⟨id, hn ▸ List.mem_cons_self, rfl⟩⟩
    simp [check, fault?, hm, hn]

namespace Snapshot

/-- What a repeated id is reported as: that of methods which are not excluded, or of nodes which are kept. -/
inductive Repeats (s : Snapshot) (excludes : String → Bool) (limit : Option Nat) : GraphFault → Prop
  | method {id : MethodId} (h : List.Duplicate id ((s.methods.filter fun m => !s.excluded excludes m.id).map (·.id))) :
      Repeats s excludes limit (.repeatedMethod id)
  | node {id : NodeId} (h : List.Duplicate id ((s.keptWithin excludes limit).map (·.id))) :
      Repeats s excludes limit (.repeatedNode id)

/-- A replay with repeated ids is refused for one of them. -/
theorem replay_repeats {s : Snapshot} {excludes : String → Bool} {limit : Option Nat} {poll : Nat → Bool}
    (hpoll : ∀ i, poll i = false) (h : ∃ fault, s.Repeats excludes limit fault) :
    ∃ fault, (s.replay excludes limit poll).graph.check = .error fault ∧ s.Repeats excludes limit fault := by
  obtain ⟨cut, hreplayed⟩ := s.exists_replayedTo excludes limit poll
  have hmethods (id : MethodId) : id ∈ (s.replay excludes limit poll).graph.repeatedMethods ↔
      List.Duplicate id ((s.methods.filter fun m => !s.excluded excludes m.id).map (·.id)) := by
    simp [repeatedMethods_replay, mem_repeatsAfter_iff]
  have hnodes (id : NodeId) : id ∈ (s.replay excludes limit poll).graph.repeatedNodes ↔
      List.Duplicate id ((s.keptWithin excludes limit).map (·.id)) := by
    rw [Graph.repeatedNodes_eq, hreplayed.ids, hreplayed.keptBefore_eq hpoll]
    simp [mem_repeatsAfter_iff]
  have hsome : (s.replay excludes limit poll).graph.repeatedMethods ≠ [] ∨
      (s.replay excludes limit poll).graph.repeatedNodes ≠ [] := by
    obtain ⟨fault, hid | hid⟩ := h
    · exact .inl (List.ne_nil_of_mem ((hmethods _).2 hid))
    · exact .inr (List.ne_nil_of_mem ((hnodes _).2 hid))
  obtain ⟨fault, hcheck, ⟨id, hid, rfl⟩ | ⟨id, hid, rfl⟩⟩ := Graph.check_repeated hsome
  · exact ⟨_, hcheck, .method ((hmethods id).1 hid)⟩
  · exact ⟨_, hcheck, .node ((hnodes id).1 hid)⟩

end Snapshot

/-! ## Main theorem -/

/-- A run that is not told to stop fails where the id of a method that is not excluded, or of a node that is kept, is used
twice, and changes no file. It fails for such an id, unless the snapshot was recorded with other options. -/
theorem run_repeats {s : Settings} {path jars : String} {timing : Timing} {files : FileTree} {request : Request}
    {archives : List Archive} {snapshot : Snapshot} (output : String) (hstop : ∀ n, timing.stop n = false)
    (hinputs : Extraction.inputs s files jars = .ok (request, archives)) (hload : Snapshot.load files path = .ok snapshot)
    (hrepeats : ∃ fault, snapshot.Repeats request.excludes s.analysis.nodeLimit? fault) :
    ∃ fault, Extraction.run s (Engine.ofSnapshot path) timing files jars output = (.error (.noGraph fault), files) ∧
      (snapshot.mismatch? s.analysis = some fault ∨ snapshot.Repeats request.excludes s.analysis.nodeLimit? fault) := by
  have hoptions := Extraction.options_of_inputs hinputs
  cases hfit : snapshot.mismatch? s.analysis with
  | some fault =>
    refine ⟨fault, ?_, .inl rfl⟩
    simp only [Extraction.run, hinputs, Engine.ofSnapshot, hload, hoptions, hfit, Build.result]
  | none =>
    obtain ⟨fault, hcheck, hfault⟩ := Snapshot.replay_repeats hstop hrepeats
    refine ⟨fault, ?_, .inr hfault⟩
    -- The graph is refused before anything is opened.
    have hwrite : Extraction.write s files archives
        (snapshot.replay request.excludes s.analysis.nodeLimit? timing.stop).graph output =
          (.error (.noGraph fault), files) := by
      simp only [Extraction.write, Walk.start, hcheck, Except.map]
    simp only [Extraction.run, hinputs, Engine.ofSnapshot, hload, hoptions, hfit, Build.result, hwrite]

/-! ## Ids that nobody asks for -/

/-- A snapshot in which a method of `B` comes twice, and each node. -/
def twiceText : String :=
  "[\"zero-cfa\",1,[],[[0,[\"LA\",\"f\",\"()V\"]],[1,[\"LB\",\"g\",\"()V\"]],[1,[\"LB\",\"h\",\"()V\"]]]," ++
  "[[7,0],[8,1],[8,1],[7,0]]]"

def twice : Snapshot where
  policy := .zeroCfa
  methods := [{ id := ⟨0⟩, signature := ⟨"LA", "f", "()V"⟩ }, { id := ⟨1⟩, signature := ⟨"LB", "g", "()V"⟩ },
    { id := ⟨1⟩, signature := ⟨"LB", "h", "()V"⟩ }]
  nodes := [{ id := ⟨7⟩, method := ⟨0⟩ }, { id := ⟨8⟩, method := ⟨1⟩ }, { id := ⟨8⟩, method := ⟨1⟩ },
    { id := ⟨7⟩, method := ⟨0⟩ }]

/-- An artifact, the snapshot, and a file that excludes all classes with a `B` in their names. -/
def twiceTree : FileTree :=
  ⟨[(["a"], .file emptyZip), (["e"], .file "B".toUTF8), (["g"], .file twiceText.toUTF8)], []⟩

theorem load_twice : Snapshot.load twiceTree "/g" = .ok twice :=
  Snapshot.load_atRoot "g" twiceText (by decide) (by simp [twiceTree, FileTree.get?, List.lookup_cons])
    (by cbv)

/-- One node at most, and none of `B`. -/
def withoutRepeated : Settings where
  analysis := { exclusions := some "/e", maxNodes := 1 }

theorem inputs_withoutRepeated : ∃ request archives,
    Extraction.inputs withoutRepeated twiceTree "/a" = .ok (request, archives) ∧
      request.options = withoutRepeated.analysis ∧ request.excludes "LA" = false ∧ request.excludes "LB" = true := by
  have hroot : FileTree.AtRoot "/e" "e" := by decide
  have hfind : twiceTree.find "/e" = .ok (["e"], .file "B".toUTF8) :=
    hroot.find (by simp [twiceTree, FileTree.get?, List.lookup_cons]) (by simp)
  have hread : (((Exclusions.lines "B").mapM Exclusions.read).toOption.any fun es =>
      !Exclusions.excludes es "LA" && Exclusions.excludes es "LB") = true := by decide
  cases hes : (Exclusions.lines "B").mapM Exclusions.read with
  | error failure => simp [hes, Except.toOption] at hread
  | ok es =>
    simp only [hes, Except.toOption, Option.any_some, Bool.and_eq_true, Bool.not_eq_true'] at hread
    have hload : Exclusions.load twiceTree withoutRepeated.analysis.exclusions = .ok es := by
      simp only [withoutRepeated, Exclusions.load, FileTree.readText, FileTree.read, hfind, fromUTF8?_toUTF8, hes]
    have hzip : twiceTree.get? ["a"] = some (.file emptyZip) := by simp [twiceTree, FileTree.get?]
    exact ⟨_, _, inputs_emptyZip hzip hload rfl, rfl, hread⟩

/-- Both nodes of `B` are excluded with its methods, and the last node is beyond the bound. What is left has ids of its
own, so the run succeeds. -/
theorem run_withoutRepeated : ∃ snapshot report files',
    Snapshot.load twiceTree "/g" = .ok snapshot ∧ List.Duplicate ⟨1⟩ (snapshot.methods.map (·.id)) ∧
      List.Duplicate ⟨7⟩ (snapshot.nodes.map (·.id)) ∧
      Extraction.run withoutRepeated (Engine.ofSnapshot "/g") {} twiceTree "/a" "/o" = (.ok report, files') := by
  obtain ⟨request, archives, hinputs, hoptions, hA, hB⟩ := inputs_withoutRepeated
  have hfit : twice.mismatch? withoutRepeated.analysis = none := by decide
  have hlimit : request.options.nodeLimit? = some 1 := by
    rw [hoptions]
    decide
  let o := twice.replay request.excludes (some 1) fun _ => false
  have hengine : Engine.ofSnapshot "/g" twiceTree request ({} : Timing).stop = .graph o :=
    ofSnapshot_eq_graph_iff.2 ⟨twice, load_twice, hoptions ▸ hfit, hlimit ▸ rfl⟩
  -- One method and one node are left.
  obtain ⟨cut, h⟩ := twice.exists_replayedTo request.excludes (some 1) fun _ => false
  have hexcluded (id : MethodId) : twice.excluded request.excludes id = decide (id = ⟨1⟩) := by
    simp [Snapshot.excluded, twice, hA, hB, eq_comm]
  have hmethods : (twice.methods.filter fun m => !twice.excluded request.excludes m.id).map (·.id) = [⟨0⟩] := by
    simp only [hexcluded]
    decide
  have hnodes : twice.keptBefore request.excludes cut = [{ id := ⟨7⟩, method := ⟨0⟩ }] := by
    rw [h.keptBefore_eq fun _ => rfl, Snapshot.keptWithin, Snapshot.kept]
    simp only [hexcluded]
    decide
  have hmethod : ∃ m, twice.methodOf request.excludes ⟨0⟩ = some m := by
    rw [Snapshot.methodOf, hexcluded]
    exact ⟨_, rfl⟩
  have hsound : o.graph.Sound := by
    refine h.sound_iff.2 ⟨by simp [hmethods], by simp [hnodes], ?_⟩
    rw [hnodes]
    intro n hn
    rw [List.mem_singleton.1 hn]
    exact hmethod
  have hedges : (o.graph.nodes.toList.flatMap (o.graph.edgesOf withoutRepeated.resolution)).length = 0 := by
    rw [hsound.length_edges rfl, Graph.edgeCount, h.nodes, hnodes]
    rfl
  have hroot : FileTree.AtRoot "/o" "o" := by decide
  have hparent := hroot.makeParent twiceTree
  have hready : ChunkPlan.Ready ⟨"/o", .json, withoutRepeated.output.chunkSize.toNat, by decide⟩ twiceTree
      (chunkCount withoutRepeated.output.chunkSize.toNat 0) := by
    have hcount : chunkCount withoutRepeated.output.chunkSize.toNat 0 = 1 := by decide
    have hpath : chunkPath "/o" 0 = "/o" := by decide
    have hnone : twiceTree.get? ["o"] = none := by simp [twiceTree, FileTree.get?, List.lookup_cons]
    intro k hk
    obtain rfl : k = 0 := by omega
    exact ⟨["o"], hpath ▸ hroot.writable (.inl hnone), by simp [hnone]⟩
  obtain ⟨report, files', hrun⟩ := Extraction.run_ok hinputs hengine hsound (by decide) hparent
    (by rw [hedges]; exact hready)
  exact ⟨twice, report, files', load_twice, by decide, by decide, hrun⟩

/-- With nothing excluded the run fails. -/
theorem run_twice : ∃ fault,
    Extraction.run {} (Engine.ofSnapshot "/g") {} twiceTree "/a" "/o" = (.error (.noGraph fault), twiceTree) := by
  have hzip : twiceTree.get? ["a"] = some (.file emptyZip) := by simp [twiceTree, FileTree.get?]
  have hrepeats : ∃ fault, twice.Repeats (Exclusions.excludes []) none fault :=
    ⟨.repeatedMethod ⟨1⟩, .method (by decide)⟩
  have hinputs : Extraction.inputs {} twiceTree "/a" = .ok (⟨["/a"], [], {}⟩, [.zip "/a"]) :=
    inputs_emptyZip hzip rfl rfl
  have hstop : ∀ n, ({} : Timing).stop n = false := fun _ => rfl
  obtain ⟨fault, hrun, -⟩ := run_repeats "/o" hstop hinputs load_twice hrepeats
  exact ⟨fault, hrun⟩

end CallGraph
