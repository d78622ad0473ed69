import CallGraph.Extraction
import CallGraph.Proofs.Artifacts
import CallGraph.Proofs.Lists
import CallGraph.Proofs.Positions
import CallGraph.Proofs.Reference
import CallGraph.Proofs.Streaming
import Mathlib.Algebra.GroupWithZero.Nat
/-!
# What a run writes

A run that replays a snapshot writes the records of one pass over it: `run_refines_reference`. Each stage has been dealt
with on its own; here `write_told` puts walk and chunks together, and `run_told` the replay before them.

Two chunks may be one file, where a link stands at the path of one; then the later one replaces the other, and the run
does not notice: `run_collides`.
-/

namespace CallGraph

/-- Two paths lead to the same file. -/
def FileTree.SameFile (t : FileTree) (p q : String) : Prop := ∃ l, t.writable p = .ok l ∧ t.writable q = .ok l

/-- The rows of several files of records, one file behind the other. -/
def FileTree.rows? (t : FileTree) (e : Encoding) (paths : List String) : Option (List Row) :=
  (paths.mapM fun p => (t.read p).toOption.bind e.decode).map List.flatten

theorem exists_of_bind_eq_ok {ε α β : Type} {x : Except ε α} {f : α → Except ε β} {b : β} (h : (x >>= f) = .ok b) :
    ∃ a, x = .ok a ∧ f a = .ok b := by
  cases x with
  | error e => cases h
  | ok a => exact ⟨a, rfl, h⟩

/-! ## Walk and chunks -/

theorem ChunkPlan.of_eq_ok {base : String} {e : Encoding} {size : Nat} {plan : ChunkPlan}
    (h : ChunkPlan.of base e size = .ok plan) : plan.base = base ∧ plan.encoding = e ∧ plan.size = size := by
  unfold ChunkPlan.of at h
  split at h
  · obtain rfl := Except.ok.inj h
    exact ⟨rfl, rfl, rfl⟩
  · simp at h

namespace Extraction

section
variable {s : Settings} {files files' t₁ : FileTree} {archives : List Archive} {g : Graph} {output : String}
  {summary : Summary} {w : Walk}

/-- Each stage of a writing that succeeds. -/
theorem write_eq_ok (h : write s files archives g output = (.ok (summary, w), files')) :
    g.Sound ∧ ∃ plan t₁ cs t₂, plan.base = output ∧ plan.encoding = s.output.encoding ∧
      plan.size = s.output.chunkSize.toNat ∧ files.makeParent output = (.ok (), t₁) ∧
      Chunks.drain { plan } t₁ (.atStart g archives s.resolution) = (.ok (cs, w), t₂) ∧
      cs.close t₂ = (.ok summary, files') := by
  unfold write at h
  split at h
  · simp at h
  · next start hstart =>
    obtain ⟨hsound, rfl⟩ := Walk.start_eq_ok hstart
    refine ⟨hsound, ?_⟩
    split at h
    · simp at h
    · next plan hplan =>
      obtain ⟨hbase, hencoding, hsize⟩ := ChunkPlan.of_eq_ok hplan
      split at h
      · simp at h
      · next cs₀ t₁ hbegin =>
        have hparent : cs₀ = { plan } ∧ files.makeParent output = (.ok (), t₁) := by
          unfold Chunks.start at hbegin
          split at hbegin
          · simp at hbegin
          · next t₁' hparent =>
            obtain ⟨rfl, rfl⟩ : ({ plan } : Chunks) = cs₀ ∧ t₁' = t₁ := by simpa using hbegin
            exact ⟨rfl, hbase ▸ hparent⟩
        obtain ⟨rfl, hparent⟩ := hparent
        split at h
        · simp at h
        · next cs w' t₂ hdrain =>
          split at h
          · simp at h
          · next summary' t₃ hclose =>
            obtain ⟨⟨rfl, rfl⟩, rfl⟩ : (summary' = summary ∧ w' = w) ∧ t₃ = files' := by simpa using h
            exact ⟨plan, t₁, cs, t₂, hbase, hencoding, hsize, hparent, hdrain, hclose⟩

/-- Records that tell of `count` nodes were written by `plan` to `written`, and counted. -/
structure Written (s : Settings) (files : FileTree) (archives : List Archive) (hs : List Holding)
    (records : List Record) (count : Nat) (plan : ChunkPlan) (t₁ : FileTree) (written : List Location)
    (summary : Summary) (stats : WalkStats) (files' : FileTree) : Prop where
  encoding : plan.encoding = s.output.encoding
  size : plan.size = s.output.chunkSize.toNat
  parent : files.makeParent plan.base = (.ok (), t₁)
  held : List.Forall₂ (Holding.Seen (files.Amid summary.files)) archives hs
  filed : Filed plan t₁ (slices plan.size records) written files'
  length : written.length = (slices plan.size records).length
  summary_eq : summary = .ofChunks plan.base (slices plan.size records)
  edges : stats.edges = records.length
  nodes : stats.nodesVisited + stats.syntheticSkipped = count

/-- What is written is what a walk over the graph tells. -/
theorem write_told (h : write s files archives g output = (.ok (summary, w), files')) :
    ∃ hs records plan t₁ written, plan.base = output ∧
      records = (g.nodes.toList.flatMap (g.edgesOf s.resolution)).filterMap (·.tell? g ⟨g.method?, s.resolution, hs⟩) ∧
      Written s files archives hs records g.nodeCount plan t₁ written summary w.stats files' := by
  obtain ⟨hsound, plan, t₁, cs, t₂, rfl, hencoding, hsize, hparent, hdrain, hclose⟩ := write_eq_ok h
  obtain ⟨met, rfl, hall, hmet⟩ := Chunks.drain_eq_ok hdrain
  generalize hrecords : ((Walk.atStart g archives s.resolution).drain met).1 = records at hall hmet
  obtain ⟨hplan, hstands⟩ := Chunks.addAll_stands records (.fresh plan) hall
  have hplan : cs.plan = plan := hplan
  obtain ⟨written, hlength, hfiled, hsummary⟩ := Chunks.close_filed hstands hclose
  rw [List.nil_append, hplan] at hlength hfiled hsummary
  have hfurnished := FileTree.makeParent_furnished files plan.base
  rw [hparent] at hfurnished
  have hfiles : summary.files = (List.range (chunkCount plan.size records.length)).map (chunkPath plan.base) := by
    rw [hsummary, Summary.ofChunks, length_slices]
  -- Whenever the walk looked, some of the records had been written and nothing else.
  have hamid : ∀ k, files.Amid summary.files (met k) := by
    intro k
    obtain ⟨j, cs', hj⟩ := hmet k
    obtain ⟨hplan', hstands'⟩ := Chunks.addAll_stands (records.take j) (.fresh plan) hj
    have hplan' : cs'.plan = plan := hplan'
    have hle : ([] ++ records.take j).length ≤ records.length := by
      rw [List.nil_append, List.length_take]
      exact Nat.min_le_right _ _
    have hat := hstands'.amid hfurnished hle
    rwa [hplan', ← hfiles] at hat
  obtain ⟨htold, hahead⟩ := Walk.drain_told hamid (hsound.honest archives s.resolution)
  obtain ⟨hs, hheld, hagrees⟩ :=
    Shelf.exists_holdings (hamid 0) (htold.seen archives (shelves_seen _ archives s.resolution.siteMatch))
  have htally := htold.tally
  rw [Walk.tally, hahead] at htally
  refine ⟨hs, records, plan, t₁, written, rfl, ?_, hencoding, hsize, hparent, hheld, hfiled, hlength, hsummary, ?_, ?_⟩
  · rw [← hrecords]
    exact (htold.records hs hagrees).2
  · rw [← hrecords]
    exact htold.count.trans (Nat.zero_add _)
  · simpa [Walk.tally, Walk.atStart, Graph.nodeCount] using htally

/-- Files that are all different still have what was written to them. -/
theorem Written.rows? {hs : List Holding} {records : List Record} {count : Nat} {plan : ChunkPlan}
    {written : List Location} {stats : WalkStats}
    (h : Written s files archives hs records count plan t₁ written summary stats files')
    (hdistinct : summary.files.Pairwise fun p q => ¬files'.SameFile p q) :
    files'.rows? s.output.encoding summary.files = some (records.map s.output.encoding.view) := by
  have hfiles : summary.files = (List.range (slices plan.size records).length).map (chunkPath plan.base) := by
    rw [h.summary_eq, Summary.ofChunks]
  rw [hfiles] at hdistinct ⊢
  have hnodup : written.Nodup := by
    rw [List.Nodup, List.pairwise_iff_getElem]
    intro i j hi hj hij hsame
    have hi' := h.filed.places i _ (List.getElem?_eq_getElem hi)
    have hj' := h.filed.places j _ (List.getElem?_eq_getElem hj)
    rw [List.pairwise_map, List.pairwise_iff_getElem] at hdistinct
    have hne := hdistinct i j (by simpa [← h.length] using hi) (by simpa [← h.length] using hj) hij
    rw [List.getElem_range, List.getElem_range] at hne
    exact hne ⟨_, hi', hsame ▸ hj'⟩
  have hrows : List.Forall₂ (fun p rows => (files'.read p).toOption.bind s.output.encoding.decode = some rows)
      ((List.range (slices plan.size records).length).map (chunkPath plan.base))
      ((slices plan.size records).map (·.map s.output.encoding.view)) := by
    rw [List.forall₂_iff_get]
    refine ⟨by simp, fun i hi hi' => ?_⟩
    have hlt : i < (slices plan.size records).length := by simpa using hi
    have hread := h.filed.read h.length hnodup (List.getElem?_eq_getElem hlt)
    simp only [List.get_eq_getElem, List.getElem_map, List.getElem_range, hread]
    rw [Except.toOption, Option.bind_some, h.encoding, Encoding.decode_text]
  rw [FileTree.rows?, mapM_eq_some_iff.2 hrows, Option.map_some, ← List.map_flatten, flatten_slices plan.size_pos]

end

/-! ## The replay -/

section
variable {s : Settings} {files files' : FileTree} {jars output path : String} {timing : Timing} {report : Report}

/-- There are inputs only if everything was accepted. -/
theorem inputs_eq_ok {request : Request} {archives : List Archive}
    (h : inputs s files jars = .ok (request, archives)) :
    ∃ artifacts exclusions, Artifacts.resolve files jars = .ok artifacts ∧
      Exclusions.load files s.analysis.exclusions = .ok exclusions ∧
      Archive.searchList files artifacts s.resolution.sourceArchives = .ok archives ∧
      request = ⟨artifacts, exclusions, s.analysis⟩ := by
  obtain ⟨artifacts, hartifacts, h⟩ := exists_of_bind_eq_ok h
  obtain ⟨exclusions, hexclusions, h⟩ := exists_of_bind_eq_ok h
  obtain ⟨found, hlist, h⟩ := exists_of_bind_eq_ok h
  obtain ⟨rfl, rfl⟩ := Prod.mk.inj (Except.ok.inj h)
  exact ⟨artifacts, exclusions, hartifacts, hexclusions, hlist, rfl⟩

theorem options_of_inputs {request : Request} {archives : List Archive}
    (h : inputs s files jars = .ok (request, archives)) : request.options = s.analysis := by
  obtain ⟨artifacts, exclusions, -, -, -, rfl⟩ := inputs_eq_ok h
  rfl

theorem ofSnapshot_eq_ok {request : Request} {stop : Nat → Bool} {o : Outcome}
    (h : (Engine.ofSnapshot path files request stop).result = .ok o) :
    ∃ snapshot, Snapshot.load files path = .ok snapshot ∧
      o = snapshot.replay request.excludes request.options.nodeLimit? stop := by
  cases hbuild : Engine.ofSnapshot path files request stop with
  | failed cause => simp [hbuild, Build.result] at h
  | crashed => simp [hbuild, Build.result] at h
  | graph o' =>
    obtain ⟨snapshot, hload, -, ho⟩ := ofSnapshot_eq_graph_iff.1 hbuild
    rw [hbuild] at h
    exact ⟨snapshot, hload, (Except.ok.inj h).symm.trans ho⟩

/-- Each stage of a run that succeeds. -/
theorem run_eq_ok {engine : Engine} (h : run s engine timing files jars output = (.ok report, files')) :
    ∃ request archives o summary w, inputs s files jars = .ok (request, archives) ∧
      (engine files request timing.stop).result = .ok o ∧
      write s files archives o.graph output = (.ok (summary, w), files') ∧
      report = ⟨o.completeness, decide (o.completeness = .cancelled) && timing.expired, o.graph.nodeCount, w.stats,
        summary⟩ := by
  unfold run at h
  split at h
  · simp at h
  · next request archives hinputs =>
    split at h
    · simp at h
    · next g completeness hengine =>
      split at h
      · simp at h
      · next summary w t hwrite =>
        obtain ⟨rfl, rfl⟩ := by simpa using h
        exact ⟨request, archives, ⟨g, completeness⟩, summary, w, hinputs, hengine, hwrite, rfl⟩

/-- A run that nobody stops writes the records of the snapshot. -/
theorem run_told (hstop : ∀ n, timing.stop n = false)
    (h : run s (Engine.ofSnapshot path) timing files jars output = (.ok report, files')) :
    ∃ request archives snapshot hs plan t₁ written, plan.base = output ∧
      inputs s files jars = .ok (request, archives) ∧ Snapshot.load files path = .ok snapshot ∧
      report.nodes = (snapshot.keptWithin request.excludes s.analysis.nodeLimit?).length ∧ report.timedOut = false ∧
      Written s files archives hs (snapshot.reference request.excludes s.analysis.nodeLimit? s.resolution hs) report.nodes
        plan t₁ written report.output report.stats files' := by
  obtain ⟨request, archives, o, summary, w, hinputs, hengine, hwrite, rfl⟩ := run_eq_ok h
  obtain ⟨snapshot, hload, rfl⟩ := ofSnapshot_eq_ok hengine
  rw [options_of_inputs hinputs] at hwrite ⊢
  -- Nobody says stop, so the graph holds all that is kept, and its edges are those of the snapshot.
  obtain ⟨cut, hreplayed⟩ := snapshot.exists_replayedTo request.excludes s.analysis.nodeLimit? timing.stop
  have hheld := hreplayed.held hstop
  obtain ⟨hs, records, plan, t₁, written, hbase, rfl, hwritten⟩ := write_told hwrite
  rw [hheld.tell_edges] at hwritten
  refine ⟨request, archives, snapshot, hs, plan, t₁, written, hbase, hinputs, hload, ?_, ?_, hwritten⟩
  · simpa [Graph.nodeCount] using congrArg List.length hheld.nodes
  · have hnot : (snapshot.replay request.excludes s.analysis.nodeLimit? timing.stop).completeness ≠ .cancelled := by
      intro hc
      have hp := (hreplayed.cancelled_iff.1 hc).2
      rw [hstop] at hp
      exact absurd hp (by simp)
    simp [hnot]

/-! ## Nothing is refused -/

/-- A sound graph is written, where the directory of the output can be made and its chunks can be opened. -/
theorem write_ok (archives : List Archive) {g : Graph} {t₁ : FileTree} (hsound : g.Sound)
    (hsize : 0 < s.output.chunkSize.toNat) (hparent : files.makeParent output = (.ok (), t₁))
    (hready : ChunkPlan.Ready ⟨output, s.output.encoding, _, hsize⟩ t₁
      (chunkCount s.output.chunkSize.toNat (g.nodes.toList.flatMap (g.edgesOf s.resolution)).length)) :
    ∃ summary w files', write s files archives g output = (.ok (summary, w), files') := by
  let plan : ChunkPlan := ⟨output, s.output.encoding, _, hsize⟩
  let start := Walk.atStart g archives s.resolution
  have hstart : Walk.start g (.ofArchives archives s.resolution.siteMatch) s.resolution = .ok start :=
    Walk.start_eq_ok_iff.2 ⟨hsound, rfl⟩
  have hplan : ChunkPlan.of output s.output.encoding s.output.chunkSize.toNat = .ok plan := dif_pos hsize
  have hbegin : Chunks.start plan files = (.ok { plan }, t₁) := by simp only [Chunks.start, plan, hparent]
  have hroute : ([] : List Record).length + start.route.length =
      (g.nodes.toList.flatMap (g.edgesOf s.resolution)).length := Nat.zero_add _
  obtain ⟨cs, w, t₂, rs, hdrain, hsame, hstands, hlength⟩ :=
    Chunks.drain_ok (w := start) (.fresh plan) (by rw [hroute]; exact hready)
  obtain ⟨summary, files', hclose⟩ := Chunks.close_ok hstands (by rw [hsame, hlength, hroute]; exact hready)
  refine ⟨summary, w, files', ?_⟩
  simp only [write, hstart, hplan, hbegin, hdrain, hclose]

/-- A run of an engine that gives such a graph succeeds. -/
theorem run_ok {engine : Engine} {request : Request} {archives : List Archive} {o : Outcome} {t₁ : FileTree}
    (hinputs : inputs s files jars = .ok (request, archives)) (hengine : engine files request timing.stop = .graph o)
    (hsound : o.graph.Sound) (hsize : 0 < s.output.chunkSize.toNat) (hparent : files.makeParent output = (.ok (), t₁))
    (hready : ChunkPlan.Ready ⟨output, s.output.encoding, _, hsize⟩ t₁
      (chunkCount s.output.chunkSize.toNat (o.graph.nodes.toList.flatMap (o.graph.edgesOf s.resolution)).length)) :
    ∃ report files', run s engine timing files jars output = (.ok report, files') := by
  obtain ⟨summary, w, files', hwrite⟩ := write_ok archives hsound hsize hparent hready
  let timedOut := decide (o.completeness = .cancelled) && timing.expired
  refine ⟨⟨o.completeness, timedOut, o.graph.nodeCount, w.stats, summary⟩, files', ?_⟩
  simp only [run, hinputs, hengine, Build.result, hwrite, timedOut]

end

end Extraction

/-! ## Main theorem -/

/-- A run that replays a snapshot and is not told to stop writes the records of one pass over the snapshot, as long as no
two chunks are the same file: they can be read from the files in order, and the report counts them, and the nodes that
were kept, in every way alike. What the records say of source lines is what the archives held at some moment of the run,
at which nothing had been changed but directories made and chunks written. -/
theorem run_refines_reference {s : Settings} {path : String} {timing : Timing} {files files' : FileTree}
    {jars output : String} {report : Report} (hstop : ∀ n, timing.stop n = false)
    (hrun : Extraction.run s (Engine.ofSnapshot path) timing files jars output = (.ok report, files'))
    (hdistinct : report.output.files.Pairwise fun p q => ¬files'.SameFile p q) :
    ∃ request archives snapshot hs records, Extraction.inputs s files jars = .ok (request, archives) ∧
      Snapshot.load files path = .ok snapshot ∧
      List.Forall₂ (Holding.Seen (files.Amid report.output.files)) archives hs ∧
      records = snapshot.reference request.excludes s.analysis.nodeLimit? s.resolution hs ∧
      files'.rows? s.output.encoding report.output.files = some (records.map s.output.encoding.view) ∧
      report.output.records = records.length ∧ report.output.chunkRecords.sum = records.length ∧
      report.stats.edges = records.length ∧
      report.nodes = (snapshot.keptWithin request.excludes s.analysis.nodeLimit?).length ∧
      report.stats.nodesVisited + report.stats.syntheticSkipped = report.nodes ∧ report.timedOut = false := by
  obtain ⟨request, archives, snapshot, hs, plan, t₁, written, -, hinputs, hload, hnodes, htime, h⟩ :=
    Extraction.run_told hstop hrun
  refine ⟨request, archives, snapshot, hs, _, hinputs, hload, h.held, rfl, h.rows? hdistinct, ?_, ?_, h.edges, hnodes,
    h.nodes, htime⟩
  · rw [h.summary_eq, Summary.ofChunks, flatten_slices plan.size_pos]
  · rw [h.summary_eq, Summary.ofChunks, ← List.length_flatten, flatten_slices plan.size_pos]

/-! ## Two runs -/

/-- A snapshot of one node that calls itself from two call sites. -/
def twoCallsText : String :=
  "[\"zero-cfa\",1,[],[[0,[\"LA\",\"f\",\"()V\"]]],[[7,0,null,[[\"x\",1,[7]],[\"y\",2,[7]]]]]]"

def twoCalls : Snapshot where
  policy := .zeroCfa
  methods := [{ id := ⟨0⟩, signature := ⟨"LA", "f", "()V"⟩ }]
  nodes := [{ id := ⟨7⟩, method := ⟨0⟩, sites := [⟨"x", 1, [⟨7⟩]⟩, ⟨"y", 2, [⟨7⟩]⟩] }]

/-- An artifact, the snapshot and whatever else there is to be. -/
def twoCallsTree (more : List (Location × Entry)) : FileTree :=
  ⟨(["a"], .file emptyZip) :: (["g"], .file twoCallsText.toUTF8) :: more, []⟩

/-- Call sites by their texts, and one record to a file. -/
def onePerFile : Settings := { resolution := { sourceNumbers := false }, output := { chunkSize := 1 } }

def twoCallsRequest : Request := ⟨["/a"], [], {}⟩

/-- The inputs of a run whose artifact is a zip file without members. -/
theorem inputs_emptyZip {s : Settings} {t : FileTree} {exclusions : List Exclusion}
    (hzip : t.get? ["a"] = some (.file emptyZip)) (hexclusions : Exclusions.load t s.analysis.exclusions = .ok exclusions)
    (harchives : s.resolution.sourceArchives = []) :
    Extraction.inputs s t "/a" = .ok (⟨["/a"], exclusions, s.analysis⟩, [.zip "/a"]) := by
  have hroot : FileTree.AtRoot "/a" "a" := by decide
  have hfind : t.find "/a" = .ok (["a"], .file emptyZip) := hroot.find hzip (by simp)
  have hdirectory : t.isDirectory "/a" = false := by rw [FileTree.isDirectory, hfind]
  have hfile : t.isFile "/a" = true := by rw [FileTree.isFile, hfind]
  have hcheck : Archive.checkZip t "/a" = .ok () := by rw [Archive.checkZip, openZip_emptyZip hfind]
  have hparts : Artifacts.parts "/a" = ["/a"] := by decide
  have hartifacts : Artifacts.resolve t "/a" = .ok ["/a"] := by
    simp [Artifacts.resolve, Artifacts.named, hparts, hdirectory, Artifacts.checkAll, Artifacts.check, hfile, hcheck,
      Except.map]
  have hlist : Archive.searchList t ["/a"] [] = .ok [.zip "/a"] := by
    have harchive : Archive.ofPath t "/a" = .ok (.zip "/a") := by
      simp only [Archive.ofPath, hdirectory, hfile, hcheck, if_true]
      rfl
    simp only [Archive.searchList, List.append_nil, List.mapM_cons, List.mapM_nil, harchive]
    rfl
  simp only [Extraction.inputs, hartifacts, hexclusions, harchives, hlist, bind, Except.bind, pure, Except.pure]

theorem inputs_twoCalls (more : List (Location × Entry)) :
    Extraction.inputs onePerFile (twoCallsTree more) "/a" = .ok (twoCallsRequest, [.zip "/a"]) :=
  inputs_emptyZip (by simp [FileTree.get?, twoCallsTree]) rfl rfl

theorem load_twoCalls (more : List (Location × Entry)) : Snapshot.load (twoCallsTree more) "/g" = .ok twoCalls :=
  Snapshot.load_atRoot "g" twoCallsText (by decide) (by simp [FileTree.get?, twoCallsTree, List.lookup_cons])
    (by cbv)

/-- The rows of the two edges. -/
def twoRows : List Row := [.object "A.f()V" "x" "A.f()V" [], .object "A.f()V" "y" "A.f()V" []]

theorem reference_twoCalls (hs : List Holding) :
    (twoCalls.reference twoCallsRequest.excludes onePerFile.analysis.nodeLimit? onePerFile.resolution hs).map
      Encoding.json.view = twoRows := rfl

/-- Where both chunks can be opened, each edge is written to one of them. -/
theorem run_twoCalls {more : List (Location × Entry)} {l₀ l₁ : Location}
    (h₀ : (twoCallsTree more).writable "/o" = .ok l₀) (h₁ : (twoCallsTree more).writable "/o0" = .ok l₁)
    (hfull : (twoCallsTree more).get? l₀ ≠ some .full ∧ (twoCallsTree more).get? l₁ ≠ some .full) :
    ∃ report files' r₀ r₁,
      Extraction.run onePerFile (Engine.ofSnapshot "/g") {} (twoCallsTree more) "/a" "/o" = (.ok report, files') ∧
      report.output.files = ["/o", "/o0"] ∧ [r₀, r₁].map Encoding.json.view = twoRows ∧
      Filed ⟨"/o", .json, 1, by decide⟩ (twoCallsTree more) [[r₀], [r₁]] [l₀, l₁] files' := by
  have hroot : FileTree.AtRoot "/o" "o" := by decide
  have hparent := hroot.makeParent (twoCallsTree more)
  have hready : ChunkPlan.Ready ⟨"/o", .json, 1, by decide⟩ (twoCallsTree more) (chunkCount 1 2) := by
    have hcount : chunkCount 1 2 = 2 := by decide
    intro k hk
    obtain rfl | rfl : k = 0 ∨ k = 1 := by omega
    · exact ⟨l₀, h₀, hfull.1⟩
    · exact ⟨l₁, h₁, hfull.2⟩
  have hfit : twoCalls.mismatch? {} = none := by decide
  let o := twoCalls.replay twoCallsRequest.excludes none fun _ => false
  have hengine : Engine.ofSnapshot "/g" (twoCallsTree more) twoCallsRequest ({} : Timing).stop = .graph o := by
    simp only [Engine.ofSnapshot, load_twoCalls]
    rw [show twoCalls.mismatch? twoCallsRequest.options = none from hfit]
    rfl
  have hsound : o.graph.Sound := twoCalls.replay_sound _ _ _ (by decide) (by decide) (by decide)
  have hedges : (o.graph.nodes.toList.flatMap (o.graph.edgesOf onePerFile.resolution)).length = 2 := by
    obtain ⟨cut, h⟩ := twoCalls.exists_replayedTo twoCallsRequest.excludes none fun _ => false
    rw [hsound.length_edges rfl, Graph.edgeCount, (h.held fun _ => rfl).nodes]
    decide
  obtain ⟨report, files', hrun⟩ := Extraction.run_ok (inputs_twoCalls more) hengine hsound (by decide) hparent
    (by rw [hedges]; exact hready)
  obtain ⟨request, archives, snapshot, hs, plan, t₁, written, hbase, hinputs, hload, -, -, h⟩ :=
    Extraction.run_told (fun _ => rfl) hrun
  obtain ⟨rfl, rfl⟩ := Prod.mk.inj (Except.ok.inj ((inputs_twoCalls more).symm.trans hinputs))
  obtain rfl := Except.ok.inj ((load_twoCalls more).symm.trans hload)
  obtain rfl : plan = ⟨"/o", .json, 1, by decide⟩ := by
    cases plan
    obtain rfl := hbase
    obtain rfl := h.encoding
    obtain rfl := h.size
    rfl
  obtain rfl : t₁ = twoCallsTree more := by simpa using (h.parent.symm.trans hparent)
  have hrows := reference_twoCalls hs
  obtain ⟨r₀, r₁, hrecords⟩ := List.length_eq_two.1 ((List.length_map _).symm.trans (congrArg List.length hrows))
  have hslices : slices 1 [r₀, r₁] = [[r₀], [r₁]] := by
    simp [slices, slice, chunkCount, List.range_succ]
  have hpaths : chunkPath "/o" 0 = "/o" ∧ chunkPath "/o" 1 = "/o0" := by decide
  rw [hrecords] at h hrows
  have hfiled := h.filed
  have hlength := h.length
  have hsummary := h.summary_eq
  rw [hslices] at hfiled hlength hsummary
  obtain ⟨l₀', l₁', rfl⟩ := List.length_eq_two.1 hlength
  -- The chunks lie where they could be opened before anything was written.
  have hplace₀ := hfiled.places 0 l₀' rfl
  have hplace₁ := hfiled.places 1 l₁' rfl
  obtain rfl : l₀ = l₀' := Except.ok.inj ((hfiled.wrote.writable h₀).symm.trans (hpaths.1 ▸ hplace₀))
  obtain rfl : l₁ = l₁' := Except.ok.inj ((hfiled.wrote.writable h₁).symm.trans (hpaths.2 ▸ hplace₁))
  refine ⟨report, files', r₀, r₁, hrun, ?_, hrows, hfiled⟩
  rw [hsummary, Summary.ofChunks]
  simp [List.range_succ, hpaths]

theorem get?_twoCalls {more : List (Location × Entry)} {l : Location} (hl : l ≠ [] ∧ l ≠ ["a"] ∧ l ≠ ["g"]) :
    (twoCallsTree more).get? l = more.lookup l := by
  obtain ⟨hroot, ha, hg⟩ := hl
  simp [twoCallsTree, FileTree.get?, List.lookup_cons, hroot, beq_eq_false_iff_ne.2 ha, beq_eq_false_iff_ne.2 hg]

/-- Without a link both edges can be read back. -/
theorem run_onePerFile : ∃ report files',
    Extraction.run onePerFile (Engine.ofSnapshot "/g") {} (twoCallsTree []) "/a" "/o" = (.ok report, files') ∧
      files'.rows? .json ["/o", "/o0"] = some twoRows := by
  have hroots : FileTree.AtRoot "/o" "o" ∧ FileTree.AtRoot "/o0" "o0" := by decide
  have hnone₀ : (twoCallsTree []).get? ["o"] = none := get?_twoCalls (by decide)
  have hnone₁ : (twoCallsTree []).get? ["o0"] = none := get?_twoCalls (by decide)
  have h₀ := hroots.1.writable (.inl hnone₀)
  have h₁ := hroots.2.writable (.inl hnone₁)
  obtain ⟨report, files', r₀, r₁, hrun, hfiles, hrows, hfiled⟩ := run_twoCalls h₀ h₁ (by simp [hnone₀, hnone₁])
  have hdistinct : report.output.files.Pairwise fun p q => ¬files'.SameFile p q := by
    rw [hfiles, List.pairwise_pair]
    rintro ⟨l, hl₀, hl₁⟩
    obtain rfl : ["o"] = l := Except.ok.inj ((hfiled.wrote.writable h₀).symm.trans hl₀)
    exact absurd ((hfiled.wrote.writable h₁).symm.trans hl₁) (by simp)
  obtain ⟨request, archives, snapshot, hs, records, hinputs, hload, -, rfl, hread, -⟩ :=
    run_refines_reference (fun _ => rfl) hrun hdistinct
  obtain ⟨rfl, rfl⟩ := Prod.mk.inj (Except.ok.inj ((inputs_twoCalls []).symm.trans hinputs))
  obtain rfl := Except.ok.inj ((load_twoCalls []).symm.trans hload)
  rw [hfiles] at hread
  exact ⟨report, files', hrun, hread.trans (congrArg some (reference_twoCalls hs))⟩

/-- The path of the second chunk is a link to the first. -/
def linkedTree : FileTree := twoCallsTree [(["o0"], .link "o")]

/-- Where the second chunk is the first file as well, only the second edge is left, twice. -/
theorem run_collides : ∃ report files',
    Extraction.run onePerFile (Engine.ofSnapshot "/g") {} linkedTree "/a" "/o" = (.ok report, files') ∧
      ∀ request archives snapshot hs, Extraction.inputs onePerFile linkedTree "/a" = .ok (request, archives) →
      Snapshot.load linkedTree "/g" = .ok snapshot →
      files'.rows? .json report.output.files ≠
        some ((snapshot.reference request.excludes onePerFile.analysis.nodeLimit? onePerFile.resolution hs).map
          Encoding.json.view) := by
  have hroots : FileTree.AtRoot "/o" "o" ∧ FileTree.AtRoot "/o0" "o0" := by decide
  have hnone : linkedTree.get? ["o"] = none := get?_twoCalls (by decide)
  have hlink : linkedTree.get? ["o0"] = some (.link "o") := get?_twoCalls (by decide)
  have h₀ : linkedTree.writable "/o" = .ok ["o"] := hroots.1.writable (.inl hnone)
  have h₁ : linkedTree.writable "/o0" = .ok ["o"] := hroots.2.writable_link hlink (by decide) hnone
  have hfull : linkedTree.get? ["o"] ≠ some .full := by simp [hnone]
  obtain ⟨report, files', r₀, r₁, hrun, hfiles, hrows, hfiled⟩ := run_twoCalls h₀ h₁ ⟨hfull, hfull⟩
  refine ⟨report, files', hrun, ?_⟩
  intro request archives snapshot hs hinputs hload
  obtain ⟨rfl, rfl⟩ := Prod.mk.inj (Except.ok.inj ((inputs_twoCalls _).symm.trans hinputs))
  obtain rfl := Except.ok.inj ((load_twoCalls _).symm.trans hload)
  have hlast : ∀ j : Nat, 1 < j → [["o"], ["o"]][j]? ≠ some ["o"] := by
    intro j hj
    rw [List.getElem?_eq_none (Nat.succ_le_of_lt hj)]
    simp
  have hcontent := hfiled.content 1 [r₁] ["o"] rfl rfl hlast
  have hread₀ := FileTree.read_of_writable (hfiled.wrote.writable h₀) hcontent
  have hread₁ := FileTree.read_of_writable (hfiled.wrote.writable h₁) hcontent
  have hboth : files'.rows? .json ["/o", "/o0"] = some [Encoding.json.view r₁, Encoding.json.view r₁] := by
    have hdecode := Encoding.json.decode_text [r₁]
    have hrow {p : String} (h : files'.read p = .ok (Encoding.json.text [r₁]).toUTF8) :
        (files'.read p).toOption.bind Encoding.json.decode = some [Encoding.json.view r₁] := by
      rw [h, Except.toOption, Option.bind_some, hdecode]
      rfl
    have hrows : List.Forall₂ (fun p rows => (files'.read p).toOption.bind Encoding.json.decode = some rows)
        ["/o", "/o0"] [[Encoding.json.view r₁], [Encoding.json.view r₁]] :=
      .cons (hrow hread₀) (.cons (hrow hread₁) .nil)
    rw [FileTree.rows?, mapM_eq_some_iff.2 hrows]
    rfl
  have hview : Encoding.json.view r₁ = .object "A.f()V" "y" "A.f()V" [] := by
    simpa [twoRows] using (List.cons.inj (List.cons.inj hrows).2).1
  rw [hfiles, hboth, hview]
  have hreference := reference_twoCalls hs
  intro hsame
  have hrows' := (Option.some.inj hsame).trans hreference
  simp [twoRows] at hrows'

end CallGraph
