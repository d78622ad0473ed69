import CallGraph.Proofs.Breakdown
import CallGraph.Proofs.Extraction
/-!
# What a run leaves behind

An engine is called only once all inputs were accepted, and nothing is written before its graph has turned out to be sound.
So a run that was set up wrongly, or that gets no sound graph, leaves the files as they were; any other changes only the
chunks it came to, and makes directories on the way to them: `run_footprint`.
-/

namespace CallGraph

/-- `t'` is `t` but for the files that the paths lead to, and for directories on the way to `output` that were missing. -/
structure FileTree.Touched (output : String) (paths : List String) (t t' : FileTree) : Prop where
  home : t'.home = t.home
  places : ∀ l, t'.get? l = t.get? l ∨ (∃ p ∈ paths, t'.writable p = .ok l) ∨ t.get? l = none ∧ t'.Above output l

theorem FileTree.Touched.refl (output : String) (paths : List String) (t : FileTree) : Touched output paths t t :=
  ⟨rfl, fun _ => .inl rfl⟩

/-! ## The writing -/

theorem makeParent_touched (t : FileTree) (output : String) :
    FileTree.Touched output [] t (t.makeParent output).2 where
  home := (FileTree.makeParent_furnished t output).home
  places l := ((t.makeParent_madeAlong output).above_parent l).imp_right .inr

/-- Chunks lie where their paths lead, and nothing else was written since their directory was made. -/
theorem Filed.touched {plan : ChunkPlan} {t t₁ t' : FileTree} {result : Except FileFault Unit}
    {chunks : List (List Record)} {written : List Location} {count : Nat}
    (hparent : t.makeParent plan.base = (result, t₁)) (h : Filed plan t₁ chunks written t') (hle : written.length ≤ count) :
    FileTree.Touched plan.base ((List.range count).map (chunkPath plan.base)) t t' := by
  have hmade := makeParent_touched t plan.base
  rw [hparent] at hmade
  refine ⟨h.wrote.home.trans hmade.home, fun l => ?_⟩
  by_cases hl : l ∈ written
  · obtain ⟨k, hk, rfl⟩ := List.getElem_of_mem hl
    have hpath : chunkPath plan.base k ∈ (List.range count).map (chunkPath plan.base) :=
      List.mem_map.2 ⟨k, List.mem_range.2 (by omega), rfl⟩
    exact .inr (.inl ⟨_, hpath, h.places k _ (List.getElem?_eq_getElem hk)⟩)
  · rw [h.wrote.elsewhere l hl]
    rcases hmade.places l with hsame | ⟨p, hp, -⟩ | ⟨hnone, habove⟩
    · exact .inl hsame
    · simp at hp
    · exact .inr (.inr ⟨hnone, h.wrote.keeps.above habove⟩)

/-- To write records touches the chunks in the summary; if it fails, those up to the one that the failure names. -/
theorem writeAll_touched (plan : ChunkPlan) (rs : List Record) (t : FileTree) :
    match plan.writeAll t rs with
    | (.ok summary, t') => FileTree.Touched plan.base summary.files t t'
    | (.error failure, t') =>
      (∃ fault, failure = .files fault ∧ FileTree.Touched plan.base [] t t') ∨
        ∃ k p fault, failure = .chunk k p fault ∧
          FileTree.Touched plan.base ((List.range (k + 1)).map (chunkPath plan.base)) t t' := by
  rcases hparent : t.makeParent plan.base with ⟨fault | ⟨⟨⟩⟩, t₁⟩
  · have hmade := makeParent_touched t plan.base
    rw [hparent] at hmade
    simp only [ChunkPlan.writeAll, Chunks.start, hparent]
    exact .inl ⟨fault, rfl, hmade⟩
  · split
    · next summary t' hrun =>
      simp only [ChunkPlan.writeAll, Chunks.start, hparent] at hrun
      rcases hadd : Chunks.addAll { plan } t₁ rs with ⟨failure | cs, t₂⟩
      · simp [hadd] at hrun
      · simp only [hadd] at hrun
        obtain ⟨hplan, hstands⟩ := Chunks.addAll_stands rs (.fresh plan) hadd
        have hplan : cs.plan = plan := hplan
        obtain ⟨written, hlength, hfiled, hsummary⟩ := Chunks.close_filed hstands hrun
        rw [hplan] at hlength hfiled hsummary
        rw [hsummary, Summary.ofChunks]
        exact hfiled.touched hparent (Nat.le_of_eq hlength)
    · next failure t' hrun =>
      -- A file tree is a disk without mishaps, of which it is known where writing breaks off.
      obtain ⟨faults, hdisk⟩ := Disk.makeParent_calm t [] plan.base
      obtain ⟨hresult, htree⟩ := Disk.writeAll_calm plan rs t
      rw [hparent] at hdisk
      rw [hrun] at hresult htree
      obtain ⟨chunks, hbroken⟩ := Disk.writeAll_broken hdisk (Prod.ext hresult rfl)
      obtain ⟨fault, hfailure, -⟩ := hbroken.fault
      obtain ⟨written, -, hle, hfiled⟩ := hbroken.filed
      rw [show (Disk.writeAll plan rs { tree := t }).2.tree = t' from htree] at hfiled
      exact .inr ⟨chunks.length, _, fault, hfailure, hfiled.touched hparent hle⟩

namespace Chunks

variable {cs : Chunks} {t t' : FileTree} {w : Walk} {failure : Failure}

/-- Where the writing of a walk breaks off, so does that of its records up to there. -/
theorem drain_eq_error (h : cs.drain t w = (.error failure, t')) : ∃ rs, cs.addAll t rs = (.error failure, t') := by
  generalize hr : w.route = es
  induction es generalizing cs t w with
  | nil =>
    rw [drain_of_none (Walk.next_of_route_nil t hr).1] at h
    simp at h
  | cons e rest ih =>
    obtain ⟨r, w₁, hnext, -, hroute, -⟩ := Walk.next_edge t hr
    rw [drain_of_some hnext] at h
    rcases hadd : cs.add t r with ⟨failure' | cs₁, t₂⟩ <;> simp only [hadd] at h
    · obtain ⟨rfl, rfl⟩ : failure' = failure ∧ t₂ = t' := by simpa using h
      exact ⟨[r], by simp only [addAll, hadd]⟩
    · obtain ⟨rs, hall⟩ := ih h hroute
      exact ⟨r :: rs, by simp only [addAll, hadd, hall]⟩

end Chunks

namespace Extraction

variable (s : Settings) (engine : Engine) (timing : Timing) (files : FileTree) (jars output : String)

/-- Either a graph is refused, with the files as they were, or some records are written for it. -/
theorem write_cases (archives : List Archive) (g : Graph) :
    (∃ cause, write s files archives g output = (.error (.noGraph cause), files)) ∨
      (∃ cause, write s files archives g output = (.error (.misconfigured cause), files)) ∨
      ∃ (plan : ChunkPlan) (rs : List Record), plan.base = output ∧
        plan.writeAll files rs = ((write s files archives g output).1.map Prod.fst, (write s files archives g output).2) := by
  unfold write
  cases hstart : Walk.start g (.ofArchives archives s.resolution.siteMatch) s.resolution with
  | error cause => exact .inl ⟨cause, rfl⟩
  | ok walk =>
    cases hplan : ChunkPlan.of output s.output.encoding s.output.chunkSize.toNat with
    | error failure =>
      unfold ChunkPlan.of at hplan
      split at hplan
      · simp at hplan
      · obtain rfl := Except.error.inj hplan
        exact .inr (.inl ⟨_, rfl⟩)
    | ok plan =>
      obtain ⟨hbase, -⟩ := ChunkPlan.of_eq_ok hplan
      refine .inr (.inr ⟨plan, ?_⟩)
      dsimp only
      rcases hbegin : Chunks.start plan files with ⟨failure | cs, t₁⟩
      · exact ⟨[], hbase, by simp only [ChunkPlan.writeAll, hbegin]; rfl⟩
      · dsimp only
        rcases hdrain : cs.drain t₁ walk with ⟨failure | ⟨cs', w⟩, t₂⟩
        · obtain ⟨rs, hall⟩ := Chunks.drain_eq_error hdrain
          exact ⟨rs, hbase, by simp only [ChunkPlan.writeAll, hbegin, hall]; rfl⟩
        · obtain ⟨met, -, hall, -⟩ := Chunks.drain_eq_ok hdrain
          refine ⟨(walk.drain met).1, hbase, ?_⟩
          simp only [ChunkPlan.writeAll, hbegin, hall]
          rcases cs'.close t₂ with ⟨failure | summary, t₃⟩ <;> rfl

/-- How a run that ends like this may have changed the files: not at all if it was set up wrongly or there is no sound
graph. If the output fails, up to the chunk that the failure names; else at the files in the report. -/
def Leaves (files : FileTree) (output : String) : Except Failure Report × FileTree → Prop
  | (.error (.misconfigured _), files') => files' = files
  | (.error (.noGraph _), files') => files' = files
  | (.error (.files _), files') => files.Touched output [] files'
  | (.error (.chunk k _ _), files') => files.Touched output ((List.range (k + 1)).map (chunkPath output)) files'
  | (.ok report, files') => files.Touched output report.output.files files'

theorem leaves_unchanged (failure : Failure) : Leaves files output (.error failure, files) := by
  cases failure with
  | misconfigured cause => exact rfl
  | noGraph cause => exact rfl
  | chunk k p cause => exact .refl ..
  | files cause => exact .refl ..

theorem run_leaves : Leaves files output (run s engine timing files jars output) := by
  unfold run
  rcases inputs s files jars with failure | ⟨request, archives⟩
  · exact leaves_unchanged files output failure
  · dsimp only
    rcases (engine files request timing.stop).result with failure | ⟨g, completeness⟩
    · exact leaves_unchanged files output failure
    · dsimp only
      rcases write_cases s files output archives g with ⟨cause, h⟩ | ⟨cause, h⟩ | ⟨plan, rs, rfl, hall⟩
      · rw [h]
        exact leaves_unchanged files output _
      · rw [h]
        exact leaves_unchanged files output _
      · have htouched := writeAll_touched plan rs files
        rw [hall] at htouched
        generalize write s files archives g plan.base = written at htouched ⊢
        obtain ⟨failure | ⟨summary, w⟩, files'⟩ := written
        · rcases htouched with ⟨fault, rfl, h⟩ | ⟨k, p, fault, rfl, h⟩
          · exact h
          · exact h
        · exact htouched

/-! ## Calls of the engine -/

/-- A run whose engine works in a monad. -/
def runBy {m : Type → Type} [Monad m] (engine : FileTree → Request → (Nat → Bool) → m Build) :
    m (Except Failure Report × FileTree) :=
  match inputs s files jars with
  | .error failure => pure (.error failure, files)
  | .ok (request, archives) => do
    match (← engine files request timing.stop).result with
    | .error failure => pure (.error failure, files)
    | .ok ⟨g, completeness⟩ =>
      match write s files archives g output with
      | (.error failure, files) => pure (.error failure, files)
      | (.ok (summary, walk), files) =>
        let timedOut := decide (completeness = .cancelled) && timing.expired
        pure (.ok ⟨completeness, timedOut, g.nodeCount, walk.stats, summary⟩, files)

/-- Writes down each call: the files at the time, and the request. -/
def logged (engine : Engine) (files : FileTree) (request : Request) (stop : Nat → Bool) :
    StateM (List (FileTree × Request)) Build :=
  fun calls => (engine files request stop, calls ++ [(files, request)])

/-- With its calls written down an engine gives the run it gave, and is called for the inputs, if there are any. -/
theorem runBy_logged (calls : List (FileTree × Request)) :
    (runBy s timing files jars output (logged engine)).run calls =
      (run s engine timing files jars output,
        calls ++ match inputs s files jars with
          | .error _ => []
          | .ok (request, _) => [(files, request)]) := by
  unfold runBy run
  rcases inputs s files jars with failure | ⟨request, archives⟩
  · rw [List.append_nil]
    rfl
  · have hcall : (logged engine files request timing.stop).run calls =
        (engine files request timing.stop, calls ++ [(files, request)]) := rfl
    dsimp only
    rw [StateT.run_bind, hcall]
    dsimp only [bind]
    rcases (engine files request timing.stop).result with failure | ⟨g, completeness⟩
    · rfl
    · dsimp only
      rcases write s files archives g output with ⟨failure | ⟨summary, w⟩, files'⟩ <;> rfl

end Extraction

/-! ## Main theorem -/

theorem forall₂_of_mapM {ε α β : Type} {f : α → Except ε β} {xs : List α} {ys : List β} (h : xs.mapM f = .ok ys) :
    List.Forall₂ (fun x y => f x = .ok y) xs ys := by
  induction xs generalizing ys with
  | nil =>
    obtain rfl : [] = ys := Except.ok.inj h
    exact .nil
  | cons x xs ih =>
    rw [List.mapM_cons] at h
    obtain ⟨y, hy, h⟩ := exists_of_bind_eq_ok h
    obtain ⟨rest, hrest, h⟩ := exists_of_bind_eq_ok h
    obtain rfl : y :: rest = ys := Except.ok.inj h
    exact .cons hy (ih hrest)

/-- Whatever the engine does, it is called at most once, with the files as they were, and only once the artifacts, the
exclusions and all archives were accepted. Without a sound graph the files stay as they were; nothing is changed but the
chunks that were come to, and directories on the way to them that were missing. -/
theorem run_footprint (s : Settings) (engine : Engine) (timing : Timing) (files : FileTree) (jars output : String) :
    (∃ calls, (Extraction.runBy s timing files jars output (Extraction.logged engine)).run [] =
        (Extraction.run s engine timing files jars output, calls) ∧
      (calls = [] ∨ ∃ artifacts exclusions archives, calls = [(files, ⟨artifacts, exclusions, s.analysis⟩)] ∧
        Artifacts.resolve files jars = .ok artifacts ∧
        Exclusions.load files s.analysis.exclusions = .ok exclusions ∧
        List.Forall₂ (fun p archive => Archive.ofPath files p = .ok archive)
          (artifacts ++ s.resolution.sourceArchives) archives)) ∧
      Extraction.Leaves files output (Extraction.run s engine timing files jars output) := by
  refine ⟨⟨_, Extraction.runBy_logged s engine timing files jars output [], ?_⟩,
    Extraction.run_leaves s engine timing files jars output⟩
  rw [List.nil_append]
  cases hinputs : Extraction.inputs s files jars with
  | error failure => exact .inl rfl
  | ok x =>
    obtain ⟨request, archives⟩ := x
    obtain ⟨artifacts, exclusions, hresolve, hload, hlist, rfl⟩ := Extraction.inputs_eq_ok hinputs
    exact .inr ⟨artifacts, exclusions, archives, rfl, hresolve, hload, forall₂_of_mapM hlist⟩

end CallGraph
