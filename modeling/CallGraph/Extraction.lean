import CallGraph.Engine
import CallGraph.Output.Chunks
/-!
# Extraction

A whole run: the inputs are looked up, an engine builds the graph, and a walk over its edges is written out in chunks.
No file is touched before there is a sound graph. A graph cut short is written like any other; the report says so.
-/

namespace CallGraph

/-- When a run is told to stop: the answers its engine gets, and whether the time was up when the engine was done. -/
structure Timing where
  stop : Nat → Bool := fun _ => false
  expired : Bool := false

/-- What a run did. -/
structure Report where
  completeness : Completeness
  /-- whether the graph was cut short because the time was up -/
  timedOut : Bool
  nodes : Nat
  stats : WalkStats
  output : Summary

def Report.isPartial (r : Report) : Bool := r.completeness.reason?.isSome

namespace Extraction

/-- The request to the engine, and the archives with the sources. -/
def inputs (s : Settings) (files : FileTree) (jars : String) : Except Failure (Request × List Archive) := do
  let artifacts ← Artifacts.resolve files jars
  let exclusions ← Exclusions.load files s.analysis.exclusions
  let archives ← Archive.searchList files artifacts s.resolution.sourceArchives
  pure (⟨artifacts, exclusions, s.analysis⟩, archives)

/-- Writes the edges of a graph; the walk as it is at the end comes with the summary. -/
def write (s : Settings) (files : FileTree) (archives : List Archive) (g : Graph) (output : String) :
    Except Failure (Summary × Walk) × FileTree :=
  match Walk.start g (.ofArchives archives s.resolution.siteMatch) s.resolution with
  | .error fault => (.error (.noGraph fault), files)
  | .ok walk =>
    match ChunkPlan.of output s.output.encoding s.output.chunkSize.toNat with
    | .error failure => (.error failure, files)
    | .ok plan =>
      match Chunks.start plan files with
      | (.error failure, files) => (.error failure, files)
      | (.ok chunks, files) =>
        match chunks.drain files walk with
        | (.error failure, files) => (.error failure, files)
        | (.ok (chunks, walk), files) =>
          match chunks.close files with
          | (.error failure, files) => (.error failure, files)
          | (.ok summary, files) => (.ok (summary, walk), files)

/-- Extracts the call graph of the artifacts that `jars` lists to `output`; also gives the files afterwards. -/
def run (s : Settings) (engine : Engine) (timing : Timing) (files : FileTree) (jars output : String) :
    Except Failure Report × FileTree :=
  match inputs s files jars with
  | .error failure => (.error failure, files)
  | .ok (request, archives) =>
    match (engine files request timing.stop).result with
    | .error failure => (.error failure, files)
    | .ok ⟨g, completeness⟩ =>
      match write s files archives g output with
      | (.error failure, files) => (.error failure, files)
      | (.ok (summary, walk), files) =>
        let timedOut := decide (completeness = .cancelled) && timing.expired
        (.ok ⟨completeness, timedOut, g.nodeCount, walk.stats, summary⟩, files)

end Extraction

end CallGraph
