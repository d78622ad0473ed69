import CallGraph.Output.Rows
import CallGraph.Output.Sink
/-!
# Chunks

Records are written to a series of files, at most `size` to each, in the order in which they come. A file is finished
only when a record comes that it has no room for, or at the end; so the last file is never empty unless there are no
records at all, and then it is the only one.
-/

namespace CallGraph

/-- The path of chunk `index` of an output at `base`. -/
def chunkPath (base : String) (index : Nat) : String :=
  if index = 0 then base else base ++ toString (index - 1)

/-- Where records go, how they are encoded, and how many a file holds. -/
structure ChunkPlan where
  base : String
  encoding : Encoding
  size : Nat
  size_pos : 0 < size

def ChunkPlan.of (base : String) (encoding : Encoding) (size : Nat) : Except Failure ChunkPlan :=
  if h : 0 < size then .ok ⟨base, encoding, size, h⟩ else .error (.misconfigured .zeroWriterChunkSize)

/-- The files written, in order, with the number of records in each. -/
structure Summary where
  files : List String := []
  chunkRecords : List Nat := []
  records : Nat := 0
  deriving DecidableEq, Repr, Inhabited

/-- A chunk being written. -/
structure OpenChunk where
  index : Nat
  path : String
  location : Location
  pending : ByteArray
  /-- the number of records in it -/
  count : Nat

namespace OpenChunk

def failure (c : OpenChunk) (cause : FileFault) : Failure := .chunk c.index c.path cause

/-- Writes pieces to the chunk. -/
def put (c : OpenChunk) (t : FileTree) (pieces : List String) : Except Failure OpenChunk × FileTree :=
  match Sink.writeAll pieces (⟨t, c.location, c.pending⟩ : OpenFile) with
  | (.error cause, f) => (.error (c.failure cause), f.tree)
  | (.ok (), f) => (.ok { c with pending := f.pending }, f.tree)

/-- Puts what is pending on the disk. -/
def flush (c : OpenChunk) (t : FileTree) : Except Failure Unit × FileTree :=
  match (⟨t, c.location, c.pending⟩ : OpenFile).flush with
  | (.error cause, f) => (.error (c.failure cause), f.tree)
  | (.ok (), f) => (.ok (), f.tree)

end OpenChunk

namespace ChunkPlan

/-- Begins chunk `index`. -/
def openChunk (plan : ChunkPlan) (t : FileTree) (index : Nat) : Except Failure OpenChunk × FileTree :=
  let path := chunkPath plan.base index
  match t.create path with
  | .error cause => (.error (.chunk index path cause), t)
  | .ok (location, t) => ({ index, path, location, pending := .empty, count := 0 } : OpenChunk).put t plan.encoding.opening

/-- Ends a chunk. -/
def finish (plan : ChunkPlan) (t : FileTree) (c : OpenChunk) : Except Failure Unit × FileTree :=
  match c.put t plan.encoding.closing with
  | (.error failure, t) => (.error failure, t)
  | (.ok c, t) => c.flush t

end ChunkPlan

/-- The writing of a series of chunks: those finished, and the one that is open. -/
structure Chunks where
  plan : ChunkPlan
  done : Summary := {}
  current : Option OpenChunk := none

namespace Chunks

/-- The summary once chunk `c` is finished. -/
def summaryWith (cs : Chunks) (c : OpenChunk) : Summary :=
  { files := cs.done.files ++ [c.path], chunkRecords := cs.done.chunkRecords ++ [c.count],
    records := cs.done.records + c.count }

/-- Begins to write: the directory of the output is made if it is missing. -/
def start (plan : ChunkPlan) (t : FileTree) : Except Failure Chunks × FileTree :=
  match t.makeParent plan.base with
  | (.error fault, t) => (.error (.files fault), t)
  | (.ok (), t) => (.ok { plan }, t)

/-- Writes a record to an open chunk. -/
def addTo (cs : Chunks) (t : FileTree) (c : OpenChunk) (r : Record) : Except Failure Chunks × FileTree :=
  match c.put t (cs.plan.encoding.row c.count r) with
  | (.error failure, t) => (.error failure, t)
  | (.ok c, t) => (.ok { cs with current := some { c with count := c.count + 1 } }, t)

/-- Writes a record to a new chunk. -/
def addToNew (cs : Chunks) (t : FileTree) (r : Record) : Except Failure Chunks × FileTree :=
  match cs.plan.openChunk t cs.done.files.length with
  | (.error failure, t) => (.error failure, t)
  | (.ok c, t) => cs.addTo t c r

/-- Writes a record: to the open chunk if that has room, else to a new one. -/
def add (cs : Chunks) (t : FileTree) (r : Record) : Except Failure Chunks × FileTree :=
  match cs.current with
  | none => cs.addToNew t r
  | some c =>
    if c.count < cs.plan.size then cs.addTo t c r
    else match cs.plan.finish t c with
      | (.error failure, t) => (.error failure, t)
      | (.ok (), t) => { cs with done := cs.summaryWith c, current := none }.addToNew t r

/-- Ends the writing with `c` as the last chunk. -/
def closeWith (cs : Chunks) (t : FileTree) (c : OpenChunk) : Except Failure Summary × FileTree :=
  match cs.plan.finish t c with
  | (.error failure, t) => (.error failure, t)
  | (.ok (), t) => (.ok (cs.summaryWith c), t)

/-- Ends the writing. If there was no record, there is one chunk without any. -/
def close (cs : Chunks) (t : FileTree) : Except Failure Summary × FileTree :=
  match cs.current with
  | some c => cs.closeWith t c
  | none =>
    match cs.plan.openChunk t cs.done.files.length with
    | (.error failure, t) => (.error failure, t)
    | (.ok c, t) => cs.closeWith t c

/-- Writes records that are all at hand. -/
def addAll (cs : Chunks) (t : FileTree) : List Record → Except Failure Chunks × FileTree
  | [] => (.ok cs, t)
  | r :: rest =>
    match cs.add t r with
    | (.error failure, t) => (.error failure, t)
    | (.ok cs, t) => cs.addAll t rest

end Chunks

/-- Writes a list of records to chunks. -/
def ChunkPlan.writeAll (plan : ChunkPlan) (t : FileTree) (rs : List Record) : Except Failure Summary × FileTree :=
  match Chunks.start plan t with
  | (.error failure, t) => (.error failure, t)
  | (.ok cs, t) =>
    match cs.addAll t rs with
    | (.error failure, t) => (.error failure, t)
    | (.ok cs, t) => cs.close t

/-- Writes the records of a walk, each as soon as the walk has come to it. -/
def Chunks.drain (cs : Chunks) (t : FileTree) (w : Walk) : Except Failure (Chunks × Walk) × FileTree :=
  match _h : w.next t with
  | (none, w) => (.ok (cs, w), t)
  | (some r, w') =>
    match cs.add t r with
    | (.error failure, t) => (.error failure, t)
    | (.ok cs, t) => cs.drain t w'
termination_by w.edges
decreasing_by exact Walk.edges_next _h

end CallGraph
