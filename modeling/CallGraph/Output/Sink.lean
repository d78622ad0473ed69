import CallGraph.Files.Tree
/-!
# Sinks

Where bytes are written to, piece after piece, until a piece is refused. One sink takes a fixed number of bytes; the
other is an open file, whose bytes are gathered into blocks before they reach the disk.
-/

namespace CallGraph

/-- Things that bytes can be written to. A refused piece may have gone through in part. -/
class Sink (σ : Type) (ε : outParam Type) where
  write : σ → ByteArray → Except ε Unit × σ

/-- Writes pieces in order, up to the first that is refused. -/
def Sink.writeAll {σ ε : Type} [Sink σ ε] : List String → σ → Except ε Unit × σ
  | [], s => (.ok (), s)
  | piece :: rest, s =>
    match Sink.write s piece.toUTF8 with
    | (.error e, s) => (.error e, s)
    | (.ok (), s) => writeAll rest s

/-- A sink with room for `room` more bytes. -/
structure BoundedSink where
  room : Nat
  content : ByteArray := .empty

/-- The sink took less than it was given. -/
inductive SinkFault
  | full
  deriving DecidableEq, Repr

def BoundedSink.write (s : BoundedSink) (bytes : ByteArray) : Except SinkFault Unit × BoundedSink :=
  (if bytes.size ≤ s.room then .ok () else .error .full,
    { room := s.room - bytes.size, content := s.content ++ bytes.extract 0 s.room })

instance : Sink BoundedSink SinkFault := ⟨BoundedSink.write⟩

/-- A file open for writing. `pending` was written but is not on the disk yet. -/
structure OpenFile where
  tree : FileTree
  location : Location
  pending : ByteArray := .empty

namespace OpenFile

/-- The number of bytes that are gathered. -/
def blockSize : Nat := 8192

def append (f : OpenFile) (bytes : ByteArray) : Except FileFault Unit × OpenFile :=
  match f.tree.append f.location bytes with
  | .error fault => (.error fault, f)
  | .ok tree => (.ok (), { f with tree })

/-- Puts the pending bytes on the disk. -/
def flush (f : OpenFile) : Except FileFault Unit × OpenFile :=
  match f.append f.pending with
  | (.error fault, f) => (.error fault, f)
  | (.ok (), f) => (.ok (), { f with pending := .empty })

/-- Writes to a file whose pending bytes leave room, or which has none: a whole block goes straight to the disk. -/
def gather (f : OpenFile) (bytes : ByteArray) : Except FileFault Unit × OpenFile :=
  if bytes.size ≥ blockSize then f.append bytes else (.ok (), { f with pending := f.pending ++ bytes })

def write (f : OpenFile) (bytes : ByteArray) : Except FileFault Unit × OpenFile :=
  if f.pending.size + bytes.size ≤ blockSize then f.gather bytes
  else match f.flush with
    | (.error fault, f) => (.error fault, f)
    | (.ok (), f) => f.gather bytes

instance : Sink OpenFile FileFault := ⟨OpenFile.write⟩

end OpenFile

end CallGraph
