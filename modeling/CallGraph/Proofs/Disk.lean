import CallGraph.Output.Chunks
import CallGraph.Proofs.Directories
import CallGraph.Proofs.Sink
/-!
# Disks that fail

Chunks written to a disk on which any operation can fail, for whatever reason, and spoil the file it was for. Where nothing
goes wrong this is what becomes of a file tree: `Disk.writeAll_calm`. What succeeds did so on the file tree as well, whatever
is yet to come: `OnDisk.Matches`.
-/

namespace CallGraph

/-- A fault that the file tree itself does not account for. -/
structure Mishap where
  fault : FileFault
  /-- what the file holds afterwards, if something else than before -/
  left : Option ByteArray

/-- A file tree, with the mishaps of the operations to come, and the paths and faults of those that failed. -/
structure Disk where
  tree : FileTree
  ahead : List (Option Mishap) := []
  faults : List (String × FileFault) := []

/-- What can be done on a disk. -/
def OnDisk (ε α : Type) := Disk → Except ε α × Disk

namespace OnDisk

variable {ε α β : Type}

instance : Monad (OnDisk ε) where
  pure a d := (.ok a, d)
  bind x f d :=
    match x d with
    | (.error e, d) => (.error e, d)
    | (.ok a, d) => f a d

/-- Says of a fault what it means. -/
def blaming (blame : FileFault → ε) (x : OnDisk FileFault α) : OnDisk ε α := fun d =>
  match x d with
  | (.error fault, d) => (.error (blame fault), d)
  | (.ok a, d) => (.ok a, d)

end OnDisk

namespace Disk

/-! ## Operations -/

/-- A file that is left with other content; what is no file stays as it is. -/
def spoil (t : FileTree) (l : Location) (left : Option ByteArray) : FileTree :=
  match left, t.get? l with
  | some content, none | some content, some (.file _) => t.put l (.file content)
  | _, _ => t

/-- An operation for the file at `path`, if its place is known. -/
def perform {α : Type} (path : String) (place : FileTree → Option Location)
    (op : FileTree → Except FileFault (α × FileTree)) : OnDisk FileFault α := fun d =>
  match d.ahead.head?.join with
  | some m =>
    let tree := (place d.tree).elim d.tree fun l => spoil d.tree l m.left
    (.error m.fault, ⟨tree, d.ahead.tail, d.faults ++ [(path, m.fault)]⟩)
  | none =>
    match op d.tree with
    | .error fault => (.error fault, ⟨d.tree, d.ahead.tail, d.faults ++ [(path, fault)]⟩)
    | .ok (a, tree) => (.ok a, ⟨tree, d.ahead.tail, d.faults⟩)

def create (path : String) : OnDisk FileFault Location :=
  perform path (fun t => (t.writable path).toOption) fun t => t.create path

def append (path : String) (l : Location) (bytes : ByteArray) : OnDisk FileFault Unit :=
  perform path (fun _ => some l) fun t => (t.append l bytes).map fun t => ((), t)

def makeDirectory (path : String) : OnDisk FileFault Unit :=
  perform path (fun _ => none) fun t => (t.makeDirectory path).map fun t => ((), t)

/-- Passes over a fault if a directory is seen to be there. -/
def unlessThere (path : String) (fault : FileFault) : OnDisk FileFault Unit := fun d =>
  let seen := d.ahead.head?.join.isNone && d.tree.isDirectory path
  (if seen then .ok () else .error fault, { d with ahead := d.ahead.tail })

/-! ## The writer -/

def makeDirectories (absolute : Bool) : List String → OnDisk FileFault Unit
  | [] => pure ()
  | last :: before => fun d =>
    let p := Path.ofNames absolute (last :: before).reverse
    match makeDirectory p d with
    | (.ok (), d) => (.ok (), d)
    | (.error .notFound, d) =>
      match makeDirectories absolute before d with
      | (.error fault, d) => (.error fault, d)
      | (.ok (), d) =>
        match makeDirectory p d with
        | (.ok (), d) => (.ok (), d)
        | (.error fault, d) => unlessThere p fault d
    | (.error fault, d) => unlessThere p fault d

def makeParent (p : String) : OnDisk FileFault Unit :=
  match Path.parent? p with
  | none => pure ()
  | some names => makeDirectories (Path.isAbsolute p) names.reverse

def flush (c : OpenChunk) : OnDisk FileFault OpenChunk := do
  append c.path c.location c.pending
  return { c with pending := .empty }

def gather (c : OpenChunk) (bytes : ByteArray) : OnDisk FileFault OpenChunk :=
  if bytes.size ≥ OpenFile.blockSize then do
    append c.path c.location bytes
    return c
  else return { c with pending := c.pending ++ bytes }

def write (c : OpenChunk) (bytes : ByteArray) : OnDisk FileFault OpenChunk :=
  if c.pending.size + bytes.size ≤ OpenFile.blockSize then gather c bytes
  else do
    gather (← flush c) bytes

def writePieces (c : OpenChunk) : List String → OnDisk FileFault OpenChunk
  | [] => return c
  | piece :: rest => do
    writePieces (← write c piece.toUTF8) rest

def put (c : OpenChunk) (pieces : List String) : OnDisk Failure OpenChunk := (writePieces c pieces).blaming c.failure

def openChunk (plan : ChunkPlan) (index : Nat) : OnDisk Failure OpenChunk := do
  let path := chunkPath plan.base index
  let location ← (create path).blaming (.chunk index path)
  put { index, path, location, pending := .empty, count := 0 } plan.encoding.opening

def finish (plan : ChunkPlan) (c : OpenChunk) : OnDisk Failure Unit := do
  let c ← put c plan.encoding.closing
  let _ ← (flush c).blaming c.failure

def start (plan : ChunkPlan) : OnDisk Failure Chunks := do
  (makeParent plan.base).blaming .files
  return { plan }

def addTo (cs : Chunks) (c : OpenChunk) (r : Record) : OnDisk Failure Chunks := do
  let c ← put c (cs.plan.encoding.row c.count r)
  return { cs with current := some { c with count := c.count + 1 } }

def addToNew (cs : Chunks) (r : Record) : OnDisk Failure Chunks := do
  addTo cs (← openChunk cs.plan cs.done.files.length) r

def add (cs : Chunks) (r : Record) : OnDisk Failure Chunks :=
  match cs.current with
  | none => addToNew cs r
  | some c =>
    if c.count < cs.plan.size then addTo cs c r
    else do
      finish cs.plan c
      addToNew { cs with done := cs.summaryWith c, current := none } r

def addAll (cs : Chunks) : List Record → OnDisk Failure Chunks
  | [] => return cs
  | r :: rest => do
    addAll (← add cs r) rest

def closeWith (cs : Chunks) (c : OpenChunk) : OnDisk Failure Summary := do
  finish cs.plan c
  return cs.summaryWith c

def close (cs : Chunks) : OnDisk Failure Summary :=
  match cs.current with
  | some c => closeWith cs c
  | none => do
    closeWith cs (← openChunk cs.plan cs.done.files.length)

/-- Writes a list of records to chunks on a disk. -/
def writeAll (plan : ChunkPlan) (rs : List Record) : OnDisk Failure Summary := do
  close (← addAll (← start plan) rs)

end Disk

/-! ## Without mishaps -/

namespace OnDisk

variable {ε α β : Type}

/-- On a disk without mishaps `x` does what `y` does to the file tree; so it does wherever it succeeds, and then nothing
failed. -/
structure Matches (x : OnDisk ε α) (y : FileTree → Except ε α × FileTree) : Prop where
  calm : ∀ d, d.ahead = [] → (x d).1 = (y d.tree).1 ∧ (x d).2.tree = (y d.tree).2 ∧ (x d).2.ahead = []
  ok : ∀ d a d', x d = (.ok a, d') → y d.tree = (.ok a, d'.tree) ∧ d'.faults = d.faults

theorem Matches.congr {x : OnDisk ε α} {y y' : FileTree → Except ε α × FileTree} (h : Matches x y)
    (hy : ∀ t, y' t = y t) : Matches x y' := by
  obtain rfl : y = y' := funext fun t => (hy t).symm
  exact h

theorem Matches.pure (a : α) : Matches (Pure.pure a : OnDisk ε α) fun t => (.ok a, t) where
  calm d hd := ⟨rfl, rfl, hd⟩
  ok d b d' h := by
    obtain ⟨hb, rfl⟩ := Prod.mk.inj h
    exact ⟨by rw [hb], rfl⟩

theorem bind_apply (x : OnDisk ε α) (f : α → OnDisk ε β) (d : Disk) :
    (x >>= f) d = match x d with
      | (.error e, d) => (.error e, d)
      | (.ok a, d) => f a d := rfl

theorem bind_eq_ok {x : OnDisk ε α} {f : α → OnDisk ε β} {d d' : Disk} {b : β} (h : (x >>= f) d = (.ok b, d')) :
    ∃ a d₁, x d = (.ok a, d₁) ∧ f a d₁ = (.ok b, d') := by
  rw [bind_apply] at h
  split at h
  · simp at h
  · next a d₁ hx => exact ⟨a, d₁, hx, h⟩

theorem bind_eq_error {x : OnDisk ε α} {f : α → OnDisk ε β} {d d' : Disk} {e : ε}
    (h : (x >>= f) d = (.error e, d')) :
    x d = (.error e, d') ∨ ∃ a d₁, x d = (.ok a, d₁) ∧ f a d₁ = (.error e, d') := by
  rw [bind_apply] at h
  split at h
  · next e' d₁ hx =>
    obtain ⟨he, rfl⟩ := Prod.mk.inj h
    obtain rfl := Except.error.inj he
    exact .inl hx
  · next a d₁ hx => exact .inr ⟨a, d₁, hx, h⟩

theorem Matches.bind {x : OnDisk ε α} {y : FileTree → Except ε α × FileTree} {f : α → OnDisk ε β}
    {g : α → FileTree → Except ε β × FileTree} (hx : Matches x y) (hf : ∀ a, Matches (f a) (g a)) :
    Matches (x >>= f) fun t =>
      match y t with
      | (.error e, t) => (.error e, t)
      | (.ok a, t) => g a t where
  calm d hd := by
    obtain ⟨hresult, htree, hahead⟩ := hx.calm d hd
    rw [bind_apply]
    rcases hxd : x d with ⟨_ | a, d₁⟩ <;> rcases hyd : y d.tree with ⟨_ | a', t₁⟩ <;>
      simp only [hxd, hyd, reduceCtorEq, Except.error.injEq, Except.ok.injEq] at hresult htree hahead
    · exact ⟨by rw [hresult], htree, hahead⟩
    · subst hresult htree
      exact (hf a).calm d₁ hahead
  ok d b d' h := by
    obtain ⟨a, d₁, hxd, hfd⟩ := bind_eq_ok h
    obtain ⟨hy, hfaults⟩ := hx.ok d a d₁ hxd
    obtain ⟨hg, hfaults'⟩ := (hf a).ok d₁ b d' hfd
    exact ⟨by simp only [hy, hg], hfaults'.trans hfaults⟩

theorem Matches.blaming {x : OnDisk FileFault α} {y : FileTree → Except FileFault α × FileTree} (h : Matches x y)
    (blame : FileFault → ε) :
    Matches (x.blaming blame) fun t =>
      match y t with
      | (.error fault, t) => (.error (blame fault), t)
      | (.ok a, t) => (.ok a, t) where
  calm d hd := by
    obtain ⟨hresult, htree, hahead⟩ := h.calm d hd
    unfold OnDisk.blaming
    rcases hxd : x d with ⟨_ | a, d₁⟩ <;> rcases hyd : y d.tree with ⟨_ | a', t₁⟩ <;>
      simp only [hxd, hyd, reduceCtorEq, Except.error.injEq, Except.ok.injEq] at hresult htree hahead
    · exact ⟨by rw [hresult], htree, hahead⟩
    · exact ⟨by rw [hresult], htree, hahead⟩
  ok d a d' hd := by
    unfold OnDisk.blaming at hd
    split at hd
    · simp at hd
    · next a' d₁ hx =>
      obtain ⟨ha, rfl⟩ := Prod.mk.inj hd
      obtain rfl := Except.ok.inj ha
      obtain ⟨hy, hfaults⟩ := h.ok d _ _ hx
      exact ⟨by simp only [hy], hfaults⟩

end OnDisk

namespace Disk

open OnDisk

theorem perform_matches {α : Type} (path : String) (place : FileTree → Option Location)
    (op : FileTree → Except FileFault (α × FileTree)) :
    Matches (perform path place op) fun t =>
      match op t with
      | .error fault => (.error fault, t)
      | .ok (a, t) => (.ok a, t) where
  calm d hd := by
    have hnone : d.ahead.head?.join = none := by rw [hd]; rfl
    simp only [perform, hnone]
    cases op d.tree <;> simp [hd]
  ok d a d' h := by
    unfold perform at h
    split at h
    · simp at h
    · cases hop : op d.tree with
      | error fault => simp [hop] at h
      | ok x =>
        obtain ⟨ha, rfl⟩ : x.1 = a ∧ (⟨x.2, d.ahead.tail, d.faults⟩ : Disk) = d' := by simpa [hop] using h
        exact ⟨by simp [← ha], rfl⟩

/-- What a chunk and the files are after its file was written to. -/
def after (c : OpenChunk) (x : Except FileFault Unit × OpenFile) : Except FileFault OpenChunk × FileTree :=
  (x.1.map fun () => { c with pending := x.2.pending }, x.2.tree)

/-- The file of a chunk. -/
def file (c : OpenChunk) (t : FileTree) : OpenFile := ⟨t, c.location, c.pending⟩

theorem file_after {c : OpenChunk} {f : OpenFile} (h : f.location = c.location) :
    file { c with pending := f.pending } f.tree = f := by
  obtain ⟨t, l, pending⟩ := f
  obtain rfl : l = c.location := h
  rfl

theorem append_matches (c : OpenChunk) (bytes : ByteArray) :
    Matches (append c.path c.location bytes) fun t =>
      match t.append c.location bytes with
      | .error fault => (.error fault, t)
      | .ok t => (.ok (), t) :=
  (perform_matches _ _ _).congr fun t => by cases t.append c.location bytes <;> rfl

theorem flush_matches (c : OpenChunk) : Matches (flush c) fun t => after c (file c t).flush := by
  refine ((append_matches c c.pending).bind fun _ => .pure _).congr fun t => ?_
  simp only [OpenFile.flush, OpenFile.append, file]
  cases t.append c.location c.pending <;> rfl

theorem gather_matches (c : OpenChunk) (bytes : ByteArray) :
    Matches (gather c bytes) fun t => after c ((file c t).gather bytes) := by
  unfold gather OpenFile.gather
  split
  · refine ((append_matches c bytes).bind fun _ => .pure _).congr fun t => ?_
    simp only [OpenFile.append, file]
    cases t.append c.location bytes <;> rfl
  · exact .pure _

theorem write_matches (c : OpenChunk) (bytes : ByteArray) :
    Matches (write c bytes) fun t => after c ((file c t).write bytes) := by
  unfold write OpenFile.write
  split
  · next hroom =>
    refine (gather_matches c bytes).congr fun t => ?_
    rw [if_pos (show (file c t).pending.size + _ ≤ _ from hroom)]
  · next hroom =>
    refine ((flush_matches c).bind fun c => gather_matches c bytes).congr fun t => ?_
    rw [if_neg (show ¬(file c t).pending.size + _ ≤ _ from hroom)]
    rcases hf : (file c t).flush with ⟨fault | ⟨⟨⟩⟩, f⟩
    · rfl
    · have hfile : file { c with pending := f.pending } f.tree = f := file_after (OpenFile.flush_took hf).1.location
      simp only [after, Except.map, hfile]

theorem writePieces_matches (c : OpenChunk) (pieces : List String) :
    Matches (writePieces c pieces) fun t => after c (Sink.writeAll pieces (file c t)) := by
  induction pieces generalizing c with
  | nil => exact .pure c
  | cons piece rest ih =>
    refine ((write_matches c piece.toUTF8).bind fun c => ih c).congr fun t => ?_
    rw [Sink.writeAll, show Sink.write (file c t) piece.toUTF8 = (file c t).write piece.toUTF8 from rfl]
    rcases hf : (file c t).write piece.toUTF8 with ⟨fault | ⟨⟨⟩⟩, f⟩
    · rfl
    · have hfile : file { c with pending := f.pending } f.tree = f := file_after (OpenFile.write_took hf).location
      simp only [after, Except.map, hfile]

theorem put_matches (c : OpenChunk) (pieces : List String) : Matches (put c pieces) fun t => c.put t pieces := by
  refine ((writePieces_matches c pieces).blaming c.failure).congr fun t => ?_
  simp only [OpenChunk.put, file]
  rcases Sink.writeAll pieces (⟨t, c.location, c.pending⟩ : OpenFile) with ⟨_ | ⟨⟨⟩⟩, f⟩ <;> rfl

theorem openChunk_matches (plan : ChunkPlan) (index : Nat) :
    Matches (openChunk plan index) fun t => plan.openChunk t index := by
  have hcreate := perform_matches (chunkPath plan.base index) (fun t => (t.writable (chunkPath plan.base index)).toOption)
    fun t => t.create (chunkPath plan.base index)
  refine ((hcreate.blaming (.chunk index (chunkPath plan.base index))).bind fun l =>
    put_matches ⟨index, chunkPath plan.base index, l, .empty, 0⟩ plan.encoding.opening).congr fun t => ?_
  simp only [ChunkPlan.openChunk]
  cases t.create (chunkPath plan.base index) <;> rfl

theorem finish_matches (plan : ChunkPlan) (c : OpenChunk) : Matches (finish plan c) fun t => plan.finish t c := by
  refine ((put_matches c _).bind fun c => ((flush_matches c).blaming c.failure).bind fun _ => .pure ()).congr fun t => ?_
  simp only [ChunkPlan.finish, OpenChunk.flush]
  rcases c.put t plan.encoding.closing with ⟨_ | c', t'⟩
  · rfl
  · rcases hf : (⟨t', c'.location, c'.pending⟩ : OpenFile).flush with ⟨_ | ⟨⟨⟩⟩, f⟩ <;> simp [file, hf, after, Except.map]

theorem addTo_matches (cs : Chunks) (c : OpenChunk) (r : Record) : Matches (addTo cs c r) fun t => cs.addTo t c r := by
  refine ((put_matches c (cs.plan.encoding.row c.count r)).bind fun c =>
    .pure { cs with current := some { c with count := c.count + 1 } }).congr fun t => ?_
  rw [Chunks.addTo]
  rcases c.put t (cs.plan.encoding.row c.count r) with ⟨_ | c', t'⟩ <;> rfl

theorem addToNew_matches (cs : Chunks) (r : Record) : Matches (addToNew cs r) fun t => cs.addToNew t r := by
  refine ((openChunk_matches cs.plan cs.done.files.length).bind fun c => addTo_matches cs c r).congr fun t => ?_
  rw [Chunks.addToNew]
  rcases cs.plan.openChunk t cs.done.files.length with ⟨_ | c, t'⟩ <;> rfl

theorem finish_then {β : Type} (plan : ChunkPlan) (c : OpenChunk) {f : OnDisk Failure β}
    {g : FileTree → Except Failure β × FileTree} (h : Matches f g) :
    Matches (do finish plan c; f) fun t =>
      match plan.finish t c with
      | (.error failure, t) => (.error failure, t)
      | (.ok (), t) => g t :=
  ((finish_matches plan c).bind fun _ => h).congr fun t => by rcases plan.finish t c with ⟨_ | ⟨⟨⟩⟩, t'⟩ <;> rfl

theorem add_matches (cs : Chunks) (r : Record) : Matches (add cs r) fun t => cs.add t r := by
  unfold add Chunks.add
  cases cs.current with
  | none => exact addToNew_matches cs r
  | some c =>
    dsimp only
    split
    · exact addTo_matches cs c r
    · exact finish_then cs.plan c (addToNew_matches { cs with done := cs.summaryWith c, current := none } r)

theorem addAll_matches (cs : Chunks) (rs : List Record) : Matches (addAll cs rs) fun t => cs.addAll t rs := by
  induction rs generalizing cs with
  | nil => exact .pure cs
  | cons r rs ih =>
    refine ((add_matches cs r).bind fun cs => ih cs).congr fun t => ?_
    rw [Chunks.addAll]
    rcases cs.add t r with ⟨_ | cs', t'⟩ <;> rfl

theorem closeWith_matches (cs : Chunks) (c : OpenChunk) : Matches (closeWith cs c) fun t => cs.closeWith t c :=
  finish_then cs.plan c (.pure (cs.summaryWith c))

theorem close_matches (cs : Chunks) : Matches (close cs) fun t => cs.close t := by
  unfold close Chunks.close
  cases cs.current with
  | some c => exact closeWith_matches cs c
  | none =>
    refine ((openChunk_matches cs.plan cs.done.files.length).bind fun c => closeWith_matches cs c).congr fun t => ?_
    dsimp only
    rcases cs.plan.openChunk t cs.done.files.length with ⟨_ | c, t'⟩ <;> rfl

/-! ## Parents -/

theorem makeDirectory_calm (t : FileTree) (faults : List (String × FileFault)) (p : String) :
    makeDirectory p ⟨t, [], faults⟩ =
      match t.makeDirectory p with
      | .error fault => (.error fault, ⟨t, [], faults ++ [(p, fault)]⟩)
      | .ok t => (.ok (), ⟨t, [], faults⟩) := by
  simp only [makeDirectory, perform, List.tail_nil]
  cases t.makeDirectory p <;> rfl

theorem unlessThere_calm (t : FileTree) (faults : List (String × FileFault)) (p : String) (fault : FileFault) :
    unlessThere p fault ⟨t, [], faults⟩ = (if t.isDirectory p then .ok () else .error fault, ⟨t, [], faults⟩) := rfl

theorem makeDirectories_calm (t : FileTree) (faults : List (String × FileFault)) (absolute : Bool)
    (names : List String) : ∃ faults', makeDirectories absolute names ⟨t, [], faults⟩ =
      ((t.makeDirectories absolute names).1, ⟨(t.makeDirectories absolute names).2, [], faults'⟩) := by
  induction names generalizing t faults with
  | nil => exact ⟨faults, rfl⟩
  | cons last before ih =>
    unfold makeDirectories FileTree.makeDirectories
    dsimp only
    generalize Path.ofNames absolute (last :: before).reverse = p
    simp only [makeDirectory_calm]
    cases hmake : t.makeDirectory p with
    | ok t₁ => exact ⟨faults, rfl⟩
    | error fault =>
      dsimp only
      split
      · next h => simp at h
      · next d h =>
        obtain ⟨rfl, rfl⟩ : fault = .notFound ∧ (⟨t, [], faults ++ [(p, fault)]⟩ : Disk) = d := by simpa using h
        obtain ⟨faults', hbefore⟩ := ih t (faults ++ [(p, FileFault.notFound)])
        rcases hplain : t.makeDirectories absolute before with ⟨_ | ⟨⟨⟩⟩, t₁⟩ <;> rw [hplain] at hbefore
        · exact ⟨faults', by simp only [hbefore]⟩
        · simp only [hbefore, makeDirectory_calm]
          cases hmake' : t₁.makeDirectory p with
          | ok t₂ => exact ⟨faults', rfl⟩
          | error fault =>
            simp only [unlessThere_calm]
            split <;> exact ⟨_, rfl⟩
      · next fault' d hfault h =>
        obtain ⟨rfl, rfl⟩ : fault = fault' ∧ (⟨t, [], faults ++ [(p, fault)]⟩ : Disk) = d := by simpa using h
        simp only [unlessThere_calm]
        split <;> exact ⟨_, rfl⟩

theorem makeParent_calm (t : FileTree) (faults : List (String × FileFault)) (p : String) :
    ∃ faults', makeParent p ⟨t, [], faults⟩ = ((t.makeParent p).1, ⟨(t.makeParent p).2, [], faults'⟩) := by
  unfold makeParent FileTree.makeParent
  cases Path.parent? p with
  | none => exact ⟨faults, rfl⟩
  | some names => exact makeDirectories_calm t faults _ _

theorem writeAll_of_error (rs : List Record) {plan : ChunkPlan} {d d₁ : Disk} {fault : FileFault}
    (h : makeParent plan.base d = (.error fault, d₁)) : writeAll plan rs d = (.error (.files fault), d₁) := by
  simp only [writeAll, start, bind_apply, OnDisk.blaming, h]

theorem writeAll_of_parent (rs : List Record) {plan : ChunkPlan} {d d₁ : Disk} (h : makeParent plan.base d = (.ok (), d₁)) :
    writeAll plan rs d = (do close (← addAll { plan } rs)) d₁ := by
  have hstart : start plan d = (.ok { plan }, d₁) := by
    simp only [start, bind_apply, OnDisk.blaming, h]
    rfl
  simp only [writeAll, bind_apply, hstart]

/-- Without mishaps it is a file tree that is written to. -/
theorem writeAll_calm (plan : ChunkPlan) (rs : List Record) (t : FileTree) :
    (writeAll plan rs { tree := t }).1 = (plan.writeAll t rs).1 ∧
      (writeAll plan rs { tree := t }).2.tree = (plan.writeAll t rs).2 := by
  obtain ⟨faults, hparent⟩ := makeParent_calm t [] plan.base
  rcases hplain : t.makeParent plan.base with ⟨fault | ⟨⟨⟩⟩, t₁⟩ <;> rw [hplain] at hparent
  · rw [writeAll_of_error rs hparent]
    simp only [ChunkPlan.writeAll, Chunks.start, hplain, and_self]
  · have hrest := ((addAll_matches { plan } rs).bind fun cs => close_matches cs).calm ⟨t₁, [], faults⟩ rfl
    rw [writeAll_of_parent rs hparent, hrest.1, hrest.2.1]
    simp only [ChunkPlan.writeAll, Chunks.start, hplain]
    rcases Chunks.addAll { plan } t₁ rs with ⟨_ | cs, t₂⟩ <;> exact ⟨rfl, rfl⟩

theorem makeDirectory_tree (p : String) (d : Disk) :
    (makeDirectory p d).2.tree = d.tree ∨ d.tree.makeDirectory p = .ok (makeDirectory p d).2.tree := by
  unfold makeDirectory perform
  split
  · exact .inl rfl
  · cases hmake : d.tree.makeDirectory p with
    | error fault => simp [hmake, Except.map]
    | ok t => simp [hmake, Except.map]

theorem makeDirectories_madeAlong (absolute : Bool) (names : List String) (d : Disk) :
    FileTree.MadeAlong absolute names.reverse d.tree (makeDirectories absolute names d).2.tree := by
  induction names generalizing d with
  | nil => exact .refl d.tree
  | cons last before ih =>
    have hmake (d : Disk) : FileTree.MadeAlong absolute (last :: before).reverse d.tree
        (makeDirectory (Path.ofNames absolute (last :: before).reverse) d).2.tree := by
      rcases makeDirectory_tree (Path.ofNames absolute (last :: before).reverse) d with h | h
      · rw [h]
        exact .refl _
      · exact (FileTree.MadeAlong.refl _).step (List.prefix_refl _) h
    have hbefore (d : Disk) : FileTree.MadeAlong absolute (last :: before).reverse d.tree
        (makeDirectories absolute before d).2.tree :=
      (ih d).mono (by rw [List.reverse_cons]; exact List.prefix_append _ _)
    have hfirst := hmake d
    unfold makeDirectories
    dsimp only
    split
    · next d₁ h => exact h ▸ hfirst
    · next d₁ h =>
      rw [h] at hfirst
      have hsecond := hbefore d₁
      split
      · next fault d₂ h₂ => exact hfirst.trans (h₂ ▸ hsecond)
      · next d₂ h₂ =>
        rw [h₂] at hsecond
        have hthird := hmake d₂
        split
        · next d₃ h₃ => exact (hfirst.trans hsecond).trans (h₃ ▸ hthird)
        · next fault d₃ h₃ =>
          rw [h₃] at hthird
          exact (hfirst.trans hsecond).trans hthird
    · next fault d₁ _ h =>
      rw [h] at hfirst
      exact hfirst

theorem makeParent_madeAlong (p : String) (d : Disk) :
    FileTree.MadeAlong (Path.isAbsolute p) ((Path.parent? p).getD []) d.tree (makeParent p d).2.tree := by
  unfold makeParent
  cases Path.parent? p with
  | none => exact .refl d.tree
  | some names =>
    have hmade := makeDirectories_madeAlong (Path.isAbsolute p) names.reverse d
    rwa [List.reverse_reverse] at hmade

end Disk

/-- A file tree is a disk without mishaps, so the same holds of it. -/
theorem FileTree.makeParent_madeAlong (t : FileTree) (p : String) :
    MadeAlong (Path.isAbsolute p) ((Path.parent? p).getD []) t (t.makeParent p).2 := by
  obtain ⟨faults, hcalm⟩ := Disk.makeParent_calm t [] p
  have hmade := Disk.makeParent_madeAlong p { tree := t }
  rwa [hcalm] at hmade

end CallGraph
