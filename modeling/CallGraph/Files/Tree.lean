import CallGraph.Files.Fault
import CallGraph.Files.Path
/-!
# File trees

A file system as a value: what stands at each location, and which directory is the working directory. Lookups follow
symbolic links the way the system does; operations that change files give the changed tree. Reading never changes it.

`get?_put_self` and `get?_put_of_ne` say what `put` does to the entries.
-/

namespace CallGraph

/-- The names that lead from the root to a place. -/
abbrev Location := List String

inductive Entry
  | file (content : ByteArray)
  | directory
  | link (target : String)
  /-- a device that takes no byte -/
  | full

local instance (priority := 2000) contentDecidableEq : DecidableEq ByteArray := ByteArray.instDecidableEq

deriving instance DecidableEq for Entry

/-- The entries of a file system, in no particular order; the root is a directory of its own. -/
structure FileTree where
  entries : List (Location × Entry)
  /-- the working directory -/
  home : Location

/-- Where the names of a path lead: to an entry, or to a free place in a directory. -/
inductive Reached
  | entry (location : Location)
  | free (location : Location)
  deriving DecidableEq, Repr

namespace FileTree

/-! ## Entries -/

def get? (t : FileTree) (l : Location) : Option Entry :=
  if l = [] then some .directory else t.entries.lookup l

/-- Lets `e` be what stands at `l`. -/
def assign (l : Location) (e : Entry) : List (Location × Entry) → List (Location × Entry)
  | [] => [(l, e)]
  | x :: rest => if l = x.1 then (l, e) :: rest else x :: assign l e rest

def put (t : FileTree) (l : Location) (e : Entry) : FileTree :=
  { t with entries := assign l e t.entries }

theorem lookup_assign (l k : Location) (e : Entry) (xs : List (Location × Entry)) :
    (assign l e xs).lookup k = if k = l then some e else xs.lookup k := by
  induction xs with
  | nil =>
    by_cases h : k = l
    · simp [assign, h]
    · simp [assign, List.lookup_cons, h, beq_eq_false_iff_ne.2 h]
  | cons x rest ih =>
    obtain ⟨m, f⟩ := x
    by_cases hm : l = m
    · subst hm
      by_cases h : k = l
      · simp [assign, h]
      · simp [assign, List.lookup_cons, h, beq_eq_false_iff_ne.2 h]
    · by_cases h : k = m
      · subst h
        simp [assign, hm, Ne.symm hm]
      · simp [assign, List.lookup_cons, hm, beq_eq_false_iff_ne.2 h, ih]

theorem get?_put_self (t : FileTree) {l : Location} (e : Entry) (h : l ≠ []) : (t.put l e).get? l = some e := by
  simp [get?, put, lookup_assign, h]

theorem get?_put_of_ne (t : FileTree) {l k : Location} (e : Entry) (h : k ≠ l) :
    (t.put l e).get? k = t.get? k := by
  simp [get?, put, lookup_assign, h]

/-! ## Lookup -/

/-- The number of links a lookup follows before it gives up. -/
def linkLimit : Nat := 40

/-- Follows names from the directory `place`. -/
def follow (t : FileTree) (links : Nat) (place : Location) (names : List String) : Except FileFault Reached :=
  match names with
  | [] => .ok (.entry place)
  | n :: rest =>
    if n = "." then t.follow links place rest
    else if n = ".." then t.follow links place.dropLast rest
    else if n.utf8ByteSize > 255 then .error .nameTooLong
    else match t.get? (place ++ [n]) with
      | none => if rest.isEmpty then .ok (.free (place ++ [n])) else .error .notFound
      | some .directory => t.follow links (place ++ [n]) rest
      | some (.link target) =>
        match links with
        | 0 => .error .tooManyLinks
        | links + 1 =>
          if target.isEmpty then .error .notFound
          else t.follow links (if Path.isAbsolute target then [] else place) (Path.steps target ++ rest)
      | some _ => if rest.isEmpty then .ok (.entry (place ++ [n])) else .error .notDirectory
termination_by (links, names.length)

/-- The directory a path starts from. -/
def origin (t : FileTree) (p : String) : Location :=
  if Path.isAbsolute p then [] else t.home

/-- What is wrong with the text of a path. -/
def pathFault? (p : String) : Option FileFault :=
  if p.toList.contains '\x00' then some .nulInPath
  else if p.isEmpty then some .notFound
  else if p.utf8ByteSize ≥ 4096 then some .nameTooLong
  else none

/-- Where a path leads, for an operation that takes the steps `steps` of it. -/
def reach (t : FileTree) (p : String) (steps : List String) : Except FileFault Reached :=
  match pathFault? p with
  | some fault => .error fault
  | none => t.follow linkLimit (t.origin p) steps

/-- The entry a path leads to, with its location. -/
def find (t : FileTree) (p : String) : Except FileFault (Location × Entry) :=
  match t.reach p (Path.steps p) with
  | .error fault => .error fault
  | .ok (.free _) => .error .notFound
  | .ok (.entry l) =>
    match t.get? l with
    | some e => .ok (l, e)
    | none => .error .notFound

def has (t : FileTree) (p : String) : Bool := (t.find p).isOk

def isDirectory (t : FileTree) (p : String) : Bool :=
  match t.find p with
  | .ok (_, .directory) => true
  | _ => false

def isFile (t : FileTree) (p : String) : Bool :=
  match t.find p with
  | .ok (_, .file _) => true
  | _ => false

/-! ## Reading -/

def read (t : FileTree) (p : String) : Except FileFault ByteArray :=
  match t.find p with
  | .error fault => .error fault
  | .ok (_, .file content) => .ok content
  | .ok (_, .directory) => .error .isDirectory
  | .ok _ => .ok .empty

def readText (t : FileTree) (p : String) : Except FileFault String :=
  match t.read p with
  | .error fault => .error fault
  | .ok bytes =>
    match String.fromUTF8? bytes with
    | some text => .ok text
    | none => .error .notText

/-! ## Writing -/

/-- Where a file opened for writing gets its bytes. A name with a slash behind it is no file's. -/
def writable (t : FileTree) (p : String) : Except FileFault Location :=
  match t.reach p (Path.names p) with
  | .error fault => .error fault
  | .ok reached =>
    if Path.endsWithSlash p then .error .isDirectory
    else match reached with
      | .free l => .ok l
      | .entry l =>
        match t.get? l with
        | some (.file _) | some .full => .ok l
        | _ => .error .isDirectory

/-- Opens a file for writing: afterwards it is there and empty. A full device stays what it is. -/
def create (t : FileTree) (p : String) : Except FileFault (Location × FileTree) :=
  match t.writable p with
  | .error fault => .error fault
  | .ok l => .ok (l, if t.get? l = some .full then t else t.put l (.file .empty))

/-- Adds bytes to the end of a file that `create` opened. -/
def append (t : FileTree) (l : Location) (bytes : ByteArray) : Except FileFault FileTree :=
  match t.get? l with
  | some (.file content) => .ok (t.put l (.file (content ++ bytes)))
  | some .full => if bytes.isEmpty then .ok t else .error .deviceFull
  | _ => .ok t

/-- Writes a whole file. -/
def write (t : FileTree) (p : String) (bytes : ByteArray) : Except FileFault Unit × FileTree :=
  match t.create p with
  | .error fault => (.error fault, t)
  | .ok (l, t) =>
    match t.append l bytes with
    | .error fault => (.error fault, t)
    | .ok t => (.ok (), t)

/-- The place for a new entry: a free name in a directory that is there. -/
def vacancy (t : FileTree) (p : String) : Except FileFault Location :=
  let names := Path.names p
  match names.getLast? with
  | none => match pathFault? p with
    | some fault => .error fault
    | none => .error .alreadyThere
  | some last =>
    match t.reach p names.dropLast with
    | .error fault => .error fault
    | .ok (.free _) => .error .notFound
    | .ok (.entry l) =>
      if t.get? l ≠ some .directory then .error .notDirectory
      else if last = "." ∨ last = ".." then .error .alreadyThere
      else if last.utf8ByteSize > 255 then .error .nameTooLong
      else if (t.get? (l ++ [last])).isSome then .error .alreadyThere
      else .ok (l ++ [last])

def makeDirectory (t : FileTree) (p : String) : Except FileFault FileTree :=
  (t.vacancy p).map (t.put · .directory)

/-- Makes the directory with the given names, last name first, and those above it that are missing. -/
def makeDirectories (t : FileTree) (absolute : Bool) : List String → Except FileFault Unit × FileTree
  | [] => (.ok (), t)
  | last :: before =>
    let p := Path.ofNames absolute (last :: before).reverse
    match t.makeDirectory p with
    | .ok t => (.ok (), t)
    | .error .notFound =>
      match t.makeDirectories absolute before with
      | (.error fault, t) => (.error fault, t)
      | (.ok (), t) =>
        match t.makeDirectory p with
        | .ok t => (.ok (), t)
        | .error fault => if t.isDirectory p then (.ok (), t) else (.error fault, t)
    | .error fault => if t.isDirectory p then (.ok (), t) else (.error fault, t)

/-- Makes the directory that a path lies in, unless it is there. -/
def makeParent (t : FileTree) (p : String) : Except FileFault Unit × FileTree :=
  match Path.parent? p with
  | none => (.ok (), t)
  | some names => t.makeDirectories (Path.isAbsolute p) names.reverse

/-- Lets `p` be a symbolic link. -/
def makeLink (t : FileTree) (p target : String) : Except FileFault FileTree :=
  (t.vacancy p).map (t.put · (.link target))

/-- Removes a file, a link, or a directory with all that is below it. -/
def remove (t : FileTree) (p : String) : FileTree :=
  match t.reach p (Path.names p).dropLast, (Path.names p).getLast? with
  | .ok (.entry l), some last => { t with entries := t.entries.filter fun x => !(l ++ [last]).isPrefixOf x.1 }
  | _, _ => t

/-! ## What a run did -/

/-- The entries of `after` that `before` does not have, or has otherwise. -/
def newEntries (before after : FileTree) : List (Location × Entry) :=
  after.entries.filter fun x => before.get? x.1 ≠ some x.2

/-- The names that lead from `base` to a place below it. -/
def below? (base l : Location) : Option (List String) :=
  if base.isPrefixOf l && base.length < l.length then some (l.drop base.length) else none

/-- What a run did below the working directory: the files that it made or changed, with their content, and the
directories that it made. -/
def changes (before after : FileTree) : List (String × Option ByteArray) :=
  (newEntries before after).filterMap fun (l, e) =>
    match below? after.home l with
    | none => none
    | some names =>
      let name := Text.join "/" names
      match e with
      | .file content => some (name, some content)
      | .directory => some (name ++ "/", none)
      | .link _ | .full => none

end FileTree

end CallGraph
