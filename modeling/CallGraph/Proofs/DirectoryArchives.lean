import CallGraph.Proofs.ByteOrder
import CallGraph.Proofs.Entries
import CallGraph.Proofs.Holdings
import CallGraph.Proofs.Trees
import Mathlib.Data.List.Sort
/-!
# Directories as archives

A directory lists the files below it by their names from there, in the order of their bytes, and an entry is read from the
file it names (`directory_spec`). So the entry for a source file does not depend on the order in which the system lists
directories: it is the one of that very name, or the first in order that ends in it (`Archive.Chosen`).

The system takes no path of 4096 bytes or more. A directory with such a path below it cannot be listed, and a file with
such a path is listed, but not read (`read_overlong`).
-/

namespace CallGraph

namespace FileTree

variable {t : FileTree}

/-- A regular file stands below the place `root`, behind these names. -/
def FileBelow (t : FileTree) (root : Location) (ns : List String) (content : ByteArray) : Prop :=
  ns ≠ [] ∧ t.get? (root ++ ns) = some (.file content)

/-- A directory below the place `root`, which is at `path`, has a path that is too long. -/
def Overlong (t : FileTree) (root : Location) (path : String) : Prop :=
  ∃ ns, t.get? (root ++ ns) = some .directory ∧ 4096 ≤ (Path.below path ns).utf8ByteSize

section
variable {root : Location} {path : String} {ns : List String} {content : ByteArray} {e : Entry}

theorem Sound.isEntryName_below (h : t.Sound) (he : t.get? (root ++ ns) = some e) : ∀ n ∈ ns, Path.IsEntryName n :=
  fun n hn => h.isEntryName he n (List.mem_append_right _ hn)

theorem Sound.join_eq_below (h : t.Sound) (hroot : t.find path = .ok (root, .directory))
    (he : t.get? (root ++ ns) = some e) (hne : ns ≠ []) : Path.join path (Text.join "/" ns) = Path.below path ns := by
  have hpath : path ≠ "" := (pathFault?_eq_none_iff.1 (pathFault?_of_find hroot)).2.1
  exact Path.join_join hpath (fun n hn => (h.isEntryName_below he n hn).isName) hne

theorem Sound.pathFault?_eq (h : t.Sound) (hroot : t.find path = .ok (root, .directory))
    (he : t.get? (root ++ ns) = some e) :
    pathFault? (Path.below path ns) = if 4096 ≤ (Path.below path ns).utf8ByteSize then some .nameTooLong else none :=
  pathFault?_below (pathFault?_of_find hroot) (h.isEntryName_below he)

theorem Sound.mem_filesBelow (h : t.Sound) {name : String} :
    name ∈ Archive.filesBelow t root ↔ ∃ ns content, t.FileBelow root ns content ∧ name = Text.join "/" ns := by
  rw [Archive.filesBelow, List.mem_filterMap]
  constructor
  · rintro ⟨⟨l, e⟩, hmem, hname⟩
    cases e with
    | file content =>
      obtain ⟨ns, hns, rfl⟩ := Option.map_eq_some_iff.1 hname
      obtain ⟨hne, rfl⟩ := below?_eq_some_iff.1 hns
      exact ⟨ns, content, ⟨hne, (h.get?_eq_some_iff (by simp [hne])).2 hmem⟩, rfl⟩
    | directory => cases hname
    | link => cases hname
    | full => cases hname
  · rintro ⟨ns, content, ⟨hne, hget⟩, rfl⟩
    refine ⟨(root ++ ns, .file content), (h.get?_eq_some_iff (by simp [hne])).1 hget, ?_⟩
    exact Option.map_eq_some_iff.2 ⟨ns, below?_eq_some_iff.2 ⟨hne, rfl⟩, rfl⟩

theorem Sound.nodup_filesBelow (h : t.Sound) (root : Location) : (Archive.filesBelow t root).Nodup := by
  have hnames {l : Location} {e : Entry} {ns : List String} (hmem : (l, e) ∈ t.entries) (hns : below? root l = some ns) :
      l = root ++ ns ∧ ∀ n ∈ ns, Path.IsName n := by
    obtain ⟨-, rfl⟩ := below?_eq_some_iff.1 hns
    exact ⟨rfl, fun n hn => ((h.named _ hmem).2 n (List.mem_append_right _ hn)).isName⟩
  have honce := h.once
  rw [List.Nodup, List.pairwise_map] at honce
  refine List.Pairwise.filterMap _ ?_ (List.Pairwise.and_mem.1 honce)
  rintro ⟨l, e⟩ ⟨l', e'⟩ ⟨hx, hy, hne⟩ a ha b hb rfl
  cases e with
  | file content =>
    cases e' with
    | file content' =>
      obtain ⟨ns, hns, rfl⟩ := Option.map_eq_some_iff.1 ha
      obtain ⟨ms, hms, heq⟩ := Option.map_eq_some_iff.1 hb
      obtain ⟨rfl, hn⟩ := hnames hx hns
      obtain ⟨rfl, hm⟩ := hnames hy hms
      exact hne (by rw [Path.eq_of_join_eq hn hm heq.symm])
    | directory => cases hb
    | link => cases hb
    | full => cases hb
  | directory => cases ha
  | link => cases ha
  | full => cases ha

theorem Sound.fault?_eq_none (h : t.Sound) (hroot : t.find path = .ok (root, .directory))
    (hshort : ¬t.Overlong root path) : Archive.fault? t root path = none := by
  rw [Archive.fault?, List.findSome?_eq_none_iff]
  rintro ⟨l, e⟩ hmem
  cases e with
  | directory =>
    rw [Option.bind_eq_none_iff]
    intro ns hns
    obtain ⟨hne, rfl⟩ := below?_eq_some_iff.1 hns
    have hget := (h.get?_eq_some_iff (by simp [hne])).2 hmem
    rw [h.join_eq_below hroot hget hne, h.pathFault?_eq hroot hget, if_neg fun hlong => hshort ⟨ns, hget, hlong⟩]
  | file => rfl
  | link => rfl
  | full => rfl

theorem Sound.fault?_eq_some (h : t.Sound) (hroot : t.find path = .ok (root, .directory)) (hlong : t.Overlong root path) :
    Archive.fault? t root path = some .nameTooLong := by
  obtain ⟨ns, hget, hlong⟩ := hlong
  have hne : ns ≠ [] := by
    rintro rfl
    have hshort := (pathFault?_eq_none_iff.1 (pathFault?_of_find hroot)).2.2
    exact Nat.not_lt.2 hlong hshort
  have hfault : Archive.fault? t root path ≠ none := by
    rw [Archive.fault?, ne_eq, List.findSome?_eq_none_iff]
    intro hnone
    have hns := hnone _ ((h.get?_eq_some_iff (by simp [hne])).1 hget)
    dsimp only at hns
    rw [below?_eq_some_iff.2 ⟨hne, rfl⟩, Option.bind_some, h.join_eq_below hroot hget hne, h.pathFault?_eq hroot hget,
      if_pos hlong] at hns
    cases hns
  -- Whatever is wrong with a path is that.
  obtain ⟨fault, hsome⟩ := Option.ne_none_iff_exists'.1 hfault
  obtain ⟨⟨l, e⟩, hmem, hfound⟩ := List.exists_of_findSome?_eq_some hsome
  cases e with
  | directory =>
    obtain ⟨ms, hms, htext⟩ := Option.bind_eq_some_iff.1 hfound
    obtain ⟨hne, rfl⟩ := below?_eq_some_iff.1 hms
    have hget := (h.get?_eq_some_iff (by simp [hne])).2 hmem
    rw [h.join_eq_below hroot hget hne, h.pathFault?_eq hroot hget] at htext
    split at htext
    · rw [hsome, htext]
    · cases htext
  | file => cases hfound
  | link => cases hfound
  | full => cases hfound

theorem Relisted.fileBelow {t' : FileTree} (h : Relisted t t') : t'.FileBelow root ns content ↔ t.FileBelow root ns content := by
  rw [FileBelow, FileBelow, h.get?]

theorem Relisted.overlong {t' : FileTree} (h : Relisted t t') : t'.Overlong root path ↔ t.Overlong root path := by
  simp only [Overlong, h.get?]

end

end FileTree

/-! ## Listing and reading -/

namespace Archive

open FileTree (Sound FileBelow Overlong)

variable {t : FileTree} {path : String} {root : Location} {ns : List String} {content : ByteArray}

theorem entryNames_overlong (h : t.Sound) (hroot : t.find path = .ok (root, .directory)) (hlong : t.Overlong root path) :
    entryNames t (.directory path) = .error (.files .nameTooLong) := by
  simp only [entryNames, hroot, h.fault?_eq_some hroot hlong]

theorem exists_entryNames (h : t.Sound) (hroot : t.find path = .ok (root, .directory)) (hshort : ¬t.Overlong root path) :
    ∃ names, entryNames t (.directory path) = .ok names ∧ names.Pairwise (· < ·) ∧
      ∀ name, name ∈ names ↔ ∃ ns content, t.FileBelow root ns content ∧ name = Text.join "/" ns := by
  have hperm := List.mergeSort_perm (filesBelow t root) fun a b => decide (a ≤ b)
  refine ⟨(filesBelow t root).mergeSort fun a b => decide (a ≤ b), ?_, ?_, fun name => ?_⟩
  · simp only [entryNames, hroot, h.fault?_eq_none hroot hshort]
  · have htrans (a b c : String) (hab : decide (a ≤ b) = true) (hbc : decide (b ≤ c) = true) : decide (a ≤ c) = true :=
      decide_eq_true (le_trans (of_decide_eq_true hab) (of_decide_eq_true hbc))
    have htotal (a b : String) : (decide (a ≤ b) || decide (b ≤ a)) = true := by simpa using le_total a b
    have hsorted := List.pairwise_mergeSort htrans htotal (filesBelow t root)
    have hdistinct := hperm.nodup_iff.2 (h.nodup_filesBelow root)
    exact (hsorted.and hdistinct).imp fun hab => lt_of_le_of_ne (of_decide_eq_true hab.1) hab.2
  · rw [hperm.mem_iff, h.mem_filesBelow]

theorem readEntry_directory (t : FileTree) (name path : String) :
    readEntry t name (.directory path) =
      match t.readText (Path.join path name) with
      | .ok text => .ok text
      | .error fault => .error (.files fault) := by
  rfl

/-- An entry that is listed is read from the very file that it names, unless its path is too long. -/
theorem readEntry_fileBelow (h : t.Sound) (hroot : t.find path = .ok (root, .directory))
    (hfile : t.FileBelow root ns content) :
    readEntry t (Text.join "/" ns) (.directory path) =
      if 4096 ≤ (Path.join path (Text.join "/" ns)).utf8ByteSize then .error (.files .nameTooLong)
      else match String.fromUTF8? content with
        | some text => .ok text
        | none => .error (.files .notText) := by
  obtain ⟨hne, hget⟩ := hfile
  have hfault := h.pathFault?_eq hroot hget
  rw [readEntry_directory, h.join_eq_below hroot hget hne, FileTree.readText, FileTree.read]
  by_cases hlong : 4096 ≤ (Path.below path ns).utf8ByteSize
  · rw [if_pos hlong] at hfault
    have hfind : t.find (Path.below path ns) = .error .nameTooLong := by
      simp only [FileTree.find, FileTree.reach, hfault]
    simp only [hfind, if_pos hlong]
  · rw [if_neg hlong] at hfault
    rw [h.find_below hroot hget (by simp) hfault, if_neg hlong]
    dsimp only
    cases String.fromUTF8? content <;> rfl

theorem entryNames_relisted (h : t.Sound) (hroot : t.find path = .ok (root, .directory))
    {entries : List (Location × Entry)} (hperm : entries.Perm t.entries) :
    entryNames { t with entries } (.directory path) = entryNames t (.directory path) := by
  have hlisted := h.relisted hperm
  have hsound := h.of_perm hperm
  have hroot' : FileTree.find { t with entries } path = .ok (root, .directory) := by rw [hlisted.find, hroot]
  by_cases hlong : t.Overlong root path
  · rw [entryNames_overlong h hroot hlong, entryNames_overlong hsound hroot' (hlisted.overlong.2 hlong)]
  · obtain ⟨names, heq, hsorted, hmem⟩ := exists_entryNames h hroot hlong
    obtain ⟨names', heq', hsorted', hmem'⟩ := exists_entryNames hsound hroot' (mt hlisted.overlong.1 hlong)
    simp only [hlisted.fileBelow] at hmem'
    rw [heq, heq', eq_of_pairwise (fun a b => lt_asymm) hsorted hsorted' fun name => (hmem name).trans (hmem' name).symm]

theorem readEntry_relisted {t' : FileTree} (h : t.Relisted t') (name : String) :
    readEntry t' name (.directory path) = readEntry t name (.directory path) := by
  rw [readEntry_directory, readEntry_directory, FileTree.readText, FileTree.readText, FileTree.read, FileTree.read, h.find]

/-! ## The entry for a source file -/

/-- The entry that is chosen for a source file: one of that very name, or else, if that name has a slash, the first in the
order of bytes that ends in it. -/
def Chosen (names : List String) (candidate entry : String) : Prop :=
  entry ∈ names ∧ (entry = candidate ∨
    candidate ∉ names ∧ '/' ∈ candidate.toList ∧ EndsIn candidate entry ∧
      ∀ other ∈ names, EndsIn candidate other → other = entry ∨ bytesOf entry < bytesOf other)

theorem Chosen.unique {names : List String} {candidate entry entry' : String} (h : Chosen names candidate entry)
    (h' : Chosen names candidate entry') : entry = entry' := by
  obtain ⟨hmem, rfl | ⟨hnot, -, hends, hleast⟩⟩ := h
  · obtain ⟨-, rfl | ⟨hnot, -⟩⟩ := h'
    · rfl
    · exact absurd hmem hnot
  · obtain ⟨hmem', rfl | ⟨-, -, hends', hleast'⟩⟩ := h'
    · exact absurd hmem' hnot
    · rcases hleast entry' hmem' hends' with heq | hlt
      · exact heq.symm
      · rcases hleast' entry hmem hends with heq | hgt
        · exact heq
        · exact absurd (lt_iff_bytes_lt.2 hlt) (lt_iff_bytes_lt.2 hgt).asymm

theorem chosen_of_found {names : List String} (hsorted : names.Pairwise (· < ·)) {candidate entry : String}
    (h : findEntry? names candidate = some entry) : Chosen names candidate entry := by
  rcases cases_of_found h with ⟨hmem, rfl⟩ | ⟨hnot, hslash, before, after, rfl, hends, hbefore⟩
  · exact ⟨hmem, .inl rfl⟩
  · refine ⟨by simp, .inr ⟨hnot, hslash, hends, fun other hother hends' => ?_⟩⟩
    -- What stands before does not end in the name; what stands behind comes later.
    rcases List.mem_append.1 hother with hfront | hbehind
    · exact absurd hends' (hbefore other hfront)
    · rcases List.mem_cons.1 hbehind with heq | hbehind
      · exact .inl heq
      · have hlater := List.pairwise_cons.1 (List.pairwise_append.1 hsorted).2.1
        exact .inr (lt_iff_bytes_lt.1 (hlater.1 other hbehind))

theorem findEntry?_eq_some_iff {names : List String} (hsorted : names.Pairwise (· < ·)) {candidate entry : String} :
    findEntry? names candidate = some entry ↔ Chosen names candidate entry := by
  refine ⟨chosen_of_found hsorted, fun h => ?_⟩
  cases hfound : findEntry? names candidate with
  | some entry' => rw [(chosen_of_found hsorted hfound).unique h]
  | none =>
    obtain ⟨hnot, hends⟩ := findEntry?_eq_none_iff.1 hfound
    obtain ⟨hmem, rfl | ⟨-, hslash, hsuffix, -⟩⟩ := h
    · exact absurd hmem hnot
    · exact absurd hsuffix (hends hslash _ hmem)

end Archive

/-! ## Reading a line -/

/-- Line `line` of a file, unless the file is no text. -/
def lineIn (content : ByteArray) (line : UInt32) : Option String :=
  (String.fromUTF8? content).bind fun text =>
    if line = 0 then none else ((Text.lines text.toList).map String.ofList)[line.toNat - 1]?

/-- A locator that remembers nothing yet finds what the archives hold. -/
theorem Locator.textOf_ofArchives (archives : List Archive) (rule : SiteMatch) (t : FileTree) (className : String)
    (line : UInt32) :
    ((ofArchives archives rule).textOf t className line).1 =
      firstLine (ClassName.sourceFile className) line (archives.map (·.holding t)) := by
  have hseen := Shelf.search_seen rfl (ClassName.sourceFile className) line (shelves_seen (t = ·) archives rule)
  have hagrees := Shelf.agrees_of_seen hseen fun t' ht a _ => congrArg a.holding ht.symm
  exact (Shelf.search_agrees t _ line hagrees).2

theorem firstLine_append {candidate : String} {line : UInt32} {hs : List Holding}
    (h : ∀ held ∈ hs, Archive.findEntry? held.entries candidate = none) (hs' : List Holding) :
    firstLine candidate line (hs ++ hs') = firstLine candidate line hs' := by
  induction hs with
  | nil => rfl
  | cons held hs ih =>
    obtain ⟨hfirst, hrest⟩ := List.forall_mem_cons.1 h
    rw [List.cons_append, firstLine, hfirst]
    exact ih hrest

namespace Archive

variable {t : FileTree} {path : String} {root : Location}

/-- A line of an entry that is listed is one of the file that it names. -/
theorem holding_lines (h : t.Sound) (hroot : t.find path = .ok (root, .directory)) {ns : List String}
    {content : ByteArray} (hfile : t.FileBelow root ns content) (line : UInt32) :
    (((directory path).holding t).lines (Text.join "/" ns)).bind
        (fun lines => if line = 0 then none else lines[line.toNat - 1]?) =
      if 4096 ≤ (Path.join path (Text.join "/" ns)).utf8ByteSize then none else lineIn content line := by
  have hlines : ((directory path).holding t).lines (Text.join "/" ns) =
      (readEntry t (Text.join "/" ns) (directory path)).toOption.map fun text =>
        ((Text.lines text.toList).map String.ofList).toArray := rfl
  rw [hlines, readEntry_fileBelow h hroot hfile, lineIn]
  split
  · rfl
  · cases String.fromUTF8? content with
    | none => rfl
    | some text => simp [Except.toOption]

/-- What is consulted for a source file in a directory, if the archives before it do not have the file. -/
theorem textOf_directory (h : t.Sound) (hroot : t.find path = .ok (root, .directory)) {names : List String}
    (hnames : entryNames t (directory path) = .ok names) (hsorted : names.Pairwise (· < ·))
    (hmem : ∀ name, name ∈ names ↔ ∃ ns content, t.FileBelow root ns content ∧ name = Text.join "/" ns)
    {before : List Archive} (after : List Archive) (rule : SiteMatch) {className : String} (line : UInt32)
    (hbefore : ∀ a ∈ before, findEntry? (a.holding t).entries (ClassName.sourceFile className) = none) :
    (∃ ns content, t.FileBelow root ns content ∧ Chosen names (ClassName.sourceFile className) (Text.join "/" ns) ∧
        ((Locator.ofArchives (before ++ directory path :: after) rule).textOf t className line).1 =
          if 4096 ≤ (Path.join path (Text.join "/" ns)).utf8ByteSize then none else lineIn content line) ∨
      ClassName.sourceFile className ∉ names ∧
        ('/' ∈ (ClassName.sourceFile className).toList → ∀ name ∈ names, ¬EndsIn (ClassName.sourceFile className) name) ∧
        ((Locator.ofArchives (before ++ directory path :: after) rule).textOf t className line).1 =
          ((Locator.ofArchives after rule).textOf t className line).1 := by
  have hentries : ((directory path).holding t).entries = names := by
    have heq : ((directory path).holding t).entries = (entryNames t (directory path)).toOption.getD [] := rfl
    rw [heq, hnames]
    rfl
  have hheld : ∀ held ∈ before.map (·.holding t), findEntry? held.entries (ClassName.sourceFile className) = none := by
    intro held hmem
    obtain ⟨a, ha, rfl⟩ := List.mem_map.1 hmem
    exact hbefore a ha
  rw [Locator.textOf_ofArchives, Locator.textOf_ofArchives, List.map_append, List.map_cons, firstLine_append hheld, firstLine,
    hentries]
  cases hfound : findEntry? names (ClassName.sourceFile className) with
  | none =>
    obtain ⟨hnot, hends⟩ := findEntry?_eq_none_iff.1 hfound
    exact .inr ⟨hnot, hends, rfl⟩
  | some entry =>
    have hchosen := (findEntry?_eq_some_iff hsorted).1 hfound
    obtain ⟨ns, content, hfile, rfl⟩ := (hmem entry).1 hchosen.1
    exact .inl ⟨ns, content, hfile, hchosen, holding_lines h hroot hfile line⟩

/-! ## Main theorem -/

/-- The archive of a directory lists the files below it by their names from there, each once and in the order of bytes,
unless the path of some directory below is too long. What it reads under such a name is the very file, unless its path is
too long, and for a source file, if no archive before has it, it reads the entry that is chosen for it. The order in which
files are listed does not matter. -/
theorem directory_spec (h : t.Sound) (hroot : t.find path = .ok (root, .directory)) :
    (t.Overlong root path → entryNames t (directory path) = .error (.files .nameTooLong)) ∧
      (¬t.Overlong root path → ∃ names, entryNames t (directory path) = .ok names ∧
        (names.Pairwise fun a b => bytesOf a < bytesOf b) ∧
        (∀ name, name ∈ names ↔ ∃ ns content, t.FileBelow root ns content ∧ name = Text.join "/" ns) ∧
        ∀ (before after : List Archive) (rule : SiteMatch) (className : String) (line : UInt32),
          (∀ a ∈ before, findEntry? (a.holding t).entries (ClassName.sourceFile className) = none) →
          (∃ ns content, t.FileBelow root ns content ∧
            Chosen names (ClassName.sourceFile className) (Text.join "/" ns) ∧
            ((Locator.ofArchives (before ++ directory path :: after) rule).textOf t className line).1 =
              if 4096 ≤ (Path.join path (Text.join "/" ns)).utf8ByteSize then none else lineIn content line) ∨
          ClassName.sourceFile className ∉ names ∧
            ('/' ∈ (ClassName.sourceFile className).toList →
              ∀ name ∈ names, ¬EndsIn (ClassName.sourceFile className) name) ∧
            ((Locator.ofArchives (before ++ directory path :: after) rule).textOf t className line).1 =
              ((Locator.ofArchives after rule).textOf t className line).1) ∧
      (∀ ns content, t.FileBelow root ns content →
        readEntry t (Text.join "/" ns) (directory path) =
          if 4096 ≤ (Path.join path (Text.join "/" ns)).utf8ByteSize then .error (.files .nameTooLong)
          else match String.fromUTF8? content with
            | some text => .ok text
            | none => .error (.files .notText)) ∧
      ∀ entries : List (Location × Entry), entries.Perm t.entries →
        entryNames { t with entries } (directory path) = entryNames t (directory path) ∧
          ∀ name, readEntry { t with entries } name (directory path) = readEntry t name (directory path) := by
  refine ⟨entryNames_overlong h hroot, fun hshort => ?_, fun ns content => readEntry_fileBelow h hroot,
    fun entries hperm => ⟨entryNames_relisted h hroot hperm, readEntry_relisted (h.relisted hperm)⟩⟩
  obtain ⟨names, hnames, hsorted, hmem⟩ := exists_entryNames h hroot hshort
  refine ⟨names, hnames, hsorted.imp lt_iff_bytes_lt.1, hmem, fun before after rule className line hbefore => ?_⟩
  exact textOf_directory h hroot hnames hsorted hmem after rule line hbefore

/-- A source file below each of two source roots. -/
def twoRoots : FileTree where
  entries := [(["d"], .directory), (["d", "q"], .directory), (["d", "q", "a"], .directory),
    (["d", "q", "a", "X.java"], .file "two".toUTF8), (["d", "p"], .directory), (["d", "p", "a"], .directory),
    (["d", "p", "a", "X.java"], .file "one".toUTF8)]
  home := []

/-- The file of the root that comes first in order is read, though it is listed last. -/
theorem textOf_twoRoots :
    ∃ names, entryNames twoRoots (directory "d") = .ok names ∧ "p/a/X.java" ∈ names ∧ "q/a/X.java" ∈ names ∧
      ((Locator.ofArchives [directory "d"] .first).textOf twoRoots "La/X;" 1).1 = some "one" := by
  have hsound : twoRoots.Sound := by decide
  have hroot : twoRoots.find "d" = .ok (["d"], .directory) := FileTree.find_name (by decide) (by decide) (by simp)
  have hshort : ¬twoRoots.Overlong ["d"] "d" := by
    rintro ⟨ns, hget, hlong⟩
    have hmem := (hsound.get?_eq_some_iff (by simp)).1 hget
    have hns : ns ∈ [[], ["q"], ["q", "a"], ["p"], ["p", "a"]] := by simpa [twoRoots] using hmem
    have hall : ∀ ns ∈ [[], ["q"], ["q", "a"], ["p"], ["p", "a"]], (Path.below "d" ns).utf8ByteSize < 4096 := by
      decide
    exact Nat.not_lt.2 hlong (hall ns hns)
  have hfile {ns : List String} {content : ByteArray} (h : twoRoots.FileBelow ["d"] ns content) :
      ns = ["q", "a", "X.java"] ∧ content = "two".toUTF8 ∨ ns = ["p", "a", "X.java"] ∧ content = "one".toUTF8 := by
    have hmem := (hsound.get?_eq_some_iff (by simp)).1 h.2
    simpa [twoRoots] using hmem
  obtain ⟨-, hlisted, -⟩ := directory_spec hsound hroot
  obtain ⟨names, hnames, -, hmem, htext⟩ := hlisted hshort
  have hp : "p/a/X.java" ∈ names := (hmem _).2 ⟨["p", "a", "X.java"], "one".toUTF8, ⟨by simp, by decide⟩, rfl⟩
  have hq : "q/a/X.java" ∈ names := (hmem _).2 ⟨["q", "a", "X.java"], "two".toUTF8, ⟨by simp, by decide⟩, rfl⟩
  have hclass : ClassName.sourceFile "La/X;" = "a/X.java" := by decide
  have hends : EndsIn "a/X.java" "p/a/X.java" := by decide
  refine ⟨names, hnames, hp, hq, ?_⟩
  rcases htext [] [] .first "La/X;" 1 (by simp) with ⟨ns, content, hbelow, hchosen, hline⟩ | ⟨-, hnone, -⟩
  · rcases hfile hbelow with ⟨rfl, rfl⟩ | ⟨rfl, rfl⟩
    · -- Of the two the other one is first.
      rw [hclass] at hchosen
      obtain ⟨-, heq | ⟨-, -, -, hleast⟩⟩ := hchosen
      · exact absurd heq (by decide)
      · exact absurd (hleast "p/a/X.java" hp hends) (by decide)
    · exact hline.trans (by decide)
  · rw [hclass] at hnone
    exact absurd hends (hnone (by decide) _ hp)

/-- A source file in a directory. -/
def lone : FileTree where
  entries := [(["d"], .directory), (["d", "A.java"], .file "x".toUTF8)]
  home := []

theorem lone_sound : lone.Sound := by decide

theorem find_lone : lone.find "d" = .ok (["d"], .directory) :=
  FileTree.find_name (by decide) (by decide) (by simp)

theorem fileBelow_lone : lone.FileBelow ["d"] ["A.java"] "x".toUTF8 := ⟨by simp, by decide⟩

theorem directory_of_lone {ns : List String} (h : lone.get? (["d"] ++ ns) = some .directory) : ns = [] := by
  have hmem := (lone_sound.get?_eq_some_iff (by simp)).1 h
  simpa [lone] using hmem

/-- Slashes behind one another. -/
def slashes : Nat → String
  | 0 => ""
  | n + 1 => slashes n ++ "/"

theorem slashes_succ (n : Nat) : slashes (n + 1) = slashes n ++ "/" := rfl

theorem utf8ByteSize_slashes (n : Nat) : (slashes n).utf8ByteSize = n := by
  induction n with
  | zero => rfl
  | succ n ih =>
    rw [slashes_succ, String.utf8ByteSize_append, ih]
    rfl

theorem nul_notMem_slashes (n : Nat) : '\x00' ∉ (slashes n).toList := by
  induction n with
  | zero => simp [slashes]
  | succ n ih => simp [slashes_succ, ih]

theorem endsWithSlash_slashes (p : String) (n : Nat) : Path.endsWithSlash (p ++ slashes (n + 1)) = true := by
  simp [Path.endsWithSlash, slashes_succ]

/-- A directory is found with any number of slashes behind its path, if they fit. -/
theorem find_slashes {t : FileTree} {p : String} {place : Location} (h : t.find p = .ok (place, .directory)) {n : Nat}
    (hn : p.utf8ByteSize + n < 4096) : t.find (p ++ slashes n) = .ok (place, .directory) := by
  induction n with
  | zero => rwa [slashes, String.append_empty]
  | succ n ih =>
    obtain ⟨hnul, hne, -⟩ := FileTree.pathFault?_eq_none_iff.1 (FileTree.pathFault?_of_find h)
    rw [slashes_succ, ← String.append_assoc]
    refine FileTree.find_slash (ih (by omega)) (FileTree.pathFault?_eq_none_iff.2 ⟨?_, ?_, ?_⟩)
    · simp [hnul, nul_notMem_slashes]
    · simp
    · rw [String.utf8ByteSize_append, String.utf8ByteSize_append, utf8ByteSize_slashes]
      exact Nat.lt_of_le_of_lt (Nat.add_assoc _ _ _).le hn

/-- A directory is listed under a path that leaves no room for the name of a file, and the file is not read. -/
theorem read_overlong :
    ∃ names, entryNames lone (directory ("d" ++ slashes 4090)) = .ok names ∧ "A.java" ∈ names ∧
      lone.FileBelow ["d"] ["A.java"] "x".toUTF8 ∧
      readEntry lone "A.java" (directory ("d" ++ slashes 4090)) = .error (.files .nameTooLong) := by
  have hsize : ("d" ++ slashes 4090).utf8ByteSize = 4091 := by
    rw [String.utf8ByteSize_append, utf8ByteSize_slashes]
    rfl
  have hroot : lone.find ("d" ++ slashes 4090) = .ok (["d"], .directory) := find_slashes find_lone (by decide)
  have hshort : ¬lone.Overlong ["d"] ("d" ++ slashes 4090) := by
    rintro ⟨ns, hget, hlong⟩
    obtain rfl := directory_of_lone hget
    rw [Path.below_nil, hsize] at hlong
    exact absurd hlong (by decide)
  obtain ⟨names, hnames, -, hmem⟩ := exists_entryNames lone_sound hroot hshort
  refine ⟨names, hnames, (hmem _).2 ⟨_, _, fileBelow_lone, rfl⟩, fileBelow_lone, ?_⟩
  have hread := readEntry_fileBelow lone_sound hroot fileBelow_lone
  have hlong : 4096 ≤ (Path.join ("d" ++ slashes 4090) (Text.join "/" ["A.java"])).utf8ByteSize := by
    have hjoin : Path.join ("d" ++ slashes 4090) "A.java" = "d" ++ slashes 4090 ++ "A.java" := by
      rw [Path.join_eq (by simp) ⟨by decide, by decide⟩, endsWithSlash_slashes, if_pos rfl]
    rw [show Text.join "/" ["A.java"] = "A.java" from rfl, hjoin, String.utf8ByteSize_append, hsize]
    decide
  rwa [if_pos hlong] at hread

end Archive

end CallGraph
