import CallGraph.Source.Locator
import Mathlib.Data.List.Forall2
/-!
# What archives hold

A search for a source line remembers what it reads. So the answers of many searches, made while the files change, are
those of one look at the archives: `locate_agrees` takes them from any holdings that agree with what is remembered at the
end, and `exists_holdings` says that there are such, each part of which an archive had at some moment.
-/

namespace CallGraph

/-- The entries of an archive, and the lines of those that can be read. -/
structure Holding where
  entries : List String
  lines : String → Option (Array String)

/-- What an archive holds while the files are as in `t`; nothing if it cannot be listed. -/
def Archive.holding (t : FileTree) (a : Archive) : Holding where
  entries := (a.entryNames t).toOption.getD []
  lines entry := (a.readEntry t entry).toOption.map fun text => ((Text.lines text.toList).map String.ofList).toArray

/-- Line `line` of the file `candidate` in the first holding that has it. -/
def firstLine (candidate : String) (line : UInt32) : List Holding → Option String
  | [] => none
  | h :: rest =>
    match Archive.findEntry? h.entries candidate with
    | none => firstLine candidate line rest
    | some entry => (h.lines entry).bind fun lines => if line = 0 then none else lines[line.toNat - 1]?

/-- The source line of a call site of `m`, if the archives hold these. -/
def Method.sourceLine (m : Method) (s : CallSite) (rule : SiteMatch) (withText : Bool) (hs : List Holding) :
    Except Unresolved (Option SourceLine) :=
  let file := ClassName.sourceFile m.signature.declaringClass
  (m.siteLine s rule).map fun found =>
    found.map fun line => ⟨file, line, if withText then firstLine file line hs else none⟩

/-! ## What is remembered -/

/-- A shelf remembers nothing that the holding does not have. -/
structure Shelf.Agrees (s : Shelf) (h : Holding) : Prop where
  listing : ∀ names, s.listing = some names → names = h.entries
  texts : ∀ entry lines, s.texts[entry]? = some lines → lines = h.lines entry

namespace Shelf

variable {s : Shelf} {h : Holding} {t : FileTree}

theorem exists_agrees (shelves : List Shelf) : ∃ hs, List.Forall₂ Agrees shelves hs := by
  refine ⟨shelves.map fun s => ⟨s.listing.getD [], fun entry => s.texts[entry]?.getD none⟩, ?_⟩
  rw [List.forall₂_map_right_iff, List.forall₂_same]
  intro s _
  exact ⟨fun names hn => by simp only [hn, Option.getD_some], fun entry lines hl => by simp only [hl, Option.getD_some]⟩

theorem Agrees.of_rememberEntries (ha : (s.rememberEntries t).Agrees h) :
    s.Agrees h ∧ s.entries t = h.entries := by
  have hentries : s.entries t = h.entries := ha.listing _ rfl
  refine ⟨⟨fun names hn => ?_, ha.texts⟩, hentries⟩
  rw [← hentries, entries, hn]

theorem Agrees.of_rememberLines {entry : String} (ha : (s.rememberLines t entry).Agrees h) :
    s.Agrees h ∧ s.linesOf t entry = h.lines entry := by
  have hself : (s.rememberLines t entry).texts[entry]? = some (s.linesOf t entry) := by
    rw [rememberLines, Std.HashMap.getElem?_insert_self]
  have hlines : s.linesOf t entry = h.lines entry := ha.texts entry _ hself
  refine ⟨⟨ha.listing, fun entry' lines hl => ?_⟩, hlines⟩
  -- An entry that was read before is remembered as it was.
  by_cases he : entry = entry'
  · subst he
    rw [← hlines, linesOf, hl]
  · refine ha.texts entry' lines ?_
    rw [rememberLines, Std.HashMap.getElem?_insert]
    simpa [he] using hl

/-! ## A search and what it meets -/

/-- A search looks at one shelf after the other, up to the first with an entry for the file. -/
theorem search_cons (t : FileTree) (candidate : String) (line : UInt32) (s : Shelf) (rest : List Shelf) :
    search t candidate line (s :: rest) =
      match Archive.findEntry? (s.entries t) candidate with
      | none => ((search t candidate line rest).1, s.rememberEntries t :: (search t candidate line rest).2)
      | some entry =>
        ((s.linesOf t entry).bind fun lines => if line = 0 then none else lines[line.toNat - 1]?,
          (s.rememberEntries t).rememberLines t entry :: rest) := by
  have hself (entry : String) : ((s.rememberEntries t).rememberLines t entry).linesOf t entry = s.linesOf t entry := by
    rw [linesOf, rememberLines, Std.HashMap.getElem?_insert_self]
    rfl
  rw [search]
  cases hfind : Archive.findEntry? (s.entries t) candidate with
  | none =>
    have hfind : Archive.findEntry? ((s.rememberEntries t).entries t) candidate = none := hfind
    simp only [hfind]
  | some entry =>
    have hfind : Archive.findEntry? ((s.rememberEntries t).entries t) candidate = some entry := hfind
    simp only [hfind, hself]

/-- What a search meets, for holdings that have what it leaves remembered: their entries on its way, and their lines where
it ends. -/
inductive Meets (t : FileTree) (candidate : String) : List Shelf → List Holding → Prop
  | nil : Meets t candidate [] []
  | pass {s : Shelf} {rest : List Shelf} {h : Holding} {hs : List Holding} (agrees : s.Agrees h)
      (entries : s.entries t = h.entries) (find : Archive.findEntry? h.entries candidate = none)
      (later : Meets t candidate rest hs) : Meets t candidate (s :: rest) (h :: hs)
  | found {s : Shelf} {rest : List Shelf} {h : Holding} {hs : List Holding} {entry : String} (agrees : s.Agrees h)
      (entries : s.entries t = h.entries) (find : Archive.findEntry? h.entries candidate = some entry)
      (lines : s.linesOf t entry = h.lines entry) (later : List.Forall₂ Agrees rest hs) :
      Meets t candidate (s :: rest) (h :: hs)

theorem meets_of_agrees {candidate : String} {line : UInt32} {shelves : List Shelf} {hs : List Holding}
    (ha : List.Forall₂ Agrees (search t candidate line shelves).2 hs) : Meets t candidate shelves hs := by
  -- What a shelf remembers it goes on remembering, so agreement afterwards is agreement before.
  induction shelves generalizing hs with
  | nil =>
    cases ha
    exact .nil
  | cons s rest ih =>
    rw [search_cons] at ha
    cases hfind : Archive.findEntry? (s.entries t) candidate with
    | none =>
      rw [hfind] at ha
      obtain ⟨h, hs', hhead, hrest, rfl⟩ := List.forall₂_cons_left_iff.1 ha
      obtain ⟨hs, hentries⟩ := hhead.of_rememberEntries
      exact .pass hs hentries (hentries ▸ hfind) (ih hrest)
    | some entry =>
      rw [hfind] at ha
      obtain ⟨h, hs', hhead, hrest, rfl⟩ := List.forall₂_cons_left_iff.1 ha
      obtain ⟨hmiddle, hlines⟩ := hhead.of_rememberLines
      obtain ⟨hs, hentries⟩ := hmiddle.of_rememberEntries
      exact .found hs hentries (hentries ▸ hfind) hlines hrest

theorem Meets.before {candidate : String} {shelves : List Shelf} {hs : List Holding} (h : Meets t candidate shelves hs) :
    List.Forall₂ Agrees shelves hs := by
  induction h with
  | nil => exact .nil
  | pass agrees _ _ _ ih => exact .cons agrees ih
  | found agrees _ _ _ later => exact .cons agrees later

/-- A search answers as the holdings do that agree with what it leaves remembered; these agreed before it as well. -/
theorem search_agrees (t : FileTree) (candidate : String) (line : UInt32) {shelves : List Shelf} {hs : List Holding}
    (ha : List.Forall₂ Agrees (search t candidate line shelves).2 hs) :
    List.Forall₂ Agrees shelves hs ∧ (search t candidate line shelves).1 = firstLine candidate line hs := by
  have h := meets_of_agrees ha
  refine ⟨h.before, ?_⟩
  clear ha
  induction h with
  | nil => rfl
  | pass _ entries find _ ih => rw [search_cons, firstLine, entries, find, ih]
  | found _ entries find lines _ =>
    rw [search_cons, firstLine, entries, find]
    simp only [lines]

end Shelf

/-- To locate a call site says what the holdings say that agree with what is remembered afterwards. -/
theorem Locator.locate_agrees (loc : Locator) (t : FileTree) (m : Method) (s : CallSite) (withText : Bool)
    (hs : List Holding) (ha : List.Forall₂ Shelf.Agrees (loc.locate t m s withText).2.shelves hs) :
    List.Forall₂ Shelf.Agrees loc.shelves hs ∧
      (loc.locate t m s withText).1 = m.sourceLine s loc.rule withText hs := by
  unfold locate at ha ⊢
  unfold Method.sourceLine
  cases hl : m.siteLine s loc.rule with
  | error cause =>
    rw [hl] at ha
    exact ⟨ha, rfl⟩
  | ok found =>
    rw [hl] at ha
    cases found with
    | none => exact ⟨ha, rfl⟩
    | some line =>
      cases withText with
      | false => exact ⟨ha, rfl⟩
      | true =>
        obtain ⟨hagree, htext⟩ := Shelf.search_agrees t _ line ha
        refine ⟨hagree, ?_⟩
        simp only [if_true, textOf, htext]
        rfl

/-! ## When it was seen -/

/-- Each part of a holding is what the archive had at some moment. -/
structure Holding.Seen (moments : FileTree → Prop) (a : Archive) (h : Holding) : Prop where
  entries : ∃ t, moments t ∧ h.entries = (a.holding t).entries
  lines : ∀ entry, ∃ t, moments t ∧ h.lines entry = (a.holding t).lines entry

/-- Whatever a shelf remembers, the archive had at some moment. -/
structure Shelf.Seen (moments : FileTree → Prop) (a : Archive) (s : Shelf) : Prop where
  archive : s.archive = a
  listing : ∀ names, s.listing = some names → ∃ t, moments t ∧ names = (a.holding t).entries
  texts : ∀ entry lines, s.texts[entry]? = some lines → ∃ t, moments t ∧ lines = (a.holding t).lines entry

namespace Shelf

variable {moments : FileTree → Prop} {a : Archive} {s : Shelf} {t : FileTree}

theorem Seen.fresh (moments : FileTree → Prop) (a : Archive) : Seen moments a { archive := a } :=
  ⟨rfl, by simp, by simp⟩

theorem Seen.entries (h : s.Seen moments a) (ht : moments t) :
    ∃ t', moments t' ∧ s.entries t = (a.holding t').entries := by
  unfold Shelf.entries
  split
  · next names hn => exact h.listing names hn
  · exact ⟨t, ht, by rw [h.archive]; rfl⟩

theorem Seen.linesOf (h : s.Seen moments a) (ht : moments t) (entry : String) :
    ∃ t', moments t' ∧ s.linesOf t entry = (a.holding t').lines entry := by
  unfold Shelf.linesOf
  split
  · next lines hl => exact h.texts entry lines hl
  · exact ⟨t, ht, by rw [h.archive]; rfl⟩

theorem Seen.rememberEntries (h : s.Seen moments a) (ht : moments t) : (s.rememberEntries t).Seen moments a := by
  refine ⟨h.archive, ?_, h.texts⟩
  intro names hn
  obtain rfl : s.entries t = names := by simpa [Shelf.rememberEntries] using hn
  exact h.entries ht

theorem Seen.rememberLines (h : s.Seen moments a) (ht : moments t) (entry : String) :
    (s.rememberLines t entry).Seen moments a := by
  refine ⟨h.archive, h.listing, ?_⟩
  intro entry' lines hl
  rw [Shelf.rememberLines, Std.HashMap.getElem?_insert] at hl
  by_cases he : entry = entry'
  · subst he
    obtain rfl : s.linesOf t entry = lines := by simpa using hl
    exact h.linesOf ht entry
  · exact h.texts entry' lines (by simpa [he] using hl)

theorem search_seen (ht : moments t) (candidate : String) (line : UInt32) {archives : List Archive}
    {shelves : List Shelf} (h : List.Forall₂ (Seen moments) archives shelves) :
    List.Forall₂ (Seen moments) archives (search t candidate line shelves).2 := by
  induction h with
  | nil => exact .nil
  | cons hs hrest ih =>
    unfold search
    dsimp only
    have hs' := hs.rememberEntries ht
    split
    · exact .cons hs' ih
    · exact .cons (hs'.rememberLines ht _) hrest

/-- A shelf agrees with what the archive had, part by part; what is not remembered may be from any moment. -/
theorem Seen.exists_holding (h : s.Seen moments a) (ht : moments t) :
    ∃ held : Holding, held.Seen moments a ∧ s.Agrees held := by
  refine ⟨⟨s.entries t, s.linesOf t⟩, ⟨h.entries ht, h.linesOf ht⟩, fun names hn => ?_, fun entry lines hl => ?_⟩
  · simp only [Shelf.entries, hn]
  · simp only [Shelf.linesOf, hl]

/-- A shelf that was filled while its archive held the same at every moment agrees with that. -/
theorem Seen.agrees (h : s.Seen moments a) {held : Holding} (hheld : ∀ t, moments t → a.holding t = held) :
    s.Agrees held := by
  refine ⟨fun names hn => ?_, fun entry lines hl => ?_⟩
  · obtain ⟨t, ht, rfl⟩ := h.listing names hn
    rw [hheld t ht]
  · obtain ⟨t, ht, rfl⟩ := h.texts entry lines hl
    rw [hheld t ht]

theorem agrees_of_seen {held : Archive → Holding} {archives : List Archive} {shelves : List Shelf}
    (h : List.Forall₂ (Seen moments) archives shelves)
    (hheld : ∀ t, moments t → ∀ a ∈ archives, a.holding t = held a) :
    List.Forall₂ Agrees shelves (archives.map held) := by
  rw [List.forall₂_map_right_iff]
  refine List.Forall₂.flip ?_
  have hmem := (List.forall₂_and_left archives shelves).2 ⟨fun a ha => ha, h⟩
  exact hmem.imp fun a s ⟨ha, hs⟩ => hs.agrees fun t ht => hheld t ht a ha

theorem exists_holdings (ht : moments t) {archives : List Archive} {shelves : List Shelf}
    (h : List.Forall₂ (Seen moments) archives shelves) :
    ∃ hs, List.Forall₂ (Holding.Seen moments) archives hs ∧ List.Forall₂ Agrees shelves hs := by
  induction h with
  | nil => exact ⟨[], .nil, .nil⟩
  | cons hs hrest ih =>
    obtain ⟨held, hseen, hagree⟩ := hs.exists_holding ht
    obtain ⟨rest, hseens, hagrees⟩ := ih
    exact ⟨held :: rest, .cons hseen hseens, .cons hagree hagrees⟩

end Shelf

theorem shelves_seen (moments : FileTree → Prop) (archives : List Archive) (rule : SiteMatch) :
    List.Forall₂ (Shelf.Seen moments) archives (Locator.ofArchives archives rule).shelves := by
  rw [Locator.ofArchives, List.forall₂_map_right_iff, List.forall₂_same]
  exact fun a _ => .fresh moments a

theorem Locator.locate_seen {moments : FileTree → Prop} {t : FileTree} (ht : moments t) (loc : Locator) (m : Method)
    (s : CallSite) (withText : Bool) {archives : List Archive}
    (h : List.Forall₂ (Shelf.Seen moments) archives loc.shelves) :
    List.Forall₂ (Shelf.Seen moments) archives (loc.locate t m s withText).2.shelves := by
  unfold locate
  split
  · exact h
  · exact h
  · dsimp only
    split
    · exact Shelf.search_seen ht _ _ h
    · exact h

theorem Locator.locate_rule (loc : Locator) (t : FileTree) (m : Method) (s : CallSite) (withText : Bool) :
    (loc.locate t m s withText).2.rule = loc.rule := by
  unfold locate
  split
  · rfl
  · rfl
  · dsimp only
    split <;> rfl

end CallGraph
