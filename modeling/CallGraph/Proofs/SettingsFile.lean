import CallGraph.Proofs.Files
import CallGraph.Proofs.SettingsDocument
import CallGraph.Proofs.Text
import CallGraph.Settings.File
/-!
# Settings in a file

What is saved is loaded again, and what is taken out of the file is at its default: `load_save`. Settings with a number
that is too large for TOML are not saved, and no file changes.
-/

namespace CallGraph.Settings

variable {s : Settings} {files : FileTree} {path : String}

theorem load_eq_ok {text : String} (hread : files.readText path = .ok text)
    (hs : (Toml.ofText? text).bind ofToml? = some s) : load files path = .ok s := by
  rw [load, hread]
  dsimp only
  rw [hs]

theorem readText_eq_ok {text : String} (h : files.read path = .ok text.toUTF8) : files.readText path = .ok text := by
  rw [FileTree.readText, h]
  dsimp only
  rw [fromUTF8?_toUTF8]

theorem save_eq_ok {text : String} (htext : s.document.text? = some text) {l : Location}
    (hl : files.writable path = .ok l) (hfull : files.get? l ≠ some .full) :
    ∃ files', s.save files path = (.ok (), files') ∧ files'.readText path = .ok text := by
  obtain ⟨files', hwrite, -, hread⟩ := FileTree.write_eq_ok hl hfull text.toUTF8
  refine ⟨files', ?_, readText_eq_ok hread⟩
  rw [save, htext]
  dsimp only
  rw [hwrite]

theorem save_eq_error (h : ¬s.Fits) (files : FileTree) (path : String) :
    s.save files path = (.error (.misconfigured .settingsUnwritable), files) := by
  have hnone : s.document.text? = none := by
    rw [← s.text?_isSome_iff] at h
    simpa using h
  rw [save, hnone]

theorem saveNew_eq_error (h : ¬s.Fits) (files : FileTree) (new : Option String) (force : Bool) :
    ∃ cause, s.saveNew files new force = (.error (.misconfigured cause), files) := by
  unfold saveNew
  dsimp only
  split
  · exact ⟨_, rfl⟩
  · rw [save_eq_error h]
    exact ⟨_, rfl⟩

/-! ## Main theorem -/

/-- Settings whose numbers TOML has room for are saved to any file that takes bytes, and loading the file gives the same
settings. Taking tables and keys out of the saved text leaves texts that spell what stays; from every text that does,
wherever it stands, the same settings are loaded with what was taken out at its defaults. Settings with a larger number
are refused, and the files stay as they are. -/
theorem load_save (s : Settings) (files : FileTree) (path : String) :
    (s.Fits → ∀ l, files.writable path = .ok l → files.get? l ≠ some .full →
      ∃ files' text, s.save files path = (.ok (), files') ∧ files'.readText path = .ok text ∧
        load files' path = .ok s ∧
        ∀ sel : Selection, ∃ left : String, left.toList.Sublist text.toList ∧
          Toml.Spelled (sel.document s.document).statements left.toList) ∧
    (∀ (sel : Selection) (left : String) (edited : FileTree) (place : String),
      Toml.Spelled (sel.document s.document).statements left.toList → edited.readText place = .ok left →
        load edited place = .ok (sel.settings s)) ∧
    (¬s.Fits → s.save files path = (.error (.misconfigured .settingsUnwritable), files) ∧
      ∀ (new : Option String) (force : Bool), ∃ cause,
        s.saveNew files new force = (.error (.misconfigured cause), files)) := by
  refine ⟨?_, ?_, ?_⟩
  · intro hfits l hl hfull
    obtain ⟨text, htext⟩ := Option.isSome_iff_exists.1 (s.text?_isSome_iff.2 hfits)
    obtain ⟨files', hsave, hread⟩ := save_eq_ok htext hl hfull
    refine ⟨files', text, hsave, hread, load_eq_ok hread (s.ofText?_text htext), ?_⟩
    intro sel
    obtain ⟨left, hleft, hspelled⟩ := (s.spelled_text htext).sublist (sel.statements_sublist s.document)
    exact ⟨String.ofList left, by rwa [String.toList_ofList], by rwa [String.toList_ofList]⟩
  · intro sel left edited place hspelled hread
    exact load_eq_ok hread (s.ofText?_taken sel hspelled)
  · intro hfits
    exact ⟨save_eq_error hfits files path, saveNew_eq_error hfits files⟩

/-- Settings with texts that need every kind of quotes. -/
def quotedSettings : Settings where
  analysis := { exclusions := some "a\"b\\c\n'''\t\x07" }
  resolution := { sourceArchives := ["", "C:\\x", "it's \"\"\""] }
  output := { chunkSize := 9 }

/-- They are saved and loaded; without all but one of their keys they are the defaults but for that key; and with the
largest number of 64 bits they are not saved. -/
theorem load_save_quotedSettings :
    (∃ files', quotedSettings.save ⟨[], []⟩ "/c" = (.ok (), files') ∧ load files' "/c" = .ok quotedSettings) ∧
      load ⟨[(["c"], .file "[output]\n\nchunk_size = 9\n".toUTF8)], []⟩ "/c" = .ok { output := { chunkSize := 9 } } ∧
      ({ output := { chunkSize := 18446744073709551615 } } : Settings).save ⟨[], []⟩ "/c" =
        (.error (.misconfigured .settingsUnwritable), ⟨[], []⟩) := by
  have hroot : FileTree.AtRoot "/c" "c" := by decide
  refine ⟨?_, ?_, ?_⟩
  · have hfits : quotedSettings.Fits := ⟨by decide, by decide⟩
    have hwritable : (⟨[], []⟩ : FileTree).writable "/c" = .ok ["c"] := hroot.writable (.inl rfl)
    obtain ⟨files', text, hsave, -, hload, -⟩ :=
      (load_save quotedSettings ⟨[], []⟩ "/c").1 hfits ["c"] hwritable (by decide)
    exact ⟨files', hsave, hload⟩
  · let sel : Selection := ⟨(· = "output"), fun _ key => key = "chunk_size"⟩
    have hheader : (Toml.Statement.header ⟨⟨[], "output"⟩, false⟩).line? = some "[output]".toList := rfl
    have hsize : (Toml.Statement.assign ⟨⟨[], "chunk_size"⟩, .integer 9⟩).line? = some "chunk_size = 9".toList := rfl
    have hspelled : Toml.Spelled (sel.document quotedSettings.document).statements
        "[output]\n\nchunk_size = 9\n".toList := .line hheader (.empty (.line hsize .nil))
    have hread : (⟨[(["c"], .file "[output]\n\nchunk_size = 9\n".toUTF8)], []⟩ : FileTree).readText "/c" =
        .ok "[output]\n\nchunk_size = 9\n" := by
      apply readText_eq_ok
      rw [FileTree.read, hroot.find rfl (by simp)]
    exact (load_save quotedSettings ⟨[], []⟩ "/c").2.1 sel _ _ "/c" hspelled hread
  · have hlarge : ¬({ output := { chunkSize := 18446744073709551615 } } : Settings).Fits := fun h =>
      absurd h.chunkSize (by decide)
    exact ((load_save _ ⟨[], []⟩ "/c").2.2 hlarge).1

end CallGraph.Settings
