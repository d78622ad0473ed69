import CallGraph.Proofs.Rows
/-!
# Files as tables

A file of tab-separated values is a header line and one line for each record, five fields each: `text_table`. What stands
in the strings of a record makes no difference to that, for the fields have a blank where the strings have a tab or a
line end.
-/

namespace CallGraph.Tsv

/-- The second text is the first with a blank for each tab, line feed and carriage return. -/
def Blanked : List Char → List Char → Prop :=
  List.Forall₂ fun original shown => shown = if original ∈ ['\t', '\n', '\r'] then ' ' else original

/-- The field is a list of the frames between brackets. -/
def Bracketed (frames : List String) (field : List Char) : Prop :=
  ∃ shown, List.Forall₂ (fun frame part => Blanked frame.toList part) frames shown ∧
    field = '[' :: ([',', ' '].intercalate shown ++ [']'])

/-- The fields of the line are those of the record. -/
def Shows (r : Record) (line : List Char) : Prop :=
  ∃ caller callSite callerContext target targetContext,
    line.splitOn '\t' = [caller, callSite, callerContext, target, targetContext] ∧
    Blanked r.caller.toList caller ∧ Blanked r.callSite.toList callSite ∧ Bracketed r.callerContext callerContext ∧
    Blanked r.target.toList target ∧ Bracketed r.targetContext targetContext

theorem blanked_sanitize (field : String) : Blanked field.toList (sanitize field).toList := by
  rw [sanitize, String.toList_ofList, Blanked, List.forall₂_map_right_iff, List.forall₂_same]
  intro c _
  simp

theorem bracketed_contextText (frames : List String) : Bracketed frames (contextText frames).toList := by
  refine ⟨(frames.map sanitize).map String.toList, ?_, ?_⟩
  · rw [List.forall₂_map_right_iff, List.forall₂_map_right_iff, List.forall₂_same]
    exact fun frame _ => blanked_sanitize frame
  · simp [contextText, Text.toList_join]

theorem shows_lineText (r : Record) : Shows r (lineText r) := by
  refine ⟨_, _, _, _, _, splitOn_lineText r, ?_, ?_, ?_, ?_, ?_⟩
  · exact blanked_sanitize r.caller
  · exact blanked_sanitize r.callSite
  · exact bracketed_contextText r.callerContext
  · exact blanked_sanitize r.target
  · exact bracketed_contextText r.targetContext

theorem Shows.length_splitOn {r : Record} {line : List Char} (h : Shows r line) : (line.splitOn '\t').length = 5 := by
  obtain ⟨_, _, _, _, _, hsplit, -⟩ := h
  rw [hsplit]
  rfl

/-- A file of `n` records is `n + 1` lines of five fields, and the lines behind the header show the records in order. -/
theorem text_table (rs : List Record) :
    ∃ first lines, header.toList = first ++ ['\n'] ∧
      (Encoding.tsv.text rs).toList.splitOn '\n' = first :: lines ++ [[]] ∧ lines.length = rs.length ∧
      (∀ line ∈ first :: lines, '\n' ∉ line ∧ '\r' ∉ line ∧ (line.splitOn '\t').length = 5) ∧
      List.Forall₂ Shows rs lines := by
  have hclean := clean_lines rs
  refine ⟨headerLine.toList, rs.map lineText, toList_header, ?_, List.length_map _, ?_, ?_⟩
  · rw [toList_text, splitOn_flatMap fun line hline => (hclean line hline).1]
  · intro line hline
    refine ⟨(hclean line hline).1, (hclean line hline).2, ?_⟩
    rcases List.mem_cons.1 hline with rfl | hline
    · simp [headerLine, List.splitOn_cons_eq_if_modifyHead]
    · obtain ⟨r, -, rfl⟩ := List.mem_map.1 hline
      exact (shows_lineText r).length_splitOn
  · rw [List.forall₂_map_right_iff, List.forall₂_same]
    exact fun r _ => shows_lineText r

end CallGraph.Tsv
