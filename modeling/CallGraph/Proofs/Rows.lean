import CallGraph.Output.Rows
import CallGraph.Proofs.Json
/-!
# Reading records back

What a file of records shows can be read from its bytes: `decode_text`. By the grammar of JSON the file is one array with an
object for each record, and nothing else: `document_text_iff`. A reader of tab-separated values takes it by lines and
fields, which are told apart because no field has a tab or a line end in it.
-/

namespace CallGraph

/-- A record as a file shows it. -/
inductive Row
  | object (caller callSite target : String) (targetContext : List String)
  | line (fields : List String)
  deriving DecidableEq, Repr

namespace Encoding

/-- The rows of a file, in pieces. -/
def rows (e : Encoding) (rs : List Record) : List String := rs.zipIdx.flatMap fun x => e.row x.2 x.1

/-- What a file with these records says. -/
def text (e : Encoding) (rs : List Record) : String := String.join (e.opening ++ e.rows rs ++ e.closing)

theorem rows_concat (e : Encoding) (rs : List Record) (r : Record) :
    e.rows (rs ++ [r]) = e.rows rs ++ e.row rs.length r := by
  simp [rows, List.zipIdx_append]

/-- No file of records is empty. -/
theorem text_ne_empty (e : Encoding) (rs : List Record) : (e.text rs).toUTF8 ≠ .empty := by
  intro h
  have htext : e.text rs = "" := String.toByteArray_inj.1 h
  have hlist : (e.text rs).toList = [] := by rw [htext, String.toList_empty]
  cases e <;> simp [text, opening, String.toList_join, Tsv.header] at hlist

/-- What a record looks like in a file. -/
def view (r : Record) : Encoding → Row
  | json => .object r.caller r.callSite r.target r.targetContext
  | tsv => .line [Tsv.sanitize r.caller, Tsv.sanitize r.callSite, Tsv.contextText r.callerContext,
      Tsv.sanitize r.target, Tsv.contextText r.targetContext]

end Encoding

/-! ## JSON -/

namespace Json

/-- The row that an object shows; it must have its four members. -/
def row? (j : Json) : Option Row :=
  match fields? ["caller", "callInstruction", "actualTarget", "contexts"] j with
  | some [c, i, t, x] => do
    return .object (← required text? c) (← required text? i) (← required text? t) (← required (list? text?) x)
  | _ => none

/-- A record as a value. -/
def ofRecord (r : Record) : Json :=
  .object [(some "caller", .string (some r.caller)), (some "callInstruction", .string (some r.callSite)),
    (some "actualTarget", .string (some r.target)),
    (some "contexts", .array (r.targetContext.map fun frame => .string (some frame)))]

theorem list?_text? (frames : List String) :
    list? text? (.array (frames.map fun frame => .string (some frame))) = some frames := by
  rw [list?]
  induction frames with
  | nil => rfl
  | cons frame frames ih => rw [List.map_cons, List.mapM_cons, ih]; rfl

theorem row?_ofRecord (r : Record) : row? (ofRecord r) = some (Encoding.json.view r) := by
  have hcontexts := list?_text? r.targetContext
  simp only [row?, ofRecord]
  generalize Json.array (r.targetContext.map fun frame => .string (some frame)) = contexts at hcontexts ⊢
  simp [fields?, member?, List.mapM_cons, required, hcontexts, text?, Encoding.view]

def recordText (r : Record) : List Char := (recordPieces r).flatMap String.toList

theorem toList_elementPieces (values : List (List String)) :
    (elementPieces values).flatMap String.toList = listed (values.map fun v => v.flatMap String.toList) := by
  induction values with
  | nil => rfl
  | cons v values ih =>
    cases values with
    | nil => simp [elementPieces, listed]
    | cons next values =>
      rw [elementPieces, List.flatMap_append, List.flatMap_cons, ih]
      · simp [listed]
      · simp

theorem spells_frames (frames : List String) : Spells ((stringListPieces frames).flatMap String.toList)
    (.value (.array (frames.map fun frame => .string (some frame)))) := by
  have htext : (stringListPieces frames).flatMap String.toList = '[' :: (listed (frames.map quoted) ++ [']']) := by
    have hquoted : (frames.map stringPieces).map (fun v => v.flatMap String.toList) = frames.map quoted := by
      rw [List.map_map]
      exact List.map_congr_left fun frame _ => toList_stringPieces frame
    rw [← hquoted, ← toList_elementPieces]
    simp [stringListPieces]
  rw [htext]
  apply spells_array
  rw [List.forall₂_map_left_iff, List.forall₂_map_right_iff, List.forall₂_same]
  exact fun frame _ => spells_quoted frame

theorem spells_record (r : Record) : Spells (recordText r) (.value (ofRecord r)) := by
  let members : List (String × List Char) := [("caller", quoted r.caller), ("callInstruction", quoted r.callSite),
    ("actualTarget", quoted r.target), ("contexts", (stringListPieces r.targetContext).flatMap String.toList)]
  have htext : recordText r = '\x7b' :: (listed (members.map fun m => memberText m.1 m.2) ++ ['\x7d']) := by
    simp [recordText, recordPieces, memberPieces, toList_stringPieces, members, listed, memberText]
  rw [htext]
  have hspells : List.Forall₂ (fun m j => Spells m.2 (.value j)) members [.string (some r.caller),
      .string (some r.callSite), .string (some r.target),
      .array (r.targetContext.map fun frame => .string (some frame))] :=
    .cons (spells_quoted _) (.cons (spells_quoted _) (.cons (spells_quoted _) (.cons (spells_frames _) .nil)))
  exact spells_object hspells (List.cons_ne_nil _ _)

theorem toList_rows (rs : List Record) :
    (Encoding.json.rows rs).flatMap String.toList = listed (rs.map recordText) := by
  cases rs with
  | nil => rfl
  | cons r rs =>
    have hrest (k : Nat) : ((rs.zipIdx (k + 1)).flatMap fun x => Encoding.json.row x.2 x.1).flatMap String.toList =
        (rs.map recordText).flatMap fun text => ',' :: text := by
      induction rs generalizing k with
      | nil => rfl
      | cons r rs ih =>
        rw [List.zipIdx_cons, List.flatMap_cons, List.flatMap_append, ih (k + 1)]
        simp [Encoding.row, recordText]
    rw [Encoding.rows, List.zipIdx_cons, List.flatMap_cons, List.flatMap_append, hrest 0]
    simp [Encoding.row, listed, recordText]

theorem toList_text (rs : List Record) :
    (Encoding.json.text rs).toList = '[' :: (listed (rs.map recordText) ++ [']']) := by
  have hrows := toList_rows rs
  simp [Encoding.text, Encoding.opening, Encoding.closing, hrows]

theorem document_text (rs : List Record) : Document (Encoding.json.text rs).toList (.array (rs.map ofRecord)) := by
  rw [toList_text]
  apply Spells.alone
  apply spells_array
  rw [List.forall₂_map_left_iff, List.forall₂_map_right_iff, List.forall₂_same]
  exact fun r _ => spells_record r

/-- A file of records is a JSON document: an array of objects which have the strings of the records, and nothing else. -/
theorem document_text_iff (rs : List Record) :
    (∀ j, Document (Encoding.json.text rs).toList j ↔
      j = .array (rs.map fun r => .object [(some "caller", .string (some r.caller)),
        (some "callInstruction", .string (some r.callSite)), (some "actualTarget", .string (some r.target)),
        (some "contexts", .array (r.targetContext.map fun frame => .string (some frame)))])) ∧
    ofBytes? (Encoding.json.text rs).toUTF8 =
      some (.array (rs.map fun r => .object [(some "caller", .string (some r.caller)),
        (some "callInstruction", .string (some r.callSite)), (some "actualTarget", .string (some r.target)),
        (some "contexts", .array (r.targetContext.map fun frame => .string (some frame)))])) := by
  have hdocument := document_text rs
  refine ⟨fun j => ⟨fun hj => hj.unique hdocument, ?_⟩, hdocument.ofBytes?⟩
  rintro rfl
  exact hdocument

theorem mapM_row? (rs : List Record) : (rs.map ofRecord).mapM row? = some (rs.map Encoding.json.view) := by
  induction rs with
  | nil => rfl
  | cons r rs ih => simp [List.mapM_cons, row?_ofRecord, ih]

end Json

/-! ## Tab-separated values -/

namespace Tsv

/-- The row that a line shows; it must have five fields. -/
def row? (line : List Char) : Option Row :=
  let fields := line.splitOn '\t'
  if fields.length = 5 then some (.line (fields.map String.ofList)) else none

/-- The rows of a text behind its header. -/
def rows? (text : String) : Option (List Row) :=
  match Text.lines text.toList with
  | [] => none
  | first :: rest => if String.ofList (first ++ ['\n']) = header then rest.mapM row? else none

/-- Nothing in a field ends it, or its line. -/
def Clean (cs : List Char) : Prop := ∀ c ∈ cs, c ≠ '\t' ∧ c ≠ '\n' ∧ c ≠ '\r'

theorem Clean.of_all {cs : List Char} (h : (cs.all fun c => c ≠ '\t' ∧ c ≠ '\n' ∧ c ≠ '\r') = true) : Clean cs := by
  simpa [Clean] using h

theorem clean_sanitize (field : String) : Clean (sanitize field).toList := by
  intro c hc
  rw [sanitize, String.toList_ofList, List.mem_map] at hc
  obtain ⟨d, -, rfl⟩ := hc
  split
  · decide
  · next h => simpa [not_or] using h

theorem clean_join {fields : List String} (h : ∀ f ∈ fields, Clean f.toList) : Clean (Text.join ", " fields).toList := by
  induction fields with
  | nil => simp [Text.join, Clean]
  | cons f fields ih =>
    have hf := h f List.mem_cons_self
    have hfields := ih fun f' hf' => h f' (List.mem_cons_of_mem _ hf')
    cases fields with
    | nil => exact hf
    | cons next fields =>
      have hjoin : Text.join ", " (f :: next :: fields) = f ++ ", " ++ Text.join ", " (next :: fields) := rfl
      intro c hc
      simp only [hjoin, String.toList_append, List.mem_append] at hc
      rcases hc with (hc | hc) | hc
      · exact hf c hc
      · have hsep : Clean (", " : String).toList := .of_all (by decide)
        exact hsep c hc
      · exact hfields c hc

theorem clean_contextText (frames : List String) : Clean (contextText frames).toList := by
  have hframes : Clean (Text.join ", " (frames.map sanitize)).toList := by
    apply clean_join
    intro f hf
    obtain ⟨frame, -, rfl⟩ := List.mem_map.1 hf
    exact clean_sanitize frame
  intro c hc
  rw [contextText, String.toList_append, String.toList_append, List.mem_append, List.mem_append] at hc
  rcases hc with (hc | hc) | hc
  · have hopen : Clean ("[" : String).toList := .of_all (by decide)
    exact hopen c hc
  · exact hframes c hc
  · have hclose : Clean ("]" : String).toList := .of_all (by decide)
    exact hclose c hc

def fields (r : Record) : List String :=
  [sanitize r.caller, sanitize r.callSite, contextText r.callerContext, sanitize r.target, contextText r.targetContext]

theorem clean_fields {r : Record} {f : String} (h : f ∈ fields r) : Clean f.toList := by
  simp only [fields, List.mem_cons, List.not_mem_nil, or_false] at h
  rcases h with rfl | rfl | rfl | rfl | rfl
  · exact clean_sanitize _
  · exact clean_sanitize _
  · exact clean_contextText _
  · exact clean_sanitize _
  · exact clean_contextText _

def lineText (r : Record) : List Char := ['\t'].intercalate ((fields r).map String.toList)

theorem lineText_eq (r : Record) : (recordPieces r).flatMap String.toList = lineText r ++ ['\n'] := by
  simp [recordPieces, lineText, fields, List.intercalate]

theorem splitOn_lineText (r : Record) : (lineText r).splitOn '\t' = (fields r).map String.toList := by
  refine List.splitOn_intercalate '\t' (fun l hl htab => ?_) (by simp [fields])
  obtain ⟨f, hf, rfl⟩ := List.mem_map.1 hl
  exact (clean_fields hf _ htab).1 rfl

theorem row?_lineText (r : Record) : row? (lineText r) = some (Encoding.tsv.view r) := by
  rw [row?, splitOn_lineText]
  simp [fields, Encoding.view]

theorem splitOn_flatMap {ls : List (List Char)} (h : ∀ l ∈ ls, '\n' ∉ l) :
    (ls.flatMap (· ++ ['\n'])).splitOn '\n' = ls ++ [[]] := by
  induction ls with
  | nil => rfl
  | cons l ls ih =>
    rw [List.flatMap_cons, List.append_assoc, List.singleton_append,
      List.splitOn_append_cons_self_of_not_mem (h l List.mem_cons_self),
      ih fun l' hl' => h l' (List.mem_cons_of_mem _ hl'), List.cons_append]

theorem lines_flatMap {ls : List (List Char)} (h : ∀ l ∈ ls, '\n' ∉ l ∧ '\r' ∉ l) :
    Text.lines (ls.flatMap (· ++ ['\n'])) = ls := by
  have hsplit := splitOn_flatMap fun l hl => (h l hl).1
  have hreturn : ls.map (Text.dropLast '\r') = ls := by
    conv_rhs => rw [← List.map_id ls]
    refine List.map_congr_left fun l hl => ?_
    rw [Text.dropLast, if_neg, id]
    exact fun hlast => (h l hl).2 (List.mem_of_getLast? hlast)
  rw [Text.lines, hsplit]
  simp [hreturn]

theorem clean_lineText (r : Record) : '\n' ∉ lineText r ∧ '\r' ∉ lineText r := by
  have htext : lineText r = (sanitize r.caller).toList ++ '\t' :: ((sanitize r.callSite).toList ++ '\t' ::
      ((contextText r.callerContext).toList ++ '\t' :: ((sanitize r.target).toList ++ '\t' ::
        (contextText r.targetContext).toList))) := by
    simp [lineText, fields, List.intercalate]
  have hclean : ∀ c ∈ lineText r, c ≠ '\n' ∧ c ≠ '\r' := by
    intro c hc
    rw [htext] at hc
    simp only [List.mem_append, List.mem_cons] at hc
    rcases hc with hc | rfl | hc | rfl | hc | rfl | hc | rfl | hc
    · exact (clean_sanitize _ c hc).2
    · decide
    · exact (clean_sanitize _ c hc).2
    · decide
    · exact (clean_contextText _ c hc).2
    · decide
    · exact (clean_sanitize _ c hc).2
    · decide
    · exact (clean_contextText _ c hc).2
  exact ⟨fun h => (hclean _ h).1 rfl, fun h => (hclean _ h).2 rfl⟩

def headerLine : String := "caller\tcallsite\tcalling_context\ttarget\ttarget_context"

theorem toList_header : header.toList = headerLine.toList ++ ['\n'] := by simp [header, headerLine]

theorem clean_lines (rs : List Record) : ∀ l ∈ headerLine.toList :: rs.map lineText, '\n' ∉ l ∧ '\r' ∉ l := by
  intro l hl
  rcases List.mem_cons.1 hl with rfl | hl
  · simp [headerLine]
  · obtain ⟨r, -, rfl⟩ := List.mem_map.1 hl
    exact clean_lineText r

theorem toList_text (rs : List Record) :
    (Encoding.tsv.text rs).toList = (headerLine.toList :: rs.map lineText).flatMap (· ++ ['\n']) := by
  have hrows : Encoding.tsv.rows rs = rs.flatMap recordPieces := by
    conv_rhs => rw [← List.zipIdx_map_fst 0 rs, List.flatMap_map]
    rfl
  have hlines : (rs.flatMap recordPieces).flatMap String.toList = (rs.map lineText).flatMap (· ++ ['\n']) := by
    rw [List.flatMap_assoc, List.flatMap_map]
    exact List.flatMap_congr fun r _ => lineText_eq r
  rw [Encoding.text, hrows]
  simp [Encoding.opening, Encoding.closing, hlines, toList_header]

theorem rows?_text (rs : List Record) : rows? (Encoding.tsv.text rs) = some (rs.map Encoding.tsv.view) := by
  have hheader : String.ofList (headerLine.toList ++ ['\n']) = header := by
    rw [← toList_header, String.ofList_toList]
  have hrows : (rs.map lineText).mapM row? = some (rs.map Encoding.tsv.view) := by
    induction rs with
    | nil => rfl
    | cons r rs ih => rw [List.map_cons, List.mapM_cons, row?_lineText, ih]; rfl
  rw [rows?, toList_text, lines_flatMap (clean_lines rs)]
  dsimp only
  rw [if_pos hheader, hrows]

end Tsv

namespace Encoding

/-- The rows that the bytes of a file show. -/
def decode (bytes : ByteArray) : Encoding → Option (List Row)
  | json => (Json.ofBytes? bytes).bind (Json.list? Json.row?)
  | tsv => (String.fromUTF8? bytes).bind Tsv.rows?

/-- What was written is read back. -/
theorem decode_text (e : Encoding) (rs : List Record) : e.decode (e.text rs).toUTF8 = some (rs.map e.view) := by
  cases e with
  | json =>
    rw [decode, (Json.document_text rs).ofBytes?, Option.bind_some, Json.list?, Json.mapM_row?]
  | tsv => rw [decode, fromUTF8?_toUTF8, Option.bind_some, Tsv.rows?_text]

/-- What is written of a record is what it looks like. -/
theorem row_congr {e : Encoding} {r r' : Record} (h : e.view r = e.view r') (position : Nat) :
    e.row position r = e.row position r' := by
  cases e with
  | json =>
    obtain ⟨hcaller, hsite, htarget, hcontext⟩ := Row.object.inj h
    simp only [row, Json.recordPieces, hcaller, hsite, htarget, hcontext]
  | tsv =>
    have hfields : Tsv.fields r = Tsv.fields r' := Row.line.inj h
    simp only [Tsv.fields, List.cons.injEq, and_true] at hfields
    obtain ⟨hcaller, hsite, hcallerContext, htarget, htargetContext⟩ := hfields
    simp only [row, Tsv.recordPieces, hcaller, hsite, hcallerContext, htarget, htargetContext]

end Encoding

end CallGraph
