import CallGraph.Proofs.ClassNames
import CallGraph.Proofs.Lists
import CallGraph.Proofs.Positions
/-!
# Signatures as text

The text of a signature has no marks between its parts. For signatures in the form of class files it can be taken apart
all the same: the last dot stands behind the class, and the first parenthesis after it behind the name. So a record tells
which methods its edge joins: `text_identifies`.
-/

namespace CallGraph

namespace ClassName

/-- A class name in the form in which class files give it: marked in front, unmarked behind, and without dots. -/
structure Marked (name : String) : Prop where
  exists_bare : ∃ c : String, name = "L" ++ c ∧ '.' ∉ c.toList ∧ c.toList.getLast? ≠ some ';'

/-- Where there was no dot, each dot was a slash. -/
theorem map_dot_inj {cs cs' : List Char} (hcs : '.' ∉ cs) (hcs' : '.' ∉ cs')
    (h : cs.map (fun c => if c = '/' then '.' else c) = cs'.map fun c => if c = '/' then '.' else c) : cs = cs' := by
  have hback {ds : List Char} (hds : '.' ∉ ds) :
      (ds.map fun c => if c = '/' then '.' else c).map (fun c => if c = '.' then '/' else c) = ds := by
    rw [List.map_map]
    refine (List.map_congr_left fun c hc => ?_).trans (List.map_id ds)
    have hdot : c ≠ '.' := ne_of_mem_of_not_mem hc hds
    by_cases hslash : c = '/' <;> simp [hslash, hdot]
  rw [← hback hcs, h, hback hcs']

theorem dotted_inj {n n' : String} (hn : Marked n) (hn' : Marked n') (h : dotted n = dotted n') : n = n' := by
  obtain ⟨c, rfl, hdot, hlast⟩ := hn
  obtain ⟨c', rfl, hdot', hlast'⟩ := hn'
  have hchars := String.ofList_injective h
  rw [bare_front, bare_front, Text.dropLast_of_last hlast, Text.dropLast_of_last hlast'] at hchars
  rw [String.toList_inj.1 (map_dot_inj hdot hdot' hchars)]

end ClassName

namespace Signature

/-- A signature in the form in which class files give it. -/
structure JvmForm (s : Signature) : Prop where
  declaringClass : ClassName.Marked s.declaringClass
  name_dot : '.' ∉ s.name.toList
  name_parenthesis : '(' ∉ s.name.toList
  descriptor_head : s.descriptor.toList.head? = some '('
  descriptor_dot : '.' ∉ s.descriptor.toList

theorem JvmForm.dot_notMem {s : Signature} (h : s.JvmForm) : '.' ∉ s.name.toList ++ s.descriptor.toList := by
  simpa using ⟨h.name_dot, h.descriptor_dot⟩

theorem toList_text (s : Signature) :
    s.text.toList = (ClassName.dotted s.declaringClass).toList ++ '.' :: (s.name.toList ++ s.descriptor.toList) := by
  simp [text]

/-- Signatures in the form of class files that have the same text are the same. -/
theorem JvmForm.text_inj {s s' : Signature} (h : s.JvmForm) (h' : s'.JvmForm) (htext : s.text = s'.text) : s = s' := by
  have hchars := congrArg String.toList htext
  rw [toList_text, toList_text] at hchars
  obtain ⟨hclass, hrest⟩ := append_cons_inj_last h.dot_notMem h'.dot_notMem hchars
  obtain ⟨ps, hps⟩ := List.head?_eq_some_iff.1 h.descriptor_head
  obtain ⟨ps', hps'⟩ := List.head?_eq_some_iff.1 h'.descriptor_head
  rw [hps, hps'] at hrest
  obtain ⟨hname, hparameters⟩ := append_cons_inj_first h.name_parenthesis h'.name_parenthesis hrest
  have hdescriptor : s.descriptor.toList = s'.descriptor.toList := by rw [hps, hps', hparameters]
  obtain ⟨c, n, d⟩ := s
  obtain ⟨c', n', d'⟩ := s'
  obtain rfl : c = c' := ClassName.dotted_inj h.declaringClass h'.declaringClass (String.toList_inj.1 hclass)
  obtain rfl : n = n' := String.toList_inj.1 hname
  obtain rfl : d = d' := String.toList_inj.1 hdescriptor
  rfl

end Signature

/-! ## Main theorem -/

/-- A record tells which methods the edge at a position joins: of all signatures in the form of class files, the text of
its caller is that of the calling method only, and the text of its target that of the called method only. -/
def Position.Identified (g : Graph) (p : Position) (r : Record) : Prop :=
  ∃ n s target m n' m', p.At g.nodes.toList n s target ∧ g.method? n.method = some m ∧
    g.node? target = some n' ∧ g.method? n'.method = some m' ∧
    ∀ other : Signature, other.JvmForm →
      (r.caller = other.text ↔ m.signature = other) ∧ (r.target = other.text ↔ m'.signature = other)

theorem Position.Told.identified {g : Graph} {p : Position} {r : Record} (h : p.Told g r)
    (hform : ∀ id m, g.method? id = some m → m.signature.JvmForm) : p.Identified g r := by
  obtain ⟨n, s, target, m, n', m', hplace, hm, hn', hm', hcaller, htarget⟩ := h
  refine ⟨n, s, target, m, n', m', hplace, hm, hn', hm', fun other hother => ?_⟩
  rw [hcaller, htarget]
  exact ⟨⟨(hform _ m hm).text_inj hother, congrArg Signature.text⟩,
    ⟨(hform _ m' hm').text_inj hother, congrArg Signature.text⟩⟩

/-- Different methods have different texts, if their signatures are in the form of class files, and so have they in the
records of a walk: one record for each edge whose caller is not left out, from which both its methods can be told. -/
theorem text_identifies :
    (∀ s s' : Signature, s.JvmForm → s'.JvmForm → s.text = s'.text → s = s') ∧
      ∀ (g : Graph) (locator : Locator) (options : Settings.Resolution) (w : Walk) (files : Nat → FileTree),
        Walk.start g locator options = .ok w → (∀ id m, g.method? id = some m → m.signature.JvmForm) →
        List.Forall₂ (Position.Identified g) (Position.ofNodes (!g.leavesOut options ·) g.nodes.toList)
          (w.drain files).1 := by
  refine ⟨fun s s' h h' => h.text_inj h', fun g locator options w files hw hform => ?_⟩
  obtain ⟨hsound, rfl⟩ := Walk.start_eq_ok hw
  obtain ⟨hnames, -⟩ := Walk.drain_names files { graph := g, options, locator, ahead := g.nodes.toList }
  have htold : ∀ p e r, Position.Of g p e → Edge.Names g e r → Position.Identified g p r :=
    fun p e r hp hr => (hsound.told hp hr).identified hform
  exact forall₂_trans htold (hsound.forall₂_ofNodes options) hnames

theorem loopGraph_jvmForm (id : MethodId) (m : Method) (h : loopGraph.method? id = some m) : m.signature.JvmForm := by
  have hmethod : m.signature = ⟨"LA", "f", "()V"⟩ := by
    rw [loopGraph, Graph.method?_addNode, Graph.method?_addMethod] at h
    split at h
    · simpa [Graph.method?, Graph.empty, eq_comm] using congrArg (Option.map Method.signature) h
    · simp [Graph.method?, Graph.empty] at h
  rw [hmethod]
  exact ⟨⟨"A", by decide, by decide, by decide⟩, by decide, by decide, by decide, by decide⟩

/-- Overloads are told apart, and the three records of a method that calls itself name it alone. -/
theorem text_identifies_overloads :
    (⟨"Lp/A", "run", "()V"⟩ : Signature).text ≠ (⟨"Lp/A", "run", "(I)V"⟩ : Signature).text ∧
      ∃ w, Walk.start loopGraph (.ofArchives [] .first) {} = .ok w ∧
        List.Forall₂ (Position.Identified loopGraph)
          (Position.ofNodes (!loopGraph.leavesOut {} ·) loopGraph.nodes.toList) (w.drain fun _ => ⟨[], []⟩).1 := by
  have hform (descriptor : String) (hhead : descriptor.toList.head? = some '(') (hdot : '.' ∉ descriptor.toList) :
      (⟨"Lp/A", "run", descriptor⟩ : Signature).JvmForm :=
    ⟨⟨"p/A", by simp, by simp, by simp⟩, by simp, by simp, hhead, hdot⟩
  refine ⟨fun htext => ?_, ?_⟩
  · have hsame := text_identifies.1 _ _ (hform "()V" (by simp) (by simp)) (hform "(I)V" (by simp) (by simp)) htext
    simp at hsame
  · have hstart : Walk.start loopGraph (.ofArchives [] .first) {} =
        .ok { graph := loopGraph, options := {}, locator := .ofArchives [] .first, ahead := loopGraph.nodes.toList } := by
      rw [Walk.start, loopGraph.check_eq_ok_iff.2 loopGraph_sound]
      rfl
    exact ⟨_, hstart, text_identifies.2 loopGraph _ _ _ _ hstart loopGraph_jvmForm⟩

end CallGraph
