import Commentary.Page.Render
import Commentary.Proofs.Document.Texts

/-!
This module contains the lines of the page of a set of functions, and where the documentation of a
source is found on it.
-/

namespace Commentary

namespace FunctionDocs

theorem doc_ne_nil_of_mem_extract {v : Vocabulary} {lines : List Text} {f : FunctionDoc}
    (h : f ∈ (extract v lines).functions) : f.doc ≠ [] := by
  rw [extract_eq_ofTokens] at h
  unfold ofTokens at h
  simpa using (List.mem_filter.mp h).2

theorem orphan_extract_ne_nil (v : Vocabulary) (lines : List Text) :
    (extract v lines).orphan ≠ some [] := by
  unfold extract
  dsimp only
  split
  . simp
  . next h => simpa using h

def docLines (lines : List Text) : List Text :=
  lines.filterMap fun line => (Text.after? "///" line).map Text.dropSymbol

theorem textsOf_doc_classifyFunction (v : Vocabulary) (lines : List Text) :
    Token.textsOf [.doc] (lines.map (Source.classifyFunction v)) = docLines lines := by
  induction lines with
  | nil => rfl
  | cons line lines ih =>
    change Token.textsOf [.doc] ([Source.classifyFunction v line] ++ _) = _
    rw [Token.textsOf_append, ih]
    unfold docLines
    rw [List.filterMap_cons]
    cases h : Text.after? "///" line with
    | some text => simp [Source.classifyFunction, h, Token.textsOf, Token.kind, Token.text]
    | none =>
      simp only [Source.classifyFunction, h]
      split
      . simp [Token.textsOf, Token.kind]
      . simp [Token.textsOf, Token.kind]

theorem flatMap_doc_extract (v : Vocabulary) (lines : List Text) :
    (extract v lines).functions.flatMap FunctionDoc.doc ++ (extract v lines).orphan.getD [] =
      docLines lines := by
  have hheld := Progress.held_foldl_step (lines.map (Source.classifyFunction v)) {}
  rw [foldl_step_eq_ofTokens, textsOf_doc_classifyFunction] at hheld
  rw [extract_eq_ofTokens, getD_orphan_ofTokens]
  exact hheld

theorem docLines_eq_nil_iff (v : Vocabulary) (lines : List Text) :
    docLines lines = [] ↔ (extract v lines).functions = [] ∧ (extract v lines).orphan = none := by
  rw [← flatMap_doc_extract v, List.append_eq_nil_iff]
  apply and_congr
  . constructor
    . intro h
      rw [List.eq_nil_iff_forall_not_mem]
      intro f hf
      exact doc_ne_nil_of_mem_extract hf (List.flatMap_eq_nil_iff.mp h f hf)
    . intro h
      rw [h]
      rfl
  . have hne := orphan_extract_ne_nil v lines
    cases horphan : (extract v lines).orphan with
    | none => simp
    | some doc =>
      rw [horphan] at hne
      simpa using hne

end FunctionDocs

namespace Page

variable {headingStart : Text}

theorem split_functionEntry_append {f : FunctionDoc} (hstart : Text.lf ∉ headingStart)
    (hname : Text.lf ∉ f.name) (hdoc : ∀ line ∈ f.doc, Text.lf ∉ line) (hne : f.doc ≠ [])
    (rest : Text) :
    Text.split Text.lf (functionEntry headingStart f ++ rest) =
      [[], Text.ofString "### " ++ headingStart ++ f.name, []] ++ f.doc ++ Text.split Text.lf rest := by
  have hentry : functionEntry headingStart f ++ rest =
      [] ++ Text.lf :: (Text.ofString "### " ++ headingStart ++ f.name ++ Text.lf ::
        ([] ++ Text.lf :: (Text.join [Text.lf] f.doc ++ Text.lf :: rest))) := by
    have hstart : Text.ofString "\n### " = Text.lf :: Text.ofString "### " := by
      decide
    have hgap : Text.ofString "\n\n" = [Text.lf, Text.lf] := by
      decide
    unfold functionEntry
    rw [hstart, hgap]
    simp
  have hheading : Text.lf ∉ Text.ofString "### " ++ headingStart ++ f.name := by
    simp only [List.mem_append, not_or]
    refine ⟨⟨?_, hstart⟩, hname⟩
    decide
  rw [hentry]
  simp only [Text.split_append_cons]
  rw [Text.split_join hdoc hne, Text.split_of_not_mem hheading]
  simp [Text.split]

theorem split_flatMap_functionEntry_append {fs : List FunctionDoc} (hstart : Text.lf ∉ headingStart)
    (hfs : ∀ f ∈ fs, Text.lf ∉ f.name ∧ ∀ line ∈ f.doc, Text.lf ∉ line)
    (hne : ∀ f ∈ fs, f.doc ≠ []) (rest : Text) :
    Text.split Text.lf (fs.flatMap (functionEntry headingStart) ++ rest) =
      fs.flatMap (fun f => [[], Text.ofString "### " ++ headingStart ++ f.name, []] ++ f.doc)
        ++ Text.split Text.lf rest := by
  induction fs with
  | nil => rfl
  | cons f fs ih =>
    simp only [List.forall_mem_cons] at hfs hne
    simp only [List.flatMap_cons, List.append_assoc]
    rw [split_functionEntry_append hstart hfs.1.1 hfs.1.2 hne.1, ih hfs.2 hne.2]
    simp

theorem functions_eq_nil_iff (d : FunctionDocs) :
    functions headingStart d = [] ↔ d.functions = [] ∧ d.orphan = none := by
  unfold functions
  cases d.functions with
  | nil => cases d.orphan <;> simp
  | cons f fs => simp [functionEntry]

/--
The lines of the page of a source. The lines of documentation stand on it in the order of the source,
each of them once, and the page is empty if there is none.
-/
theorem split_functions_extract (v : Vocabulary) (text headingStart : Text)
    (hstart : Text.lf ∉ headingStart) :
    Text.split Text.lf (functions headingStart (FunctionDocs.extract v text.lines)) =
        (FunctionDocs.extract v text.lines).functions.flatMap
            (fun f => [[], Text.ofString "### " ++ headingStart ++ f.name, []] ++ f.doc)
          ++ (FunctionDocs.extract v text.lines).orphan.getD [] ++ [[]]
      ∧ (FunctionDocs.extract v text.lines).functions.flatMap FunctionDoc.doc
            ++ (FunctionDocs.extract v text.lines).orphan.getD [] =
          text.lines.filterMap (fun line => (Text.after? "///" line).map Text.dropSymbol)
      ∧ (functions headingStart (FunctionDocs.extract v text.lines) = []
          ↔ ∀ line ∈ text.lines, Text.after? "///" line = none) := by
  obtain ⟨hfunctions, horphan⟩ := FunctionDocs.lf_not_mem_extract v text
  have hne := FunctionDocs.orphan_extract_ne_nil v text.lines
  refine ⟨?_, FunctionDocs.flatMap_doc_extract v text.lines, ?_⟩
  . unfold functions
    rw [split_flatMap_functionEntry_append hstart hfunctions
      (fun f => FunctionDocs.doc_ne_nil_of_mem_extract), List.append_assoc]
    cases hdocs : (FunctionDocs.extract v text.lines).orphan with
    | none => rfl
    | some doc =>
      rw [hdocs] at horphan hne
      rw [Option.getD_some] at horphan
      rw [Text.split_append_cons, Text.split_join horphan (by simpa using hne)]
      rfl
  . rw [functions_eq_nil_iff, ← FunctionDocs.docLines_eq_nil_iff]
    simp [FunctionDocs.docLines]

def orphanedSource : Text :=
  Text.ofString "/// a\n///\npub fn f<T>(x: T) \x7b\x7d\npub fn g() \x7b\x7d\n///"
    ++ 0xff :: Text.ofString "b\n"

theorem split_functions_orphanedSource :
    Text.lf ∉ Text.ofString "util."
      ∧ Text.split Text.lf (functions "util." (FunctionDocs.extract {} orphanedSource.lines)) =
          [[], Text.ofString "### util.f", [], Text.ofString "a", [], Text.ofString "b", []] := by
  have hstart : Text.lf ∉ Text.ofString "util." := by
    decide
  refine ⟨hstart, ?_⟩
  rw [(split_functions_extract {} orphanedSource "util." hstart).1]
  decide +kernel

end Page

end Commentary
